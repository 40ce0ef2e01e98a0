import BoardDiag.Machine.CString

/-!
# Test ids

`common/generateTestId.c`: a test is named by a string and addressed by the
32-bit FNV-1a hash of that string.  Nothing in the framework resolves a
collision, so everything that goes through an id goes through this function.
-/

namespace BoardDiag

open Machine

/-- `FNV_PRIME_32`. -/
def fnvPrime32 : BitVec 32 := 16777619#32

/-- `FNV_OFFSET_32`. -/
def fnvOffset32 : BitVec 32 := 2166136261#32

/-- One round of the hash: xor the next byte in, multiply by the prime. -/
def fnvRound (hash : BitVec 32) (b : Byte) : BitVec 32 :=
  (hash ^^^ b.setWidth 32) * fnvPrime32

/-- `FNV32(ptr, len)`: the rounds over the first `len` bytes. -/
def fnv32 (ptr : List Byte) (len : ℕ) : BitVec 32 :=
  (ptr.take len).foldl fnvRound fnvOffset32

/-- The body of the loop of `FNV32`, on the state `hash`. -/
def fnv32Body (ptr : List Byte) (i : BitVec 32) : Prog (BitVec 32) (Option Unit) := do
  let b ← fetch ptr i.toNat
  modify fun hash => fnvRound hash b
  return none

/-- The loop of `FNV32(ptr, len)` as it is written, on the state `hash`.  The counter is a
`uint32_t`, whatever the width of `len`. -/
def fnv32Loop (ptr : List Byte) (len fuel : ℕ) : Prog (BitVec 32) (Option Unit) :=
  whileFuel (fun i : BitVec 32 => decide (i.toNat < len)) (fun i => i + 1) (fnv32Body ptr) fuel 0

/-- `CalculateTestIdHash(name)`.  The length is a `uint32_t`, and so is the id:
the `unsigned long` it is returned as is never larger. -/
def calculateTestIdHash (name : CString) : BitVec 32 :=
  fnv32 name.bytes (name.strlen % 2 ^ 32)

end BoardDiag
