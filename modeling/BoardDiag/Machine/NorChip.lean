import BoardDiag.Machine.SerialMemory

/-!
# Serial flash

A serial flash is a serial memory that forgets with effort.  Storing a byte can only clear
bits of a cell; the bits come back when the whole sector is erased.  Both take time, and
while the flash is busy it answers questions about its status and ignores everything else.
Both also want to be announced: a command that changes cells is ignored unless writing has
been enabled, and it disables writing again.

A command is what is sent between two edges of the chip select line: an opcode, an address,
and bytes.  The flash carries it out at the second edge.  As in other serial memories, bytes
that run past the end of a page go on at its beginning.

`burn` is what storing bytes does to cells.  `programmed_eq_burn` says that a program command
that stays inside a page burns its bytes into consecutive cells.
-/

namespace BoardDiag
namespace Machine

/-! ## Burning -/

/-- Clear in each place the bits that are clear in the byte that is put there. -/
def burn : List (ℕ × Byte) → (ℕ → Byte) → ℕ → Byte
  | [], cells => cells
  | w :: ws, cells => burn ws (Function.update cells w.1 (cells w.1 &&& w.2))

theorem placed_append {ν : Type} (place : ℕ → ℕ) (xs ys : List ν) :
    placed place (xs ++ ys) = placed place xs ++ placed (fun i => place (xs.length + i)) ys := by
  rw [placed, List.mapIdx_append, placed, placed]
  simp only [Nat.add_comm]

theorem burn_append (ws vs : List (ℕ × Byte)) (cells : ℕ → Byte) :
    burn (ws ++ vs) cells = burn vs (burn ws cells) := by
  induction ws generalizing cells with
  | nil => rfl
  | cons w ws ih => exact ih _

/-- Bytes that are burnt in two parts. -/
theorem burn_placed_append (place : ℕ → ℕ) (xs ys : List Byte) (cells : ℕ → Byte) :
    burn (placed place (xs ++ ys)) cells =
      burn (placed (fun i => place (xs.length + i)) ys) (burn (placed place xs) cells) := by
  rw [placed_append, burn_append]

theorem burn_placed_of_ne {place : ℕ → ℕ} {bytes : List Byte} {x : ℕ}
    (h : ∀ i < bytes.length, place i ≠ x) (cells : ℕ → Byte) :
    burn (placed place bytes) cells x = cells x := by
  induction bytes generalizing place cells with
  | nil => rfl
  | cons b bytes ih =>
      rw [placed_cons, burn, ih fun i hi => h (i + 1) (by simpa using hi),
        Function.update_of_ne (Ne.symm (h 0 (by simp)))]

theorem burn_placed {place : ℕ → ℕ} {bytes : List Byte} {i : ℕ} (hi : i < bytes.length)
    (hinj : ∀ j < bytes.length, place j = place i → j = i) (cells : ℕ → Byte) :
    burn (placed place bytes) cells (place i) = cells (place i) &&& bytes[i] := by
  induction bytes generalizing place i cells with
  | nil => exact absurd hi (Nat.not_lt_zero i)
  | cons b bytes ih =>
      rw [placed_cons, burn]
      cases i with
      | zero =>
          rw [burn_placed_of_ne fun j hj hsame =>
            absurd (hinj (j + 1) (by simpa using hj) hsame) (Nat.succ_ne_zero j),
            Function.update_self]
          rfl
      | succ i =>
          have hne : place (i + 1) ≠ place 0 := fun hsame =>
            absurd (hinj 0 (by simp) hsame.symm) (Nat.succ_ne_zero i).symm
          have hrest := @ih (fun i => place (i + 1)) i (by simpa using hi)
            (fun j hj hsame => Nat.succ.inj (hinj (j + 1) (by simpa using hj) hsame))
            (Function.update cells (place 0) (cells (place 0) &&& b))
          rw [hrest, Function.update_of_ne hne]
          rfl

/-- **Burning a page buffer.**  Bytes for different cells can be collected first, in a buffer
that is all ones. -/
theorem burn_placed_eq_and {place : ℕ → ℕ} {bytes : List Byte}
    (hinj : ∀ i < bytes.length, ∀ j < bytes.length, place j = place i → j = i)
    (cells : ℕ → Byte) (x : ℕ) :
    burn (placed place bytes) cells x =
      cells x &&& applyWrites (placed place bytes) (fun _ => 0xFF) x := by
  by_cases hx : ∃ i < bytes.length, place i = x
  · obtain ⟨i, hi, rfl⟩ := hx
    rw [burn_placed hi (hinj i hi), applyWrites_placed hi (hinj i hi)]
  · push Not at hx
    rw [burn_placed_of_ne hx, applyWrites_placed_of_ne hx]
    exact BitVec.and_allOnes.symm

/-- A blank cell takes the byte as it is. -/
theorem burn_placed_of_blank (place : ℕ → ℕ) {bytes : List Byte} {i : ℕ} (hi : i < bytes.length)
    (hinj : ∀ j < bytes.length, place j = place i → j = i) {cells : ℕ → Byte}
    (hblank : cells (place i) = 0xFF) : burn (placed place bytes) cells (place i) = bytes[i] := by
  rw [burn_placed hi hinj, hblank]
  exact BitVec.allOnes_and

/-! ## Wiping -/

/-- Make `n` places blank. -/
def wipe (place : ℕ → ℕ) (n : ℕ) (cells : ℕ → Byte) (x : ℕ) : Byte :=
  if ∃ j < n, place j = x then 0xFF else cells x

theorem wipe_zero (place : ℕ → ℕ) (cells : ℕ → Byte) : wipe place 0 cells = cells := by
  funext x
  exact if_neg fun ⟨j, hj, _⟩ => Nat.not_lt_zero j hj

/-- Places that are made blank in two parts. -/
theorem wipe_add (place : ℕ → ℕ) (m n : ℕ) (cells : ℕ → Byte) :
    wipe place (m + n) cells = wipe (fun j => place (m + j)) n (wipe place m cells) := by
  funext x
  rw [wipe, wipe, wipe]
  have hsplit : (∃ j < m + n, place j = x) ↔
      (∃ j < n, place (m + j) = x) ∨ ∃ j < m, place j = x := by
    constructor
    · rintro ⟨j, hj, hx⟩
      by_cases hjm : j < m
      · exact .inr ⟨j, hjm, hx⟩
      · exact .inl ⟨j - m, by omega, by rwa [Nat.add_sub_cancel' (Nat.not_lt.mp hjm)]⟩
    · rintro (⟨j, hj, hx⟩ | ⟨j, hj, hx⟩)
      · exact ⟨m + j, by omega, hx⟩
      · exact ⟨j, by omega, hx⟩
  by_cases hlast : ∃ j < n, place (m + j) = x
  · rw [if_pos hlast, if_pos (hsplit.mpr (.inl hlast))]
  · rw [if_neg hlast]
    exact if_congr (hsplit.trans (or_iff_right hlast)) rfl rfl

/-! ## The flash -/

/-- `Write Enable`. -/
def opWriteEnable : Byte := 0x06

/-- `Write Disable`. -/
def opWriteDisable : Byte := 0x04

/-- `Read Status Register`. -/
def opReadStatus : Byte := 0x05

/-- What a serial flash is like: a serial memory with sectors, the opcodes of the commands
that differ from chip to chip, and how many bytes it lets pass before it answers a `read`. -/
structure NorShape extends SerialShape where
  sectorPages : ℕ
  sectorPages_pos : 0 < sectorPages
  sectorPages_dvd : sectorPages ∣ pages
  readOp : Byte
  programOp : Byte
  eraseOp : Byte
  dummyLen : ℕ
  opcodes_nodup :
    [opWriteEnable, opWriteDisable, opReadStatus, readOp, programOp, eraseOp].Nodup

/-- The state of a serial flash.  `busy` says how often the status will still say so, and
`delays` how long the commands to come will take. -/
structure NorChip where
  cells : ℕ → Byte
  writeEnabled : Bool
  busy : ℕ
  delays : ℕ → ℕ
  /-- What has been sent since the chip select line went low. -/
  sent : List Byte

namespace NorShape

variable (h : NorShape)

/-- The number of cells in a sector. -/
def sectorLen : ℕ := h.sectorPages * h.pageLen

theorem sectorLen_pos : 0 < h.sectorLen := Nat.mul_pos h.sectorPages_pos h.pageLen_pos

theorem sectorLen_dvd : h.sectorLen ∣ h.size := Nat.mul_dvd_mul_right h.sectorPages_dvd _

theorem pageLen_dvd : h.pageLen ∣ h.size := Nat.dvd_mul_left _ _

end NorShape

namespace NorChip

variable (h : NorShape) (c : NorChip)

/-- The status register. -/
def status : Byte :=
  (if c.busy = 0 then 0 else 1) ||| (if c.writeEnabled then 2 else 0)

/-- What the flash answers after what has been sent. -/
def answer : List Byte → ℕ → Byte
  | [], _ => 0xFF
  | op :: rest, i =>
      if op = opReadStatus then c.status
      else if op = h.readOp ∧ c.busy = 0 ∧ rest.length = h.addrLen + h.dummyLen then
        c.cells (h.cell (ofBytes (rest.take h.addrLen)) i)
      else 0xFF

/-- The flash begins to work on its cells. -/
def change (cells : ℕ → Byte) : NorChip :=
  { c with
    cells := cells
    writeEnabled := false
    busy := c.delays 0
    delays := fun n => c.delays (n + 1) }

/-- The cells after bytes have been stored in a page: the bytes are collected in a buffer, and
the last byte for a cell counts. -/
def programmed (a : ℕ) (data : List Byte) (x : ℕ) : Byte :=
  c.cells x &&& applyWrites (placed (h.pageCell a) data) (fun _ => 0xFF) x

/-- The cells after a sector has been erased. -/
def erased (a x : ℕ) : Byte :=
  if x / h.sectorLen = a / h.sectorLen ∧ x < h.size then 0xFF else c.cells x

/-- Carry out a command. -/
def execute : List Byte → NorChip
  | [] => c
  | op :: rest =>
      if op = opReadStatus then { c with busy := c.busy - 1 }
      else if c.busy ≠ 0 then c
      else if op = opWriteEnable then { c with writeEnabled := true }
      else if op = opWriteDisable then { c with writeEnabled := false }
      else if c.writeEnabled = true ∧ op = h.programOp ∧ h.addrLen < rest.length then
        c.change (c.programmed h (ofBytes (rest.take h.addrLen) % h.size) (rest.drop h.addrLen))
      else if c.writeEnabled = true ∧ op = h.eraseOp ∧ rest.length = h.addrLen then
        c.change (c.erased h (ofBytes rest % h.size))
      else c

/-- Some bytes to or from the flash, at the beginning of a command or not, at its end or
not. -/
def clock (begins ends : Bool) (out : List Byte) : (ℕ → Byte) × NorChip :=
  let sent := (if begins then [] else c.sent) ++ out
  (c.answer h sent, if ends then { c.execute h sent with sent := [] } else { c with sent := sent })

/-! ### Commands -/

section Commands

variable {h c}

theorem execute_writeEnable (hbusy : c.busy = 0) :
    c.execute h [opWriteEnable] = { c with writeEnabled := true } := by
  rw [execute, if_neg (by decide), if_neg (not_not.mpr hbusy), if_pos rfl]

theorem execute_writeDisable (hbusy : c.busy = 0) :
    c.execute h [opWriteDisable] = { c with writeEnabled := false } := by
  rw [execute, if_neg (by decide), if_neg (not_not.mpr hbusy), if_neg (by decide), if_pos rfl]

/-- Opcodes are told apart. -/
theorem opcodes_ne (h : NorShape) :
    (h.readOp ≠ opReadStatus ∧ h.readOp ≠ opWriteEnable ∧ h.readOp ≠ opWriteDisable ∧
      h.readOp ≠ h.programOp ∧ h.readOp ≠ h.eraseOp) ∧
    (h.programOp ≠ opReadStatus ∧ h.programOp ≠ opWriteEnable ∧ h.programOp ≠ opWriteDisable) ∧
    (h.eraseOp ≠ opReadStatus ∧ h.eraseOp ≠ opWriteEnable ∧ h.eraseOp ≠ opWriteDisable ∧
      h.eraseOp ≠ h.programOp) := by
  have hnodup := h.opcodes_nodup
  simp only [List.nodup_cons, List.mem_cons, List.not_mem_nil, or_false, not_or] at hnodup
  obtain ⟨⟨-, -, h1, h2, h3⟩, ⟨-, h4, h5, h6⟩, ⟨h7, h8, h9⟩, ⟨h10, h11⟩, h12, -⟩ := hnodup
  exact ⟨⟨Ne.symm h7, Ne.symm h1, Ne.symm h4, h10, h11⟩, ⟨Ne.symm h8, Ne.symm h2, Ne.symm h5⟩,
    Ne.symm h9, Ne.symm h3, Ne.symm h6, Ne.symm h12⟩

/-- Reading changes nothing. -/
theorem execute_read (rest : List Byte) : c.execute h (h.readOp :: rest) = c := by
  obtain ⟨⟨hstatus, henable, hdisable, hprogram, herase⟩, -, -⟩ := opcodes_ne h
  have hprogram' (p q : Prop) : ¬ (p ∧ h.readOp = h.programOp ∧ q) := fun hand => hprogram hand.2.1
  have herase' (p q : Prop) : ¬ (p ∧ h.readOp = h.eraseOp ∧ q) := fun hand => herase hand.2.1
  rw [execute, if_neg hstatus, if_neg henable, if_neg hdisable, if_neg (hprogram' _ _),
    if_neg (herase' _ _), ite_self]

/-- A reading delivers the cells, from the address on. -/
theorem answer_read (hbusy : c.busy = 0) (x : ℕ) {dummy : List Byte}
    (hdummy : dummy.length = h.dummyLen) (i : ℕ) :
    c.answer h (h.readOp :: (bigEndian h.addrLen x ++ dummy)) i = c.cells (h.cell x i) := by
  have hlen := length_bigEndian h.addrLen x
  have htake : (bigEndian h.addrLen x ++ dummy).take h.addrLen = bigEndian h.addrLen x :=
    List.take_left' hlen
  rw [answer, if_neg (opcodes_ne h).1.1,
    if_pos ⟨rfl, hbusy, by rw [List.length_append, hlen, hdummy]⟩, htake, SerialShape.cell,
    Nat.add_mod, h.ofBytes_mod_size, ← Nat.add_mod, SerialShape.cell]

/-- A program command that has been announced. -/
theorem execute_program (hbusy : c.busy = 0) (henabled : c.writeEnabled = true) (x : ℕ)
    {data : List Byte} (hdata : data ≠ []) :
    c.execute h (h.programOp :: (bigEndian h.addrLen x ++ data)) =
      c.change (c.programmed h (x % h.size) data) := by
  obtain ⟨-, ⟨hstatus, henable, hdisable⟩, -⟩ := opcodes_ne h
  have hlen := length_bigEndian h.addrLen x
  have htake : (bigEndian h.addrLen x ++ data).take h.addrLen = bigEndian h.addrLen x :=
    List.take_left' hlen
  have hdrop : (bigEndian h.addrLen x ++ data).drop h.addrLen = data := List.drop_left' hlen
  have hlong : h.addrLen < (bigEndian h.addrLen x ++ data).length := by
    rw [List.length_append, hlen]
    exact Nat.lt_add_of_pos_right (List.length_pos_of_ne_nil hdata)
  rw [execute, if_neg hstatus, if_neg (not_not.mpr hbusy), if_neg henable, if_neg hdisable,
    if_pos ⟨henabled, rfl, hlong⟩, htake, hdrop, h.ofBytes_mod_size]

/-- An erase command that has been announced. -/
theorem execute_erase (hbusy : c.busy = 0) (henabled : c.writeEnabled = true) (x : ℕ) :
    c.execute h (h.eraseOp :: bigEndian h.addrLen x) = c.change (c.erased h (x % h.size)) := by
  obtain ⟨-, -, hstatus, henable, hdisable, hprogram⟩ := opcodes_ne h
  rw [execute, if_neg hstatus, if_neg (not_not.mpr hbusy), if_neg henable, if_neg hdisable,
    if_neg fun hand => hprogram hand.2.1, if_pos ⟨henabled, rfl, length_bigEndian _ _⟩,
    h.ofBytes_mod_size]

/-- **A program command that stays inside a page** burns its bytes into consecutive cells. -/
theorem programmed_eq_burn {x : ℕ} {data : List Byte}
    (hfits : x % h.pageLen + data.length ≤ h.pageLen) :
    c.programmed h (x % h.size) data = burn (placed (h.cell x) data) c.cells := by
  have hpos := h.size_pos
  have hpage : x % h.size % h.pageLen = x % h.pageLen := Nat.mod_mod_of_dvd x h.pageLen_dvd
  have hplace : ∀ i < data.length, h.pageCell (x % h.size) i = x % h.size + i := fun i hi =>
    h.pageCell_of_le (by rw [hpage]; omega)
  have hinside : ∀ i < data.length, x % h.size + i < h.size := by
    intro i hi
    rw [← hplace i hi]
    -- a page that begins inside the flash ends inside it
    have hdiv := h.pageCell_div (x % h.size) i
    have hlt : x % h.size / h.pageLen < h.pages :=
      Nat.div_lt_of_lt_mul (by rw [Nat.mul_comm]; exact Nat.mod_lt x hpos)
    rw [← hdiv] at hlt
    exact (Nat.div_lt_iff_lt_mul h.pageLen_pos).mp hlt
  have hcell : ∀ i < data.length, h.pageCell (x % h.size) i = h.cell x i := by
    intro i hi
    rw [hplace i hi, SerialShape.cell, ← Nat.mod_add_mod, Nat.mod_eq_of_lt (hinside i hi)]
  funext y
  rw [programmed, placed_congr hcell, burn_placed_eq_and]
  intro i hi j hj hsame
  rw [← hcell i hi, ← hcell j hj, hplace i hi, hplace j hj] at hsame
  omega

/-- **An erasure at the beginning of a sector** makes as many cells blank as the sector has,
from there on. -/
theorem erased_eq_wipe {x : ℕ} (hx : h.sectorLen ∣ x) :
    c.erased h (x % h.size) = wipe (h.cell x) h.sectorLen c.cells := by
  have hpos := h.sectorLen_pos
  have hstart : h.sectorLen ∣ x % h.size := (Nat.dvd_mod_iff h.sectorLen_dvd).mpr hx
  obtain ⟨s, hs⟩ := hstart
  have hdiv : x % h.size / h.sectorLen = s := by rw [hs, Nat.mul_div_cancel_left s hpos]
  -- the sector ends inside the flash
  have hend : h.sectorLen * s + h.sectorLen ≤ h.size := by
    obtain ⟨n, hn⟩ := h.sectorLen_dvd
    have hlt : h.sectorLen * s < h.sectorLen * n := by
      rw [← hs, ← hn]
      exact Nat.mod_lt x h.size_pos
    rw [hn, ← Nat.mul_succ]
    exact Nat.mul_le_mul_left _ (Nat.lt_of_mul_lt_mul_left hlt)
  have hcell : ∀ j < h.sectorLen, h.cell x j = h.sectorLen * s + j := by
    intro j hj
    rw [SerialShape.cell, ← Nat.mod_add_mod, hs, Nat.mod_eq_of_lt (by omega)]
  funext y
  rw [erased, wipe, hdiv]
  refine if_congr ⟨?_, ?_⟩ rfl rfl
  · rintro ⟨hy, -⟩
    have hmod := Nat.div_add_mod y h.sectorLen
    refine ⟨y % h.sectorLen, Nat.mod_lt y hpos, ?_⟩
    rw [hcell _ (Nat.mod_lt y hpos), ← hy, hmod]
  · rintro ⟨j, hj, rfl⟩
    rw [hcell j hj, Nat.mul_add_div hpos, Nat.div_eq_of_lt hj, Nat.add_zero]
    exact ⟨rfl, by omega⟩

/-- What is left of a command before does not matter. -/
theorem execute_with_sent (l out : List Byte) :
    ({ c with sent := l } : NorChip).execute h out = { c.execute h out with sent := l } := by
  cases out with
  | nil => rfl
  | cons op rest =>
      simp only [execute, change]
      split_ifs <;> rfl

end Commands

/-! ### Whole commands -/

/-- Carry out a command from one edge of the chip select line to the other. -/
def perform (out : List Byte) : NorChip := { c.execute h out with sent := [] }

/-- The flash is waiting for a command, and no command will keep it busy for as many questions
as `polls`. -/
structure Idle (polls : ℕ) : Prop where
  busy_eq : c.busy = 0
  sent_eq : c.sent = []
  delays_lt : ∀ n, c.delays n < polls

/-- The flash with writing enabled or disabled. -/
def latch (v : Bool) : NorChip := { c with writeEnabled := v }

/-- The flash after it has come to rest. -/
def settled : NorChip := { c with busy := 0, sent := [] }

/-- The flash after it has been given new cells and has come to rest. -/
def renewed (cells : ℕ → Byte) : NorChip :=
  { c with cells := cells, writeEnabled := false, delays := fun n => c.delays (n + 1) }

section Idle

variable {h c} {polls : ℕ} (hc : c.Idle polls)

include hc

theorem Idle.latch (v : Bool) : (c.latch v).Idle polls :=
  ⟨hc.busy_eq, hc.sent_eq, hc.delays_lt⟩

theorem Idle.renewed (cells : ℕ → Byte) : (c.renewed cells).Idle polls :=
  ⟨hc.busy_eq, hc.sent_eq, fun n => hc.delays_lt (n + 1)⟩

theorem Idle.perform_writeEnable : c.perform h [opWriteEnable] = c.latch true := by
  rw [perform, execute_writeEnable hc.busy_eq, ← hc.sent_eq]
  rfl

theorem Idle.perform_writeDisable : c.perform h [opWriteDisable] = c.latch false := by
  rw [perform, execute_writeDisable hc.busy_eq, ← hc.sent_eq]
  rfl

theorem Idle.perform_read (rest : List Byte) : c.perform h (h.readOp :: rest) = c := by
  rw [perform, execute_read, ← hc.sent_eq]

/-- A change, and then rest. -/
theorem Idle.settled_change (cells : ℕ → Byte) :
    NorChip.settled { (c.latch true).change cells with sent := [] } = c.renewed cells := by
  rw [NorChip.settled, NorChip.renewed, ← hc.busy_eq, ← hc.sent_eq]
  rfl

/-- **An announced program command inside a page** keeps the flash busy for a while, and then
its bytes are burnt in. -/
theorem Idle.perform_program (x : ℕ) (data : List Byte) (hdata : data ≠ [])
    (hfits : x % h.pageLen + data.length ≤ h.pageLen) :
    let c' := (c.latch true).perform h (h.programOp :: (bigEndian h.addrLen x ++ data))
    c'.busy < polls ∧ c'.settled = c.renewed (burn (placed (h.cell x) data) c.cells) := by
  have hexecute := execute_program (h := h) (hc.latch true).busy_eq rfl x hdata
  rw [programmed_eq_burn hfits] at hexecute
  rw [perform, hexecute]
  exact ⟨hc.delays_lt 0, hc.settled_change _⟩

/-- **An announced erasure of a sector** keeps the flash busy for a while, and then the sector
is blank. -/
theorem Idle.perform_erase {x : ℕ} (hx : h.sectorLen ∣ x) :
    let c' := (c.latch true).perform h (h.eraseOp :: bigEndian h.addrLen x)
    c'.busy < polls ∧ c'.settled = c.renewed (wipe (h.cell x) h.sectorLen c.cells) := by
  have hexecute := execute_erase (h := h) (hc.latch true).busy_eq rfl x
  rw [erased_eq_wipe hx] at hexecute
  rw [perform, hexecute]
  exact ⟨hc.delays_lt 0, hc.settled_change _⟩

end Idle

end NorChip

end Machine
end BoardDiag
