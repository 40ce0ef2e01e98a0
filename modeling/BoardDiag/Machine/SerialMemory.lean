import BoardDiag.Machine.CString
import BoardDiag.Machine.Registers

/-!
# Serial memories

A serial memory is reached through messages.  A message to it begins with an address
and goes on with bytes to be stored; a message from it delivers bytes from the place
where the last message has left its address counter.

The counter does not run on for ever.  While bytes are stored only its low end moves,
so that a message that runs past the end of a page begins to overwrite the page it is
in; while bytes are delivered it runs through the whole memory, and past the end to the
beginning.

`wrapped_eq_iff` says what the first of the two means for someone who thinks of the
memory as an array: a message of `n` bytes is the assignment it looks like exactly if it
stays inside a page, or if there is no other page.  One byte always does, so a memory that
is written one byte a message is an array.
-/

namespace BoardDiag
namespace Machine

/-! ## Bytes that stand for a number -/

/-- The number whose bytes, most significant first, are `bs`. -/
def ofBytes (bs : List Byte) : ℕ := Nat.ofDigits 256 (bs.map BitVec.toNat).reverse

/-- The last `n` bytes of a number, most significant first. -/
def bigEndian : ℕ → ℕ → List Byte
  | 0, _ => []
  | n + 1, x => BitVec.ofNat 8 (x / 256 ^ n) :: bigEndian n x

@[simp] theorem length_bigEndian (n x : ℕ) : (bigEndian n x).length = n := by
  induction n with
  | zero => rfl
  | succ n ih => rw [bigEndian, List.length_cons, ih]

theorem ofBytes_cons (b : Byte) (bs : List Byte) :
    ofBytes (b :: bs) = b.toNat * 256 ^ bs.length + ofBytes bs := by
  rw [ofBytes, List.map_cons, List.reverse_cons, Nat.ofDigits_append, Nat.ofDigits_singleton,
    List.length_reverse, List.length_map, ofBytes]
  ring

theorem ofBytes_bigEndian (n x : ℕ) : ofBytes (bigEndian n x) = x % 256 ^ n := by
  induction n with
  | zero => rw [Nat.pow_zero, Nat.mod_one]; rfl
  | succ n ih =>
      rw [bigEndian, ofBytes_cons, ih, length_bigEndian, BitVec.toNat_ofNat]
      show x / 256 ^ n % 256 * 256 ^ n + x % 256 ^ n = _
      rw [Nat.mod_pow_succ, Nat.mul_comm, Nat.add_comm]

/-! ## Bytes put in places -/

section Placed

variable {ν : Type}

/-- Writing some bytes, the `i`-th to the place `place i`. -/
def placed (place : ℕ → ℕ) (bytes : List ν) : List (ℕ × ν) :=
  bytes.mapIdx fun i b => (place i, b)

@[simp] theorem placed_nil (place : ℕ → ℕ) : placed place ([] : List ν) = [] := rfl

theorem placed_cons (place : ℕ → ℕ) (b : ν) (bytes : List ν) :
    placed place (b :: bytes) = (place 0, b) :: placed (fun i => place (i + 1)) bytes := by
  rw [placed, List.mapIdx_cons]
  rfl

/-- Only the places of the bytes there are matter. -/
theorem placed_congr {place place' : ℕ → ℕ} {bytes : List ν}
    (h : ∀ i < bytes.length, place i = place' i) : placed place bytes = placed place' bytes := by
  apply List.ext_getElem
  · simp [placed]
  · intro i h₁ h₂
    have hi : i < bytes.length := by simpa [placed] using h₁
    simp [placed, h i hi]

/-- Writing one byte over and over. -/
theorem applyWrites_placed_replicate (place : ℕ → ℕ) (n : ℕ) (b : ν) (cells : ℕ → ν) (x : ℕ) :
    ((∃ i < n, place i = x) →
      applyWrites (placed place (List.replicate n b)) cells x = b) ∧
    ((∀ i < n, place i ≠ x) →
      applyWrites (placed place (List.replicate n b)) cells x = cells x) := by
  induction n generalizing place cells with
  | zero => exact ⟨fun ⟨i, hi, _⟩ => absurd hi (Nat.not_lt_zero i), fun _ => rfl⟩
  | succ n ih =>
      rw [List.replicate_succ, placed_cons, applyWrites]
      obtain ⟨hin, hout⟩ := ih (fun i => place (i + 1)) (Function.update cells (place 0) b)
      constructor
      · rintro ⟨i, hi, hx⟩
        by_cases hrest : ∃ j < n, place (j + 1) = x
        · exact hin hrest
        · push Not at hrest
          cases i with
          | zero => rw [hout hrest, ← hx, Function.update_self]
          | succ j => exact absurd hx (hrest j (by omega))
      · intro hne
        rw [hout fun i hi => hne (i + 1) (by omega),
          Function.update_of_ne (Ne.symm (hne 0 (by omega)))]

/-- What no byte is put into stays as it is. -/
theorem applyWrites_placed_of_ne {place : ℕ → ℕ} {bytes : List ν} {x : ℕ}
    (h : ∀ i < bytes.length, place i ≠ x) (cells : ℕ → ν) :
    applyWrites (placed place bytes) cells x = cells x := by
  induction bytes generalizing place cells with
  | nil => rfl
  | cons b bytes ih =>
      rw [placed_cons, applyWrites, ih fun i hi => h (i + 1) (by simpa using hi),
        Function.update_of_ne (Ne.symm (h 0 (by simp)))]

/-- **Bytes put in different places are all there.** -/
theorem applyWrites_placed {place : ℕ → ℕ} {bytes : List ν} {i : ℕ} (hi : i < bytes.length)
    (hinj : ∀ j < bytes.length, place j = place i → j = i) (cells : ℕ → ν) :
    applyWrites (placed place bytes) cells (place i) = bytes[i] := by
  induction bytes generalizing place i cells with
  | nil => exact absurd hi (Nat.not_lt_zero i)
  | cons b bytes ih =>
      rw [placed_cons, applyWrites]
      cases i with
      | zero =>
          rw [applyWrites_placed_of_ne fun j hj hsame =>
            absurd (hinj (j + 1) (by simpa using hj) hsame) (Nat.succ_ne_zero j),
            Function.update_self]
          rfl
      | succ i =>
          exact @ih (fun i => place (i + 1)) i (by simpa using hi)
            (fun j hj hsame => Nat.succ.inj (hinj (j + 1) (by simpa using hj) hsame)) _

end Placed

/-! ## The memory -/

/-- What a serial memory is like: how many bytes an address has, how long a page is, and
how many pages there are.  Every cell has an address, and the addresses beyond the last
one begin again. -/
structure SerialShape where
  addrLen : ℕ
  pageLen : ℕ
  pages : ℕ
  pageLen_pos : 0 < pageLen
  pages_pos : 0 < pages
  addressed : pages * pageLen ∣ 256 ^ addrLen

/-- What its cells hold, and where its counter is. -/
structure SerialMemory where
  cells : ℕ → Byte
  counter : ℕ

namespace SerialShape

variable (h : SerialShape)

/-- The number of cells. -/
def size : ℕ := h.pages * h.pageLen

theorem size_pos : 0 < h.size := Nat.mul_pos h.pages_pos h.pageLen_pos

/-- The `i`-th cell from `a` on, in an array. -/
def cell (a i : ℕ) : ℕ := (a + i) % h.size

theorem cell_add (a m : ℕ) : h.cell (a + m) = fun i => h.cell a (m + i) := by
  funext i
  rw [cell, cell, Nat.add_assoc]

/-- The `i`-th cell from `a` on, while the memory is being written. -/
def pageCell (a i : ℕ) : ℕ := a / h.pageLen * h.pageLen + (a + i) % h.pageLen

/-- The address bytes lead to the cell they name. -/
theorem ofBytes_mod_size (x : ℕ) : ofBytes (bigEndian h.addrLen x) % h.size = x % h.size := by
  rw [ofBytes_bigEndian]
  exact Nat.mod_mod_of_dvd x h.addressed

theorem pageCell_zero (a : ℕ) : h.pageCell a 0 = a := by
  rw [pageCell, Nat.add_zero, Nat.div_add_mod']

/-- Before the end of the page the two are the same. -/
theorem pageCell_of_le {a i : ℕ} (hle : a % h.pageLen + i < h.pageLen) :
    h.pageCell a i = a + i := by
  have hmod : (a + i) % h.pageLen = a % h.pageLen + i := by
    rw [Nat.add_mod, Nat.mod_eq_of_lt (show i < h.pageLen by omega), Nat.mod_eq_of_lt hle]
  have hdiv := Nat.div_add_mod' a h.pageLen
  rw [pageCell, hmod]
  omega

/-- A page is never left. -/
theorem pageCell_div (a i : ℕ) : h.pageCell a i / h.pageLen = a / h.pageLen := by
  rw [pageCell, Nat.add_comm, Nat.add_mul_div_right _ _ h.pageLen_pos,
    Nat.div_eq_of_lt (Nat.mod_lt _ h.pageLen_pos), Nat.zero_add]

end SerialShape

namespace SerialMemory

variable (h : SerialShape) (m : SerialMemory)

/-- A message to the memory.  One that ends before the address is complete is ignored. -/
def receive (bytes : List Byte) : SerialMemory :=
  if bytes.length < h.addrLen then m
  else
    let a := ofBytes (bytes.take h.addrLen) % h.size
    let data := bytes.drop h.addrLen
    { cells := applyWrites (placed (h.pageCell a) data) m.cells
      counter := h.pageCell a data.length }

/-- The bytes a message from the memory delivers. -/
def delivered (i : ℕ) : Byte := m.cells (h.cell m.counter i)

/-- The memory after it has delivered `len` bytes. -/
def deliver (len : ℕ) : SerialMemory := { m with counter := h.cell m.counter len }

/-- What a message with an address does. -/
theorem receive_address (x : ℕ) (data : List Byte) :
    m.receive h (bigEndian h.addrLen x ++ data) =
      { cells := applyWrites (placed (h.pageCell (x % h.size)) data) m.cells
        counter := h.pageCell (x % h.size) data.length } := by
  have hlen := length_bigEndian h.addrLen x
  have htake : (bigEndian h.addrLen x ++ data).take h.addrLen = bigEndian h.addrLen x :=
    List.take_left' hlen
  have hdrop : (bigEndian h.addrLen x ++ data).drop h.addrLen = data := List.drop_left' hlen
  rw [receive, if_neg (by rw [List.length_append, hlen]; omega), htake, hdrop,
    h.ofBytes_mod_size]

/-- An address alone sets the counter. -/
theorem receive_address_nil (x : ℕ) :
    m.receive h (bigEndian h.addrLen x) = { m with counter := x % h.size } := by
  have hreceive := m.receive_address h x []
  rw [List.append_nil] at hreceive
  rw [hreceive]
  simp [applyWrites, h.pageCell_zero]

/-- One byte goes where its address says. -/
theorem cells_receive_address_singleton (x : ℕ) (b : Byte) :
    (m.receive h (bigEndian h.addrLen x ++ [b])).cells =
      Function.update m.cells (x % h.size) b := by
  rw [receive_address]
  simp [placed_cons, applyWrites, h.pageCell_zero]

end SerialMemory

/-! ## Pages and arrays -/

/-- **When a message is the assignment it looks like**: it stays inside a page, or there is
no other page. -/
theorem wrapped_eq_iff (h : SerialShape) {a : ℕ} (ha : a < h.size) (n : ℕ) :
    (∀ (cells : ℕ → Byte) (data : List Byte), data.length = n →
      applyWrites (placed (h.pageCell a) data) cells =
        applyWrites (placed (h.cell a) data) cells) ↔
      h.pages = 1 ∨ a % h.pageLen + n ≤ h.pageLen := by
  have hpos := h.pageLen_pos
  have hmod := Nat.mod_lt a hpos
  have hdiv := Nat.div_add_mod' a h.pageLen
  constructor
  · intro hall
    by_contra hnot
    push Not at hnot
    obtain ⟨hpages, hlong⟩ := hnot
    -- the first cell behind the page, or the first of all behind the last page
    have hi : h.pageLen - a % h.pageLen < n := by omega
    have hsize : h.size = h.pages * h.pageLen := rfl
    have hbehind : a + (h.pageLen - a % h.pageLen) = (a / h.pageLen + 1) * h.pageLen := by
      rw [Nat.succ_mul]
      omega
    have hcell : h.cell a (h.pageLen - a % h.pageLen) / h.pageLen ≠ a / h.pageLen := by
      rw [SerialShape.cell, hbehind, hsize, Nat.mul_mod_mul_right, Nat.mul_div_cancel _ hpos]
      have hpage : a / h.pageLen < h.pages := Nat.div_lt_of_lt_mul (by rwa [Nat.mul_comm])
      intro heq
      rcases Nat.lt_or_ge (a / h.pageLen + 1) h.pages with hlt | hge
      · rw [Nat.mod_eq_of_lt hlt] at heq
        omega
      · have hlast : a / h.pageLen + 1 = h.pages := by omega
        rw [hlast, Nat.mod_self] at heq
        omega
    have hdiffer := congrFun (hall (fun _ => 0) (List.replicate n 1) List.length_replicate)
      (h.cell a (h.pageLen - a % h.pageLen))
    rw [((applyWrites_placed_replicate _ n 1 _ _).2 fun i _ hsame => hcell
        (by rw [← hsame, h.pageCell_div])),
      ((applyWrites_placed_replicate _ n 1 _ _).1 ⟨_, hi, rfl⟩)] at hdiffer
    exact absurd hdiffer (by decide)
  · intro hfits cells data hlen
    congr 1
    refine placed_congr fun i hi => ?_
    rw [hlen] at hi
    rcases hfits with hone | hfits
    · have hsize : h.size = h.pageLen := by rw [SerialShape.size, hone, Nat.one_mul]
      have hzero : a / h.pageLen = 0 := Nat.div_eq_of_lt (by rwa [← hsize])
      rw [SerialShape.pageCell, SerialShape.cell, hzero, Nat.zero_mul, Nat.zero_add, hsize]
    · have hpage : a / h.pageLen < h.pages := Nat.div_lt_of_lt_mul (by rw [Nat.mul_comm]; exact ha)
      have hin : a + i < h.size := by
        calc a + i < a / h.pageLen * h.pageLen + h.pageLen := by omega
          _ = (a / h.pageLen + 1) * h.pageLen := by rw [Nat.succ_mul]
          _ ≤ h.size := Nat.mul_le_mul_right _ hpage
      rw [h.pageCell_of_le (by omega), SerialShape.cell, Nat.mod_eq_of_lt hin]

end Machine
end BoardDiag
