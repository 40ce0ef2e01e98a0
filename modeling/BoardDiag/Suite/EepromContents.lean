import BoardDiag.Suite.NorContents
import BoardDiag.Suite.Transfers
import Mathlib.Order.Interval.Set.Basic

/-!
# What the EEPROM test does to an EEPROM

The configuration of the EEPROM test names an area: `test_len` cells from
`eeprom_offset` on.  What the test should do to an EEPROM that executes its transfers
is to leave the pattern in the cells of the area, leave all others alone, and read
exactly the cells of the area back.

The test does not look at `test_len`: it always writes and reads four pages of 32
cells.  And the address of a page goes through an `uint8_t`, although the EEPROM is
addressed with two bytes, so a page that should begin at cell 256 or later begins at
the start of the EEPROM instead.  `eeprom_frame_iff` says for which configurations
neither matters.

## The EEPROM

`Eeprom` is the EEPROM as the test sees it: what its cells hold, and which of them have
been read.  `I2cDriver.Stores` says that the cells behind a driver are those of such an
EEPROM, and the record of its transfers says which of them have been read.
-/

namespace BoardDiag

open Machine

variable {D E : Type}

/-! ## An EEPROM that executes its transfers -/

/-- The number of cells: addresses have two bytes. -/
def eepromSize : ℕ := 2 ^ 16

/-- An EEPROM as the test sees it: what its cells hold, and which of them have been
read. -/
structure Eeprom where
  cells : ℕ → Byte
  seen : Set ℕ

def Eeprom.write (e : Eeprom) (offset : ℕ) (bytes : List Byte) : Eeprom :=
  { e with cells := applyWrites (placed (offset + ·) bytes) e.cells }

def Eeprom.read (e : Eeprom) (offset len : ℕ) : Eeprom :=
  { e with seen := e.seen ∪ Set.Ico offset (offset + len) }

/-- **A driver that stores what it is told**: while the board is in a state with `P`, the
bus and the chip are found, and every transfer inside the EEPROM does to its cells what it
should. -/
structure I2cDriver.Stores (io : I2cDriver D) (bus_num : BitVec 8) (chip_address : BitVec 32)
    (cells : D → ℕ → Byte) (P : D → Prop) : Prop where
  writel : ∀ value addr d, P d →
    P (io.writel value addr d) ∧ cells (io.writel value addr d) = cells d
  bus : ∀ d, P d → ∃ bus d', io.uclassGetDeviceBySeq (bus_num.setWidth 32) d =
    ((0, some bus), d') ∧ P d' ∧ cells d' = cells d
  chip : ∀ bus len d, P d → ∃ dev d', io.i2cGetChip bus chip_address len d =
    ((0, some dev), d') ∧ P d' ∧ cells d' = cells d
  offset_len : ∀ dev len d, P d → ∃ d', io.i2cSetChipOffsetLen dev len d = (0, d') ∧ P d' ∧
    cells d' = cells d
  wr_address : ∀ dev d, P d →
    P (io.setWrAddress dev d) ∧ cells (io.setWrAddress dev d) = cells d
  write : ∀ dev offset buffer d, P d → offset.toNat + buffer.length ≤ eepromSize →
    ∃ d', io.dmI2cWrite dev offset buffer d = (0, d') ∧ P d' ∧
      cells d' = applyWrites (placed (offset.toNat + ·) buffer) (cells d)
  read : ∀ dev offset len d, P d → offset.toNat + len ≤ eepromSize →
    ∃ data d', io.dmI2cRead dev offset len d = ((0, data), d') ∧
      (∀ i < len, data i = cells d (offset.toNat + i)) ∧ P d' ∧ cells d' = cells d

/-- The cells a call reads. -/
def I2cCall.reads : I2cCall → Set ℕ
  | .transfer _ (.dmI2cRead offset len) _ => Set.Ico offset.toNat (offset.toNat + len)
  | _ => ∅

/-- The cells that have been read, according to the record. -/
def readCells (log : List I2cCall) : Set ℕ := {i | ∃ c ∈ log, i ∈ c.reads}

theorem readCells_nil : readCells [] = ∅ := by
  ext i
  simp [readCells]

theorem readCells_cons (c : I2cCall) (log : List I2cCall) :
    readCells (c :: log) = c.reads ∪ readCells log := by
  ext i
  simp [readCells]

theorem readCells_append (log calls : List I2cCall) :
    readCells (log ++ calls) = readCells log ∪ readCells calls := by
  ext i
  simp [readCells, or_and_right, exists_or]

/-- The EEPROM behind a recorded driver. -/
def recordedEeprom (cells : D → ℕ → Byte) (d : Recorded D I2cCall) : Eeprom :=
  ⟨cells d.dev, readCells d.log⟩

/-- The test does to a part of a board what it does to a board without the rest. -/
theorem through_eepromReadWriteTest {view : D → E} {io : I2cDriver D} {io' : I2cDriver E}
    (h : io.Through view io') (testId : BitVec 32) (arg : Option AEepromReadWriteTest) :
    Through (Fixture.part view) (eepromReadWriteTest io testId arg)
      (eepromReadWriteTest io' testId arg) := by
  cases arg with
  | none => exact through_unconfigured _ _
  | some a =>
      have hwritel : ∀ value addr : BitVec 32, Through (Fixture.part view)
          (drive fun d => ((), io.writel value addr d))
          (drive fun d => ((), io'.writel value addr d)) :=
        fun value addr => through_drive fun d => congrArg (Prod.mk ()) (h.writel value addr d)
      refine .bind (.bind (hwritel _ _) fun _ => hwritel _ _) fun _ => ?_
      refine .bind (.modify fun _ => rfl) fun _ => ?_
      refine .bind (.searchFrom (fun n => .bind_get fun s => ?_) _ _) fun broken => ?_
      · exact .bind (through_i2cWrite h _ _ _ _ _) fun _ => .ite (.pure _) (.pure _)
      cases broken with
      | some _ => exact through_reported _ _ _ _
      | none =>
          refine .bind (.searchFrom (fun n => ?_) _ _) fun broken => ?_
          · refine .bind (through_i2cRead h _ _ _ _ _) fun answer => ?_
            refine .bind ?_ fun _ => .ite (.pure _) (.pure _)
            obtain ⟨status, data⟩ := answer
            cases data with
            | none => exact .pure _
            | some data => exact .modify fun _ => rfl
          cases broken with
          | some _ => exact through_reported _ _ _ _
          | none => exact .bind_get fun s => .ite (through_reported _ _ _ _) (.pure _)

/-- **Nothing in the test depends on the record being kept.** -/
theorem through_recorded_eepromReadWriteTest (io : I2cDriver D) (testId : BitVec 32)
    (arg : Option AEepromReadWriteTest) :
    Through (Fixture.part Recorded.dev) (eepromReadWriteTest io.recorded testId arg)
      (eepromReadWriteTest io testId arg) :=
  through_eepromReadWriteTest io.through_recorded testId arg

/-! ## The test, page by page -/

theorem toNat_setWidth_reg (reg : BitVec 8) : (reg.setWidth 32).toNat = reg.toNat := by
  rw [BitVec.toNat_setWidth, Nat.mod_eq_of_lt (Nat.lt_trans reg.isLt (by decide))]

namespace I2cDriver.Stores

variable {io : I2cDriver D} {bus_num : BitVec 8} {chip_address : BitVec 32}
  {cells : D → ℕ → Byte} {P : D → Prop}

theorem triple_write (h : io.Stores bus_num chip_address cells P) (reg : BitVec 8)
    (addr_offset_len : BitVec 32) {write_value : List Byte}
    (hin : reg.toNat + write_value.length ≤ eepromSize) (e : Eeprom) (st : EepromStatics) :
    Triple (fun s => P s.dev.dev ∧ recordedEeprom cells s.dev = e ∧ s.eeprom = st)
      (eBBTFUtilsI2cWrite io.recorded bus_num chip_address reg addr_offset_len write_value)
      fun r s => r = .pass ∧ P s.dev.dev ∧
        recordedEeprom cells s.dev = e.write reg.toNat write_value ∧ s.eeprom = st := by
  rintro s ⟨hP, rfl, rfl⟩
  obtain ⟨bus, d₁, hbus, hP₁, hc₁⟩ := h.bus s.dev.dev hP
  obtain ⟨dev, d₂, hchip, hP₂, hc₂⟩ := h.chip bus addr_offset_len d₁ hP₁
  obtain ⟨d₃, hlen, hP₃, hc₃⟩ := h.offset_len dev addr_offset_len d₂ hP₂
  obtain ⟨hP₄, hc₄⟩ := h.wr_address dev d₃ hP₃
  obtain ⟨d₅, hwrite, hP₅, hc₅⟩ := h.write dev (reg.setWidth 32) write_value _ hP₄
    (by rwa [toNat_setWidth_reg])
  obtain ⟨s', hrun, hdev, hst⟩ := run_eBBTFUtilsI2cWrite
    (run_selectBus (recorded_uclassGetDeviceBySeq hbus)) (recorded_i2cGetChip hchip)
    (run_setChipOffsetLen (recorded_i2cSetChipOffsetLen hlen)) (recorded_dmI2cWrite hwrite)
  refine ⟨.pass, s', hrun, rfl, by rwa [hdev], ?_, hst⟩
  rw [hdev, recordedEeprom, hc₅, hc₄, hc₃, hc₂, hc₁, toNat_setWidth_reg]
  refine congrArg (Eeprom.mk _) ?_
  simp [readCells_append, readCells_cons, readCells_nil, I2cCall.reads, quietly, recorded,
    recordedEeprom]

theorem triple_read (h : io.Stores bus_num chip_address cells P) (reg : BitVec 8)
    (addr_offset_len : BitVec 32) {dlen : ℕ} (hin : reg.toNat + dlen ≤ eepromSize) (e : Eeprom)
    (st : EepromStatics) :
    Triple (fun s => P s.dev.dev ∧ recordedEeprom cells s.dev = e ∧ s.eeprom = st)
      (eBBTFUtilsI2cRead io.recorded bus_num chip_address reg addr_offset_len dlen)
      fun r s => ∃ data, r = (.pass, some data) ∧ P s.dev.dev ∧
        recordedEeprom cells s.dev = e.read reg.toNat dlen ∧ s.eeprom = st := by
  rintro s ⟨hP, rfl, rfl⟩
  obtain ⟨bus, d₁, hbus, hP₁, hc₁⟩ := h.bus s.dev.dev hP
  obtain ⟨dev, d₂, hchip, hP₂, hc₂⟩ := h.chip bus addr_offset_len d₁ hP₁
  obtain ⟨d₃, hlen, hP₃, hc₃⟩ := h.offset_len dev addr_offset_len d₂ hP₂
  obtain ⟨data, d₄, hread, -, hP₄, hc₄⟩ := h.read dev (reg.setWidth 32) dlen d₃ hP₃
    (by rwa [toNat_setWidth_reg])
  obtain ⟨s', hrun, hdev, hst⟩ := run_eBBTFUtilsI2cRead
    (run_selectBus (recorded_uclassGetDeviceBySeq hbus)) (recorded_i2cGetChip hchip)
    (run_setChipOffsetLen (recorded_i2cSetChipOffsetLen hlen)) (recorded_dmI2cRead hread)
  refine ⟨(.pass, some data), s', hrun, data, rfl, by rwa [hdev], ?_, hst⟩
  rw [hdev, recordedEeprom, hc₄, hc₃, hc₂, hc₁, ← toNat_setWidth_reg reg]
  refine congrArg (Eeprom.mk _) ?_
  simp [readCells_append, readCells_cons, readCells_nil, I2cCall.reads, recordedEeprom]

end I2cDriver.Stores

namespace AEepromReadWriteTest

/-- The cells of the `k`-th page. -/
def page (a : AEepromReadWriteTest) (k : ℕ) : Set ℕ :=
  Set.Ico (a.reg (k * eepromPageLen)).toNat ((a.reg (k * eepromPageLen)).toNat + eepromPageLen)

/-- The cells of the first `n` pages. -/
def pages (a : AEepromReadWriteTest) (n : ℕ) : Set ℕ := {i | ∃ k < n, i ∈ a.page k}

theorem pages_zero (a : AEepromReadWriteTest) : a.pages 0 = ∅ := by
  ext i
  simp [pages]

theorem pages_succ (a : AEepromReadWriteTest) (n : ℕ) :
    a.pages (n + 1) = a.pages n ∪ a.page n := by
  ext i
  constructor
  · rintro ⟨k, hk, hi⟩
    rcases Nat.lt_succ_iff_lt_or_eq.mp hk with hlt | rfl
    · exact .inl ⟨k, hlt, hi⟩
    · exact .inr hi
  · rintro (⟨k, hk, hi⟩ | hi)
    · exact ⟨k, by omega, hi⟩
    · exact ⟨n, by omega, hi⟩

/-- The cells of the area that the configuration names. -/
def area (a : AEepromReadWriteTest) : Set ℕ :=
  Set.Ico a.eeprom_offset.toNat (a.eeprom_offset.toNat + a.test_len.toNat)

theorem reg_inside (a : AEepromReadWriteTest) (offset : ℕ) :
    (a.reg offset).toNat + eepromPageLen ≤ eepromSize := by
  have hlt := (a.reg offset).isLt
  have hpage : eepromPageLen = 32 := rfl
  have hsize : eepromSize = 65536 := rfl
  omega

end AEepromReadWriteTest

/-- The pattern is in the cells of `S`, and the others hold what `c` says. -/
def Eeprom.Patterned (e : Eeprom) (c : ℕ → Byte) (S : Set ℕ) : Prop :=
  ∀ i, (i ∈ S → e.cells i = eepromTestPattern) ∧ (i ∉ S → e.cells i = c i)

/-- Writing a page of the pattern. -/
theorem Eeprom.Patterned.write {e : Eeprom} {c : ℕ → Byte} {S : Set ℕ} (h : e.Patterned c S)
    (offset n : ℕ) :
    (e.write offset (List.replicate n eepromTestPattern)).Patterned c
      (S ∪ Set.Ico offset (offset + n)) := by
  intro i
  obtain ⟨hinside, houtside⟩ :=
    applyWrites_placed_replicate (offset + ·) n eepromTestPattern e.cells i
  by_cases hi : i ∈ Set.Ico offset (offset + n)
  · obtain ⟨hle, hlt⟩ := hi
    have hplace : ∃ j < n, offset + j = i := ⟨i - offset, by omega, by omega⟩
    exact ⟨fun _ => hinside hplace, fun hnot => absurd (.inr ⟨hle, hlt⟩) hnot⟩
  · have hplace : ∀ j < n, offset + j ≠ i := fun j hj hsame => hi ⟨by omega, by omega⟩
    refine ⟨fun hmem => (houtside hplace).trans ((h i).1 (hmem.resolve_right hi)), fun hnot => ?_⟩
    exact (houtside hplace).trans ((h i).2 fun hS => hnot (.inl hS))

section Test

variable {io : I2cDriver D} {a : AEepromReadWriteTest} {cells : D → ℕ → Byte} {P : D → Prop}

/-- The board is as it should be, the first buffer holds the pattern, and so do the cells of
`S`; the cells of `R` have been read. -/
def Progress (cells : D → ℕ → Byte) (P : D → Prop) (c : ℕ → Byte) (S R : Set ℕ)
    (s : Fixture (Recorded D I2cCall)) : Prop :=
  P s.dev.dev ∧ s.eeprom.i2cEepromTestbuf1 = Vector.replicate testBufferLen eepromTestPattern ∧
    (recordedEeprom cells s.dev).Patterned c S ∧ (recordedEeprom cells s.dev).seen = R

/-- What a page of the buffer holds. -/
theorem take_drop_pattern {k : ℕ} (hk : k < testBufferLen / eepromPageLen) :
    ((Vector.replicate testBufferLen eepromTestPattern).toList.drop (k * eepromPageLen)).take
      eepromPageLen = List.replicate eepromPageLen eepromTestPattern := by
  have hk' : k < 4 := hk
  have hmin : min eepromPageLen (testBufferLen - k * eepromPageLen) = eepromPageLen := by
    show min 32 (128 - k * 32) = 32
    omega
  rw [Vector.toList_replicate, List.drop_replicate, List.take_replicate, hmin]

theorem triple_writePage (h : io.Stores a.i2c_bus_num (a.i2c_dev_addr.setWidth 32) cells P)
    (c : ℕ → Byte) {k : ℕ} (hk : k < testBufferLen / eepromPageLen) :
    Triple (Progress cells P c (a.pages k) ∅) (writePage io.recorded a k)
      fun r s => r = none ∧ Progress cells P c (a.pages (k + 1)) ∅ s := by
  rintro s ⟨hP, hbuf, hcells, hseen⟩
  have hslice := take_drop_pattern hk
  have hin : (a.reg (k * eepromPageLen)).toNat +
      (List.replicate eepromPageLen eepromTestPattern).length ≤ eepromSize := by
    rw [List.length_replicate]
    exact a.reg_inside _
  obtain ⟨r, t, hrun, rfl, hP', he, hst⟩ :=
    h.triple_write (a.reg (k * eepromPageLen)) eepromOffsetLen hin (recordedEeprom cells s.dev)
      s.eeprom s
      ⟨hP, rfl, rfl⟩
  refine ⟨none, t, ?_, rfl, hP', by rw [hst, hbuf], ?_, by rw [he]; exact hseen⟩
  · rw [writePage, EStateM.run_bind, EStateM.run_get]
    simp only
    rw [hbuf, hslice, EStateM.run_bind, hrun]
    rfl
  · rw [he, a.pages_succ]
    exact hcells.write _ _

theorem triple_readPage (h : io.Stores a.i2c_bus_num (a.i2c_dev_addr.setWidth 32) cells P)
    (c : ℕ → Byte) (S : Set ℕ) (k : ℕ) :
    Triple (Progress cells P c S (a.pages k)) (readPage io.recorded a k)
      fun r s => r = none ∧ Progress cells P c S (a.pages (k + 1)) s := by
  rintro s ⟨hP, hbuf, hcells, hseen⟩
  obtain ⟨r, t, hrun, data, rfl, hP', he, hst⟩ :=
    h.triple_read (a.reg (k * eepromPageLen)) eepromOffsetLen (a.reg_inside _)
      (recordedEeprom cells s.dev) s.eeprom s ⟨hP, rfl, rfl⟩
  refine ⟨none, t.fillTestbuf2 (k * eepromPageLen) eepromPageLen data, ?_, rfl, hP', ?_, ?_, ?_⟩
  · rw [readPage, EStateM.run_bind, hrun]
    rfl
  · rw [Fixture.eeprom_fillTestbuf2, hst]
    exact hbuf
  · rw [Fixture.dev_fillTestbuf2, he]
    exact hcells
  · rw [Fixture.dev_fillTestbuf2, he, a.pages_succ, ← hseen]
    rfl

/-- **What the test does to an EEPROM**: it writes four pages and reads the same four. -/
theorem triple_eepromReadWriteTest
    (h : io.Stores a.i2c_bus_num (a.i2c_dev_addr.setWidth 32) cells P) (testId : BitVec 32)
    (c : ℕ → Byte) :
    Triple (fun s => P s.dev.dev ∧ recordedEeprom cells s.dev = ⟨c, ∅⟩)
      (eepromReadWriteTest io.recorded testId (some a))
      fun _ s => (recordedEeprom cells s.dev).Patterned c (a.pages 4) ∧
        (recordedEeprom cells s.dev).seen = a.pages 4 := by
  refine triple_eepromReadWriteTest_of_pages testId
    (I := fun k => Progress cells P c (a.pages k) ∅)
    (J := fun k => Progress cells P c (a.pages 4) (a.pages k))
    ?_ (fun k hk => triple_writePage h c hk) ?_ (fun k _ => triple_readPage h c (a.pages 4) k)
    (fun s hs _ => hs.2.2) fun s hs _ => hs.2.2
  · rintro s ⟨hP, he⟩
    obtain ⟨hP₁, hc₁⟩ := h.writel 0x0000007B 0x44e10980 s.dev.dev hP
    obtain ⟨hP₂, hc₂⟩ := h.writel 0x0000007B 0x44e10984 _ hP₁
    have hstart : Eeprom.mk _ (readCells s.dev.log) = ⟨c, ∅⟩ :=
      (congrArg (Eeprom.mk · _) (hc₂.trans hc₁)).trans he
    refine ⟨(), _, rfl, hP₂, rfl, fun i => ⟨?_, fun _ => ?_⟩, congrArg Eeprom.seen hstart⟩
    · rw [a.pages_zero]
      exact fun hi => hi.elim
    · exact congrFun (congrArg Eeprom.cells hstart) i
  · intro s hs
    rw [a.pages_zero]
    exact hs

/-- The same, from an empty record. -/
theorem run_eepromReadWriteTest_recorded
    (h : io.Stores a.i2c_bus_num (a.i2c_dev_addr.setWidth 32) cells P) (testId : BitVec 32)
    (s : Fixture D) (hP : P s.dev) :
    ∃ r s', (eepromReadWriteTest io.recorded testId (some a)).run s.recording = .ok r s' ∧
      (∀ i, (i ∈ a.pages 4 → cells s'.dev.dev i = eepromTestPattern) ∧
        (i ∉ a.pages 4 → cells s'.dev.dev i = cells s.dev i)) ∧
      readCells s'.dev.log = a.pages 4 := by
  have hstart : recordedEeprom cells s.recording.dev = ⟨cells s.dev, ∅⟩ :=
    congrArg (Eeprom.mk _) readCells_nil
  exact triple_eepromReadWriteTest h testId (cells s.dev) s.recording ⟨hP, hstart⟩

end Test

/-! ## When the test keeps to its area -/

/-- **A test that keeps to its area.**  On every EEPROM that stores what it is told, with
whatever contents, it changes no cell outside the area, leaves the pattern in every cell
inside, and reads exactly the cells of the area. -/
def EepromFrame (a : AEepromReadWriteTest) : Prop :=
  ∀ (D : Type) (io : I2cDriver D) (cells : D → ℕ → Byte) (P : D → Prop),
    io.Stores a.i2c_bus_num (a.i2c_dev_addr.setWidth 32) cells P →
    ∀ (testId : BitVec 32) (s : Fixture D), P s.dev →
      ∃ r s', (eepromReadWriteTest io.recorded testId (some a)).run s.recording = .ok r s' ∧
        (∀ i ∉ a.area, cells s'.dev.dev i = cells s.dev i) ∧
        (∀ i ∈ a.area, cells s'.dev.dev i = eepromTestPattern) ∧
        readCells s'.dev.log = a.area

namespace AEepromReadWriteTest

theorem toNat_reg (a : AEepromReadWriteTest) (offset : ℕ) :
    (a.reg offset).toNat = (a.eeprom_offset.toNat + offset) % 256 := by
  have hlt := a.eeprom_offset.isLt
  simp only [reg, BitVec.toNat_setWidth, BitVec.toNat_add, BitVec.toNat_ofNat]
  omega

theorem mem_page_iff (a : AEepromReadWriteTest) (k i : ℕ) :
    i ∈ a.page k ↔ (a.eeprom_offset.toNat + k * 32) % 256 ≤ i ∧
      i < (a.eeprom_offset.toNat + k * 32) % 256 + 32 := by
  rw [page, Set.mem_Ico, a.toNat_reg]
  exact Iff.rfl

/-- **The pages are the area** exactly if it has 128 cells and no page wraps. -/
theorem pages_eq_area_iff (a : AEepromReadWriteTest) :
    a.pages 4 = a.area ↔ a.test_len = 128 ∧ a.eeprom_offset.toNat ≤ 159 := by
  have hoff := a.eeprom_offset.isLt
  constructor
  · intro h
    have hmem : ∀ k < 4, ∀ i, i ∈ a.page k → a.eeprom_offset.toNat ≤ i ∧
        i < a.eeprom_offset.toNat + a.test_len.toNat := by
      intro k hk i hi
      have hin : i ∈ a.pages 4 := ⟨k, hk, hi⟩
      rwa [h] at hin
    have hfits : a.eeprom_offset.toNat ≤ 159 := by
      by_contra hwrap
      -- the last page begins before the area
      have hlast := hmem 3 (by omega) ((a.eeprom_offset.toNat + 96) % 256)
        ((a.mem_page_iff _ _).mpr ⟨by omega, by omega⟩)
      omega
    refine ⟨?_, hfits⟩
    have hlong := hmem 3 (by omega) (a.eeprom_offset.toNat + 127)
      ((a.mem_page_iff _ _).mpr ⟨by omega, by omega⟩)
    have hshort : ¬ a.test_len.toNat > 128 := by
      intro hgt
      have hin : a.eeprom_offset.toNat + 128 ∈ a.area := ⟨by omega, by omega⟩
      rw [← h] at hin
      obtain ⟨k, hk, hi⟩ := hin
      have hi' := (a.mem_page_iff _ _).mp hi
      omega
    apply BitVec.eq_of_toNat_eq
    show a.test_len.toNat = 128
    omega
  · rintro ⟨hlen, hfits⟩
    have hlen' : a.test_len.toNat = 128 := congrArg BitVec.toNat hlen
    ext i
    constructor
    · rintro ⟨k, hk, hi⟩
      have hi' := (a.mem_page_iff k i).mp hi
      exact ⟨by omega, by omega⟩
    · rintro ⟨hle, hlt⟩
      refine ⟨(i - a.eeprom_offset.toNat) / 32, by omega, ?_⟩
      exact (a.mem_page_iff _ i).mpr ⟨by omega, by omega⟩

end AEepromReadWriteTest

/-- A memory that stores is such an EEPROM. -/
theorem Memory.stores_eeprom (bus_num : BitVec 8) (chip_address : BitVec 32) :
    Memory.eeprom.Stores bus_num chip_address Memory.cells (·.stores = true) where
  writel _ _ _ h := ⟨h, rfl⟩
  bus d h := ⟨0, d, rfl, h, rfl⟩
  chip _ _ d h := ⟨1, d, rfl, h, rfl⟩
  offset_len _ _ d h := ⟨d, rfl, h, rfl⟩
  wr_address _ _ h := ⟨h, rfl⟩
  write _ offset buffer d h _ := by
    refine ⟨d.write offset.toNat buffer, rfl, ?_, ?_⟩
    · rw [stores_write, h]
    · rw [write, if_pos h]
  read _ _ _ d h _ := ⟨_, d, rfl, fun _ _ => rfl, h, rfl⟩

/-- What the test reads back is the pages. -/
theorem EepromFrame.pages_eq_area {a : AEepromReadWriteTest} (h : EepromFrame a) :
    a.pages 4 = a.area := by
  let s : Fixture Memory := Fixture.atBoot ⟨true, fun _ => 0⟩
  have hstores := Memory.stores_eeprom a.i2c_bus_num (a.i2c_dev_addr.setWidth 32)
  obtain ⟨r, s', hrun, -, -, hread⟩ := h Memory Memory.eeprom Memory.cells _ hstores 0 s rfl
  obtain ⟨r', s'', hrun', -, hread'⟩ := run_eepromReadWriteTest_recorded hstores 0 s rfl
  rw [hrun] at hrun'
  cases hrun'
  rw [← hread', hread]

/-- **For which configurations the test keeps to its area.**  Exactly for those with an area
of 128 cells that begins at cell 159 or before. -/
theorem eeprom_frame_iff (a : AEepromReadWriteTest) :
    EepromFrame a ↔ a.test_len = 128 ∧ a.eeprom_offset.toNat ≤ 159 := by
  rw [← a.pages_eq_area_iff]
  refine ⟨EepromFrame.pages_eq_area, fun hpages D io cells P hstores testId s hP => ?_⟩
  obtain ⟨r, s', hrun, hcells, hread⟩ := run_eepromReadWriteTest_recorded hstores testId s hP
  rw [hpages] at hcells hread
  exact ⟨r, s', hrun, fun i hi => (hcells i).2 hi, fun i hi => (hcells i).1 hi, hread⟩

/-- An area of 64 cells is overrun; and the last page of an area that begins at cell 160 is
written to cell 0. -/
theorem eeprom_frame_fails :
    ¬ EepromFrame ⟨1, 0x50, 128, 64⟩ ∧ ¬ EepromFrame ⟨1, 0x50, 160, 128⟩ := by
  constructor
  · intro h
    have hcond := (AEepromReadWriteTest.pages_eq_area_iff _).mp h.pages_eq_area
    exact absurd hcond.1 (by decide)
  · intro h
    have hcond := (AEepromReadWriteTest.pages_eq_area_iff _).mp h.pages_eq_area
    exact absurd hcond.2 (by decide)

end BoardDiag
