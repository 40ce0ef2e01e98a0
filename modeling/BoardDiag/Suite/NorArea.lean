import BoardDiag.Suite.DeadStorage
import BoardDiag.Suite.Transfers

/-!
# What the NOR flash routine asks of the flash

`spi_flash_erase_read_write` reads an area, erases it, writes it back, reads it again
and erases once more.  Two questions are asked of it here, and in both the flash may
do whatever it likes.

The first is about the verdict: is zero returned exactly if all five operations have
succeeded and both readings have delivered the same?  The code of the second reading is
overwritten by that of the last erasure, so bytes it has not delivered may be there from
an earlier run; and the comparison goes over the whole buffers, whatever the length of the
area.  `area_verdict_iff` says when none of this matters: where the four codes the routine
looks at are zero and the second reading has delivered no byte that differs, it must have
succeeded as well, both readings must have delivered all bytes, and the area must be as
long as the buffers.

The second is about the operations: does each of them stay inside the flash and
inside the buffers?  The guard adds two 32-bit numbers, and the sum may wrap; it says
nothing about the buffers; and it does not know of the last erasure, which is of four
megabytes.  `area_access_safe_iff` says for which areas and sizes all of them do.
-/

namespace BoardDiag

open Machine

variable {D E : Type}

/-! ## The verdict -/

/-- What the flash answers to the five operations, in turn. -/
structure AreaAnswers where
  read₁ : BitVec 32 × (ℕ → Option Byte)
  erase₁ : BitVec 32
  write : BitVec 32
  read₂ : BitVec 32 × (ℕ → Option Byte)
  erase₂ : BitVec 32

/-- The five operations, with the first buffer as it is before.  What is written is what this
buffer holds after the first reading. -/
def SpiFlashDriver.areaAnswers (io : SpiFlashDriver D) (flash : Udevice)
    (offset len : BitVec 32) (buf₁ : Vector Byte spiTestLen) (d : D) : AreaAnswers :=
  let a₁ := io.spiFlashRead flash offset len d
  let a₂ := io.spiFlashErase flash offset len a₁.2
  let a₃ := io.spiFlashWrite flash offset
    ((deliver buf₁ len.toNat a₁.1.2).toList.take len.toNat) a₂.2
  let a₄ := io.spiFlashRead flash offset len a₃.2
  let a₅ := io.spiFlashErase flash offset 0x400000 a₄.2
  ⟨a₁.1, a₂.1, a₃.1, a₄.1, a₅.1⟩

namespace AreaAnswers

/-- The operations whose codes the routine looks at have succeeded. -/
def Noticed (a : AreaAnswers) : Prop :=
  a.read₁.1 = 0 ∧ a.erase₁ = 0 ∧ a.write = 0 ∧ a.erase₂ = 0

/-- Both readings have delivered all bytes, and the same. -/
def SameData (a : AreaAnswers) (len : ℕ) : Prop :=
  ∀ i < len, ∃ byte, a.read₁.2 i = some byte ∧ a.read₂.2 i = some byte

/-- All operations have succeeded, and both readings have delivered the same. -/
def Good (a : AreaAnswers) (len : ℕ) : Prop :=
  (a.read₁.1 = 0 ∧ a.erase₁ = 0 ∧ a.write = 0 ∧ a.read₂.1 = 0 ∧ a.erase₂ = 0) ∧ a.SameData len

/-- The second reading has delivered no byte that differs from what the first buffer holds
after the first reading. -/
def Unopposed (a : AreaAnswers) (buf₁ : Vector Byte spiTestLen) (len : ℕ) : Prop :=
  ∀ i (hi : i < spiTestLen), i < len →
    ∀ byte, a.read₂.2 i = some byte → byte = (a.read₁.2 i).getD buf₁[i]

/-- The two buffers begin alike after both readings. -/
def SameBegins (a : AreaAnswers) (n : NorStatics) (len : ℕ) : Prop :=
  ∀ i (hi : i < spiTestLen), i < len →
    (a.read₁.2 i).getD n.dataTestBuf1[i] = (a.read₂.2 i).getD n.dataTestBuf2[i]

theorem Good.noticed {a : AreaAnswers} {len : ℕ} (h : a.Good len) : a.Noticed :=
  ⟨h.1.1, h.1.2.1, h.1.2.2.1, h.1.2.2.2.2⟩

theorem SameData.sameBegins {a : AreaAnswers} {len : ℕ} (h : a.SameData len) (n : NorStatics) :
    a.SameBegins n len := by
  intro i hi hlen
  obtain ⟨byte, hread₁, hread₂⟩ := h i hlen
  rw [hread₁, hread₂, Option.getD_some, Option.getD_some]

theorem SameBegins.unopposed {a : AreaAnswers} {n : NorStatics} {len : ℕ}
    (h : a.SameBegins n len) : a.Unopposed n.dataTestBuf1 len := by
  intro i hi hlen byte hread₂
  rw [h i hi hlen, hread₂, Option.getD_some]

/-- If nothing differs, the buffers begin alike once the second has been so before. -/
theorem Unopposed.sameBegins {a : AreaAnswers} {buf₁ : Vector Byte spiTestLen} {len : ℕ}
    (h : a.Unopposed buf₁ len) (flash : Option Udevice) :
    a.SameBegins ⟨flash, buf₁, deliver buf₁ len a.read₁.2⟩ len := by
  intro i hi hlen
  cases hread₂ : a.read₂.2 i with
  | none =>
      rw [Option.getD_none]
      exact (getElem_deliver_of_lt buf₁ a.read₁.2 hi hlen).symm
  | some byte => exact (h i hi hlen byte hread₂).symm

end AreaAnswers

section Verdict

variable {io : SpiFlashDriver D} {flash : Udevice} {offset len : BitVec 32}

/-- An area inside the flash passes the guard. -/
theorem not_guard {size : BitVec 32} (hfits : offset.toNat + len.toNat ≤ size.toNat) :
    ¬ offset + len > size := by
  have hlt := size.isLt
  rw [gt_iff_lt, BitVec.lt_def, BitVec.toNat_add]
  omega

/-- The program returns zero if `p` holds, and `-1` otherwise. -/
def Returns (p : Prop) (x : TestProg D ℤ) (s : Fixture D) : Prop :=
  ∃ r s', x.run s = .ok r s' ∧ (r = 0 ∨ r = -1) ∧ (r = 0 ↔ p)

theorem Returns.after {α : Type} {p : Prop} {x : TestProg D α} {f : α → TestProg D ℤ}
    {s t : Fixture D} {a : α} (hx : x.run s = .ok a t) (hf : Returns p (f a) t) :
    Returns p (x >>= f) s := by
  obtain ⟨r, s', hrun, hr, hp⟩ := hf
  refine ⟨r, s', ?_, hr, hp⟩
  rw [EStateM.run_bind, hx]
  exact hrun

/-- A program that gives up if a code is not zero. -/
theorem Returns.check {p : Prop} {x : TestProg D (BitVec 32)} {y : TestProg D ℤ}
    {s t : Fixture D} {ret : BitVec 32} (hx : x.run s = .ok ret t) (hy : Returns p y t) :
    Returns (ret = 0 ∧ p) (do
      let ret ← x
      if ret ≠ 0 then
        return -1
      y) s := by
  refine .after hx ?_
  by_cases hret : ret = 0
  · rw [if_neg (not_not.mpr hret), and_iff_right hret]
    exact hy
  · rw [if_pos hret]
    exact ⟨-1, t, rfl, .inr rfl, iff_of_false (by decide) fun h => hret h.1⟩

/-- The comparison at the end. -/
theorem returns_compareBufs {n : NorStatics} {a : AreaAnswers} {len : ℕ} {s : Fixture D}
    (hn : s.nor = (n.fill len a.read₁.2 .buf1).fill len a.read₂.2 .buf2) :
    Returns (a.SameBegins n len ∧ n.SameEnds len) (do
      let s ← get
      if s.nor.dataTestBuf1 ≠ s.nor.dataTestBuf2 then
        return -1
      return 0 : TestProg D ℤ) s := by
  have hsame : s.nor.dataTestBuf1 = s.nor.dataTestBuf2 ↔
      a.SameBegins n len ∧ n.SameEnds len := by
    rw [hn]
    exact n.fill_same_iff len a.read₁.2 a.read₂.2
  refine .after (a := s) (t := s) rfl ?_
  by_cases hbufs : s.nor.dataTestBuf1 = s.nor.dataTestBuf2
  · rw [if_neg (not_not.mpr hbufs)]
    exact ⟨0, s, rfl, .inl rfl, iff_of_true rfl (hsame.mp hbufs)⟩
  · rw [if_pos hbufs]
    exact ⟨-1, s, rfl, .inr rfl, iff_of_false (by decide) fun h => hbufs (hsame.mpr h)⟩

/-- **What the routine returns**, for an area that passes the guard and fits the buffers:
zero exactly if the codes it looks at are zero, the buffers begin alike after both readings,
and they ended alike before. -/
theorem returns_spiFlashEraseReadWrite {s : Fixture D} (hflash : s.nor.flash = some flash)
    (hguard : ¬ offset + len > io.size flash s.dev) (hlen : len.toNat ≤ spiTestLen) :
    Returns ((io.areaAnswers flash offset len s.nor.dataTestBuf1 s.dev).Noticed ∧
        (io.areaAnswers flash offset len s.nor.dataTestBuf1 s.dev).SameBegins s.nor len.toNat ∧
        s.nor.SameEnds len.toNat)
      (spiFlashEraseReadWrite io offset len) s := by
  rcases hread₁ : io.spiFlashRead flash offset len s.dev with ⟨⟨ret₁, data₁⟩, d₁⟩
  rcases herase₁ : io.spiFlashErase flash offset len d₁ with ⟨ret₂, d₂⟩
  rcases hwrite : io.spiFlashWrite flash offset
    ((deliver s.nor.dataTestBuf1 len.toNat data₁).toList.take len.toNat) d₂ with ⟨ret₃, d₃⟩
  rcases hread₂ : io.spiFlashRead flash offset len d₃ with ⟨⟨ret₄, data₂⟩, d₄⟩
  rcases herase₂ : io.spiFlashErase flash offset 0x400000 d₄ with ⟨ret₅, d₅⟩
  have hanswers : io.areaAnswers flash offset len s.nor.dataTestBuf1 s.dev =
      ⟨(ret₁, data₁), ret₂, ret₃, (ret₄, data₂), ret₅⟩ := by
    simp only [SpiFlashDriver.areaAnswers, hread₁, herase₁, hwrite, hread₂, herase₂]
  rw [hanswers]
  have hsteps : Returns (ret₁ = 0 ∧ ret₂ = 0 ∧ ret₃ = 0 ∧ ret₅ = 0 ∧
      AreaAnswers.SameBegins ⟨(ret₁, data₁), ret₂, ret₃, (ret₄, data₂), ret₅⟩ s.nor len.toNat ∧
      s.nor.SameEnds len.toNat) (spiFlashEraseReadWrite io offset len) s := by
    refine .after (a := s) (t := s) rfl ?_
    rw [hflash, deref_some, pure_bind, if_neg hguard]
    refine .check (run_readInto hread₁ hlen .buf1) ?_
    refine .check (t := { s with nor := s.nor.fill len.toNat data₁ .buf1, dev := d₂ })
      (by rw [run_drive, herase₁]) ?_
    refine .check (run_writeBuf1 hwrite hlen) ?_
    refine .after (run_readInto hread₂ hlen .buf2) ?_
    refine .check (by rw [run_drive, herase₂]) ?_
    exact returns_compareBufs (a := ⟨(ret₁, data₁), ret₂, ret₃, (ret₄, data₂), ret₅⟩) rfl
  simpa only [AreaAnswers.Noticed, and_assoc] using hsteps

/-- **A verdict that is right**: for a flash in a given state there is one answer, whatever
the buffers hold, and it is zero exactly if all has gone well. -/
def AreaVerdictRight (io : SpiFlashDriver D) (flash : Udevice) (offset len : BitVec 32)
    (d : D) : Prop :=
  ∃ r : ℤ, ∀ s : Fixture D, s.nor.flash = some flash → s.dev = d →
    (r = 0 ↔ (io.areaAnswers flash offset len s.nor.dataTestBuf1 d).Good len.toNat) ∧
      ∃ s', (spiFlashEraseReadWrite io offset len).run s = .ok r s'

/-- A fixture with the flash found and two given buffers. -/
def Fixture.withBufs (d : D) (flash : Udevice) (buf₁ buf₂ : Vector Byte spiTestLen) :
    Fixture D :=
  { Fixture.atBoot d with nor := ⟨some flash, buf₁, buf₂⟩ }

theorem returns_of_fits {d : D} (hfits : offset.toNat + len.toNat ≤ (io.size flash d).toNat)
    (hlen : len.toNat ≤ spiTestLen) {s : Fixture D} (hflash : s.nor.flash = some flash)
    (hdev : s.dev = d) :
    Returns ((io.areaAnswers flash offset len s.nor.dataTestBuf1 d).Noticed ∧
        (io.areaAnswers flash offset len s.nor.dataTestBuf1 d).SameBegins s.nor len.toNat ∧
        s.nor.SameEnds len.toNat)
      (spiFlashEraseReadWrite io offset len) s := by
  subst hdev
  exact returns_spiFlashEraseReadWrite hflash (not_guard hfits) hlen

/-- Where the first reading delivers all bytes, the first buffer makes no difference. -/
theorem areaAnswers_congr {d : D} {buf : Vector Byte spiTestLen}
    (h : ∀ i < len.toNat, ((io.areaAnswers flash offset len buf d).read₁.2 i).isSome)
    (buf₁ : Vector Byte spiTestLen) :
    io.areaAnswers flash offset len buf₁ d = io.areaAnswers flash offset len buf d := by
  have hbytes : (deliver buf₁ len.toNat (io.spiFlashRead flash offset len d).1.2).toList.take
      len.toNat = (deliver buf len.toNat (io.spiFlashRead flash offset len d).1.2).toList.take
      len.toNat := take_toList_deliver buf₁ buf h
  rw [SpiFlashDriver.areaAnswers, SpiFlashDriver.areaAnswers, hbytes]

/-- A right verdict where the second reading delivers nothing that differs takes a second
reading that succeeds, data that agree, and an area as long as the buffers. -/
theorem AreaVerdictRight.good_and_len {d : D} (h : AreaVerdictRight io flash offset len d)
    (hfits : offset.toNat + len.toNat ≤ (io.size flash d).toNat)
    (hlen : len.toNat ≤ spiTestLen) (buf₁ : Vector Byte spiTestLen)
    (hnoticed : (io.areaAnswers flash offset len buf₁ d).Noticed)
    (hunopposed : (io.areaAnswers flash offset len buf₁ d).Unopposed buf₁ len.toNat) :
    (io.areaAnswers flash offset len buf₁ d).Good len.toNat ∧ len.toNat = spiTestLen := by
  obtain ⟨r, hr⟩ := h
  -- the answer, as each second buffer has it
  have hbuf₂ : ∀ buf₂, (r = 0 ↔
      (io.areaAnswers flash offset len buf₁ d).SameBegins ⟨some flash, buf₁, buf₂⟩ len.toNat ∧
        (NorStatics.mk (some flash) buf₁ buf₂).SameEnds len.toNat) := by
    intro buf₂
    obtain ⟨-, s', hs'⟩ := hr (Fixture.withBufs d flash buf₁ buf₂) rfl rfl
    obtain ⟨r', s'', hs'', -, hr'⟩ :=
      returns_of_fits hfits hlen (s := Fixture.withBufs d flash buf₁ buf₂) rfl rfl
    rw [hs'] at hs''
    injection hs'' with hrr
    rw [hrr, hr']
    exact and_iff_right hnoticed
  -- a second buffer that holds already what the first will hold
  have hzero : r = 0 := (hbuf₂ _).mpr ⟨hunopposed.sameBegins (some flash), fun i hi hle =>
    (getElem_deliver_of_le buf₁ _ hi hle).symm⟩
  refine ⟨((hr (Fixture.withBufs d flash buf₁ buf₁) rfl rfl).1).mp hzero, ?_⟩
  by_contra hne
  have hends := ((hbuf₂ (buf₁.map (· + 1))).mp hzero).2 len.toNat (by omega) (Nat.le_refl _)
  simp only [Vector.getElem_map] at hends
  exact absurd hends (by grind)

/-- **When the verdict is right.**  For every flash, whatever it answers and delivers, and
every area inside it that fits the buffers: the routine returns zero exactly if all
five operations have succeeded and both readings have delivered the same, whatever the
buffers held before, if and only if, for whatever the first buffer held, where the codes it
looks at are zero and the second reading has delivered no byte that differs, the second
reading has succeeded too, both have delivered all bytes, and the area is as long as the
buffers. -/
theorem area_verdict_iff {d : D} (hfits : offset.toNat + len.toNat ≤ (io.size flash d).toNat)
    (hlen : len.toNat ≤ spiTestLen) :
    AreaVerdictRight io flash offset len d ↔
      ∀ buf₁, (io.areaAnswers flash offset len buf₁ d).Noticed →
        (io.areaAnswers flash offset len buf₁ d).Unopposed buf₁ len.toNat →
        (io.areaAnswers flash offset len buf₁ d).read₂.1 = 0 ∧
          (io.areaAnswers flash offset len buf₁ d).SameData len.toNat ∧
          len.toNat = spiTestLen := by
  constructor
  · intro h buf₁ hnoticed hunopposed
    obtain ⟨hgood, hfull⟩ := h.good_and_len hfits hlen buf₁ hnoticed hunopposed
    exact ⟨hgood.1.2.2.2.1, hgood.2, hfull⟩
  · intro hcond
    by_cases hboth : ∃ buf₁, (io.areaAnswers flash offset len buf₁ d).Noticed ∧
        (io.areaAnswers flash offset len buf₁ d).Unopposed buf₁ len.toNat
    · obtain ⟨buf, hnoticed, hunopposed⟩ := hboth
      obtain ⟨hread₂, hdata, hfull⟩ := hcond buf hnoticed hunopposed
      have hall : ∀ i < len.toNat,
          ((io.areaAnswers flash offset len buf d).read₁.2 i).isSome := by
        intro i hi
        obtain ⟨byte, hread₁, -⟩ := hdata i hi
        rw [hread₁, Option.isSome_some]
      obtain ⟨hread₁, herase₁, hwrite, herase₂⟩ := hnoticed
      refine ⟨0, fun s hflash hdev => ?_⟩
      obtain ⟨r, s', hrun, -, hr⟩ := returns_of_fits hfits hlen hflash hdev
      rw [areaAnswers_congr hall] at hr ⊢
      refine ⟨iff_of_true rfl ⟨⟨hread₁, herase₁, hwrite, hread₂, herase₂⟩, hdata⟩, s', ?_⟩
      obtain rfl : r = 0 := hr.mpr ⟨⟨hread₁, herase₁, hwrite, herase₂⟩, hdata.sameBegins s.nor,
        fun i hi hle => absurd hi (by omega)⟩
      exact hrun
    · refine ⟨-1, fun s hflash hdev => ⟨iff_of_false (by decide) fun hgood => ?_, ?_⟩⟩
      · exact hboth ⟨_, hgood.noticed, (hgood.2.sameBegins s.nor).unopposed⟩
      · obtain ⟨r, s', hrun, rfl | rfl, hr⟩ := returns_of_fits hfits hlen hflash hdev
        · obtain ⟨hnoticed, hbegins, -⟩ := hr.mp rfl
          exact absurd ⟨_, hnoticed, hbegins.unopposed⟩ hboth
        · exact ⟨s', hrun⟩

/-- A flash of the given size that holds zeros and whose operations all succeed, except
that every reading after the first returns `later` and delivers `delivered` at each index.
The state says whether there has been one. -/
def zeroFlash (size later : BitVec 32) (delivered : Option Byte) : SpiFlashDriver Bool where
  writel _ _ d := d
  spiFindBusAndCs _ _ d := ((0, some 0), d)
  deviceRemove _ d := (0, d)
  spiFlashProbeBusCs _ _ d := ((0, some 0), d)
  size _ _ := size
  spiFlashRead _ _ _ d := (if d then (later, fun _ => delivered) else (0, fun _ => some 0), true)
  spiFlashErase _ _ _ d := (0, d)
  spiFlashWrite _ _ _ d := (0, d)

/-- With an area as long as the buffers, the verdict on a flash that works is right. -/
theorem zeroFlash_verdict :
    AreaVerdictRight (zeroFlash 0x400000 0 (some 0)) 0 0 0x20000 false :=
  (area_verdict_iff (by decide) (by decide)).mpr fun _ _ _ =>
    ⟨rfl, fun _ _ => ⟨0, rfl, rfl⟩, rfl⟩

/-- With a shorter area it is not; neither is it if the second reading fails, whether it has
delivered its bytes or none. -/
theorem zeroFlash_verdict_wrong :
    ¬ AreaVerdictRight (zeroFlash 0x400000 0 (some 0)) 0 0 0x10000 false ∧
      ¬ AreaVerdictRight (zeroFlash 0x400000 (-5) (some 0)) 0 0 0x20000 false ∧
      ¬ AreaVerdictRight (zeroFlash 0x400000 (-5) none) 0 0 0x20000 false := by
  refine ⟨fun h => ?_, fun h => ?_, fun h => ?_⟩
  · have hfull := (h.good_and_len (by decide) (by decide) (Vector.replicate _ 0)
      ⟨rfl, rfl, rfl, rfl⟩ fun _ _ _ _ hbyte => (Option.some.inj hbyte).symm).2
    exact absurd hfull (by decide)
  · have hgood := (h.good_and_len (by decide) (by decide) (Vector.replicate _ 0)
      ⟨rfl, rfl, rfl, rfl⟩ fun _ _ _ _ hbyte => (Option.some.inj hbyte).symm).1
    exact absurd hgood.1.2.2.2.1 (by decide)
  · have hgood := (h.good_and_len (by decide) (by decide) (Vector.replicate _ 0)
      ⟨rfl, rfl, rfl, rfl⟩ fun _ _ _ _ hbyte => nomatch hbyte).1
    exact absurd hgood.1.2.2.2.1 (by decide)

end Verdict

/-! ## The operations -/

/-- An operation on the flash, with the range it is for. -/
inductive FlashCall where
  | spiFlashRead (offset len : BitVec 32)
  | spiFlashErase (offset len : BitVec 32)
  | spiFlashWrite (offset : BitVec 32) (len : ℕ)

/-- The operation stays inside a flash of the given size and, if it moves data, inside the
buffers. -/
def FlashCall.Inside (size : ℕ) : FlashCall → Prop
  | .spiFlashRead offset len => offset.toNat + len.toNat ≤ size ∧ len.toNat ≤ spiTestLen
  | .spiFlashErase offset len => offset.toNat + len.toNat ≤ size
  | .spiFlashWrite offset len => offset.toNat + len ≤ size ∧ len ≤ spiTestLen

/-- What the first driver does to a part of the board is what the second does. -/
structure SpiFlashDriver.Through (view : D → E) (io : SpiFlashDriver D)
    (io' : SpiFlashDriver E) : Prop where
  writel : ∀ value addr d, view (io.writel value addr d) = io'.writel value addr (view d)
  find : ∀ bus cs d, Prod.map id view (io.spiFindBusAndCs bus cs d) =
    io'.spiFindBusAndCs bus cs (view d)
  remove : ∀ dev d, Prod.map id view (io.deviceRemove dev d) = io'.deviceRemove dev (view d)
  probe : ∀ bus cs d, Prod.map id view (io.spiFlashProbeBusCs bus cs d) =
    io'.spiFlashProbeBusCs bus cs (view d)
  size : ∀ flash d, io.size flash d = io'.size flash (view d)
  read : ∀ flash offset len d, Prod.map id view (io.spiFlashRead flash offset len d) =
    io'.spiFlashRead flash offset len (view d)
  erase : ∀ flash offset len d, Prod.map id view (io.spiFlashErase flash offset len d) =
    io'.spiFlashErase flash offset len (view d)
  write : ∀ flash offset buf d, Prod.map id view (io.spiFlashWrite flash offset buf d) =
    io'.spiFlashWrite flash offset buf (view d)

section Through

variable {view : D → E} {io : SpiFlashDriver D} {io' : SpiFlashDriver E}
  (h : io.Through view io')

include h

theorem through_readInto (buf : TestBuf) (flash : Udevice) (offset len : BitVec 32) :
    Through (Fixture.part view) (readInto io buf flash offset len)
      (readInto io' buf flash offset len) := by
  refine .bind (through_drive fun d => h.read flash offset len d) fun _ => ?_
  refine .ite (.bind (.throw _) fun _ => ?_) ?_
  · exact .bind (.modify fun _ => rfl) fun _ => .pure _
  · exact .bind (.modify fun _ => rfl) fun _ => .pure _

theorem through_writeBuf1 (flash : Udevice) (offset len : BitVec 32) :
    Through (Fixture.part view) (writeBuf1 io flash offset len)
      (writeBuf1 io' flash offset len) := by
  have hwrite : ∀ buf, Through (Fixture.part view) (drive (io.spiFlashWrite flash offset buf))
      (drive (io'.spiFlashWrite flash offset buf)) :=
    fun buf => through_drive fun d => h.write flash offset buf d
  refine .bind_get fun s => ?_
  exact .ite (.bind (.throw _) fun _ => hwrite _) (hwrite _)

theorem through_spiFlashEraseReadWrite (offset len : BitVec 32) :
    Through (Fixture.part view) (spiFlashEraseReadWrite io offset len)
      (spiFlashEraseReadWrite io' offset len) := by
  refine .bind_get fun s => .bind (through_deref _) fun flash => ?_
  rw [show (s.part view).dev = view s.dev from rfl, ← h.size]
  refine .ite (.pure _) (.bind (through_readInto h _ _ _ _) fun _ => .ite (.pure _) ?_)
  refine .bind (through_drive fun d => h.erase flash offset len d) fun _ => .ite (.pure _) ?_
  refine .bind (through_writeBuf1 h _ _ _) fun _ => .ite (.pure _) ?_
  refine .bind (through_readInto h _ _ _ _) fun _ => ?_
  refine .bind (through_drive fun d => h.erase flash offset _ d) fun _ => .ite (.pure _) ?_
  exact .bind_get fun s => .ite (.pure _) (.pure _)

end Through

/-- The drivers, with a record of the operations on the flash. -/
def SpiFlashDriver.recorded (io : SpiFlashDriver D) : SpiFlashDriver (Recorded D FlashCall) where
  writel value addr := quietly (io.writel value addr)
  spiFindBusAndCs bus cs := unrecorded (io.spiFindBusAndCs bus cs)
  deviceRemove dev := unrecorded (io.deviceRemove dev)
  spiFlashProbeBusCs bus cs := unrecorded (io.spiFlashProbeBusCs bus cs)
  size flash d := io.size flash d.dev
  spiFlashRead flash offset len :=
    record (io.spiFlashRead flash offset len) fun _ => .spiFlashRead offset len
  spiFlashErase flash offset len :=
    record (io.spiFlashErase flash offset len) fun _ => .spiFlashErase offset len
  spiFlashWrite flash offset buf :=
    record (io.spiFlashWrite flash offset buf) fun _ => .spiFlashWrite offset buf.length

theorem SpiFlashDriver.through_recorded (io : SpiFlashDriver D) :
    io.recorded.Through Recorded.dev io :=
  ⟨fun _ _ _ => rfl, fun _ _ _ => rfl, fun _ _ => rfl, fun _ _ _ => rfl, fun _ _ => rfl,
    fun _ _ _ _ => rfl, fun _ _ _ _ => rfl, fun _ _ _ _ => rfl⟩

/-- **Nothing depends on the record being kept.** -/
theorem through_recorded_spiFlashEraseReadWrite (io : SpiFlashDriver D) (offset len : BitVec 32) :
    Through (Fixture.part Recorded.dev) (spiFlashEraseReadWrite io.recorded offset len)
      (spiFlashEraseReadWrite io offset len) :=
  through_spiFlashEraseReadWrite io.through_recorded offset len

/-- The five operations. -/
def areaCalls (offset len : BitVec 32) : List FlashCall :=
  [.spiFlashRead offset len, .spiFlashErase offset len, .spiFlashWrite offset len.toNat,
    .spiFlashRead offset len, .spiFlashErase offset 0x400000]

section Operations

variable {io : SpiFlashDriver D} {flash : Udevice} {offset len : BitVec 32}
  {log calls : List FlashCall}

theorem triple_readInto_recorded (buf : TestBuf) (hlen : len.toNat ≤ spiTestLen) :
    Triple (fun s => s.dev.log = log ++ calls) (readInto io.recorded buf flash offset len)
      fun _ s => s.dev.log = log ++ (calls ++ [.spiFlashRead offset len]) := by
  intro s hs
  exact ⟨_, _, run_readInto rfl hlen buf, append_log hs _⟩

theorem triple_erase_recorded (len : BitVec 32) :
    Triple (fun s => s.dev.log = log ++ calls)
      (drive (io.recorded.spiFlashErase flash offset len))
      fun _ s => s.dev.log = log ++ (calls ++ [.spiFlashErase offset len]) := by
  intro s hs
  exact ⟨_, _, rfl, append_log hs _⟩

theorem triple_writeBuf1_recorded (hlen : len.toNat ≤ spiTestLen) :
    Triple (fun s => s.dev.log = log ++ calls) (writeBuf1 io.recorded flash offset len)
      fun _ s => s.dev.log = log ++ (calls ++ [.spiFlashWrite offset len.toNat]) := by
  intro s hs
  have hlist : (s.nor.dataTestBuf1.toList.take len.toNat).length = len.toNat := by
    rw [List.length_take, Vector.length_toList]
    exact Nat.min_eq_left hlen
  refine ⟨_, _, run_writeBuf1 rfl hlen, ?_⟩
  show s.dev.log ++ [FlashCall.spiFlashWrite offset (List.length _)] = _
  rw [hlist]
  exact append_log hs _

/-- **The routine performs the five operations in turn**, as far as it comes, and all of
them if it returns zero. -/
theorem triple_areaCalls (s₀ : Fixture (Recorded D FlashCall))
    (hflash : s₀.nor.flash = some flash)
    (hguard : ¬ offset + len > io.recorded.size flash s₀.dev) (hlen : len.toNat ≤ spiTestLen) :
    Triple (fun s => s = s₀) (spiFlashEraseReadWrite io.recorded offset len)
      fun r s => ∃ calls, s.dev.log = s₀.dev.log ++ calls ∧ calls <+: areaCalls offset len ∧
        (r = 0 → calls = areaCalls offset len) := by
  have hgiveUp : ∀ calls, calls <+: areaCalls offset len →
      Triple (fun s : Fixture (Recorded D FlashCall) => s.dev.log = s₀.dev.log ++ calls)
        (pure (-1)) fun r s => ∃ calls, s.dev.log = s₀.dev.log ++ calls ∧
          calls <+: areaCalls offset len ∧ ((r : ℤ) = 0 → calls = areaCalls offset len) :=
    fun calls hcalls => .pure fun s hs => ⟨calls, hs, hcalls, fun h => absurd h (by decide)⟩
  unfold spiFlashEraseReadWrite
  refine .bind (.get (Q := fun t s => t = s₀ ∧ s.dev.log = s₀.dev.log ++ []) ?_)
    fun t => .of_fact fun ht => ?_
  · rintro s rfl
    exact ⟨rfl, (List.append_nil _).symm⟩
  rw [ht, hflash, deref_some, pure_bind, if_neg hguard]
  refine .bind (triple_readInto_recorded .buf1 hlen) fun _ =>
    .ite (fun _ => hgiveUp _ ⟨_, rfl⟩) fun _ => ?_
  refine .bind (triple_erase_recorded len) fun _ =>
    .ite (fun _ => hgiveUp _ ⟨_, rfl⟩) fun _ => ?_
  refine .bind (triple_writeBuf1_recorded hlen) fun _ =>
    .ite (fun _ => hgiveUp _ ⟨_, rfl⟩) fun _ => ?_
  refine .bind (triple_readInto_recorded .buf2 hlen) fun _ => ?_
  refine .bind (triple_erase_recorded _) fun _ =>
    .ite (fun _ => hgiveUp _ ⟨_, rfl⟩) fun _ => ?_
  refine .bind (.get fun s hs => hs) fun t => .ite (fun _ => hgiveUp _ ⟨_, rfl⟩) fun _ => ?_
  exact .pure fun s hs => ⟨_, hs, ⟨[], List.append_nil _⟩, fun _ => rfl⟩

/-- **Accesses that stay inside.**  Whatever a flash of the given size does, the routine
returns, each operation it performs stays inside the flash and the buffers, and an area
that does not is turned down before anything is done. -/
def AreaAccessSafe (offset len size : BitVec 32) : Prop :=
  ∀ (D : Type) (io : SpiFlashDriver D) (flash : Udevice) (s : Fixture (Recorded D FlashCall)),
    s.nor.flash = some flash → io.size flash s.dev.dev = size →
    ∃ r s' calls, (spiFlashEraseReadWrite io.recorded offset len).run s = .ok r s' ∧
      s'.dev.log = s.dev.log ++ calls ∧ (∀ c ∈ calls, c.Inside size.toNat) ∧
      (¬ (offset.toNat + len.toNat ≤ size.toNat ∧ len.toNat ≤ spiTestLen) →
        r = -1 ∧ calls = [])

/-- An area the guard turns down. -/
theorem run_spiFlashEraseReadWrite_of_guard {s : Fixture D} (hflash : s.nor.flash = some flash)
    (hguard : offset + len > io.size flash s.dev) :
    (spiFlashEraseReadWrite io offset len).run s = .ok (-1) s := by
  rw [spiFlashEraseReadWrite, EStateM.run_bind, EStateM.run_get]
  simp only
  rw [hflash, deref_some, pure_bind, if_pos hguard]
  rfl

/-- An area the guard lets through although it is too long runs over the buffers. -/
theorem run_spiFlashEraseReadWrite_of_long {s : Fixture D} (hflash : s.nor.flash = some flash)
    (hguard : ¬ offset + len > io.size flash s.dev) (hlen : spiTestLen < len.toNat) :
    ∃ s', (spiFlashEraseReadWrite io offset len).run s = .error .outOfBounds s' := by
  refine ⟨{ s with dev := (io.spiFlashRead flash offset len s.dev).2 }, ?_⟩
  rw [spiFlashEraseReadWrite, EStateM.run_bind, EStateM.run_get]
  simp only
  rw [hflash, deref_some, pure_bind, if_neg hguard, EStateM.run_bind, readInto,
    EStateM.run_bind, run_drive]
  simp only
  rw [if_pos hlen]
  rfl

/-- Where the buffers and the last erasure fit, all five operations stay inside. -/
theorem areaCalls_inside {size : BitVec 32} (hlen : len.toNat ≤ spiTestLen)
    (hlast : offset.toNat + 0x400000 ≤ size.toNat) :
    ∀ c ∈ areaCalls offset len, c.Inside size.toNat := by
  have hfits : offset.toNat + len.toNat ≤ size.toNat := by
    have : spiTestLen ≤ 0x400000 := by decide
    omega
  simp only [areaCalls, List.forall_mem_cons, FlashCall.Inside]
  exact ⟨⟨hfits, hlen⟩, hfits, ⟨hfits, hlen⟩, ⟨hfits, hlen⟩, hlast, nofun⟩

/-- Accesses stay inside only if the guard turns the area down, or the buffers and the last
erasure fit. -/
theorem AreaAccessSafe.guard_or_fits {size : BitVec 32} (h : AreaAccessSafe offset len size) :
    offset + len > size ∨
      (len.toNat ≤ spiTestLen ∧ offset.toNat + 0x400000 ≤ size.toNat) := by
  by_cases hguard : offset + len > size
  · exact .inl hguard
  -- a flash on which everything succeeds
  let io := zeroFlash size 0 (some 0)
  let s₀ : Fixture (Recorded Bool FlashCall) :=
    Fixture.withBufs ⟨false, []⟩ 0 (Vector.replicate _ 0) (Vector.replicate _ 0)
  obtain ⟨r, s', calls, hrun, hlog, hinside, -⟩ := h Bool io 0 s₀ rfl rfl
  have hlen : len.toNat ≤ spiTestLen := by
    by_contra hlong
    obtain ⟨s'', hstop⟩ : ∃ s'', (spiFlashEraseReadWrite io.recorded offset len).run s₀ =
        .error .outOfBounds s'' :=
      run_spiFlashEraseReadWrite_of_long rfl hguard (Nat.not_le.mp hlong)
    rw [hrun] at hstop
    cases hstop
  have hzero : r = 0 := by
    have hreturns : Returns _ (spiFlashEraseReadWrite io.recorded offset len) s₀ :=
      returns_spiFlashEraseReadWrite rfl hguard hlen
    obtain ⟨r', s'', hrun', -, hr'⟩ := hreturns
    rw [hrun] at hrun'
    injection hrun' with hrr
    rw [hrr, hr']
    exact ⟨⟨rfl, rfl, rfl, rfl⟩, fun _ _ _ => rfl, fun _ _ _ => rfl⟩
  have hcalls : Triple _ (spiFlashEraseReadWrite io.recorded offset len) _ :=
    triple_areaCalls s₀ rfl hguard hlen
  obtain ⟨r', s'', hrun', calls', hlog', -, hall⟩ := hcalls s₀ rfl
  rw [hrun] at hrun'
  cases hrun'
  obtain rfl : calls = calls' := List.append_cancel_left (hlog.symm.trans hlog')
  rw [hall hzero] at hinside
  exact .inr ⟨hlen, hinside (.spiFlashErase offset 0x400000) (by simp [areaCalls])⟩

end Operations

/-- **For which areas the accesses stay inside.**  Exactly for those that are turned down
by the guard --- the sum of offset and length, taken modulo `2 ^ 32`, is greater than
the size --- and for those that fit the buffers and start four megabytes or more before
the end of the flash. -/
theorem area_access_safe_iff (offset len size : BitVec 32) :
    AreaAccessSafe offset len size ↔ offset + len > size ∨
      (len.toNat ≤ spiTestLen ∧ offset.toNat + 0x400000 ≤ size.toNat) := by
  refine ⟨AreaAccessSafe.guard_or_fits, fun hcond D io flash s hflash hsize => ?_⟩
  by_cases hguard : offset + len > size
  · refine ⟨-1, s, [], ?_, (List.append_nil _).symm, nofun, fun _ => ⟨rfl, rfl⟩⟩
    exact run_spiFlashEraseReadWrite_of_guard hflash (by rwa [← hsize] at hguard)
  · obtain ⟨hlen, hlast⟩ := hcond.resolve_left hguard
    obtain ⟨r, s', hrun, calls, hlog, ⟨rest, hrest⟩, -⟩ :=
      triple_areaCalls s hflash (by rwa [← hsize] at hguard) hlen s rfl
    have hinside := areaCalls_inside hlen hlast
    rw [← hrest] at hinside
    refine ⟨r, s', calls, hrun, hlog, fun c hc => hinside c (List.mem_append_left rest hc), ?_⟩
    intro hnot
    have hbuf : spiTestLen ≤ 0x400000 := by decide
    exact absurd ⟨by omega, hlen⟩ hnot

/-- On a flash of four megabytes, the last erasure after an area that does not start at the
beginning runs past the end; and an area whose end wraps around to the beginning is let
through. -/
theorem area_access_not_safe :
    ¬ AreaAccessSafe 0x10000 0x10000 0x400000 ∧ ¬ AreaAccessSafe 0xFFFF0000 0x20000 0x400000 := by
  constructor
  · intro h
    exact absurd h.guard_or_fits (by decide)
  · intro h
    exact absurd h.guard_or_fits (by decide)

end BoardDiag
