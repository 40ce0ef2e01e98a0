import BoardDiag.Driver.I2cUclass
import Mathlib.Data.List.Nodup

/-!
# The table of chips

What becomes of the table of `drivers/i2c/i2c-uclass.c` over any sequence of calls.

A test gets a device from `i2c_get_chip` and uses it for its transfers; the next test
gets one again, for the same chip or for another.  In between the core may have been asked
about any number of chips, whether they are there or not, and may have failed to bind or to
probe some.

A chip answers to an address if the address, without the bits of the chip's offset mask, is
its own.  As long as nobody sets a mask, the entries of the table stay where they are and
answer to what they answered to, and a chip is added only if none answers for it.
`getChip_stable` says what follows: the device stands for its chip as long as U-Boot runs, and
a later call gets it exactly if the chip answers to what is asked for.

Nothing is assumed of the controllers.
-/

namespace BoardDiag

variable {W D α : Type}

/-! ## Running the core -/

section GetChip

variable {io : I2cController W} {bus dev : Udevice} {chip_addr ret : BitVec 32}
  {s : I2cCore W} {w w' : W}

theorem run_i2cBindDriver_refused (offset_len : BitVec 32)
    (hbind : (io.deviceBindDriver bus chip_addr).run s.wires = (ret, w)) (hret : ret ≠ 0) :
    (i2cBindDriver io bus chip_addr offset_len).run s = ((ret, none), { s with wires := w }) := by
  rw [i2cBindDriver, run_state_bind, run_onWires, hbind, if_pos hret]
  rfl

/-- A device that does not probe leaves nothing behind. -/
theorem run_i2cBindDriver_unprobed (offset_len : BitVec 32)
    (hbind : (io.deviceBindDriver bus chip_addr).run s.wires = (0, w))
    (hprobe : (io.deviceProbe s.chips.length).run w = (ret, w')) (hret : ret ≠ 0) :
    (i2cBindDriver io bus chip_addr offset_len).run s = ((ret, none), ⟨s.chips, w'⟩) := by
  rw [i2cBindDriver, run_state_bind, run_onWires, hbind, if_neg (not_not.mpr rfl), run_state_bind,
    run_state_get]
  simp only
  rw [run_state_bind, run_state_modify, run_state_bind, run_onWires]
  simp only
  rw [hprobe, if_pos hret, run_state_bind, run_state_modify, List.dropLast_concat]
  rfl

theorem run_i2cBindDriver (offset_len : BitVec 32)
    (hbind : (io.deviceBindDriver bus chip_addr).run s.wires = (0, w))
    (hprobe : (io.deviceProbe s.chips.length).run w = (0, w')) :
    (i2cBindDriver io bus chip_addr offset_len).run s =
      ((0, some s.chips.length),
        ⟨s.chips ++ [(bus, ⟨chip_addr, offset_len, 0, 0⟩)], w'⟩) := by
  rw [i2cBindDriver, run_state_bind, run_onWires, hbind, if_neg (not_not.mpr rfl), run_state_bind,
    run_state_get]
  simp only
  rw [run_state_bind, run_state_modify, run_state_bind, run_onWires]
  simp only
  rw [hprobe, if_neg (not_not.mpr rfl)]
  rfl

theorem run_i2cGetChip_of_none (offset_len : BitVec 32)
    (hfind : s.chips.findIdx? (isChipAt bus chip_addr) = none) :
    (i2cGetChip io bus chip_addr offset_len).run s =
      (i2cBindDriver io bus chip_addr offset_len).run s := by
  rw [i2cGetChip, run_state_bind, run_state_get]
  simp only [hfind]

theorem run_i2cGetChip_of_some (offset_len : BitVec 32)
    (hfind : s.chips.findIdx? (isChipAt bus chip_addr) = some dev)
    (hprobe : (io.deviceProbe dev).run s.wires = (ret, w)) :
    (i2cGetChip io bus chip_addr offset_len).run s =
      ((ret, if ret = 0 then some dev else none), { s with wires := w }) := by
  rw [i2cGetChip, run_state_bind, run_state_get]
  simp only [hfind]
  rw [run_state_bind, run_onWires, hprobe]
  by_cases hret : ret = 0
  · rw [if_neg (not_not.mpr hret), hret]
    rfl
  · rw [if_pos hret, if_neg hret]
    rfl

end GetChip

/-! ## What chips answer to -/

/-- What `i2c_get_chip` looks at: the bus a chip is on, its address, and its mask. -/
def chipSpot (c : Udevice × DmI2cChip) : Udevice × BitVec 32 × BitVec 32 :=
  (c.1, c.2.chip_addr, c.2.chip_addr_offset_mask)

/-- `isChipAt`, in terms of what is looked at. -/
def answersTo (bus : Udevice) (chip_addr : BitVec 32) (p : Udevice × BitVec 32 × BitVec 32) :
    Bool :=
  decide (p.1 = bus) && decide (p.2.1 = chip_addr &&& ~~~p.2.2)

theorem isChipAt_eq (bus : Udevice) (chip_addr : BitVec 32) (c : Udevice × DmI2cChip) :
    isChipAt bus chip_addr c = answersTo bus chip_addr (chipSpot c) := rfl

theorem answersTo_bus {bus : Udevice} {chip_addr : BitVec 32} {p : Udevice × BitVec 32 × BitVec 32}
    (h : answersTo bus chip_addr p = true) : p.1 = bus := by
  rw [answersTo, Bool.and_eq_true, decide_eq_true_iff] at h
  exact h.1

/-- A chip without a mask answers to its address. -/
theorem answersTo_zero_iff {bus bus' : Udevice} {chip_addr chip_addr' : BitVec 32} :
    answersTo bus chip_addr (bus', chip_addr', 0) = true ↔
      (bus', chip_addr') = (bus, chip_addr) := by
  have hall : chip_addr &&& ~~~(0 : BitVec 32) = chip_addr := BitVec.and_allOnes
  rw [answersTo, hall, Bool.and_eq_true, decide_eq_true_iff, decide_eq_true_iff, Prod.mk.injEq]

namespace I2cCore

variable {s t u : I2cCore W} {bus dev : Udevice} {chip_addr offset_len : BitVec 32}

def spots (s : I2cCore W) : List (Udevice × BitVec 32 × BitVec 32) := s.chips.map chipSpot

/-- The entry behind a spot. -/
theorem getElem?_spots {p : Udevice × BitVec 32 × BitVec 32} (h : s.spots[dev]? = some p) :
    ∃ chip, s.chips[dev]? = some (p.1, chip) ∧ chip.chip_addr = p.2.1 ∧
      chip.chip_addr_offset_mask = p.2.2 := by
  rw [spots, List.getElem?_map, Option.map_eq_some_iff] at h
  obtain ⟨⟨bus, chip⟩, hentry, rfl⟩ := h
  exact ⟨chip, hentry, rfl, rfl⟩

/-- What `i2c_get_chip` may answer, and the table it leaves. -/
inductive Looked (s : I2cCore W) (bus : Udevice) (chip_addr offset_len : BitVec 32) :
    BitVec 32 × Option Udevice → List (Udevice × DmI2cChip) → Prop
  | found {dev : Udevice} : s.chips.findIdx? (isChipAt bus chip_addr) = some dev →
      Looked s bus chip_addr offset_len (0, some dev) s.chips
  | bound : s.chips.findIdx? (isChipAt bus chip_addr) = none →
      Looked s bus chip_addr offset_len (0, some s.chips.length)
        (s.chips ++ [(bus, ⟨chip_addr, offset_len, 0, 0⟩)])
  | refused {ret : BitVec 32} : ret ≠ 0 → Looked s bus chip_addr offset_len (ret, none) s.chips

/-- **What `i2c_get_chip` does** to a table. -/
theorem looked_i2cGetChip (io : I2cController W) (s : I2cCore W) (bus : Udevice)
    (chip_addr offset_len : BitVec 32) :
    s.Looked bus chip_addr offset_len ((i2cGetChip io bus chip_addr offset_len).run s).1
      ((i2cGetChip io bus chip_addr offset_len).run s).2.chips := by
  cases hfind : s.chips.findIdx? (isChipAt bus chip_addr) with
  | some dev =>
      rcases hprobe : (io.deviceProbe dev).run s.wires with ⟨ret, w⟩
      rw [run_i2cGetChip_of_some offset_len hfind hprobe]
      by_cases hret : ret = 0
      · rw [if_pos hret, hret]
        exact .found hfind
      · rw [if_neg hret]
        exact .refused hret
  | none =>
      rw [run_i2cGetChip_of_none offset_len hfind]
      rcases hbind : (io.deviceBindDriver bus chip_addr).run s.wires with ⟨ret, w⟩
      by_cases hret : ret = 0
      · rw [hret] at hbind
        rcases hprobe : (io.deviceProbe s.chips.length).run w with ⟨ret', w'⟩
        by_cases hret' : ret' = 0
        · rw [hret'] at hprobe
          rw [run_i2cBindDriver offset_len hbind hprobe]
          exact .bound hfind
        · rw [run_i2cBindDriver_unprobed offset_len hbind hprobe hret']
          exact .refused hret'
      · rw [run_i2cBindDriver_refused offset_len hbind hret]
        exact .refused hret

/-- A device that has been answered stands for a chip that answers. -/
theorem Looked.getElem?_spots (h : s.Looked bus chip_addr offset_len (0, some dev) t.chips) :
    ∃ p, t.spots[dev]? = some p ∧ answersTo bus chip_addr p = true := by
  generalize hchips : t.chips = chips at h
  cases h with
  | found hfind =>
      obtain ⟨hlt, hat, -⟩ := List.findIdx?_eq_some_iff_getElem.mp hfind
      refine ⟨chipSpot s.chips[dev], ?_, hat⟩
      rw [spots, hchips, List.getElem?_map, List.getElem?_eq_getElem hlt, Option.map_some]
  | bound _ =>
      refine ⟨(bus, chip_addr, 0), ?_, answersTo_zero_iff.mpr rfl⟩
      rw [spots, hchips, List.map_append, List.getElem?_append_right (by simp), List.length_map,
        Nat.sub_self]
      rfl

/-! ## How the table changes -/

/-- **How the table changes while no mask is set.**  The chips in it answer to what they did,
and one is added only if none answers for it. -/
inductive Grows : I2cCore W → I2cCore W → Prop
  | same {s t : I2cCore W} : t.spots = s.spots → Grows s t
  | bound {s t : I2cCore W} {bus : Udevice} {chip_addr : BitVec 32} :
      (∀ p ∈ s.spots, answersTo bus chip_addr p = false) →
      t.spots = s.spots ++ [(bus, chip_addr, 0)] → Grows s t
  | trans {s t u : I2cCore W} : Grows s t → Grows t u → Grows s u

theorem Grows.of_chips (h : t.chips = s.chips) : s.Grows t :=
  .same (by rw [spots, spots, h])

theorem Looked.grows {answer : BitVec 32 × Option Udevice}
    (h : s.Looked bus chip_addr offset_len answer t.chips) : s.Grows t := by
  generalize hchips : t.chips = chips at h
  cases h with
  | found _ => exact .of_chips hchips
  | refused _ => exact .of_chips hchips
  | bound hfind =>
      have hspots : t.spots = s.spots ++ [(bus, chip_addr, 0)] := by
        rw [spots, hchips, List.map_append]
        rfl
      refine .bound (fun p hp => ?_) hspots
      obtain ⟨c, hc, rfl⟩ := List.mem_map.mp hp
      exact List.findIdx?_eq_none_iff.mp hfind c hc

/-- What is assigned to the platform data of a chip leaves its address and its mask alone. -/
theorem grows_modifyChip (s : I2cCore W) (dev : Udevice) {f : DmI2cChip → DmI2cChip}
    (haddr : ∀ chip, (f chip).chip_addr = chip.chip_addr)
    (hmask : ∀ chip, (f chip).chip_addr_offset_mask = chip.chip_addr_offset_mask) :
    s.Grows ((modifyChip dev f).run s).2 := by
  refine .same ?_
  show (s.chips.modify dev fun c => (c.1, f c.2)).map chipSpot = s.chips.map chipSpot
  apply List.ext_getElem?
  intro i
  rw [List.getElem?_map, List.getElem?_map, List.getElem?_modify]
  cases s.chips[i]? with
  | none => rfl
  | some c =>
      by_cases hi : dev = i
      · simp [hi, chipSpot, haddr, hmask]
      · simp [hi]

/-- The chips that were in the table are where they were. -/
theorem Grows.getElem?_spots {p : Udevice × BitVec 32 × BitVec 32} (h : s.Grows t)
    (hp : s.spots[dev]? = some p) : t.spots[dev]? = some p := by
  induction h with
  | same hspots => rwa [hspots]
  | bound _ hspots =>
      obtain ⟨hlt, -⟩ := List.getElem?_eq_some_iff.mp hp
      rw [hspots, List.getElem?_append_left hlt, hp]
  | trans _ _ ih ih' => exact ih' (ih hp)

/-- No two chips of the table answer to the same. -/
def Apart (s : I2cCore W) : Prop :=
  s.spots.Pairwise fun p q => ∀ bus chip_addr,
    answersTo bus chip_addr p = true → answersTo bus chip_addr q = false

theorem Grows.apart (h : s.Grows t) (hs : s.Apart) : t.Apart := by
  induction h with
  | same hspots => rwa [Apart, hspots]
  | bound hnew hspots =>
      rw [Apart, hspots]
      refine List.pairwise_append.mpr ⟨hs, List.pairwise_singleton _ _, fun p hp q hq => ?_⟩
      obtain rfl := List.mem_singleton.mp hq
      intro bus' chip_addr' hanswers
      by_contra htrue
      rw [Bool.not_eq_false, answersTo_zero_iff, Prod.mk.injEq] at htrue
      obtain ⟨rfl, rfl⟩ := htrue
      rw [hnew p hp] at hanswers
      exact Bool.noConfusion hanswers
  | trans _ _ ih ih' => exact ih' (ih hs)

/-- The devices of two chips that answer to the same are one. -/
theorem Apart.eq_of_answersTo (hs : s.Apart) {dev' : Udevice}
    {p q : Udevice × BitVec 32 × BitVec 32} (hp : s.spots[dev]? = some p)
    (hq : s.spots[dev']? = some q) (hanswers : answersTo bus chip_addr p = true)
    (hanswers' : answersTo bus chip_addr q = true) : dev = dev' := by
  obtain ⟨hlt, rfl⟩ := List.getElem?_eq_some_iff.mp hp
  obtain ⟨hlt', rfl⟩ := List.getElem?_eq_some_iff.mp hq
  have hpairs := List.pairwise_iff_getElem.mp hs
  rcases Nat.lt_trichotomy dev dev' with h | h | h
  · exact absurd hanswers' (by rw [hpairs dev dev' hlt hlt' h bus chip_addr hanswers]; decide)
  · exact h
  · exact absurd hanswers (by rw [hpairs dev' dev hlt' hlt h bus chip_addr hanswers']; decide)

/-! ## Tidy tables -/

/-- No chip is in the table twice, and no chip takes a part of the offset into its
address. -/
structure Tidy (s : I2cCore W) : Prop where
  nodup : s.spots.Nodup
  mask : ∀ p ∈ s.spots, p.2.2 = 0

/-- U-Boot starts with an empty table. -/
theorem tidy_nil (w : W) : Tidy ⟨[], w⟩ :=
  ⟨List.nodup_nil, fun _ hc => (List.not_mem_nil hc).elim⟩

theorem Grows.tidy (h : s.Grows t) (hs : s.Tidy) : t.Tidy := by
  induction h with
  | same hspots => exact ⟨hspots ▸ hs.nodup, hspots ▸ hs.mask⟩
  | @bound s t bus chip_addr hnew hspots =>
      have hnot : (bus, chip_addr, 0) ∉ s.spots := fun hmem =>
        absurd (answersTo_zero_iff.mpr rfl) (by rw [hnew _ hmem]; decide)
      refine ⟨?_, fun p hp => ?_⟩
      · rw [hspots]
        exact List.Nodup.append hs.nodup (List.nodup_singleton _) (List.disjoint_singleton.mpr hnot)
      · rw [hspots, List.mem_append, List.mem_singleton] at hp
        rcases hp with hp | rfl
        · exact hs.mask p hp
        · rfl
  | trans _ _ ih ih' => exact ih' (ih hs)

/-- In a tidy table, a chip answers to its address. -/
theorem Tidy.entry (hs : s.Tidy) {p : Udevice × BitVec 32 × BitVec 32}
    (hp : s.spots[dev]? = some p) (hanswers : answersTo bus chip_addr p = true) :
    ∃ chip, s.chips[dev]? = some (bus, chip) ∧ chip.chip_addr = chip_addr := by
  obtain ⟨bus', chip_addr', mask⟩ := p
  obtain rfl : mask = 0 := hs.mask _ (List.mem_of_getElem? hp)
  obtain ⟨rfl, rfl⟩ := Prod.mk.inj (answersTo_zero_iff.mp hanswers)
  obtain ⟨chip, hentry, haddr, -⟩ := getElem?_spots hp
  exact ⟨chip, hentry, haddr⟩

end I2cCore

/-! ## Any sequence of calls -/

/-- A call of the I2C core. -/
inductive CoreCall where
  | writel (value addr : BitVec 32)
  | uclassGetDeviceBySeq (seq : BitVec 32)
  | i2cGetChip (bus : Udevice) (chip_addr offset_len : BitVec 32)
  | i2cSetChipOffsetLen (dev : Udevice) (offset_len : BitVec 32)
  | i2cSetChipFlags (dev : Udevice) (flags : BitVec 32)
  | i2cSetChipAddrOffsetMask (dev : Udevice) (mask : BitVec 32)
  | setWrAddress (dev : Udevice)
  | dmI2cWrite (dev : Udevice) (offset : BitVec 32) (buffer : List Machine.Byte)
  | dmI2cRead (dev : Udevice) (offset : BitVec 32) (len : ℕ)
  | dmI2cGetBusSpeed (bus : Udevice)
  | dmI2cSetBusSpeed (bus : Udevice) (speed : BitVec 32)
  | dmI2cProbe (bus : Udevice) (chip_addr chip_flags : BitVec 32)

namespace CoreCall

/-- What a call leaves. -/
def perform (io : I2cController W) (s : I2cCore W) : CoreCall → I2cCore W
  | writel value addr => (uclassI2c io).writel value addr s
  | uclassGetDeviceBySeq seq => ((uclassI2c io).uclassGetDeviceBySeq seq s).2
  | i2cGetChip bus chip_addr offset_len =>
      ((uclassI2c io).i2cGetChip bus chip_addr offset_len s).2
  | i2cSetChipOffsetLen dev offset_len => ((uclassI2c io).i2cSetChipOffsetLen dev offset_len s).2
  | i2cSetChipFlags dev flags => ((BoardDiag.i2cSetChipFlags dev flags).run s).2
  | i2cSetChipAddrOffsetMask dev mask => ((BoardDiag.i2cSetChipAddrOffsetMask dev mask).run s).2
  | setWrAddress dev => (uclassI2c io).setWrAddress dev s
  | dmI2cWrite dev offset buffer => ((uclassI2c io).dmI2cWrite dev offset buffer s).2
  | dmI2cRead dev offset len => ((uclassI2c io).dmI2cRead dev offset len s).2
  | dmI2cGetBusSpeed bus => ((uclassI2c io).dmI2cGetBusSpeed bus s).2
  | dmI2cSetBusSpeed bus speed => ((uclassI2c io).dmI2cSetBusSpeed bus speed s).2
  | dmI2cProbe bus chip_addr chip_flags =>
      ((BoardDiag.dmI2cProbe io bus chip_addr chip_flags).run s).2

/-- What a sequence of calls leaves. -/
def performAll (io : I2cController W) (calls : List CoreCall) (s : I2cCore W) : I2cCore W :=
  calls.foldl (perform io) s

/-- The call does not set a mask. -/
def KeepsMasks : CoreCall → Prop
  | i2cSetChipAddrOffsetMask _ _ => False
  | _ => True

end CoreCall

namespace I2cCore

theorem chips_dmI2cWrite (io : I2cController W) (dev : Udevice) (offset : BitVec 32)
    (buffer : List Machine.Byte) (s : I2cCore W) :
    ((dmI2cWrite io dev offset buffer).run s).2.chips = s.chips := by
  rw [dmI2cWrite, run_state_bind, run_state_get]
  simp only
  cases s.chips[dev]? <;> rfl

theorem chips_dmI2cRead (io : I2cController W) (dev : Udevice) (offset : BitVec 32)
    (len : ℕ) (s : I2cCore W) : ((dmI2cRead io dev offset len).run s).2.chips = s.chips := by
  rw [dmI2cRead, run_state_bind, run_state_get]
  simp only
  cases s.chips[dev]? <;> rfl

/-- `dm_i2c_probe` adds a chip at most. -/
theorem grows_dmI2cProbe (io : I2cController W) (bus : Udevice)
    (chip_addr chip_flags : BitVec 32) (s : I2cCore W) :
    s.Grows ((dmI2cProbe io bus chip_addr chip_flags).run s).2 := by
  rw [dmI2cProbe, run_state_bind, run_onWires]
  simp only
  have hprobed : s.Grows
      { s with wires := ((i2cProbeChip io bus chip_addr chip_flags).run s.wires).2 } :=
    .of_chips rfl
  by_cases hret : ((i2cProbeChip io bus chip_addr chip_flags).run s.wires).1 = 0
  · rw [if_neg (not_not.mpr hret)]
    exact hprobed.trans (looked_i2cGetChip io _ bus chip_addr 1).grows
  · rw [if_pos hret]
    exact hprobed

/-- **One call.** -/
theorem grows_perform (io : I2cController W) {c : CoreCall} (hc : c.KeepsMasks) (s : I2cCore W) :
    s.Grows (c.perform io s) := by
  cases c with
  | i2cGetChip bus chip_addr offset_len =>
      exact (looked_i2cGetChip io s bus chip_addr offset_len).grows
  | i2cSetChipOffsetLen dev offset_len =>
      show s.Grows ((i2cSetChipOffsetLen dev offset_len).run s).2
      rw [i2cSetChipOffsetLen]
      by_cases hlen : offset_len > i2cMaxOffsetLen
      · rw [if_pos hlen]
        exact .of_chips rfl
      · rw [if_neg hlen]
        exact grows_modifyChip s dev
          (f := fun chip => { chip with offset_len := offset_len }) (fun _ => rfl) fun _ => rfl
  | i2cSetChipFlags dev flags =>
      exact grows_modifyChip s dev
        (f := fun chip => { chip with flags := flags }) (fun _ => rfl) fun _ => rfl
  | i2cSetChipAddrOffsetMask dev mask => exact hc.elim
  | setWrAddress dev =>
      exact grows_modifyChip s dev
        (f := fun chip => { chip with flags := chip.flags ||| dmI2cChipWrAddress })
        (fun _ => rfl) fun _ => rfl
  | dmI2cWrite dev offset buffer => exact .of_chips (chips_dmI2cWrite io dev offset buffer s)
  | dmI2cRead dev offset len => exact .of_chips (chips_dmI2cRead io dev offset len s)
  | dmI2cProbe bus chip_addr chip_flags => exact grows_dmI2cProbe io bus chip_addr chip_flags s
  | writel value addr => exact .of_chips rfl
  | uclassGetDeviceBySeq seq => exact .of_chips rfl
  | dmI2cGetBusSpeed bus => exact .of_chips rfl
  | dmI2cSetBusSpeed bus speed => exact .of_chips rfl

/-- **Any number of calls.** -/
theorem grows_performAll (io : I2cController W) {calls : List CoreCall}
    (hcalls : ∀ c ∈ calls, c.KeepsMasks) (s : I2cCore W) :
    s.Grows (CoreCall.performAll io calls s) := by
  induction calls generalizing s with
  | nil => exact .of_chips rfl
  | cons c calls ih =>
      exact (grows_perform io (hcalls c (by simp)) s).trans
        (ih (fun c' hc' => hcalls c' (List.mem_cons_of_mem _ hc')) _)

/-- **A device stands for its chip for good.**  In a table in which no two chips answer to the
same, and as long as no mask is set, whatever else is asked of the core before and between: the
device `i2c_get_chip` answers with keeps its entry in the table, with its bus, its address
and its mask; and asked again, for this chip or for another, `i2c_get_chip` answers with this
device exactly if this chip answers to what it is asked for. -/
theorem getChip_stable (io : I2cController W) {s : I2cCore W} (hs : s.Apart)
    (before between : List CoreCall) (hmasks : ∀ c ∈ before ++ between, c.KeepsMasks)
    {bus bus' dev dev' : Udevice} {chip_addr chip_addr' offset_len offset_len' : BitVec 32}
    {s₁ s₂ : I2cCore W}
    (h₁ : (uclassI2c io).i2cGetChip bus chip_addr offset_len
      (CoreCall.performAll io before s) = ((0, some dev), s₁))
    (h₂ : (uclassI2c io).i2cGetChip bus' chip_addr' offset_len'
      (CoreCall.performAll io between s₁) = ((0, some dev'), s₂)) :
    ∃ chip chip₂, s₁.chips[dev]? = some (bus, chip) ∧
      isChipAt bus chip_addr (bus, chip) = true ∧
      s₂.chips[dev]? = some (bus, chip₂) ∧ chip₂.chip_addr = chip.chip_addr ∧
      chip₂.chip_addr_offset_mask = chip.chip_addr_offset_mask ∧
      (dev = dev' ↔ isChipAt bus' chip_addr' (bus, chip) = true) := by
  have hlooked₁ := looked_i2cGetChip io (CoreCall.performAll io before s) bus chip_addr offset_len
  change Looked _ _ _ _ ((uclassI2c io).i2cGetChip _ _ _ _).1
    ((uclassI2c io).i2cGetChip _ _ _ _).2.chips at hlooked₁
  rw [h₁] at hlooked₁
  have hlooked₂ :=
    looked_i2cGetChip io (CoreCall.performAll io between s₁) bus' chip_addr' offset_len'
  change Looked _ _ _ _ ((uclassI2c io).i2cGetChip _ _ _ _).1
    ((uclassI2c io).i2cGetChip _ _ _ _).2.chips at hlooked₂
  rw [h₂] at hlooked₂
  have hbefore := (grows_performAll io (fun c hc => hmasks c (List.mem_append_left _ hc)) s).trans
    hlooked₁.grows
  have hbetween :=
    (grows_performAll io (fun c hc => hmasks c (List.mem_append_right _ hc)) s₁).trans
      hlooked₂.grows
  -- both devices, in the last table
  obtain ⟨p, hp, hanswers⟩ := hlooked₁.getElem?_spots
  obtain ⟨q, hq, hanswers'⟩ := hlooked₂.getElem?_spots
  have hp₂ := hbetween.getElem?_spots hp
  obtain ⟨chip, hchip, haddr, hmask⟩ := getElem?_spots hp
  obtain ⟨chip₂, hchip₂, haddr₂, hmask₂⟩ := getElem?_spots hp₂
  have hspot : chipSpot (p.1, chip) = p := by rw [chipSpot, haddr, hmask]
  obtain rfl : p.1 = bus := answersTo_bus hanswers
  refine ⟨chip, chip₂, hchip, by rwa [isChipAt_eq, hspot], hchip₂, haddr₂.trans haddr.symm,
    hmask₂.trans hmask.symm, ?_⟩
  rw [isChipAt_eq, hspot]
  constructor
  · rintro rfl
    rw [hp₂] at hq
    rwa [Option.some.inj hq]
  · exact fun h => ((hbefore.trans hbetween).apart hs).eq_of_answersTo hp₂ hq h hanswers'

/-- Controllers with nothing behind them: devices are bound and probed, and no message is
acknowledged. -/
def bareI2c : I2cController Unit where
  writel _ _ := pure ()
  uclassGetDeviceBySeq seq := pure (0, some seq.toNat)
  deviceBindDriver _ _ := pure 0
  deviceProbe _ := pure 0
  malloc _ := pure true
  omap24I2cRead _ _ _ := pure (1, fun _ => 0)
  omap24I2cWrite _ _ _ := pure 1
  omap24I2cProbe _ _ := pure 1
  getBusSpeed _ := pure 100000
  setBusSpeed _ _ := pure 0

/-- The EEPROM and the clock, neither of which is there. -/
theorem getChip_stable_bare :
    (uclassI2c bareI2c).i2cGetChip 1 0x50 2 (CoreCall.performAll bareI2c [] ⟨[], ()⟩) =
      ((0, some 0), ⟨[(1, ⟨0x50, 2, 0, 0⟩)], ()⟩) ∧
    (uclassI2c bareI2c).i2cGetChip 1 0x68 1 (CoreCall.performAll bareI2c
      [.i2cSetChipFlags 0 4, .dmI2cProbe 1 0x24 0] ⟨[(1, ⟨0x50, 2, 0, 0⟩)], ()⟩) =
      ((0, some 1), ⟨[(1, ⟨0x50, 2, 4, 0⟩), (1, ⟨0x68, 1, 0, 0⟩)], ()⟩) ∧
    ∃ chip, [((1 : Udevice), (⟨0x50, 2, 0, 0⟩ : DmI2cChip))][0]? = some (1, chip) ∧
      ((0 : Udevice) = 1 ↔ isChipAt 1 0x68 (1, chip) = true) := by
  have h₁ : (uclassI2c bareI2c).i2cGetChip 1 0x50 2 (CoreCall.performAll bareI2c [] ⟨[], ()⟩) =
      ((0, some 0), ⟨[(1, ⟨0x50, 2, 0, 0⟩)], ()⟩) := rfl
  have h₂ : (uclassI2c bareI2c).i2cGetChip 1 0x68 1 (CoreCall.performAll bareI2c
      [.i2cSetChipFlags 0 4, .dmI2cProbe 1 0x24 0] ⟨[(1, ⟨0x50, 2, 0, 0⟩)], ()⟩) =
      ((0, some 1), ⟨[(1, ⟨0x50, 2, 4, 0⟩), (1, ⟨0x68, 1, 0, 0⟩)], ()⟩) := rfl
  have hmasks : ∀ c ∈ ([] ++ [.i2cSetChipFlags 0 4, .dmI2cProbe 1 0x24 0] : List CoreCall),
      c.KeepsMasks := by
    simp [CoreCall.KeepsMasks]
  obtain ⟨chip, -, hchip, -, -, -, -, hsame⟩ :=
    getChip_stable bareI2c (s := ⟨[], ()⟩) List.Pairwise.nil [] _ hmasks h₁ h₂
  exact ⟨h₁, h₂, chip, hchip, hsame⟩

end I2cCore

end BoardDiag
