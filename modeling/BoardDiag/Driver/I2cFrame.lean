import BoardDiag.Driver.EepromBoard
import BoardDiag.Driver.Views

/-!
# What the tests leave alone on an I2C bus

The suite writes to chips: a pattern into an EEPROM, a time of day and a bit of a control
register into a clock.  Where they are is said by the configuration, and there may be other
memories on the same buses --- the BeagleBone keeps its serial number in one.

`untouched_of_reachable` is about all of them.  Whatever commands are given, in whatever order
and however often, a cell that no registered test may ask to be written holds what it held at
boot.  The board may have anything else on it, as long as the other drivers keep off the bus.
-/

namespace BoardDiag

open Machine

variable {D : Type}

/-- The cells a transfer writes. -/
def Transfer.writes (b : Backplane) : Transfer → Set ((Udevice × Byte) × ℕ)
  | write bus_num chip reg _ bytes _ =>
      {c | ∃ h, b.memory bus_num chip = some (c.1, h) ∧
        ∃ j < bytes.length, h.cell reg.toNat j = c.2}
  | read _ _ _ _ _ => ∅

/-- The table of the chips stays tidy, and what is not in `S` stays as it is. -/
def UntouchedCells (S : Set ((Udevice × Byte) × ℕ)) (d d' : I2cCore Rack) : Prop :=
  d.Tidy → d'.Tidy ∧
    ∀ k i, (k, i) ∉ S → Rack.arrays d'.wires k i = Rack.arrays d.wires k i

section UntouchedCells

variable {S : Set ((Udevice × Byte) × ℕ)} {b : Backplane}

instance : IsPreorder (I2cCore Rack) (UntouchedCells S) where
  refl _ h := ⟨h, fun _ _ _ => rfl⟩
  trans _ _ _ h h' hd :=
    ⟨(h' (h hd).1).1, fun k i hki => ((h' (h hd).1).2 k i hki).trans ((h hd).2 k i hki)⟩

/-- What a transfer leaves in the arrays it is not for. -/
theorem Transfer.onArrays_of_notMem {t : Transfer} {k : Udevice × Byte} {i : ℕ}
    (h : (k, i) ∉ t.writes b) (arrays : Arrays) : (t.onArrays b arrays).2 k i = arrays k i := by
  cases t with
  | write bus_num chip reg len bytes _ =>
      rw [onArrays]
      cases hmem : b.memory bus_num chip with
      | none => rfl
      | some kh =>
          obtain ⟨k', shape⟩ := kh
          simp only
          by_cases hk : k = k'
          · subst hk
            rw [Function.update_self]
            refine applyWrites_placed_of_ne (fun j hj hcell => h ?_) _
            exact ⟨shape, hmem, j, hj, hcell⟩
          · rw [Function.update_of_ne hk]
  | read bus_num chip reg len dlen =>
      rw [onArrays]
      cases b.memory bus_num chip with
      | none => rfl
      | some kh => rfl

/-- **A transfer** leaves alone what it does not write. -/
theorem Transfer.within_untouched {t : Transfer} (ht : t.Suits b) (hS : t.writes b ⊆ S) :
    t.Within b.driver (UntouchedCells S) := by
  intro s hs
  obtain ⟨s', hrun, htidy, harrays⟩ := run_make ht hs
  rw [left_of_ok hrun]
  refine ⟨htidy, fun k i hki => ?_⟩
  rw [harrays]
  exact onArrays_of_notMem (fun hmem => hki (hS hmem)) _

/-- Probing an address does not change a memory. -/
theorem wires_dmI2cProbe (bus : Udevice) (chip_addr : BitVec 32) (s : I2cCore Rack) :
    ((dmI2cProbe b.controller bus chip_addr 0).run s).2.wires = s.wires := by
  have hprobe : (i2cProbeChip b.controller bus chip_addr 0).run s.wires =
      (if (b.shape (bus, chip_addr.setWidth 8)).isSome then 0 else 1, s.wires) := by
    have hanswer : (b.controller.omap24I2cProbe bus (chip_addr.setWidth 8)).run s.wires =
        (if (b.shape (bus, chip_addr.setWidth 8)).isSome then 0 else 1, s.wires) := rfl
    have hanswered : (if (b.shape (bus, chip_addr.setWidth 8)).isSome then (0 : BitVec 32) else 1)
        ≠ enosys := by
      split
      · decide
      · decide
    rw [i2cProbeChip, run_state_bind, hanswer, if_pos hanswered]
    rfl
  rw [dmI2cProbe, run_state_bind, run_onWires, hprobe]
  cases b.shape (bus, chip_addr.setWidth 8) with
  | none => rfl
  | some h =>
      show ((i2cGetChip b.controller bus chip_addr 1).run s).2.wires = s.wires
      rw [i2cGetChip, run_state_bind, run_state_get]
      simp only
      cases s.chips.findIdx? (isChipAt bus chip_addr) with
      | none => rfl
      | some dev => rfl

/-- **Nothing but a transfer** changes a memory. -/
theorem within_uclassI2c : (uclassI2c b.controller).Within (UntouchedCells S) where
  writel value addr d hd := ⟨⟨hd.nodup, hd.mask⟩, fun _ _ _ => rfl⟩
  lookup seq d hd := by
    have hwires : ((uclassI2c b.controller).uclassGetDeviceBySeq seq d).2.wires = d.wires := by
      show (((b.controller).uclassGetDeviceBySeq seq).run d.wires).2 = d.wires
      unfold Backplane.controller
      simp only
      cases b.bus seq with
      | none => rfl
      | some bus => rfl
    exact ⟨⟨hd.nodup, hd.mask⟩, fun k i _ => by rw [hwires]⟩
  getSpeed bus d hd := ⟨⟨hd.nodup, hd.mask⟩, fun _ _ _ => rfl⟩
  setSpeed bus speed d hd := ⟨⟨hd.nodup, hd.mask⟩, fun _ _ _ => rfl⟩
  probe bus chip_addr d hd :=
    ⟨(I2cCore.grows_dmI2cProbe b.controller bus chip_addr 0 d).tidy hd, fun k i _ => by
      show Rack.arrays ((dmI2cProbe b.controller bus chip_addr 0).run d).2.wires k i = _
      rw [wires_dmI2cProbe]⟩

end UntouchedCells

/-- **A board with the memories of a backplane**, and with other things whose drivers keep off
the buses. -/
structure Drivers.OnBackplane (io : Drivers D) (b : Backplane) (core : D → I2cCore Rack) :
    Prop where
  i2c : io.i2c.Through core (uclassI2c b.controller)
  flash : io.flash.Within fun d d' => core d' = core d
  rest : io.RestWithin fun d d' => core d' = core d

section Board

variable {io : Drivers D} {b : Backplane} {core : D → I2cCore Rack}

/-- What the other drivers do, they do to the rest of the board. -/
theorem Drivers.OnBackplane.keeps (h : io.OnBackplane b core)
    {r : I2cCore Rack → I2cCore Rack → Prop} (hrefl : ∀ d, r d d) :
    (io.RestWithin fun d d' => r (core d) (core d')) ∧
      io.flash.Within fun d d' => r (core d) (core d') := by
  have hsame : ∀ d d', core d' = core d → r (core d) (core d') :=
    fun d _ heq => heq ▸ hrefl (core d)
  exact ⟨h.rest.mono hsame, h.flash.mono hsame⟩

/-- A test does to the buses what its transfers do. -/
theorem Drivers.OnBackplane.confined_call (h : io.OnBackplane b core)
    {r : I2cCore Rack → I2cCore Rack → Prop} [IsPreorder (I2cCore Rack) r]
    (hi2c : (uclassI2c b.controller).Within r) {t : SuiteTest}
    (hasks : ∀ x ∈ t.asks, x.Within b.driver r) (fuel : ℕ) (testId : BitVec 32) :
    Confined (OnBoard fun d d' => r (core d) (core d')) (t.call io fuel testId) := by
  have hpreorder : IsPreorder D fun d d' => r (core d) (core d') :=
    { refl := fun d => refl_of r (core d)
      trans := fun _ _ _ => trans_of r }
  obtain ⟨hrest, hflash⟩ := h.keeps (refl_of r)
  exact BoardDiag.confined_call hrest (h.i2c.within hi2c) fuel t
    (fun x hx => Transfer.Within.of_through h.i2c (hasks x hx))
    fun arg _ => confined_norFlashTest hflash arg

/-- **Commands** do to the buses what the transfers do that the tests may ask for. -/
theorem Drivers.OnBackplane.rel_core {B : Build} (h : io.OnBackplane b core)
    {r : I2cCore Rack → I2cCore Rack → Prop} [IsPreorder (I2cCore Rack) r]
    (hi2c : (uclassI2c b.controller).Within r) {R : Registry SuiteTest (Fixture D)} {testFuel : ℕ}
    (hfunction : ∀ reg ∈ R.suite B, reg.testFunction = some (SuiteTest.function io testFuel))
    (hasks : ∀ reg ∈ R.suite B, ∀ t ∈ reg.testArgs.asks, t.Within b.driver r)
    {dev : Fixture D} {s : State B SuiteTest (Fixture D)} (hs : Reachable R dev s) :
    r (core dev.dev) (core s.dev.dev) ∧
      ∀ fuel argv, r (core dev.dev) (core (left (doBoarddiag fuel argv) s).dev.dev) := by
  have hpreorder : IsPreorder D fun d d' => r (core d) (core d') :=
    { refl := fun d => refl_of r (core d)
      trans := fun _ _ _ => trans_of r }
  have hR : R.Confined B io testFuel fun d d' => r (core d) (core d') :=
    ⟨hfunction, fun reg hreg testId => h.confined_call hi2c (hasks reg hreg) testFuel testId⟩
  exact hR.rel_dev hs

/-- **What no test may ask to be written is never written.**  On a board with serial memories,
let every transfer the registered tests may ask for use addresses as long as those of the memory
it goes to, if there is one.  Then after any commands a cell of any memory that none of these
transfers writes holds what it held at boot; even if the last command does not return. -/
theorem untouched_of_reachable {B : Build} (hio : io.OnBackplane b core)
    {R : Registry SuiteTest (Fixture D)} (testFuel : ℕ)
    (hfunction : ∀ reg ∈ R.suite B, reg.testFunction = some (SuiteTest.function io testFuel))
    (hsuits : ∀ reg ∈ R.suite B, ∀ t ∈ reg.testArgs.asks, t.Suits b) {dev : Fixture D}
    (hboot : (core dev.dev).Tidy) {s : State B SuiteTest (Fixture D)} (h : Reachable R dev s)
    {k : Udevice × Byte} {i : ℕ}
    (hki : ∀ reg ∈ R.suite B, ∀ t ∈ reg.testArgs.asks, (k, i) ∉ t.writes b) :
    Rack.arrays (core s.dev.dev).wires k i = Rack.arrays (core dev.dev).wires k i ∧
      ∀ fuel argv, Rack.arrays (core (left (doBoarddiag fuel argv) s).dev.dev).wires k i =
        Rack.arrays (core dev.dev).wires k i := by
  have hasks : ∀ reg ∈ R.suite B, ∀ t ∈ reg.testArgs.asks,
      t.Within b.driver (UntouchedCells {(k, i)}ᶜ) := by
    refine fun reg hreg t ht => Transfer.within_untouched (hsuits reg hreg t ht) fun c hc => ?_
    rintro rfl
    exact hki reg hreg t ht hc
  obtain ⟨hreached, hleft⟩ := hio.rel_core within_uclassI2c hfunction hasks h
  have hnot : (k, i) ∉ ({(k, i)}ᶜ : Set ((Udevice × Byte) × ℕ)) := fun h => h rfl
  exact ⟨(hreached hboot).2 k i hnot, fun fuel argv => (hleft fuel argv hboot).2 k i hnot⟩

/-! ## The EEPROM test -/

variable {a : AEepromReadWriteTest}

/-- The EEPROM test uses addresses of two bytes. -/
theorem suits_eepromReadWrite
    (hr : ∀ k h, b.memory a.i2c_bus_num a.i2c_dev_addr = some (k, h) →
      b.Reaches a.i2c_bus_num a.i2c_dev_addr eepromOffsetLen k h) :
    ∀ t ∈ (SuiteTest.eepromReadWrite (some a)).asks, t.Suits b := by
  rintro t ⟨n, -, ⟨bytes, hbytes, rfl⟩ | rfl⟩
  · exact ⟨List.ne_nil_of_length_pos (hbytes ▸ by decide), hr⟩
  · exact ⟨by decide, hr⟩

/-- It writes into its four pages. -/
theorem mem_writes_eepromReadWrite {t : Transfer}
    (ht : t ∈ (SuiteTest.eepromReadWrite (some a)).asks) {c : (Udevice × Byte) × ℕ}
    (hc : c ∈ t.writes b) :
    ∃ h, b.memory a.i2c_bus_num a.i2c_dev_addr = some (c.1, h) ∧ c.2 ∈ a.cellsIn h 4 := by
  obtain ⟨n, hn, ⟨bytes, hbytes, rfl⟩ | rfl⟩ := ht
  · obtain ⟨h, hmem, j, hj, hcell⟩ := hc
    exact ⟨h, hmem, (a.reg (n * eepromPageLen)).toNat + j, ⟨n, hn, by omega, by omega⟩, hcell⟩
  · exact hc.elim

end Board

/-! ## A small board -/

/-- The memories of a backplane, and a dull flash. -/
def backplaneAndFlash (b : Backplane) : Drivers (I2cCore Rack × Bool) :=
  .bare (uclassI2c b.controller).onFst dullBoard.flash.onSnd

theorem onBackplane_backplaneAndFlash (b : Backplane) :
    (backplaneAndFlash b).OnBackplane b Prod.fst where
  i2c := (uclassI2c b.controller).through_onFst
  flash := dullBoard.flash.within_onSnd
  rest := Drivers.restWithin_bare _ _ fun _ => rfl

/-- Before its pages, the EEPROM of the BeagleBone keeps what it holds. -/
theorem untouched_of_reachable_eeprom :
    Rack.arrays (left (doBoarddiag 2 [.ofChars ['b', 'd'], wordRunAll])
      (State.boot (eepromSuite.registry (backplaneAndFlash eepromBackplane) 33)
        (Fixture.atBoot (⟨[], fun _ => ⟨fun _ => 0xFF, 0⟩⟩, false)) :
          State smallBuild SuiteTest (Fixture (I2cCore Rack × Bool)))).dev.dev.1.wires
        (1, 0x50) 127 = 0xFF := by
  have hboot : Reachable (eepromSuite.registry (backplaneAndFlash eepromBackplane) 33)
      (Fixture.atBoot (⟨[], fun _ => ⟨fun _ => 0xFF, 0⟩⟩, false))
      (State.boot (eepromSuite.registry (backplaneAndFlash eepromBackplane) 33)
        (Fixture.atBoot (⟨[], fun _ => ⟨fun _ => 0xFF, 0⟩⟩, false)) :
          State smallBuild SuiteTest (Fixture (I2cCore Rack × Bool))) := .refl
  have hsuite : ∀ reg ∈ (eepromSuite.registry (backplaneAndFlash eepromBackplane) 33).suite
      smallBuild, reg = eepromEntry.registration (backplaneAndFlash eepromBackplane) 33 :=
    fun _ => List.mem_singleton.mp
  have hmemory : eepromBackplane.memory 1 0x50 = some ((1, 0x50), at24c256) :=
    eepromBackplane_reaches.memory
  refine (untouched_of_reachable (onBackplane_backplaneAndFlash eepromBackplane) 33
    (fun reg hreg => hsuite reg hreg ▸ rfl) (fun reg hreg => ?_) (I2cCore.tidy_nil _) hboot
    fun reg hreg t ht hmem => ?_).2 _ _
  · rw [hsuite reg hreg]
    refine suits_eepromReadWrite fun k h hkh => ?_
    obtain ⟨rfl, rfl⟩ := Prod.mk.inj (Option.some.inj (hkh.symm.trans hmemory))
    exact eepromBackplane_reaches
  · rw [hsuite reg hreg] at ht
    obtain ⟨h, hkh, x, ⟨n, hn, hle, hlt⟩, hx⟩ := mem_writes_eepromReadWrite ht hmem
    obtain ⟨-, rfl⟩ := Prod.mk.inj (Option.some.inj (hkh.symm.trans hmemory))
    have hreg : ∀ n < 4, (eepromArgs.reg (n * eepromPageLen)).toNat = 128 + n * 32 := by decide
    have hpage : eepromPageLen = 32 := rfl
    have hsize : at24c256.size = 32768 := rfl
    have hfrom := hreg n hn
    simp only [hsize] at hx
    omega

end BoardDiag
