import BoardDiag.Driver.I2cFrame
import BoardDiag.Driver.NorFlashBoard
import BoardDiag.Suite.Platforms
import Mathlib.Tactic.FinCases

/-!
# From the command line to the cells

Everything together: the command `boarddiag run`, the list of tests, the test, U-Boot's drivers,
and a memory or a flash at the other end.

The tests for memories find the drivers as the tests before them have left them, and there may
have been many, with any results.  What matters of that is that no chip is twice in the table of
the I2C core, and that the flash is waiting for a command; both are true after any commands.  So
the EEPROM test passes whenever it is run, if the EEPROM is there (`run_eeprom_test`), and the NOR
flash test blanks the flash whenever it is run (`run_nor_flash_test`).

The BeagleBone has both.
-/

namespace BoardDiag

open Machine

variable {D W : Type} {B : Build}

/-- **Running a test of the suite by its number.**  If the test itself returns on the board as it
is, its verdict is recorded and the board is left as the test leaves it. -/
theorem Reachable.run_suiteTest {R : Registry SuiteTest (Fixture D)} {dev : Fixture D}
    {s : State B SuiteTest (Fixture D)} (h : Reachable R dev s) {io : Drivers D} {testFuel : ℕ}
    (hfunction : ∀ reg ∈ R.suite B, reg.testFunction = some (SuiteTest.function io testFuel))
    (hdim : (R.suite B).length ≤ dimTestList) (hids : (hashes (R.suite B)).Nodup) {n : ℕ}
    {reg : Registration SuiteTest (Fixture D)} (hreg : (R.suite B)[n]? = some reg)
    {t : SuiteTest} (ht : reg.testArgs = t) {r : TestResultTypes} {d : Fixture D}
    (hcall : (t.call io testFuel reg.hash).run { s.dev with curTestId := 0, reports := [] } =
      .ok r d)
    {argv : List CString} (hargv : IsRun argv n) {fuel : ℕ} (hfuel : 1 < fuel) :
    ∃ s', (doBoarddiag fuel argv).run s = .ok .success s' ∧ s'.dev = d ∧
      callsOf s'.trace = callsOf s.trace ++ [⟨n, reg.hash, reg.testArgs, r⟩] := by
  obtain ⟨s', hrun, hdev, hcalls⟩ := h.run_number hdim hids hreg
    (hfunction reg (List.mem_of_getElem? hreg)) hargv hfuel
  have hf : SuiteTest.function io testFuel reg.hash reg.testArgs 0 s.dev = (r, d.reports, d) := by
    rw [SuiteTest.function, ht, hcall]
  rw [hf] at hdev hcalls
  exact ⟨s', hrun, hdev, hcalls⟩

/-! ## The EEPROM test -/

theorem tidy_perform (io : I2cController W) {c : CoreCall} (hc : c.KeepsMasks) {s : I2cCore W}
    (hs : s.Tidy) : (c.perform io s).Tidy := (I2cCore.grows_perform io hc s).tidy hs

theorem within_tidy (io : I2cController W) :
    (uclassI2c io).Within fun s t => s.Tidy → t.Tidy where
  writel value addr _ hs := tidy_perform io (c := .writel value addr) trivial hs
  lookup seq _ hs := tidy_perform io (c := .uclassGetDeviceBySeq seq) trivial hs
  getSpeed bus _ hs := tidy_perform io (c := .dmI2cGetBusSpeed bus) trivial hs
  setSpeed bus speed _ hs := tidy_perform io (c := .dmI2cSetBusSpeed bus speed) trivial hs
  probe bus chip_addr _ hs := tidy_perform io (c := .dmI2cProbe bus chip_addr 0) trivial hs

theorem transfersWithin_tidy (io : I2cController W) :
    (uclassI2c io).TransfersWithin fun s t => s.Tidy → t.Tidy where
  getChip bus chip_addr offset_len _ hs :=
    tidy_perform io (c := .i2cGetChip bus chip_addr offset_len) trivial hs
  offsetLen dev offset_len _ hs :=
    tidy_perform io (c := .i2cSetChipOffsetLen dev offset_len) trivial hs
  wrAddress dev _ hs := tidy_perform io (c := .setWrAddress dev) trivial hs
  write dev offset buffer _ hs :=
    tidy_perform io (c := .dmI2cWrite dev offset buffer) trivial hs
  read dev offset len _ hs := tidy_perform io (c := .dmI2cRead dev offset len) trivial hs

/-- To be tidy is kept. -/
instance : IsPreorder (I2cCore W) fun s t => s.Tidy → t.Tidy where
  refl _ h := h
  trans _ _ _ h h' hs := h' (h hs)

section Eeprom

variable {io : Drivers D} {b : Backplane} {core : D → I2cCore Rack}
  {R : Registry SuiteTest (Fixture D)} {testFuel : ℕ} {dev : Fixture D}
  {s : State B SuiteTest (Fixture D)}

/-- **The table of the chips stays tidy**, whatever commands are given. -/
theorem Drivers.OnBackplane.tidy (hio : io.OnBackplane b core)
    (hfunction : ∀ reg ∈ R.suite B, reg.testFunction = some (SuiteTest.function io testFuel))
    (hboot : (core dev.dev).Tidy) (h : Reachable R dev s) : (core s.dev.dev).Tidy :=
  (hio.rel_core (within_tidy b.controller) hfunction (fun _ _ t _ =>
    t.within_of_ops (within_tidy b.controller) (transfersWithin_tidy b.controller)) h).1 hboot

/-- **The EEPROM test, from the command line to the cells.**  Let the tests of the suite be
registered with distinct ids, an EEPROM test among them, on a board where there is a memory with
two address bytes where its configuration says.  After any commands, `run` with the number of
the test calls it and no other; it passes; and the cells of its four pages hold the pattern then,
while every other cell, and every other memory, is as it was. -/
theorem run_eeprom_test (hio : io.OnBackplane b core)
    (hfunction : ∀ reg ∈ R.suite B, reg.testFunction = some (SuiteTest.function io testFuel))
    (hdim : (R.suite B).length ≤ dimTestList) (hids : (hashes (R.suite B)).Nodup)
    (hboot : (core dev.dev).Tidy) (h : Reachable R dev s) {n : ℕ}
    {reg : Registration SuiteTest (Fixture D)} (hreg : (R.suite B)[n]? = some reg)
    {a : AEepromReadWriteTest} (ha : reg.testArgs = .eepromReadWrite (some a))
    {k : Udevice × Byte} {shape : SerialShape}
    (hr : b.Reaches a.i2c_bus_num a.i2c_dev_addr eepromOffsetLen k shape)
    {argv : List CString} (hargv : IsRun argv n) {fuel : ℕ} (hfuel : 1 < fuel) :
    ∃ s', (doBoarddiag fuel argv).run s = .ok .success s' ∧
      callsOf s'.trace = callsOf s.trace ++ [⟨n, reg.hash, reg.testArgs, .pass⟩] ∧
      PaintedCells k (a.cellsIn shape 4) (Rack.arrays (core s.dev.dev).wires)
        (Rack.arrays (core s'.dev.dev).wires) := by
  have htidy := hio.tidy hfunction hboot h
  obtain ⟨t, htest, -, hpainted⟩ := run_eepromReadWriteTest_board reg.hash hr
    (s := ({ s.dev with curTestId := 0, reports := [] } : Fixture D).part core) htidy
  obtain ⟨t', htest', ht'⟩ :=
    (through_eepromReadWriteTest hio.i2c.toThrough reg.hash (some a)).exists_ok htest
  obtain ⟨s', hrun, hdev, hcalls⟩ :=
    h.run_suiteTest hfunction hdim hids hreg ha htest' hargv hfuel
  refine ⟨s', hrun, hcalls, ?_⟩
  rw [hdev, show core t'.dev = t.dev from congrArg Fixture.dev ht']
  exact hpainted

end Eeprom

/-! ### On the BeagleBone -/

/-- A BeagleBone with an EEPROM and a flash on its expansion header. -/
def bone : Drivers (I2cCore Rack × NorChip) :=
  .bare (uclassI2c eepromBackplane.controller).onFst
    (stdFlash NorBoard.presentModel NorBoard.w25q32.bus NorBoard.w25q32.nor).onSnd

/-- The EEPROM is blank, the flash is full of zeros and takes its time. -/
def boneAtBoot : Fixture (I2cCore Rack × NorChip) :=
  .atBoot (⟨[], fun _ => ⟨fun _ => 0xFF, 0⟩⟩, ⟨fun _ => 0, false, 0, fun n => n % 4, []⟩)

theorem onBackplane_bone : bone.OnBackplane eepromBackplane Prod.fst where
  i2c := (uclassI2c eepromBackplane.controller).through_onFst
  flash := (stdFlash NorBoard.presentModel NorBoard.w25q32.bus NorBoard.w25q32.nor).within_onSnd
  rest := Drivers.restWithin_bare _ _ fun _ => rfl

/-- The tests of `am335x_bbb.c`, as the framework finds them. -/
theorem suite_bone : (platformRegistry bone 33 .am335xBbb).suite smallBuild =
    Am335xBbb.numbered.map fun l => (l.declare bone 33).registration :=
  linkedTests_platform (List.Perm.refl (platformSections bone 33 .am335xBbb))
    (List.forall_mem_nil _)

theorem function_bone : ∀ reg ∈ (platformRegistry bone 33 .am335xBbb).suite smallBuild,
    reg.testFunction = some (SuiteTest.function bone 33) := by
  intro reg hreg
  rw [suite_bone] at hreg
  obtain ⟨l, -, rfl⟩ := List.mem_map.mp hreg
  rfl

/-- `boarddiag run 0`. -/
theorem run_eeprom_test_bone :
    ∃ s', (doBoarddiag 2 [.ofChars ['b', 'd'], wordRun, .ofChars ['0']]).run
        (State.boot (platformRegistry bone 33 .am335xBbb) boneAtBoot :
          State smallBuild SuiteTest (Fixture (I2cCore Rack × NorChip))) = .ok .success s' ∧
      (callsOf s'.trace).map Call.result = [.pass] ∧
      PaintedCells (1, 0x50) (eepromArgs.cellsIn at24c256 4) (fun _ _ => 0xFF)
        (Rack.arrays s'.dev.dev.1.wires) := by
  have hboot : Reachable (platformRegistry bone 33 .am335xBbb) boneAtBoot
      (State.boot (platformRegistry bone 33 .am335xBbb) boneAtBoot :
        State smallBuild SuiteTest (Fixture (I2cCore Rack × NorChip))) := .refl
  have hsections := List.Perm.refl (platformSections bone 33 .am335xBbb)
  have hlength := length_platform hsections (List.forall_mem_nil _)
  have hids := nodup_hashes_platform hsections (List.forall_mem_nil _)
  have hargv : IsRun [.ofChars ['b', 'd'], wordRun, .ofChars ['0']] 0 :=
    ⟨_, _, _, rfl, by decide, by decide, by decide⟩
  obtain ⟨s', hrun, hcalls, hpainted⟩ := run_eeprom_test onBackplane_bone function_bone
    hlength hids (I2cCore.tidy_nil _) hboot
    (congrArg (·[0]?) suite_bone) rfl eepromBackplane_reaches hargv Nat.one_lt_two
  refine ⟨s', hrun, ?_, hpainted⟩
  rw [hcalls]
  rfl

/-! ## The NOR flash test -/

/-- **A board with a flash**, and with other things whose drivers keep off it. -/
structure Drivers.OnFlash (io : Drivers D) (dm : SpiFlashModel NorChip) (b : NorBoard)
    (chip : D → NorChip) : Prop where
  flash : io.flash.Through chip (stdFlash dm b.bus b.nor)
  i2c : io.i2c.Within fun d d' => chip d' = chip d
  transfers : io.i2c.TransfersWithin fun d d' => chip d' = chip d
  rest : io.RestWithin fun d d' => chip d' = chip d

section NorFlash

variable {io : Drivers D} {dm : SpiFlashModel NorChip} {b : NorBoard} {chip : D → NorChip}
  {R : Registry SuiteTest (Fixture D)} {testFuel : ℕ} {dev : Fixture D}
  {s : State B SuiteTest (Fixture D)}

/-- A NOR flash test leaves the flash waiting for a command. -/
theorem Drivers.OnFlash.confined_norFlashTest (hio : io.OnFlash dm b chip) {testId : BitVec 32}
    {arg : Option ANorFlashTest} (harg : ∀ a, arg = some a → b.Suits dm a) :
    Confined (OnBoard fun d d' => (chip d).Idle b.polls → (chip d').Idle b.polls)
      (norFlashTest io.flash testId arg) := by
  refine (through_norFlashTest hio.flash testId arg).confined
    (r := OnBoard fun c c' => c.Idle b.polls → c'.Idle b.polls) fun s hs => ?_
  cases arg with
  | none => exact hs
  | some a =>
      obtain ⟨r, s', hrun, -, hleft⟩ := NorBoard.run_norFlashTest_board (harg a rfl) testId hs
      rw [left_of_ok hrun]
      exact hleft.1

/-- **The flash waits for a command**, whatever commands have been given. -/
theorem Drivers.OnFlash.idle (hio : io.OnFlash dm b chip)
    (hfunction : ∀ reg ∈ R.suite B, reg.testFunction = some (SuiteTest.function io testFuel))
    (hareas : ∀ reg ∈ R.suite B, ∀ a, reg.testArgs = .norFlash (some a) → b.Suits dm a)
    (hboot : (chip dev.dev).Idle b.polls) (h : Reachable R dev s) :
    (chip s.dev.dev).Idle b.polls := by
  have hpreorder : IsPreorder D fun d d' => (chip d).Idle b.polls → (chip d').Idle b.polls :=
    { refl := fun _ h => h
      trans := fun _ _ _ h h' hd => h' (h hd) }
  have hkeeps : ∀ d d', chip d' = chip d → (chip d).Idle b.polls → (chip d').Idle b.polls :=
    fun d d' heq hd => heq ▸ hd
  have hi2c := hio.i2c.mono hkeeps
  have hR : R.Confined B io testFuel
      fun d d' => (chip d).Idle b.polls → (chip d').Idle b.polls := by
    refine ⟨hfunction, fun reg hreg testId => ?_⟩
    refine confined_call (hio.rest.mono hkeeps) hi2c testFuel _
      (fun t _ => t.within_of_ops hi2c (hio.transfers.mono hkeeps)) fun arg harg => ?_
    exact hio.confined_norFlashTest fun a ha => hareas reg hreg a (harg.trans (by rw [ha]))
  exact (hR.rel_dev h).1 hboot

/-- **The NOR flash test, from the command line to the cells.**  Let the tests of the suite be
registered with distinct ids, and let the areas of the NOR flash tests among them suit the flash.
After any commands, `run` with the number of such a test calls it and no other.  It passes exactly
if the test buffers ended alike; and it leaves blank what its last erasure covers, and every other
cell as it was.  So a flash of at most four megabytes is blank then. -/
theorem run_nor_flash_test (hio : io.OnFlash dm b chip)
    (hfunction : ∀ reg ∈ R.suite B, reg.testFunction = some (SuiteTest.function io testFuel))
    (hdim : (R.suite B).length ≤ dimTestList) (hids : (hashes (R.suite B)).Nodup)
    (hareas : ∀ reg ∈ R.suite B, ∀ a, reg.testArgs = .norFlash (some a) → b.Suits dm a)
    (hboot : (chip dev.dev).Idle b.polls) (h : Reachable R dev s) {n : ℕ}
    {reg : Registration SuiteTest (Fixture D)} (hreg : (R.suite B)[n]? = some reg)
    {a : ANorFlashTest} (ha : reg.testArgs = .norFlash (some a)) {argv : List CString}
    (hargv : IsRun argv n) {fuel : ℕ} (hfuel : 1 < fuel) :
    ∃ r s', (doBoarddiag fuel argv).run s = .ok .success s' ∧
      callsOf s'.trace = callsOf s.trace ++ [⟨n, reg.hash, reg.testArgs, r⟩] ∧
      ((r = .pass ∧ s.dev.nor.SameEnds a.spi_len.toNat) ∨
        (r = .fail ∧ ¬ s.dev.nor.SameEnds a.spi_len.toNat)) ∧
      b.LeftBlank a.spi_offset.toNat (chip s.dev.dev).cells (chip s'.dev.dev) ∧
      (b.shape.size ≤ 0x400000 → ∀ x < b.shape.size, (chip s'.dev.dev).cells x = blank) := by
  have hidle := hio.idle hfunction hareas hboot h
  obtain ⟨r, t, htest, hverdict, hleft⟩ := NorBoard.run_norFlashTest_board
    (hareas reg (List.mem_of_getElem? hreg) a ha) reg.hash
    (s := ({ s.dev with curTestId := 0, reports := [] } : Fixture D).part chip) hidle
  obtain ⟨t', htest', ht'⟩ := (through_norFlashTest hio.flash reg.hash (some a)).exists_ok htest
  obtain ⟨s', hrun, hdev, hcalls⟩ :=
    h.run_suiteTest hfunction hdim hids hreg ha htest' hargv hfuel
  have hchip : chip s'.dev.dev = t.dev := by
    rw [hdev]
    exact congrArg Fixture.dev ht'
  rw [← hchip] at hleft
  exact ⟨r, s', hrun, hcalls, hverdict, hleft, hleft.all⟩

end NorFlash

/-! ### On the BeagleBone -/

theorem onFlash_bone : bone.OnFlash NorBoard.presentModel NorBoard.w25q32 Prod.snd where
  flash := (stdFlash NorBoard.presentModel NorBoard.w25q32.bus NorBoard.w25q32.nor).through_onSnd
  i2c := (uclassI2c eepromBackplane.controller).within_onFst
  transfers := (uclassI2c eepromBackplane.controller).transfersWithin_onFst
  rest := Drivers.restWithin_bare _ _ fun _ => rfl

theorem suits_norFlashArgs : NorBoard.w25q32.Suits NorBoard.presentModel norFlashArgs where
  found _ := NorBoard.found_presentModel _ _ _ _ _
  bus := rfl
  fits := by decide
  len := by decide
  offset := by decide
  aligned := by decide
  sector := by decide
  size_lt := by decide

/-- There is one area. -/
theorem areas_bone : ∀ reg ∈ (platformRegistry bone 33 .am335xBbb).suite smallBuild, ∀ a,
    reg.testArgs = .norFlash (some a) → NorBoard.w25q32.Suits NorBoard.presentModel a := by
  intro reg hreg a ha
  rw [suite_bone] at hreg
  obtain ⟨l, hl, rfl⟩ := List.mem_map.mp hreg
  have hl' : l.test = .norFlash (some a) := ha
  have hone : a = norFlashArgs := by
    fin_cases hl <;> cases hl'
    rfl
  rw [hone]
  exact suits_norFlashArgs

/-- `boarddiag run 8`: the flash is blank, and the test passes. -/
theorem run_nor_flash_test_bone :
    ∃ s', (doBoarddiag 2 [.ofChars ['b', 'd'], wordRun, .ofChars ['8']]).run
        (State.boot (platformRegistry bone 33 .am335xBbb) boneAtBoot :
          State smallBuild SuiteTest (Fixture (I2cCore Rack × NorChip))) = .ok .success s' ∧
      (callsOf s'.trace).map Call.result = [.pass] ∧
      ∀ x < 0x400000, s'.dev.dev.2.cells x = blank := by
  have hboot : Reachable (platformRegistry bone 33 .am335xBbb) boneAtBoot
      (State.boot (platformRegistry bone 33 .am335xBbb) boneAtBoot :
        State smallBuild SuiteTest (Fixture (I2cCore Rack × NorChip))) := .refl
  have hsections := List.Perm.refl (platformSections bone 33 .am335xBbb)
  have hlength := length_platform hsections (List.forall_mem_nil _)
  have hids := nodup_hashes_platform hsections (List.forall_mem_nil _)
  have hargv : IsRun [.ofChars ['b', 'd'], wordRun, .ofChars ['8']] 8 :=
    ⟨_, _, _, rfl, by decide, by decide, by decide⟩
  obtain ⟨r, s', hrun, hcalls, hverdict, -, hblank⟩ := run_nor_flash_test onFlash_bone
    function_bone hlength hids areas_bone
    ⟨rfl, rfl, fun n => Nat.mod_lt n (by decide)⟩ hboot (congrArg (·[8]?) suite_bone) rfl
    hargv Nat.one_lt_two
  have hpass : r = .pass := by
    rcases hverdict with ⟨rfl, -⟩ | ⟨-, hends⟩
    · rfl
    · exact absurd (sameEnds_atBoot _ _) hends
  refine ⟨s', hrun, ?_, hblank le_rfl⟩
  rw [hcalls, hpass]
  rfl

end BoardDiag
