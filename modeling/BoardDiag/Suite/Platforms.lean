import BoardDiag.Suite.Attribution
import BoardDiag.Suite.Pins
import BoardDiag.Usage.LinkerLists

/-!
# The platforms

`supported-platforms/am335x_bbb/am335x_bbb.c` and
`supported-platforms/bcm2836_rpi2/bcm2836_rpi2.c`: the tests that are declared for the BeagleBone
and for the Raspberry Pi, with their configurations.  A program has the one file or the other.

`numbers_on_platform` is the outcome: which tests there are, and by which numbers they are run.
On the BeagleBone the time is read before it is set, as the linker does not keep the order of
the file; and on the Raspberry Pi there are two tests only, as the ping is declared for a board
`bcm2836_bbb` and the memory tests for the BeagleBone.
-/

namespace BoardDiag

open Machine

variable {D ω : Type}

/-- A line `INVOKE_TEST_WITH_PARAM(board, description, function, argument) = { ... }`. -/
structure SuiteDeclaration where
  board : CString
  description : CString
  function : CString
  argument : CString
  test : SuiteTest

namespace SuiteDeclaration

/-- The test, on a board with some drivers. -/
def declare (io : Drivers D) (fuel : ℕ) (l : SuiteDeclaration) :
    Declaration SuiteTest (Fixture D) where
  board := l.board
  description := l.description
  function := l.function
  argument := l.argument
  testFunction := SuiteTest.function io fuel
  testArgs := l.test

/-- `function##_##argument`. -/
def name (l : SuiteDeclaration) : CString := l.function ++ .ofChars ['_'] ++ l.argument

end SuiteDeclaration

/-- A line, with its strings as they are written. -/
def invokeTestWithParam (board description function argument : String) (test : SuiteTest) :
    SuiteDeclaration :=
  ⟨.ofChars board.toList, .ofChars description.toList, .ofChars function.toList,
    .ofChars argument.toList, test⟩

/-! ## The BeagleBone -/

namespace Am335xBbb

/-- `{0x24, 0x34, 0x50}` and `{"Slave 1", "Slave 2", "Slave 3"}`, on a bus. -/
def slaves (bus_no : BitVec 8) : AI2cInterfaceTest where
  bus_no := bus_no
  dev_address_list := Vector.ofFn fun i => [0x24, 0x34, 0x50].getD i 0
  dev_name_list := Vector.ofFn fun i => ([some (.ofChars "Slave 1".toList),
    some (.ofChars "Slave 2".toList), some (.ofChars "Slave 3".toList)]).getD i none
  no_of_device := 3

def i2cBus0Probe : SuiteDeclaration :=
  invokeTestWithParam "am335x_bbb" "I2C bus 0 probe" "I2C_interface_test" "I2C0_DEVICES"
    (.i2cInterface (some (slaves 0)))

def i2cBus1Probe : SuiteDeclaration :=
  invokeTestWithParam "am335x_bbb" "I2C bus 1 probe" "I2C_interface_test" "I2C1_DEVICES"
    (.i2cInterface (some (slaves 1)))

def ping : SuiteDeclaration :=
  invokeTestWithParam "am335x_bbb" "Ping" "ping_test" "smsc95xx_eth"
    (.ping (some ⟨some (.ofChars "10.144.172.135".toList)⟩))

def emmcPresence : SuiteDeclaration :=
  invokeTestWithParam "am335x_bbb" "eMMC presence" "MMC_Detection_Test" "eMMC_check"
    (.mmcDetection (some ⟨0x481D8000⟩))

def emmcAccess : SuiteDeclaration :=
  invokeTestWithParam "am335x_bbb" "eMMC Read, Write and Erase tests" "MMC_WRITE_READ_Test"
    "eMMC_Access_Check" (.mmcWriteRead (some ⟨0x481D8000, 583, 16, 0⟩))

def memoryDataLine : SuiteDeclaration :=
  invokeTestWithParam "am335x_bbb" "Memory Test" "memory_data_line_test" "Data_Line"
    (.memoryDataLine (some ⟨0x88080000⟩))

def memoryAddressLine : SuiteDeclaration :=
  invokeTestWithParam "am335x_bbb" "Memory Test" "memory_address_line_test" "Address_Line"
    (.memoryAddressLine (some ⟨0x88080000, 2048⟩))

def memoryPattern : SuiteDeclaration :=
  invokeTestWithParam "am335x_bbb" "Memory Test" "memory_pattern_test" "Pattern"
    (.memoryPattern (some ⟨0x88080000, 2048, 0x55555555⟩))

def gpioOutputEnable : SuiteDeclaration :=
  invokeTestWithParam "am335x_bbb" "GPIO Output Enable" "GPIO_test" "GPIO0_OUTPUT_ENABLE"
    (.gpio (some gpio0OutputEnable))

def gpioOutputDisable : SuiteDeclaration :=
  invokeTestWithParam "am335x_bbb" "GPIO Output Disable" "GPIO_test" "GPIO0_OUTPUT_DISABLE"
    (.gpio (some gpio0OutputDisable))

def ethernet : SuiteDeclaration :=
  invokeTestWithParam "am335x_bbb" "Ethernet Test" "Ethernet_test" "SPEED_DUPLEX_AUTONEGOTIATE"
    (.ethernet (some ⟨.ofChars "ethernet@4a100000".toList, 0x00, lan8710a⟩))

def pwrRailings : SuiteDeclaration :=
  invokeTestWithParam "am335x_bbb" "PWR railings display" "PWR_railings_test" "REGISTER_READ"
    (.pwrRailings (some ⟨0, 0x24, tps65217c⟩))

def eepromReadWrite : SuiteDeclaration :=
  invokeTestWithParam "am335x_bbb" "EEPROM Read Write" "EEPROM_Read_Write_test" "EEPROM"
    (.eepromReadWrite (some eepromArgs))

def norFlash : SuiteDeclaration :=
  invokeTestWithParam "am335x_bbb" "SPI NOR flash erase-Write-Read test " "NOR_Flash_test"
    "NOR_FLASH" (.norFlash (some norFlashArgs))

def rtcSetTime : SuiteDeclaration :=
  invokeTestWithParam "am335x_bbb" "RTC set time" "ds2321_rtc_set_time_test" "value"
    (.rtcSetTime (some ⟨1, 100000, 0x68, 0x20, 0x14, 0x05⟩))

def rtcGetTime : SuiteDeclaration :=
  invokeTestWithParam "am335x_bbb" "RTC get time" "ds2321_rtc_get_time_test" "value"
    (.rtcGetTime (some ⟨1, 100000, 0x68⟩))

/-- `am335x_bbb.c`. -/
def declarations : List SuiteDeclaration :=
  [i2cBus0Probe, i2cBus1Probe, ping, emmcPresence, emmcAccess, memoryDataLine,
    memoryAddressLine, memoryPattern, gpioOutputEnable, gpioOutputDisable, ethernet,
    pwrRailings, eepromReadWrite, norFlash, rtcSetTime, rtcGetTime]

/-- The tests in the order of their numbers. -/
def numbered : List SuiteDeclaration :=
  [eepromReadWrite, ethernet, gpioOutputDisable, gpioOutputEnable, i2cBus0Probe, i2cBus1Probe,
    emmcPresence, emmcAccess, norFlash, pwrRailings, rtcGetTime, rtcSetTime, memoryAddressLine,
    memoryDataLine, memoryPattern, ping]

end Am335xBbb

/-! ## The Raspberry Pi -/

namespace Bcm2836Rpi2

def ping : SuiteDeclaration :=
  invokeTestWithParam "bcm2836_bbb" "Ping" "ping_test" "smsc95xx_eth"
    (.ping (some ⟨some (.ofChars "10.144.172.135".toList)⟩))

def emmcPresence : SuiteDeclaration :=
  invokeTestWithParam "bcm2836_rpi2" "eMMC presence" "MMC_Detection_Test" "eMMC_check"
    (.mmcDetection (some ⟨0x3f300000⟩))

def emmcAccess : SuiteDeclaration :=
  invokeTestWithParam "bcm2836_rpi2" "eMMC Read, Write and Erase tests" "MMC_WRITE_READ_Test"
    "eMMC_Access_Check" (.mmcWriteRead (some ⟨0x3f300000, 583, 16, 0⟩))

/-- `bcm2836_rpi2.c`.  The memory tests are the same in both files, down to the board they are
declared for. -/
def declarations : List SuiteDeclaration :=
  [ping, emmcPresence, emmcAccess, Am335xBbb.memoryDataLine, Am335xBbb.memoryAddressLine,
    Am335xBbb.memoryPattern]

/-- The tests in the order of their numbers. -/
def numbered : List SuiteDeclaration := [emmcPresence, emmcAccess]

end Bcm2836Rpi2

/-! ## Numbers -/

/-- The file of a platform. -/
def Board.declarations : Board → List SuiteDeclaration
  | .am335xBbb => Am335xBbb.declarations
  | .bcm2836Rpi2 => Bcm2836Rpi2.declarations

/-- The tests of a platform in the order of their numbers. -/
def Board.numbered : Board → List SuiteDeclaration
  | .am335xBbb => Am335xBbb.numbered
  | .bcm2836Rpi2 => Bcm2836Rpi2.numbered

/-- The tests of a file that are declared for a board. -/
def Board.declaredFor (file b : Board) : List SuiteDeclaration :=
  file.declarations.filter fun l => decide (l.board = b.token)

theorem distinct_declarations (file b : Board) :
    ((file.declaredFor b).map SuiteDeclaration.name).Nodup := by
  cases file <;> cases b <;> decide +kernel

/-- The entry of a line, as far as it matters to the linker. -/
def SuiteDeclaration.llEntry (l : SuiteDeclaration) : LlEntry Unit :=
  ⟨testListOf l.board, l.name, ()⟩

/-- What a file declares for another board is not sorted among the tests of a board. -/
theorem not_between_declarations (file b : Board) : ∀ l ∈ file.declarations,
    l.board ≠ b.token → ¬ l.llEntry.Between (testListOf b.token) := by
  cases file <;> cases b <;> decide +kernel

/-- The numbered tests are those that are declared for the board of the file. -/
theorem mem_declaredFor (file : Board) : ∀ l ∈ file.numbered, l ∈ file.declaredFor file := by
  intro l hl
  refine List.mem_filter.mpr ⟨?_, ?_⟩
  · revert l
    cases file
    · simp [Board.numbered, Bcm2836Rpi2.numbered, Board.declarations, Bcm2836Rpi2.declarations]
    · simp [Board.numbered, Am335xBbb.numbered, Board.declarations, Am335xBbb.declarations]
  · revert l
    cases file <;> decide +kernel

theorem length_numbered (file : Board) :
    file.numbered.length = (file.declaredFor file).length := by
  cases file <;> decide +kernel

/-- The number of a test is the number of tests with smaller names. -/
theorem countP_numbered (file : Board) : ∀ k (hk : k < file.numbered.length),
    ((file.declaredFor file).countP fun l =>
      isBelow (sortKey l.name) (sortKey (file.numbered.get ⟨k, hk⟩).name)) = k := by
  cases file <;> decide +kernel

theorem distinct_ids (file : Board) :
    (file.numbered.map fun l => calculateTestIdHash l.name).Nodup := by
  cases file <;> decide +kernel

/-- The program of a platform, with whatever else it has in linker lists. -/
def platformProgram (io : Drivers D) (fuel : ℕ) (file : Board) (others : List (LlEntry ω)) :
    Program SuiteTest (Fixture D) ω where
  tests := file.declarations.map (SuiteDeclaration.declare io fuel)
  others := others
  distinct b := by
    rw [List.filter_map, List.map_map]
    exact distinct_declarations file b

section Numbers

variable {io : Drivers D} {fuel : ℕ} {file : Board} {others : List (LlEntry ω)}

theorem clear_platformProgram {b : Board}
    (hothers : ∀ d ∈ others, ¬ d.Between (testListOf b.token)) :
    (platformProgram io fuel file others).Clear b where
  tests d hd := by
    obtain ⟨l, hl, rfl⟩ := List.mem_map.mp hd
    exact not_between_declarations file b l hl
  others := hothers

theorem testsOf_platformProgram (b : Board) :
    (platformProgram io fuel file others).testsOf b =
      (file.declaredFor b).map (SuiteDeclaration.declare io fuel) := by
  rw [Program.testsOf, platformProgram, List.filter_map]
  rfl

theorem rank_platformProgram (b : Board) (l : SuiteDeclaration) :
    (platformProgram io fuel file others).rank b (l.declare io fuel) =
      (file.declaredFor b).countP fun l' => isBelow (sortKey l'.name) (sortKey l.name) := by
  rw [Program.rank, testsOf_platformProgram, List.countP_map]
  rfl

section Linked

variable
  {sections : List (LinkSection (List ℕ) (LlEntry (Registration SuiteTest (Fixture D) ⊕ ω)))}
  {more : List CString}
  (hsections : sections.Perm
    (llSections (platformProgram io fuel file others).declared (usedLists more)))
  (hothers : ∀ d ∈ others, ¬ d.Between (testListOf file.token))

include hsections hothers

theorem linkedTests_platform : linkedTests sections file =
    file.numbered.map fun l => (l.declare io fuel).registration := by
  have heq : linkedTests sections file =
      (file.numbered.map (SuiteDeclaration.declare io fuel)).map Declaration.registration := by
    refine linkedTests_eq hsections (clear_platformProgram hothers) ?_ fun k hk => ?_
    · rw [testsOf_platformProgram, List.length_map, List.length_map, length_numbered]
    · rw [List.length_map] at hk
      rw [List.getElem_map, testsOf_platformProgram, rank_platformProgram]
      exact ⟨List.mem_map_of_mem (mem_declaredFor file _ (List.getElem_mem hk)),
        countP_numbered file k hk⟩
  rw [heq, List.map_map]
  rfl

theorem nodup_hashes_platform : (hashes (linkedTests sections file)).Nodup := by
  rw [linkedTests_platform hsections hothers, hashes, List.map_map]
  exact distinct_ids file

theorem length_platform : (linkedTests sections file).length ≤ dimTestList := by
  rw [linkedTests_platform hsections hothers, List.length_map]
  cases file <;> decide +kernel

end Linked

/-- **The numbers of the tests.**  In whatever order the program of a platform is linked, and
whatever else it has in linker lists as long as none of that is sorted between the marks of the
platform's list, these are the tests on the list, in this order; and after any commands, `run`
with one of these numbers calls the test with this number and no other. -/
theorem numbers_on_platform {B : Build} (io : Drivers D) (testFuel : ℕ) (file : Board)
    (others : List (LlEntry ω)) (hothers : ∀ d ∈ others, ¬ d.Between (testListOf file.token))
    {sections : List (LinkSection (List ℕ) (LlEntry (Registration SuiteTest (Fixture D) ⊕ ω)))}
    {more : List CString}
    (hsections : sections.Perm
      (llSections (platformProgram io testFuel file others).declared (usedLists more)))
    {R : Registry SuiteTest (Fixture D)} (hR : R.suite B = linkedTests sections file)
    {dev : Fixture D} {s : State B SuiteTest (Fixture D)} (h : Reachable R dev s) {fuel : ℕ}
    (hfuel : 1 < fuel) :
    R.suite B = file.numbered.map (fun l => (l.declare io testFuel).registration) ∧
      ∀ k < file.numbered.length, ∀ argv, IsRun argv k →
        ∃ s', (doBoarddiag fuel argv).run s = .ok .success s' ∧
          (callsOf s'.trace).map Call.index = (callsOf s.trace).map Call.index ++ [k] := by
  have hsuite := hR.trans (linkedTests_platform hsections hothers)
  refine ⟨hsuite, fun k hk argv hargv => ?_⟩
  have hplace : (R.suite B)[k]? = some (file.numbered[k].declare io testFuel).registration := by
    rw [hsuite, List.getElem?_map, List.getElem?_eq_getElem hk, Option.map_some]
  obtain ⟨s', hrun, -, hcalls⟩ := h.run_number (hR ▸ length_platform hsections hothers)
    (hR ▸ nodup_hashes_platform hsections hothers) hplace rfl hargv hfuel
  refine ⟨s', hrun, ?_⟩
  rw [hcalls, List.map_append]
  rfl

end Numbers

/-! ## The programs as they are -/

/-- The sections of the program of a platform that has nothing else in linker lists. -/
def platformSections (io : Drivers D) (fuel : ℕ) (file : Board) :
    List (LinkSection (List ℕ) (LlEntry (Registration SuiteTest (Fixture D) ⊕ Empty))) :=
  llSections (platformProgram io fuel file []).declared (usedLists [])

/-- What `ProcessTestList` finds in it. -/
def platformRegistry (io : Drivers D) (fuel : ℕ) (file : Board) :
    Registry SuiteTest (Fixture D) where
  tests := linkedTests (platformSections io fuel file)
  fits b := by
    rw [(linkedTests_perm (List.Perm.refl (platformSections io fuel file))
      (clear_platformProgram (List.forall_mem_nil _))).length_eq, List.length_map,
      testsOf_platformProgram, List.length_map]
    cases file <;> cases b <;> decide +kernel

/-- A build for the Raspberry Pi. -/
def rpiBuild : Build :=
  { smallBuild with boardDefault := .bcm2836Rpi2 }

/-- The two tests of the Raspberry Pi. -/
theorem numbers_on_platform_rpi :
    ((platformRegistry dullBoard 33 .bcm2836Rpi2).suite rpiBuild).map Registration.name =
        [.ofChars "MMC_Detection_Test_eMMC_check".toList,
          .ofChars "MMC_WRITE_READ_Test_eMMC_Access_Check".toList] ∧
      ∃ s', (doBoarddiag 2 [.ofChars ['b', 'd'], wordRun, .ofChars ['1']]).run
          (State.boot (platformRegistry dullBoard 33 .bcm2836Rpi2) (Fixture.atBoot false) :
            State rpiBuild SuiteTest (Fixture Bool)) = .ok .success s' ∧
        (callsOf s'.trace).map Call.index = [1] := by
  have hboot : Reachable (platformRegistry dullBoard 33 .bcm2836Rpi2) (Fixture.atBoot false)
      (State.boot (platformRegistry dullBoard 33 .bcm2836Rpi2) (Fixture.atBoot false) :
        State rpiBuild SuiteTest (Fixture Bool)) := .refl
  obtain ⟨hsuite, hnumbers⟩ := numbers_on_platform dullBoard 33 .bcm2836Rpi2 []
    (List.forall_mem_nil _)
    (List.Perm.refl (platformSections dullBoard 33 .bcm2836Rpi2)) rfl hboot Nat.one_lt_two
  obtain ⟨s', hrun, hcalls⟩ := hnumbers 1 (by decide)
    [.ofChars ['b', 'd'], wordRun, .ofChars ['1']]
    ⟨_, _, _, rfl, by decide, by decide, by decide⟩
  refine ⟨?_, s', hrun, hcalls⟩
  rw [hsuite]
  decide +kernel

end BoardDiag
