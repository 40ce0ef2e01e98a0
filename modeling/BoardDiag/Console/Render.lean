import BoardDiag.Machine.Text
import BoardDiag.Model.TestList

/-!
# What the console shows

The formats of `common/consolelog.c`, `common/process_diagtest_cmds.c` and
`common/cmd_boarddiag.c`, and a reader for the lines of the event log.

The event log begins its lines with two spaces, the id of a test in eight digits, two
spaces and a tag; the tag is followed by the name of a result or of an event.  `readLog`
reads such a line, and only such a line: `filterMap_readLog_rows` says that it finds in
every line the framework prints exactly the entry of the event log that is in it, if there
is one.

`printf` has a buffer, and what has no room in it is not printed.  `Line.fits` says how much
room the strings in a line have to leave for the line to be printed as it is.

What `__FILE__` stands for and how large the buffer is depends on how the framework is
compiled, so these are parameters.
-/

namespace BoardDiag

open Machine

/-! ## Names -/

/-- `GetEventName(event)`, for the events there are. -/
def getEventName : DiagErrEventIDTypes → List Byte
  | .info => chars "DIAG_INFO_EVENT"
  | .generic => chars "DIAG_GENERIC_ERR_EVENT"
  | .assert => chars "DIAG_ASSERT_ERR_EVENT"
  | .comAssert => chars "DIAG_COM_ASSERT_ERR_EVENT"
  | .testNotFound => chars "DIAG_TEST_NOT_FOUND_ERR_EVENT"
  | .busInit => chars "DIAG_BUS_INIT_ERR_EVENT"
  | .busRead => chars "DIAG_BUS_READ_ERR_EVENT"
  | .busWrite => chars "DIAG_BUS_WRITE_ERR_EVENT"
  | .busNotFound => chars "DIAG_BUS_NOT_FOUND_ERR_EVENT"
  | .busBufferOverrun => chars "DIAG_BUS_BUFFER_OVERRUN_ERR_EVENT"
  | .busBufferUnderrun => chars "DIAG_BUS_BUFFER_UNDERRUN_ERR_EVENT"
  | .busConfig => chars "DIAG_BUS_CONFIG_ERR_EVENT"
  | .busDataMismatch => chars "DIAG_BUS_DATA_MISMATCH_ERR_EVENT"
  | .busTimeout => chars "DIAG_BUS_TIMEOUT_ERR_EVENT"
  | .devInit => chars "DIAG_DEV_INIT_ERR_EVENT"
  | .devNotPresent => chars "DIAG_DEV_NOT_PRESENT_ERR_EVENT"
  | .devRead => chars "DIAG_DEV_READ_ERR_EVENT"
  | .devWrite => chars "DIAG_DEV_WRITE_ERR_EVENT"
  | .devDataMismatch => chars "DIAG_DEV_DATA_MISMATCH_ERR_EVENT"
  | .devDataTimeout => chars "DIAG_DEV_DATA_TIMEOUT_ERR_EVENT"
  | .devCommand => chars "DIAG_DEV_COMMAND_ERR_EVENT"
  | .devIdMismatch => chars "DIAG_DEV_ID_MISMATCH_ERR_EVENT"
  | .devAddr => chars "DIAG_DEV_ADDR_ERR_EVENT"
  | .devReset => chars "DIAG_DEV_RESET_ERR_EVENT"
  | .devConfig => chars "DIAG_DEV_CONFIG_ERR_EVENT"
  | .devBufferOverrun => chars "DIAG_DEV_BUFFER_OVERRUN_ERR_EVENT"
  | .devBufferUnderrun => chars "DIAG_DEV_BUFFER_UNDERRUN_ERR_EVENT"
  | .devUnexpectedDevice => chars "DIAG_DEV_UNEXPECTED_DEVICE_ERR_EVENT"
  | .devTimeout => chars "DIAG_DEV_TIMEOUT_ERR_EVENT"
  | .devErase => chars "DIAG_DEV_ERASE_ERR_EVENT"
  | .valueNotExpected => chars "DIAG_VALUE_NOT_EXPECTED_ERR_EVENT"
  | .valueTooSmall => chars "DIAG_VALUE_TOO_SMALL_ERR_EVENT"
  | .valueTooLarge => chars "DIAG_VALUE_TOO_LARGE_ERR_EVENT"
  | .valueNotInRange => chars "DIAG_VALUE_NOT_IN_RANGE_ERR_EVENT"
  | .modeProtected => chars "DIAG_MODE_PROTECTED_ERR_EVENT"
  | .memoryAlloc => chars "DIAG_MEMORY_ALLOC_ERR_EVENT"
  | .memoryFree => chars "DIAG_MEMORY_FREE_ERR_EVENT"

/-- `GetTestResult(result)`: the name of the constant from its eleventh letter on. -/
def getTestResult : TestResultTypes → List Byte
  | .notStarted => (chars "DIAG_TEST_RESULT_NOT_STARTED").drop 10
  | .inProgress => (chars "DIAG_TEST_RESULT_IN_PROGRESS").drop 10
  | .pass => (chars "DIAG_TEST_RESULT_PASS").drop 10
  | .aborted => (chars "DIAG_TEST_RESULT_ABORTED").drop 10
  | .timeout => (chars "DIAG_TEST_RESULT_TIMEOUT").drop 10
  | .fail => (chars "DIAG_TEST_RESULT_FAIL").drop 10

def TestResultTypes.all : List TestResultTypes :=
  [.notStarted, .inProgress, .pass, .aborted, .timeout, .fail]

def DiagErrEventIDTypes.all : List DiagErrEventIDTypes :=
  [.info, .generic, .assert, .comAssert, .testNotFound, .busInit, .busRead, .busWrite,
    .busNotFound, .busBufferOverrun, .busBufferUnderrun, .busConfig, .busDataMismatch,
    .busTimeout, .devInit, .devNotPresent, .devRead, .devWrite, .devDataMismatch,
    .devDataTimeout, .devCommand, .devIdMismatch, .devAddr, .devReset, .devConfig,
    .devBufferOverrun, .devBufferUnderrun, .devUnexpectedDevice, .devTimeout, .devErase,
    .valueNotExpected, .valueTooSmall, .valueTooLarge, .valueNotInRange, .modeProtected,
    .memoryAlloc, .memoryFree]

/-- The result with a name. -/
def resultNamed (name : List Byte) : Option TestResultTypes :=
  TestResultTypes.all.find? fun r => getTestResult r == name

/-- The event with a name. -/
def eventNamed (name : List Byte) : Option DiagErrEventIDTypes :=
  DiagErrEventIDTypes.all.find? fun e => getEventName e == name

theorem TestResultTypes.mem_all (r : TestResultTypes) : r ∈ all := by
  cases r <;> decide

theorem DiagErrEventIDTypes.mem_all (e : DiagErrEventIDTypes) : e ∈ all := by
  cases e <;> decide

/-- **No two results have the same name**, so a name is read back. -/
theorem resultNamed_getTestResult (r : TestResultTypes) :
    resultNamed (getTestResult r) = some r := by
  have hall : ∀ r ∈ TestResultTypes.all, resultNamed (getTestResult r) = some r := by
    decide +kernel
  exact hall r r.mem_all

/-- **No two events have the same name.** -/
theorem eventNamed_getEventName (e : DiagErrEventIDTypes) :
    eventNamed (getEventName e) = some e := by
  have hall : ∀ e ∈ DiagErrEventIDTypes.all, eventNamed (getEventName e) = some e := by
    decide +kernel
  exact hall e e.mem_all

/-- A name is one word. -/
theorem space_notMem_getEventName (e : DiagErrEventIDTypes) : ascii ' ' ∉ getEventName e := by
  have hall : ∀ e ∈ DiagErrEventIDTypes.all, ascii ' ' ∉ getEventName e := by decide +kernel
  exact hall e e.mem_all

/-- `#board`. -/
def Board.text : Board → List Byte
  | .bcm2836Rpi2 => chars "bcm2836_rpi2"
  | .am335xBbb => chars "am335x_bbb"

/-! ## Lines -/

/-- What depends on how the framework is compiled. -/
structure ConsoleConfig where
  /-- What `__FILE__` stands for. -/
  file : SourceFile → CString
  /-- `CONFIG_SYS_PBSIZE`. -/
  pbsize : ℕ

/-- `vscnprintf(printbuffer, sizeof(printbuffer), fmt, args)` and `puts(printbuffer)`: the last
byte of the buffer is kept for a `'\0'`. -/
def ConsoleConfig.printed (cfg : ConsoleConfig) (text : List Byte) : List Byte :=
  text.take (cfg.pbsize - 1)

/-- `%08X`. -/
def hex8 (w : BitVec 32) : List Byte := hexDigits 8 w.toNat

theorem readHex_hex8 (w : BitVec 32) : readHex (hex8 w) = some w.toNat := by
  rw [hex8, readHex_hexDigits, show 16 ^ 8 = 2 ^ 32 by rfl, Nat.mod_eq_of_lt w.isLt]

/-- `%X`. -/
def hex (w : BitVec 32) : List Byte :=
  if w = 0 then [hexDigit 0] else (Nat.digits 16 w.toNat).reverse.map hexDigit

/-- The verdicts of `DisplayTestResults`. -/
def Verdict.text : Verdict → List Byte
  | .notRun => chars "Not run"
  | .passed => chars "Passed"
  | .failed => chars "Failed"
  | .passedTimes runCount => chars "Passed " ++ signedDecimal runCount ++ chars " times"
  | .failedTimes totalFailCount =>
      chars "Failed " ++ signedDecimal totalFailCount ++ chars " times"
  | .failedOf totalFailCount runCount =>
      chars "Failed " ++ signedDecimal totalFailCount ++ chars " of " ++ signedDecimal runCount ++
        chars " times"
  | .failedOfNewFailure totalFailCount runCount newFailCount =>
      chars "Failed " ++ signedDecimal totalFailCount ++ chars " of " ++ signedDecimal runCount ++
        chars " times. (" ++ signedDecimal newFailCount ++ chars " new failure)"
  | .failedOfNewFailures totalFailCount runCount newFailCount =>
      chars "Failed " ++ signedDecimal totalFailCount ++ chars " of " ++ signedDecimal runCount ++
        chars " times. (" ++ signedDecimal newFailCount ++ chars " new failures)"

/-- The beginning of a line of the event log. -/
def logHead (testId : BitVec 32) (tag : String) : List Byte :=
  chars "  " ++ hex8 testId ++ chars tag

/-- The addresses of an event, each printed by a call of its own. -/
def addressCalls (e : DiagEventParams) : List (List Byte) :=
  (List.range e.addressDim).map fun index => chars " - " ++ hex (e.address.getD index 0)

/-- The addresses of an event. -/
def addressText (e : DiagEventParams) : List Byte := (addressCalls e).flatten

section Rows

variable (file : SourceFile → CString)

/-- The complete lines that are printed for a line of the framework. -/
def Line.rows : Line → List (List Byte)
  | .banner => [[], chars "   === Board Diagnostics Software ===", []]
  | .invalidOption arg => [chars " Invalid option " ++ arg.bytes]
  | .listAvailableTests name =>
      [chars "List available tests for " ++ name.elim (chars "not found") Board.text]
  | .runTheFollowingTests => [chars "Run the following tests"]
  | .outOfRange testIndex => [chars "Test " ++ signedDecimal testIndex ++ chars " out of range"]
  | .newline => [[]]
  | .testListNotFound board_index =>
      [chars "Test list " ++ signedDecimal board_index ++ chars " not found"]
  | .test testId description name =>
      [hex8 testId ++ chars " -- " ++ description.bytes ++ chars " -- " ++ name.bytes]
  | .exit => [chars "    Exit"]
  | .repeatTimes loopCnt => [chars "    repeat " ++ signedDecimal loopCnt ++ chars " times"]
  | .index _ => []
  | .testNotFound testId => [hex8 testId ++ chars " -- Error: Test not found"]
  | .testIdDiffers testId calculatedTestId =>
      [padLeft 20 [] ++ chars "Error: TestId is 0x" ++ hex8 testId ++ chars " but calculated 0x" ++
        hex8 calculatedTestId]
  | .sameTestId name =>
      [padLeft 20 [] ++ chars "Error: " ++ name.bytes ++ chars " has the same TestId"]
  | .unknownTest testId =>
      [chars "*** Error: Unknown test", chars "    TestId - " ++ hex8 testId,
        chars "    Not found"]
  | .result name description testId =>
      [chars "    Name   - " ++ name.bytes, chars "    Desc   - " ++ description.bytes,
        chars "    TestId - " ++ hex8 testId]
  | .verdict v => [chars "           - " ++ v.text]
  | .res testId r => [logHead testId "  Res: " ++ getTestResult r]
  | .evt e =>
      [logHead e.objectId "  Evt: " ++ getEventName e.eventType] ++
        (if e.addressDim = 0 then []
          else [logHead e.objectId "       " ++ (chars "Address" ++ addressText e)]) ++
        -- an array is never null, so the text is shown even if it is empty
        [logHead e.objectId "       " ++ e.string]
  | .err testId eventType => [logHead testId "  Err: " ++ getEventName eventType]
  | .emg testId eventType file' line =>
      -- the message has a line break of its own
      [logHead testId "  Emg: " ++ (getEventName eventType ++ (chars " ### ASSERT ### " ++
        (file file').bytes ++ chars "  " ++ decimal line)), []]

/-- What is printed after them. -/
def Line.stub : Line → List Byte
  | .index testIndex => padLeft 4 (signedDecimal testIndex) ++ chars " -- "
  | _ => []

/-- What the calls of `printf` are given to print, one after another. -/
def Line.calls : Line → List (List Byte)
  | .unknownTest testId => ((Line.unknownTest testId).rows file).map (· ++ [lineFeed])
  | .result name description testId =>
      ((Line.result name description testId).rows file).map (· ++ [lineFeed])
  | .evt e =>
      [logHead e.objectId "  Evt: " ++ getEventName e.eventType ++ [lineFeed]] ++
        (if e.addressDim = 0 then []
          else [logHead e.objectId "       " ++ chars "Address"] ++ addressCalls e ++
            [[lineFeed]]) ++
        [logHead e.objectId "       " ++ e.string ++ [lineFeed]]
  | .emg testId eventType file' line =>
      [logHead testId "  Emg: " ++ getEventName eventType ++ chars " ",
        chars "### ASSERT ### " ++ (file file').bytes ++ chars "  " ++ decimal line ++ [lineFeed],
        [lineFeed]]
  | l => [joined (l.rows file) ++ l.stub]

/-- The strings in a line, one after another. -/
def Line.strings : Line → List Byte
  | .invalidOption arg => arg.bytes
  | .test _ description name | .result name description _ => description.bytes ++ name.bytes
  | .sameTestId name => name.bytes
  | .evt e => e.string
  | .emg _ _ file' _ => (file file').bytes
  | _ => []

theorem Line.flatten_calls (l : Line) :
    (l.calls file).flatten = joined (l.rows file) ++ l.stub := by
  cases l with
  | evt e =>
      by_cases hdim : e.addressDim = 0 <;>
        simp [calls, rows, stub, joined, addressText, hdim]
  | emg testId eventType file' line =>
      have hassert : chars " ### ASSERT ### " = chars " " ++ chars "### ASSERT ### " := by decide
      simp [calls, rows, stub, joined, hassert]
  | unknownTest testId => simp [calls, rows, stub, joined]
  | result name description testId => simp [calls, rows, stub, joined]
  | _ => exact List.flatten_singleton

end Rows

section Text

variable (cfg : ConsoleConfig)

/-- What is printed for a line. -/
def Line.text (l : Line) : List Byte := (l.calls cfg.file).flatMap cfg.printed

/-- All of it has room in the buffer. -/
def Line.Fits (l : Line) : Prop := ∀ call ∈ l.calls cfg.file, call.length < cfg.pbsize

/-- A string without line breaks that leaves room in the buffer. -/
structure ConsoleConfig.Prints (s : List Byte) : Prop where
  clean : lineFeed ∉ s
  room : s.length + 81 < cfg.pbsize

instance (s : List Byte) : Decidable (cfg.Prints s) :=
  decidable_of_iff (lineFeed ∉ s ∧ s.length + 81 < cfg.pbsize)
    ⟨fun h => ⟨h.1, h.2⟩, fun h => ⟨h.clean, h.room⟩⟩

variable {cfg}

/-- **What fits is printed.** -/
theorem Line.Fits.text_eq {l : Line} (h : l.Fits cfg) :
    l.text cfg = joined (l.rows cfg.file) ++ l.stub := by
  rw [Line.text, ← l.flatten_calls, ← List.flatMap_id]
  refine List.flatMap_congr fun call hcall => List.take_of_length_le ?_
  have hlt := h call hcall
  omega

theorem ConsoleConfig.Prints.right {s t : List Byte} (h : cfg.Prints (s ++ t)) : cfg.Prints t where
  clean hmem := h.clean (List.mem_append_right s hmem)
  room := by
    have hroom := h.room
    rw [List.length_append] at hroom
    omega

theorem ConsoleConfig.Prints.nil {s : List Byte} (h : cfg.Prints s) : cfg.Prints [] :=
  ⟨List.not_mem_nil, (Nat.add_le_add_right (Nat.zero_le _) _).trans_lt h.room⟩

end Text

/-! ## No line breaks -/

section LineFeed

@[simp] theorem lineFeed_notMem_hex8 (w : BitVec 32) : lineFeed ∉ hex8 w := fun h =>
  absurd (hexValue_isSome_of_mem h) (by decide)

@[simp] theorem lineFeed_notMem_decimal (n : ℕ) : lineFeed ∉ decimal n := fun h =>
  absurd (decimalDigit_isSome_of_mem h) (by decide)

@[simp] theorem lineFeed_notMem_signedDecimal (z : ℤ) : lineFeed ∉ signedDecimal z := by
  rw [signedDecimal]
  split
  · rw [List.mem_cons, not_or]
    exact ⟨by decide, lineFeed_notMem_decimal _⟩
  · exact lineFeed_notMem_decimal _

@[simp] theorem lineFeed_notMem_hex (w : BitVec 32) : lineFeed ∉ hex w := by
  rw [hex]
  split
  · decide
  · intro h
    obtain ⟨d, hd, hsame⟩ := List.mem_map.mp h
    have hvalue := hexValue_hexDigit (Nat.digits_lt_base (by decide) (List.mem_reverse.mp hd))
    rw [hsame] at hvalue
    exact absurd hvalue (by rw [show hexValue lineFeed = none by decide]; exact nofun)

@[simp] theorem lineFeed_notMem_getEventName (e : DiagErrEventIDTypes) :
    lineFeed ∉ getEventName e := by
  have hall : ∀ e ∈ DiagErrEventIDTypes.all, lineFeed ∉ getEventName e := by decide +kernel
  exact hall e e.mem_all

@[simp] theorem lineFeed_notMem_getTestResult (r : TestResultTypes) :
    lineFeed ∉ getTestResult r := by
  cases r <;> decide +kernel

@[simp] theorem lineFeed_notMem_boardText (b : Board) : lineFeed ∉ b.text := by
  cases b <;> decide +kernel

@[simp] theorem lineFeed_notMem_verdictText (v : Verdict) : lineFeed ∉ v.text := by
  cases v <;>
    simp +decide [Verdict.text]

@[simp] theorem lineFeed_notMem_addressText (e : DiagEventParams) : lineFeed ∉ addressText e := by
  intro h
  obtain ⟨call, hcall, hmem⟩ := List.mem_flatten.mp h
  obtain ⟨index, -, rfl⟩ := List.mem_map.mp hcall
  rcases List.mem_append.mp hmem with hmem | hmem
  · exact absurd hmem (by decide)
  · exact lineFeed_notMem_hex _ hmem

/-- The rows of a line whose strings have no line breaks have none. -/
theorem Line.lineFeed_notMem {file : SourceFile → CString} {l : Line}
    (h : lineFeed ∉ l.strings file) : ∀ row ∈ l.rows file, lineFeed ∉ row := by
  cases l with
  | listAvailableTests name => cases name <;> simp +decide [rows]
  | evt e =>
      have hstring : lineFeed ∉ e.string := h
      by_cases hdim : e.addressDim = 0 <;> simp +decide [rows, logHead, hdim, hstring]
  | invalidOption arg =>
      have harg : lineFeed ∉ arg.bytes := h
      simp +decide [rows, harg]
  | test testId description name =>
      rw [strings, List.mem_append, not_or] at h
      simp +decide [rows, h.1, h.2]
  | sameTestId name =>
      have hname : lineFeed ∉ name.bytes := h
      simp +decide [rows, hname]
  | result name description testId =>
      rw [strings, List.mem_append, not_or] at h
      simp +decide [rows, h.1, h.2]
  | emg testId eventType file' line =>
      have hfile : lineFeed ∉ (file file').bytes := h
      simp +decide [rows, logHead, hfile]
  | _ => simp +decide [rows, logHead]

end LineFeed

/-! ## Room in the buffer -/

section Room

/-- The numbers in a verdict. -/
def Verdict.numbers : Verdict → List ℤ
  | .notRun | .passed | .failed => []
  | .passedTimes n | .failedTimes n => [n]
  | .failedOf totalFailCount runCount => [totalFailCount, runCount]
  | .failedOfNewFailure totalFailCount runCount newFailCount
  | .failedOfNewFailures totalFailCount runCount newFailCount =>
      [totalFailCount, runCount, newFailCount]

/-- The numbers in a line that are printed without leading zeros. -/
def Line.numbers : Line → List ℤ
  | .outOfRange n | .testListNotFound n | .repeatTimes n | .index n => [n]
  | .verdict v => v.numbers
  | .emg _ _ _ line => [(line : ℤ)]
  | _ => []

/-- The numbers are numbers of 32 bits. -/
def Narrow (ns : List ℤ) : Prop := ∀ n ∈ ns, n.natAbs < 2 ^ 32

theorem Narrow.length_le {ns : List ℤ} (h : Narrow ns) {n : ℤ} (hn : n ∈ ns) :
    (signedDecimal n).length ≤ 11 :=
  length_signedDecimal_le (by decide) ((h n hn).trans (by decide))

theorem length_hex8 (w : BitVec 32) : (hex8 w).length = 8 := length_hexDigits 8 _

theorem length_logHead (testId : BitVec 32) {tag : String} (htag : (chars tag).length = 7) :
    (logHead testId tag).length = 17 := by
  rw [logHead, List.length_append, List.length_append, length_hex8, htag]
  rfl

theorem length_hex_le (w : BitVec 32) : (hex w).length ≤ 8 := by
  rw [hex]
  split
  · decide
  · rw [List.length_map, List.length_reverse, Nat.digits_length_le_iff (by decide)]
    exact w.isLt

theorem length_getEventName_le (e : DiagErrEventIDTypes) : (getEventName e).length ≤ 36 := by
  have hall : ∀ e ∈ DiagErrEventIDTypes.all, (getEventName e).length ≤ 36 := by decide +kernel
  exact hall e e.mem_all

theorem length_getTestResult_le (r : TestResultTypes) : (getTestResult r).length ≤ 18 := by
  cases r <;> decide +kernel

theorem length_boardText_le (name : Option Board) :
    (name.elim (chars "not found") Board.text).length ≤ 12 := by
  cases name with
  | none => decide
  | some b => cases b <;> decide

theorem length_verdictText_le {v : Verdict} (h : Narrow v.numbers) : v.text.length ≤ 67 := by
  have hlit : (chars "Passed ").length = 7 ∧ (chars "Failed ").length = 7 ∧
      (chars " times").length = 6 ∧ (chars " of ").length = 4 ∧ (chars " times. (").length = 9 ∧
      (chars " new failure)").length = 13 ∧ (chars " new failures)").length = 14 :=
    ⟨rfl, rfl, rfl, rfl, rfl, rfl, rfl⟩
  cases v with
  | notRun | passed | failed => exact Nat.le_of_ble_eq_true rfl
  | passedTimes n | failedTimes n =>
      have hn := h.length_le (n := n) (by simp [Verdict.numbers])
      simp only [Verdict.text, List.length_append]
      omega
  | failedOf m n =>
      have hm := h.length_le (n := m) (by simp [Verdict.numbers])
      have hn := h.length_le (n := n) (by simp [Verdict.numbers])
      simp only [Verdict.text, List.length_append]
      omega
  | failedOfNewFailure l m n | failedOfNewFailures l m n =>
      have hl := h.length_le (n := l) (by simp [Verdict.numbers])
      have hm := h.length_le (n := m) (by simp [Verdict.numbers])
      have hn := h.length_le (n := n) (by simp [Verdict.numbers])
      simp only [Verdict.text, List.length_append]
      omega

variable {cfg : ConsoleConfig}

/-- A line of one row. -/
theorem Line.fits_of_row {l : Line} {row : List Byte}
    (hcalls : l.calls cfg.file = [joined [row] ++ []]) (h : row.length + 1 < cfg.pbsize) :
    l.Fits cfg := by
  intro call hcall
  rw [hcalls, List.mem_singleton] at hcall
  rwa [hcall, List.append_nil, joined_cons, List.length_append]

/-- The calls for an event: its name, its addresses one by one, and its text. -/
theorem Line.fits_evt {e : DiagEventParams} (h : e.string.length + 81 < cfg.pbsize) :
    (Line.evt e).Fits cfg := by
  have hevt := length_logHead e.objectId (show (chars "  Evt: ").length = 7 from rfl)
  have hblank := length_logHead e.objectId (show (chars "       ").length = 7 from rfl)
  have hname := length_getEventName_le e.eventType
  have hlit : (chars "Address").length = 7 ∧ (chars " - ").length = 3 := ⟨rfl, rfl⟩
  have haddress : ∀ call ∈ addressCalls e, call.length < cfg.pbsize := by
    intro call hcall
    obtain ⟨index, -, rfl⟩ := List.mem_map.mp hcall
    have hhex := length_hex_le (e.address.getD index 0)
    rw [List.length_append]
    omega
  by_cases hdim : e.addressDim = 0
  · simp only [Fits, calls, if_pos hdim, List.append_nil, List.cons_append, List.nil_append,
      List.forall_mem_cons, List.length_append, List.length_singleton]
    refine ⟨by omega, by omega, List.forall_mem_nil _⟩
  · simp only [Fits, calls, if_neg hdim, List.cons_append, List.nil_append, List.append_assoc,
      List.forall_mem_cons, List.forall_mem_append, List.length_append, List.length_singleton]
    exact ⟨by omega, by omega, haddress, by omega, by omega, List.forall_mem_nil _⟩

/-- The words in the lines. -/
theorem length_words :
    ((chars " Invalid option ").length = 16 ∧ (chars "List available tests for ").length = 25 ∧
      (chars "Run the following tests").length = 23 ∧ (chars "    Exit").length = 8) ∧
    ((chars "Test ").length = 5 ∧ (chars " out of range").length = 13 ∧
      (chars "Test list ").length = 10 ∧ (chars " not found").length = 10 ∧
      (chars "    repeat ").length = 11 ∧ (chars " times").length = 6) ∧
    ((chars " -- ").length = 4 ∧ (chars " -- Error: Test not found").length = 25 ∧
      (padLeft 20 []).length = 20 ∧ (chars "Error: TestId is 0x").length = 19 ∧
      (chars " but calculated 0x").length = 18 ∧ (chars "Error: ").length = 7 ∧
      (chars " has the same TestId").length = 20) ∧
    ((chars "*** Error: Unknown test").length = 23 ∧ (chars "    Not found").length = 13 ∧
      (chars "    Name   - ").length = 13 ∧ (chars "    Desc   - ").length = 13 ∧
      (chars "    TestId - ").length = 13 ∧ (chars "           - ").length = 13) ∧
    (chars " ").length = 1 ∧ (chars "### ASSERT ### ").length = 15 ∧ (chars "  ").length = 2 := by
  decide

/-- The calls for a message: its event, the message, and a line break. -/
theorem Line.fits_emg {testId : BitVec 32} {eventType : DiagErrEventIDTypes} {file : SourceFile}
    {line : ℕ} (hline : line < 2 ^ 32) (h : (cfg.file file).bytes.length + 81 < cfg.pbsize) :
    (Line.emg testId eventType file line).Fits cfg := by
  have hwords := length_words
  have hhead := length_logHead testId (show (chars "  Emg: ").length = 7 from rfl)
  have hname := length_getEventName_le eventType
  have hdigits : (decimal line).length ≤ 10 := length_decimal_le (by decide) (by omega)
  simp only [Fits, calls, List.forall_mem_cons, List.length_append, List.length_singleton]
  exact ⟨by omega, by omega, by omega, List.forall_mem_nil _⟩

/-- **What leaves room is printed**: the framework's own words and numbers take 81 bytes at
most. -/
theorem Line.fits {l : Line} (hnumbers : Narrow l.numbers) (h : cfg.Prints (l.strings cfg.file)) :
    l.Fits cfg := by
  have hwords := length_words
  have hroom := h.room
  cases l with
  | banner =>
      have hlen : (joined (Line.banner.rows cfg.file) ++ Line.banner.stub).length = 40 := rfl
      intro call hcall
      rw [List.mem_singleton.mp hcall, hlen]
      omega
  | runTheFollowingTests | exit => exact fits_of_row rfl (by omega)
  | newline => exact fits_of_row rfl (by rw [List.length_nil]; omega)
  | listAvailableTests name =>
      have hname := length_boardText_le name
      refine fits_of_row rfl ?_
      rw [List.length_append]
      omega
  | invalidOption arg | test testId description name | sameTestId name =>
      simp only [strings, List.length_append] at hroom
      refine fits_of_row rfl ?_
      simp only [List.length_append, length_hex8]
      omega
  | outOfRange n | testListNotFound n | repeatTimes n =>
      have hn := hnumbers.length_le (n := n) List.mem_cons_self
      refine fits_of_row rfl ?_
      simp only [List.length_append]
      omega
  | testNotFound testId | testIdDiffers testId calculatedTestId =>
      refine fits_of_row rfl ?_
      simp only [List.length_append, length_hex8]
      omega
  | index n =>
      have hn := hnumbers.length_le (n := n) List.mem_cons_self
      intro call hcall
      rw [List.mem_singleton.mp hcall]
      simp only [rows, stub, joined, padLeft, List.flatMap_nil, List.nil_append, List.length_append,
        List.length_replicate]
      omega
  | unknownTest testId | result name description testId =>
      simp only [strings, List.length_append] at hroom
      simp only [Fits, calls, rows, List.map_cons, List.map_nil, List.forall_mem_cons,
        List.length_append, List.length_singleton, length_hex8]
      exact ⟨by omega, by omega, by omega, List.forall_mem_nil _⟩
  | verdict v =>
      have hv := length_verdictText_le (v := v) hnumbers
      refine fits_of_row rfl ?_
      rw [List.length_append]
      omega
  | res testId r =>
      have hhead := length_logHead testId (show (chars "  Res: ").length = 7 from rfl)
      have hname := length_getTestResult_le r
      refine fits_of_row rfl ?_
      rw [List.length_append]
      omega
  | err testId eventType =>
      have hhead := length_logHead testId (show (chars "  Err: ").length = 7 from rfl)
      have hname := length_getEventName_le eventType
      refine fits_of_row rfl ?_
      rw [List.length_append]
      omega
  | evt e => exact fits_evt hroom
  | emg testId eventType file line => exact fits_emg (hnumbers line List.mem_cons_self) hroom

end Room

/-! ## Reading the event log -/

/-- An entry of the event log. -/
inductive LogEntry where
  | res (testId : BitVec 32) (r : TestResultTypes)
  | evt (testId : BitVec 32) (eventType : DiagErrEventIDTypes)
  | err (testId : BitVec 32) (eventType : DiagErrEventIDTypes)
  | emg (testId : BitVec 32) (eventType : DiagErrEventIDTypes)
  deriving DecidableEq

/-- The entry behind a tag. -/
def readTagged (testId : BitVec 32) (tag text : List Byte) : Option LogEntry :=
  if tag = chars "  Res: " then (resultNamed text).map (.res testId)
  else if tag = chars "  Evt: " then (eventNamed text).map (.evt testId)
  else if tag = chars "  Err: " then (eventNamed text).map (.err testId)
  else if tag = chars "  Emg: " then
    (eventNamed (text.takeWhile fun c => c ≠ ascii ' ')).map (.emg testId)
  else none

/-- The entry of the event log in a line, if there is one. -/
def readLog (row : List Byte) : Option LogEntry :=
  if row.take 2 = chars "  " then
    (readHex ((row.drop 2).take 8)).bind fun testId =>
      readTagged (BitVec.ofNat 32 testId) ((row.drop 10).take 7) (row.drop 17)
  else none

theorem readLog_of_take_ne {row : List Byte} (h : row.take 2 ≠ chars "  ") :
    readLog row = none := if_neg h

theorem readLog_of_mem {row : List Byte} {c : Byte} (hc : c ∈ (row.drop 2).take 8)
    (h : hexValue c = none) : readLog row = none := by
  rw [readLog, readHex_eq_none hc h, Option.bind_none, ite_self]

/-- A line of the event log comes down to its tag. -/
theorem readLog_logHead (testId : BitVec 32) {tag : String} (htag : (chars tag).length = 7)
    (text : List Byte) :
    readLog (logHead testId tag ++ text) = readTagged testId (chars tag) text := by
  have hlen : (hex8 testId).length = 8 := length_hexDigits 8 _
  have hrow : logHead testId tag ++ text = chars "  " ++ (hex8 testId ++ (chars tag ++ text)) := by
    simp only [logHead, List.append_assoc]
  have hdrop : (logHead testId tag ++ text).drop 10 = chars tag ++ text := by
    rw [hrow, ← List.append_assoc]
    exact List.drop_left' (by rw [List.length_append, hlen]; rfl)
  rw [readLog, if_pos (by rw [hrow]; rfl), hdrop, List.take_left' htag]
  have hhex : ((logHead testId tag ++ text).drop 2).take 8 = hex8 testId := by
    rw [hrow]
    exact List.take_left' hlen
  have htext : (logHead testId tag ++ text).drop 17 = text := by
    rw [show 17 = 10 + 7 by rfl, ← List.drop_drop, hdrop]
    exact List.drop_left' htag
  rw [hhex, readHex_hex8, Option.bind_some, BitVec.ofNat_toNat, BitVec.setWidth_eq, htext]

/-- A number in eight digits is not a space. -/
theorem readLog_hex8_append (w : BitVec 32) (text : List Byte) :
    readLog (hex8 w ++ text) = none := by
  refine readLog_of_take_ne fun htake => ?_
  have hhead : hexDigit (w.toNat / 16 ^ 7 % 16) = ascii ' ' :=
    Option.some.inj (congrArg List.head? htake)
  have hvalue := hexValue_hexDigit (Nat.mod_lt (w.toNat / 16 ^ 7) (show 0 < 16 by decide))
  rw [hhead] at hvalue
  exact absurd hvalue (by rw [show hexValue (ascii ' ') = none by decide]; exact nofun)

theorem space_notMem_signedDecimal (z : ℤ) : ascii ' ' ∉ signedDecimal z := by
  have hdecimal : ∀ n, ascii ' ' ∉ decimal n := fun n h =>
    absurd (decimalDigit_isSome_of_mem h) (by decide)
  rw [signedDecimal]
  split
  · rw [List.mem_cons, not_or]
    exact ⟨by decide, hdecimal _⟩
  · exact hdecimal _

theorem signedDecimal_ne_nil (z : ℤ) : signedDecimal z ≠ [] := by
  rw [signedDecimal]
  split
  · exact List.cons_ne_nil _ _
  · exact decimal_ne_nil _

/-- A number in a column of four is followed by a space before the digits of an id would be
complete. -/
theorem readLog_index_append (testIndex : ℤ) (text : List Byte) :
    readLog (padLeft 4 (signedDecimal testIndex) ++ chars " -- " ++ text) = none := by
  rw [List.append_assoc]
  by_cases hlen : (signedDecimal testIndex).length ≤ 4
  · refine readLog_of_mem (c := ascii ' ') ?_ (by decide)
    rw [List.drop_append_of_le_length (by rw [length_padLeft hlen]; decide), List.take_append]
    refine List.mem_append_right _ ?_
    rw [List.length_drop, length_padLeft hlen]
    exact List.mem_cons_self
  · refine readLog_of_take_ne fun htake => ?_
    have hnopad : padLeft 4 (signedDecimal testIndex) = signedDecimal testIndex := by
      rw [padLeft, Nat.sub_eq_zero_of_le (by omega), List.replicate_zero, List.nil_append]
    obtain ⟨c, cs, hcs⟩ := List.exists_cons_of_ne_nil (signedDecimal_ne_nil testIndex)
    rw [hnopad, hcs] at htake
    have hspace : c = ascii ' ' := Option.some.inj (congrArg List.head? htake)
    refine space_notMem_signedDecimal testIndex ?_
    rw [hcs, hspace]
    exact List.mem_cons_self

/-! ### Tags -/

theorem readTagged_res (testId : BitVec 32) (r : TestResultTypes) :
    readTagged testId (chars "  Res: ") (getTestResult r) = some (.res testId r) := by
  rw [readTagged, if_pos rfl, resultNamed_getTestResult]
  rfl

theorem readTagged_evt (testId : BitVec 32) (e : DiagErrEventIDTypes) :
    readTagged testId (chars "  Evt: ") (getEventName e) = some (.evt testId e) := by
  rw [readTagged, if_neg (by decide), if_pos rfl, eventNamed_getEventName]
  rfl

theorem readTagged_err (testId : BitVec 32) (e : DiagErrEventIDTypes) :
    readTagged testId (chars "  Err: ") (getEventName e) = some (.err testId e) := by
  rw [readTagged, if_neg (by decide), if_neg (by decide), if_pos rfl, eventNamed_getEventName]
  rfl

/-- The name of a message ends at the first space. -/
theorem readTagged_emg (testId : BitVec 32) (e : DiagErrEventIDTypes) (text : List Byte) :
    readTagged testId (chars "  Emg: ") (getEventName e ++ (ascii ' ' :: text)) =
      some (.emg testId e) := by
  have hword : (getEventName e ++ (ascii ' ' :: text)).takeWhile (fun c => c ≠ ascii ' ') =
      getEventName e := by
    rw [List.takeWhile_append_of_pos]
    · rw [List.takeWhile_cons_of_neg (by simp), List.append_nil]
    · intro c hc
      refine decide_eq_true fun hspace => space_notMem_getEventName e ?_
      rwa [hspace] at hc
  rw [readTagged, if_neg (by decide), if_neg (by decide), if_neg (by decide), if_pos rfl, hword,
    eventNamed_getEventName]
  rfl

theorem readTagged_blank (testId : BitVec 32) (text : List Byte) :
    readTagged testId (chars "       ") text = none := by
  rw [readTagged, if_neg (by decide), if_neg (by decide), if_neg (by decide), if_neg (by decide)]

/-- The entry of the event log in what a call of `printf` prints. -/
def Line.logged : Line → List LogEntry
  | .res testId r => [.res testId r]
  | .evt e => [.evt e.objectId e.eventType]
  | .err testId eventType => [.err testId eventType]
  | .emg testId eventType _ _ => [.emg testId eventType]
  | _ => []

/-- **The reader finds what there is**, and nothing else. -/
theorem filterMap_readLog_rows (file : SourceFile → CString) (l : Line) :
    (l.rows file).filterMap readLog = l.logged := by
  cases l with
  | banner => rfl
  | invalidOption arg => rfl
  | listAvailableTests name => rfl
  | runTheFollowingTests => rfl
  | outOfRange testIndex => rfl
  | newline => rfl
  | testListNotFound board_index => rfl
  | exit => rfl
  | repeatTimes loopCnt => rfl
  | index testIndex => rfl
  | testIdDiffers testId calculatedTestId => rfl
  | sameTestId name => rfl
  | unknownTest testId => rfl
  | result name description testId => rfl
  | verdict v => rfl
  | test testId description name =>
      rw [Line.rows, List.append_assoc, List.append_assoc, List.append_assoc]
      simp only [List.filterMap_cons, readLog_hex8_append]
      rfl
  | testNotFound testId =>
      rw [Line.rows]
      simp only [List.filterMap_cons, readLog_hex8_append]
      rfl
  | res testId r =>
      simp only [Line.rows, List.filterMap_cons, readLog_logHead testId (by decide :
        (chars "  Res: ").length = 7), readTagged_res]
      rfl
  | err testId eventType =>
      simp only [Line.rows, List.filterMap_cons, readLog_logHead testId (by decide :
        (chars "  Err: ").length = 7), readTagged_err]
      rfl
  | emg testId eventType file' line =>
      have hassert : chars " ### ASSERT ### " = ascii ' ' :: chars "### ASSERT ### " := by decide
      simp only [Line.rows, List.filterMap_cons, readLog_logHead testId (by decide :
        (chars "  Emg: ").length = 7), hassert, List.cons_append, readTagged_emg]
      rfl
  | evt e =>
      have hblank : ∀ text, readLog (logHead e.objectId "       " ++ text) = none := fun text => by
        rw [readLog_logHead e.objectId (by decide), readTagged_blank]
      by_cases hdim : e.addressDim = 0 <;>
        simp [Line.rows, hdim, hblank, readLog_logHead e.objectId (by decide :
          (chars "  Evt: ").length = 7), readTagged_evt, Line.logged]

end BoardDiag
