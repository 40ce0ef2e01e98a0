import BoardDiag.Suite.Peripherals
import BoardDiag.Suite.Transfers

/-!
# Reading and writing a card

`MMC_WRITE_READ_Test` is written to read some blocks of a card, erase them, write back what
was read, read them again and compare.  Its first check returns in both branches: without
a configuration the test is aborted, and with one it passes.  What follows is never
reached.

So a pass says nothing about the card, for no configuration and no device
(`mmc_pass_never_earned`).  That the return is the fault, and not the code behind it, is
`mmcWriteReadRest_earns`: the statements that are never reached do pass only if the four
operations have been performed in their order, each on all blocks, and both readings
agree.

What is performed is read off a record of the calls into the block layer, as for the
transfers on an I2C bus.
-/

namespace BoardDiag

open Machine

variable {D : Type}

/-! ## The statements behind the return -/

/-- `MMC_BUFFER_SIZE`. -/
def mmcBufferSize : ℕ := 8192

/-- `MMC_MAX_TEST_BLOCK`. -/
def mmcMaxTestBlock : BitVec 32 := 0x10

/-- `test_buffer_1` and `test_buffer_2`. -/
abbrev MmcBuffer := Vector Byte mmcBufferSize

/-- What U-Boot's block layer does and answers, besides its MMC drivers. -/
structure BlockDriver (D : Type) extends MmcDriver D where
  mmcGetwp (mmc : Udevice) : D → BitVec 32 × D
  /-- `blk_dread(mmc_get_blk_desc(mmc), start, blkcnt, buffer)`: how many blocks it says it
  has read, and the buffer afterwards. -/
  blkDread (mmc : Udevice) (start blkcnt : BitVec 32) (buffer : MmcBuffer) :
    D → (BitVec 32 × MmcBuffer) × D
  blkDwrite (mmc : Udevice) (start blkcnt : BitVec 32) (buffer : MmcBuffer) : D → BitVec 32 × D
  blkDerase (mmc : Udevice) (start blkcnt : BitVec 32) : D → BitVec 32 × D

/-- `struct mmc_param_s`, without what is only printed. -/
structure MmcParam where
  block_start : BitVec 32
  block_cnt : BitVec 32
  dev_id : BitVec 32

/-- `(n == mmc_parameters->block_cnt) ? DIAG_TEST_RESULT_PASS : DIAG_TEST_RESULT_FAIL`. -/
def MmcParam.counted (p : MmcParam) (n : BitVec 32) : TestResultTypes :=
  if n = p.block_cnt then .pass else .fail

/-- `MMC_Read_Blocks(mmc_parameters, data_buffer)`. -/
def mmcReadBlocks (io : BlockDriver D) (p : MmcParam) (data_buffer : MmcBuffer) :
    TestProg D (TestResultTypes × MmcBuffer) := do
  match ← drive (io.findMmcDevice p.dev_id.toNat) with
  | none => return (.fail, data_buffer)
  | some mmc =>
      drive fun d => ((), io.clearHasInit mmc d)
      let mmc_init_status ← drive (io.mmcInit mmc)
      if mmc_init_status.toInt < 0 then
        return (.fail, data_buffer)
      let (n, data_buffer) ← drive (io.blkDread mmc p.block_start p.block_cnt data_buffer)
      return (p.counted n, data_buffer)

/-- `MMC_Write_Blocks(mmc_parameters, data_buffer)`: the status it looks at is never set. -/
def mmcWriteBlocks (io : BlockDriver D) (p : MmcParam) (data_buffer : MmcBuffer) :
    TestProg D TestResultTypes := do
  match ← drive (io.findMmcDevice p.dev_id.toNat) with
  | none => return .fail
  | some mmc =>
      let n ← drive (io.blkDwrite mmc p.block_start p.block_cnt data_buffer)
      return p.counted n

/-- `MMC_Erase_Blocks(mmc_parameters)`. -/
def mmcEraseBlocks (io : BlockDriver D) (p : MmcParam) : TestProg D TestResultTypes := do
  match ← drive (io.findMmcDevice p.dev_id.toNat) with
  | none => return .fail
  | some mmc =>
      drive fun d => ((), io.clearHasInit mmc d)
      let mmc_init_status ← drive (io.mmcInit mmc)
      if mmc_init_status.toInt < 0 then
        return .fail
      let wp ← drive (io.mmcGetwp mmc)
      if wp = 1#32 then
        return .fail
      let n ← drive (io.blkDerase mmc p.block_start p.block_cnt)
      return p.counted n

/-- **What stands behind the first check of `MMC_WRITE_READ_Test`** and is never reached. -/
def mmcWriteReadRest (io : BlockDriver D) (testId : BitVec 32) (a : AMmcWriteReadTest)
    (test_buffer_1 test_buffer_2 : MmcBuffer) : TestProg D TestResultTypes := do
  if a.block_cnt > mmcMaxTestBlock then
    return .aborted
  let ommc_param : MmcParam := ⟨a.block_start, a.block_cnt, a.mmc_test_dev⟩
  let (status, test_buffer_1) ← mmcReadBlocks io ommc_param test_buffer_1
  if status = .fail then
    reportEvent testId .valueNotExpected [a.base_address]
    return .fail
  let status ← mmcEraseBlocks io ommc_param
  if status = .fail then
    reportEvent testId .devInit [a.base_address]
    return .fail
  let status ← mmcWriteBlocks io ommc_param test_buffer_1
  if status = .fail then
    reportEvent testId .devInit [a.base_address]
    return .fail
  let (status, test_buffer_2) ← mmcReadBlocks io ommc_param test_buffer_2
  if status = .fail then
    reportEvent testId .devInit [a.base_address]
    return .fail
  -- `memcmp` over `block_cnt` blocks of 512 bytes
  if test_buffer_1.toList.take (a.block_cnt.toNat * 512) ≠
      test_buffer_2.toList.take (a.block_cnt.toNat * 512) then
    return .fail
  return .pass

/-! ## What is asked of the card -/

/-- A transfer, with how many blocks it was said to have moved, and its data. -/
inductive BlockCall where
  | blkDread (start blkcnt n : BitVec 32) (data : MmcBuffer)
  | blkDwrite (start blkcnt n : BitVec 32) (data : MmcBuffer)
  | blkDerase (start blkcnt n : BitVec 32)

/-- The drivers, with a record of the transfers. -/
def BlockDriver.recorded (io : BlockDriver D) : BlockDriver (Recorded D BlockCall) where
  findMmcDevice dev_id := unrecorded (io.findMmcDevice dev_id)
  esdhcBase mmc d := io.esdhcBase mmc d.dev
  clearHasInit mmc := quietly (io.clearHasInit mmc)
  mmcInit mmc := unrecorded (io.mmcInit mmc)
  isSd mmc d := io.isSd mmc d.dev
  mmcGetwp mmc := unrecorded (io.mmcGetwp mmc)
  blkDread mmc start blkcnt buffer :=
    record (io.blkDread mmc start blkcnt buffer) fun a => .blkDread start blkcnt a.1 a.2
  blkDwrite mmc start blkcnt buffer :=
    record (io.blkDwrite mmc start blkcnt buffer) fun n => .blkDwrite start blkcnt n buffer
  blkDerase mmc start blkcnt :=
    record (io.blkDerase mmc start blkcnt) fun n => .blkDerase start blkcnt n

/-- The four transfers: a reading, an erasure, a writing of what was read, and a reading; all
on the blocks of the configuration, and of all of them. -/
def AMmcWriteReadTest.transfers (a : AMmcWriteReadTest) (first second : MmcBuffer) :
    List BlockCall :=
  [.blkDread a.block_start a.block_cnt a.block_cnt first,
    .blkDerase a.block_start a.block_cnt a.block_cnt,
    .blkDwrite a.block_start a.block_cnt a.block_cnt first,
    .blkDread a.block_start a.block_cnt a.block_cnt second]

/-- What a pass should mean, by the record of the transfers. -/
def AMmcWriteReadTest.Earned (a : AMmcWriteReadTest) (log : List BlockCall) : Prop :=
  a.block_cnt ≤ mmcMaxTestBlock ∧ ∃ first second, log = a.transfers first second ∧
    first.toList.take (a.block_cnt.toNat * 512) = second.toList.take (a.block_cnt.toNat * 512)

/-- **A pass that is earned**: the test passes only if the transfers have been made, and both
readings agree. -/
def PassEarned (a : AMmcWriteReadTest) (test : TestProg (Recorded D BlockCall) TestResultTypes)
    (s : Fixture D) : Prop :=
  ∀ s', test.run s.recording = .ok .pass s' → a.Earned s'.dev.log

/-! ## The statements behind the return earn a pass -/

section Rest

variable {io : BlockDriver D} {p : MmcParam} {calls : List BlockCall}

theorem MmcParam.counted_eq (p : MmcParam) (n : BitVec 32) :
    p.counted n = .fail ∨ p.counted n = .pass ∧ n = p.block_cnt := by
  unfold counted
  split
  case isTrue hn => exact .inr ⟨rfl, hn⟩
  case isFalse => exact .inl rfl

theorem triple_unrecorded {α : Type} (f : D → α × D) :
    Triple (fun s => s.dev.log = calls) (drive (unrecorded f)) fun _ s => s.dev.log = calls :=
  fun _ hs => ⟨_, _, rfl, hs⟩

theorem triple_quietly (f : D → D) :
    Triple (fun s => s.dev.log = calls) (drive fun d => ((), quietly f d))
      fun _ s => s.dev.log = calls :=
  fun _ hs => ⟨_, _, rfl, hs⟩

/-- A transfer whose blocks are counted fails, or it has moved all of them and is the next in
the record. -/
theorem triple_counted {α : Type} (f : D → α × D) (count : α → BitVec 32)
    (call : BitVec 32 → α → BlockCall) :
    Triple (fun s => s.dev.log = calls) (drive (record f fun a => call (count a) a))
      fun a s => p.counted (count a) = .fail ∨ p.counted (count a) = .pass ∧
        s.dev.log = calls ++ [call p.block_cnt a] := by
  intro s hs
  refine ⟨_, _, rfl, (p.counted_eq _).imp_right fun hn => ⟨hn.1, ?_⟩⟩
  rw [← hn.2, ← hs]
  rfl

/-- A transfer fails, or it moves all blocks and is the next in the record. -/
theorem triple_mmcReadBlocks (data_buffer : MmcBuffer) :
    Triple (fun s => s.dev.log = calls) (mmcReadBlocks io.recorded p data_buffer)
      fun r s => r.1 = .fail ∨ r.1 = .pass ∧
        s.dev.log = calls ++ [.blkDread p.block_start p.block_cnt p.block_cnt r.2] := by
  unfold mmcReadBlocks
  refine .bind (triple_unrecorded _) fun found => ?_
  cases found with
  | none => exact .pure fun _ _ => .inl rfl
  | some mmc =>
      refine .bind (triple_quietly _) fun _ => .bind (triple_unrecorded _) fun _ => ?_
      refine .ite (fun _ => .pure fun _ _ => .inl rfl) fun _ => ?_
      exact .bind (triple_counted _ Prod.fst fun n a =>
        .blkDread p.block_start p.block_cnt n a.2) fun a => .pure fun _ hs => hs

theorem triple_mmcWriteBlocks (data_buffer : MmcBuffer) :
    Triple (fun s => s.dev.log = calls) (mmcWriteBlocks io.recorded p data_buffer)
      fun r s => r = .fail ∨ r = .pass ∧
        s.dev.log = calls ++ [.blkDwrite p.block_start p.block_cnt p.block_cnt data_buffer] := by
  unfold mmcWriteBlocks
  refine .bind (triple_unrecorded _) fun found => ?_
  cases found with
  | none => exact .pure fun _ _ => .inl rfl
  | some mmc =>
      exact .bind (triple_counted _ id fun n _ =>
        .blkDwrite p.block_start p.block_cnt n data_buffer) fun n => .pure fun _ hs => hs

theorem triple_mmcEraseBlocks :
    Triple (fun s => s.dev.log = calls) (mmcEraseBlocks io.recorded p)
      fun r s => r = .fail ∨ r = .pass ∧
        s.dev.log = calls ++ [.blkDerase p.block_start p.block_cnt p.block_cnt] := by
  unfold mmcEraseBlocks
  refine .bind (triple_unrecorded _) fun found => ?_
  cases found with
  | none => exact .pure fun _ _ => .inl rfl
  | some mmc =>
      refine .bind (triple_quietly _) fun _ => .bind (triple_unrecorded _) fun _ => ?_
      refine .ite (fun _ => .pure fun _ _ => .inl rfl) fun _ => ?_
      refine .bind (triple_unrecorded _) fun _ => .ite (fun _ => .pure fun _ _ => .inl rfl) ?_
      exact fun _ => .bind (triple_counted _ id fun n _ =>
        .blkDerase p.block_start p.block_cnt n) fun n => .pure fun _ hs => hs

/-- A transfer that fails is reported and the test fails, and otherwise the test goes on. -/
theorem triple_checked {α : Type} {status : α → TestResultTypes} {P : Fixture D → Prop}
    {I : α → Fixture D → Prop} {Q : Fixture D → Prop} {x : TestProg D α}
    {rest : α → TestProg D TestResultTypes} {testId : BitVec 32}
    {eventType : DiagErrEventIDTypes} {address : List (BitVec 32)}
    (hx : Triple P x fun a s => status a = .fail ∨ status a = .pass ∧ I a s)
    (hrest : ∀ a, Triple (I a) (rest a) fun r s => r = .pass → Q s) :
    Triple P (x >>= fun a => if status a = .fail then
        (do reportEvent testId eventType address; return .fail) else rest a)
      fun r s => r = .pass → Q s := by
  refine .bind hx fun a => .ite (fun _ => ?_) fun hok => ?_
  · exact .bind (.modify (Q := fun _ _ => True) fun _ _ => trivial) fun _ =>
      .pure fun _ _ => nofun
  · refine (hrest a).conseq (fun s hs => ?_) fun _ _ h => h
    exact (hs.resolve_left hok).2

/-- **The statements behind the return pass only if the transfers have been made** and both
readings agree, whatever the device does. -/
theorem triple_mmcWriteReadRest (testId : BitVec 32) (a : AMmcWriteReadTest)
    (test_buffer_1 test_buffer_2 : MmcBuffer) :
    Triple (fun s => s.dev.log = [])
      (mmcWriteReadRest io.recorded testId a test_buffer_1 test_buffer_2)
      fun r s => r = .pass → a.Earned s.dev.log := by
  unfold mmcWriteReadRest
  refine .ite (fun _ => .pure fun _ _ => nofun) fun hcnt => ?_
  refine triple_checked (triple_mmcReadBlocks test_buffer_1) fun first => ?_
  refine triple_checked triple_mmcEraseBlocks fun _ => ?_
  refine triple_checked (triple_mmcWriteBlocks first.2) fun _ => ?_
  refine triple_checked (triple_mmcReadBlocks test_buffer_2) fun second => ?_
  refine .ite (fun _ => .pure fun _ _ => nofun) fun hsame => .pure fun s hs _ => ?_
  exact ⟨BitVec.not_lt.mp hcnt, first.2, second.2, hs, not_not.mp hsame⟩

end Rest

/-- **The part behind the return earns its pass**, for every configuration and every device. -/
theorem mmcWriteReadRest_earns (io : BlockDriver D) (testId : BitVec 32) (a : AMmcWriteReadTest)
    (test_buffer_1 test_buffer_2 : MmcBuffer) (s : Fixture D) :
    PassEarned a (mmcWriteReadRest io.recorded testId a test_buffer_1 test_buffer_2) s := by
  intro s' hpass
  obtain ⟨r, s'', hrun, hearned⟩ :=
    triple_mmcWriteReadRest testId a test_buffer_1 test_buffer_2 s.recording rfl
  rw [hpass] at hrun
  cases hrun
  exact hearned rfl

/-! ## The test does not -/

/-- A pass without a transfer is not earned. -/
theorem not_passEarned_of_silent {a : AMmcWriteReadTest}
    {test : TestProg (Recorded D BlockCall) TestResultTypes} {s : Fixture D}
    (h : test.run s.recording = .ok .pass s.recording) : ¬ PassEarned a test s := by
  intro hearned
  obtain ⟨-, first, second, hlog, -⟩ := hearned _ h
  exact nomatch hlog

/-- **The test passes and has asked nothing of the card**, for every configuration and every
device: no pass of it is earned. -/
theorem mmc_pass_never_earned (a : AMmcWriteReadTest) (s : Fixture D) :
    (mmcWriteReadTest (some a)).run (s.recording (L := BlockCall)) = .ok .pass s.recording ∧
      ¬ PassEarned a (mmcWriteReadTest (some a)) s :=
  ⟨rfl, not_passEarned_of_silent rfl⟩

/-- The configuration of `eMMC_Access_Check`. -/
def eMmcAccessCheck : AMmcWriteReadTest where
  base_address := 0x481D8000
  block_start := 583
  block_cnt := 16
  mmc_test_dev := 0

/-- A board without a card. -/
def noCard : BlockDriver Unit where
  findMmcDevice _ d := (none, d)
  esdhcBase _ _ := none
  clearHasInit _ d := d
  mmcInit _ d := (-1, d)
  isSd _ _ := false
  mmcGetwp _ d := (0, d)
  blkDread _ _ _ buffer d := ((0, buffer), d)
  blkDwrite _ _ _ _ d := (0, d)
  blkDerase _ _ _ d := (0, d)

/-- **Without a card the test passes**, where the part behind the return would fail. -/
theorem noCard_passes :
    (mmcWriteReadTest (some eMmcAccessCheck)).run (Fixture.atBoot () : Fixture Unit) =
      .ok .pass (Fixture.atBoot ()) ∧
    ¬ PassEarned eMmcAccessCheck (mmcWriteReadTest (some eMmcAccessCheck))
      (Fixture.atBoot () : Fixture Unit) ∧
    ∃ s', (mmcWriteReadRest noCard 1 eMmcAccessCheck (Vector.replicate _ 0)
      (Vector.replicate _ 0)).run (Fixture.atBoot ()) = .ok .fail s' :=
  ⟨rfl, not_passEarned_of_silent rfl, _, rfl⟩

end BoardDiag
