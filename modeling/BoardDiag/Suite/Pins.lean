import BoardDiag.Suite.Verdicts
import Mathlib.Logic.Function.Basic

/-!
# Driving a pin

`GPIO_test` makes a pin an output, drives it through the data-out register and reads it
back through the data-in register.  Both registers hold a whole bank of 32 pins, and the
test is about one of them.  Two things should follow: the verdict depends on no other
pin, and no other pin is disturbed.

A pin that is driven high is looked at with the mask that has its bit alone, and the
verdict is right.  A pin that is driven low is looked at with the complement, so the
other 31 pins decide.  `gpio_verdict_iff` says when that comes to the same.

The output-enable register is read, changed and written back.  The data-out register is
written as a whole: with all other pins low to drive the pin high, and with all other
pins high to drive it low.  `gpio_frame_iff` says when the other pins are left as they
were.
-/

namespace BoardDiag

open Machine

variable {D : Type}

/-! ## The registers -/

namespace AGpioTest

def padCtrl (a : AGpioTest) : BitVec 32 := a.pad_ctrl_base_addr + a.pad_ctrl_offset

def bankEnable (a : AGpioTest) : BitVec 32 := a.gpio_bank_base_addr + a.gpio_bank_enable_offset

def outputEnable (a : AGpioTest) : BitVec 32 := a.gpio_bank_base_addr + a.gpio_bank_output_offset

def dataIn (a : AGpioTest) : BitVec 32 := a.gpio_bank_base_addr + a.gpio_bank_datain_offset

def dataOut (a : AGpioTest) : BitVec 32 := a.gpio_bank_base_addr + a.gpio_bank_dataout_offset

/-- What is written to the data-out register, and the mask data-in is looked at with. -/
def level (a : AGpioTest) : BitVec 32 := if a.enable ≠ 0#32 then a.bit else ~~~a.bit

end AGpioTest

/-! ## The test, access by access -/

section Accesses

variable (io : RegisterDriver D) (a : AGpioTest) (d : D)

/-- The board after the pad and the bank have been set up. -/
def RegisterDriver.prepared : D :=
  io.rawWritel a.gpio_bank_enable_val a.bankEnable (io.rawWritel a.pad_ctrl_val a.padCtrl d)

/-- What is read from the output-enable register. -/
def RegisterDriver.directions : BitVec 32 × D := io.rawReadl a.outputEnable (io.prepared a d)

/-- The board after the pin has been made an output. -/
def RegisterDriver.directed : D :=
  io.rawWritel ((io.directions a d).1 &&& ~~~a.bit) a.outputEnable (io.directions a d).2

/-- What is read from data-in before data-out is written. -/
def RegisterDriver.levelsBefore : BitVec 32 × D := io.rawReadl a.dataIn (io.directed a d)

/-- What is read from data-in after data-out has been written. -/
def RegisterDriver.levelsAfter : BitVec 32 × D :=
  io.rawReadl a.dataIn (io.rawWritel a.level a.dataOut (io.levelsBefore a d).2)

/-- Data-out is not written if the pin should be driven high and is high already. -/
def RegisterDriver.AlreadyHigh : Prop :=
  a.enable ≠ 0#32 ∧ (io.levelsBefore a d).1 &&& a.bit ≠ 0#32

instance : Decidable (io.AlreadyHigh a d) := inferInstanceAs (Decidable (_ ∧ _))

end Accesses

section Run

variable {io : RegisterDriver D} {a : AGpioTest} {s : Fixture D}

/-- The test of an output, up to the first look at data-in. -/
theorem run_gpioTest_of_output (hdir : a.gpio_direction = 1#32) :
    (gpioTest io (some a)).run s =
      (do
        if a.enable ≠ 0#32 then
          if (io.levelsBefore a s.dev).1 &&& a.bit ≠ 0#32 then
            return .fail
          rawWritel io a.bit a.dataOut
          let reg ← drive (io.rawReadl a.dataIn)
          if reg &&& a.bit ≠ 0#32 then
            return .pass
          return .fail
        else
          rawWritel io (~~~a.bit) a.dataOut
          let reg ← drive (io.rawReadl a.dataIn)
          if reg &&& ~~~a.bit ≠ 0#32 then
            return .pass
          return .fail : TestProg D TestResultTypes).run
        { s with dev := (io.levelsBefore a s.dev).2 } := by
  simp only [gpioTest]
  rw [if_pos hdir]
  rfl

/-- A pin that is high already fails at once. -/
theorem run_gpioTest_of_alreadyHigh (hdir : a.gpio_direction = 1#32)
    (hhigh : io.AlreadyHigh a s.dev) :
    (gpioTest io (some a)).run s = .ok .fail { s with dev := (io.levelsBefore a s.dev).2 } := by
  rw [run_gpioTest_of_output hdir, if_pos hhigh.1, if_pos hhigh.2]
  rfl

/-- Writing data-out and looking at data-in. -/
theorem run_driveLevel (d : D) (level : BitVec 32) :
    (do
      rawWritel io level a.dataOut
      let reg ← drive (io.rawReadl a.dataIn)
      if reg &&& level ≠ 0#32 then
        return .pass
      return .fail : TestProg D TestResultTypes).run { s with dev := d } =
      .ok (if (io.rawReadl a.dataIn (io.rawWritel level a.dataOut d)).1 &&& level ≠ 0#32 then
          .pass else .fail)
        { s with dev := (io.rawReadl a.dataIn (io.rawWritel level a.dataOut d)).2 } := by
  rw [EStateM.run_bind, rawWritel, run_drive]
  simp only
  rw [EStateM.run_bind, run_drive]
  simp only
  split <;> rfl

/-- **Any other pin** is driven, and the verdict goes by what is left of data-in under the
mask. -/
theorem run_gpioTest_of_driven (hdir : a.gpio_direction = 1#32)
    (hlow : ¬ io.AlreadyHigh a s.dev) :
    (gpioTest io (some a)).run s =
      .ok (if (io.levelsAfter a s.dev).1 &&& a.level ≠ 0#32 then .pass else .fail)
        { s with dev := (io.levelsAfter a s.dev).2 } := by
  rw [run_gpioTest_of_output hdir, RegisterDriver.levelsAfter, AGpioTest.level]
  by_cases henable : a.enable ≠ 0#32
  · rw [if_pos henable, if_neg fun hbit => hlow ⟨henable, hbit⟩, if_pos henable]
    exact run_driveLevel _ _
  · rw [if_neg henable, if_neg henable]
    exact run_driveLevel _ _

end Run

/-! ## The verdict -/

section Masks

variable {a : AGpioTest} (hpin : a.gpio_pin.toNat < 32)

theorem getLsbD_bit (i : ℕ) (hpin : a.gpio_pin.toNat < 32) :
    a.bit.getLsbD i = decide (i = a.gpio_pin.toNat) := by
  show (BitVec.twoPow 32 a.gpio_pin.toNat).getLsbD i = _
  rw [BitVec.getLsbD_twoPow, decide_eq_true hpin, Bool.true_and]
  exact decide_eq_decide.mpr eq_comm

include hpin

/-- Under the mask of the pin, its bit is left. -/
theorem and_bit_ne_zero_iff (reg : BitVec 32) :
    reg &&& a.bit ≠ 0#32 ↔ reg.getLsbD a.gpio_pin.toNat = true := by
  constructor
  · intro hne
    by_contra hbit
    refine hne (BitVec.eq_of_getLsbD_eq fun i hi => ?_)
    rw [BitVec.getLsbD_and, getLsbD_bit i hpin, BitVec.getLsbD_zero]
    by_cases hi' : i = a.gpio_pin.toNat
    · rw [hi', Bool.eq_false_of_not_eq_true hbit, Bool.false_and]
    · rw [decide_eq_false hi', Bool.and_false]
  · intro hbit hzero
    have hpinBit := congrArg (BitVec.getLsbD · a.gpio_pin.toNat) hzero
    simp only [BitVec.getLsbD_and, getLsbD_bit _ hpin, hbit, decide_true, Bool.and_self,
      BitVec.getLsbD_zero] at hpinBit
    cases hpinBit

/-- Under its complement, the others are. -/
theorem and_not_bit_ne_zero_iff (reg : BitVec 32) :
    reg &&& ~~~a.bit ≠ 0#32 ↔ ∃ i < 32, i ≠ a.gpio_pin.toNat ∧ reg.getLsbD i = true := by
  constructor
  · intro hne
    by_contra hnone
    push Not at hnone
    refine hne (BitVec.eq_of_getLsbD_eq fun i hi => ?_)
    rw [BitVec.getLsbD_and, BitVec.getLsbD_not, getLsbD_bit i hpin, BitVec.getLsbD_zero,
      decide_eq_true hi, Bool.true_and]
    by_cases hi' : i = a.gpio_pin.toNat
    · rw [decide_eq_true hi', Bool.not_true, Bool.and_false]
    · rw [Bool.eq_false_of_not_eq_true (hnone i hi hi'), Bool.false_and]
  · rintro ⟨i, hi, hi', hbit⟩ hzero
    have hother := congrArg (BitVec.getLsbD · i) hzero
    simp only [BitVec.getLsbD_and, BitVec.getLsbD_not, getLsbD_bit _ hpin, hbit,
      decide_eq_true hi, decide_eq_false hi', Bool.not_false, Bool.and_self,
      BitVec.getLsbD_zero] at hother
    cases hother

end Masks

/-- **The verdict a pin deserves** by what data-in shows before and after: to be driven high
it has to be low before and high after, and to be driven low it has to be low after. -/
def AGpioTest.Obeys (a : AGpioTest) (before after : BitVec 32) : Prop :=
  if a.enable ≠ 0#32 then
    before.getLsbD a.gpio_pin.toNat = false ∧ after.getLsbD a.gpio_pin.toNat = true
  else after.getLsbD a.gpio_pin.toNat = false

/-- The test passes if the pin obeys, and fails otherwise. -/
def PinVerdictRight (io : RegisterDriver D) (a : AGpioTest) (s : Fixture D) : Prop :=
  ∃ r s', (gpioTest io (some a)).run s = .ok r s' ∧ (r = .pass ∨ r = .fail) ∧
    (r = .pass ↔ a.Obeys (io.levelsBefore a s.dev).1 (io.levelsAfter a s.dev).1)

section Verdict

variable {io : RegisterDriver D} {a : AGpioTest} {s : Fixture D}

/-- A pin that is driven gets the right verdict if the mask shows whether it obeys. -/
theorem pinVerdictRight_iff_of_driven (hdir : a.gpio_direction = 1#32)
    (hlow : ¬ io.AlreadyHigh a s.dev) :
    PinVerdictRight io a s ↔ ((io.levelsAfter a s.dev).1 &&& a.level ≠ 0#32 ↔
      a.Obeys (io.levelsBefore a s.dev).1 (io.levelsAfter a s.dev).1) := by
  have hrun := run_gpioTest_of_driven hdir hlow
  by_cases hmask : (io.levelsAfter a s.dev).1 &&& a.level ≠ 0#32
  · rw [if_pos hmask] at hrun
    constructor
    · rintro ⟨r, s', hrun', -, hr⟩
      rw [hrun] at hrun'
      cases hrun'
      exact iff_of_true hmask (hr.mp rfl)
    · exact fun h => ⟨.pass, _, hrun, .inl rfl, iff_of_true rfl (h.mp hmask)⟩
  · rw [if_neg hmask] at hrun
    constructor
    · rintro ⟨r, s', hrun', -, hr⟩
      rw [hrun] at hrun'
      cases hrun'
      exact iff_of_false hmask fun hobeys => nomatch hr.mpr hobeys
    · exact fun h => ⟨.fail, _, hrun, .inr rfl, iff_of_false nofun fun hobeys =>
        hmask (h.mpr hobeys)⟩

theorem pinVerdictRight_of_enable (hdir : a.gpio_direction = 1#32)
    (hpin : a.gpio_pin.toNat < 32) (henable : a.enable ≠ 0#32) : PinVerdictRight io a s := by
  have hobeys : ∀ before after, a.Obeys before after ↔
      before.getLsbD a.gpio_pin.toNat = false ∧ after.getLsbD a.gpio_pin.toNat = true := by
    intro before after
    rw [AGpioTest.Obeys, if_pos henable]
  by_cases hhigh : io.AlreadyHigh a s.dev
  · refine ⟨.fail, _, run_gpioTest_of_alreadyHigh hdir hhigh, .inr rfl,
      iff_of_false nofun fun h => ?_⟩
    have hbefore := (and_bit_ne_zero_iff hpin _).mp hhigh.2
    rw [((hobeys _ _).mp h).1] at hbefore
    cases hbefore
  · have hbefore : (io.levelsBefore a s.dev).1.getLsbD a.gpio_pin.toNat = false :=
      Bool.eq_false_of_not_eq_true fun h =>
        hhigh ⟨henable, (and_bit_ne_zero_iff hpin _).mpr h⟩
    rw [pinVerdictRight_iff_of_driven hdir hhigh, hobeys, AGpioTest.level, if_pos henable,
      and_bit_ne_zero_iff hpin, and_iff_right hbefore]

theorem pinVerdictRight_iff_of_disable (hdir : a.gpio_direction = 1#32)
    (hpin : a.gpio_pin.toNat < 32) (henable : a.enable = 0#32) :
    PinVerdictRight io a s ↔ ((io.levelsAfter a s.dev).1.getLsbD a.gpio_pin.toNat = true ↔
      ∀ i < 32, i ≠ a.gpio_pin.toNat → (io.levelsAfter a s.dev).1.getLsbD i = false) := by
  have hnot : ¬ a.enable ≠ 0#32 := not_not.mpr henable
  rw [pinVerdictRight_iff_of_driven hdir fun h => hnot h.1, AGpioTest.Obeys, if_neg hnot,
    AGpioTest.level, if_neg hnot, and_not_bit_ne_zero_iff hpin]
  have hothers : (∀ i < 32, i ≠ a.gpio_pin.toNat →
      (io.levelsAfter a s.dev).1.getLsbD i = false) ↔
      ¬ ∃ i < 32, i ≠ a.gpio_pin.toNat ∧ (io.levelsAfter a s.dev).1.getLsbD i = true := by
    push Not
    simp only [Bool.not_eq_true, ne_eq]
  rw [hothers, ← Bool.not_eq_true]
  exact ⟨fun h => by rw [h, not_not], fun h => by rw [h, not_not]⟩

/-- **When the verdict is right.**  For every bank, whatever data-in shows: always for a pin
that is driven high, and for a pin that is driven low exactly if data-in shows either this
pin high and all others low, or this pin low and another one high. -/
theorem gpio_verdict_iff (hdir : a.gpio_direction = 1#32) (hpin : a.gpio_pin.toNat < 32) :
    PinVerdictRight io a s ↔ (a.enable = 0#32 →
      ((io.levelsAfter a s.dev).1.getLsbD a.gpio_pin.toNat = true ↔
        ∀ i < 32, i ≠ a.gpio_pin.toNat → (io.levelsAfter a s.dev).1.getLsbD i = false)) := by
  by_cases henable : a.enable = 0#32
  · rw [pinVerdictRight_iff_of_disable hdir hpin henable]
    exact ⟨fun h _ => h, fun h => h henable⟩
  · exact iff_of_true (pinVerdictRight_of_enable hdir hpin henable) fun h => absurd h henable

end Verdict

/-- Plain registers, and `levels` on the pins whatever is driven. -/
def stuckBank (dataIn levels : BitVec 32) : RegisterDriver (BitVec 32 → BitVec 32) where
  rawWritel value addr regs := Function.update regs addr value
  rawReadl addr regs := (if addr = dataIn then levels else regs addr, regs)

/-- The configuration of `GPIO0_OUTPUT_DISABLE`. -/
def gpio0OutputDisable : AGpioTest := { gpio0OutputEnable with enable := 0 }

/-- What data-in shows at the end, for a pin that is driven low. -/
theorem levelsAfter_stuckBank (levels : BitVec 32) (regs : BitVec 32 → BitVec 32) :
    ((stuckBank gpio0OutputDisable.dataIn levels).levelsAfter gpio0OutputDisable regs).1 =
      levels := rfl

/-- With pin 0 high and all others low, pin 21 passes the test as it should. -/
theorem neighbour_high_verdict :
    gpio0OutputDisable.gpio_direction = 1#32 ∧ gpio0OutputDisable.gpio_pin.toNat < 32 ∧
    PinVerdictRight (stuckBank gpio0OutputDisable.dataIn 1) gpio0OutputDisable
      (Fixture.atBoot fun _ => 0) := by
  refine ⟨rfl, by decide, (gpio_verdict_iff rfl (by decide)).mpr fun _ => ?_⟩
  show (BitVec.getLsbD 1#32 21 = true ↔ ∀ i < 32, i ≠ 21 → BitVec.getLsbD 1#32 i = false)
  decide

/-- **A pin that is low fails and a pin that is high passes**, when all others are like it. -/
theorem alike_pins_verdict_wrong :
    (∃ s', (gpioTest (stuckBank gpio0OutputDisable.dataIn 0) (some gpio0OutputDisable)).run
        (Fixture.atBoot fun _ => 0) = .ok .fail s') ∧
    ¬ PinVerdictRight (stuckBank gpio0OutputDisable.dataIn 0) gpio0OutputDisable
        (Fixture.atBoot fun _ => 0) ∧
    (∃ s', (gpioTest (stuckBank gpio0OutputDisable.dataIn 0xFFFFFFFF)
        (some gpio0OutputDisable)).run (Fixture.atBoot fun _ => 0) = .ok .pass s') ∧
    ¬ PinVerdictRight (stuckBank gpio0OutputDisable.dataIn 0xFFFFFFFF) gpio0OutputDisable
        (Fixture.atBoot fun _ => 0) := by
  have hlow : ∀ (io : RegisterDriver (BitVec 32 → BitVec 32)) d,
      ¬ io.AlreadyHigh gpio0OutputDisable d := fun io d h => h.1 rfl
  refine ⟨⟨_, run_gpioTest_of_driven rfl (hlow _ _)⟩, ?_,
    ⟨_, run_gpioTest_of_driven rfl (hlow _ _)⟩, ?_⟩
  · rw [pinVerdictRight_iff_of_disable rfl (by decide) rfl, levelsAfter_stuckBank]
    decide
  · rw [pinVerdictRight_iff_of_disable rfl (by decide) rfl, levelsAfter_stuckBank]
    decide

/-! ## The other pins -/

/-- All pins but one are the same in two words. -/
def SameOthers (pin : ℕ) (x y : BitVec 32) : Prop :=
  ∀ i < 32, i ≠ pin → x.getLsbD i = y.getLsbD i

instance (pin : ℕ) (x y : BitVec 32) : Decidable (SameOthers pin x y) :=
  inferInstanceAs (Decidable (∀ i < 32, i ≠ pin → x.getLsbD i = y.getLsbD i))

/-- **Registers that hold what is written to them**, except that the one at `dataIn` shows
whatever is on the pins. -/
structure RegisterDriver.Bank (io : RegisterDriver D) (dataIn : BitVec 32)
    (regs : D → BitVec 32 → BitVec 32) : Prop where
  write : ∀ value addr d, regs (io.rawWritel value addr d) = Function.update (regs d) addr value
  read : ∀ addr d, regs (io.rawReadl addr d).2 = regs d
  read_value : ∀ addr d, addr ≠ dataIn → (io.rawReadl addr d).1 = regs d addr

/-- The test leaves the other pins alone, in the output-enable register and in the data-out
register. -/
def PinFrame (io : RegisterDriver D) (regs : D → BitVec 32 → BitVec 32) (a : AGpioTest)
    (s : Fixture D) : Prop :=
  ∃ r s', (gpioTest io (some a)).run s = .ok r s' ∧
    SameOthers a.gpio_pin.toNat (regs s'.dev a.outputEnable) (regs s.dev a.outputEnable) ∧
    SameOthers a.gpio_pin.toNat (regs s'.dev a.dataOut) (regs s.dev a.dataOut)

/-- The registers after the pad and the bank have been set up. -/
def AGpioTest.setUp (a : AGpioTest) (regs : BitVec 32 → BitVec 32) : BitVec 32 → BitVec 32 :=
  Function.update (Function.update regs a.padCtrl a.pad_ctrl_val) a.bankEnable
    a.gpio_bank_enable_val

/-- What is read from the output-enable register: what it holds by then, unless it is the
register that shows the pins. -/
def AGpioTest.directions (a : AGpioTest) (regs : BitVec 32 → BitVec 32) (pins : BitVec 32) :
    BitVec 32 :=
  if a.outputEnable = a.dataIn then pins else a.setUp regs a.outputEnable

/-- What data-in shows after the set-up. -/
def RegisterDriver.pins (io : RegisterDriver D) (a : AGpioTest) (d : D) : BitVec 32 :=
  (io.rawReadl a.dataIn (io.prepared a d)).1

section Frame

variable {io : RegisterDriver D} {a : AGpioTest} {s : Fixture D}
  {regs : D → BitVec 32 → BitVec 32}

/-- Clearing the bit of the pin does not touch the others. -/
theorem sameOthers_and_not_bit_iff (hpin : a.gpio_pin.toNat < 32) (x y : BitVec 32) :
    SameOthers a.gpio_pin.toNat (x &&& ~~~a.bit) y ↔ SameOthers a.gpio_pin.toNat x y := by
  refine forall_congr' fun i => forall_congr' fun hi => forall_congr' fun hne => ?_
  rw [BitVec.getLsbD_and, BitVec.getLsbD_not, getLsbD_bit i hpin, decide_eq_true hi,
    decide_eq_false hne, Bool.not_false, Bool.and_true, Bool.and_true]

theorem RegisterDriver.Bank.regs_prepared (h : io.Bank a.dataIn regs) (d : D) :
    regs (io.prepared a d) = a.setUp (regs d) := by
  rw [prepared, h.write, h.write, AGpioTest.setUp]

theorem RegisterDriver.Bank.directions_eq (h : io.Bank a.dataIn regs) (d : D) :
    (io.directions a d).1 = a.directions (regs d) (io.pins a d) := by
  rw [AGpioTest.directions, RegisterDriver.directions, pins]
  by_cases hsame : a.outputEnable = a.dataIn
  · rw [if_pos hsame, hsame]
  · rw [if_neg hsame, h.read_value _ _ hsame, h.regs_prepared]

/-- The registers after the pin has been made an output. -/
theorem RegisterDriver.Bank.regs_levelsBefore (h : io.Bank a.dataIn regs) (d : D) :
    regs (io.levelsBefore a d).2 = Function.update (a.setUp (regs d)) a.outputEnable
      (a.directions (regs d) (io.pins a d) &&& ~~~a.bit) := by
  rw [levelsBefore, h.read, directed, h.write, h.directions_eq, directions, h.read,
    h.regs_prepared]

/-- The registers after the pin has been driven. -/
theorem RegisterDriver.Bank.regs_levelsAfter (h : io.Bank a.dataIn regs) (d : D) :
    regs (io.levelsAfter a d).2 =
      Function.update (regs (io.levelsBefore a d).2) a.dataOut a.level := by
  rw [levelsAfter, h.read, h.write]

theorem pinFrame_iff_of_run {r : TestResultTypes} {s' : Fixture D}
    (hrun : (gpioTest io (some a)).run s = .ok r s') :
    PinFrame io regs a s ↔
      SameOthers a.gpio_pin.toNat (regs s'.dev a.outputEnable) (regs s.dev a.outputEnable) ∧
      SameOthers a.gpio_pin.toNat (regs s'.dev a.dataOut) (regs s.dev a.dataOut) := by
  constructor
  · rintro ⟨r', s'', hrun', hframe⟩
    rw [hrun] at hrun'
    cases hrun'
    exact hframe
  · exact fun hframe => ⟨r, s', hrun, hframe⟩

/-- A pin that is high already: data-out is not written. -/
theorem pinFrame_iff_of_alreadyHigh (h : io.Bank a.dataIn regs)
    (hdir : a.gpio_direction = 1#32) (hpin : a.gpio_pin.toNat < 32)
    (hhigh : io.AlreadyHigh a s.dev) :
    PinFrame io regs a s ↔
      SameOthers a.gpio_pin.toNat (a.directions (regs s.dev) (io.pins a s.dev))
        (regs s.dev a.outputEnable) ∧
      SameOthers a.gpio_pin.toNat
        (if a.outputEnable = a.dataOut then a.directions (regs s.dev) (io.pins a s.dev)
          else a.setUp (regs s.dev) a.dataOut) (regs s.dev a.dataOut) := by
  rw [pinFrame_iff_of_run (run_gpioTest_of_alreadyHigh hdir hhigh), h.regs_levelsBefore,
    Function.update_self, sameOthers_and_not_bit_iff hpin]
  by_cases hsame : a.outputEnable = a.dataOut
  · rw [if_pos hsame, ← hsame, Function.update_self, sameOthers_and_not_bit_iff hpin]
  · rw [if_neg hsame, Function.update_of_ne (Ne.symm hsame)]

/-- A pin that is driven: data-out is written as a whole. -/
theorem pinFrame_iff_of_driven (h : io.Bank a.dataIn regs) (hdir : a.gpio_direction = 1#32)
    (hpin : a.gpio_pin.toNat < 32) (hlow : ¬ io.AlreadyHigh a s.dev) :
    PinFrame io regs a s ↔
      SameOthers a.gpio_pin.toNat
        (if a.outputEnable = a.dataOut then a.level
          else a.directions (regs s.dev) (io.pins a s.dev)) (regs s.dev a.outputEnable) ∧
      SameOthers a.gpio_pin.toNat a.level (regs s.dev a.dataOut) := by
  rw [pinFrame_iff_of_run (run_gpioTest_of_driven hdir hlow), h.regs_levelsAfter,
    Function.update_self]
  by_cases hsame : a.outputEnable = a.dataOut
  · rw [if_pos hsame, hsame, Function.update_self]
  · rw [if_neg hsame, Function.update_of_ne hsame, h.regs_levelsBefore, Function.update_self,
      sameOthers_and_not_bit_iff hpin]

/-- **When the other pins are left alone.**  For every configuration and every contents of
the registers, whatever data-in shows: if the pin is high already, what is read from the
output-enable register and what is in the data-out register after the set-up must have the
other pins as they were before the call; if it is driven, so must the word that is written to
data-out.  (The cases where two of them are one register are spelled out.) -/
theorem gpio_frame_iff (h : io.Bank a.dataIn regs) (hdir : a.gpio_direction = 1#32)
    (hpin : a.gpio_pin.toNat < 32) :
    PinFrame io regs a s ↔
      if io.AlreadyHigh a s.dev then
        SameOthers a.gpio_pin.toNat (a.directions (regs s.dev) (io.pins a s.dev))
          (regs s.dev a.outputEnable) ∧
        SameOthers a.gpio_pin.toNat
          (if a.outputEnable = a.dataOut then a.directions (regs s.dev) (io.pins a s.dev)
            else a.setUp (regs s.dev) a.dataOut) (regs s.dev a.dataOut)
      else
        SameOthers a.gpio_pin.toNat
          (if a.outputEnable = a.dataOut then a.level
            else a.directions (regs s.dev) (io.pins a s.dev)) (regs s.dev a.outputEnable) ∧
        SameOthers a.gpio_pin.toNat a.level (regs s.dev a.dataOut) := by
  by_cases hhigh : io.AlreadyHigh a s.dev
  · rw [if_pos hhigh]
    exact pinFrame_iff_of_alreadyHigh h hdir hpin hhigh
  · rw [if_neg hhigh]
    exact pinFrame_iff_of_driven h hdir hpin hhigh

/-- The registers of `stuckBank` are a bank. -/
theorem stuckBank_bank (dataIn levels : BitVec 32) :
    (stuckBank dataIn levels).Bank dataIn fun regs => regs where
  write _ _ _ := rfl
  read _ _ := rfl
  read_value _ _ hne := if_neg hne

/-- With the other pins of data-out low, driving pin 21 high leaves them so. -/
theorem low_neighbours_kept :
    gpio0OutputEnable.gpio_direction = 1#32 ∧ gpio0OutputEnable.gpio_pin.toNat < 32 ∧
    PinFrame (stuckBank gpio0OutputEnable.dataIn 0) (fun regs => regs) gpio0OutputEnable
      (Fixture.atBoot fun _ => 0) := by
  refine ⟨rfl, by decide, (gpio_frame_iff (stuckBank_bank _ _) rfl (by decide)).mpr ?_⟩
  rw [if_neg (by decide), if_neg (by decide)]
  exact ⟨by decide, by decide⟩

/-- **Neighbouring outputs that were high go low** when pin 21 is driven high. -/
theorem high_neighbours_lost :
    ¬ PinFrame (stuckBank gpio0OutputEnable.dataIn 0) (fun regs => regs) gpio0OutputEnable
      (Fixture.atBoot fun _ => 0xFFFFFFFF) := by
  rw [pinFrame_iff_of_driven (stuckBank_bank _ _) rfl (by decide) (by decide)]
  exact fun hframe => absurd (hframe.2 0 (by decide) (by decide)) (by decide)

/-- The registers of the test are different ones, as they are in a real bank. -/
structure AGpioTest.Separate (a : AGpioTest) : Prop where
  outputEnable_ne_dataOut : a.outputEnable ≠ a.dataOut
  outputEnable_ne_dataIn : a.outputEnable ≠ a.dataIn
  outputEnable_ne_setup : a.outputEnable ≠ a.padCtrl ∧ a.outputEnable ≠ a.bankEnable
  dataOut_ne_setup : a.dataOut ≠ a.padCtrl ∧ a.dataOut ≠ a.bankEnable

/-- Setting up the pad and the bank changes no other register. -/
theorem AGpioTest.setUp_of_ne {addr : BitVec 32} (hne : addr ≠ a.padCtrl ∧ addr ≠ a.bankEnable)
    (regs : BitVec 32 → BitVec 32) : a.setUp regs addr = regs addr := by
  rw [setUp, Function.update_of_ne hne.2, Function.update_of_ne hne.1]

/-- **In a real bank** what is left of the condition is about data-out: either it is not
written, or the other pins already are as the word has them. -/
theorem pinFrame_iff_of_separate (h : io.Bank a.dataIn regs) (hdir : a.gpio_direction = 1#32)
    (hpin : a.gpio_pin.toNat < 32) (hsep : a.Separate) :
    PinFrame io regs a s ↔
      io.AlreadyHigh a s.dev ∨ SameOthers a.gpio_pin.toNat a.level (regs s.dev a.dataOut) := by
  have hdirections : a.directions (regs s.dev) (io.pins a s.dev) = regs s.dev a.outputEnable := by
    rw [AGpioTest.directions, if_neg hsep.outputEnable_ne_dataIn,
      AGpioTest.setUp_of_ne hsep.outputEnable_ne_setup]
  have hkept : ∀ x, SameOthers a.gpio_pin.toNat x x := fun x i hi hne => rfl
  by_cases hhigh : io.AlreadyHigh a s.dev
  · rw [pinFrame_iff_of_alreadyHigh h hdir hpin hhigh, if_neg hsep.outputEnable_ne_dataOut,
      hdirections, AGpioTest.setUp_of_ne hsep.dataOut_ne_setup]
    exact iff_of_true ⟨hkept _, hkept _⟩ (.inl hhigh)
  · rw [pinFrame_iff_of_driven h hdir hpin hhigh, if_neg hsep.outputEnable_ne_dataOut,
      hdirections, and_iff_right (hkept _), or_iff_right hhigh]

example : gpio0OutputEnable.Separate :=
  ⟨by decide, by decide, by decide, by decide⟩

end Frame

end BoardDiag
