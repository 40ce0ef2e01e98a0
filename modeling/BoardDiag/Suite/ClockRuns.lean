import BoardDiag.Suite.Clock

/-!
# Runs of a clock

A clock is set and read again and again, by any number of calls, each of which may give
up at any of its transfers.  A run is a list of such calls with what has come of them.

`RtcHolds` is what holds along a run: each register of the time holds the last value that
some call has written to it, and the control register has only gained bits of the
set-up.  One call keeps it (`RtcHolds.call`), because the call explains what it has done
to the clock, so every run keeps it (`RtcRun.holds`).  `clock_keeps_time` reads off what
that means for the next call.
-/

namespace BoardDiag

open Machine

variable {D : Type}

/-! ## Runs -/

/-- **A run**: calls for one clock, one after another, each of which returns, and what has
come of them. -/
inductive RtcRun (io : I2cBusDriver D) (bus chip : BitVec 8) (s : Fixture D) :
    List RtcDone → Fixture D → Prop
  | start : RtcRun io bus chip s [] s
  | call {h : List RtcDone} {s₁ s₂ : Fixture D} {c : RtcCall} {o : RtcDone} :
      RtcRun io bus chip s h s₁ → c.On bus chip → (c.perform io).run s₁ = .ok o s₂ →
      RtcRun io bus chip s (h ++ [o]) s₂

/-- The last value of a field that has been written. -/
def lastWritten (f : RtcField) (h : List RtcDone) : Option (BitVec 8) :=
  lastWrite f (h.flatMap RtcDone.written)

/-- No bit is lost, and only bits of the mask are gained. -/
def OnlyGains (mask x y : Byte) : Prop :=
  ∀ i, (x.getLsbD i = true → y.getLsbD i = true) ∧
    (y.getLsbD i = true → x.getLsbD i = true ∨ mask.getLsbD i = true)

theorem OnlyGains.refl (mask x : Byte) : OnlyGains mask x x := fun _ => ⟨id, .inl⟩

theorem OnlyGains.or (mask x : Byte) : OnlyGains mask x (x ||| mask) := by
  intro i
  rw [BitVec.getLsbD_or, Bool.or_eq_true]
  exact ⟨.inl, id⟩

theorem OnlyGains.trans {mask x y z : Byte} (h₁ : OnlyGains mask x y) (h₂ : OnlyGains mask y z) :
    OnlyGains mask x z :=
  fun i => ⟨fun hx => (h₂ i).1 ((h₁ i).1 hx), fun hz => ((h₂ i).2 hz).elim (h₁ i).2 .inr⟩

section Explains

variable {ρ : BitVec 8 → Byte} {o : RtcDone} {l : List (BitVec 8 × Byte)}

theorem RtcField.reg_injective : Function.Injective RtcField.reg := by
  intro f g h
  revert h
  cases f <;> cases g <;> decide

/-- The registers of the time are written as the call says. -/
theorem RtcDone.Explains.lastWrite_reg (h : o.Explains ρ l) (f : RtcField) :
    lastWrite f.reg l = (lastWrite f o.written).map bin2bcd := by
  cases h with
  | set hsetup hfits haborted =>
      rw [lastWrite_append, hsetup.lastWrite_reg f, Option.or_none]
      exact lastWrite_map RtcField.reg_injective bin2bcd f _
  | get hsetup hshown => exact hsetup.lastWrite_reg f

/-- The control register is written by the set-up only. -/
theorem RtcDone.Explains.lastWrite_ctl (h : o.Explains ρ l) :
    ∃ setup, SetsUp ρ setup ∧
      lastWrite ds2321RtcCtlStatusRegAddr l = lastWrite ds2321RtcCtlStatusRegAddr setup := by
  cases h with
  | @set _ written setup hsetup hfits haborted =>
      refine ⟨setup, hsetup, ?_⟩
      rw [lastWrite_append]
      cases hlast : lastWrite ds2321RtcCtlStatusRegAddr (written.map RtcField.encode) with
      | none => rfl
      | some v =>
          obtain ⟨w, -, hw⟩ := List.mem_map.mp (mem_of_lastWrite hlast)
          exact absurd (congrArg Prod.fst hw) w.1.reg_ne_ctl
  | get hsetup hshown => exact ⟨l, hsetup, rfl⟩

/-- The control register gains the bits of the set-up, or none. -/
theorem RtcDone.Explains.onlyGains (h : o.Explains ρ l) :
    OnlyGains rtcSetup (ρ ds2321RtcCtlStatusRegAddr)
      (applyWrites l ρ ds2321RtcCtlStatusRegAddr) := by
  obtain ⟨setup, hsetup, hlast⟩ := h.lastWrite_ctl
  rw [applyWrites_apply, hlast]
  rcases hsetup with rfl | rfl
  · exact .refl _ _
  · exact .or _ _

/-- The values a call has written are values of their fields. -/
theorem RtcDone.Explains.fits (h : o.Explains ρ l) : ∀ w ∈ o.written, w.2.toNat ≤ w.1.max := by
  cases h with
  | set hsetup hfits haborted => exact hfits
  | get hsetup hshown => exact nofun

end Explains

/-- Decoding what has been encoded. -/
theorem bcd2bin_bin2bcd {v : BitVec 8} (hv : v.toNat ≤ 59) : bcd2bin (bin2bcd v &&& 0x7f) = v := by
  have hall : ∀ n : Fin 60, bcd2bin (bin2bcd (BitVec.ofNat 8 n) &&& 0x7f) = BitVec.ofNat 8 n := by
    decide
  have hn := hall ⟨v.toNat, by omega⟩
  rwa [BitVec.ofNat_toNat, BitVec.setWidth_eq] at hn

/-- **What holds along a run**: the registers of the time hold the last values that have been
written, and the control register has lost nothing. -/
structure RtcHolds (io : I2cBusDriver D) (bus : BitVec 8) (regs : D → BitVec 8 → Byte)
    (IsBus : Udevice → Prop) (s : Fixture D) (h : List RtcDone) (s₁ : Fixture D) : Prop where
  onBus : s₁.OnBus io bus IsBus
  holds : ∀ f v, lastWritten f h = some v → regs s₁.dev f.reg = bin2bcd v ∧ v.toNat ≤ f.max
  onlyGains : OnlyGains rtcSetup (regs s.dev ds2321RtcCtlStatusRegAddr)
    (regs s₁.dev ds2321RtcCtlStatusRegAddr)

section Runs

variable {io : I2cBusDriver D} {bus chip : BitVec 8} {regs : D → BitVec 8 → Byte}
  {IsBus IsClock : Udevice → Prop} {s s₁ s₂ : Fixture D} {h : List RtcDone} {c : RtcCall}
  {o : RtcDone}

/-- A call that returns explains what it has done. -/
theorem perform_explains (hclock : io.Clock bus chip regs IsBus IsClock)
    (hbus : s₁.OnBus io bus IsBus) (hon : c.On bus chip)
    (hcall : (c.perform io).run s₁ = .ok o s₂) :
    ∃ l, regs s₂.dev = applyWrites l (regs s₁.dev) ∧ s₂.OnBus io bus IsBus ∧
      o.Explains (regs s₁.dev) l := by
  have hemits : Emits (clocked io bus regs IsBus) True (fun s => regs s.dev = regs s₁.dev)
      (c.perform io) fun o l _ => o.Explains (regs s₁.dev) l :=
    emits_perform_clock hclock (fun _ => trivial) hon
  rcases hemits s₁ hbus rfl with ⟨o', s', l, hrun, hsees, hexplains⟩ | ⟨-, s', l, hrun, -⟩
  · rw [hcall] at hrun
    cases hrun
    exact ⟨l, hsees.1, hsees.2 hbus, hexplains⟩
  · rw [hcall] at hrun
    cases hrun

/-- **One more call** keeps what holds. -/
theorem RtcHolds.call (hclock : io.Clock bus chip regs IsBus IsClock)
    (hh : RtcHolds io bus regs IsBus s h s₁) (hon : c.On bus chip)
    (hcall : (c.perform io).run s₁ = .ok o s₂) :
    RtcHolds io bus regs IsBus s (h ++ [o]) s₂ := by
  obtain ⟨l, hregs, hbus, hexplains⟩ := perform_explains hclock hh.onBus hon hcall
  refine ⟨hbus, fun f v hlast => ?_, ?_⟩
  · rw [lastWritten, List.flatMap_append, lastWrite_append, List.flatMap_singleton] at hlast
    rw [hregs, applyWrites_apply, hexplains.lastWrite_reg f]
    cases hwritten : lastWrite f o.written with
    | some w =>
        -- the call has written the field
        rw [hwritten] at hlast
        obtain rfl : w = v := Option.some.inj hlast
        exact ⟨rfl, hexplains.fits _ (mem_of_lastWrite hwritten)⟩
    | none =>
        rw [hwritten] at hlast
        exact hh.holds f v hlast
  · rw [hregs]
    exact hh.onlyGains.trans hexplains.onlyGains

/-- **Every run keeps what holds**, from any fixture on. -/
theorem RtcRun.holds (hclock : io.Clock bus chip regs IsBus IsClock)
    (hbus : s.OnBus io bus IsBus) (hrun : RtcRun io bus chip s h s₁) :
    RtcHolds io bus regs IsBus s h s₁ := by
  induction hrun with
  | start => exact ⟨hbus, nofun, .refl _ _⟩
  | call _ hon hcall ih => exact ih.call hclock hon hcall

/-- On a board where the chip is found every call returns. -/
theorem perform_returns (hclock : io.Clock bus chip regs IsBus IsClock) (hfound : io.ChipsFound)
    (hbus : s₁.OnBus io bus IsBus) (hon : c.On bus chip) :
    ∃ o s₂, (c.perform io).run s₁ = .ok o s₂ := by
  have hemits : Emits (clocked io bus regs IsBus) False (fun s => regs s.dev = regs s₁.dev)
      (c.perform io) fun o l _ => o.Explains (regs s₁.dev) l :=
    emits_perform_clock hclock (fun hnot => hnot hfound) hon
  rcases hemits s₁ hbus rfl with ⟨o, s₂, l, hrun, -, -⟩ | ⟨hstop, -⟩
  · exact ⟨o, s₂, hrun⟩
  · exact hstop.elim

/-- A set whose set-up fails has written nothing. -/
theorem perform_set_of_init {testId : BitVec 32} {a : ADs2321RtcSetTimeTest}
    {r : TestResultTypes} {s' : Fixture D}
    (hinit : (ds2321RtcInit io testId a.i2c_dev_addr a.i2c_bus a.i2c_speed).run s₁ = .ok r s')
    (hr : r ≠ .pass)
    (hcall : ((RtcCall.set testId (some a)).perform io).run s₁ = .ok o s₂) :
    o.written = [] := by
  obtain ⟨status, s'', hset⟩ : ∃ status s'',
      (ds2321RtcSetTime io testId (some a)).run s₁ = .ok (status, []) s'' := by
    unfold ds2321RtcSetTime
    simp only
    by_cases hout : 59 < a.sec_value ∨ 59 < a.min_value ∨ 23 < a.hour_value
    · rw [if_pos hout]
      exact ⟨_, _, rfl⟩
    · rw [if_neg hout, EStateM.run_bind, hinit]
      simp only
      rw [if_pos hr]
      exact ⟨_, _, rfl⟩
  rw [RtcCall.perform, EStateM.run_bind, hset] at hcall
  cases hcall
  rfl

/-- A call that has written nothing leaves the time alone. -/
theorem RtcDone.Explains.still {ρ : BitVec 8 → Byte} {l : List (BitVec 8 × Byte)}
    (hexplains : o.Explains ρ l) (hwritten : o.written = []) (f : RtcField) :
    applyWrites l ρ f.reg = ρ f.reg := by
  rw [applyWrites_apply, hexplains.lastWrite_reg f, hwritten]
  rfl

/-- **The clock keeps its time.**  After any run of sets and gets, whatever transfers have
failed on the way, and for any further call that returns:

* once each register of the time has been written, a get that passes prints, field by
  field, the last value that was written, and it is a value of the field;
* a set that is aborted, or whose set-up fails, changes no register of the time;
* since the run began, the control register has lost no bit and gained only bits of the
  set-up. -/
theorem clock_keeps_time (hclock : io.Clock bus chip regs IsBus IsClock)
    (hbus : s.OnBus io bus IsBus) (hrun : RtcRun io bus chip s h s₁) (hon : c.On bus chip)
    (hcall : (c.perform io).run s₁ = .ok o s₂) :
    ((∀ f, (lastWritten f h).isSome) → ∀ shown, o = .get .pass shown →
      ∃ time, shown = some time ∧
        ∀ f, lastWritten f h = some (time f) ∧ (time f).toNat ≤ f.max) ∧
    (∀ written, o = .set .aborted written →
      ∀ f : RtcField, regs s₂.dev f.reg = regs s₁.dev f.reg) ∧
    (∀ testId a r s', c = .set testId (some a) →
      (ds2321RtcInit io testId a.i2c_dev_addr a.i2c_bus a.i2c_speed).run s₁ = .ok r s' →
      r ≠ .pass → ∀ f : RtcField, regs s₂.dev f.reg = regs s₁.dev f.reg) ∧
    OnlyGains rtcSetup (regs s.dev ds2321RtcCtlStatusRegAddr)
      (regs s₂.dev ds2321RtcCtlStatusRegAddr) := by
  have hholds := hrun.holds hclock hbus
  obtain ⟨l, hregs, -, hexplains⟩ := perform_explains hclock hholds.onBus hon hcall
  refine ⟨?_, ?_, ?_, (hholds.call hclock hon hcall).onlyGains⟩
  · rintro hall shown rfl
    cases hexplains with
    | get hsetup hshown =>
        refine ⟨_, hshown rfl, fun f => ?_⟩
        obtain ⟨v, hv⟩ := Option.isSome_iff_exists.mp (hall f)
        obtain ⟨hreg, hle⟩ := hholds.holds f v hv
        have hmax : f.max ≤ 59 := by cases f <;> decide
        have hdecode : rtcShown (regs s₁.dev) f = v := by
          rw [rtcShown, hreg]
          exact bcd2bin_bin2bcd (hle.trans hmax)
        rw [hdecode]
        exact ⟨hv, hle⟩
  · rintro written rfl f
    rw [hregs]
    refine hexplains.still ?_ f
    cases hexplains with
    | set hsetup hfits haborted => exact (haborted rfl).2
  · rintro testId a r s' rfl hinit hr f
    rw [hregs]
    exact hexplains.still (perform_set_of_init hinit hr hcall) f

end Runs

/-- A board with a clock whose transfers return given codes, one after another. -/
structure FlakyClock where
  codes : List (BitVec 32)
  regs : BitVec 8 → Byte

/-- The drivers of the board. -/
def flakyClock : I2cBusDriver FlakyClock where
  writel _ _ d := d
  uclassGetDeviceBySeq _ d := ((0, some 0), d)
  i2cGetChip _ _ _ d := ((0, some 0), d)
  i2cSetChipOffsetLen _ _ d := (0, d)
  setWrAddress _ d := d
  dmI2cWrite _ offset buffer d :=
    (d.codes.headD 0, ⟨d.codes.tail, if d.codes.headD 0 = 0 then
      Function.update d.regs (offset.setWidth 8) (buffer.headD 0) else d.regs⟩)
  dmI2cRead _ offset _ d :=
    ((d.codes.headD 0, fun _ => d.regs (offset.setWidth 8)), ⟨d.codes.tail, d.regs⟩)
  dmI2cGetBusSpeed _ d := (100000, d)
  dmI2cSetBusSpeed _ _ d := (0, d)
  dmI2cProbe _ _ d := (0, d)

theorem flakyClock_clock (bus chip : BitVec 8) :
    flakyClock.Clock bus chip FlakyClock.regs (fun _ => True) fun _ => True where
  lookup _ _ _ := trivial
  getChip _ _ _ _ _ := trivial
  write dev reg byte d _ := by
    simp only [flakyClock, BitVec.setWidth_setWidth_of_le, Nat.reduceLeDiff, BitVec.setWidth_eq]
    rfl
  read dev reg d _ _ := by
    simp only [flakyClock, BitVec.setWidth_setWidth_of_le, Nat.reduceLeDiff, BitVec.setWidth_eq]
  writel_still _ _ _ := rfl
  lookup_still _ _ := rfl
  getChip_still _ _ _ _ := rfl
  offsetLen_still _ _ _ := rfl
  wrAddress_still _ _ := rfl
  read_still _ _ _ _ := rfl
  getSpeed_still _ _ := rfl
  setSpeed_still _ _ _ := rfl

/-- A call that sets the clock; with 5:20:32 it is the one of the board. -/
def setTo (hour min sec : BitVec 8) : RtcCall := .set 1 (some ⟨1, 100000, 0x68, sec, min, hour⟩)

/-- The call that reads it. -/
def getTime : RtcCall := .get 1 (some ⟨1, 100000, 0x68⟩)

/-- **The clock is set to 5:20:32 and then to 12:34:56, and the last write fails**: a get
prints 5:34:56. -/
theorem flaky_clock_keeps_time :
    ∃ s₁ s₂ time,
      RtcRun flakyClock 1 0x68
        (Fixture.atBoot ⟨[0, 0, 0, 0, 0, 0, 0, 0, 0, 0xFFFFFFFB], fun _ => 0⟩)
        [.set .pass [(.sec, 32), (.min, 20), (.hour, 5)], .set .fail [(.sec, 56), (.min, 34)]]
        s₁ ∧
      (getTime.perform flakyClock).run s₁ = .ok (.get .pass (some time)) s₂ ∧
      time .hour = 5 ∧ time .min = 34 ∧ time .sec = 56 := by
  have hset : ∀ hour min sec, (setTo hour min sec).On 1 0x68 := by
    rintro hour min sec _ ⟨⟩
    exact ⟨rfl, rfl⟩
  have hget : getTime.On 1 0x68 := by
    rintro _ ⟨⟩
    exact ⟨rfl, rfl⟩
  obtain ⟨s₁, s₂, time, hrun, hcall⟩ : ∃ s₁ s₂ time,
      RtcRun flakyClock 1 0x68
        (Fixture.atBoot ⟨[0, 0, 0, 0, 0, 0, 0, 0, 0, 0xFFFFFFFB], fun _ => 0⟩)
        [.set .pass [(.sec, 32), (.min, 20), (.hour, 5)], .set .fail [(.sec, 56), (.min, 34)]]
        s₁ ∧
      (getTime.perform flakyClock).run s₁ = .ok (.get .pass (some time)) s₂ :=
    ⟨_, _, _, (RtcRun.start.call (hset 5 20 32) rfl).call (hset 12 34 56) rfl, rfl⟩
  obtain ⟨hshown, -⟩ :=
    clock_keeps_time (flakyClock_clock 1 0x68) (.inr fun _ _ => trivial) hrun hget hcall
  obtain ⟨time', htime, hlast⟩ := hshown (by rintro (_ | _ | _) <;> rfl) _ rfl
  obtain rfl := Option.some.inj htime
  exact ⟨s₁, s₂, time, hrun, hcall, (Option.some.inj (hlast .hour).1).symm,
    (Option.some.inj (hlast .min).1).symm, (Option.some.inj (hlast .sec).1).symm⟩

end BoardDiag
