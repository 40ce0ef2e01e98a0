import BoardDiag.Suite.Peripherals
import Mathlib.Logic.Function.Iterate

/-!
# Negotiating a link

`Ethernet_test` looks whether there is a link and then has the transceiver negotiate four
times, each time with one mode advertised alone: 10 Mbps half duplex, 10 full, 100 half and
100 full.  A mode has been negotiated if the transceiver says that it is done and if both
sides offer the mode.

The four phases are written out one after another in the source, and they do not treat a
failure alike.  A negotiation that is not done counts as a good one in each of them, and
at 10 half a partner that does not offer the mode is printed and forgotten.  So the test
looks for less than it should: for a partner that completes one of the *last three* modes
without offering it.

The phases are seen here as a list.  `tryModes` is the part of the test behind the first
phase, as a recursion over the modes that are left, and what it comes to is read off by
induction (`run_tryModes`).  `link_verdict_iff` compares that with what a link deserves.
-/

namespace BoardDiag

open Machine

variable {D : Type}

/-! ## What the registers say -/

namespace PhyDriver

variable (io : PhyDriver D) (a : AEthernetTest)

/-- Every reading of a register of the transceiver succeeds. -/
def Reads : Prop := ∀ reg d, (io.miiphyRead a.dev_name a.phy_addr reg d).1.isSome

/-- A reading that succeeds. -/
def reading (reg : BitVec 8) (d : D) : BitVec 16 × D :=
  ((io.miiphyRead a.dev_name a.phy_addr reg d).1.getD 0,
    (io.miiphyRead a.dev_name a.phy_addr reg d).2)

/-- There is a link at the start. -/
def LinkUp (d : D) : Prop := (io.reading a miiBmsr d).1 &&& bmsrLstatus ≠ 0#16

instance (d : D) : Decidable (io.LinkUp a d) := inferInstanceAs (Decidable (_ ≠ _))

/-- The board when negotiation has been restarted with one mode advertised alone, and two
seconds have passed. -/
def restarted (advertise : BitVec 16) (d : D) : D :=
  let write := io.miiphyWrite a.dev_name a.phy_addr
  io.mdelay^[200] (write miiBmcr miiBmcrRestart (write miiAnar advertise
    (write miiBmcr miiBmcrReset (write miiBmcr 0x0000 d))))

/-- What the transceiver then says about the negotiation. -/
def progress (advertise : BitVec 16) (d : D) : BitVec 16 × D :=
  io.reading a miiBmsr (io.restarted a advertise d)

/-- The negotiation is done. -/
def Completes (advertise : BitVec 16) (d : D) : Prop :=
  (io.progress a advertise d).1 &&& bmsrAnegcomplete ≠ 0#16

instance (advertise : BitVec 16) (d : D) : Decidable (io.Completes a advertise d) :=
  inferInstanceAs (Decidable (_ ≠ _))

/-- The abilities the transceiver advertises. -/
def advertised (advertise : BitVec 16) (d : D) : BitVec 16 × D :=
  io.reading a miiAnar (io.progress a advertise d).2

/-- The abilities of the link partner. -/
def partner (advertise : BitVec 16) (d : D) : BitVec 16 × D :=
  io.reading a miiLpa (io.advertised a advertise d).2

/-- Both sides offer the mode. -/
def Shares (advertise : BitVec 16) (d : D) : Prop :=
  (io.partner a advertise d).1 &&& (io.advertised a advertise d).1 &&& advertise ≠ 0#16

instance (advertise : BitVec 16) (d : D) : Decidable (io.Shares a advertise d) :=
  inferInstanceAs (Decidable (_ ≠ _))

/-- The board after the phase of one mode: abilities are only looked at if the negotiation
is done. -/
def afterMode (advertise : BitVec 16) (d : D) : D :=
  if io.Completes a advertise d then (io.partner a advertise d).2
  else (io.progress a advertise d).2

/-- **Each of the modes is negotiated**, in turn. -/
def Negotiates : List (BitVec 16) → D → Prop
  | [], _ => True
  | advertise :: modes, d =>
      io.Completes a advertise d ∧ io.Shares a advertise d ∧
        Negotiates modes (io.afterMode a advertise d)

/-- **None of the modes is completed without being shared**, in turn. -/
def Tolerates : List (BitVec 16) → D → Prop
  | [], _ => True
  | advertise :: modes, d =>
      (io.Completes a advertise d → io.Shares a advertise d) ∧
        Tolerates modes (io.afterMode a advertise d)

variable {io a}

theorem Negotiates.tolerates {modes : List (BitVec 16)} {d : D}
    (h : io.Negotiates a modes d) : io.Tolerates a modes d := by
  induction modes generalizing d with
  | nil => trivial
  | cons advertise modes ih => exact ⟨fun _ => h.2.1, ih h.2.2⟩

end PhyDriver

/-! ## The test, phase by phase -/

section Phases

variable {io : PhyDriver D} {a : AEthernetTest}

theorem run_miiphyRead (h : io.Reads a) (reg : BitVec 8) (value : BitVec 16) (s : Fixture D) :
    (miiphyRead io a reg value).run s =
      .ok (io.reading a reg s.dev).1 { s with dev := (io.reading a reg s.dev).2 } := by
  obtain ⟨read, hread⟩ := Option.isSome_iff_exists.mp (h reg s.dev)
  rw [PhyDriver.reading, hread]
  show EStateM.Result.ok (Option.getD (io.miiphyRead a.dev_name a.phy_addr reg s.dev).1 value) _ = _
  rw [hread]
  rfl

/-- Waiting. -/
theorem run_forFrom_mdelay (i n : ℕ) (s : Fixture D) :
    (forFrom (fun _ _ => drive fun d => ((), io.mdelay d)) i n ()).run s =
      .ok () { s with dev := io.mdelay^[n] s.dev } := by
  induction n generalizing i s with
  | zero => rfl
  | succ n ih => exact ih (i + 1) { s with dev := io.mdelay s.dev }

/-- **One phase**: it ends in a mismatch if the mode is completed and not shared. -/
theorem run_negotiate (h : io.Reads a) (advertise : BitVec 16) (v : LinkVals) (s : Fixture D) :
    ∃ v', (negotiate io a advertise v).run s =
      .ok (decide (io.Completes a advertise s.dev ∧ ¬ io.Shares a advertise s.dev), v')
        { s with dev := io.afterMode a advertise s.dev } := by
  -- the four writes and the wait
  have hrestart : (negotiate io a advertise v).run s =
      (do
        let bm_sts_val ← miiphyRead io a miiBmsr v.bm_sts_val
        if bm_sts_val &&& bmsrAnegcomplete ≠ 0#16 then
          let an_advert_val ← miiphyRead io a miiAnar v.an_advert_val
          let an_lp_val ← miiphyRead io a miiLpa v.an_lp_val
          return (decide (an_lp_val &&& an_advert_val &&& advertise = 0#16),
            ⟨an_advert_val, an_lp_val, bm_sts_val⟩)
        else
          return (false, { v with bm_sts_val := bm_sts_val }) :
        TestProg D (Bool × LinkVals)).run { s with dev := io.restarted a advertise s.dev } := by
    simp only [negotiate, miiphyWrite, EStateM.run_bind, run_drive, run_forFrom_mdelay]
    rfl
  rw [hrestart, EStateM.run_bind, run_miiphyRead h]
  simp only
  by_cases hdone : io.Completes a advertise s.dev
  · have hbit : (io.reading a miiBmsr (io.restarted a advertise s.dev)).1 &&&
        bmsrAnegcomplete ≠ 0#16 := hdone
    rw [if_pos hbit, EStateM.run_bind, run_miiphyRead h]
    simp only
    rw [EStateM.run_bind, run_miiphyRead h, PhyDriver.afterMode, if_pos hdone]
    refine ⟨⟨(io.advertised a advertise s.dev).1, (io.partner a advertise s.dev).1,
      (io.progress a advertise s.dev).1⟩, ?_⟩
    simp only [hdone, true_and, PhyDriver.Shares, not_not]
    rfl
  · have hbit : ¬ (io.reading a miiBmsr (io.restarted a advertise s.dev)).1 &&&
        bmsrAnegcomplete ≠ 0#16 := hdone
    rw [if_neg hbit, PhyDriver.afterMode, if_neg hdone]
    refine ⟨{ v with bm_sts_val := (io.progress a advertise s.dev).1 }, ?_⟩
    simp only [hdone, false_and, decide_false]
    rfl

/-- The phases whose mismatch is a failure: the part of `Ethernet_test` that is left when
`modes` are left. -/
def tryModes (io : PhyDriver D) (a : AEthernetTest) (testId : BitVec 32) :
    List (BitVec 16) → LinkVals → TestProg D TestResultTypes
  | [], _ => return .pass
  | advertise :: modes, v => do
      let (mismatch, v) ← negotiate io a advertise v
      if mismatch then
        reportEvent testId .devDataMismatch []
        return .fail
      tryModes io a testId modes v

theorem ethernetTest_eq (testId : BitVec 32) (hname : a.phy_name = lan8710a) :
    ethernetTest io testId (some a) = (do
      let bm_sts_val ← miiphyRead io a miiBmsr 0
      if bm_sts_val &&& bmsrLstatus = 0#16 then
        reportEvent testId .devNotPresent []
        return .fail
      let (_, v) ← negotiate io a advertise10Half ⟨0, 0, bm_sts_val⟩
      tryModes io a testId [advertise10Full, advertise100Half, advertise100Full] v) := by
  unfold ethernetTest
  simp only
  rw [if_neg (not_not.mpr hname)]
  rfl

/-- **The phases together** pass if none of them is completed without being shared. -/
theorem run_tryModes (h : io.Reads a) (testId : BitVec 32) (modes : List (BitVec 16))
    (v : LinkVals) (s : Fixture D) :
    ∃ r s', (tryModes io a testId modes v).run s = .ok r s' ∧ (r = .pass ∨ r = .fail) ∧
      (r = .pass ↔ io.Tolerates a modes s.dev) := by
  induction modes generalizing v s with
  | nil => exact ⟨.pass, s, rfl, .inl rfl, iff_of_true rfl trivial⟩
  | cons advertise modes ih =>
      obtain ⟨v', hmode⟩ := run_negotiate h advertise v s
      rw [tryModes, EStateM.run_bind, hmode]
      simp only
      by_cases hmismatch : io.Completes a advertise s.dev ∧ ¬ io.Shares a advertise s.dev
      · rw [if_pos (decide_eq_true hmismatch)]
        exact ⟨.fail, _, rfl, .inr rfl, iff_of_false nofun fun ht =>
          hmismatch.2 (ht.1 hmismatch.1)⟩
      · rw [if_neg fun hd => hmismatch (of_decide_eq_true hd)]
        obtain ⟨r, s', hrun, hr, hpass⟩ := ih v' { s with dev := io.afterMode a advertise s.dev }
        refine ⟨r, s', hrun, hr, hpass.trans (and_iff_right ?_).symm⟩
        exact fun hdone => not_not.mp fun hnot => hmismatch ⟨hdone, hnot⟩

end Phases

/-! ## The verdict -/

/-- The four modes, in the order they are tried. -/
def linkModes : List (BitVec 16) :=
  [advertise10Half, advertise10Full, advertise100Half, advertise100Full]

/-- **The verdict a link deserves**: the test passes if there is a link and each of the
four modes is negotiated in turn, and fails otherwise. -/
def LinkVerdictRight (io : PhyDriver D) (testId : BitVec 32) (a : AEthernetTest)
    (s : Fixture D) : Prop :=
  ∃ r s', (ethernetTest io testId (some a)).run s = .ok r s' ∧ (r = .pass ∨ r = .fail) ∧
    (r = .pass ↔ io.LinkUp a s.dev ∧
      io.Negotiates a linkModes (io.reading a miiBmsr s.dev).2)

section Verdict

variable {io : PhyDriver D} {a : AEthernetTest}

/-- What the test looks for: a link, and no mode behind the first that is completed without
being shared. -/
theorem run_ethernetTest (h : io.Reads a) (hname : a.phy_name = lan8710a)
    (testId : BitVec 32) (s : Fixture D) :
    ∃ r s', (ethernetTest io testId (some a)).run s = .ok r s' ∧ (r = .pass ∨ r = .fail) ∧
      (r = .pass ↔ io.LinkUp a s.dev ∧
        io.Tolerates a linkModes.tail
          (io.afterMode a advertise10Half (io.reading a miiBmsr s.dev).2)) := by
  rw [ethernetTest_eq testId hname, EStateM.run_bind, run_miiphyRead h]
  simp only
  by_cases hup : io.LinkUp a s.dev
  · rw [if_neg hup, EStateM.run_bind]
    obtain ⟨v, hmode⟩ := run_negotiate h advertise10Half ⟨0, 0, (io.reading a miiBmsr s.dev).1⟩
      { s with dev := (io.reading a miiBmsr s.dev).2 }
    rw [hmode]
    obtain ⟨r, s', hrun, hr, hpass⟩ := run_tryModes h testId linkModes.tail v _
    exact ⟨r, s', hrun, hr, hpass.trans (and_iff_right hup).symm⟩
  · rw [if_pos (not_not.mp hup)]
    exact ⟨.fail, _, rfl, .inr rfl, iff_of_false nofun fun hpass => hup hpass.1⟩

/-- **When the verdict is right.**  For every transceiver and every partner: if the link is
down, or one of the last three modes is completed without being shared, or all four are
negotiated. -/
theorem link_verdict_iff (h : io.Reads a) (hname : a.phy_name = lan8710a)
    (testId : BitVec 32) (s : Fixture D) :
    LinkVerdictRight io testId a s ↔
      (io.LinkUp a s.dev →
        io.Tolerates a linkModes.tail
          (io.afterMode a advertise10Half (io.reading a miiBmsr s.dev).2) →
        io.Negotiates a linkModes (io.reading a miiBmsr s.dev).2) := by
  obtain ⟨r, s', hrun, hr, hpass⟩ := run_ethernetTest h hname testId s
  constructor
  · rintro ⟨r', s'', hrun', -, hright⟩ hup htolerated
    rw [hrun] at hrun'
    cases hrun'
    exact (hright.mp (hpass.mpr ⟨hup, htolerated⟩)).2
  · intro hcond
    refine ⟨r, s', hrun, hr, hpass.trans ?_⟩
    constructor
    · exact fun hgot => ⟨hgot.1, hcond hgot.1 hgot.2⟩
    · exact fun hdue => ⟨hdue.1, hdue.2.tolerates.2⟩

end Verdict

/-- The configuration of `SPEED_DUPLEX_AUTONEGOTIATE`. -/
def speedDuplexAutonegotiate : AEthernetTest where
  dev_name := .ofChars "ethernet@4a100000".toList
  phy_addr := 0x00
  phy_name := lan8710a

/-- A transceiver that answers each reading with the next of a list of values. -/
def scriptedPhy : PhyDriver (List (BitVec 16)) where
  miiphyRead _ _ _ vals := (some (vals.headD 0), vals.tail)
  miiphyWrite _ _ _ _ vals := vals
  mdelay vals := vals

theorem reads_scriptedPhy (a : AEthernetTest) : scriptedPhy.Reads a := fun _ _ => rfl

theorem restarted_scriptedPhy (a : AEthernetTest) (advertise : BitVec 16)
    (vals : List (BitVec 16)) : scriptedPhy.restarted a advertise vals = vals :=
  congrFun (Function.iterate_id 200) vals

theorem completes_scriptedPhy_iff (a : AEthernetTest) (advertise bmsr : BitVec 16)
    (vals : List (BitVec 16)) :
    scriptedPhy.Completes a advertise (bmsr :: vals) ↔ bmsr &&& bmsrAnegcomplete ≠ 0#16 := by
  rw [PhyDriver.Completes, PhyDriver.progress, restarted_scriptedPhy]
  rfl

theorem shares_scriptedPhy_iff (a : AEthernetTest) (advertise bmsr anar lpa : BitVec 16)
    (vals : List (BitVec 16)) :
    scriptedPhy.Shares a advertise (bmsr :: anar :: lpa :: vals) ↔
      lpa &&& anar &&& advertise ≠ 0#16 := by
  rw [PhyDriver.Shares, PhyDriver.partner, PhyDriver.advertised, PhyDriver.progress,
    restarted_scriptedPhy]
  rfl

/-- A phase that is done takes three values, and one that is not takes one. -/
theorem afterMode_scriptedPhy (a : AEthernetTest) (advertise bmsr : BitVec 16)
    (vals : List (BitVec 16)) :
    scriptedPhy.afterMode a advertise (bmsr :: vals) =
      if bmsr &&& bmsrAnegcomplete ≠ 0#16 then vals.tail.tail else vals := by
  simp only [PhyDriver.afterMode, completes_scriptedPhy_iff, PhyDriver.partner,
    PhyDriver.advertised, PhyDriver.progress, restarted_scriptedPhy]
  rfl

theorem negotiates_scriptedPhy_cons {a : AEthernetTest} {advertise bmsr anar lpa : BitVec 16}
    {modes vals : List (BitVec 16)} (hdone : bmsr &&& bmsrAnegcomplete ≠ 0#16)
    (hshared : lpa &&& anar &&& advertise ≠ 0#16) (hrest : scriptedPhy.Negotiates a modes vals) :
    scriptedPhy.Negotiates a (advertise :: modes) (bmsr :: anar :: lpa :: vals) := by
  refine ⟨(completes_scriptedPhy_iff a _ _ _).mpr hdone,
    (shares_scriptedPhy_iff a _ _ _ _ _).mpr hshared, ?_⟩
  rw [afterMode_scriptedPhy, if_pos hdone]
  exact hrest

theorem tolerates_scriptedPhy_pending {a : AEthernetTest} {advertise : BitVec 16}
    {modes vals : List (BitVec 16)} (hrest : scriptedPhy.Tolerates a modes vals) :
    scriptedPhy.Tolerates a (advertise :: modes) (0 :: vals) := by
  refine ⟨fun hdone => absurd ((completes_scriptedPhy_iff a _ _ _).mp hdone) (by decide), ?_⟩
  rw [afterMode_scriptedPhy, if_neg (by decide)]
  exact hrest

/-- What a partner that offers all four modes has the transceiver answer for the last
three. -/
def lastModesShared : List (BitVec 16) :=
  [0x0020, 0x0040, 0x01E0, 0x0020, 0x0080, 0x01E0, 0x0020, 0x0100, 0x01E0]

theorem negotiates_lastModesShared (a : AEthernetTest) :
    scriptedPhy.Negotiates a linkModes.tail lastModesShared :=
  negotiates_scriptedPhy_cons (by decide) (by decide)
    (negotiates_scriptedPhy_cons (by decide) (by decide)
      (negotiates_scriptedPhy_cons (by decide) (by decide) trivial))

/-- A partner that offers all four modes gets the verdict it deserves. -/
theorem full_partner_verdict :
    scriptedPhy.Reads speedDuplexAutonegotiate ∧ speedDuplexAutonegotiate.phy_name = lan8710a ∧
    LinkVerdictRight scriptedPhy 1 speedDuplexAutonegotiate
      (Fixture.atBoot (0x0004 :: 0x0020 :: 0x0020 :: 0x01E0 :: lastModesShared)) :=
  ⟨reads_scriptedPhy _, rfl, (link_verdict_iff (reads_scriptedPhy _) rfl 1 _).mpr fun _ _ =>
    negotiates_scriptedPhy_cons (by decide) (by decide) (negotiates_lastModesShared _)⟩

/-- A link that is up passes if the last three modes are tolerated; if the first is not
negotiated, it should not. -/
theorem passes_and_not_linkVerdictRight {io : PhyDriver D} {a : AEthernetTest} (h : io.Reads a)
    (hname : a.phy_name = lan8710a) (testId : BitVec 32) {s : Fixture D}
    (hup : io.LinkUp a s.dev)
    (htolerated : io.Tolerates a linkModes.tail
      (io.afterMode a advertise10Half (io.reading a miiBmsr s.dev).2))
    (hnot : ¬ io.Negotiates a linkModes (io.reading a miiBmsr s.dev).2) :
    (∃ s', (ethernetTest io testId (some a)).run s = .ok .pass s') ∧
      ¬ LinkVerdictRight io testId a s := by
  obtain ⟨r, s', hrun, -, hpass⟩ := run_ethernetTest h hname testId s
  obtain rfl := hpass.mpr ⟨hup, htolerated⟩
  refine ⟨⟨s', hrun⟩, ?_⟩
  rintro ⟨r', s'', hrun', -, hright⟩
  rw [hrun] at hrun'
  cases hrun'
  exact hnot (hright.mp rfl).2

/-- **A link on which no negotiation is ever done passes**, and so does one whose partner
does not offer 10 half. -/
theorem pending_link_verdict_wrong :
    ((∃ s', (ethernetTest scriptedPhy 1 (some speedDuplexAutonegotiate)).run
        (Fixture.atBoot [0x0004, 0, 0, 0, 0]) = .ok .pass s') ∧
      ¬ LinkVerdictRight scriptedPhy 1 speedDuplexAutonegotiate
        (Fixture.atBoot [0x0004, 0, 0, 0, 0])) ∧
    (∃ s', (ethernetTest scriptedPhy 1 (some speedDuplexAutonegotiate)).run
        (Fixture.atBoot (0x0004 :: 0x0020 :: 0x0020 :: 0x01C0 :: lastModesShared)) =
        .ok .pass s') ∧
      ¬ LinkVerdictRight scriptedPhy 1 speedDuplexAutonegotiate
        (Fixture.atBoot (0x0004 :: 0x0020 :: 0x0020 :: 0x01C0 :: lastModesShared)) := by
  have hmiss : ∀ {bmsr anar lpa : BitVec 16} {vals}, ¬ (bmsr &&& bmsrAnegcomplete ≠ 0#16 ∧
      lpa &&& anar &&& advertise10Half ≠ 0#16) →
      ¬ scriptedPhy.Negotiates speedDuplexAutonegotiate linkModes
        (bmsr :: anar :: lpa :: vals) := fun hnot hnego =>
    hnot ⟨(completes_scriptedPhy_iff _ _ _ _).mp hnego.1,
      (shares_scriptedPhy_iff _ _ _ _ _ _).mp hnego.2.1⟩
  constructor
  · refine passes_and_not_linkVerdictRight (reads_scriptedPhy _) rfl 1 (by decide) ?_
      (hmiss (by decide))
    show scriptedPhy.Tolerates _ _ (scriptedPhy.afterMode _ _ [0, 0, 0, 0])
    rw [afterMode_scriptedPhy, if_neg (by decide)]
    exact tolerates_scriptedPhy_pending (tolerates_scriptedPhy_pending
      (tolerates_scriptedPhy_pending trivial))
  · refine passes_and_not_linkVerdictRight (reads_scriptedPhy _) rfl 1 (by decide) ?_
      (hmiss (by decide))
    show scriptedPhy.Tolerates _ _ (scriptedPhy.afterMode _ _
      (0x0020 :: 0x0020 :: 0x01C0 :: lastModesShared))
    rw [afterMode_scriptedPhy, if_pos (by decide)]
    exact (negotiates_lastModesShared _).tolerates

end BoardDiag
