import SweepAudit.Audit.Run
import SweepAudit.Venue.Script
import SweepAudit.Venue.Trace
import SweepAudit.Proofs.Decimal.Value

/-!
What a scenario does at any venue, however that answers: which calls it makes with what
arguments, what it records, and exactly when it passes. A scenario can end before it has begun
an auction, at one of three places, or on the answer to the auction; there is one lemma for
each.
-/

namespace SweepAudit

variable {σ α β : Type}

namespace Guarded

theorem run_lift_bind (x : StateM σ α) (f : α → Guarded σ β) (state : σ) :
    ((liftM x : Guarded σ α) >>= f).run.run state =
      (f (x.run state).1).run.run (x.run state).2 := rfl

theorem run_ofExcept_bind (a : α) (f : α → Guarded σ β) (state : σ) :
    (Guarded.ofExcept (.ok a) >>= f).run.run state = (f a).run.run state := rfl

theorem run_lift (x : StateM σ α) (state : σ) :
    (liftM x : Guarded σ α).run.run state = (.ok (x.run state).1, (x.run state).2) := rfl

theorem run_bind_ok {x : Guarded σ α} {f : α → Guarded σ β} {state state' : σ} {a : α}
    (h : x.run.run state = (.ok a, state')) :
    (x >>= f).run.run state = (f a).run.run state' := by
  rw [ExceptT.run_bind, StateT.run_bind, h]
  rfl

end Guarded

namespace Report

@[simp] theorem passed_pass (report : Report) : report.pass.passed = true := rfl

@[simp] theorem passed_fail (report : Report) (failure : Failure) :
    (report.fail failure).passed = false := rfl

/-- The report with what an auction has paid, if it has been filled. -/
def paid (report : Report) : CallResult Settlement → Report
  | .error _ => report
  | .ok settlement => { report with amountOut := some settlement.amountOut }

end Report

namespace Scenario

/-- A scenario goes on to an auction of so much: the depth has been read, its side adds up to
these totals, and there is something to pay with. -/
structure Submits (scenario : Scenario) (answer : CallResult Snapshot) (liquidity : Liquidity)
    (fund : Decimal) : Prop where
  adds_up : ∃ snapshot, answer = .ok snapshot ∧
    Liquidity.ofLevels (snapshot.liquidityFor scenario.side) = .ok liquidity
  funded : scenario.overfund = true ∨ (liquidity.funding scenario.side).value ≠ 0
  fund_eq : (if scenario.overfund then (liquidity.funding scenario.side).add .one
    else .ok (liquidity.funding scenario.side)) = .ok fund

/-- The answer to the auction is the one that lets the scenario pass. -/
def Accepts (scenario : Scenario) (expected : Decimal) (outcome : CallResult Settlement) : Prop :=
  if scenario.overfund then ∃ e, outcome = .error e ∧ e.isRejection = true
  else ∃ settlement actual, outcome = .ok settlement ∧
    Decimal.parse (Text.trim settlement.amountOut) = .ok actual ∧ actual.value = expected.value

/-- Why a scenario fails, where `outcome` is the answer to an auction of an amount. -/
inductive FailsBy (scenario : Scenario) (answer : CallResult Snapshot)
    (outcome : Decimal → CallResult Settlement) : Failure → Prop
  | depthUnavailable {e} : answer = .error e → FailsBy scenario answer outcome (.depthUnavailable e)
  | malformedDepth {snapshot e} : answer = .ok snapshot →
      Liquidity.ofLevels (snapshot.liquidityFor scenario.side) = .error e →
      FailsBy scenario answer outcome (.malformedDepth e)
  | noLiquidity {snapshot liquidity} : answer = .ok snapshot →
      Liquidity.ofLevels (snapshot.liquidityFor scenario.side) = .ok liquidity →
      scenario.overfund = false → (liquidity.funding scenario.side).value = 0 →
      FailsBy scenario answer outcome (.noLiquidity scenario.side)
  | unexpectedRejection {liquidity fund e} : scenario.Submits answer liquidity fund →
      scenario.overfund = false → outcome fund = .error e →
      FailsBy scenario answer outcome (.unexpectedRejection e)
  | submissionFailed {liquidity fund e} : scenario.Submits answer liquidity fund →
      scenario.overfund = true → outcome fund = .error e → e.isRejection = false →
      FailsBy scenario answer outcome (.submissionFailed e)
  | unexpectedFill {liquidity fund settlement} : scenario.Submits answer liquidity fund →
      scenario.overfund = true → outcome fund = .ok settlement →
      FailsBy scenario answer outcome (.unexpectedFill settlement.amountOut)
  | badAmountOut {liquidity fund settlement e} : scenario.Submits answer liquidity fund →
      scenario.overfund = false → outcome fund = .ok settlement →
      Decimal.parse (Text.trim settlement.amountOut) = .error e →
      FailsBy scenario answer outcome (.badAmountOut settlement.amountOut)
  | mismatch {liquidity fund settlement actual} : scenario.Submits answer liquidity fund →
      scenario.overfund = false → outcome fund = .ok settlement →
      Decimal.parse (Text.trim settlement.amountOut) = .ok actual →
      actual.value ≠ (liquidity.proceeds scenario.side).value →
      FailsBy scenario answer outcome (.mismatch (liquidity.proceeds scenario.side) actual)

/-- What a scenario leaves behind: the calls it has made and the report on them, where `outcome`
is the answer to an auction of an amount. -/
structure Concludes (scenario : Scenario) (symbol : String) (id : Uuid)
    (answer : CallResult Snapshot) (outcome : Decimal → CallResult Settlement)
    (calls : List Call) (report : Report) : Prop where
  calls_early : (¬∃ liquidity fund, scenario.Submits answer liquidity fund) →
    calls = [.depth symbol]
  calls_submitted : ∀ liquidity fund, scenario.Submits answer liquidity fund →
    calls = .depth symbol :: .beginAuction (.ofAmount id symbol scenario.side fund) ::
      match outcome fund with
      | .error _ => []
      | .ok settlement => [.abortAuction (settlement.auctionId.getD id.text)]
  scenario_eq : report.scenario = scenario
  recorded_early : (¬∃ liquidity fund, scenario.Submits answer liquidity fund) →
    report.expectedOut = none ∧ report.fundAmount = none ∧ report.amountOut = none
  recorded_submitted : ∀ liquidity fund, scenario.Submits answer liquidity fund →
    report.expectedOut = some (liquidity.proceeds scenario.side) ∧
    report.fundAmount = some fund ∧
    report.amountOut = (outcome fund).toOption.map (·.amountOut)
  state_eq : report.state = if report.failure.isNone then .passed else .failed
  passed_iff : report.passed = true ↔ ∃ liquidity fund, scenario.Submits answer liquidity fund ∧
    scenario.Accepts (liquidity.proceeds scenario.side) (outcome fund)
  failed : report.passed = false → ∃ failure, report.failure = some failure ∧
    scenario.FailsBy answer outcome failure

/-- What is known when an auction is to be judged. -/
def submitted (scenario : Scenario) (liquidity : Liquidity) (fund : Decimal) : Report :=
  { Report.start scenario with
    state := .judging
    expectedOut := some (liquidity.proceeds scenario.side)
    fundAmount := some fund }

variable {venue : Venue σ} {symbol : String} {scenario : Scenario} {id : Uuid} {state : σ}

/-! The ways through a scenario -/

theorem run_of_depth_error {e : CallError}
    (h : ((venue.depth symbol).run state).1 = .error e) :
    (scenario.run venue symbol id).run.run state =
      (.ok ((Report.start scenario).fail (.depthUnavailable e)),
        ((venue.depth symbol).run state).2) := by
  rw [run]
  rw [Guarded.run_lift_bind, h]
  rfl

theorem run_of_malformed {snapshot : Snapshot} {e : LevelError}
    (h : ((venue.depth symbol).run state).1 = .ok snapshot)
    (hl : Liquidity.ofLevels (snapshot.liquidityFor scenario.side) = .error e) :
    (scenario.run venue symbol id).run.run state =
      (.ok ((Report.start scenario).fail (.malformedDepth e)),
        ((venue.depth symbol).run state).2) := by
  rw [run]
  rw [Guarded.run_lift_bind, h]
  simp only [hl]
  rfl

theorem run_of_unfunded {snapshot : Snapshot} {liquidity : Liquidity}
    (h : ((venue.depth symbol).run state).1 = .ok snapshot)
    (hl : Liquidity.ofLevels (snapshot.liquidityFor scenario.side) = .ok liquidity)
    (hzero : (liquidity.funding scenario.side).value = 0) (hexact : scenario.overfund = false) :
    (scenario.run venue symbol id).run.run state =
      (.ok ((Report.start scenario).fail (.noLiquidity scenario.side)),
        ((venue.depth symbol).run state).2) := by
  rw [run]
  rw [Guarded.run_lift_bind, h]
  simp only [hl, Decimal.isZero_iff.mpr hzero, hexact, Bool.not_false, Bool.and_self, if_true]
  rfl

/-- One more than the funding cannot be written. -/
theorem run_of_overflow {snapshot : Snapshot} {liquidity : Liquidity} {cause : Overflow}
    (h : ((venue.depth symbol).run state).1 = .ok snapshot)
    (hl : Liquidity.ofLevels (snapshot.liquidityFor scenario.side) = .ok liquidity)
    (hover : scenario.overfund = true)
    (hfund : (liquidity.funding scenario.side).add .one = .error cause) :
    (scenario.run venue symbol id).run.run state =
      (.error cause, ((venue.depth symbol).run state).2) := by
  have hfund' : scenario.fund liquidity = .error cause := by
    rw [fund, hover, if_pos rfl, hfund]
  rw [run]
  rw [Guarded.run_lift_bind, h]
  simp only [hl, hover, Bool.not_true, Bool.and_false, Bool.false_eq_true, if_false]
  rw [hfund']
  rfl

theorem run_of_submits {liquidity : Liquidity} {fund : Decimal}
    (h : scenario.Submits ((venue.depth symbol).run state).1 liquidity fund) :
    (scenario.run venue symbol id).run.run state =
      let request := AuctionRequest.ofAmount id symbol scenario.side fund
      let begun := (venue.beginAuction request).run ((venue.depth symbol).run state).2
      (.ok (scenario.judge (scenario.submitted liquidity fund)
          (liquidity.proceeds scenario.side) begun.1),
        ((release venue request begun.1).run begun.2).2) := by
  obtain ⟨⟨snapshot, hanswer, hl⟩, hfunded, hfund⟩ := h
  have hgoes : ((liquidity.funding scenario.side).isZero && !scenario.overfund) = false := by
    rcases hfunded with hover | hnonzero
    · simp [hover]
    · have hzero : (liquidity.funding scenario.side).isZero = false :=
        Bool.eq_false_iff.mpr fun h => hnonzero (Decimal.isZero_iff.mp h)
      simp [hzero]
  have hfund' : scenario.fund liquidity = .ok fund := hfund
  rw [run]
  rw [Guarded.run_lift_bind, hanswer]
  simp only [hl, hgoes, Bool.false_eq_true, if_false]
  rw [hfund', Guarded.run_ofExcept_bind]
  rfl

/-- The same answer never goes on to an auction of two amounts. -/
theorem Submits.unique {answer : CallResult Snapshot} {liquidity liquidity' : Liquidity}
    {fund fund' : Decimal} (h : scenario.Submits answer liquidity fund)
    (h' : scenario.Submits answer liquidity' fund') : liquidity = liquidity' ∧ fund = fund' := by
  obtain ⟨⟨snapshot, rfl, hl⟩, -, hfund⟩ := h
  obtain ⟨⟨_, hsnapshot, hl'⟩, -, hfund'⟩ := h'
  cases hsnapshot
  rw [hl] at hl'
  cases hl'
  rw [hfund] at hfund'
  cases hfund'
  exact ⟨rfl, rfl⟩

/-- Judging adds what has been paid and ends the scenario. -/
theorem judge_ends (scenario : Scenario) (report : Report) (expected : Decimal)
    (outcome : CallResult Settlement) :
    scenario.judge report expected outcome = (report.paid outcome).pass ∨
      ∃ failure, scenario.judge report expected outcome = (report.paid outcome).fail failure := by
  unfold judge
  cases outcome with
  | error e =>
    cases scenario.overfund with
    | true =>
      simp only [if_true]
      cases e.isRejection with
      | true => exact .inl rfl
      | false => exact .inr ⟨_, rfl⟩
    | false => exact .inr ⟨_, rfl⟩
  | ok settlement =>
    cases scenario.overfund with
    | true => exact .inr ⟨_, rfl⟩
    | false =>
      simp only [judgeAmount, Bool.false_eq_true, if_false]
      cases Decimal.parse (Text.trim settlement.amountOut) with
      | error e => exact .inr ⟨_, rfl⟩
      | ok actual =>
        by_cases hsame : actual.Same expected
        · exact .inl (if_pos hsame)
        · exact .inr ⟨_, if_neg hsame⟩

/-- Whatever the answer to the auction, the report is complete once it has been judged. -/
theorem judge_submitted (scenario : Scenario) (liquidity : Liquidity) (fund : Decimal)
    (outcome : CallResult Settlement) :
    let judged := scenario.judge (scenario.submitted liquidity fund)
      (liquidity.proceeds scenario.side) outcome
    judged.scenario = scenario ∧
      judged.state = (if judged.failure.isNone then .passed else .failed) ∧
      judged.expectedOut = some (liquidity.proceeds scenario.side) ∧
      judged.fundAmount = some fund ∧
      judged.amountOut = outcome.toOption.map (·.amountOut) := by
  intro judged
  have hends : judged = _ ∨ ∃ failure, judged = _ := judge_ends ..
  rcases hends with hends | ⟨failure, hends⟩ <;> rw [hends] <;> cases outcome <;>
    exact ⟨rfl, rfl, rfl, rfl, rfl⟩

theorem judge_passed (liquidity : Liquidity) (fund : Decimal) (outcome : CallResult Settlement) :
    (scenario.judge (scenario.submitted liquidity fund) (liquidity.proceeds scenario.side)
      outcome).passed = true ↔
      scenario.Accepts (liquidity.proceeds scenario.side) outcome := by
  unfold judge Accepts
  cases outcome with
  | error e =>
    cases scenario.overfund with
    | true => cases h : e.isRejection <;> simp [h]
    | false => simp
  | ok settlement =>
    cases scenario.overfund with
    | true => simp
    | false =>
      simp only [judgeAmount, Bool.false_eq_true, if_false]
      cases hparse : Decimal.parse (Text.trim settlement.amountOut) with
      | error e => simp [hparse]
      | ok actual =>
        by_cases hsame : actual.Same (liquidity.proceeds scenario.side) <;>
          simp [hparse, hsame, ← Decimal.same_iff]

theorem judge_failure {answer : CallResult Snapshot} {outcome : Decimal → CallResult Settlement}
    {liquidity : Liquidity} {fund : Decimal} (h : scenario.Submits answer liquidity fund)
    {failure : Failure}
    (hf : (scenario.judge (scenario.submitted liquidity fund) (liquidity.proceeds scenario.side)
      (outcome fund)).failure = some failure) :
    scenario.FailsBy answer outcome failure := by
  rw [judge.eq_def] at hf
  cases houtcome : outcome fund with
  | error e =>
    cases hover : scenario.overfund with
    | true =>
      cases hreject : e.isRejection with
      | true =>
        simp only [houtcome, hover, hreject, if_true] at hf
        cases hf
      | false =>
        simp only [houtcome, hover, hreject] at hf
        cases hf
        exact .submissionFailed h hover houtcome hreject
    | false =>
      simp only [houtcome, hover] at hf
      cases hf
      exact .unexpectedRejection h hover houtcome
  | ok settlement =>
    cases hover : scenario.overfund with
    | true =>
      simp only [houtcome, hover] at hf
      cases hf
      exact .unexpectedFill h hover houtcome
    | false =>
      simp only [houtcome, hover, judgeAmount, Bool.false_eq_true, if_false] at hf
      cases hparse : Decimal.parse (Text.trim settlement.amountOut) with
      | error e =>
        simp only [hparse] at hf
        cases hf
        exact .badAmountOut h hover houtcome hparse
      | ok actual =>
        by_cases hsame : actual.Same (liquidity.proceeds scenario.side)
        · simp only [hparse, hsame, if_true] at hf
          cases hf
        · simp only [hparse, hsame, if_false] at hf
          cases hf
          exact .mismatch h hover houtcome hparse fun heq => hsame (Decimal.same_iff.mpr heq)

/-- The ways that a scenario can go: it ends before an auction with a failure, an overflow ends it,
or it is judged on the answer to its auction. -/
theorem run_cases (venue : Venue σ) (symbol : String) (scenario : Scenario) (id : Uuid)
    (state : σ) :
    let answer := ((venue.depth symbol).run state).1
    let ended := ((scenario.run venue symbol id).run.run state).1
    (∃ failure, ended = .ok ((Report.start scenario).fail failure) ∧
      ∀ outcome, scenario.FailsBy answer outcome failure) ∨
    (∃ cause, ended = .error cause) ∨
    ∃ liquidity fund, scenario.Submits answer liquidity fund ∧
      ended = .ok (scenario.judge (scenario.submitted liquidity fund)
        (liquidity.proceeds scenario.side)
        ((venue.beginAuction (.ofAmount id symbol scenario.side fund)).run
          ((venue.depth symbol).run state).2).1) := by
  intro answer ended
  cases hanswer : answer with
  | error e =>
    exact .inl ⟨_, congrArg Prod.fst (run_of_depth_error hanswer), fun _ => .depthUnavailable rfl⟩
  | ok snapshot =>
    cases hl : Liquidity.ofLevels (snapshot.liquidityFor scenario.side) with
    | error e =>
      exact .inl ⟨_, congrArg Prod.fst (run_of_malformed hanswer hl),
        fun _ => .malformedDepth rfl hl⟩
    | ok liquidity =>
      by_cases hearly : scenario.overfund = false ∧ (liquidity.funding scenario.side).value = 0
      · obtain ⟨hexact, hzero⟩ := hearly
        exact .inl ⟨_, congrArg Prod.fst (run_of_unfunded hanswer hl hzero hexact),
          fun _ => .noLiquidity rfl hl hexact hzero⟩
      · right
        have hfunded : scenario.overfund = true ∨ (liquidity.funding scenario.side).value ≠ 0 := by
          rw [← Bool.not_eq_false, ← not_and_or]
          exact hearly
        cases hfund : scenario.fund liquidity with
        | error cause =>
          have hover : scenario.overfund = true := by
            by_contra hover
            rw [fund, if_neg hover] at hfund
            cases hfund
          rw [fund, if_pos hover] at hfund
          exact .inl ⟨cause, congrArg Prod.fst (run_of_overflow hanswer hl hover hfund)⟩
        | ok fund =>
          have hsubmits : scenario.Submits answer liquidity fund :=
            ⟨⟨snapshot, hanswer, hl⟩, hfunded, hfund⟩
          exact .inr ⟨liquidity, fund, hanswer ▸ hsubmits,
            congrArg Prod.fst (run_of_submits hsubmits)⟩

theorem runCounted_of_run (session : Session σ) {report : Report} {state : σ}
    (h : (scenario.run venue symbol id).run.run session.venue = (.ok report, state)) :
    (scenario.runCounted venue symbol id).run.run session =
      (.ok report, ⟨state, session.tally.record report.verdict⟩) := by
  change (scenario.runCounted venue symbol id) session = _
  rw [runCounted]
  rw [h]

theorem runCounted_of_overflow (session : Session σ) {cause : Overflow} {state : σ}
    (h : (scenario.run venue symbol id).run.run session.venue = (.error cause, state)) :
    (scenario.runCounted venue symbol id).run.run session =
      (.error cause, ⟨state, session.tally⟩) := by
  change (scenario.runCounted venue symbol id) session = _
  rw [runCounted]
  rw [h]

/-- A scenario that ends before an auction has failed after one call. -/
theorem FailsBy.concludes {answer : CallResult Snapshot}
    {outcome : Decimal → CallResult Settlement} {failure : Failure}
    (h : scenario.FailsBy answer outcome failure)
    (hnone : ¬∃ liquidity fund, scenario.Submits answer liquidity fund) :
    scenario.Concludes symbol id answer outcome [.depth symbol]
      ((Report.start scenario).fail failure) where
  calls_early := fun _ => rfl
  calls_submitted := fun liquidity fund hsubmits => absurd ⟨liquidity, fund, hsubmits⟩ hnone
  scenario_eq := rfl
  recorded_early := fun _ => ⟨rfl, rfl, rfl⟩
  recorded_submitted := fun liquidity fund hsubmits => absurd ⟨liquidity, fund, hsubmits⟩ hnone
  state_eq := rfl
  passed_iff := by
    constructor
    · intro hpassed
      cases hpassed
    · rintro ⟨liquidity, fund, hsubmits, -⟩
      exact absurd ⟨liquidity, fund, hsubmits⟩ hnone
  failed := fun _ => ⟨failure, rfl, h⟩

/-- A scenario that has come to an auction is judged on its outcome. -/
theorem Submits.concludes {answer : CallResult Snapshot} {liquidity : Liquidity} {fund : Decimal}
    (h : scenario.Submits answer liquidity fund) (outcome : Decimal → CallResult Settlement) :
    scenario.Concludes symbol id answer outcome
      (.depth symbol :: .beginAuction (.ofAmount id symbol scenario.side fund) ::
        match outcome fund with
        | .error _ => []
        | .ok settlement => [.abortAuction (settlement.auctionId.getD id.text)])
      (scenario.judge (scenario.submitted liquidity fund) (liquidity.proceeds scenario.side)
        (outcome fund)) where
  calls_early := fun hnone => absurd ⟨liquidity, fund, h⟩ hnone
  calls_submitted := by
    intro liquidity' fund' h'
    obtain ⟨rfl, rfl⟩ := h.unique h'
    rfl
  scenario_eq := (judge_submitted ..).1
  recorded_early := fun hnone => absurd ⟨liquidity, fund, h⟩ hnone
  recorded_submitted := by
    intro liquidity' fund' h'
    obtain ⟨rfl, rfl⟩ := h.unique h'
    exact (judge_submitted ..).2.2
  state_eq := (judge_submitted ..).2.1
  passed_iff := by
    rw [judge_passed]
    constructor
    · intro haccepts
      exact ⟨liquidity, fund, h, haccepts⟩
    · rintro ⟨liquidity', fund', h', haccepts⟩
      obtain ⟨rfl, rfl⟩ := h.unique h'
      exact haccepts
  failed := by
    intro hfailed
    rcases judge_ends scenario (scenario.submitted liquidity fund)
      (liquidity.proceeds scenario.side) (outcome fund) with hends | ⟨failure, hends⟩
    · rw [hends] at hfailed
      cases hfailed
    · exact ⟨failure, congrArg Report.failure hends, judge_failure h (congrArg _ hends)⟩

theorem calls_release (venue : Venue σ) (request : AuctionRequest) (outcome : CallResult Settlement)
    (traced : Traced σ) :
    ((release venue.traced request outcome).run traced).2.calls = traced.calls ++
      match outcome with
      | .error _ => []
      | .ok settlement => [.abortAuction (settlement.auctionId.getD request.auctionId.text)] := by
  cases outcome with
  | error e => exact (List.append_nil _).symm
  | ok settlement => rfl

/-- The whole verdict, at any venue and however that answers. Only where one more than the
funding cannot be written does a scenario end without a verdict. -/
theorem runCounted_concludes (venue : Venue σ) (symbol : String) (scenario : Scenario) (id : Uuid)
    (state : σ) (tally : Tally)
    (hfits : ∀ snapshot liquidity, ((venue.depth symbol).run state).1 = .ok snapshot →
      Liquidity.ofLevels (snapshot.liquidityFor scenario.side) = .ok liquidity →
      scenario.overfund = true → ∃ fund, (liquidity.funding scenario.side).add .one = .ok fund) :
    ∃ report session,
      (scenario.runCounted venue.traced symbol id).run.run ⟨⟨state, []⟩, tally⟩ =
        (.ok report, session) ∧
      session.tally = tally.record report.verdict ∧
      scenario.Concludes symbol id ((venue.depth symbol).run state).1
        (fun fund => ((venue.beginAuction (.ofAmount id symbol scenario.side fund)).run
          ((venue.depth symbol).run state).2).1)
        session.venue.calls report := by
  cases hanswer : ((venue.depth symbol).run state).1 with
  | error e =>
    have hrun : (scenario.run venue.traced symbol id).run.run ⟨state, []⟩ = _ :=
      run_of_depth_error hanswer
    refine ⟨_, _, runCounted_of_run ⟨_, tally⟩ hrun, rfl,
      (FailsBy.depthUnavailable rfl).concludes ?_⟩
    rintro ⟨_, _, ⟨_, h, -⟩, -, -⟩
    cases h
  | ok snapshot =>
    cases hl : Liquidity.ofLevels (snapshot.liquidityFor scenario.side) with
    | error e =>
      have hrun : (scenario.run venue.traced symbol id).run.run ⟨state, []⟩ = _ :=
        run_of_malformed hanswer hl
      refine ⟨_, _, runCounted_of_run ⟨_, tally⟩ hrun, rfl,
        (FailsBy.malformedDepth rfl hl).concludes ?_⟩
      rintro ⟨_, _, ⟨_, h, h'⟩, -, -⟩
      cases h
      cases hl.symm.trans h'
    | ok liquidity =>
      by_cases hearly : scenario.overfund = false ∧ (liquidity.funding scenario.side).value = 0
      · obtain ⟨hexact, hzero⟩ := hearly
        have hrun : (scenario.run venue.traced symbol id).run.run ⟨state, []⟩ = _ :=
          run_of_unfunded hanswer hl hzero hexact
        refine ⟨_, _, runCounted_of_run ⟨_, tally⟩ hrun, rfl,
          (FailsBy.noLiquidity rfl hl hexact hzero).concludes ?_⟩
        rintro ⟨_, _, ⟨_, h, h'⟩, hover | hfunded, -⟩
        · simp [hexact] at hover
        · cases h
          cases hl.symm.trans h'
          exact hfunded hzero
      · have hfunded : scenario.overfund = true ∨ (liquidity.funding scenario.side).value ≠ 0 := by
          cases hover : scenario.overfund with
          | true => exact .inl rfl
          | false => exact .inr fun hzero => hearly ⟨hover, hzero⟩
        obtain ⟨fund, hfund⟩ : ∃ fund, (if scenario.overfund then
            (liquidity.funding scenario.side).add .one
            else .ok (liquidity.funding scenario.side)) = .ok fund := by
          cases hover : scenario.overfund with
          | true => exact hfits snapshot liquidity hanswer hl hover
          | false => exact ⟨_, rfl⟩
        have hsubmits : scenario.Submits (.ok snapshot) liquidity fund :=
          ⟨⟨snapshot, rfl, hl⟩, hfunded, hfund⟩
        have hrun : (scenario.run venue.traced symbol id).run.run ⟨state, []⟩ = _ :=
          run_of_submits (hanswer ▸ hsubmits)
        refine ⟨_, _, runCounted_of_run ⟨_, tally⟩ hrun, rfl, ?_⟩
        rw [calls_release]
        exact hsubmits.concludes _

/-- A venue of fixed answers with one ask of three at two, where every auction is turned down. -/
def refusing : Script := ⟨[.ok ⟨[⟨"2", "3"⟩], []⟩], [], [], [.error (.status 400 "")], []⟩

theorem runCounted_concludes_refusing :
    ∃ report session,
      (Scenario.runCounted Script.venue.traced "A" ⟨.buy, true⟩ ⟨0⟩).run.run
        ⟨⟨refusing, []⟩, .empty⟩ = (.ok report, session) ∧
      session.tally = Tally.empty.record report.verdict ∧
      Scenario.Concludes ⟨.buy, true⟩ "A" ⟨0⟩ (.ok ⟨[⟨"2", "3"⟩], []⟩)
        (fun _ => .error (.status 400 "")) session.venue.calls report := by
  refine runCounted_concludes Script.venue "A" ⟨.buy, true⟩ ⟨0⟩ refusing .empty ?_
  intro snapshot liquidity hanswer hl _
  obtain rfl : snapshot = ⟨[⟨"2", "3"⟩], []⟩ := by
    cases hanswer
    rfl
  obtain rfl : liquidity = ⟨.ofUInt32 6, .ofUInt32 3⟩ := by
    have heval : Liquidity.ofLevels [⟨"2", "3"⟩] = .ok ⟨.ofUInt32 6, .ofUInt32 3⟩ := by
      decide +kernel
    exact Except.ok.inj (hl.symm.trans heval)
  exact ⟨.ofUInt32 7, by decide +kernel⟩

end Scenario

end SweepAudit
