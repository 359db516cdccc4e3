import SweepAudit.Proofs.Audit.Verdict

/-!
An audit as a whole, at any venue and however that answers. Scenarios are run one after another,
each at the venue's state that the one before has left, up to the first that fails. So reports,
calls and counts stay in step. What a venue is asked can be watched without changing what it
answers, and the calls of an audit are those of its scenarios by themselves, joined.
-/

namespace SweepAudit

variable {σ τ α β : Type} {f : σ → τ}

/-- The same session at a venue whose state is seen through `f`. -/
def Session.map (f : σ → τ) (session : Session σ) : Session τ := ⟨f session.venue, session.tally⟩

/-- A session whose venue is watched from here on. -/
def Session.watched (session : Session σ) : Session (Traced σ) :=
  ⟨⟨session.venue, []⟩, session.tally⟩

def Traced.after (earlier : List Call) (traced : Traced σ) : Traced σ :=
  ⟨traced.state, earlier ++ traced.calls⟩

/-- A result, with the state that comes with it seen through `f`. -/
def through (f : σ → τ) (result : α × σ) : α × τ := (result.1, f result.2)

/-! Two venues, or one from two states -/

namespace Guarded

/-- The second computation comes to what the first does, on states that are seen through `f`. -/
def Maps (f : σ → τ) (x : Guarded σ α) (y : Guarded τ α) : Prop :=
  ∀ state, y.run.run (f state) = through f (x.run.run state)

theorem maps_pure (a : α) : Maps f (pure a : Guarded σ α) (pure a) := fun _ => rfl

theorem maps_ofExcept (result : Except Overflow α) :
    Maps f (Guarded.ofExcept result : Guarded σ α) (Guarded.ofExcept result) := fun _ => rfl

theorem maps_lift {x : StateM σ α} {y : StateM τ α}
    (h : ∀ state, y.run (f state) = through f (x.run state)) :
    Maps f (liftM x : Guarded σ α) (liftM y) := by
  intro state
  rw [run_lift, run_lift, h]
  rfl

theorem maps_bind {x : Guarded σ α} {y : Guarded τ α} {next : α → Guarded σ β}
    {next' : α → Guarded τ β} (hxy : Maps f x y) (hnext : ∀ a, Maps f (next a) (next' a)) :
    Maps f (x >>= next) (y >>= next') := by
  intro state
  rw [ExceptT.run_bind, ExceptT.run_bind, StateT.run_bind, StateT.run_bind, hxy]
  rcases x.run.run state with ⟨o | a, state'⟩
  · rfl
  · exact hnext a state'

theorem run_bind_error {x : Guarded σ α} {next : α → Guarded σ β} {state state' : σ}
    {cause : Overflow} (h : x.run.run state = (.error cause, state')) :
    (x >>= next).run.run state = (.error cause, state') := by
  rw [ExceptT.run_bind, StateT.run_bind, h]
  rfl

end Guarded

open Guarded

/-- A venue answers an audit as another does, whose state is seen through `f`. -/
structure Venue.Follows (f : σ → τ) (venue : Venue σ) (venue' : Venue τ) : Prop where
  depth : ∀ symbol state,
    (venue'.depth symbol).run (f state) = through f ((venue.depth symbol).run state)
  beginAuction : ∀ request state,
    (venue'.beginAuction request).run (f state) =
      through f ((venue.beginAuction request).run state)
  abortAuction : ∀ id state,
    (venue'.abortAuction id).run (f state) = through f ((venue.abortAuction id).run state)

theorem Venue.follows_traced (venue : Venue σ) : Venue.Follows Traced.state venue.traced venue :=
  ⟨fun _ _ => rfl, fun _ _ => rfl, fun _ _ => rfl⟩

theorem Venue.follows_after (venue : Venue σ) (earlier : List Call) :
    Venue.Follows (Traced.after earlier) venue.traced venue.traced := by
  have hnoting {α : Type} (call : Call) (answer : StateM σ α) (traced : Traced σ) :
      (noting call answer).run (traced.after earlier) =
        through (Traced.after earlier) ((noting call answer).run traced) := by
    rcases hanswer : answer traced.state with ⟨a, state⟩
    simp only [StateT.run, noting, Traced.after, through, hanswer, List.append_assoc]
  exact ⟨fun _ _ => hnoting .., fun _ _ => hnoting .., fun _ _ => hnoting ..⟩

variable {venue : Venue σ} {venue' : Venue τ} {symbol : String} {id : Uuid}
  {idFor : Scenario → Uuid}

namespace Scenario

theorem release_follows (h : Venue.Follows f venue venue') (request : AuctionRequest)
    (outcome : CallResult Settlement) (state : σ) :
    (release venue' request outcome).run (f state) =
      through f ((release venue request outcome).run state) := by
  cases outcome with
  | error e => rfl
  | ok settlement =>
    have habort := h.abortAuction (settlement.auctionId.getD request.auctionId.text) state
    exact congrArg (fun answer : CallResult Unit × τ => ((), answer.2)) habort

theorem maps_run (h : Venue.Follows f venue venue') (scenario : Scenario) :
    Maps f (scenario.run venue symbol id) (scenario.run venue' symbol id) := by
  rw [run, run]
  refine maps_bind (maps_lift (h.depth symbol)) fun answer => ?_
  split
  · exact maps_pure _
  · split
    · exact maps_pure _
    · split
      · exact maps_pure _
      · refine maps_bind (maps_ofExcept _) fun fund => maps_lift fun state => ?_
        rw [submit, submit, StateT.run_bind, StateT.run_bind, h.beginAuction]
        exact congrArg (fun released : Unit × τ => (_, released.2)) (release_follows h ..)

theorem maps_runCounted (h : Venue.Follows f venue venue') (scenario : Scenario) :
    Maps (Session.map f) (scenario.runCounted venue symbol id)
      (scenario.runCounted venue' symbol id) := by
  intro session
  have hrun := @maps_run σ τ f venue venue' symbol id h scenario session.venue
  change scenario.runCounted venue' symbol id (session.map f) =
    through _ (scenario.runCounted venue symbol id session)
  rw [runCounted, runCounted, Session.map, hrun]
  rcases (scenario.run venue symbol id).run.run session.venue with ⟨o | report, state⟩ <;> rfl

end Scenario

namespace Audit

theorem maps_runAll (h : Venue.Follows f venue venue') (scenarios : List Scenario) :
    Maps (Session.map f) (runAll venue symbol idFor scenarios)
      (runAll venue' symbol idFor scenarios) := by
  induction scenarios with
  | nil => exact maps_pure _
  | cons scenario scenarios ih =>
    rw [runAll, runAll]
    refine maps_bind (Scenario.maps_runCounted h scenario) fun report => ?_
    split
    · exact maps_bind ih fun _ => maps_pure _
    · exact maps_pure _

theorem maps_run (h : Venue.Follows f venue venue') :
    Maps (Session.map f) (run venue symbol idFor) (run venue' symbol idFor) :=
  maps_bind (maps_runAll h _) fun _ => maps_pure _

end Audit

/-! One scenario -/

namespace Scenario

/-- One more than the funding of an overfunded scenario cannot be written. -/
def Overflows (scenario : Scenario) (answer : CallResult Snapshot) (cause : Overflow) : Prop :=
  scenario.overfund = true ∧ ∃ snapshot liquidity, answer = .ok snapshot ∧
    Liquidity.ofLevels (snapshot.liquidityFor scenario.side) = .ok liquidity ∧
    (liquidity.funding scenario.side).add .one = .error cause

/-- A scenario has a report of its own, unless it overflows when the depth has been read. -/
theorem run_ends (venue : Venue σ) (symbol : String) (scenario : Scenario) (id : Uuid) (state : σ) :
    (∃ report state', (scenario.run venue symbol id).run.run state = (.ok report, state') ∧
      report.scenario = scenario) ∨
    ∃ cause, scenario.Overflows ((venue.depth symbol).run state).1 cause ∧
      (scenario.run venue symbol id).run.run state =
        (.error cause, ((venue.depth symbol).run state).2) := by
  rw [run]
  rw [Guarded.run_lift_bind]
  cases ((venue.depth symbol).run state).1 with
  | error e => exact .inl ⟨_, _, rfl, rfl⟩
  | ok snapshot =>
    simp only
    cases hl : Liquidity.ofLevels (snapshot.liquidityFor scenario.side) with
    | error e => exact .inl ⟨_, _, rfl, rfl⟩
    | ok liquidity =>
      simp only
      split
      · exact .inl ⟨_, _, rfl, rfl⟩
      · cases hfund : scenario.fund liquidity with
        | error cause =>
          refine .inr ⟨cause, ?_, rfl⟩
          cases hover : scenario.overfund with
          | false =>
            rw [fund, hover] at hfund
            cases hfund
          | true =>
            rw [fund, hover] at hfund
            exact ⟨hover, snapshot, liquidity, rfl, hl, hfund⟩
        | ok fund => exact .inl ⟨_, _, rfl, (judge_submitted ..).1⟩

theorem runCounted_ends (venue : Venue σ) (symbol : String) (scenario : Scenario) (id : Uuid)
    (session : Session σ) :
    (∃ report state, (scenario.runCounted venue symbol id).run.run session =
        (.ok report, ⟨state, session.tally.record report.verdict⟩) ∧
      report.scenario = scenario) ∨
    ∃ cause, scenario.Overflows ((venue.depth symbol).run session.venue).1 cause ∧
      (scenario.runCounted venue symbol id).run.run session =
        (.error cause, ⟨((venue.depth symbol).run session.venue).2, session.tally⟩) := by
  rcases run_ends venue symbol scenario id session.venue with
    ⟨report, state, hrun, hown⟩ | ⟨cause, hover, hrun⟩
  · exact .inl ⟨report, state, runCounted_of_run session hrun, hown⟩
  · refine .inr ⟨cause, hover, ?_⟩
    change scenario.runCounted venue symbol id session = _
    rw [runCounted]
    rw [hrun]

end Scenario

/-! Many scenarios -/

/-- Scenarios run one after another, each at the state that the one before has left, with the
calls that each makes by itself. -/
inductive Ran (venue : Venue σ) (symbol : String) (idFor : Scenario → Uuid) :
    Session σ → List (Report × List Call) → Session σ → Prop
  | none (session) : Ran venue symbol idFor session [] session
  | next {session : Session σ} {report : Report} {finish : Session (Traced σ)}
      {records : List (Report × List Call)} {last : Session σ}
      (run : (report.scenario.runCounted venue.traced symbol (idFor report.scenario)).run.run
        session.watched = (.ok report, finish))
      (rest : Ran venue symbol idFor (finish.map Traced.state) records last) :
      Ran venue symbol idFor session ((report, finish.venue.calls) :: records) last

section

variable (venue : Venue σ) (symbol : String) (idFor : Scenario → Uuid) (scenarios : List Scenario)
  (session : Session σ) (finish : Session (Traced σ))

/-- What is left by scenarios that are run up to the first that does not pass. -/
structure Stops (reports : List Report) : Prop where
  ran : ∃ records, Ran venue symbol idFor session records (finish.map Traced.state) ∧
    reports = records.map Prod.fst ∧ finish.venue.calls = records.flatMap Prod.snd
  in_order : reports.map (·.scenario) <+: scenarios
  passed_before : ∀ report ∈ reports.dropLast, report.passed = true
  failed_early : reports.length < scenarios.length →
    ∃ report, reports.getLast? = some report ∧ report.passed = false

/-- What is left by scenarios that an overflow has ended, after so many that have passed. -/
def Overflows (cause : Overflow) : Prop :=
  ∃ records scenario reached, Ran venue symbol idFor session records reached ∧
    (∀ record ∈ records, record.1.passed = true) ∧
    records.map (·.1.scenario) ++ [scenario] <+: scenarios ∧
    scenario.Overflows ((venue.depth symbol).run reached.venue).1 cause ∧
    finish.venue.calls = records.flatMap Prod.snd ++ [.depth symbol] ∧
    finish.tally = reached.tally

/-- What is left by an audit. -/
structure Audit.Completes (audit : AuditReport) : Prop
    extends Stops venue symbol idFor Scenario.all session finish audit.reports where
  nonempty : audit.reports ≠ []
  passed_iff : audit.passed = true ↔
    audit.reports.map (·.scenario) = Scenario.all ∧ ∀ report ∈ audit.reports, report.passed = true
  counted : ∀ verdict, finish.tally.count verdict =
    session.tally.count verdict + (audit.reports.map (·.verdict)).count verdict

end

variable {session : Session σ} {next finish : Session (Traced σ)} {report : Report}
  {reports : List Report} {scenarios : List Scenario} {cause : Overflow}

theorem Stops.nil (session : Session σ) :
    Stops venue symbol idFor [] session session.watched [] where
  ran := ⟨[], .none _, rfl, rfl⟩
  in_order := List.nil_prefix
  passed_before := by simp
  failed_early := by simp

theorem Stops.failed
    (hrun : (report.scenario.runCounted venue.traced symbol (idFor report.scenario)).run.run
      session.watched = (.ok report, next)) (hfailed : report.passed = false) :
    Stops venue symbol idFor (report.scenario :: scenarios) session next [report] where
  ran := ⟨[(report, next.venue.calls)], .next hrun (.none _), rfl, by simp⟩
  in_order := by simp
  passed_before := by simp
  failed_early := fun _ => ⟨report, rfl, hfailed⟩

theorem Stops.passed
    (hrun : (report.scenario.runCounted venue.traced symbol (idFor report.scenario)).run.run
      session.watched = (.ok report, next)) (hpassed : report.passed = true)
    (hrest : Stops venue symbol idFor scenarios (next.map Traced.state) finish reports) :
    Stops venue symbol idFor (report.scenario :: scenarios) session
      (finish.map (Traced.after next.venue.calls)) (report :: reports) where
  ran := by
    obtain ⟨records, hran, hreports, hcalls⟩ := hrest.ran
    refine ⟨(report, next.venue.calls) :: records, .next hrun hran, by rw [hreports]; rfl, ?_⟩
    rw [List.flatMap_cons, ← hcalls]
    rfl
  in_order := by simpa using hrest.in_order
  passed_before := by
    cases hreports : reports with
    | nil => simp
    | cons first others =>
      rw [List.dropLast_cons_cons, ← hreports]
      exact List.forall_mem_cons.mpr ⟨hpassed, hrest.passed_before⟩
  failed_early := by
    intro hfewer
    obtain ⟨last, hlast, hfailed⟩ := hrest.failed_early (by simpa using hfewer)
    refine ⟨last, ?_, hfailed⟩
    rw [List.getLast?_cons, hlast]
    rfl

theorem Overflows.passed
    (hrun : (report.scenario.runCounted venue.traced symbol (idFor report.scenario)).run.run
      session.watched = (.ok report, next)) (hpassed : report.passed = true)
    (hrest : Overflows venue symbol idFor scenarios (next.map Traced.state) finish cause) :
    Overflows venue symbol idFor (report.scenario :: scenarios) session
      (finish.map (Traced.after next.venue.calls)) cause := by
  obtain ⟨records, scenario, reached, hran, hall, horder, hover, hcalls, htally⟩ := hrest
  refine ⟨(report, next.venue.calls) :: records, scenario, reached, .next hrun hran,
    List.forall_mem_cons.mpr ⟨hpassed, hall⟩, by simpa using horder, hover, ?_, htally⟩
  rw [List.flatMap_cons, List.append_assoc, ← hcalls]
  rfl

theorem Scenario.tally_runCounted {session : Session σ} {last : Session σ} {scenario : Scenario}
    (hrun : (scenario.runCounted venue symbol id).run.run session = (.ok report, last)) :
    last.tally = session.tally.record report.verdict := by
  rcases runCounted_ends venue symbol scenario id session with ⟨_, _, hends, -⟩ | ⟨_, -, hends⟩
  · rw [hrun] at hends
    cases hends
    rfl
  · rw [hrun] at hends
    cases hends

/-- Every scenario that has been run is counted once. -/
theorem Ran.count {last : Session σ} {records : List (Report × List Call)}
    (h : Ran venue symbol idFor session records last) (verdict : Verdict) :
    last.tally.count verdict = session.tally.count verdict +
      ((records.map Prod.fst).map (·.verdict)).count verdict := by
  induction h with
  | none => rfl
  | next run rest ih =>
    have htally := Scenario.tally_runCounted run
    rw [Session.map, htally, Tally.count_record] at ih
    rw [ih, List.map_cons, List.map_cons, List.count_cons, Session.watched]
    simp only [beq_iff_eq, eq_comm (a := verdict)]
    omega

/-- An audit has passed if it has come to its last scenario, and that has passed. -/
theorem Stops.completes (h : Stops venue symbol idFor Scenario.all session finish reports) :
    Audit.Completes venue symbol idFor session finish ⟨reports⟩ where
  toStops := h
  nonempty := by
    rintro rfl
    obtain ⟨last, hlast, -⟩ := h.failed_early (by decide)
    cases hlast
  passed_iff := by
    rw [AuditReport.passed, Bool.and_eq_true, beq_iff_eq, List.all_eq_true]
    refine and_congr_left fun _ => ⟨fun hlength => ?_, fun hall => ?_⟩
    · exact h.in_order.eq_of_length (by rw [List.length_map, hlength])
    · rw [← hall, List.length_map]
  counted := by
    obtain ⟨records, hran, rfl, -⟩ := h.ran
    exact hran.count

namespace Audit

/-- Scenarios that are run at a venue watched before make the calls that they make by themselves. -/
theorem runAll_after (venue : Venue σ) (scenarios : List Scenario) (session : Session (Traced σ)) :
    (runAll venue.traced symbol idFor scenarios).run.run session =
      through (Session.map (Traced.after session.venue.calls))
        ((runAll venue.traced symbol idFor scenarios).run.run
          (session.map Traced.state).watched) := by
  have hsession : session = Session.map (Traced.after session.venue.calls)
      (session.map Traced.state).watched := by
    simp [Session.map, Session.watched, Traced.after]
  have hruns := @maps_runAll _ _ _ _ _ symbol idFor (venue.follows_after session.venue.calls)
    scenarios (session.map Traced.state).watched
  rwa [← hsession] at hruns

theorem runAll_ends (venue : Venue σ) (symbol : String) (idFor : Scenario → Uuid)
    (scenarios : List Scenario) (session : Session σ) :
    match (runAll venue.traced symbol idFor scenarios).run.run session.watched with
    | (.ok reports, finish) => Stops venue symbol idFor scenarios session finish reports
    | (.error cause, finish) =>
      Overflows venue symbol idFor scenarios session finish cause := by
  induction scenarios generalizing session with
  | nil => exact .nil session
  | cons scenario scenarios ih =>
    rcases Scenario.runCounted_ends venue.traced symbol scenario (idFor scenario)
      session.watched with ⟨report, state, hrun, rfl⟩ | ⟨cause, hover, hrun⟩
    · rw [runAll, run_bind_ok hrun]
      cases hpassed : report.passed with
      | false => exact .failed hrun hpassed
      | true =>
        rw [if_pos rfl, ExceptT.run_bind, StateT.run_bind, runAll_after]
        have hrest := ih (Session.map Traced.state
          ⟨state, session.watched.tally.record report.verdict⟩)
        revert hrest
        rcases (runAll venue.traced symbol idFor scenarios).run.run _ with ⟨cause | reports, finish⟩
        · exact .passed hrun hpassed
        · exact .passed hrun hpassed
    · rw [runAll, run_bind_error hrun]
      exact ⟨[], scenario, session, .none _, by simp, List.prefix_append [scenario] _, hover,
        rfl, rfl⟩

/-- Whatever the venue answers. An audit that is ended by an overflow has come to an overfunded
scenario whose funding cannot be written, and to none that failed. -/
theorem run_completes (venue : Venue σ) (symbol : String) (idFor : Scenario → Uuid)
    (session : Session σ) :
    (match (run venue.traced symbol idFor).run.run session.watched with
      | (.ok audit, finish) => Completes venue symbol idFor session finish audit
      | (.error cause, finish) =>
        Overflows venue symbol idFor Scenario.all session finish cause) ∧
    (run venue symbol idFor).run.run session = through (Session.map Traced.state)
      ((run venue.traced symbol idFor).run.run session.watched) := by
  refine ⟨?_, maps_run venue.follows_traced session.watched⟩
  have hends := runAll_ends venue symbol idFor Scenario.all session
  rw [run, ExceptT.run_bind, StateT.run_bind]
  revert hends
  rcases (runAll venue.traced symbol idFor Scenario.all).run.run session.watched with
    ⟨cause | reports, finish⟩
  · exact fun h => h
  · exact Stops.completes

end Audit

end SweepAudit
