import SweepAudit.Proofs.Audit.Verdict
import SweepAudit.Proofs.Decimal.Equal
import SweepAudit.Proofs.Liquidity.Levels

/-!
Answers that name the same numbers in different texts. The totals of a side, the auctions that are
begun and the verdicts do not depend on how a venue writes its numbers. Texts that cannot be read
are compared as they are.
-/

namespace SweepAudit

open Text

variable {ε ε' α α' β β' σ : Type}

namespace Decimal

variable {o o' : Option Decimal} {text text' : String} {q : ℚ}

/-- The same text, or two texts of the same number. -/
def Alike (text text' : String) : Prop := text = text' ∨ ∃ q, Reads text q ∧ Reads text' q

theorem cases_of_map_value (h : o.map value = o'.map value) :
    o = none ∧ o' = none ∨ ∃ x x', o = some x ∧ o' = some x' ∧ x.value = x'.value := by
  cases o with
  | none =>
    cases o' with
    | none => exact .inl ⟨rfl, rfl⟩
    | some x' => cases h
  | some x =>
    cases o' with
    | none => cases h
    | some x' => exact .inr ⟨x, x', rfl, rfl, Option.some.inj h⟩

end Decimal

open Decimal

def Level.Alike (level level' : Level) : Prop :=
  Decimal.Alike level.price level'.price ∧ Decimal.Alike level.size level'.size

structure Snapshot.Alike (snapshot snapshot' : Snapshot) : Prop where
  asks : List.Forall₂ Level.Alike snapshot.asks snapshot'.asks
  bids : List.Forall₂ Level.Alike snapshot.bids snapshot'.bids

/-- The same fault at the same place, whatever text is there. -/
inductive LevelError.Alike : LevelError → LevelError → Prop
  | malformed (index : Nat) (field : LevelField) (text text' : String) :
      Alike (.malformed index field text) (.malformed index field text')
  | nonPositive (index : Nat) (field : LevelField) (text text' : String) :
      Alike (.nonPositive index field text) (.nonPositive index field text')
  | overflow (index : Nat) : Alike (.overflow index) (.overflow index)

namespace Liquidity

variable {text text' : String} {total total' : Liquidity} {level level' : Level}
  {levels levels' : List Level} {index : Nat} {field : LevelField}

theorem readPositive_alike (index : Nat) (field : LevelField) (h : Decimal.Alike text text') :
    Both LevelError.Alike (fun x x' => x.value = x'.value) (readPositive index field text)
      (readPositive index field text') := by
  rcases h with rfl | ⟨q, hreads, hreads'⟩
  · rw [readPositive]
    split
    · exact .error (.malformed ..)
    · split
      · exact .ok rfl
      · exact .error (.nonPositive ..)
  · obtain ⟨x, hx, hvalue⟩ := readNumber_of_reads hreads
    obtain ⟨x', hx', hvalue'⟩ := readNumber_of_reads hreads'
    have hpositive : x.IsPositive ↔ x'.IsPositive := by
      rw [isPositive_iff, isPositive_iff, hvalue, hvalue']
    rw [readPositive, readPositive, hx, hx']
    by_cases hpos : x.IsPositive
    · simp only [if_pos hpos, if_pos (hpositive.mp hpos)]
      exact .ok (hvalue.trans hvalue'.symm)
    · simp only [if_neg hpos, if_neg (fun h => hpos (hpositive.mpr h))]
      exact .error (.nonPositive ..)

/-- One level adds equal amounts to equal totals. -/
theorem addLevel_alike (index : Nat) (htotal : Same total total') (h : level.Alike level') :
    Both LevelError.Alike Same (addLevel index total level) (addLevel index total' level') := by
  rw [addLevel, addLevel]
  refine (readPositive_alike index .price h.1).bind fun price price' hprice => ?_
  refine (readPositive_alike index .size h.2).bind fun size size' hsize => ?_
  rcases cases_of_map_value (mul?_congr hprice hsize) with ⟨hmul, hmul'⟩ | ⟨n, n', hmul, hmul', hn⟩
  · simp only [hmul, hmul', bind, Option.bind]
    exact .error (.overflow index)
  rcases cases_of_map_value (add?_congr htotal.1 hn) with ⟨hadd, hadd'⟩ | ⟨q, q', hadd, hadd', hq⟩
  · simp only [hmul, hmul', hadd, hadd', bind, Option.bind]
    exact .error (.overflow index)
  rcases cases_of_map_value (add?_congr htotal.2 hsize) with
    ⟨hsum, hsum'⟩ | ⟨b, b', hsum, hsum', hb⟩
  · simp only [hmul, hmul', hadd, hadd', hsum, hsum', bind, Option.bind]
    exact .error (.overflow index)
  · simp only [hmul, hmul', hadd, hadd', hsum, hsum', bind, Option.bind]
    exact .ok ⟨hq, hb⟩

theorem addLevels_alike (index : Nat) (htotal : Same total total')
    (h : List.Forall₂ Level.Alike levels levels') :
    Both LevelError.Alike Same (addLevels index total levels)
      (addLevels index total' levels') := by
  induction h generalizing index total total' with
  | nil => exact .ok htotal
  | cons hlevel hlevels ih =>
    exact (addLevel_alike index htotal hlevel).bind fun _ _ hnext => ih (index + 1) hnext

theorem ofLevels_alike (h : List.Forall₂ Level.Alike levels levels') :
    Both LevelError.Alike Same (ofLevels levels) (ofLevels levels') :=
  addLevels_alike 0 ⟨rfl, rfl⟩ h

end Liquidity

/-! Verdicts -/

structure Settlement.Alike (settlement settlement' : Settlement) : Prop where
  auctionId : settlement.auctionId = settlement'.auctionId
  amountOut : Decimal.Alike settlement.amountOut settlement'.amountOut

/-- Two venues that do the same and differ in how they write their numbers only. -/
structure Venue.Alike (venue venue' : Venue σ) : Prop where
  depth : ∀ symbol state,
    Both Eq Snapshot.Alike ((venue.depth symbol).run state).1
        ((venue'.depth symbol).run state).1 ∧
      ((venue.depth symbol).run state).2 = ((venue'.depth symbol).run state).2
  beginAuction : ∀ request state,
    Both Eq Settlement.Alike ((venue.beginAuction request).run state).1
        ((venue'.beginAuction request).run state).1 ∧
      ((venue.beginAuction request).run state).2 = ((venue'.beginAuction request).run state).2
  abortAuction : ∀ id state,
    ((venue.abortAuction id).run state).2 = ((venue'.abortAuction id).run state).2

namespace Guarded

/-- From every state two computations come to related results, or to one overflow, and to one
state. -/
def Alike (R : α → α' → Prop) (x : Guarded σ α) (x' : Guarded σ α') : Prop :=
  ∀ state, Both Eq R (x.run.run state).1 (x'.run.run state).1 ∧
    (x.run.run state).2 = (x'.run.run state).2

variable {R : α → α' → Prop} {S : β → β' → Prop}

theorem alike_pure {a : α} {a' : α'} (h : R a a') :
    Alike R (pure a : Guarded σ α) (pure a') := fun _ => ⟨.ok h, rfl⟩

theorem alike_ofExcept {x : Except Overflow α} {x' : Except Overflow α'} (h : Both Eq R x x') :
    Alike R (Guarded.ofExcept x : Guarded σ α) (Guarded.ofExcept x') := fun _ => ⟨h, rfl⟩

theorem alike_lift {x : StateM σ α} {x' : StateM σ α'}
    (h : ∀ state, R (x.run state).1 (x'.run state).1 ∧ (x.run state).2 = (x'.run state).2) :
    Alike R (liftM x : Guarded σ α) (liftM x') := fun state => ⟨.ok (h state).1, (h state).2⟩

theorem alike_bind {x : Guarded σ α} {x' : Guarded σ α'} {next : α → Guarded σ β}
    {next' : α' → Guarded σ β'} (h : Alike R x x')
    (hnext : ∀ a a', R a a' → Alike S (next a) (next' a')) :
    Alike S (x >>= next) (x' >>= next') := by
  intro state
  obtain ⟨hboth, hstate⟩ := h state
  rw [ExceptT.run_bind, ExceptT.run_bind, StateT.run_bind, StateT.run_bind]
  generalize x.run.run state = result at hboth hstate ⊢
  generalize x'.run.run state = result' at hboth hstate ⊢
  obtain ⟨result, state⟩ := result
  obtain ⟨result', state'⟩ := result'
  obtain rfl : state = state' := hstate
  cases hboth with
  | ok h => exact hnext _ _ h state
  | error h => exact ⟨.error h, rfl⟩

end Guarded

open Guarded

theorem parse_alike {text text' : String} (h : Decimal.Alike text text') :
    Both (fun _ _ => True) (fun x x' => x.value = x'.value) (parse (trim text))
      (parse (trim text')) := by
  rcases h with rfl | ⟨q, ⟨htrim, x, hparse, hvalue⟩, htrim', x', hparse', hvalue'⟩
  · cases parse (trim text) with
    | error e => exact .error trivial
    | ok x => exact .ok rfl
  · rw [htrim, htrim', hparse, hparse']
    exact .ok (hvalue.trans hvalue'.symm)

theorem Report.verdict_pass (report : Report) :
    report.pass.verdict = ⟨report.scenario, true⟩ := rfl

theorem Report.verdict_fail (report : Report) (failure : Failure) :
    (report.fail failure).verdict = ⟨report.scenario, false⟩ := rfl

namespace Scenario

variable {venue venue' : Venue σ} {symbol : String} {id : Uuid} {scenario : Scenario}
  {report report' : Report} {expected expected' : Decimal}

theorem judgeAmount_alike {text text' : String} (hscenario : report.scenario = report'.scenario)
    (hexpected : expected.value = expected'.value) (h : Decimal.Alike text text') :
    (judgeAmount report expected text).verdict = (judgeAmount report' expected' text').verdict := by
  have hparse := parse_alike h
  rw [judgeAmount, judgeAmount]
  generalize parse (trim text) = amount at hparse ⊢
  generalize parse (trim text') = amount' at hparse ⊢
  cases hparse with
  | error _ => simp only [Report.verdict_fail, hscenario]
  | @ok actual actual' hactual =>
    have hsame : actual.Same expected ↔ actual'.Same expected' := by
      rw [same_iff, same_iff, hactual, hexpected]
    simp only [hsame]
    split
    · simp only [Report.verdict_pass, hscenario]
    · simp only [Report.verdict_fail, hscenario]

theorem judge_alike {outcome outcome' : CallResult Settlement}
    (hscenario : report.scenario = report'.scenario) (hexpected : expected.value = expected'.value)
    (h : Both Eq Settlement.Alike outcome outcome') :
    (scenario.judge report expected outcome).verdict =
      (scenario.judge report' expected' outcome').verdict := by
  cases h with
  | @error e e' he =>
    subst he
    simp only [judge]
    split
    · split
      · simp only [Report.verdict_pass, hscenario]
      · simp only [Report.verdict_fail, hscenario]
    · simp only [Report.verdict_fail, hscenario]
  | ok h =>
    simp only [judge]
    split
    · simp only [Report.verdict_fail, hscenario]
    · exact judgeAmount_alike hscenario hexpected h.amountOut

theorem release_alike (h : venue.Alike venue') (request : AuctionRequest)
    {outcome outcome' : CallResult Settlement}
    (houtcome : Both Eq Settlement.Alike outcome outcome') (state : σ) :
    ((release venue request outcome).run state).2 =
      ((release venue' request outcome').run state).2 := by
  cases houtcome with
  | error _ => rfl
  | @ok settlement settlement' hsettlement =>
    have habort := h.abortAuction (settlement.auctionId.getD request.auctionId.text) state
    rw [release, release, ← hsettlement.auctionId]
    exact habort

theorem submit_alike (h : venue.Alike venue')
    (hscenario : report.scenario = report'.scenario)
    (hexpected : expected.value = expected'.value) (request : AuctionRequest) (state : σ) :
    ((submit venue scenario report expected request).run state).1.verdict =
        ((submit venue' scenario report' expected' request).run state).1.verdict ∧
      ((submit venue scenario report expected request).run state).2 =
        ((submit venue' scenario report' expected' request).run state).2 := by
  obtain ⟨hbegun, hstate⟩ := h.beginAuction request state
  refine ⟨judge_alike hscenario hexpected hbegun, ?_⟩
  change ((release venue request ((venue.beginAuction request).run state).1).run
      ((venue.beginAuction request).run state).2).2 =
    ((release venue' request ((venue'.beginAuction request).run state).1).run
      ((venue'.beginAuction request).run state).2).2
  rw [← hstate]
  exact release_alike h request hbegun _

theorem funding_same {total total' : Liquidity} (h : Liquidity.Same total total') (side : Side) :
    (total.funding side).value = (total'.funding side).value ∧
      (total.proceeds side).value = (total'.proceeds side).value := by
  cases side
  · exact h
  · exact h.symm

theorem fund_alike {total total' : Liquidity} (h : Liquidity.Same total total') :
    Both Eq (fun fund fund' => fund.value = fund'.value) (scenario.fund total)
      (scenario.fund total') := by
  have hfunding := (funding_same h scenario.side).1
  rw [fund, fund]
  split
  · rw [add, add]
    rcases cases_of_map_value (add?_congr hfunding (rfl : Decimal.one.value = _)) with
      ⟨hadd, hadd'⟩ | ⟨fund, fund', hadd, hadd', hfund⟩
    · rw [hadd, hadd']
      exact .error rfl
    · rw [hadd, hadd']
      exact .ok hfund
  · exact .ok hfunding

theorem run_alike (h : venue.Alike venue') (symbol : String) (scenario : Scenario) (id : Uuid) :
    Alike (fun report report' => report.verdict = report'.verdict)
      (scenario.run venue symbol id) (scenario.run venue' symbol id) := by
  rw [run, run]
  refine alike_bind (alike_lift (h.depth symbol)) fun answer answer' hanswer => ?_
  cases hanswer with
  | error _ => exact alike_pure rfl
  | @ok snapshot snapshot' hsnapshot =>
    have htotals : Both LevelError.Alike Liquidity.Same
        (Liquidity.ofLevels (snapshot.liquidityFor scenario.side))
        (Liquidity.ofLevels (snapshot'.liquidityFor scenario.side)) := by
      cases scenario.side
      · exact Liquidity.ofLevels_alike hsnapshot.asks
      · exact Liquidity.ofLevels_alike hsnapshot.bids
    dsimp only
    generalize Liquidity.ofLevels (snapshot.liquidityFor scenario.side) = totals at htotals ⊢
    generalize Liquidity.ofLevels (snapshot'.liquidityFor scenario.side) = totals' at htotals ⊢
    cases htotals with
    | error _ => exact alike_pure rfl
    | @ok total total' htotal =>
      obtain ⟨hfunding, hproceeds⟩ := funding_same htotal scenario.side
      simp only [isZero_congr hfunding]
      split
      · exact alike_pure rfl
      · refine alike_bind (alike_ofExcept (fund_alike htotal)) fun fund fund' hfund => ?_
        have hrequest : AuctionRequest.ofAmount id symbol scenario.side fund =
            .ofAmount id symbol scenario.side fund' := by
          rw [AuctionRequest.ofAmount, AuctionRequest.ofAmount, canonical_congr hfund]
        rw [hrequest]
        refine alike_lift (submit_alike h ?_ hproceeds _)
        rfl

theorem runCounted_alike (h : venue.Alike venue') (symbol : String) (scenario : Scenario)
    (id : Uuid) :
    Alike (fun report report' => report.verdict = report'.verdict)
      (scenario.runCounted venue symbol id) (scenario.runCounted venue' symbol id) := by
  intro session
  obtain ⟨hboth, hstate⟩ := run_alike h symbol scenario id session.venue
  change Both Eq _ (scenario.runCounted venue symbol id session).1
      (scenario.runCounted venue' symbol id session).1 ∧
    (scenario.runCounted venue symbol id session).2 =
      (scenario.runCounted venue' symbol id session).2
  rw [runCounted, runCounted]
  generalize (scenario.run venue symbol id).run.run session.venue = result at hboth hstate ⊢
  generalize (scenario.run venue' symbol id).run.run session.venue = result' at hboth hstate ⊢
  obtain ⟨result, state⟩ := result
  obtain ⟨result', state'⟩ := result'
  obtain rfl : state = state' := hstate
  cases hboth with
  | ok hreport =>
    exact ⟨.ok hreport, congrArg (fun v => (⟨state, session.tally.record v⟩ : Session σ)) hreport⟩
  | error hcause => exact ⟨.error hcause, rfl⟩

end Scenario

namespace Audit

variable {venue venue' : Venue σ}

/-- Audits of the same scenarios come to the same verdicts. -/
theorem runAll_alike (h : venue.Alike venue') (symbol : String) (idFor : Scenario → Uuid)
    (scenarios : List Scenario) :
    Alike (fun reports reports' => reports.map Report.verdict = reports'.map Report.verdict)
      (runAll venue symbol idFor scenarios) (runAll venue' symbol idFor scenarios) := by
  induction scenarios with
  | nil => exact alike_pure rfl
  | cons scenario scenarios ih =>
    rw [runAll, runAll]
    refine alike_bind (Scenario.runCounted_alike h symbol scenario _)
      fun report report' hreport => ?_
    have hpassed : report.passed = report'.passed := congrArg Verdict.passed hreport
    rw [hpassed]
    split
    · refine alike_bind ih fun reports reports' hreports => alike_pure ?_
      rw [List.map_cons, List.map_cons, hreport, hreports]
    · exact alike_pure (by rw [List.map_cons, List.map_cons, hreport])

theorem run_alike (h : venue.Alike venue') (symbol : String) (idFor : Scenario → Uuid) :
    Alike (fun audit audit' => audit.reports.map Report.verdict = audit'.reports.map Report.verdict)
      (run venue symbol idFor) (run venue' symbol idFor) :=
  alike_bind (runAll_alike h symbol idFor Scenario.all) fun _ _ hreports => alike_pure hreports

end Audit

end SweepAudit
