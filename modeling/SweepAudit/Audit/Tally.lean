import SweepAudit.Audit.Report

/-!
Counting verdicts. Every scenario that comes to a verdict is counted once under its
side, its funding and its verdict.
-/

namespace SweepAudit

structure Verdict where
  scenario : Scenario
  passed : Bool
  deriving DecidableEq

def Report.verdict (report : Report) : Verdict := ⟨report.scenario, report.passed⟩

/-- The counts of the verdicts that have occurred, in the order of their first occurrence. -/
structure Tally where
  counts : List (Verdict × Nat)
  deriving DecidableEq

namespace Tally

def empty : Tally := ⟨[]⟩

def count (tally : Tally) (verdict : Verdict) : Nat := (tally.counts.lookup verdict).getD 0

def increment (verdict : Verdict) : List (Verdict × Nat) → List (Verdict × Nat)
  | [] => [(verdict, 1)]
  | (v, n) :: counts =>
    if v = verdict then (v, n + 1) :: counts else (v, n) :: increment verdict counts

def record (tally : Tally) (verdict : Verdict) : Tally := ⟨increment verdict tally.counts⟩

def line (entry : Verdict × Nat) : String :=
  let (verdict, n) := entry
  let word := if verdict.passed then "passed" else "failed"
  String.join
    ["auction_harness_scenarios_total\x7bside=", verdict.scenario.side.auctionWord,
      ",overfund=", toString verdict.scenario.overfund, ",verdict=", word, "\x7d ", toString n]

def lines (tally : Tally) : List String := tally.counts.map line

theorem count_increment (verdict v : Verdict) (counts : List (Verdict × Nat)) :
    ((increment verdict counts).lookup v).getD 0 =
      (counts.lookup v).getD 0 + if v = verdict then 1 else 0 := by
  induction counts with
  | nil =>
    by_cases h : v = verdict
    · simp [increment, h]
    · simp [increment, List.lookup_cons, h, beq_eq_false_iff_ne.mpr h]
  | cons entry counts ih =>
    obtain ⟨w, n⟩ := entry
    by_cases hw : w = verdict
    · subst hw
      by_cases h : v = w
      · simp [increment, h]
      · simp [increment, List.lookup_cons, h, beq_eq_false_iff_ne.mpr h]
    · by_cases h : v = w
      · subst h
        simp [increment, hw]
      · simpa [increment, List.lookup_cons, hw, h, beq_eq_false_iff_ne.mpr h] using ih

/-- Recording a verdict adds one to its count and leaves every other as it is. -/
theorem count_record (tally : Tally) (verdict v : Verdict) :
    (tally.record verdict).count v = tally.count v + if v = verdict then 1 else 0 :=
  count_increment verdict v tally.counts

end Tally

end SweepAudit
