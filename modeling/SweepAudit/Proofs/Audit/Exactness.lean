import SweepAudit.Proofs.Audit.Verdict
import SweepAudit.Proofs.Decimal.Exponent
import SweepAudit.Proofs.Liquidity.Levels

/-!
How exact a verdict is. A scenario compares what an auction pays with what the levels of the
depth come to, and as long as decimals hold all that is read and added up, these are the numbers
that the texts write. Where they do not, both sides of the comparison are rounded numbers, and a
scenario can pass on an amount that is not the sum.
-/

namespace SweepAudit

open Decimal

variable {side : Side} {level : Level} {levels : List Level}

/-- What a level brings in when it is swept, by the numbers that its texts write. -/
def Level.paid (side : Side) (level : Level) : ℚ :=
  side.yield (written level.price).value (written level.size).value

/-- Decimals hold what has to be read of a level, and what it brings in. -/
def Level.Fits (side : Side) (level : Level) : Prop :=
  (written level.size).Fits ∧
    match side with
    | .buy => True
    | .sell => (written level.price).Fits ∧ Representable (level.paid .sell)

/-- From here on, decimals hold each level and the sum up to it. -/
def AddsExactly (side : Side) (total : ℚ) : List Level → Prop
  | [] => True
  | level :: levels =>
    level.Fits side ∧ Representable (total + level.paid side) ∧
      AddsExactly side (total + level.paid side) levels

namespace Liquidity

variable {total total' : Liquidity} {index : Nat} {text : String} {x : Decimal}

theorem readNumber_exact (h : readNumber text = some x) (fits : (written text).Fits) :
    x.value = (written text).value := by
  rw [readNumber] at h
  split at h
  · rename_i y hparse
    cases h
    exact parse_exact hparse fits
  · cases hstrict : parseStrict (Text.trim text) with
    | error e =>
      rw [hstrict] at h
      cases h
    | ok y =>
      rw [hstrict] at h
      cases h
      exact parseScientific_exact hstrict fits

theorem addLevel_paid (h : addLevel index total level = .ok total') (fits : level.Fits side)
    (hsum : Representable ((total.proceeds side).value + level.paid side)) :
    (total'.proceeds side).value = (total.proceeds side).value + level.paid side := by
  obtain ⟨amounts, ⟨⟨price, size⟩, hoffers, hmul, hsize⟩, hquote, hbase⟩ :=
    addLevel_eq_ok_iff.mp h
  rw [hsize] at hbase
  obtain ⟨hsizefits, hproduct⟩ := fits
  have hsizev := readNumber_exact hoffers.size hsizefits
  cases side with
  | buy =>
    have hpaid : level.paid .buy = size.value := hsizev.symm
    rw [hpaid] at hsum ⊢
    exact add_exact hbase hsum
  | sell =>
    obtain ⟨hpricefits, hproduct⟩ := hproduct
    have hpaid : level.paid .sell = price.value * size.value := by
      rw [readNumber_exact hoffers.price hpricefits, hsizev]
      rfl
    have hrounded := mul?_rounded price size
    rw [hmul] at hrounded
    have hnotional := hrounded.eq (hpaid ▸ hproduct)
    rw [hpaid, ← hnotional] at hsum ⊢
    exact add_exact hquote hsum

/-- The total over some levels is the sum of what they bring in. -/
theorem addLevels_paid (h : addLevels index total levels = .ok total')
    (exact : AddsExactly side (total.proceeds side).value levels) :
    (total'.proceeds side).value =
      (total.proceeds side).value + (levels.map (·.paid side)).sum := by
  induction levels generalizing index total with
  | nil =>
    cases h
    simp
  | cons level levels ih =>
    rw [addLevels] at h
    obtain ⟨next, hadd, h⟩ := bind_eq_ok h
    obtain ⟨fits, hsum, hrest⟩ := exact
    have hnext := addLevel_paid hadd fits hsum
    rw [← hnext] at hrest
    rw [ih h hrest, hnext, List.map_cons, List.sum_cons, add_assoc]

end Liquidity

namespace Scenario

variable {σ : Type} {venue : Venue σ} {symbol : String} {id : Uuid} {state : σ} {report : Report}

/-- A scenario without overfunding passes on an answer to its auction. -/
theorem accepts_of_passed
    (hrun : ((Scenario.run venue symbol ⟨side, false⟩ id).run.run state).1 = .ok report)
    (passed : report.passed = true) :
    ∃ snapshot liquidity, ((venue.depth symbol).run state).1 = .ok snapshot ∧
      Liquidity.ofLevels (snapshot.liquidityFor side) = .ok liquidity ∧
      Accepts ⟨side, false⟩ (liquidity.proceeds side)
        ((venue.beginAuction (.ofAmount id symbol side (liquidity.funding side))).run
          ((venue.depth symbol).run state).2).1 := by
  rcases run_cases venue symbol ⟨side, false⟩ id state with
    ⟨failure, hended, -⟩ | ⟨cause, hended⟩ | ⟨liquidity, fund, hsubmits, hended⟩
  · cases hrun.symm.trans hended
    cases passed
  · cases hrun.symm.trans hended
  · cases hrun.symm.trans hended
    obtain ⟨snapshot, hanswer, hl⟩ := hsubmits.adds_up
    obtain rfl : liquidity.funding side = fund := Except.ok.inj hsubmits.fund_eq
    exact ⟨snapshot, liquidity, hanswer, hl, (judge_passed liquidity _ _).mp passed⟩

/-- If a scenario without overfunding passes, then the amount that the auction pays is, as its text
writes it, the sum over the swept levels as their texts write them, provided that decimals hold
the amount, what is read of each level, what each level brings in, and the sum up to each level. -/
theorem passed_exact
    (hrun : ((Scenario.run venue symbol ⟨side, false⟩ id).run.run state).1 = .ok report)
    (passed : report.passed = true) :
    ∃ snapshot fund settlement, ((venue.depth symbol).run state).1 = .ok snapshot ∧
      ((venue.beginAuction (.ofAmount id symbol side fund)).run
        ((venue.depth symbol).run state).2).1 = .ok settlement ∧
      ((written settlement.amountOut).Fits → AddsExactly side 0 (snapshot.liquidityFor side) →
        (written settlement.amountOut).value =
          ((snapshot.liquidityFor side).map (·.paid side)).sum) := by
  obtain ⟨snapshot, liquidity, hanswer, hl, settlement, actual, hsettled, hparse, hequal⟩ :=
    accepts_of_passed hrun passed
  refine ⟨snapshot, liquidity.funding side, settlement, hanswer, hsettled, fun fits exact => ?_⟩
  have hzero : (Liquidity.none.proceeds side).value = 0 := by cases side <;> exact value_zero
  have hsum := Liquidity.addLevels_paid hl (hzero.symm ▸ exact)
  rw [hzero, zero_add] at hsum
  rw [← hsum, ← hequal]
  exact (parse_exact hparse fits).symm

/-- A venue with these asks, which pays so much for any auction. -/
def paying (asks : List Level) (amountOut : String) : Script :=
  ⟨[.ok ⟨asks, []⟩], [], [], [.ok ⟨none, amountOut⟩], []⟩

def passes (asks : List Level) (amountOut : String) : Bool :=
  match ((Scenario.run Script.venue "A" ⟨.buy, false⟩ ⟨0⟩).run.run (paying asks amountOut)).1 with
  | .ok report => report.passed
  | .error _ => false

theorem exists_passed {asks : List Level} {amountOut : String} (h : passes asks amountOut = true) :
    ∃ report, ((Scenario.run Script.venue "A" ⟨.buy, false⟩ ⟨0⟩).run.run
      (paying asks amountOut)).1 = .ok report ∧ report.passed = true := by
  rw [passes] at h
  split at h
  · exact ⟨_, ‹_›, h⟩
  · cases h

/-- Sizes of 1.5 and, with an exponent, of 2.5. -/
def twoSizes : List Level := [⟨"2", "1.5"⟩, ⟨"4", " 250e-2"⟩]

theorem fits_twoSizes :
    (written "1.5").Fits ∧ (written " 250e-2").Fits ∧ (written "4.0").Fits :=
  ⟨@Numeral.fits_of_places (written "1.5") 0 (by decide) (by decide +kernel) (by decide),
    @Numeral.fits_of_places (written " 250e-2") 2 (by decide) (by decide +kernel) (by decide),
    @Numeral.fits_of_places (written "4.0") 0 (by decide) (by decide +kernel) (by decide)⟩

theorem value_twoSizes : (written "1.5").value = 3 / 2 ∧ (written " 250e-2").value = 5 / 2 ∧
    (written "4.0").value = 4 := by
  have hdigits : written "1.5" = ⟨false, 15, 1, 0⟩ ∧ written " 250e-2" = ⟨false, 250, 0, -2⟩ ∧
      written "4.0" = ⟨false, 40, 1, 0⟩ := by
    decide
  rw [hdigits.1, hdigits.2.1, hdigits.2.2]
  exact ⟨(Numeral.value_unsigned 15 1 0).trans (by norm_num),
    (Numeral.value_unsigned 250 0 2).trans (by norm_num),
    (Numeral.value_unsigned 40 1 0).trans (by norm_num)⟩

/-- For these sizes a payment of 4 is what they come to. -/
theorem passed_exact_twoSizes :
    passes twoSizes "4.0" = true ∧
      (written "4.0").value = (twoSizes.map (·.paid .buy)).sum := by
  obtain ⟨hfits, hfits', hfits''⟩ := fits_twoSizes
  obtain ⟨hvalue, hvalue', hvalue''⟩ := value_twoSizes
  have hpasses : passes twoSizes "4.0" = true := by decide +kernel
  obtain ⟨report, hrun, passed⟩ := exists_passed hpasses
  obtain ⟨snapshot, fund, settlement, hanswer, hsettled, hexact⟩ := passed_exact hrun passed
  cases hanswer
  cases hsettled
  refine ⟨hpasses, hexact hfits'' ⟨⟨hfits, trivial⟩, ?_, ⟨hfits', trivial⟩, ?_, trivial⟩⟩
  · change Representable (0 + (written "1.5").value)
    rw [zero_add]
    exact hfits.2
  · change Representable (0 + (written "1.5").value + (written " 250e-2").value)
    have hsum : 0 + (written "1.5").value + (written " 250e-2").value = (written "4.0").value := by
      norm_num [hvalue, hvalue', hvalue'']
    rw [hsum]
    exact hfits''.2

/-- A size of which the last digit is beyond the last place of a decimal. -/
def longSize : List Level := [⟨"1", "1.00000000000000000000000000001"⟩]

/-- The scenario passes on a payment that is not what the size comes to. -/
theorem passed_rounded :
    passes longSize "1" = true ∧ (written "1").value ≠ (longSize.map (·.paid .buy)).sum := by
  have hdigits : written "1" = ⟨false, 1, 0, 0⟩ ∧ written "1.00000000000000000000000000001" =
      ⟨false, 100000000000000000000000000001, 29, 0⟩ := by
    decide
  have hpaid : (written "1").value = 1 := by
    rw [hdigits.1]
    exact (Numeral.value_unsigned 1 0 0).trans (by norm_num)
  have hswept : (longSize.map (·.paid .buy)).sum =
      (100000000000000000000000000001 : Nat) / 10 ^ 29 := by
    change (written "1.00000000000000000000000000001").value + 0 = _
    rw [hdigits.2, add_zero]
    exact Numeral.value_unsigned _ 29 0
  refine ⟨by decide +kernel, ?_⟩
  rw [hpaid, hswept]
  norm_num

end Scenario

end SweepAudit
