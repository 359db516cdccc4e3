import SweepAudit.Proofs.Audit.Verdict
import SweepAudit.Proofs.Liquidity.Levels

/-!
The amount that an overfunded scenario asks for. It is more than the funding, also where the sum
has to be rounded, and it is written so that it is read as the same amount. Only for the greatest
decimal there is no such amount, and then no auction is begun.
-/

namespace SweepAudit.Scenario

open Decimal

variable {σ : Type} {venue : Venue σ} {symbol : String} {state : σ} {snapshot : Snapshot}
  {side : Side} {liquidity : Liquidity}

/-- An overfunded scenario that has read and added up the depth asks for more than the funding,
unless that is the greatest decimal. -/
theorem overfunded_exceeds (hanswer : ((venue.depth symbol).run state).1 = .ok snapshot)
    (hl : Liquidity.ofLevels (snapshot.liquidityFor side) = .ok liquidity) (id : Uuid)
    (tally : Tally) :
    let funding := (liquidity.funding side).value
    let ended := (runCounted venue.traced symbol ⟨side, true⟩ id).run.run ⟨⟨state, []⟩, tally⟩
    ((∃ cause, ended.1 = .error cause) ↔ funding = greatest.value) ∧
    (funding = greatest.value → ended.1 = .error .addition ∧
      ended.2.venue.calls = [.depth symbol] ∧ ended.2.tally = tally) ∧
    (funding ≠ greatest.value → ∃ report fund rest, ended.1 = .ok report ∧
      report.fundAmount = some fund ∧ funding < fund.value ∧
      let request := AuctionRequest.ofAmount id symbol side fund
      ended.2.venue.calls = .depth symbol :: .beginAuction request :: rest ∧
        ∃ amount, parse request.amountIn = .ok amount ∧ amount.value = fund.value) := by
  intro funding ended
  have hroom : Beyond (funding + 1) ↔ funding = greatest.value :=
    beyond_add_one_iff (Liquidity.funding_nonneg hl side)
  have hanswer' : ((venue.traced.depth symbol).run ⟨state, []⟩).1 = .ok snapshot := hanswer
  by_cases hgreatest : funding = greatest.value
  · have hfund : (liquidity.funding side).add .one = .error .addition :=
      add_eq_error_iff.mpr ⟨rfl, by rw [value_one]; exact hroom.mpr hgreatest⟩
    have hrun : (run venue.traced symbol ⟨side, true⟩ id).run.run ⟨state, []⟩ = _ :=
      run_of_overflow hanswer' hl rfl hfund
    have hended : ended = (.error .addition, ⟨_, tally⟩) := runCounted_of_overflow ⟨_, tally⟩ hrun
    rw [hended]
    exact ⟨iff_of_true ⟨_, rfl⟩ hgreatest, fun _ => ⟨rfl, rfl, rfl⟩, fun h => absurd hgreatest h⟩
  · obtain ⟨fund, hfund⟩ : ∃ fund, (liquidity.funding side).add .one = .ok fund := by
      cases hadd : (liquidity.funding side).add .one with
      | ok fund => exact ⟨fund, rfl⟩
      | error cause =>
        have hbeyond := (add_eq_error_iff.mp hadd).2
        rw [value_one] at hbeyond
        exact absurd (hroom.mp hbeyond) hgreatest
    have hsubmits : Submits ⟨side, true⟩ (.ok snapshot) liquidity fund :=
      ⟨⟨snapshot, rfl, hl⟩, .inl rfl, hfund⟩
    have hrun : (run venue.traced symbol ⟨side, true⟩ id).run.run ⟨state, []⟩ = _ :=
      run_of_submits (hanswer' ▸ hsubmits)
    have hended : ended = (.ok _, ⟨_, tally.record _⟩) := runCounted_of_run ⟨_, tally⟩ hrun
    rw [hended]
    refine ⟨iff_of_false nofun hgreatest, fun h => absurd h hgreatest, fun _ => ?_⟩
    obtain ⟨-, -, -, hrecorded, -⟩ := judge_submitted ⟨side, true⟩ liquidity fund
      ((venue.traced.beginAuction (.ofAmount id symbol side fund)).run
        ((venue.traced.depth symbol).run ⟨state, []⟩).2).1
    exact ⟨_, fund, _, rfl, hrecorded, lt_of_add_one hfund, calls_release _ _ _ _,
      fund.parse_canonical⟩

/-- A venue with one ask at 1, where every auction is turned down. -/
def singleAsk (size : String) : Script :=
  ⟨[.ok ⟨[⟨"1", size⟩], []⟩], [], [], [.error (.status 400 "")], []⟩

/-- One more than a full coefficient with one place is rounded to a whole number. -/
theorem overfunded_exceeds_singleAsk :
    (∃ report fund, ((runCounted Script.venue.traced "A" ⟨.buy, true⟩ ⟨0⟩).run.run
        ⟨⟨singleAsk "7922816251426433759354395033.5", []⟩, .empty⟩).1 = .ok report ∧
      report.fundAmount = some fund ∧ 79228162514264337593543950335 / 10 < fund.value) ∧
    ((runCounted Script.venue.traced "A" ⟨.buy, true⟩ ⟨0⟩).run.run
      ⟨⟨singleAsk "79228162514264337593543950335", []⟩, .empty⟩).1 = .error .addition := by
  have hbelow : Liquidity.ofLevels [⟨"1", "7922816251426433759354395033.5"⟩] =
      .ok ⟨⟨false, twoTo 96 - 1, 1, by decide, by decide⟩,
        ⟨false, twoTo 96 - 1, 1, by decide, by decide⟩⟩ := by decide +kernel
  have hfull : Liquidity.ofLevels [⟨"1", "79228162514264337593543950335"⟩] =
      .ok ⟨greatest, greatest⟩ := by decide +kernel
  have hvalue : Decimal.value ⟨false, twoTo 96 - 1, 1, by decide, by decide⟩ =
      79228162514264337593543950335 / 10 := by norm_num [value, signed, twoTo_ninetySix]
  constructor
  · have hexceeds := @overfunded_exceeds _ Script.venue "A"
      (singleAsk "7922816251426433759354395033.5") _ .buy _ rfl hbelow ⟨0⟩ .empty
    obtain ⟨report, fund, _, hended, hfund, hlt, -⟩ := hexceeds.2.2 (by
      rw [Liquidity.funding, hvalue, value_greatest]
      norm_num)
    exact ⟨report, fund, hended, hfund, hvalue ▸ hlt⟩
  · have hexceeds := @overfunded_exceeds _ Script.venue "A"
      (singleAsk "79228162514264337593543950335") _ .buy _ rfl hfull ⟨0⟩ .empty
    exact (hexceeds.2.1 rfl).1

end SweepAudit.Scenario
