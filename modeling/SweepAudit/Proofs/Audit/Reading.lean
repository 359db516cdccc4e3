import SweepAudit.Proofs.Audit.Verdict
import SweepAudit.Proofs.Decimal.Exponent
import SweepAudit.Proofs.Liquidity.Levels

/-!
The two places where an audit reads numbers of a venue: the texts of the levels, and the amount that
a settlement pays. At the first a text that is no number is tried once more in strict scientific
notation. That changes nothing, as a strict reader only refuses more, so that a text is a number at
the one place exactly if it is at the other, and the same one.
-/

namespace SweepAudit

open Decimal

namespace Decimal

variable {base x : Decimal} {n : Nat} {cs : List Char} {precision : Precision}

/-! Strict and lossy reading -/

theorem lowered_lossy (h : lowered .strict base n = .ok x) : lowered .lossy base n = .ok x := by
  rw [lowered.eq_def] at h ⊢
  split at h
  · cases h
  · rename_i hlast
    rw [if_neg hlast]
    split at h
    · rename_i hscale
      rw [dif_pos hscale]
      exact h
    · cases h

/-- Precision only matters where a number has too many places. -/
theorem parseScientific_lossy (h : parseScientific .strict cs = .ok x) :
    parseScientific .lossy cs = .ok x := by
  rw [parseScientific] at h
  split at h
  · cases h
  · rename_i mark exponent hdrop
    obtain ⟨base, hbase, h⟩ := bind_eq_ok h
    rw [parseScientific, hdrop, hbase]
    simp only [bind, Except.bind]
    split at h
    · split at h
      · exact lowered_lossy h
      · cases h
    · exact h

theorem any_mark_of_scientific (h : parseScientific precision cs = .ok x) :
    cs.any isExponentMark = true := by
  rw [parseScientific] at h
  split at h
  · cases h
  · rename_i mark exponent hdrop
    have hmem : mark ∈ cs :=
      (List.dropWhile_suffix _).subset (hdrop ▸ List.mem_cons_self)
    have hstop : (!isExponentMark mark) = false := by
      have hhead := List.head_dropWhile_not (!isExponentMark ·)
        (by rw [hdrop]; exact List.cons_ne_nil _ _)
      simpa [hdrop] using hhead
    exact List.any_eq_true.mpr ⟨mark, hmem, (Bool.not_eq_false' _).mp hstop⟩

theorem parse_of_parseStrict {s : String} (h : parseStrict s = .ok x) : parse s = .ok x := by
  have hmark := any_mark_of_scientific h
  rw [parse, parseChars]
  split
  · rename_i y hplain
    -- A plain number has no exponent mark.
    obtain ⟨c, hc, hmarked⟩ := List.any_eq_true.mp hmark
    rw [(parsePlain_exact hplain).1 c hc] at hmarked
    cases hmarked
  · rw [if_pos hmark]
    exact parseScientific_lossy h

end Decimal

namespace Liquidity

theorem readNumber_eq (text : String) : readNumber text = (parse (Text.trim text)).toOption := by
  rw [readNumber]
  cases hparse : parse (Text.trim text) with
  | ok x => rfl
  | error e =>
    cases hstrict : parseStrict (Text.trim text) with
    | ok x => cases hparse.symm.trans (parse_of_parseStrict hstrict)
    | error e' => rfl

/-- Nothing adds up of which a text is no number. -/
theorem read_of_ofLevels {levels : List Level} {total : Liquidity}
    (h : ofLevels levels = .ok total) {level : Level} (hlevel : level ∈ levels) :
    (readNumber level.price).isSome ∧ (readNumber level.size).isSome := by
  obtain ⟨amounts, hadds, -⟩ := ofLevels_eq_ok_iff.mp h
  clear h
  induction hadds with
  | nil => exact absurd hlevel List.not_mem_nil
  | cons hfirst _ ih =>
    rcases List.mem_cons.mp hlevel with rfl | hlevel
    · obtain ⟨order, hoffers, -⟩ := hfirst
      rw [hoffers.price, hoffers.size]
      exact ⟨rfl, rfl⟩
    · exact ih hlevel

end Liquidity

namespace Scenario

variable {σ : Type} {venue : Venue σ} {symbol : String} {scenario : Scenario} {id : Uuid}
  {state : σ} {report : Report} {failure : Failure}

/-- What a scenario reports as its failure has kept it from passing. -/
theorem failsBy_of_run (hrun : ((scenario.run venue symbol id).run.run state).1 = .ok report)
    (hfailure : report.failure = some failure) :
    scenario.FailsBy ((venue.depth symbol).run state).1
      (fun fund => ((venue.beginAuction (.ofAmount id symbol scenario.side fund)).run
        ((venue.depth symbol).run state).2).1) failure := by
  rcases run_cases venue symbol scenario id state with
    ⟨cause, hended, hfails⟩ | ⟨cause, hended⟩ | ⟨liquidity, fund, hsubmits, hended⟩
  · cases hrun.symm.trans hended
    cases hfailure
    exact hfails _
  · cases hrun.symm.trans hended
  · cases hrun.symm.trans hended
    exact judge_failure hsubmits hfailure

/-- The levels of a venue and the amounts that it pays are read alike: each text is one number to
both, or none to either. So no scenario complains of an amount that could be added up. -/
theorem amounts_readAlike (text : String) :
    (∀ x, parseStrict text = .ok x → parse text = .ok x) ∧
      Liquidity.readNumber text = (parse (Text.trim text)).toOption ∧
      ((∃ x,
          (∀ index field, Liquidity.readPositive index field text =
            if x.IsPositive then .ok x else .error (.nonPositive index field text)) ∧
          ∀ report expected, judgeAmount report expected text =
            if x.Same expected then report.pass else report.fail (.mismatch expected x)) ∨
        (∀ index field,
          Liquidity.readPositive index field text = .error (.malformed index field text)) ∧
          ∀ report expected, judgeAmount report expected text =
            report.fail (.badAmountOut text)) ∧
      ∀ {σ : Type} (venue : Venue σ) (symbol : String) (scenario : Scenario) (id : Uuid)
        (state : σ) (report : Report),
        ((scenario.run venue symbol id).run.run state).1 = .ok report →
        report.failure = some (.badAmountOut text) →
        ∀ levels total, Liquidity.ofLevels levels = .ok total →
          ∀ level ∈ levels, level.price ≠ text ∧ level.size ≠ text := by
  have hnumber := Liquidity.readNumber_eq text
  refine ⟨fun _ => parse_of_parseStrict, hnumber, ?_, ?_⟩
  · cases hparse : parse (Text.trim text) with
    | ok x =>
      rw [hparse] at hnumber
      refine .inl ⟨x, fun index field => ?_, fun report expected => ?_⟩
      · rw [Liquidity.readPositive, hnumber]
        rfl
      · rw [judgeAmount, hparse]
    | error e =>
      rw [hparse] at hnumber
      refine .inr ⟨fun index field => ?_, fun report expected => ?_⟩
      · rw [Liquidity.readPositive, hnumber]
        rfl
      · rw [judgeAmount, hparse]
  · intro σ venue symbol scenario id state report hrun hfailure levels total htotal level hlevel
    have hunread : Liquidity.readNumber text = none := by
      generalize hbad : Failure.badAmountOut text = failure at hfailure
      cases failsBy_of_run hrun hfailure with
      | badAmountOut _ _ _ hparse =>
        cases hbad
        rw [hnumber, hparse]
        rfl
      | _ => cases hbad
    obtain ⟨hprice, hsize⟩ := Liquidity.read_of_ofLevels htotal hlevel
    constructor
    · rintro rfl
      rw [hunread] at hprice
      cases hprice
    · rintro rfl
      rw [hunread] at hsize
      cases hsize

/-- A venue with one ask, where a sweep is paid with a text of its own. -/
def settling (amountOut : String) : Script :=
  ⟨[.ok ⟨[⟨"2", "3"⟩], []⟩], [], [], [.ok ⟨none, amountOut⟩], []⟩

theorem amounts_readAlike_exponents :
    Liquidity.readNumber " 1_0.5e1 " = some (.ofUInt32 105) ∧
      ∃ report, ((Scenario.run Script.venue "A" ⟨.buy, false⟩ ⟨0⟩).run.run (settling "1e-29")).1 =
          .ok report ∧
        report.failure = some (.badAmountOut "1e-29") ∧
        ∀ levels total, Liquidity.ofLevels levels = .ok total →
          ∀ level ∈ levels, level.price ≠ "1e-29" ∧ level.size ≠ "1e-29" := by
  obtain ⟨-, hnumber, -⟩ := amounts_readAlike " 1_0.5e1 "
  obtain ⟨-, -, -, hbad⟩ := amounts_readAlike "1e-29"
  have hfailure : ((Scenario.run Script.venue "A" ⟨.buy, false⟩ ⟨0⟩).run.run
      (settling "1e-29")).1.toOption.bind (·.failure) = some (.badAmountOut "1e-29") := by
    decide +kernel
  refine ⟨hnumber.trans (by decide +kernel), ?_⟩
  obtain ⟨report, hreport, hfailure⟩ := Option.bind_eq_some_iff.mp hfailure
  have hrun := toOption_eq_some.mp hreport
  exact ⟨report, hrun, hfailure, hbad _ _ _ _ _ _ hrun hfailure⟩

end Scenario

end SweepAudit
