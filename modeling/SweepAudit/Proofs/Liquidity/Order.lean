import SweepAudit.Proofs.Liquidity.Reference

/-!
The totals in another order of the levels. What a level adds does not depend on where it stands,
but the running totals may be rounded on the way. So the order is without effect as long as they
are exact, and otherwise the totals stay within two units for each level of one another; whether
there are totals at all can only depend on the order close to the greatest decimal.
-/

namespace SweepAudit

open Decimal

variable {levels levels' : List Level} {level : Level} {amounts amounts' : List Liquidity}

/-- A level adds nothing else. -/
theorem Level.Adds.unique {a b : Liquidity} (ha : level.Adds a) (hb : level.Adds b) : a = b := by
  obtain ⟨order, hoffers, hmul, hbase⟩ := ha
  obtain ⟨order', hoffers', hmul', hbase'⟩ := hb
  have horder : order = order' :=
    Prod.ext (Option.some.inj (hoffers.price.symm.trans hoffers'.price))
      (Option.some.inj (hoffers.size.symm.trans hoffers'.size))
  subst horder
  obtain ⟨quote, base⟩ := a
  obtain ⟨quote', base'⟩ := b
  cases hmul.symm.trans hmul'
  cases hbase
  cases hbase'
  rfl

theorem amounts_unique (h : List.Forall₂ Level.Adds levels amounts)
    (h' : List.Forall₂ Level.Adds levels amounts') : amounts = amounts' :=
  List.right_unique_forall₂' (fun _ _ _ ha hb => ha.unique hb) h h'

namespace Liquidity

variable {total total' : Liquidity}

/-- Both are totals, which are equal in value, or both are errors. -/
def SameTotals (a b : Except LevelError Liquidity) : Prop :=
  ((∃ total, a = .ok total) ↔ ∃ total, b = .ok total) ∧
    ∀ total total', a = .ok total → b = .ok total' → Same total total'

/-- What the levels add to either total, if they all can be added, is like this. -/
def Columns (P : List Decimal → Prop) (levels : List Level) : Prop :=
  ∀ amounts, List.Forall₂ Level.Adds levels amounts →
    P (amounts.map (·.quote)) ∧ P (amounts.map (·.base))

theorem exists_amounts (perm : levels.Perm levels') (h : ofLevels levels = .ok total) :
    ∃ amounts amounts', List.Forall₂ Level.Adds levels amounts ∧
      List.Forall₂ Level.Adds levels' amounts' ∧ amounts.Perm amounts' ∧
      sum (amounts.map (·.quote)) = .ok total.quote ∧
      sum (amounts.map (·.base)) = .ok total.base := by
  obtain ⟨amounts, hadds, hquote, hbase⟩ := ofLevels_eq_ok_iff.mp h
  obtain ⟨amounts', hadds', hperm⟩ := List.perm_comp_forall₂ perm.symm hadds
  exact ⟨amounts, amounts', hadds, hadds', hperm.symm, hquote, hbase⟩

theorem ofLevels_perm_held (perm : levels.Perm levels') (held : Columns SumHeld levels)
    (h : ofLevels levels = .ok total) : ∃ total', ofLevels levels' = .ok total' ∧
      Same total total' := by
  obtain ⟨amounts, amounts', hadds, hadds', hperm, hquote, hbase⟩ := exists_amounts perm h
  obtain ⟨hquotes, hbases⟩ := amounts_nonneg hadds
  obtain ⟨heldQuote, heldBase⟩ := held amounts hadds
  obtain ⟨quote, hquote', hquoteEq⟩ := sum_perm_exact (hperm.map _) hquotes heldQuote hquote
  obtain ⟨base, hbase', hbaseEq⟩ := sum_perm_exact (hperm.map _) hbases heldBase hbase
  exact ⟨⟨quote, base⟩, ofLevels_eq_ok_iff.mpr ⟨amounts', hadds', hquote', hbase'⟩, hquoteEq,
    hbaseEq⟩

theorem ofLevels_perm_decided (perm : levels.Perm levels') (decided : Columns Decided levels)
    (h : ofLevels levels = .ok total) : ∃ total', ofLevels levels' = .ok total' := by
  obtain ⟨amounts, amounts', hadds, hadds', hperm, hquote, hbase⟩ := exists_amounts perm h
  obtain ⟨hquotes, hbases⟩ := amounts_nonneg hadds
  obtain ⟨decidedQuote, decidedBase⟩ := decided amounts hadds
  obtain ⟨quote, hquote'⟩ := sum_perm_room (hperm.map _) hquotes decidedQuote hquote
  obtain ⟨base, hbase'⟩ := sum_perm_room (hperm.map _) hbases decidedBase hbase
  exact ⟨⟨quote, base⟩, ofLevels_eq_ok_iff.mpr ⟨amounts', hadds', hquote', hbase'⟩⟩

theorem ofLevels_perm_near (perm : levels.Perm levels') (h : ofLevels levels = .ok total)
    (h' : ofLevels levels' = .ok total') :
    |total.quote.value - total'.quote.value| ≤ 2 * levels.length ∧
      |total.base.value - total'.base.value| ≤ 2 * levels.length := by
  obtain ⟨amounts, amounts', hadds, hadds', hperm, hquote, hbase⟩ := exists_amounts perm h
  obtain ⟨amounts'', hadds'', hquote', hbase'⟩ := ofLevels_eq_ok_iff.mp h'
  obtain rfl := amounts_unique hadds' hadds''
  have hquotes := sum_perm_near (hperm.map _) hquote hquote'
  have hbases := sum_perm_near (hperm.map _) hbase hbase'
  rw [List.length_map, ← hadds.length_eq] at hquotes hbases
  exact ⟨hquotes, hbases⟩

theorem Columns.perm {P : List Decimal → Prop} (h : Columns P levels)
    (hP : ∀ xs ys : List Decimal, P xs → xs.Perm ys → P ys) (perm : levels.Perm levels') :
    Columns P levels' := by
  intro amounts' hadds'
  obtain ⟨amounts, hadds, hperm⟩ := List.perm_comp_forall₂ perm hadds'
  obtain ⟨hquote, hbase⟩ := h amounts hadds
  exact ⟨hP _ _ hquote (hperm.map _), hP _ _ hbase (hperm.map _)⟩

/-- The order of the levels is without effect on the totals as long as decimals hold them on the
grid of what the levels add. It is without effect on whether there are totals also where these
are further from `2 ^ 96` than a unit for each level; and where there are totals in both
orders, either is within two units for each level of the other. -/
theorem ofLevels_perm (perm : levels.Perm levels') :
    (Columns SumHeld levels → SameTotals (ofLevels levels) (ofLevels levels')) ∧
    (Columns Decided levels →
      ((∃ total, ofLevels levels = .ok total) ↔ ∃ total, ofLevels levels' = .ok total)) ∧
    ∀ total total', ofLevels levels = .ok total → ofLevels levels' = .ok total' →
      |total.quote.value - total'.quote.value| ≤ 2 * levels.length ∧
        |total.base.value - total'.base.value| ≤ 2 * levels.length := by
  refine ⟨fun held => ⟨⟨?_, ?_⟩, ?_⟩, fun decided => ⟨?_, ?_⟩, fun _ _ => ofLevels_perm_near perm⟩
  · rintro ⟨total, h⟩
    obtain ⟨total', h', -⟩ := ofLevels_perm_held perm held h
    exact ⟨total', h'⟩
  · rintro ⟨total', h'⟩
    have held' := held.perm (fun _ _ => SumHeld.perm) perm
    obtain ⟨total, h, -⟩ := ofLevels_perm_held perm.symm held' h'
    exact ⟨total, h⟩
  · intro total total' h h'
    obtain ⟨found, hfound, hequal⟩ := ofLevels_perm_held perm held h
    cases h'.symm.trans hfound
    exact hequal
  · rintro ⟨total, h⟩
    exact ofLevels_perm_decided perm decided h
  · rintro ⟨total', h'⟩
    exact ofLevels_perm_decided perm.symm (decided.perm (fun _ _ => Decided.perm) perm) h'

theorem columns_mixed : Columns SumHeld mixedLevels := by
  obtain ⟨hquote, hbase⟩ := costs_mixed
  obtain ⟨amounts, hadds, hquotes, hbases, -⟩ := amounts_held offers_mixed
    (by rw [places_mixed.1]; decide) (by rw [places_mixed.1, hquote]; norm_num)
    (by rw [places_mixed.2, hbase]; norm_num)
  intro amounts' hadds'
  obtain rfl := amounts_unique hadds hadds'
  exact ⟨hquotes, hbases⟩

/-- At different scales, in their order and backwards. -/
theorem ofLevels_perm_mixed : Columns SumHeld mixedLevels ∧
    SameTotals (ofLevels mixedLevels) (ofLevels mixedLevels.reverse) :=
  ⟨columns_mixed, (ofLevels_perm (List.reverse_perm mixedLevels).symm).1 columns_mixed⟩

def beforeSmall (size : String) : List Level := [⟨"1", size⟩, ⟨"1", "0.4"⟩, ⟨"1", "0.4"⟩]

def behindSmall (size : String) : List Level := [⟨"1", "0.4"⟩, ⟨"1", "0.4"⟩, ⟨"1", size⟩]

/-- The small sizes are rounded away one by one, but together they make a unit more. So there are
totals in one order only, and with a size that is a unit smaller there are other totals. -/
theorem ofLevels_disordered : (∀ size, (beforeSmall size).Perm (behindSmall size)) ∧
    ofLevels (beforeSmall "79228162514264337593543950335") = .ok ⟨greatest, greatest⟩ ∧
    ofLevels (behindSmall "79228162514264337593543950335") = .error (.overflow 2) ∧
    ofLevels (behindSmall "79228162514264337593543950334") = .ok ⟨greatest, greatest⟩ ∧
    ∃ total, ofLevels (beforeSmall "79228162514264337593543950334") = .ok total ∧
      total.base < greatest := by
  have hbelow : ofLevels (beforeSmall "79228162514264337593543950334") =
      .ok ⟨ofText "79228162514264337593543950334", ofText "79228162514264337593543950334"⟩ ∧
      ofText "79228162514264337593543950334" < greatest := by
    decide +kernel
  refine ⟨fun size => ?_, by decide +kernel, by decide +kernel, by decide +kernel, _, hbelow⟩
  exact @List.perm_append_comm _ [Level.mk "1" size] [⟨"1", "0.4"⟩, ⟨"1", "0.4"⟩]

end Liquidity

end SweepAudit
