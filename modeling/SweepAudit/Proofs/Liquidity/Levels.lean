import SweepAudit.Liquidity
import SweepAudit.Proofs.Book.Funding
import SweepAudit.Proofs.Decimal.Sum
import SweepAudit.Proofs.Decimal.Text
import Mathlib.Data.List.Forall2

/-!
How the totals over some levels come about: each level that can be read adds the product of its
numbers to the one and its size to the other, and the first that cannot be added is told. What
is rounded on the way is not told here.
-/

namespace SweepAudit

open Decimal

variable {index : Nat} {total total' : Liquidity} {level : Level} {levels : List Level}
  {order : Decimal × Decimal} {orders : List (Decimal × Decimal)} {e : LevelError}

/-- A level offers so much at a price: these are its numbers, and both are positive. -/
structure Level.Offers (level : Level) (order : Decimal × Decimal) : Prop where
  price : Liquidity.readNumber level.price = some order.1
  size : Liquidity.readNumber level.size = some order.2
  positive : Book.PositiveOrder order

/-- What a level adds to the totals. The product of its numbers may have been rounded. -/
def Level.Adds (level : Level) (amounts : Liquidity) : Prop :=
  ∃ order, level.Offers order ∧ order.1.mul? order.2 = some amounts.quote ∧
    amounts.base = order.2

theorem Level.Adds.nonneg {a : Liquidity} (h : level.Adds a) :
    0 ≤ a.quote.value ∧ 0 ≤ a.base.value := by
  obtain ⟨order, hoffers, hmul, hbase⟩ := h
  obtain ⟨hprice, hsize⟩ := hoffers.positive
  have hround := mul?_rounded order.1 order.2
  rw [hmul] at hround
  exact ⟨hround.nonneg (mul_pos hprice hsize).le, hbase ▸ hsize.le⟩

theorem amounts_nonneg {amounts : List Liquidity} (h : List.Forall₂ Level.Adds levels amounts) :
    (∀ x ∈ amounts.map (·.quote), 0 ≤ x.value) ∧ ∀ x ∈ amounts.map (·.base), 0 ≤ x.value := by
  induction h with
  | nil => exact ⟨fun _ hx => absurd hx List.not_mem_nil, fun _ hx => absurd hx List.not_mem_nil⟩
  | cons hadds _ ih =>
    exact ⟨List.forall_mem_cons.mpr ⟨hadds.nonneg.1, ih.1⟩,
      List.forall_mem_cons.mpr ⟨hadds.nonneg.2, ih.2⟩⟩

namespace Liquidity

/-- Totals that are equal in either asset. -/
def Same (total total' : Liquidity) : Prop :=
  total.quote.value = total'.quote.value ∧ total.base.value = total'.base.value

/-- There is no room for an order in the totals, or for the product of its numbers at all. -/
def NoRoom (total : Liquidity) (order : Decimal × Decimal) : Prop :=
  Beyond (order.1.value * order.2.value) ∨
    (∃ notional, order.1.mul? order.2 = some notional ∧
      Beyond (total.quote.value + notional.value)) ∨
    Beyond (total.base.value + order.2.value)

/-- What keeps a level from being added. Each case is told only where those before it are not. -/
inductive Fails (index : Nat) (total : Liquidity) (level : Level) : LevelError → Prop
  | noPrice (unread : readNumber level.price = .none) :
      Fails index total level (.malformed index .price level.price)
  | badPrice {price : Decimal} (read : readNumber level.price = some price)
      (low : price.value ≤ 0) : Fails index total level (.nonPositive index .price level.price)
  | noSize {price : Decimal} (read : readNumber level.price = some price) (high : 0 < price.value)
      (unread : readNumber level.size = .none) :
      Fails index total level (.malformed index .size level.size)
  | badSize {price size : Decimal} (read : readNumber level.price = some price)
      (high : 0 < price.value) (read' : readNumber level.size = some size)
      (low : size.value ≤ 0) : Fails index total level (.nonPositive index .size level.size)
  | noRoom {order : Decimal × Decimal} (offers : level.Offers order) (full : NoRoom total order) :
      Fails index total level (.overflow index)

/-! One level -/

theorem readNumber_of_reads {text : String} {q : ℚ} (h : Reads text q) :
    ∃ x, readNumber text = some x ∧ x.value = q := by
  obtain ⟨htrim, x, hparse, hvalue⟩ := h
  exact ⟨x, by simp only [readNumber, htrim, hparse], hvalue⟩

/-- A level of which both texts are read as positive numbers can only fail for want of room. -/
theorem Fails.eq_overflow {p q : ℚ} (h : Fails index total level e) (hprice : Reads level.price p)
    (hp : 0 < p) (hsize : Reads level.size q) (hq : 0 < q) : e = .overflow index := by
  obtain ⟨x, hx, hxp⟩ := readNumber_of_reads hprice
  obtain ⟨y, hy, hyq⟩ := readNumber_of_reads hsize
  cases h with
  | noPrice unread => cases hx.symm.trans unread
  | badPrice read low =>
    cases hx.symm.trans read
    exact absurd low (not_le.mpr (hxp ▸ hp))
  | noSize read high unread => cases hy.symm.trans unread
  | badSize read high read' low =>
    cases hy.symm.trans read'
    exact absurd low (not_le.mpr (hyq ▸ hq))
  | noRoom offers full => rfl

theorem readPositive_eq_ok_iff {field : LevelField} {text : String} {x : Decimal} :
    readPositive index field text = .ok x ↔ readNumber text = some x ∧ 0 < x.value := by
  rw [readPositive, ← isPositive_iff]
  split
  · rename_i hread
    simp [hread]
  · rename_i y hread
    rw [hread, Option.some.injEq]
    split
    · rename_i hpos
      exact ⟨fun h => by cases h; exact ⟨rfl, hpos⟩, fun h => by rw [h.1]⟩
    · rename_i hlow
      exact iff_of_false nofun fun h => hlow (h.1 ▸ h.2)

theorem readPositive_eq_error_iff {field : LevelField} {text : String} :
    readPositive index field text = .error e ↔
      readNumber text = .none ∧ e = .malformed index field text ∨
        ∃ x, readNumber text = some x ∧ x.value ≤ 0 ∧ e = .nonPositive index field text := by
  rw [readPositive]
  split
  · rename_i hread
    simp [hread, eq_comm]
  · rename_i x hread
    split
    · rename_i hpos
      simp [hread, not_le.mpr (isPositive_iff.mp hpos)]
    · rename_i hlow
      simp [hread, not_lt.mp (mt isPositive_iff.mpr hlow), eq_comm]

theorem offers_iff : level.Offers order ↔
    readPositive index .price level.price = .ok order.1 ∧
      readPositive index .size level.size = .ok order.2 := by
  rw [readPositive_eq_ok_iff, readPositive_eq_ok_iff]
  exact ⟨fun h => ⟨⟨h.price, h.positive.1⟩, h.size, h.positive.2⟩,
    fun h => ⟨h.1.1, h.2.1, h.1.2, h.2.2⟩⟩

theorem noRoom_or (total : Liquidity) (order : Decimal × Decimal) :
    NoRoom total order ∨ ∃ notional quote base, order.1.mul? order.2 = some notional ∧
      total.quote.add? notional = some quote ∧ total.base.add? order.2 = some base := by
  simp only [NoRoom, ← mul?_eq_none_iff, ← add?_eq_none_iff]
  cases hmul : order.1.mul? order.2 with
  | none => exact .inl (.inl rfl)
  | some notional =>
    cases hquote : total.quote.add? notional with
    | none => exact .inl (.inr (.inl ⟨notional, rfl, hquote⟩))
    | some quote =>
      cases hbase : total.base.add? order.2 with
      | none => exact .inl (.inr (.inr rfl))
      | some base => exact .inr ⟨notional, quote, base, rfl, hquote, rfl⟩

theorem addLevel_of_room (h : level.Offers order) {notional quote base : Decimal}
    (hmul : order.1.mul? order.2 = some notional) (hquote : total.quote.add? notional = some quote)
    (hbase : total.base.add? order.2 = some base) :
    addLevel index total level = .ok ⟨quote, base⟩ := by
  obtain ⟨hprice, hsize⟩ := offers_iff.mp h
  rw [addLevel, hprice, hsize]
  simp [bind, Except.bind, hmul, hquote, hbase]

theorem addLevel_of_noRoom (h : level.Offers order) (full : NoRoom total order) :
    addLevel index total level = .error (.overflow index) := by
  obtain ⟨hprice, hsize⟩ := offers_iff.mp h
  simp only [NoRoom, ← mul?_eq_none_iff, ← add?_eq_none_iff] at full
  rw [addLevel, hprice, hsize]
  rcases full with hmul | ⟨notional, hmul, hquote⟩ | hbase
  · simp [bind, Except.bind, hmul]
  · simp [bind, Except.bind, hmul, hquote]
  · cases hmul : order.1.mul? order.2 with
    | none => simp [bind, Except.bind, hmul]
    | some notional =>
      cases hquote : total.quote.add? notional with
      | none => simp [bind, Except.bind, hmul, hquote]
      | some quote => simp [bind, Except.bind, hmul, hbase]

theorem addLevel_eq_ok_iff : addLevel index total level = .ok total' ↔
    ∃ amounts, level.Adds amounts ∧ total.quote.add amounts.quote = .ok total'.quote ∧
      total.base.add amounts.base = .ok total'.base := by
  simp only [add_eq_ok_iff]
  constructor
  · intro h
    have hparts := h
    rw [addLevel] at hparts
    obtain ⟨price, hprice, hparts⟩ := bind_eq_ok hparts
    obtain ⟨size, hsize, -⟩ := bind_eq_ok hparts
    have hoffers : level.Offers (price, size) := offers_iff.mpr ⟨hprice, hsize⟩
    rcases noRoom_or total (price, size) with hfull | ⟨notional, quote, base, hmul, hquote, hbase⟩
    · cases h.symm.trans (addLevel_of_noRoom hoffers hfull)
    · cases h.symm.trans (addLevel_of_room hoffers hmul hquote hbase)
      exact ⟨⟨notional, size⟩, ⟨_, hoffers, hmul, rfl⟩, hquote, hbase⟩
  · rintro ⟨amounts, ⟨order, hoffers, hmul, hsize⟩, hquote, hbase⟩
    exact addLevel_of_room hoffers hmul hquote (hsize ▸ hbase)

/-- A level fails for the first of the causes that there are. -/
theorem addLevel_eq_error_iff :
    addLevel index total level = .error e ↔ Fails index total level e := by
  constructor
  · intro h
    have hparts := h
    rw [addLevel] at hparts
    rcases bind_eq_error hparts with hprice | ⟨price, hprice, hparts⟩
    · obtain ⟨hread, rfl⟩ | ⟨price, hread, hlow, rfl⟩ := readPositive_eq_error_iff.mp hprice
      · exact .noPrice hread
      · exact .badPrice hread hlow
    · obtain ⟨hread, hhigh⟩ := readPositive_eq_ok_iff.mp hprice
      rcases bind_eq_error hparts with hsize | ⟨size, hsize, -⟩
      · obtain ⟨hread', rfl⟩ | ⟨size, hread', hlow, rfl⟩ := readPositive_eq_error_iff.mp hsize
        · exact .noSize hread hhigh hread'
        · exact .badSize hread hhigh hread' hlow
      · have hoffers : level.Offers (price, size) := offers_iff.mpr ⟨hprice, hsize⟩
        rcases noRoom_or total (price, size) with hfull | ⟨_, _, _, hmul, hquote, hbase⟩
        · cases h.symm.trans (addLevel_of_noRoom hoffers hfull)
          exact .noRoom hoffers hfull
        · cases h.symm.trans (addLevel_of_room hoffers hmul hquote hbase)
  · have hat {price : Decimal} (hread : readNumber level.price = some price)
        (hhigh : 0 < price.value) {e : LevelError}
        (hsize : readPositive index .size level.size = .error e) :
        addLevel index total level = .error e := by
      rw [addLevel, readPositive_eq_ok_iff.mpr ⟨hread, hhigh⟩, hsize]
      rfl
    intro h
    cases h with
    | noPrice unread =>
      rw [addLevel, readPositive_eq_error_iff.mpr (.inl ⟨unread, rfl⟩)]
      rfl
    | badPrice read low =>
      rw [addLevel, readPositive_eq_error_iff.mpr (.inr ⟨_, read, low, rfl⟩)]
      rfl
    | noSize read high unread =>
      exact hat read high (readPositive_eq_error_iff.mpr (.inl ⟨unread, rfl⟩))
    | badSize read high read' low =>
      exact hat read high (readPositive_eq_error_iff.mpr (.inr ⟨_, read', low, rfl⟩))
    | noRoom offers full => exact addLevel_of_noRoom offers full

/-! All levels -/

theorem addLevels_append (index : Nat) (total : Liquidity) (first rest : List Level) :
    addLevels index total (first ++ rest) = (do
      let total ← addLevels index total first
      addLevels (index + first.length) total rest) := by
  induction first generalizing index total with
  | nil => rfl
  | cons level first ih =>
    rw [List.cons_append, addLevels, addLevels, List.length_cons]
    cases addLevel index total level with
    | error e => rfl
    | ok next =>
      have hindex : index + (first.length + 1) = index + 1 + first.length := by omega
      rw [hindex]
      exact ih (index + 1) next

/-- The totals are the sums of what the levels add, one after the other. -/
theorem addLevels_eq_ok_iff : addLevels index total levels = .ok total' ↔
    ∃ amounts, List.Forall₂ Level.Adds levels amounts ∧
      (amounts.map (·.quote)).foldlM add total.quote = .ok total'.quote ∧
      (amounts.map (·.base)).foldlM add total.base = .ok total'.base := by
  induction levels generalizing index total with
  | nil =>
    constructor
    · intro h
      cases h
      exact ⟨[], .nil, rfl, rfl⟩
    · rintro ⟨amounts, hadds, hquote, hbase⟩
      cases hadds
      obtain ⟨quote, base⟩ := total
      obtain ⟨quote', base'⟩ := total'
      cases hquote
      cases hbase
      rfl
  | cons level levels ih =>
    constructor
    · intro h
      obtain ⟨next, hadd, h⟩ := bind_eq_ok h
      obtain ⟨first, hfirst, hquote, hbase⟩ := addLevel_eq_ok_iff.mp hadd
      obtain ⟨amounts, hadds, hquotes, hbases⟩ := ih.mp h
      refine ⟨first :: amounts, .cons hfirst hadds, ?_, ?_⟩
      · rw [List.map_cons, List.foldlM_cons, hquote]
        exact hquotes
      · rw [List.map_cons, List.foldlM_cons, hbase]
        exact hbases
    · rintro ⟨amounts, hadds, hquotes, hbases⟩
      cases hadds with
      | @cons _ first _ amounts hfirst hadds =>
        obtain ⟨quote, hquote, hquotes⟩ := bind_eq_ok hquotes
        obtain ⟨base, hbase, hbases⟩ := bind_eq_ok hbases
        have hadd : addLevel index total level = .ok ⟨quote, base⟩ :=
          addLevel_eq_ok_iff.mpr ⟨first, hfirst, hquote, hbase⟩
        rw [addLevels, hadd]
        exact ih.mpr ⟨amounts, hadds, hquotes, hbases⟩

theorem ofLevels_eq_ok_iff : ofLevels levels = .ok total ↔
    ∃ amounts, List.Forall₂ Level.Adds levels amounts ∧
      sum (amounts.map (·.quote)) = .ok total.quote ∧
      sum (amounts.map (·.base)) = .ok total.base := addLevels_eq_ok_iff

/-- No total is negative. -/
theorem funding_nonneg (h : ofLevels levels = .ok total) (side : Side) :
    0 ≤ (total.funding side).value := by
  obtain ⟨amounts, hadds, hquote, hbase⟩ := ofLevels_eq_ok_iff.mp h
  obtain ⟨hquotes, hbases⟩ := amounts_nonneg hadds
  rw [← value_zero]
  cases side with
  | buy => exact le_foldlM_add hquotes hquote
  | sell => exact le_foldlM_add hbases hbase

/-- The totals fail at the first level that cannot be added to those of the levels before it. -/
theorem ofLevels_eq_error_iff : ofLevels levels = .error e ↔
    ∃ before level behind total, levels = before ++ level :: behind ∧
      ofLevels before = .ok total ∧ Fails before.length total level e := by
  constructor
  · have hall (index : Nat) (total : Liquidity)
        (h : addLevels index total levels = .error e) :
        ∃ before level behind total', levels = before ++ level :: behind ∧
          addLevels index total before = .ok total' ∧
          Fails (index + before.length) total' level e := by
      induction levels generalizing index total with
      | nil => cases h
      | cons level levels ih =>
        rcases bind_eq_error h with hadd | ⟨next, hadd, h⟩
        · exact ⟨[], level, levels, total, rfl, rfl, addLevel_eq_error_iff.mp hadd⟩
        · obtain ⟨before, level', behind, total', rfl, hbefore, hfails⟩ := ih _ _ h
          have hindex : index + (before.length + 1) = index + 1 + before.length := by omega
          refine ⟨level :: before, level', behind, total', rfl, ?_, ?_⟩
          · rw [addLevels, hadd]
            exact hbefore
          · rw [List.length_cons, hindex]
            exact hfails
    intro h
    obtain ⟨before, level, behind, total, hsplit, hbefore, hfails⟩ := hall 0 none h
    rw [Nat.zero_add] at hfails
    exact ⟨before, level, behind, total, hsplit, hbefore, hfails⟩
  · rintro ⟨before, level, behind, total, rfl, hbefore, hfails⟩
    rw [ofLevels] at hbefore
    rw [ofLevels, addLevels_append, hbefore, Nat.zero_add]
    simp only [bind, Except.bind, addLevels, addLevel_eq_error_iff.mpr hfails]

end Liquidity

end SweepAudit
