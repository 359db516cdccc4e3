import SweepAudit.Ladder
import SweepAudit.Proofs.Decimal.Arithmetic
import SweepAudit.Proofs.Decimal.Grid
import SweepAudit.Proofs.Except
import SweepAudit.Proofs.Text.Cutting
import SweepAudit.Proofs.Text.Digits
import Mathlib.Algebra.Order.BigOperators.Group.List

/-!
The orders of a ladder. Where decimals hold the numbers of an order, that is what the order comes
to. With unit steps they hold them as long as they hold the totals of the ladder. No two orders of
a ladder have the same id.
-/

namespace SweepAudit

open Decimal

/-! The ids -/

namespace Text

theorem mem_toDigits {n : Nat} {c : Char} (h : c ∈ Nat.toDigits 16 n) :
    ∃ d < 16, c = Nat.digitChar d := by
  induction n using Nat.strongRecOn with
  | ind n ih =>
    rw [Nat.toDigits_eq_if (by decide)] at h
    split at h
    · rename_i hlt
      exact ⟨n, hlt, List.mem_singleton.mp h⟩
    · rcases List.mem_append.mp h with h | h
      · exact ih (n / 16) (by omega) h
      · exact ⟨n % 16, Nat.mod_lt n (by decide), List.mem_singleton.mp h⟩

theorem ne_hyphen_of_mem_hexPadded {width n : Nat} {c : Char} (h : c ∈ hexPadded width n) :
    (c == '-') = false := by
  have hdigits : ∀ d < 16, (Nat.digitChar d == '-') = false := by decide
  rcases List.mem_append.mp h with h | h
  · rw [List.eq_of_mem_replicate h]
    decide
  · obtain ⟨d, hd, rfl⟩ := mem_toDigits h
    exact hdigits d hd

end Text

theorem toList_clientOrderId (n : Nat) : (clientOrderId n).toList = Text.hexPadded 8 n ++
    '-' :: ("0000-0000-0000-".toList ++ Text.hexPadded 12 n) := by
  rw [clientOrderId, String.toList_ofList, List.append_assoc]
  rfl

theorem clientOrderId_injective {m n : Nat} (h : clientOrderId m = clientOrderId n) : m = n := by
  have hcut (n : Nat) : (Text.cutBy (· == '-') (clientOrderId n).toList).1 =
      Text.hexPadded 8 n := by
    rw [toList_clientOrderId,
      Text.cutBy_append (fun _ => Text.ne_hyphen_of_mem_hexPadded) (beq_self_eq_true '-')]
  have hdigits := hcut m
  rw [h, hcut n] at hdigits
  rw [← Text.hexNumber_hexPadded 8 m, ← Text.hexNumber_hexPadded 8 n, hdigits]

theorem isBlankText_clientOrderId (n : Nat) : Text.isBlankText (clientOrderId n) = false := by
  rw [Text.isBlankText, List.all_eq_false]
  refine ⟨'-', ?_, by decide⟩
  rw [toList_clientOrderId]
  exact List.mem_append_right _ List.mem_cons_self

/-! The orders -/

namespace Ladder

/-- Decimals hold the numbers of the order at the i-th level of a side, counted from one. -/
structure Exact (ladder : Ladder) (base : Decimal) (i : Nat) : Prop where
  step : Representable (i * ladder.priceStep.value)
  price : Representable (base.value + i * ladder.priceStep.value)
  size : Representable (i * ladder.sizeStep.value)

/-- The order at the i-th level of a side, counted from one, as the n-th of the ladder. -/
structure IsStep (ladder : Ladder) (base : ℚ) (side : Side) (i n : Nat) (order : Order) : Prop where
  symbol_eq : order.symbol = ladder.symbol
  side_eq : order.side = side
  price_eq : order.price.value = base + i * ladder.priceStep.value
  size_eq : order.size.value = i * ladder.sizeStep.value
  id_eq : order.clientOrderId = clientOrderId n

theorem order_step {ladder : Ladder} {base : Decimal} {i : Nat} (h : ladder.Exact base i)
    (hi : i < 2 ^ 32) (side : Side) (n : Nat) :
    ∃ order, ladder.order base side i n = .ok order ∧
      IsStep ladder base.value side i n order := by
  have hfactor : (ofUInt32 (.ofNat i)).value = i := by
    rw [value_ofUInt32, UInt32.toNat_ofNat_of_lt' hi]
  have hproduct (y : Decimal) : Rounded (i * y.value) ((ofUInt32 (.ofNat i)).mul? y) :=
    hfactor ▸ mul?_rounded _ y
  obtain ⟨step, hstep, hstepv⟩ := (hproduct ladder.priceStep).exact h.step
  obtain ⟨price, hprice, hpricev⟩ := (add?_rounded base step).exact (hstepv ▸ h.price)
  obtain ⟨size, hsize, hsizev⟩ := (hproduct ladder.sizeStep).exact h.size
  refine ⟨⟨ladder.symbol, side, price, size, clientOrderId n⟩, ?_, rfl, rfl, ?_, hsizev, rfl⟩
  · rw [order]
    simp only [mul, hstep, hsize, orOverflow]
    change (do
      let price ← base.add step
      return Order.mk ladder.symbol side price size (clientOrderId n)) = _
    rw [add, hprice]
    rfl
  · rw [hpricev, hstepv]

/-! Unit steps -/

/-- A ladder with unit steps and the given number of levels. -/
def ofDepth (symbol : String) (depth : UInt32) : Ladder := { ofSymbol symbol with depth := depth }

/-- What all orders of one side of a ladder cost. -/
def quoteTotal (base : ℚ) (depth : Nat) : ℚ :=
  ((List.range depth).map fun i : Nat => (base + (i + 1)) * (10 * (i + 1))).sum

/-- What all orders of one side of a ladder amount to. -/
def baseTotal (depth : Nat) : ℚ := ((List.range depth).map fun i : Nat => 10 * ((i : ℚ) + 1)).sum

/-- A price around which a ladder of so many levels comes to exact numbers. -/
structure Fits (base : Decimal) (depth : Nat) : Prop where
  above : 0 < base.value + 1
  totals : (max (quoteTotal base.value depth) (baseTotal depth) + 1) * 10 ^ base.scale < 2 ^ 96

variable {base : Decimal} {depth : Nat} {symbol : String} {side : Side} {i n : Nat}

namespace Fits

theorem price_pos (h : Fits base depth) (i : Nat) : 0 < base.value + ((i : ℚ) + 1) := by
  have hi : (0 : ℚ) ≤ i := Nat.cast_nonneg i
  linarith [h.above]

theorem onGrid_price (i : Nat) : OnGrid base.scale (base.value + ((i : ℚ) + 1)) :=
  (onGrid_value le_rfl).add ((onGrid_natCast _ i).add (onGrid_one _))

theorem onGrid_size (n i : Nat) : OnGrid n (10 * ((i : ℚ) + 1)) := by
  exact_mod_cast onGrid_natCast n (10 * (i + 1))

theorem quote_nonneg (h : Fits base depth) (i : Nat) :
    0 ≤ (base.value + ((i : ℚ) + 1)) * (10 * ((i : ℚ) + 1)) :=
  mul_nonneg (h.price_pos i).le (by positivity)

theorem onGrid_quote (i : Nat) :
    OnGrid base.scale ((base.value + ((i : ℚ) + 1)) * (10 * ((i : ℚ) + 1))) :=
  (onGrid_price i).mul (onGrid_size 0 i)

theorem quoteTotal_held (h : Fits base depth) :
    Held base.scale (quoteTotal base.value depth + 1) := by
  refine ⟨(onGrid_sum ?_).add (onGrid_one _), add_nonneg (List.sum_nonneg ?_) zero_le_one, ?_⟩
  · intro q hq
    obtain ⟨i, -, rfl⟩ := List.mem_map.mp hq
    exact onGrid_quote i
  · intro q hq
    obtain ⟨i, -, rfl⟩ := List.mem_map.mp hq
    exact h.quote_nonneg i
  · refine lt_of_le_of_lt ?_ h.totals
    gcongr
    exact le_max_left _ _

theorem baseTotal_held (h : Fits base depth) : Held base.scale (baseTotal depth + 1) := by
  refine ⟨(onGrid_sum ?_).add (onGrid_one _), add_nonneg (List.sum_nonneg ?_) zero_le_one, ?_⟩
  · intro q hq
    obtain ⟨i, -, rfl⟩ := List.mem_map.mp hq
    exact onGrid_size _ i
  · intro q hq
    obtain ⟨i, -, rfl⟩ := List.mem_map.mp hq
    positivity
  · refine lt_of_le_of_lt ?_ h.totals
    gcongr
    exact le_max_right _ _

/-- The numbers of one order are no larger than the totals. -/
theorem price_held (h : Fits base depth) (hi : i < depth) :
    Held base.scale (base.value + ((i : ℚ) + 1)) := by
  have hterm : (base.value + ((i : ℚ) + 1)) * (10 * ((i : ℚ) + 1)) ≤
      quoteTotal base.value depth := by
    refine List.single_le_sum ?_ _ (List.mem_map.mpr ⟨i, List.mem_range.mpr hi, rfl⟩)
    intro q hq
    obtain ⟨j, -, rfl⟩ := List.mem_map.mp hq
    exact h.quote_nonneg j
  have hpos := h.price_pos i
  have hi0 : (0 : ℚ) ≤ i := Nat.cast_nonneg i
  refine h.quoteTotal_held.of_le (onGrid_price i) hpos.le ?_
  nlinarith

theorem size_held (h : Fits base depth) (hi : i < depth) :
    Held base.scale (10 * ((i : ℚ) + 1)) := by
  have hterm : 10 * ((i : ℚ) + 1) ≤ baseTotal depth := by
    refine List.single_le_sum ?_ _ (List.mem_map.mpr ⟨i, List.mem_range.mpr hi, rfl⟩)
    intro q hq
    obtain ⟨j, -, rfl⟩ := List.mem_map.mp hq
    positivity
  exact h.baseTotal_held.of_le (onGrid_size _ i) (by positivity) (by linarith)

end Fits

/-- The order at the i-th level of a side, counted from zero, as the n-th of the ladder. -/
structure IsRung (symbol : String) (side : Side) (base : ℚ) (i n : Nat) (order : Order) : Prop where
  symbol_eq : order.symbol = symbol
  side_eq : order.side = side
  price_eq : order.price.value = base + (i + 1)
  size_eq : order.size.value = 10 * (i + 1)
  id_eq : order.clientOrderId = clientOrderId n

theorem order_exact (h : Fits base depth) (hi : i < depth) (hdepth : depth < 2 ^ 32)
    (symbol : String) (levels : UInt32) (side : Side) (n : Nat) :
    ∃ order, (ofDepth symbol levels).order base side (i + 1) n = .ok order ∧
      IsRung symbol side base.value i n order := by
  have hi0 : (0 : ℚ) ≤ i := Nat.cast_nonneg i
  have hsize := h.size_held hi
  have hlevel : Held base.scale ((i : ℚ) + 1) :=
    hsize.of_le ((onGrid_natCast _ i).add (onGrid_one _)) (by linarith) (by linarith)
  have hprices : ((i + 1 : Nat) : ℚ) * (ofDepth symbol levels).priceStep.value = i + 1 := by
    change ((i + 1 : Nat) : ℚ) * one.value = _
    rw [value_one, mul_one, Nat.cast_succ]
  have hsizes : ((i + 1 : Nat) : ℚ) * (ofDepth symbol levels).sizeStep.value = 10 * (i + 1) := by
    change ((i + 1 : Nat) : ℚ) * ten.value = _
    rw [value_ten, mul_comm, Nat.cast_succ]
  have hexact : (ofDepth symbol levels).Exact base (i + 1) := by
    constructor
    · rw [hprices]
      exact hlevel.representable base.scale_le
    · rw [hprices]
      exact (h.price_held hi).representable base.scale_le
    · rw [hsizes]
      exact hsize.representable base.scale_le
  obtain ⟨order, horder, hstep⟩ := order_step hexact (lt_of_le_of_lt hi hdepth) side n
  exact ⟨order, horder, hstep.symbol_eq, hstep.side_eq, hprices ▸ hstep.price_eq,
    hsizes ▸ hstep.size_eq, hstep.id_eq⟩

/-- A side of a ladder, in the order of its prices. -/
theorem half_exact {levels : UInt32} (h : Fits base levels.toNat) (symbol : String) (side : Side)
    (first : Nat) :
    ∃ orders, (ofDepth symbol levels).half base side first = .ok orders ∧
      List.Forall₂ (fun i order => IsRung symbol side base.value i (first + i) order)
        (List.range levels.toNat) orders :=
  mapM_ok fun _ hi => order_exact h (List.mem_range.mp hi) levels.toNat_lt symbol levels side _

theorem orders_exact {levels : UInt32} (h : Fits base levels.toNat) (symbol : String) :
    ∃ asks bids, (ofDepth symbol levels).orders base = .ok (asks ++ bids) ∧
      List.Forall₂ (fun i order => IsRung symbol .sell base.value i (1 + i) order)
        (List.range levels.toNat) asks ∧
      List.Forall₂ (fun i order => IsRung symbol .buy base.value i (levels.toNat + 1 + i) order)
        (List.range levels.toNat) bids := by
  obtain ⟨asks, hasks, hasks'⟩ := half_exact h symbol .sell 1
  obtain ⟨bids, hbids, hbids'⟩ := half_exact h symbol .buy (levels.toNat + 1)
  refine ⟨asks, bids, ?_, hasks', hbids'⟩
  change (do
    let asks ← (ofDepth symbol levels).half base .sell 1
    let bids ← (ofDepth symbol levels).half base .buy (levels.toNat + 1)
    return asks ++ bids) = _
  rw [hasks, hbids]
  rfl

/-! Any ladder -/

variable {ladder : Ladder} {orders : List Order}

theorem order_eq_ok {order : Order} (h : ladder.order base side i n = .ok order) :
    order.symbol = ladder.symbol ∧ order.clientOrderId = clientOrderId n := by
  obtain ⟨_, -, h⟩ := bind_eq_ok h
  obtain ⟨_, -, h⟩ := bind_eq_ok h
  obtain ⟨_, -, h⟩ := bind_eq_ok h
  cases h
  exact ⟨rfl, rfl⟩

theorem half_eq_ok {first : Nat} (h : ladder.half base side first = .ok orders) :
    (∀ order ∈ orders, order.symbol = ladder.symbol) ∧
      orders.map (·.clientOrderId) = (List.range' first ladder.depth.toNat).map clientOrderId := by
  have hall := mapM_eq_ok_iff.mp h
  clear h
  rw [List.range'_eq_map_range, List.map_map]
  generalize List.range ladder.depth.toNat = rungs at hall
  induction hall with
  | nil => exact ⟨fun _ horder => absurd horder List.not_mem_nil, rfl⟩
  | cons horder _ ih =>
    obtain ⟨hsymbol, hid⟩ := order_eq_ok horder
    exact ⟨List.forall_mem_cons.mpr ⟨hsymbol, ih.1⟩, by simp [hid, ih.2]⟩

/-- The orders of a ladder are numbered from one on, and all are for its symbol. -/
theorem orders_eq_ok (h : ladder.orders base = .ok orders) :
    (∀ order ∈ orders, order.symbol = ladder.symbol) ∧
      orders.map (·.clientOrderId) =
        (List.range' 1 (2 * ladder.depth.toNat)).map clientOrderId := by
  obtain ⟨asks, hasks, h⟩ := bind_eq_ok h
  obtain ⟨bids, hbids, h⟩ := bind_eq_ok h
  cases h
  obtain ⟨hasks, hasks'⟩ := half_eq_ok hasks
  obtain ⟨hbids, hbids'⟩ := half_eq_ok hbids
  refine ⟨List.forall_mem_append.mpr ⟨hasks, hbids⟩, ?_⟩
  rw [List.map_append, hasks', hbids', ← List.map_append, Nat.two_mul, Nat.add_comm _ 1,
    List.range'_append_1]

end Ladder

end SweepAudit
