import Mathlib.Data.Nat.Digits.Defs
import SweepAudit.Proofs.Decimal.Text
import SweepAudit.Proofs.Ladder
import SweepAudit.Proofs.Uuid

/-!
The shape of a ladder with any steps: as many asks as bids, in the order of their levels, under ids
that identify them and could be ids of any other kind of thing. It rests on the numbers of each
order being held exactly, by itself; what rounding would make of a ladder is not told here.
-/

namespace SweepAudit

open Decimal

/-! The ids -/

namespace Text

theorem length_hexPadded {width n : Nat} (hwidth : 0 < width) (h : n < 16 ^ width) :
    (hexPadded width n).length = width := by
  have hdigits := Nat.toDigits_length 16 n width hwidth h
  rw [hexPadded, List.length_append, List.length_replicate, Nat.sub_add_cancel hdigits]

theorem isHexDigit_hexPadded (width n : Nat) :
    ∀ c ∈ hexPadded width n, isHexDigit c = true := by
  have hdigits : ∀ d < 16, isHexDigit (Nat.digitChar d) = true := by decide
  intro c hc
  rcases List.mem_append.mp hc with hc | hc
  · rw [List.eq_of_mem_replicate hc]
    rfl
  · obtain ⟨d, hd, rfl⟩ := mem_toDigits hc
    exact hdigits d hd

end Text

/-- The digits of an id without its hyphens. -/
def idDigits (n : Nat) : List Char :=
  Text.hexPadded 8 n ++ (List.replicate 12 '0' ++ Text.hexPadded 12 n)

theorem isHexDigit_idDigits (n : Nat) : ∀ c ∈ idDigits n, Text.isHexDigit c = true := by
  intro c hc
  rcases List.mem_append.mp hc with hc | hc
  · exact Text.isHexDigit_hexPadded 8 n c hc
  · rcases List.mem_append.mp hc with hc | hc
    · rw [List.eq_of_mem_replicate hc]
      rfl
    · exact Text.isHexDigit_hexPadded 12 n c hc

variable {n : Nat}

/-- The numbers of orders fit the first of the five groups. -/
theorem toList_clientOrderId_hyphenated (h : n < 2 ^ 32) :
    (idDigits n).length = 32 ∧ (clientOrderId n).toList = Uuid.hyphenated (idDigits n) := by
  have hfirst : (Text.hexPadded 8 n).length = 8 := Text.length_hexPadded (by decide) h
  have hlast : (Text.hexPadded 12 n).length = 12 :=
    Text.length_hexPadded (by decide) (lt_of_lt_of_le h (by decide))
  rw [toList_clientOrderId, idDigits]
  generalize Text.hexPadded 8 n = first at hfirst
  generalize Text.hexPadded 12 n = last at hlast
  constructor
  · simp [hfirst, hlast]
  · have hused (k : Nat) (hk : 8 ≤ k) : first.drop k = [] := List.drop_eq_nil_of_le (hfirst ▸ hk)
    simp [Uuid.hyphenated, List.drop_append, hfirst, hused]

theorem wellFormed_clientOrderId (h : n < 2 ^ 32) :
    (clientOrderId n).toList.length = 36 ∧ Uuid.isHyphenated (clientOrderId n).toList = true ∧
      Uuid.isAccepted (clientOrderId n) = true := by
  obtain ⟨hlength, htext⟩ := toList_clientOrderId_hyphenated h
  have hform : Uuid.isHyphenated (clientOrderId n).toList = true := by
    rw [htext]
    exact Uuid.isHyphenated_hyphenated (isHexDigit_idDigits n) hlength
  refine ⟨?_, hform, ?_⟩
  · rw [htext]
    simp [Uuid.hyphenated, hlength]
  · simp [Uuid.isAccepted, hform]

namespace Ladder

variable {ladder : Ladder} {base : Decimal} {side : Side} {first : Nat} {orders : List Order}

/-! The orders -/

/-- A side of a ladder level by level; its ids go on from the first. -/
def IsHalf (ladder : Ladder) (base : ℚ) (side : Side) (first : Nat) (orders : List Order) : Prop :=
  List.Forall₂ (fun i order => IsStep ladder base side i (first + i) order)
    (List.range' 1 ladder.depth.toNat) orders

theorem half_of_exact (h : ∀ i, 1 ≤ i → i ≤ ladder.depth.toNat → ladder.Exact base i)
    (side : Side) (first : Nat) :
    ∃ orders, ladder.half base side (first + 1) = .ok orders ∧
      IsHalf ladder base.value side first orders := by
  have hrung : ∀ i ∈ List.range ladder.depth.toNat, ∃ order,
      ladder.order base side (i + 1) (first + 1 + i) = .ok order ∧
        IsStep ladder base.value side (1 + i) (first + (1 + i)) order := by
    intro i hi
    have hlt := List.mem_range.mp hi
    have hdepth := ladder.depth.toNat_lt
    rw [← Nat.add_assoc first, Nat.add_comm 1 i]
    exact order_step (h (i + 1) (Nat.le_add_left 1 i) hlt) (by omega) side _
  obtain ⟨orders, horders, hsteps⟩ := mapM_ok hrung
  refine ⟨orders, horders, ?_⟩
  rw [IsHalf, List.range'_eq_map_range, List.forall₂_map_left_iff]
  exact hsteps

theorem IsHalf.length_eq {base : ℚ} (h : IsHalf ladder base side first orders) :
    orders.length = ladder.depth.toNat := by
  rw [← List.Forall₂.length_eq h, List.length_range']

/-- With a positive step the prices go up. -/
theorem IsHalf.ascending {base : ℚ} (h : IsHalf ladder base side first orders)
    (hstep : 0 < ladder.priceStep.value) :
    orders.Pairwise fun order next => order.price.value < next.price.value := by
  have hprices : (List.range' 1 ladder.depth.toNat).map
      (fun i : Nat => base + i * ladder.priceStep.value) = orders.map (·.price.value) := by
    rw [← List.forall₂_eq_eq_eq, List.forall₂_map_left_iff, List.forall₂_map_right_iff]
    exact h.imp fun _ _ hrung => hrung.price_eq.symm
  have hascending : (orders.map (·.price.value)).Pairwise (· < ·) := by
    rw [← hprices, List.pairwise_map]
    refine (List.pairwise_lt_range' 1).imp fun {i j} hij => ?_
    gcongr
  exact List.pairwise_map.mp hascending

/-- The shape of a ladder: its asks and then its bids, in the order of their levels and with the
numbers of these, under ids that are told apart and are well-formed. -/
theorem orders_shape (hdepth : ladder.depth.toNat < 2 ^ 31)
    (h : ∀ i, 1 ≤ i → i ≤ ladder.depth.toNat → ladder.Exact base i) :
    ∃ asks bids, ladder.orders base = .ok (asks ++ bids) ∧
      asks.length = ladder.depth.toNat ∧ bids.length = ladder.depth.toNat ∧
      IsHalf ladder base.value .sell 0 asks ∧
      IsHalf ladder base.value .buy ladder.depth.toNat bids ∧
      ((asks ++ bids).map (·.clientOrderId)).Nodup ∧
      (∀ order ∈ asks ++ bids, Text.isBlankText order.clientOrderId = false ∧
        order.clientOrderId.toList.length = 36 ∧
        Uuid.isHyphenated order.clientOrderId.toList = true ∧
        Uuid.isAccepted order.clientOrderId = true) ∧
      (ladder.priceStep.IsPositive →
        (asks.Pairwise fun order next => order.price < next.price) ∧
          bids.Pairwise fun order next => order.price < next.price) := by
  obtain ⟨asks, hasks, hsell⟩ := half_of_exact h .sell 0
  obtain ⟨bids, hbids, hbuy⟩ := half_of_exact h .buy ladder.depth.toNat
  have horders : ladder.orders base = .ok (asks ++ bids) := by
    rw [Ladder.orders, hasks]
    change (do
      let bids ← ladder.half base .buy (ladder.depth.toNat + 1)
      return asks ++ bids) = _
    rw [hbids]
    rfl
  have hids := (orders_eq_ok horders).2
  refine ⟨asks, bids, horders, hsell.length_eq, hbuy.length_eq, hsell, hbuy, ?_, ?_, ?_⟩
  · rw [hids]
    exact (List.nodup_range' 1).map fun _ _ => clientOrderId_injective
  · intro order horder
    have hid : order.clientOrderId ∈ (asks ++ bids).map (·.clientOrderId) :=
      List.mem_map.mpr ⟨order, horder, rfl⟩
    rw [hids] at hid
    obtain ⟨n, hn, hid⟩ := List.mem_map.mp hid
    have hlt := (List.mem_range'_1.mp hn).2
    rw [← hid]
    exact ⟨isBlankText_clientOrderId n, wellFormed_clientOrderId (by omega)⟩
  · intro hstep
    simp only [lt_iff]
    exact ⟨hsell.ascending (isPositive_iff.mp hstep), hbuy.ascending (isPositive_iff.mp hstep)⟩

/-- A ladder of twelve levels with steps of a quarter and of one and a half. -/
def quarterSteps : Ladder := ⟨"A", 12, ofText "0.25", ofText "1.5"⟩

theorem orders_shape_quarterSteps :
    ∃ asks bids, quarterSteps.orders .ten = .ok (asks ++ bids) ∧ asks.length = 12 ∧
      IsHalf quarterSteps 10 .buy 12 bids ∧
      bids.Pairwise fun order next => order.price < next.price := by
  have hprice : quarterSteps.priceStep.value = 25 / 10 ^ 2 := by
    have hread : quarterSteps.priceStep = ⟨false, 25, 2, by decide, by decide⟩ := by
      decide +kernel
    rw [hread, value_mk, withSign, if_neg Bool.false_ne_true, Nat.cast_ofNat]
  have hsize : quarterSteps.sizeStep.value = 15 / 10 ^ 1 := by
    have hread : quarterSteps.sizeStep = ⟨false, 15, 1, by decide, by decide⟩ := by
      decide +kernel
    rw [hread, value_mk, withSign, if_neg Bool.false_ne_true, Nat.cast_ofNat]
  have hexact : ∀ i, 1 ≤ i → i ≤ quarterSteps.depth.toNat → quarterSteps.Exact .ten i := by
    intro i _ hi
    have hrepresentable {n scale : Nat} (hn : n ≤ 10000) (hscale : scale ≤ 28) :
        Representable ((n : ℚ) / 10 ^ scale) :=
      representable_div (lt_of_le_of_lt hn (by decide)) hscale
    have hi : i ≤ 12 := hi
    constructor
    · have hstep : i * quarterSteps.priceStep.value = ((25 * i : Nat) : ℚ) / 10 ^ 2 := by
        rw [hprice]
        push_cast
        ring
      rw [hstep]
      exact hrepresentable (by omega) (by decide)
    · have hsum : Decimal.ten.value + i * quarterSteps.priceStep.value =
          ((1000 + 25 * i : Nat) : ℚ) / 10 ^ 2 := by
        rw [hprice, value_ten]
        push_cast
        ring
      rw [hsum]
      exact hrepresentable (by omega) (by decide)
    · have hstep : i * quarterSteps.sizeStep.value = ((15 * i : Nat) : ℚ) / 10 ^ 1 := by
        rw [hsize]
        push_cast
        ring
      rw [hstep]
      exact hrepresentable (by omega) (by decide)
  obtain ⟨asks, bids, horders, hlength, -, -, hbuy, -, -, hascending⟩ :=
    orders_shape (by decide) hexact
  rw [value_ten] at hbuy
  exact ⟨asks, bids, horders, hlength, hbuy, (hascending (by decide)).2⟩

end Ladder

end SweepAudit
