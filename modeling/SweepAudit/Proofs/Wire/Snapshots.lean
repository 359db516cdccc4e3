import SweepAudit.Proofs.Wire.Grammar

/-!
Which values are snapshots, and what each side of one holds. The form of a snapshot is told here
by the value alone and covers objects in which a key occurs more than once: a side that is given
twice is refused, and any other key may occur as often as it likes. The decoder's own bound on
nesting plays no part, since a snapshot has three levels of it.
-/

namespace SweepAudit.Wire

open Json

/-- A string or a number. -/
def IsAmount : Json → Prop
  | .string _ | .number _ => True
  | _ => False

/-- An array of exactly two amounts. -/
def IsLevel : Json → Prop
  | .array [price, size] => IsAmount price ∧ IsAmount size
  | _ => False

/-- What is given for a side: nothing, `null`, or one array of levels. -/
def IsSide : List Json → Prop
  | [] | [.null] => True
  | [.array items] => ∀ item ∈ items, IsLevel item
  | _ => False

/-- All that a value gives for the side with this key in an object and this place in an array. -/
def givenFor (key : String) (place : Nat) : Json → List Json
  | .object members => valuesOf key members
  | .array items => items[place]?.toList
  | _ => []

def givenAsks : Json → List Json := givenFor "asks" 0

def givenBids : Json → List Json := givenFor "bids" 1

/-- An object, or an array of at most two, in which both sides have the form of one. -/
def IsSnapshot (value : Json) : Prop :=
  (match value with
    | .object _ => True
    | .array items => items.length ≤ 2
    | _ => False) ∧
  IsSide (givenAsks value) ∧ IsSide (givenBids value)

/-- The levels of what is given for a side. -/
def levelsIn : List Json → List Json
  | [.array items] => items
  | _ => []

variable {source : Source} {room : Nat} {value : Json} {given items : List Json}

/-! Values of the right form stand for something -/

theorem exists_amountIs (h : IsAmount value) : ∃ text, AmountIs value text := by
  cases value with
  | string s => exact ⟨s, rfl⟩
  | number n => exact ⟨n.text, rfl⟩
  | null | bool _ | array _ | object _ => exact h.elim

theorem AmountIs.isAmount {text : String} (h : AmountIs value text) : IsAmount value := by
  cases value with
  | string _ | number _ => exact trivial
  | null | bool _ | array _ | object _ => exact h

theorem isLevel_iff : IsLevel value ↔ ∃ level, LevelIs value level := by
  constructor
  · intro h
    obtain ⟨price, size, rfl, hprice, hsize⟩ :
        ∃ price size, value = .array [price, size] ∧ IsAmount price ∧ IsAmount size := by
      unfold IsLevel at h
      split at h
      · exact ⟨_, _, rfl, h⟩
      · exact h.elim
    obtain ⟨p, hp⟩ := exists_amountIs hprice
    obtain ⟨s, hs⟩ := exists_amountIs hsize
    exact ⟨⟨p, s⟩, hp, hs⟩
  · rintro ⟨level, h⟩
    unfold LevelIs at h
    split at h
    · exact ⟨h.1.isAmount, h.2.isAmount⟩
    · exact h.elim

theorem all_isLevel_iff :
    (∀ item ∈ items, IsLevel item) ↔ ∃ levels, List.Forall₂ LevelIs items levels := by
  constructor
  · intro h
    induction items with
    | nil => exact ⟨[], .nil⟩
    | cons item items ih =>
      obtain ⟨level, hlevel⟩ := isLevel_iff.mp (h item List.mem_cons_self)
      obtain ⟨levels, hlevels⟩ := ih fun item hitem => h item (List.mem_cons_of_mem _ hitem)
      exact ⟨level :: levels, .cons hlevel hlevels⟩
  · rintro ⟨levels, h⟩
    induction h with
    | nil => exact fun item hitem => absurd hitem List.not_mem_nil
    | cons hlevel _ ih =>
      exact List.forall_mem_cons.mpr ⟨isLevel_iff.mpr ⟨_, hlevel⟩, ih⟩

/-! Sides -/

theorem sideIs_iff {value? : Option Json} {levels : List Level} :
    SideIs value? levels ↔
      IsSide value?.toList ∧ List.Forall₂ LevelIs (levelsIn value?.toList) levels := by
  have hempty : [] = levels ↔ List.Forall₂ LevelIs [] levels := by
    rw [List.forall₂_nil_left_iff, eq_comm]
  match value? with
  | none | some .null => exact hempty.trans (iff_of_eq (true_and _)).symm
  | some (.bool _) | some (.number _) | some (.string _) | some (.object _) =>
    exact ⟨False.elim, fun h => h.1⟩
  | some (.array items) => exact ⟨fun h => ⟨all_isLevel_iff.mpr ⟨_, h⟩, h⟩, fun h => h.2⟩

/-- No side has been given more than once. -/
theorem sideIs_given {levels : List Level} :
    (∃ value?, given = value?.toList ∧ SideIs value? levels) ↔
      IsSide given ∧ List.Forall₂ LevelIs (levelsIn given) levels := by
  constructor
  · rintro ⟨value?, rfl, h⟩
    exact sideIs_iff.mp h
  · rintro ⟨hside, hlevels⟩
    obtain ⟨value?, rfl⟩ : ∃ value? : Option Json, given = value?.toList := by
      match given with
      | [] => exact ⟨none, rfl⟩
      | [value] => exact ⟨some value, rfl⟩
      | _ :: _ :: _ => simp [IsSide] at hside
    exact ⟨value?, rfl, sideIs_iff.mpr ⟨hside, hlevels⟩⟩

theorem exists_levels (h : IsSide given) :
    ∃ levels, List.Forall₂ LevelIs (levelsIn given) levels := by
  refine all_isLevel_iff.mp ?_
  unfold levelsIn
  split
  · exact h
  · exact fun item hitem => absurd hitem List.not_mem_nil

/-! Snapshots -/

/-- What is read as a snapshot, and what is read of it. -/
theorem decodeSnapshot_iff {snapshot : Snapshot} (hroom : 3 < room) :
    decodeSnapshot source room (node value) = .ok snapshot ↔
      IsSnapshot value ∧ List.Forall₂ LevelIs (levelsIn (givenAsks value)) snapshot.asks ∧
        List.Forall₂ LevelIs (levelsIn (givenBids value)) snapshot.bids := by
  have hregroup (asks bids : List Json) :
      (IsSide asks ∧ List.Forall₂ LevelIs (levelsIn asks) snapshot.asks) ∧
          IsSide bids ∧ List.Forall₂ LevelIs (levelsIn bids) snapshot.bids ↔
        (IsSide asks ∧ IsSide bids) ∧ List.Forall₂ LevelIs (levelsIn asks) snapshot.asks ∧
          List.Forall₂ LevelIs (levelsIn bids) snapshot.bids := and_and_and_comm
  match value with
  | .null | .bool _ | .number _ | .string _ => exact ⟨fun h => (by cases h), fun h => h.1.1.elim⟩
  | .object members =>
    have hread : decodeSnapshot source room (node (.object members)) = .ok snapshot ↔
        (∃ value?, valuesOf "asks" members = value?.toList ∧ SideIs value? snapshot.asks) ∧
          ∃ value?, valuesOf "bids" members = value?.toList ∧ SideIs value? snapshot.bids := by
      have hside (side : Option Json) (levels : List Level) :
          Fields.Reads decodeLevels (some []) source (room - 1) side levels ↔ SideIs side levels :=
        reads_side (by omega)
      rw [decodeSnapshot, Fields.decode_eq_read _ (by omega : 1 < room)]
      refine (Fields.read_map snapshot_injective).trans
        ((Fields.read_fields_iff (by decide)).trans ?_)
      simp only [hside]
    rw [hread, sideIs_given, sideIs_given, hregroup]
    exact and_congr_left' (iff_of_eq (true_and _)).symm
  | .array items =>
    rw [decodeSnapshot_array hroom, sideIs_iff, sideIs_iff, hregroup, ← and_assoc]
    exact Iff.rfl

/-- A value is read as a snapshot exactly if it has the form of one. The snapshot then has on each
side the levels that are given for it, in their order and as they are, and a purchase is offered
its asks and a sale its bids. -/
theorem decodeSnapshot_exact (hroom : 3 < room) (source : Source) (value : Json) :
    ((∃ snapshot, decodeSnapshot source room (node value) = .ok snapshot) ↔ IsSnapshot value) ∧
      ∀ snapshot, decodeSnapshot source room (node value) = .ok snapshot →
        List.Forall₂ LevelIs (levelsIn (givenAsks value)) (snapshot.liquidityFor .buy) ∧
          List.Forall₂ LevelIs (levelsIn (givenBids value)) (snapshot.liquidityFor .sell) ∧
          snapshot.liquidityFor .buy = snapshot.asks ∧
          snapshot.liquidityFor .sell = snapshot.bids := by
  refine ⟨⟨?_, ?_⟩, ?_⟩
  · rintro ⟨snapshot, h⟩
    exact ((decodeSnapshot_iff hroom).mp h).1
  · intro h
    obtain ⟨asks, hasks⟩ := exists_levels h.2.1
    obtain ⟨bids, hbids⟩ := exists_levels h.2.2
    exact ⟨⟨asks, bids⟩, (decodeSnapshot_iff hroom).mpr ⟨h, hasks, hbids⟩⟩
  · intro snapshot h
    obtain ⟨-, hasks, hbids⟩ := (decodeSnapshot_iff hroom).mp h
    exact ⟨hasks, hbids, rfl, rfl⟩

/-- Amounts with and without quotes, one side `null`, and two keys that do not count. -/
def mixedDepth : Json :=
  .object
    [("time", .null), ("bids", .null), ("time", .bool true),
      ("asks", .array
        [.array [.string "2001", .string "10"],
          .array [.number (.whole 2002), .string "020.50"]])]

theorem decodeSnapshot_exact_mixedDepth :
    3 < depthLimit ∧
      decodeSnapshot .text depthLimit (node mixedDepth) =
        .ok ⟨[⟨"2001", "10"⟩, ⟨"2002", "020.50"⟩], []⟩ := by
  have hroom : 3 < depthLimit := by decide
  obtain ⟨haccepts, hsides⟩ := decodeSnapshot_exact hroom .text mixedDepth
  have hasks : givenAsks mixedDepth = [.array
      [.array [.string "2001", .string "10"],
        .array [.number (.whole 2002), .string "020.50"]]] := by
    simp [givenAsks, givenFor, valuesOf, mixedDepth]
  have hbids : givenBids mixedDepth = [.null] := by
    simp [givenBids, givenFor, valuesOf, mixedDepth]
  have hform : IsSnapshot mixedDepth := by
    refine ⟨trivial, ?_, ?_⟩
    · rw [hasks]
      simp [IsSide, IsLevel, IsAmount]
    · rw [hbids]
      exact trivial
  obtain ⟨⟨asks, bids⟩, hsnapshot⟩ := haccepts.mpr hform
  obtain ⟨hbought, hsold, -, -⟩ := hsides _ hsnapshot
  rw [hasks] at hbought
  rw [hbids] at hsold
  -- The levels are determined one by one.
  obtain _ | @⟨-, ⟨_, _⟩, -, _, ⟨rfl, rfl⟩, _ | @⟨-, ⟨_, _⟩, -, _, ⟨rfl, rfl⟩, _ | _⟩⟩ := hbought
  cases hsold
  have hwhole : (Number.whole 2002).text = "2002" := by decide +kernel
  refine ⟨hroom, hsnapshot.trans ?_⟩
  rw [hwhole]

end SweepAudit.Wire
