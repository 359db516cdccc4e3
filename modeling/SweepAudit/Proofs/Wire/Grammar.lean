import Mathlib.Data.List.Forall2
import SweepAudit.Proofs.Json.Keys
import SweepAudit.Proofs.Wire

/-!
What can be read as depth. A level is an array of two, each of them a string or a number; a
side is an array of levels, and empty where it is `null` or missing; and a snapshot is an
object with the two sides among its members, or an array of at most two sides. Nothing else is
read, and of these nothing is lost.
-/

namespace SweepAudit.Wire

open Json

/-- The text that stands for an amount. -/
def AmountIs : Json → String → Prop
  | .string s, text => s = text
  | .number n, text => n.text = text
  | _, _ => False

def LevelIs : Json → Level → Prop
  | .array [price, size], level => AmountIs price level.price ∧ AmountIs size level.size
  | _, _ => False

def SideIs : Option Json → List Level → Prop
  | none, levels => [] = levels
  | some .null, levels => [] = levels
  | some (.array items), levels => List.Forall₂ LevelIs items levels
  | _, _ => False

def SnapshotIs : Json → Snapshot → Prop
  | .object members, snapshot =>
    SideIs (members.lookup "asks") snapshot.asks ∧ SideIs (members.lookup "bids") snapshot.bids
  | .array items, snapshot =>
    items.length ≤ 2 ∧ SideIs items[0]? snapshot.asks ∧ SideIs items[1]? snapshot.bids
  | _, _ => False

/-- What a reply to a depth request has for data, which may be missing. -/
def DataIs : Option Json → Option Snapshot → Prop
  | none, none => True
  | some .null, none => True
  | some value, some snapshot => SnapshotIs value snapshot
  | _, _ => False

variable {source : Source} {room : Nat}

/-! Amounts -/

theorem ofFault_eq_ok {α : Type} {x : Except Fault α} {a : α} (h : ofFault x = .ok a) :
    x = .ok a := by
  cases x with
  | ok a' =>
    cases h
    rfl
  | error f => cases h

/-- A container is no amount, whether or not it can be read to its end. -/
theorem decodeAmount_ne_ok {n : Node} {text : String}
    (h : ∀ value, n.value room = .ok value → (∃ items, value = .array items) ∨
      ∃ members, value = .object members) :
    decodeAmount source room n ≠ .ok text := by
  intro htext
  obtain ⟨value, hvalue, htext⟩ := bind_eq_ok htext
  obtain ⟨items, rfl⟩ | ⟨members, rfl⟩ := h value (ofFault_eq_ok hvalue) <;> cases htext

theorem decodeAmount_eq_ok {value : Json} {text : String} :
    decodeAmount source room (node value) = .ok text ↔ AmountIs value text := by
  cases value with
  | null | bool _ => exact ⟨fun h => (by cases h), False.elim⟩
  | number _ | string _ =>
    change Except.ok _ = .ok text ↔ _
    simp [AmountIs]
  | array items =>
    refine ⟨fun h => absurd h (decodeAmount_ne_ok fun value hvalue => ?_), False.elim⟩
    rw [node, Node.value] at hvalue
    split at hvalue
    · cases hvalue
    · obtain ⟨values, -, hvalue⟩ := bind_eq_ok hvalue
      cases hvalue
      exact .inl ⟨values, rfl⟩
  | object members =>
    refine ⟨fun h => absurd h (decodeAmount_ne_ok fun value hvalue => ?_), False.elim⟩
    rw [node, Node.value] at hvalue
    split at hvalue
    · cases hvalue
    · obtain ⟨values, -, hvalue⟩ := bind_eq_ok hvalue
      cases hvalue
      exact .inr ⟨values, rfl⟩

/-! Levels -/

theorem decodePair_eq_ok {price size : Json} {rest rest' : List Node} {flaw : Option Flaw}
    {level : Level} :
    decodePair source room flaw (node price :: node size :: rest) = .ok (level, rest') ↔
      AmountIs price level.price ∧ AmountIs size level.size ∧ rest = rest' := by
  constructor
  · intro h
    obtain ⟨p, hprice, h⟩ := bind_eq_ok h
    obtain ⟨s, hsize, h⟩ := bind_eq_ok h
    cases h
    exact ⟨decodeAmount_eq_ok.mp (mapError_eq_ok hprice),
      decodeAmount_eq_ok.mp (mapError_eq_ok hsize), rfl⟩
  · rintro ⟨hprice, hsize, rfl⟩
    rw [decodePair, decodeAmount_eq_ok.mpr hprice, decodeAmount_eq_ok.mpr hsize]
    rfl

theorem decodeLevel_eq_ok {value : Json} {level : Level} (hroom : 1 < room) :
    decodeLevel source room (node value) = .ok level ↔ LevelIs value level := by
  have harray (items : List Json) : decodeLevel source room (node (.array items)) = .ok level ↔
      decodePair source (room - 1) none (itemNodes items) = .ok (level, []) := by
    rw [node, decodeLevel, enter, if_neg (Nat.not_le.mpr hroom)]
    exact closed_eq_ok
  cases value with
  | null | bool _ | number _ | string _ | object _ =>
    exact ⟨fun h => (by cases h), False.elim⟩
  | array items =>
    rcases items with _ | ⟨price, _ | ⟨size, _ | ⟨other, rest⟩⟩⟩
    · exact (harray []).trans ⟨fun h => (by cases h), False.elim⟩
    · refine (harray [price]).trans ⟨fun h => ?_, False.elim⟩
      obtain ⟨_, -, h⟩ := bind_eq_ok h
      cases h
    · refine (harray [price, size]).trans (decodePair_eq_ok.trans ?_)
      simp [LevelIs, itemNodes]
    · refine (harray (price :: size :: other :: rest)).trans (decodePair_eq_ok.trans ?_)
      simp [LevelIs, itemNodes]

/-! Sides -/

theorem decodeItems_eq_ok {items : List Json} {levels : List Level} (hroom : 1 < room)
    (source : Source) (index : Nat) :
    decodeItems (decodeLevel source room) index (itemNodes items) = .ok levels ↔
      List.Forall₂ LevelIs items levels := by
  induction items generalizing index levels with
  | nil =>
    change Except.ok [] = .ok levels ↔ _
    simp [eq_comm]
  | cons item items ih =>
    rw [itemNodes, decodeItems]
    constructor
    · intro h
      obtain ⟨level, hlevel, h⟩ := bind_eq_ok h
      obtain ⟨rest, hrest, h⟩ := bind_eq_ok h
      cases h
      exact .cons ((decodeLevel_eq_ok hroom).mp (mapError_eq_ok hlevel)) ((ih _).mp hrest)
    · rintro (_ | ⟨hlevel, hrest⟩)
      rw [(decodeLevel_eq_ok hroom).mpr hlevel, (ih _).mpr hrest]
      rfl

theorem decodeLevels_eq_ok {value : Json} {levels : List Level} (hroom : 2 < room) :
    decodeLevels source room (node value) = .ok levels ↔ SideIs (some value) levels := by
  match value with
  | .null =>
    change Except.ok [] = .ok levels ↔ [] = levels
    simp
  | .bool _ | .number _ | .string _ | .object _ => exact ⟨fun h => (by cases h), False.elim⟩
  | .array items =>
    refine Iff.trans ?_ (decodeItems_eq_ok (by omega : 1 < room - 1) source 0)
    simp only [node, decodeLevels, decodeOption, decodeList, enter,
      if_neg (by omega : ¬room ≤ 1)]
    cases decodeItems (decodeLevel source (room - 1)) 0 (itemNodes items) with
    | ok levels' => rfl
    | error e => exact ⟨fun h => (by cases h), fun h => (by cases h)⟩

theorem reads_side {side : Option Json} {levels : List Level} (hroom : 2 < room) :
    Fields.Reads decodeLevels (some []) source room side levels ↔ SideIs side levels := by
  cases side with
  | none => simp [Fields.Reads, SideIs]
  | some value => exact decodeLevels_eq_ok hroom

/-! Snapshots -/

theorem decodeSnapshot_array {items : List Json} {snapshot : Snapshot} (hroom : 3 < room) :
    decodeSnapshot source room (node (.array items)) = .ok snapshot ↔
      items.length ≤ 2 ∧ SideIs items[0]? snapshot.asks ∧ SideIs items[1]? snapshot.bids := by
  refine (Fields.decode_array_eq_ok (by omega)).trans ((Fields.take_map snapshot_injective).trans
    (Fields.take_fields.trans ?_))
  have hused : itemNodes (items.drop 2) = [] ↔ items.length ≤ 2 := by
    rw [← List.drop_eq_nil_iff]
    cases items.drop 2 <;> simp [itemNodes]
  rw [reads_side (by omega), reads_side (by omega), hused]
  exact ⟨fun h => ⟨h.2.2, h.1, h.2.1⟩, fun h => ⟨h.2.1, h.2.2, h.1⟩⟩

theorem decodeSnapshot_eq_ok {value : Json} {snapshot : Snapshot} (hroom : 3 < room)
    (hkeyed : Keyed value) :
    decodeSnapshot source room (node value) = .ok snapshot ↔ SnapshotIs value snapshot := by
  match value with
  | .null | .bool _ | .number _ | .string _ => exact ⟨fun h => (by cases h), False.elim⟩
  | .object members =>
    exact (decodeSnapshot_object (by omega) hkeyed.1.nodup).trans
      (and_congr (reads_side (by omega)) (reads_side (by omega)))
  | .array _ => exact decodeSnapshot_array hroom

/-! Replies -/

theorem decodeOption_eq_ok {α : Type} {decode : Decoder α} {value : Json} {a? : Option α}
    (h : value ≠ .null) :
    decodeOption decode source room (node value) = .ok a? ↔
      ∃ a, some a = a? ∧ decode source room (node value) = .ok a := by
  have hdecode : decodeOption decode source room (node value) =
      (decode source room (node value)).map some := by
    cases value with
    | null => exact absurd rfl h
    | bool _ | number _ | string _ | array _ | object _ => rfl
  rw [hdecode]
  cases decode source room (node value) with
  | ok a => simp [Except.map]
  | error e => simp [Except.map]

theorem dataIs_some {value : Json} {data : Option Snapshot} (h : value ≠ .null) :
    DataIs (some value) data ↔ ∃ snapshot, some snapshot = data ∧ SnapshotIs value snapshot := by
  cases data with
  | none => cases value <;> simp_all [DataIs]
  | some snapshot => simp [DataIs]

theorem reads_data {value : Option Json} {data : Option Snapshot} (hroom : 3 < room)
    (hkeyed : ∀ j, value = some j → Keyed j) :
    Fields.Reads (decodeOption decodeSnapshot) (some none) source room value data ↔
      DataIs value data := by
  match value with
  | none => cases data <;> simp [Fields.Reads, DataIs]
  | some value =>
    by_cases hnull : value = .null
    · subst hnull
      cases data <;> simp [Fields.Reads, DataIs, SnapshotIs, decodeOption, node]
    · exact (decodeOption_eq_ok hnull).trans (Iff.trans (exists_congr fun snapshot =>
        and_congr_right' (decodeSnapshot_eq_ok hroom (hkeyed value rfl))) (dataIs_some hnull).symm)

/-- A reply with a code is read if its data can be. -/
theorem decodeDepthReply_eq_ok {members : List (String × Json)} {code : String}
    {reply : DepthReply} (hroom : 4 < room) (hkeyed : Keyed (.object members))
    (hcode : members.lookup "code" = some (.string code)) :
    decodeDepthReply source room (node (.object members)) = .ok reply ↔
      code = reply.code ∧ DataIs (members.lookup "data") reply.data := by
  rw [decodeDepthReply_object (by omega) hkeyed.1.nodup,
    reads_data (by omega) fun _ => hkeyed.2.lookup, hcode]
  refine and_congr_left' ?_
  change Except.ok code = .ok reply.code ↔ code = reply.code
  simp

end SweepAudit.Wire
