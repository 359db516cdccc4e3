import SweepAudit.Json.Decode
import SweepAudit.Proofs.Json.Reader

/-!
Values that are read in full from a text. They come out as they were written, but for the
members of objects, which are sorted by their keys.
-/

namespace SweepAudit.Json

mutual

/-- The value with the members of its objects sorted, of several equal keys only the last. -/
def sorted : Json → Json
  | .null => .null
  | .bool b => .bool b
  | .number n => .number n
  | .string s => .string s
  | .array items => .array (sortedItems items)
  | .object members => .object (sortedMembers [] members)

def sortedItems : List Json → List Json
  | [] => []
  | item :: items => sorted item :: sortedItems items

def sortedMembers (sofar : List (String × Json)) : List (String × Json) → List (String × Json)
  | [] => sofar
  | (key, value) :: members => sortedMembers (Node.insertMember key (sorted value) sofar) members

end

mutual

/-- How deep containers are nested in a value. -/
def nesting : Json → Nat
  | .null | .bool _ | .number _ | .string _ => 0
  | .array items => itemsNesting items + 1
  | .object members => membersNesting members + 1

def itemsNesting : List Json → Nat
  | [] => 0
  | item :: items => max (nesting item) (itemsNesting items)

def membersNesting : List (String × Json) → Nat
  | [] => 0
  | (_, value) :: members => max (nesting value) (membersNesting members)

end

mutual

theorem value_node (j : Json) {room : Nat} (h : nesting j < room) :
    (node j).value room = .ok (sorted j) := by
  match j with
  | .null | .bool b | .number n | .string s => rfl
  | .array items =>
    rw [nesting] at h
    have hroom : ¬room ≤ 1 := by omega
    rw [node, Node.value, if_neg hroom, itemValues_itemNodes items (by omega)]
    rfl
  | .object members =>
    rw [nesting] at h
    have hroom : ¬room ≤ 1 := by omega
    rw [node, Node.value, if_neg hroom, memberValues_memberNodes members [] (by omega)]
    rfl

theorem itemValues_itemNodes (items : List Json) {room : Nat} (h : itemsNesting items < room) :
    Node.itemValues room (itemNodes items) = .ok (sortedItems items) := by
  match items with
  | [] => rfl
  | item :: items =>
    rw [itemsNesting, Nat.max_lt] at h
    rw [itemNodes, Node.itemValues, value_node item h.1, itemValues_itemNodes items h.2]
    rfl

theorem memberValues_memberNodes (members : List (String × Json)) (sofar : List (String × Json))
    {room : Nat} (h : membersNesting members < room) :
    Node.memberValues room sofar (memberNodes members) = .ok (sortedMembers sofar members) := by
  match members with
  | [] => rfl
  | (key, value) :: members =>
    rw [membersNesting, Nat.max_lt] at h
    rw [memberNodes, Node.memberValues]
    simp only [useContent, bind, Except.bind, value_node value h.1]
    exact memberValues_memberNodes members _ h.2

end

/-! Arrays whose items are written alike -/

section Alike

variable {α : Type} {encode : α → Json}

theorem decodeItems_map {decode : Node → Decoded α} (h : ∀ a, decode (node (encode a)) = .ok a)
    (index : Nat) (as : List α) :
    decodeItems decode index (itemNodes (as.map encode)) = .ok as := by
  induction as generalizing index with
  | nil => rfl
  | cons a as ih =>
    rw [List.map_cons, itemNodes, decodeItems, h, ih]
    rfl

variable (encode)

theorem itemsReadable_map (h : ∀ a, Readable (encode a)) (as : List α) :
    ItemsReadable (as.map encode) := by
  induction as with
  | nil => trivial
  | cons a as ih => exact ⟨h a, ih⟩

theorem sortedItems_map (h : ∀ a, sorted (encode a) = encode a) (as : List α) :
    sortedItems (as.map encode) = as.map encode := by
  induction as with
  | nil => rfl
  | cons a as ih => rw [List.map_cons, sortedItems, h, ih]

theorem itemsNesting_map {n : Nat} (h : ∀ a, nesting (encode a) ≤ n) (as : List α) :
    itemsNesting (as.map encode) ≤ n := by
  induction as with
  | nil => exact Nat.zero_le _
  | cons a as ih => exact Nat.max_le.mpr ⟨h a, ih⟩

end Alike

/-- A text that was written for a value is read as this value. -/
theorem parse_text {j : Json} (h : Readable j) (hnesting : nesting j < depthLimit) :
    parse j.text = .ok (sorted j) := by
  rw [parse, readDocument_text h]
  simp only [bind, Except.bind, value_node j hnesting, pure, Except.pure, if_true]

/-- A decoder that lets anything follow a value sees the tree of the value. -/
theorem decodeLeading_text {α : Type} (decode : Decoder α) {j : Json} (h : Readable j) :
    decodeLeading decode j.text = decode .text depthLimit (node j) := by
  rw [decodeLeading, readDocument_text h]

end SweepAudit.Json
