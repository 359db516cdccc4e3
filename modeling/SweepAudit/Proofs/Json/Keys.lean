import SweepAudit.Json.Reader
import SweepAudit.Proofs.Except

/-!
The keys of a value that has been read in full. At every level of it the keys of an object
ascend, so that no two members share one. This is said of the value and not of its text, in
which a key may be repeated.
-/

namespace SweepAudit.Json

/-- The members have ascending keys. -/
def Ascending (members : List (String × Json)) : Prop :=
  members.Pairwise fun member next => member.1 < next.1

mutual

def Keyed : Json → Prop
  | .null | .bool _ | .number _ | .string _ => True
  | .array items => ItemsKeyed items
  | .object members => Ascending members ∧ MembersKeyed members

def ItemsKeyed : List Json → Prop
  | [] => True
  | item :: items => Keyed item ∧ ItemsKeyed items

def MembersKeyed : List (String × Json) → Prop
  | [] => True
  | (_, value) :: members => Keyed value ∧ MembersKeyed members

end

/-! Putting members in -/

variable {key : String} {value : Json} {members : List (String × Json)}

theorem fst_of_mem_insertMember {member : String × Json}
    (h : member ∈ Node.insertMember key value members) :
    member.1 = key ∨ member ∈ members := by
  induction members with
  | nil =>
    cases List.mem_singleton.mp h
    exact .inl rfl
  | cons first members ih =>
    obtain ⟨k, v⟩ := first
    unfold Node.insertMember at h
    split at h
    · rcases List.mem_cons.mp h with rfl | h
      · exact .inl rfl
      · exact .inr h
    · split at h
      · rcases List.mem_cons.mp h with rfl | h
        · exact .inl rfl
        · exact .inr (List.mem_cons_of_mem _ h)
      · rcases List.mem_cons.mp h with rfl | h
        · exact .inr List.mem_cons_self
        · exact (ih h).imp_right (List.mem_cons_of_mem _)

theorem ascending_insertMember (h : Ascending members) :
    Ascending (Node.insertMember key value members) := by
  induction members with
  | nil => exact List.pairwise_singleton _ _
  | cons first members ih =>
    obtain ⟨k, v⟩ := first
    obtain ⟨hfirst, hrest⟩ := List.pairwise_cons.mp h
    unfold Node.insertMember
    split
    · rename_i hlt
      refine List.pairwise_cons.mpr ⟨fun member hmember => ?_, h⟩
      rcases List.mem_cons.mp hmember with rfl | hmember
      · exact hlt
      · exact String.lt_trans hlt (hfirst member hmember)
    · rename_i hnot
      split
      · rename_i heq
        subst heq
        exact List.pairwise_cons.mpr ⟨hfirst, hrest⟩
      · rename_i hne
        have hlt : k < key := Std.lt_of_le_of_ne (String.not_lt.mp hnot) (Ne.symm hne)
        refine List.pairwise_cons.mpr ⟨fun member hmember => ?_, ih hrest⟩
        rcases fst_of_mem_insertMember hmember with heq | hmember
        · exact heq ▸ hlt
        · exact hfirst member hmember

theorem membersKeyed_insertMember (hvalue : Keyed value) (h : MembersKeyed members) :
    MembersKeyed (Node.insertMember key value members) := by
  induction members with
  | nil => exact ⟨hvalue, h⟩
  | cons first members ih =>
    obtain ⟨k, v⟩ := first
    unfold Node.insertMember
    split
    · exact ⟨hvalue, h⟩
    · split
      · exact ⟨hvalue, h.2⟩
      · exact ⟨h.1, ih h.2⟩

/-! Reading in full -/

mutual

theorem keyed_value {node : Node} {room : Nat} {value : Json} (h : node.value room = .ok value) :
    Keyed value := by
  match node with
  | .null | .bool _ =>
    cases h
    trivial
  | .number none | .string none => cases h
  | .number (some _) | .string (some _) =>
    cases h
    trivial
  | .array items flaw =>
    rw [Node.value] at h
    split at h
    · cases h
    · obtain ⟨values, hvalues, h⟩ := bind_eq_ok h
      obtain ⟨_, -, h⟩ := bind_eq_ok h
      cases h
      exact keyed_itemValues hvalues
  | .object members flaw =>
    rw [Node.value] at h
    split at h
    · cases h
    · obtain ⟨values, hvalues, h⟩ := bind_eq_ok h
      obtain ⟨_, -, h⟩ := bind_eq_ok h
      cases h
      exact keyed_memberValues .nil trivial hvalues
  | .broken _ => cases h

theorem keyed_itemValues {nodes : List Node} {room : Nat} {items : List Json}
    (h : Node.itemValues room nodes = .ok items) : ItemsKeyed items := by
  match nodes with
  | [] =>
    cases h
    trivial
  | node :: nodes =>
    obtain ⟨value, hvalue, h⟩ := bind_eq_ok h
    obtain ⟨values, hvalues, h⟩ := bind_eq_ok h
    cases h
    exact ⟨keyed_value hvalue, keyed_itemValues hvalues⟩

theorem keyed_memberValues {nodes : List (Option String × Node)} {room : Nat}
    {sofar members : List (String × Json)} (hsofar : Ascending sofar)
    (hkeyed : MembersKeyed sofar) (h : Node.memberValues room sofar nodes = .ok members) :
    Ascending members ∧ MembersKeyed members := by
  match nodes with
  | [] =>
    cases h
    exact ⟨hsofar, hkeyed⟩
  | (key, node) :: nodes =>
    obtain ⟨k, -, h⟩ := bind_eq_ok h
    obtain ⟨value, hvalue, h⟩ := bind_eq_ok h
    exact keyed_memberValues (ascending_insertMember hsofar)
      (membersKeyed_insertMember (keyed_value hvalue) hkeyed) h

end

theorem keyed_parse {text : String} (h : parse text = .ok value) : Keyed value := by
  obtain ⟨value', hvalue, h⟩ := bind_eq_ok h
  split at h
  · cases h
    exact keyed_value hvalue
  · cases h

/-! What is kept of it -/

theorem Ascending.nodup (h : Ascending members) : (members.map (·.1)).Nodup := by
  refine List.pairwise_map.mpr (h.imp ?_)
  intro member next hlt heq
  rw [heq] at hlt
  exact String.lt_irrefl _ hlt

theorem MembersKeyed.lookup (h : MembersKeyed members) (hvalue : members.lookup key = some value) :
    Keyed value := by
  induction members with
  | nil => cases hvalue
  | cons first members ih =>
    obtain ⟨k, v⟩ := first
    rw [List.lookup_cons] at hvalue
    split at hvalue
    · cases hvalue
      exact h.1
    · exact ih h.2 hvalue

end SweepAudit.Json
