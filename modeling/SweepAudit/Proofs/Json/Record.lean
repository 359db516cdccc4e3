import SweepAudit.Json.Decode
import SweepAudit.Proofs.Except

/-!
Records that are decoded from a value. In an object each field is looked up by its name,
whatever other members stand beside it and however often, and in an array the fields come in their
order; the record can be decoded exactly if every field can. A field whose name occurs twice cannot.
Which of several faults is reported is not said here.
-/

namespace SweepAudit.Json

/-! Members that are passed over -/

mutual

theorem skip_node (j : Json) : (node j).skip = .ok () := by
  match j with
  | .null | .bool _ | .number _ | .string _ => rfl
  | .array items =>
    rw [node, Node.skip, skipItems_itemNodes items]
    rfl
  | .object members =>
    rw [node, Node.skip, skipMembers_memberNodes members]
    rfl

theorem skipItems_itemNodes (items : List Json) : Node.skipItems (itemNodes items) = .ok () := by
  match items with
  | [] => rfl
  | item :: items =>
    rw [itemNodes, Node.skipItems, skip_node item]
    exact skipItems_itemNodes items

theorem skipMembers_memberNodes (members : List (String × Json)) :
    Node.skipMembers (memberNodes members) = .ok () := by
  match members with
  | [] => rfl
  | (_, value) :: members =>
    rw [memberNodes, Node.skipMembers, skip_node value]
    exact skipMembers_memberNodes members

end

/-- An array from which a record has been taken has to be used up. -/
theorem closed_eq_ok {α : Type} {x : Decoded (α × List Node)} {source : Source} {length : Nat}
    {a : α} :
    (do
      let (a, rest) ← x
      closeArray source length rest none
      return a : Decoded α) = .ok a ↔ x = .ok (a, []) := by
  constructor
  · intro h
    obtain ⟨⟨a', rest⟩, hx, h⟩ := bind_eq_ok h
    obtain ⟨_, hclose, h⟩ := bind_eq_ok h
    cases h
    cases rest with
    | nil => exact hx
    | cons _ _ => cases source <;> cases hclose
  · intro h
    rw [h]
    rfl

/-! Members with a key -/

/-- The values of the members that have a key, which may be several in a text. -/
def valuesOf (key : String) (members : List (String × Json)) : List Json :=
  (members.filter (·.1 == key)).map (·.2)

section Keys

variable {key name : String} {members : List (String × Json)}

theorem valuesOf_own (key : String) (value : Json) (members : List (String × Json)) :
    valuesOf key ((key, value) :: members) = value :: valuesOf key members := by
  simp [valuesOf]

theorem valuesOf_other (h : key ≠ name) (value : Json) (members : List (String × Json)) :
    valuesOf name ((key, value) :: members) = valuesOf name members := by
  simp [valuesOf, h]

theorem valuesOf_eq_nil_iff : valuesOf key members = [] ↔ key ∉ members.map (·.1) := by
  rw [valuesOf, List.map_eq_nil_iff, List.filter_eq_nil_iff]
  constructor
  · intro h hmem
    obtain ⟨member, hmember, hkey⟩ := List.mem_map.mp hmem
    exact h member hmember (beq_iff_eq.mpr hkey)
  · intro h member hmember hkey
    exact h (List.mem_map.mpr ⟨member, hmember, beq_iff_eq.mp hkey⟩)

/-- Where no two members have one key, there is one value at most. -/
theorem valuesOf_of_nodup (hkeys : (members.map (·.1)).Nodup) :
    valuesOf name members = (members.lookup name).toList := by
  induction members with
  | nil => rfl
  | cons member members ih =>
    obtain ⟨key, value⟩ := member
    obtain ⟨hnew, hkeys⟩ : key ∉ members.map (·.1) ∧ (members.map (·.1)).Nodup :=
      List.nodup_cons.mp hkeys
    by_cases hkey : key = name
    · subst hkey
      rw [valuesOf_own, valuesOf_eq_nil_iff.mpr hnew, List.lookup_cons_self]
      rfl
    · rw [valuesOf_other hkey, ih hkeys, List.lookup_cons, beq_eq_false_iff_ne.mpr (Ne.symm hkey)]

end Keys

namespace Fields

variable {α β : Type} {fields : Fields α} {source : Source} {room : Nat} {slots : fields.Slots}
  {key name : String} {members : List (String × Json)}

theorem collect_put {use : Node → Decoded fields.Slots} {node : Node} (slots' : fields.Slots)
    {members : List (Option String × Node)}
    (hput : fields.put source room slots key = some use) (huse : use node = .ok slots') :
    fields.collect source room slots ((some key, node) :: members) =
      fields.collect source room slots' members := by
  simp only [collect, useContent, ofFault, bind, Except.bind, hput, huse]

theorem collect_error {use : Node → Decoded fields.Slots} {node : Node} {e : DecodeError}
    {members : List (Option String × Node)}
    (hput : fields.put source room slots key = some use) (huse : use node = .error e) :
    fields.collect source room slots ((some key, node) :: members) = .error e := by
  simp only [collect, useContent, ofFault, bind, Except.bind, hput, huse]

theorem collect_skip (hput : fields.put source room slots key = none) (value : Json)
    {members : List (Option String × Node)} :
    fields.collect source room slots ((some key, node value) :: members) =
      fields.collect source room slots members := by
  simp only [collect, useContent, ofFault, bind, Except.bind, hput, skip_node, Except.map]

theorem decode_object (record : String) (hroom : 1 < room)
    (h : fields.collect source (room - 1) fields.start (memberNodes members) = .ok slots) :
    fields.decode record source room (node (.object members)) = fields.finish slots := by
  rw [node, decode, enter, if_neg (Nat.not_le.mpr hroom), h]
  rfl

theorem collect_map (f : α → β) (part : Fields α) (slots : part.Slots) :
    (map f part).collect source room slots (memberNodes members) =
      part.collect source room slots (memberNodes members) := by
  induction members generalizing slots with
  | nil => rfl
  | cons member members ih =>
    obtain ⟨key, value⟩ := member
    cases hpart : part.put source room slots key with
    | none =>
      have hmap : (map f part).put source room slots key = none := hpart
      exact (collect_skip hmap value).trans ((ih slots).trans (collect_skip hpart value).symm)
    | some use =>
      have hmap : (map f part).put source room slots key = some use := hpart
      cases huse : use (node value) with
      | ok next =>
        exact (@collect_put _ (map f part) _ _ _ _ _ _ next _ hmap huse).trans
          ((ih next).trans (collect_put next hpart huse).symm)
      | error e => exact (collect_error hmap huse).trans (collect_error hpart huse).symm

/-- No key belongs to both parts. -/
def Apart (first : Fields α) (second : Fields β) : Prop :=
  ∀ source room slot slot' key, (first.put source room slot key).isSome →
    second.put source room slot' key = none

/-- The parts of a record do not interfere. -/
theorem collect_both {first : Fields α} {second : Fields β} (hapart : Apart first second)
    {slot found : first.Slots} {slot' found' : second.Slots} :
    (both first second).collect source room (slot, slot') (memberNodes members) =
        .ok (found, found') ↔
      first.collect source room slot (memberNodes members) = .ok found ∧
        second.collect source room slot' (memberNodes members) = .ok found' := by
  induction members generalizing slot slot' with
  | nil =>
    change Except.ok (slot, slot') = .ok (found, found') ↔
      Except.ok slot = .ok found ∧ Except.ok slot' = .ok found'
    simp
  | cons member members ih =>
    obtain ⟨key, value⟩ := member
    cases hfirst : first.put source room slot key with
    | some use =>
      have hsecond := hapart source room slot slot' key (by rw [hfirst]; rfl)
      have hboth : (both first second).put source room (slot, slot') key =
          some fun node => (use node).map fun slot => (slot, slot') := by
        simp only [both, hfirst]
      rw [memberNodes, collect_skip hsecond]
      cases huse : use (node value) with
      | ok next =>
        rw [collect_put next hfirst huse,
          collect_put (next, slot') hboth (by simp only [huse]; rfl), ih]
      | error e =>
        rw [collect_error hfirst huse, collect_error hboth (by simp only [huse]; rfl)]
        simp
    | none =>
      cases hsecond : second.put source room slot' key with
      | some use =>
        have hboth : (both first second).put source room (slot, slot') key =
            some fun node => (use node).map fun slot' => (slot, slot') := by
          simp only [both, hfirst, hsecond, Option.map_some]
        rw [memberNodes, collect_skip hfirst]
        cases huse : use (node value) with
        | ok next =>
          rw [collect_put next hsecond huse,
            collect_put (slot, next) hboth (by simp only [huse]; rfl), ih]
        | error e =>
          rw [collect_error hsecond huse, collect_error hboth (by simp only [huse]; rfl)]
          simp
      | none =>
        have hboth : (both first second).put source room (slot, slot') key = none := by
          simp only [both, hfirst, hsecond, Option.map_none]
        rw [memberNodes, collect_skip hfirst, collect_skip hsecond, collect_skip hboth, ih]

section Single

variable {decode : Decoder α} {default : Option α}

theorem put_own :
    (field name decode default []).put source room (field name decode default []).start name =
      some fun node => ((decode source room node).mapError (.below (.key name))).map some := by
  simp [field]

theorem put_other (slot : (field name decode default []).Slots) (h : key ≠ name) :
    (field name decode default []).put source room slot key = none := by
  simp [field, h]

theorem apart_field {other : String} (hname : name ≠ other) (decode' : Decoder β)
    (default' : Option β) :
    Apart (field name decode default []) (field other decode' default' []) := by
  intro source room slot slot' key h
  by_cases hkey : key = name
  · exact put_other slot' (hkey ▸ hname)
  · rw [put_other slot hkey] at h
    cases h

theorem collect_absent (slot : (field name decode default []).Slots)
    (hnone : name ∉ members.map (·.1)) :
    (field name decode default []).collect source room slot (memberNodes members) = .ok slot := by
  induction members with
  | nil => rfl
  | cons member members ih =>
    obtain ⟨key, value⟩ := member
    rw [List.map_cons, List.mem_cons, not_or] at hnone
    exact (collect_skip (put_other slot (Ne.symm hnone.1)) value).trans (ih hnone.2)

/-- A field that has been found is not found again. -/
theorem collect_repeated (a : α) (h : name ∈ members.map (·.1)) :
    ∃ e, (field name decode default []).collect source room (some a) (memberNodes members) =
      .error e := by
  induction members with
  | nil => exact absurd h List.not_mem_nil
  | cons member members ih =>
    obtain ⟨key, value⟩ := member
    by_cases hkey : key = name
    · subst hkey
      have hput : (field key decode default []).put source room (some a) key =
          some fun _ => mismatch (.duplicateField key) := by
        simp [field]
      exact ⟨_, collect_error hput rfl⟩
    · obtain ⟨e, he⟩ := ih ((List.mem_cons.mp h).resolve_left (Ne.symm hkey))
      exact ⟨e, (collect_skip (put_other _ hkey) value).trans he⟩

end Single

/-! What is read of an object -/

/-- A part of a record as it is read of the members of an object. -/
def read (fields : Fields α) (source : Source) (room : Nat) (members : List (String × Json)) :
    Decoded α :=
  fields.collect source room fields.start (memberNodes members) >>= fields.finish

theorem decode_eq_read (record : String) (hroom : 1 < room) :
    fields.decode record source room (node (.object members)) =
      fields.read source (room - 1) members := by
  rw [node, decode, enter, if_neg (Nat.not_le.mpr hroom)]
  rfl

theorem read_map {f : α → β} (hf : Function.Injective f) {part : Fields α} {a : α} :
    (map f part).read source room members = .ok (f a) ↔ part.read source room members = .ok a := by
  have hread : (map f part).read source room members = (part.read source room members).map f := by
    unfold read
    calc (map f part).collect source room part.start (memberNodes members) >>= (map f part).finish
      _ = part.collect source room part.start (memberNodes members) >>= (map f part).finish :=
          congrArg (· >>= (map f part).finish) (collect_map f part part.start)
      _ = (part.collect source room part.start (memberNodes members) >>= part.finish).map f := by
          cases part.collect source room part.start (memberNodes members) <;> rfl
  rw [hread]
  cases part.read source room members with
  | ok a' => simp [Except.map, hf.eq_iff]
  | error e => simp [Except.map]

theorem read_both {first : Fields α} {second : Fields β} (hapart : Apart first second) {a : α}
    {b : β} :
    (both first second).read source room members = .ok (a, b) ↔
      first.read source room members = .ok a ∧ second.read source room members = .ok b := by
  constructor
  · intro h
    obtain ⟨⟨slot, slot'⟩, hcollect, hfinish⟩ := bind_eq_ok h
    obtain ⟨hfirst, hsecond⟩ := (collect_both hapart).mp hcollect
    obtain ⟨a', ha, hfinish⟩ := bind_eq_ok hfinish
    obtain ⟨b', hb, hpair⟩ := bind_eq_ok hfinish
    cases hpair
    rw [read, hfirst, read, hsecond]
    exact ⟨ha, hb⟩
  · rintro ⟨hfirst, hsecond⟩
    obtain ⟨slot, hslot, ha⟩ := bind_eq_ok hfirst
    obtain ⟨slot', hslot', hb⟩ := bind_eq_ok hsecond
    have hcollect := (collect_both hapart).mpr ⟨hslot, hslot'⟩
    refine (congrArg (· >>= (both first second).finish) hcollect).trans ?_
    change (first.finish slot >>= fun a => second.finish slot' >>= fun b => .ok (a, b)) = _
    rw [ha, hb]
    rfl

/-- The field of a member that may be there is `a`. -/
def Reads (decode : Decoder α) (default : Option α) (source : Source) (room : Nat) :
    Option Json → α → Prop
  | some value, a => decode source room (node value) = .ok a
  | none, a => default = some a

section Named

variable {other : String} {decode : Decoder α} {default : Option α} {decode' : Decoder β}
  {default' : Option β} {a : α} {b : β}

/-- A field is read if at most one member has its name, and then from this member. -/
theorem read_field_iff :
    (field name decode default []).read source room members = .ok a ↔
      ∃ value?, valuesOf name members = value?.toList ∧
        Reads decode default source room value? a := by
  induction members with
  | nil =>
    have hempty : (field name decode default []).read source room [] = .ok a ↔
        default = some a := by
      cases default with
      | some b =>
        change Except.ok b = .ok a ↔ some b = some a
        simp
      | none =>
        change mismatch _ = .ok a ↔ none = some a
        simp [mismatch]
    rw [hempty]
    constructor
    · exact fun h => ⟨none, rfl, h⟩
    · rintro ⟨_ | value, hvalue, h⟩
      · exact h
      · cases hvalue
  | cons member members ih =>
    obtain ⟨key, value⟩ := member
    by_cases hkey : key = name
    · subst hkey
      have honly : (∃ value?, valuesOf key ((key, value) :: members) = value?.toList ∧
          Reads decode default source room value? a) ↔
          key ∉ members.map (·.1) ∧ decode source room (node value) = .ok a := by
        rw [← valuesOf_eq_nil_iff, valuesOf_own]
        constructor
        · rintro ⟨_ | found, hvalue, h⟩
          · cases hvalue
          · obtain ⟨rfl, hnone⟩ := List.cons.inj hvalue
            exact ⟨hnone, h⟩
        · rintro ⟨hnone, h⟩
          exact ⟨some value, by rw [hnone]; rfl, h⟩
      rw [honly, read, memberNodes]
      cases hdecode : decode source room (node value) with
      | error e =>
        rw [collect_error put_own (by rw [hdecode]; rfl)]
        exact ⟨fun h => (by cases h), fun h => (by cases h.2)⟩
      | ok b =>
        rw [collect_put (some b) put_own (by rw [hdecode]; rfl)]
        by_cases hrepeated : key ∈ members.map (·.1)
        · obtain ⟨e, he⟩ := @collect_repeated α source room key members decode default b hrepeated
          rw [he]
          exact ⟨fun h => (by cases h), fun h => absurd hrepeated h.1⟩
        · have habsent := @collect_absent α source room key members decode default (some b)
            hrepeated
          rw [habsent]
          change Except.ok b = .ok a ↔ _
          simp [hrepeated]
    · have hskip : (field name decode default []).read source room ((key, value) :: members) =
          (field name decode default []).read source room members :=
        congrArg (· >>= _) (collect_skip (put_other _ hkey) value)
      rw [hskip, ih, valuesOf_other hkey]

/-- A field is what is decoded of the member that has its name, and what it is by default if
there is none. -/
theorem read_field (hkeys : (members.map (·.1)).Nodup) :
    (field name decode default []).read source room members = .ok a ↔
      Reads decode default source room (members.lookup name) a := by
  rw [read_field_iff, valuesOf_of_nodup hkeys]
  constructor
  · rintro ⟨value?, hvalue, h⟩
    have hsame : members.lookup name = value? := by
      rw [← Option.head?_toList (o := members.lookup name), hvalue, Option.head?_toList]
    rwa [hsame]
  · exact fun h => ⟨_, rfl, h⟩

/-- Two fields are read independently of each other. -/
theorem read_fields_iff (hname : name ≠ other) :
    (both (field name decode default []) (field other decode' default' [])).read source room
        members = .ok (a, b) ↔
      (∃ value?, valuesOf name members = value?.toList ∧
        Reads decode default source room value? a) ∧
      ∃ value?, valuesOf other members = value?.toList ∧
        Reads decode' default' source room value? b :=
  (read_both (apart_field hname decode' default')).trans
    (and_congr read_field_iff read_field_iff)

theorem read_fields (hname : name ≠ other) (hkeys : (members.map (·.1)).Nodup) :
    (both (field name decode default []) (field other decode' default' [])).read source room
        members = .ok (a, b) ↔
      Reads decode default source room (members.lookup name) a ∧
        Reads decode' default' source room (members.lookup other) b :=
  (read_both (apart_field hname decode' default')).trans
    (and_congr (read_field hkeys) (read_field hkeys))

end Named

/-! What is read of an array -/

variable {items : List Json} {rest : List Node} {expected : String} {index : Nat}

theorem decode_array_eq_ok {record : String} {a : α} (hroom : 1 < room) :
    fields.decode record source room (node (.array items)) = .ok a ↔
      fields.take (lengthText record fields.size) source (room - 1) 0 (itemNodes items) none =
        .ok (a, []) := by
  rw [node, decode, enter, if_neg (Nat.not_le.mpr hroom)]
  exact closed_eq_ok

theorem take_map {f : α → β} (hf : Function.Injective f) {part : Fields α} {a : α} :
    (map f part).take expected source room index (itemNodes items) none = .ok (f a, rest) ↔
      part.take expected source room index (itemNodes items) none = .ok (a, rest) := by
  change (part.take expected source room index (itemNodes items) none).map _ = _ ↔ _
  cases part.take expected source room index (itemNodes items) none with
  | ok taken => simp [Except.map, Prod.ext_iff, hf.eq_iff]
  | error e => simp [Except.map]

theorem take_field {decode : Decoder α} {default : Option α} {a : α} :
    (field name decode default []).take expected source room index (itemNodes items) none =
        .ok (a, rest) ↔
      Reads decode default source room items.head? a ∧ itemNodes items.tail = rest := by
  cases items with
  | nil =>
    cases default with
    | none => exact ⟨fun h => (by cases h), fun h => (by cases h.1)⟩
    | some b =>
      change Except.ok (b, []) = .ok (a, rest) ↔ some b = some a ∧ [] = rest
      simp
  | cons item items =>
    constructor
    · intro h
      obtain ⟨a', hitem, h⟩ := bind_eq_ok h
      cases h
      exact ⟨mapError_eq_ok hitem, rfl⟩
    · rintro ⟨hitem, rfl⟩
      change decode source room (node item) = .ok a at hitem
      change ((decode source room (node item)).mapError _ >>= _) = _
      rw [hitem]
      rfl

/-- Two fields are the first two elements of an array. -/
theorem take_fields {other : String} {decode : Decoder α} {default : Option α}
    {decode' : Decoder β} {default' : Option β} {a : α} {b : β} :
    (both (field name decode default []) (field other decode' default' [])).take expected source
        room index (itemNodes items) none = .ok ((a, b), rest) ↔
      Reads decode default source room items[0]? a ∧
        Reads decode' default' source room items[1]? b ∧ itemNodes (items.drop 2) = rest := by
  have hsecond : items.tail.head? = items[1]? := by
    rw [List.head?_eq_getElem?, List.getElem?_tail]
  have htail : items.tail.tail = items.drop 2 := by rw [← List.drop_one, List.drop_tail]
  rw [← List.head?_eq_getElem?, ← hsecond, ← htail]
  constructor
  · intro h
    obtain ⟨⟨a', items'⟩, hfirst, h⟩ := bind_eq_ok h
    obtain ⟨ha, rfl⟩ := take_field.mp hfirst
    obtain ⟨⟨b', items'⟩, hsecond, h⟩ := bind_eq_ok h
    obtain ⟨hb, rfl⟩ := take_field.mp hsecond
    cases h
    exact ⟨ha, hb, rfl⟩
  · rintro ⟨ha, hb, rfl⟩
    change ((field name decode default []).take expected source room index (itemNodes items) none
      >>= _) = _
    rw [take_field.mpr ⟨ha, rfl⟩]
    change ((field other decode' default' []).take expected source room _ (itemNodes items.tail)
      none >>= _) = _
    rw [take_field.mpr ⟨hb, rfl⟩]
    rfl

end Fields

end SweepAudit.Json
