/-!
The ways through a collection that has no order of its own. Such a collection is kept as a
list here, and what goes through it is told how: nothing may depend on the order of the
list.
-/

namespace SweepAudit

/-- A way to go through collections: the members of each in some order. -/
structure Walk (α : Type) where
  order : List α → List α
  perm : ∀ members, (order members).Perm members

namespace Walk

variable {α : Type}

/-- Goes through the members as they stand in their list. -/
def standing : Walk α := ⟨id, .refl⟩

end Walk

end SweepAudit
