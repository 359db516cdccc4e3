import SweepAudit.Http.Target
import SweepAudit.Proofs.Http.Address
import SweepAudit.Proofs.Text.Digits

/-!
Targets as an exchange takes them apart again. The path and the query of a quiet address
come out as they were put together.
-/

namespace SweepAudit.Http

open Text

variable {segments : List (List Char)} {query : Option (List Char)}

theorem ofText_pathAndQuery (hne : segments ≠ []) (h : ∀ segment ∈ segments, Unbroken segment)
    (hquery : ∀ q ∈ query, ∀ c ∈ q, c ≠ '#') :
    Target.ofText (String.ofList (pathAndQuery segments query)) =
      ⟨segments.flatMap ('/' :: ·), query.getD []⟩ := by
  have hbehind : Target.behindAuthority (pathAndQuery segments query) =
      pathAndQuery segments query := by
    obtain ⟨rest, hrest⟩ := pathAndQuery_eq_cons hne query
    rw [hrest]
    rfl
  rw [Target.ofText, String.toList_ofList, hbehind, cut_fragment h hquery]
  simp only [cut_query h]

theorem segments_path (hne : segments ≠ []) (h : ∀ segment ∈ segments, Unbroken segment)
    (query : List Char) :
    (Target.mk (segments.flatMap ('/' :: ·)) query).segments = [] :: segments := by
  have hslash : ∀ segment ∈ segments, ∀ c ∈ segment, (c == '/') = false :=
    fun segment hs c hc => beq_eq_false_iff_ne.mpr (h segment hs c hc).1
  have hsplit := splitBy_segments (· == '/') rfl hne hslash
  cases segments with
  | nil => exact absurd rfl hne
  | cons segment segments =>
    change splitBy (· == '/') ('/' :: _) = _
    rw [splitBy]
    simp only [beq_self_eq_true, if_true]
    exact congrArg _ hsplit

/-- The text of a form is read as it is if it has neither a plus nor an escape in it. -/
theorem formText_of_plain {cs : List Char} (h : ∀ c ∈ cs, isQuiet c = true) :
    formText cs = cs := by
  have hplus : cs.map (fun c => if c = '+' then ' ' else c) = cs := by
    refine (List.map_congr_left fun c hc => ?_).trans (List.map_id cs)
    exact if_neg (beq_eq_false_iff_ne.mp (ne_of_isQuiet (h c hc) (by decide)))
  rw [formText, hplus]
  exact percentDecode_of_plain (ne_percent_of_isQuiet h)

theorem formFields_single {name value : List Char} (hname : ∀ c ∈ name, isQuiet c = true)
    (hmark : ∀ c ∈ name, c ≠ '=') (hvalue : ∀ c ∈ value, isQuiet c = true) :
    formFields (name ++ '=' :: value) = [(name, value)] := by
  have hall : ∀ c ∈ name ++ '=' :: value, (c == '&') = false := by
    intro c hc
    rcases List.mem_append.mp hc with hc | hc
    · exact ne_of_isQuiet (hname c hc) (by decide)
    · rcases List.mem_cons.mp hc with rfl | hc
      · decide
      · exact ne_of_isQuiet (hvalue c hc) (by decide)
  have hcut : cutBy (· == '=') (name ++ '=' :: value) = (name, some value) :=
    cutBy_append (fun c hc => beq_eq_false_iff_ne.mpr (hmark c hc)) (beq_self_eq_true '=')
  rw [formFields, splitBy_eq_singleton hall]
  simp [hcut, formText_of_plain hname, formText_of_plain hvalue]

end SweepAudit.Http
