import KdbSchema.Naming.Basic
import KdbSchema.Proofs.Outcome

/-!
# What the name checks accept

The form check accepts exactly the identifiers: an ASCII letter and then letters, digits and
underscores.  A name check also refuses the reserved words, and a namespace check asks for an
identifier between any two dots.  So no accepted text holds a character with a meaning in a
declaration.
-/

namespace KdbSchema

/-- A letter followed by letters, digits and underscores. -/
def IsIdentifier (cs : List Char) : Prop :=
  ∃ c rest, cs = c :: rest ∧ c.isAlpha = true ∧ ∀ d ∈ rest, isNamePart d = true

theorem isIdentifier_cons_iff {c : Char} {rest : List Char} :
    IsIdentifier (c :: rest) ↔ c.isAlpha = true ∧ ∀ d ∈ rest, isNamePart d = true := by
  simp [IsIdentifier]

theorem isNamePart_of_isAlpha {c : Char} (hc : c.isAlpha = true) : isNamePart c = true := by
  simp [isNamePart, Char.isAlphanum, hc]

theorem IsIdentifier.isNamePart {cs : List Char} (h : IsIdentifier cs) :
    ∀ c ∈ cs, isNamePart c = true := by
  obtain ⟨c, rest, rfl, hc, hrest⟩ := h
  intro d hd
  rcases List.mem_cons.mp hd with rfl | hd
  · exact isNamePart_of_isAlpha hc
  · exact hrest d hd

theorem IsIdentifier.not_mem {cs : List Char} (h : IsIdentifier cs) {c : Char}
    (hc : KdbSchema.isNamePart c = false) : c ∉ cs := by
  intro hmem
  rw [h.isNamePart c hmem] at hc
  contradiction

theorem checkForm_eq_ok_iff {cs : List Char} : checkForm cs = .ok () ↔ IsIdentifier cs := by
  cases cs with
  | nil => simp [checkForm, IsIdentifier]
  | cons c rest =>
      rw [checkForm, isIdentifier_cons_iff]
      by_cases hc : c.isAlpha = true
      · rw [if_pos hc]
        cases hfind : rest.find? fun d => !isNamePart d with
        | none =>
            have hrest : ∀ d ∈ rest, isNamePart d = true := by
              simpa using hfind
            simp only [true_iff]
            exact ⟨hc, hrest⟩
        | some d =>
            have hd : isNamePart d = false := by
              simpa using List.find?_some hfind
            simp only [reduceCtorEq, false_iff]
            intro ⟨_, hrest⟩
            rw [hrest d (List.mem_of_find?_eq_some hfind)] at hd
            contradiction
      · simp [hc]

theorem checkName_eq_ok_iff {role : NameRole} {extra : List String} {name : String} :
    checkName role extra name = .ok () ↔
      IsIdentifier name.toList ∧ name ∉ role.words ∧ name ∉ extra := by
  unfold checkName
  rw [Except.bind_eq_ok_iff, ← checkForm_eq_ok_iff]
  constructor
  · rintro ⟨_, hform, hwords⟩
    by_cases hreserved : name ∈ role.words ∨ name ∈ extra
    · rw [if_pos hreserved] at hwords
      cases hwords
    · exact ⟨hform, not_or.mp hreserved⟩
  · rintro ⟨hform, hreserved⟩
    refine ⟨(), hform, ?_⟩
    rw [if_neg (not_or.mpr hreserved)]
    rfl

/-! ## Namespaces -/

theorem forM_checkForm_eq_ok_iff {parts : List (List Char)} :
    parts.forM checkForm = .ok () ↔ ∀ part ∈ parts, IsIdentifier part := by
  induction parts with
  | nil => simp [pure, Except.pure]
  | cons part parts ih =>
      change (checkForm part >>= fun _ => parts.forM checkForm) = .ok () ↔ _
      rw [Except.bind_eq_ok_iff, List.forall_mem_cons, ← ih, ← checkForm_eq_ok_iff]
      constructor
      · rintro ⟨_, hpart, hparts⟩
        exact ⟨hpart, hparts⟩
      · rintro ⟨hpart, hparts⟩
        exact ⟨(), hpart, hparts⟩

theorem checkNamespace_eq_ok_iff {name : String} :
    checkNamespace name = .ok () ↔ ∀ part ∈ dotSegments name.toList, IsIdentifier part :=
  forM_checkForm_eq_ok_iff

/-- A dot before each of its segments restores a text, with a dot before it. -/
theorem flatMap_dotSegments (cs : List Char) :
    (dotSegments cs).flatMap ('.' :: ·) = '.' :: cs := by
  induction cs with
  | nil => rfl
  | cons c rest ih =>
      unfold dotSegments
      by_cases hc : c = '.'
      · rw [if_pos hc, List.flatMap_cons, ih, hc]
        rfl
      · rw [if_neg hc]
        cases hrest : dotSegments rest with
        | nil => simp [hrest] at ih
        | cons part parts =>
            rw [hrest, List.flatMap_cons] at ih
            simp only [List.cons_append, List.cons.injEq, true_and] at ih
            simp [List.flatMap_cons, ih]

theorem mem_dotSegments {cs : List Char} {c : Char} (hc : c ∈ cs) :
    c = '.' ∨ ∃ part ∈ dotSegments cs, c ∈ part := by
  have hmem : c ∈ (dotSegments cs).flatMap ('.' :: ·) := by
    rw [flatMap_dotSegments]
    exact List.mem_cons_of_mem _ hc
  obtain ⟨part, hpart, hcpart⟩ := List.mem_flatMap.mp hmem
  exact (List.mem_cons.mp hcpart).imp id fun h => ⟨part, hpart, h⟩

theorem not_mem_of_checkNamespace {name : String} (h : checkNamespace name = .ok ()) {c : Char}
    (hc : isNamePart c = false) (hdot : c ≠ '.') : c ∉ name.toList := by
  intro hmem
  rcases mem_dotSegments hmem with heq | ⟨part, hpart, hmem⟩
  · exact hdot heq
  · exact (checkNamespace_eq_ok_iff.mp h part hpart).not_mem hc hmem

end KdbSchema
