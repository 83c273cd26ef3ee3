import KdbSchema.Proofs.Naming.Identifier
import Mathlib

/-!
# Which rule a name breaks

Identifiers follow a pattern that is told character by character: a letter fits everywhere, a digit
or an underscore everywhere but at the start.  A name check tells the leftmost character that does
not fit, and looks for reserved words only where all fit.  A namespace is cut at its dots and the
first segment with a fault tells it, so no word is reserved there.  The words that tables cannot
take are among those that columns cannot take.
-/

namespace KdbSchema

/-! ## The pattern -/

def FitsAt (i : Nat) (c : Char) : Prop :=
  ('A' ≤ c ∧ c ≤ 'Z' ∨ 'a' ≤ c ∧ c ≤ 'z') ∨ 0 < i ∧ ('0' ≤ c ∧ c ≤ '9' ∨ c = '_')

def Fits (cs : List Char) : Prop := ∀ i c, cs[i]? = some c → FitsAt i c

/-- The pattern `[A-Za-z][A-Za-z0-9_]*`. -/
def MatchesPattern (cs : List Char) : Prop := cs ≠ [] ∧ Fits cs

/-- The leftmost character that does not fit is `c`. -/
def FirstMisfit (cs : List Char) (c : Char) : Prop :=
  ∃ before after, cs = before ++ c :: after ∧ Fits before ∧ ¬ FitsAt before.length c

def FormFault (cs : List Char) (v : NameViolation) : Prop :=
  (cs = [] ∧ v = .empty) ∨ ∃ c, FirstMisfit cs c ∧ v = .invalidCharacter c

variable {c d : Char} {cs rest : List Char} {parts : List (List Char)} {v : NameViolation}

theorem isAlpha_iff : c.isAlpha = true ↔ 'A' ≤ c ∧ c ≤ 'Z' ∨ 'a' ≤ c ∧ c ≤ 'z' := by
  simp [Char.isAlpha, Char.isUpper, Char.isLower, Char.le_def]

theorem fitsAt_zero_iff : FitsAt 0 c ↔ c.isAlpha = true := by
  simp [FitsAt, isAlpha_iff]

theorem fitsAt_succ_iff {i : Nat} : FitsAt (i + 1) c ↔ isNamePart c = true := by
  have hdigit : c.isDigit = true ↔ '0' ≤ c ∧ c ≤ '9' := by
    simp [Char.isDigit, Char.le_def]
  simp [FitsAt, isNamePart, Char.isAlphanum, isAlpha_iff, hdigit, or_assoc]

theorem fits_cons_iff :
    Fits (c :: rest) ↔ c.isAlpha = true ∧ ∀ d ∈ rest, isNamePart d = true := by
  unfold Fits
  constructor
  · intro h
    refine ⟨fitsAt_zero_iff.mp (h 0 c rfl), ?_⟩
    intro d hd
    obtain ⟨i, hi⟩ := List.mem_iff_getElem?.mp hd
    exact fitsAt_succ_iff.mp (h (i + 1) d hi)
  · rintro ⟨hc, hrest⟩ i d hd
    cases i with
    | zero =>
        cases hd
        exact fitsAt_zero_iff.mpr hc
    | succ i => exact fitsAt_succ_iff.mpr (hrest d (List.mem_of_getElem? hd))

theorem matchesPattern_iff : MatchesPattern cs ↔ IsIdentifier cs := by
  unfold MatchesPattern
  cases cs with
  | nil => simp [IsIdentifier]
  | cons c rest => simp [fits_cons_iff, isIdentifier_cons_iff]

/-! ## Faults of form -/

theorem firstMisfit_cons_iff_of_not_isAlpha (hc : ¬ c.isAlpha = true) :
    FirstMisfit (c :: rest) d ↔ d = c := by
  constructor
  · rintro ⟨before, after, hsplit, hbefore, _⟩
    cases before with
    | nil => exact (List.cons_eq_cons.mp hsplit).1.symm
    | cons b before =>
        obtain ⟨rfl, _⟩ := List.cons_eq_cons.mp hsplit
        exact (hc (fits_cons_iff.mp hbefore).1).elim
  · rintro rfl
    refine ⟨[], rest, rfl, by simp [Fits], ?_⟩
    rwa [List.length_nil, fitsAt_zero_iff]

theorem firstMisfit_cons_iff_of_isAlpha (hc : c.isAlpha = true) :
    FirstMisfit (c :: rest) d ↔ rest.find? (fun d => !isNamePart d) = some d := by
  rw [List.find?_eq_some_iff_append]
  constructor
  · rintro ⟨before, after, hsplit, hbefore, hd⟩
    cases before with
    | nil =>
        obtain ⟨rfl, _⟩ := List.cons_eq_cons.mp hsplit
        exact (hd (fitsAt_zero_iff.mpr hc)).elim
    | cons b before =>
        obtain ⟨rfl, rfl⟩ := List.cons_eq_cons.mp hsplit
        rw [List.length_cons, fitsAt_succ_iff] at hd
        refine ⟨by simpa using hd, before, after, rfl, ?_⟩
        simpa using (fits_cons_iff.mp hbefore).2
  · rintro ⟨hd, before, after, rfl, hbefore⟩
    refine ⟨c :: before, after, rfl, fits_cons_iff.mpr ⟨hc, by simpa using hbefore⟩, ?_⟩
    rw [List.length_cons, fitsAt_succ_iff]
    simpa using hd

theorem checkForm_eq_error_iff : checkForm cs = .error v ↔ FormFault cs v := by
  cases cs with
  | nil => simp [checkForm, FormFault, FirstMisfit, eq_comm]
  | cons c rest =>
      have hcons : FormFault (c :: rest) v ↔
          ∃ d, FirstMisfit (c :: rest) d ∧ v = .invalidCharacter d := by
        simp [FormFault]
      rw [checkForm, hcons]
      by_cases hc : c.isAlpha = true
      · rw [if_pos hc]
        simp only [firstMisfit_cons_iff_of_isAlpha hc]
        cases rest.find? fun d => !isNamePart d with
        | none => simp
        | some d => simp [eq_comm]
      · rw [if_neg hc]
        simp [firstMisfit_cons_iff_of_not_isAlpha hc, eq_comm]

theorem FormFault.ne_reserved (h : FormFault cs v) (word : String) (role : NameRole) :
    v ≠ .reserved word role := by
  rcases h with ⟨_, rfl⟩ | ⟨c, _, rfl⟩ <;> simp

/-! ## Names -/

section Names

variable {role : NameRole} {extra : List String} {name : String}

/-- Reserved words are looked up only for names without a fault of form. -/
theorem checkName_eq_error_iff :
    checkName role extra name = .error v ↔
      FormFault name.toList v ∨
        (IsIdentifier name.toList ∧ (name ∈ role.words ∨ name ∈ extra) ∧
          v = .reserved name role) := by
  unfold checkName
  rw [Except.bind_eq_error_iff, checkForm_eq_error_iff, ← checkForm_eq_ok_iff]
  refine or_congr_right ?_
  by_cases hreserved : name ∈ role.words ∨ name ∈ extra
  · simp only [if_pos hreserved]
    constructor
    · rintro ⟨_, hform, hv⟩
      cases hv
      exact ⟨hform, hreserved, rfl⟩
    · rintro ⟨hform, _, rfl⟩
      exact ⟨(), hform, rfl⟩
  · simp [hreserved, pure, Except.pure]

theorem tableWords_subset_columnWords : tableWords ⊆ columnWords := by
  unfold tableWords columnWords
  rw [List.append_assoc]
  exact List.subset_append_left verbs (keywords ++ ["i"])

theorem checkName_table_of_column (h : checkName .column extra name = .ok ()) :
    checkName .table extra name = .ok () := by
  obtain ⟨hform, hwords, hextra⟩ := checkName_eq_ok_iff.mp h
  exact checkName_eq_ok_iff.mpr
    ⟨hform, fun hname => hwords (tableWords_subset_columnWords hname), hextra⟩

end Names

/-! ## Namespaces -/

theorem dotSegments_eq_splitOn (cs : List Char) : dotSegments cs = cs.splitOn '.' := by
  induction cs with
  | nil => rfl
  | cons c rest ih =>
      rw [dotSegments, ih, List.splitOn, List.splitOn, List.splitOnP_cons_eq_if_modifyHead]
      by_cases hc : c = '.'
      · simp [hc]
      · have hne : rest.splitOn '.' ≠ [] := List.splitOn_ne_nil '.' rest
        rw [List.splitOn] at hne
        cases hrest : rest.splitOnP fun x => x == '.' with
        | nil => exact (hne hrest).elim
        | cons part parts => simp [hc]

theorem not_mem_of_mem_dotSegments {part : List Char} (hpart : part ∈ dotSegments cs) :
    '.' ∉ part := by
  induction cs generalizing part with
  | nil => simp_all [dotSegments]
  | cons c rest ih =>
      unfold dotSegments at hpart
      by_cases hc : c = '.'
      · rw [if_pos hc] at hpart
        rcases List.mem_cons.mp hpart with rfl | hpart
        · exact List.not_mem_nil
        · exact ih hpart
      · rw [if_neg hc] at hpart
        cases hrest : dotSegments rest with
        | nil => simp_all [Ne.symm hc]
        | cons first parts =>
            rw [hrest] at hpart ih
            rcases List.mem_cons.mp hpart with rfl | hpart
            · have hfirst := ih List.mem_cons_self
              simp [hfirst, Ne.symm hc]
            · exact ih (List.mem_cons_of_mem first hpart)

/-- The segments of a text are the only texts without a dot that give it when joined with dots. -/
theorem dotSegments_eq_iff :
    dotSegments cs = parts ↔
      parts ≠ [] ∧ (∀ part ∈ parts, '.' ∉ part) ∧ cs = ['.'].intercalate parts := by
  constructor
  · rintro rfl
    refine ⟨?_, fun part hpart => not_mem_of_mem_dotSegments hpart, ?_⟩
    · rw [dotSegments_eq_splitOn]
      exact List.splitOn_ne_nil '.' cs
    · rw [dotSegments_eq_splitOn, List.intercalate_splitOn]
  · rintro ⟨hne, hparts, rfl⟩
    rw [dotSegments_eq_splitOn, List.splitOn_intercalate '.' hparts hne]

theorem IsIdentifier.dot_not_mem (h : IsIdentifier cs) : '.' ∉ cs :=
  h.not_mem (by decide)

theorem checkNamespace_eq_ok_iff_intercalate {name : String} :
    checkNamespace name = .ok () ↔
      ∃ parts, parts ≠ [] ∧ (∀ part ∈ parts, IsIdentifier part) ∧
        name.toList = ['.'].intercalate parts := by
  rw [checkNamespace_eq_ok_iff]
  constructor
  · intro h
    obtain ⟨hne, _, hjoin⟩ := dotSegments_eq_iff.mp (rfl : dotSegments name.toList = _)
    exact ⟨dotSegments name.toList, hne, h, hjoin⟩
  · rintro ⟨parts, hne, hparts, hjoin⟩
    have hsegments : dotSegments name.toList = parts :=
      dotSegments_eq_iff.mpr ⟨hne, fun part hpart => (hparts part hpart).dot_not_mem, hjoin⟩
    rwa [hsegments]

theorem checkNamespace_eq_error_iff {name : String} :
    checkNamespace name = .error v ↔
      ∃ before part after, dotSegments name.toList = before ++ part :: after ∧
        (∀ p ∈ before, IsIdentifier p) ∧ FormFault part v := by
  unfold checkNamespace
  simp only [forM_eq_error_iff, checkForm_eq_ok_iff, checkForm_eq_error_iff]

/-! ## Both checks -/

/-- A name is accepted for a role exactly if it matches the pattern and is no word of either list.
Otherwise its fault of form is told, and the reserved word only where there is none.  A namespace is
accepted exactly if dots join it from texts that match the pattern, and otherwise the first of its
segments that does not match tells its fault.  What a column can be called a table can be called. -/
theorem name_checks_exact (role : NameRole) (extra : List String) (name : String) :
    (checkName role extra name = .ok () ↔
      MatchesPattern name.toList ∧ name ∉ role.words ∧ name ∉ extra) ∧
    (∀ v, checkName role extra name = .error v ↔
      (name = "" ∧ v = .empty) ∨
        (∃ c, FirstMisfit name.toList c ∧ v = .invalidCharacter c) ∨
        (MatchesPattern name.toList ∧ (name ∈ role.words ∨ name ∈ extra) ∧
          v = .reserved name role)) ∧
    (checkNamespace name = .ok () ↔
      ∃ parts, parts ≠ [] ∧ (∀ part ∈ parts, MatchesPattern part) ∧
        name.toList = ['.'].intercalate parts) ∧
    (∀ v, checkNamespace name = .error v ↔
      ∃ before part after, name.toList = ['.'].intercalate (before ++ part :: after) ∧
        (∀ p ∈ before ++ part :: after, '.' ∉ p) ∧ (∀ p ∈ before, MatchesPattern p) ∧
        FormFault part v) ∧
    (∀ word r, checkNamespace name ≠ .error (.reserved word r)) ∧
    (checkName .column extra name = .ok () → checkName .table extra name = .ok ()) := by
  simp only [matchesPattern_iff]
  refine ⟨checkName_eq_ok_iff, ?_, checkNamespace_eq_ok_iff_intercalate, ?_, ?_,
    checkName_table_of_column⟩
  · intro v
    rw [checkName_eq_error_iff, FormFault, or_assoc, String.toList_eq_nil_iff]
  · intro v
    rw [checkNamespace_eq_error_iff]
    refine exists_congr fun before => exists_congr fun part => exists_congr fun after => ?_
    rw [dotSegments_eq_iff]
    constructor
    · rintro ⟨⟨_, hdots, hjoin⟩, hbefore, hpart⟩
      exact ⟨hjoin, hdots, hbefore, hpart⟩
    · rintro ⟨hjoin, hdots, hbefore, hpart⟩
      exact ⟨⟨by simp, hdots, hjoin⟩, hbefore, hpart⟩
  · intro word r h
    obtain ⟨_, _, _, _, _, hfault⟩ := checkNamespace_eq_error_iff.mp h
    exact hfault.ne_reserved word r rfl

/-- A name for both roles; a name that breaks the pattern twice; a namespace with two bad segments,
of which the first is empty. -/
theorem name_checks_exact_venue :
    checkName .column ["trade"] "venue_2" = .ok () ∧
      checkName .table ["trade"] "venue_2" = .ok () ∧ MatchesPattern "venue_2".toList ∧
      checkName .table [] "by-é" = .error (.invalidCharacter '-') ∧
      FirstMisfit "by-é".toList '-' ∧
      checkNamespace "mkt..2" = .error .empty ∧
      ∃ before part after, "mkt..2".toList = ['.'].intercalate (before ++ part :: after) ∧
        (∀ p ∈ before, MatchesPattern p) ∧ FormFault part .empty := by
  have hvenue : checkName .column ["trade"] "venue_2" = .ok () := by decide +kernel
  have hby : checkName .table [] "by-é" = .error (.invalidCharacter '-') := by decide +kernel
  have hspace : checkNamespace "mkt..2" = .error .empty := by decide +kernel
  obtain ⟨haccepted, _, _, _, _, htable⟩ := name_checks_exact .column ["trade"] "venue_2"
  have hmisfit : FirstMisfit "by-é".toList '-' := by
    simpa using ((name_checks_exact .table [] "by-é").2.1 _).mp hby
  obtain ⟨before, part, after, hjoin, _, hbefore, hpart⟩ :=
    ((name_checks_exact .table [] "mkt..2").2.2.2.1 _).mp hspace
  exact ⟨hvenue, htable hvenue, (haccepted.mp hvenue).1, hby, hmisfit, hspace, before, part, after,
    hjoin, hbefore, hpart⟩

end KdbSchema
