import KdbSchema.Proofs.Naming.Violation

/-!
# The first letter of a column name

A column takes the name of its field with the first character in small form, and the form is
checked only afterwards.  Small forms of ASCII letters are letters.  Of all other characters only
two have a small form that starts with an ASCII letter: the Kelvin sign becomes a `k`, and a capital
I with a dot becomes an `i` with a combining dot, which no identifier holds.
-/

namespace KdbSchema

open Text

/-- The first letter `a` of a column name whose field starts with `c`. -/
inductive Lowers : Char → Char → Prop
  | letter {c : Char} (hc : 'A' ≤ c ∧ c ≤ 'Z' ∨ 'a' ≤ c ∧ c ≤ 'z') : Lowers c c.toLower
  | kelvin : Lowers '\u212A' 'k'

variable {c a : Char} {rest : List Char}

/-! ## Small forms of characters -/

theorem isAlpha_iff_toNat :
    c.isAlpha = true ↔ 65 ≤ c.toNat ∧ c.toNat ≤ 90 ∨ 97 ≤ c.toNat ∧ c.toNat ≤ 122 :=
  isAlpha_iff

theorem Lowers.between (h : Lowers c a) : 'a' ≤ a ∧ a ≤ 'z' := by
  cases h with
  | letter hc =>
      have hlower : c.toLower.isLower = true := by
        rw [Char.isLower_toLower_eq_isAlpha]
        exact isAlpha_iff.mpr hc
      simpa [Char.isLower, Char.le_def] using hlower
  | kelvin => decide

theorem Lowers.lowerChar_eq (h : Lowers c a) : lowerChar c = [a] := by
  cases h with
  | letter hc =>
      have hletter := isAlpha_iff_toNat.mp (isAlpha_iff.mpr hc)
      have hascii : c.toNat < 128 := by omega
      rw [lowerChar, if_pos hascii]
  | kelvin => decide

theorem exists_range_of_image? {n m : Nat} {rs : List CaseRange}
    (h : CaseRange.image? n rs = some m) :
    ∃ r ∈ rs, r.first ≤ n ∧ n ≤ r.last ∧ m = r.image + (n - r.first) := by
  induction rs with
  | nil => cases h
  | cons r rs ih =>
      unfold CaseRange.image? at h
      by_cases hr : r.first ≤ n ∧ n ≤ r.last ∧ (n - r.first) % r.stride = 0
      · rw [if_pos hr, Option.some.injEq] at h
        exact ⟨r, List.mem_cons_self, hr.1, hr.2.1, h.symm⟩
      · rw [if_neg hr] at h
        obtain ⟨r', hr', himage⟩ := ih h
        exact ⟨r', List.mem_cons_of_mem r hr', himage⟩

/-- Apart from the Kelvin sign, no range leads from outside ASCII into it. -/
theorem lowerRanges_leave_ascii :
    ∀ r ∈ lowerRanges, r.last < 128 ∨ 128 ≤ r.image ∨ r.first = 0x212A ∧ r.last = 0x212A := by
  decide +kernel

theorem lowerChar_of_not_ascii (hascii : ¬ c.toNat < 128) (hdotted : c ≠ 'İ') :
    c = '\u212A' ∨ ∃ a, lowerChar c = [a] ∧ ¬ a.isAlpha = true := by
  cases himage : CaseRange.image? c.toNat lowerRanges with
  | none =>
      have hlower : lowerChar c = [c] := by
        simp [lowerChar, hascii, hdotted, himage]
      refine Or.inr ⟨c, hlower, ?_⟩
      rw [isAlpha_iff_toNat]
      omega
  | some m =>
      have hlower : lowerChar c = [Char.ofNat m] := by
        simp [lowerChar, hascii, hdotted, himage]
      obtain ⟨r, hr, hfirst, hlast, hm⟩ := exists_range_of_image? himage
      rcases lowerRanges_leave_ascii r hr with hinside | houtside | ⟨hkelvin, hkelvin'⟩
      · omega
      · refine Or.inr ⟨Char.ofNat m, hlower, ?_⟩
        rw [isAlpha_iff_toNat, Char.toNat_ofNat]
        split <;> omega
      · left
        rw [← Char.toNat_inj]
        simp only [Char.reduceToNat]
        omega

/-- The small form of a character is the small letter of a column name, or else it starts with no
ASCII letter at all, but for that of the capital I with a dot. -/
theorem lowerChar_cases (c : Char) :
    (∃ a, Lowers c a) ∨ (∃ a, lowerChar c = [a] ∧ ¬ a.isAlpha = true) ∨
      c = 'İ' ∧ lowerChar c = ['i', '\u0307'] := by
  by_cases hascii : c.toNat < 128
  · have hlower : lowerChar c = [c.toLower] := by
      rw [lowerChar, if_pos hascii]
    by_cases hc : c.isAlpha = true
    · exact Or.inl ⟨c.toLower, .letter (isAlpha_iff.mp hc)⟩
    · rw [← Char.isAlpha_toLower_eq_isAlpha] at hc
      exact Or.inr (Or.inl ⟨c.toLower, hlower, hc⟩)
  · by_cases hdotted : c = 'İ'
    · subst hdotted
      exact Or.inr (Or.inr ⟨rfl, by decide⟩)
    · rcases lowerChar_of_not_ascii hascii hdotted with rfl | hother
      · exact Or.inl ⟨'k', .kelvin⟩
      · exact Or.inr (Or.inl hother)

/-! ## Names with a small first letter -/

theorem isIdentifier_lowerChar_append_iff :
    IsIdentifier (lowerChar c ++ rest) ↔
      ∃ a, Lowers c a ∧ ∀ d ∈ rest, isNamePart d = true := by
  constructor
  · intro h
    rcases lowerChar_cases c with ⟨a, ha⟩ | ⟨a, hlower, ha⟩ | ⟨_, hlower⟩
    · rw [ha.lowerChar_eq] at h
      exact ⟨a, ha, (isIdentifier_cons_iff.mp h).2⟩
    · rw [hlower] at h
      exact (ha (isIdentifier_cons_iff.mp h).1).elim
    · rw [hlower] at h
      have hdot : '\u0307' ∉ ['i', '\u0307'] ++ rest := h.not_mem (by decide)
      simp at hdot
  · rintro ⟨a, ha, hrest⟩
    rw [ha.lowerChar_eq]
    exact isIdentifier_cons_iff.mpr ⟨isAlpha_iff.mpr (Or.inr ha.between), hrest⟩

variable {s : String}

theorem toList_camelCase (hs : s.toList = c :: rest) :
    (camelCase s).toList = lowerChar c ++ rest := by
  simp [camelCase, hs]

theorem camelCase_eq (hs : s.toList = c :: rest) (ha : Lowers c a) :
    camelCase s = String.ofList (a :: rest) := by
  rw [← String.toList_inj, toList_camelCase hs, ha.lowerChar_eq, String.toList_ofList]
  rfl

theorem isIdentifier_camelCase_iff :
    IsIdentifier (camelCase s).toList ↔
      ∃ c a rest, s.toList = c :: rest ∧ Lowers c a ∧ ∀ d ∈ rest, isNamePart d = true := by
  cases hs : s.toList with
  | nil => simp [camelCase, hs, IsIdentifier]
  | cons c rest =>
      rw [toList_camelCase hs, isIdentifier_lowerChar_append_iff]
      constructor
      · rintro ⟨a, ha, hrest⟩
        exact ⟨c, a, rest, rfl, ha, hrest⟩
      · rintro ⟨_, a, _, heq, ha, hrest⟩
        obtain ⟨rfl, rfl⟩ := List.cons_eq_cons.mp heq
        exact ⟨a, ha, hrest⟩

/-- A declared name becomes a column name exactly if it is an ASCII letter or the Kelvin sign before
letters, digits and underscores, and the name with the small letter in its place is not reserved.
That is then the column name: it has as many characters and starts with a small letter. -/
theorem camelCase_accepted_iff (extra : List String) (s : String) :
    (checkName .column extra (camelCase s) = .ok () ↔
      ∃ c a rest, s.toList = c :: rest ∧ Lowers c a ∧ (∀ d ∈ rest, FitsAt 1 d) ∧
        String.ofList (a :: rest) ∉ columnWords ∧ String.ofList (a :: rest) ∉ extra) ∧
    (checkName .column extra (camelCase s) = .ok () →
      ∃ c a rest, s.toList = c :: rest ∧ Lowers c a ∧ camelCase s = String.ofList (a :: rest) ∧
        'a' ≤ a ∧ a ≤ 'z' ∧ (camelCase s).length = s.length) := by
  have hparts : ∀ rest : List Char, (∀ d ∈ rest, FitsAt 1 d) ↔ ∀ d ∈ rest, isNamePart d = true := by
    intro rest
    simp only [fitsAt_succ_iff]
  rw [checkName_eq_ok_iff, isIdentifier_camelCase_iff]
  refine ⟨⟨?_, ?_⟩, ?_⟩
  · rintro ⟨⟨c, a, rest, hs, ha, hrest⟩, hwords, hextra⟩
    rw [camelCase_eq hs ha] at hwords hextra
    exact ⟨c, a, rest, hs, ha, (hparts rest).mpr hrest, hwords, hextra⟩
  · rintro ⟨c, a, rest, hs, ha, hrest, hwords, hextra⟩
    rw [camelCase_eq hs ha]
    exact ⟨⟨c, a, rest, hs, ha, (hparts rest).mp hrest⟩, hwords, hextra⟩
  · rintro ⟨⟨c, a, rest, hs, ha, _⟩, _⟩
    have hname := camelCase_eq hs ha
    refine ⟨c, a, rest, hs, ha, hname, ha.between.1, ha.between.2, ?_⟩
    rw [hname, ← String.length_toList, ← String.length_toList, hs, String.toList_ofList]
    rfl

/-- The Kelvin sign begins a name, but not one that its small form makes a reserved word.  The
dotted capital begins none. -/
theorem camelCase_accepted_iff_kelvin :
    checkName .column [] (camelCase "\u212Aind_1") = .ok () ∧ camelCase "\u212Aind_1" = "kind_1" ∧
      Lowers '\u212A' 'k' ∧ (camelCase "\u212Aind_1").length = "\u212Aind_1".length ∧
      checkName .column [] (camelCase "\u212Aey") ≠ .ok () ∧
      checkName .column [] (camelCase "İnd") ≠ .ok () := by
  have hkind : checkName .column [] (camelCase "\u212Aind_1") = .ok () := by decide +kernel
  have hkey : checkName .column [] (camelCase "\u212Aey") ≠ .ok () := by decide +kernel
  have hind : checkName .column [] (camelCase "İnd") ≠ .ok () := by decide +kernel
  obtain ⟨c, a, rest, hs, ha, hname, _, _, hlength⟩ :=
    (camelCase_accepted_iff [] "\u212Aind_1").2 hkind
  obtain ⟨rfl, rfl⟩ : c = '\u212A' ∧ rest = "ind_1".toList := by
    simpa [eq_comm] using hs
  have hletter : a = 'k' :=
    List.singleton_inj.mp (ha.lowerChar_eq.symm.trans Lowers.kelvin.lowerChar_eq)
  exact ⟨hkind, by rw [hname, hletter]; rfl, hletter ▸ ha, hlength, hkey, hind⟩

end KdbSchema
