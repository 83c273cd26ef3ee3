import KdbSchema.Text.Words
import KdbSchema.Proofs.Lists
import KdbSchema.Proofs.Naming.FirstLetter

/-!
# Words joined with capitals

Joining the words of a text drops underscores and changes the case of letters, and case mapping
makes nothing but letters and marks.  A sign that stands before the letters among the code points
is thus found in the joined text only if it was in the text before.

A text of small ASCII letters and underscores is cut at the underscores and nowhere else, since
nothing in it is a capital or a digit.  In the joined text every capital starts a word, so the words
can be told from it, even when the first one stays in small letters.
-/

namespace KdbSchema.Text

variable {c d : Char} {cs : List Char} {w w' : List Char} {ws ws' : List (List Char)}

/-! ## Signs -/

section Signs

variable (hsign : 0 < c.toNat ∧ c.toNat < 65)
include hsign

theorem ofNat_ne_of_sign {n : Nat} (hn : 65 ≤ n) : c ≠ Char.ofNat n := by
  rintro rfl
  rw [Char.toNat_ofNat] at hsign
  split at hsign <;> omega

theorem not_isAlpha_of_sign : ¬ c.isAlpha = true := by
  rw [isAlpha_iff_toNat]
  omega

theorem ofNat_ne_of_image {n m : Nat} {rs : List CaseRange} (hrs : ∀ r ∈ rs, 65 ≤ r.image)
    (h : CaseRange.image? n rs = some m) : c ≠ Char.ofNat m := by
  obtain ⟨r, hr, _, _, rfl⟩ := exists_range_of_image? h
  exact ofNat_ne_of_sign hsign (Nat.le_add_right_of_le (hrs r hr))

theorem eq_of_mem_lowerChar (h : c ∈ lowerChar d) : c = d := by
  unfold lowerChar at h
  split at h
  · rw [List.mem_singleton] at h
    by_cases hd : d.isUpper = true
    · have halpha : c.isAlpha = true := by
        rw [h, Char.isAlpha_toLower_eq_isAlpha, Char.isAlpha, hd, Bool.true_or]
      exact (not_isAlpha_of_sign hsign halpha).elim
    · rw [h, Char.toLower_eq_of_not_isUpper hd]
  · split at h
    · have hletters : c = 'i' ∨ c = '\u0307' := by simpa using h
      rcases hletters with rfl | rfl <;> simp at hsign
    · split at h
      · next m himage =>
          have hranges : ∀ r ∈ lowerRanges, 65 ≤ r.image := by decide +kernel
          exact (ofNat_ne_of_image hsign hranges himage (List.mem_singleton.mp h)).elim
      · exact List.mem_singleton.mp h

theorem eq_of_mem_upperChar (h : c ∈ upperChar d) : c = d := by
  unfold upperChar at h
  split at h
  · rw [List.mem_singleton] at h
    by_cases hd : d.isLower = true
    · have halpha : c.isAlpha = true := by
        rw [h, Char.isAlpha_toUpper_eq_isAlpha, Char.isAlpha, hd, Bool.or_true]
      exact (not_isAlpha_of_sign hsign halpha).elim
    · rw [h, Char.toUpper_eq_of_not_isLower hd]
  · split at h
    · next ns hns =>
        have hsequences : ∀ e ∈ upperSequences, ∀ n ∈ e.2, 65 ≤ n := by decide +kernel
        obtain ⟨n, hn, rfl⟩ := List.mem_map.mp h
        obtain ⟨before, after, hsplit, _⟩ := List.lookup_eq_some_iff.mp hns
        have hentry : (d.toNat, ns) ∈ upperSequences := by simp [hsplit]
        exact (ofNat_ne_of_sign hsign (hsequences _ hentry n hn) rfl).elim
    · split at h
      · next m himage =>
          have hranges : ∀ r ∈ upperRanges, 65 ≤ r.image := by decide +kernel
          exact (ofNat_ne_of_image hsign hranges himage (List.mem_singleton.mp h)).elim
      · exact List.mem_singleton.mp h

theorem mem_of_mem_upperText (h : c ∈ upperText cs) : c ∈ cs := by
  obtain ⟨d, hd, hc⟩ := List.mem_flatMap.mp h
  rwa [eq_of_mem_upperChar hsign hc]

theorem mem_of_mem_lowerAfter {before : List Char} (h : c ∈ lowerAfter before cs) : c ∈ cs := by
  induction cs generalizing before with
  | nil => exact h
  | cons d rest ih =>
      unfold lowerAfter at h
      split at h
      · rcases List.mem_cons.mp h with rfl | hrest
        · exfalso
          -- A sigma becomes one of two small letters.
          revert hsign
          split <;> decide
        · exact List.mem_cons_of_mem d (ih hrest)
      · rcases List.mem_append.mp h with hd | hrest
        · rw [eq_of_mem_lowerChar hsign hd]
          exact List.mem_cons_self
        · exact List.mem_cons_of_mem d (ih hrest)

theorem mem_of_mem_capitalise {gs : List (List Char)} (h : c ∈ capitalise gs) :
    c ∈ gs.flatten := by
  cases gs with
  | nil => exact h
  | cons g rest =>
      rw [List.flatten_cons]
      rcases List.mem_append.mp h with hg | hrest
      · exact List.mem_append_left _ (mem_of_mem_upperText hsign hg)
      · exact List.mem_append_right _ (mem_of_mem_lowerAfter hsign hrest)

end Signs

theorem flatten_graphemes (cs : List Char) : (graphemes cs).flatten = cs := by
  induction cs with
  | nil => rfl
  | cons c rest ih =>
      unfold graphemes
      split
      · next h => simpa [h] using ih
      · next units h => simpa [h] using ih
      · next d ds units h =>
          split <;> simpa [h] using ih

theorem mem_of_mem_wordsFrom {g : List Char} {word gs u : List (List Char)}
    (hu : u ∈ wordsFrom word gs) (hg : g ∈ u) : g ∈ word ∨ g ∈ gs := by
  induction gs generalizing word with
  | nil =>
      simp only [wordsFrom, List.mem_singleton] at hu
      exact Or.inl (List.mem_reverse.mp (hu ▸ hg))
  | cons h rest ih =>
      unfold wordsFrom at hu
      split at hu
      · rcases List.mem_cons.mp hu with rfl | hu
        · exact Or.inl (List.mem_reverse.mp hg)
        · have hrest : g ∈ rest := by simpa using ih hu
          exact Or.inr (List.mem_cons_of_mem h hrest)
      · split at hu
        · rcases List.mem_cons.mp hu with rfl | hu
          · rcases List.mem_cons.mp (List.mem_reverse.mp hg) with rfl | hword
            · exact Or.inr List.mem_cons_self
            · exact Or.inl hword
          · have hrest : g ∈ rest := by simpa using ih hu
            exact Or.inr (List.mem_cons_of_mem h hrest)
        · rcases ih hu with hword | hrest
          · rcases List.mem_cons.mp hword with rfl | hword
            · exact Or.inr List.mem_cons_self
            · exact Or.inl hword
          · exact Or.inr (List.mem_cons_of_mem h hrest)

theorem mem_of_mem_pascalCase {s : String} (hsign : 0 < c.toNat ∧ c.toNat < 65)
    (h : c ∈ (pascalCase s).toList) : c ∈ s.toList := by
  rw [pascalCase, String.toList_ofList] at h
  obtain ⟨u, hu, hc⟩ := List.mem_flatMap.mp h
  obtain ⟨g, hg, hcg⟩ := List.mem_flatten.mp (mem_of_mem_capitalise hsign hc)
  have hunit : g ∈ graphemes s.toList := by
    simpa using mem_of_mem_wordsFrom (List.mem_of_mem_filter hu) hg
  rw [← flatten_graphemes s.toList]
  exact List.mem_flatten_of_mem hunit hcg

/-! ## Small words -/

structure IsSmallWord (w : List Char) : Prop where
  ne_nil : w ≠ []
  letters : ∀ c ∈ w, c.isLower = true

instance : DecidablePred IsSmallWord := fun w =>
  decidable_of_iff (w ≠ [] ∧ w.all Char.isLower = true)
    ⟨fun h => ⟨h.1, List.all_eq_true.mp h.2⟩, fun h => ⟨h.ne_nil, List.all_eq_true.mpr h.letters⟩⟩

def capitalised : List Char → List Char
  | [] => []
  | c :: rest => c.toUpper :: rest

/-- Words joined with capitals, all but the first one. -/
def camelWords : List (List Char) → List Char
  | [] => []
  | w :: ws => w ++ ws.flatMap capitalised

theorem toNat_of_small (hc : c.isLower = true) : 97 ≤ c.toNat ∧ c.toNat < 123 := by
  have hbounds : 97 ≤ c.toNat ∧ c.toNat ≤ 122 := by
    simpa [Char.isLower, UInt32.le_iff_toNat_le] using hc
  omega

theorem ascii_of_small (hc : c.isLower = true) : c.toNat < 128 := by
  have hbounds := toNat_of_small hc
  omega

theorem upperText_small (hc : c.isLower = true) : upperText [c] = [c.toUpper] := by
  simp [upperText, upperChar, ascii_of_small hc]

theorem toLower_small (hc : c.isLower = true) : c.toLower = c :=
  Char.toLower_eq_of_not_isUpper (Char.not_isUpper_of_isLower hc)

theorem lowerChar_small (hc : c.isLower = true) : lowerChar c = [c] := by
  rw [lowerChar, if_pos (ascii_of_small hc), toLower_small hc]

theorem lowerChar_toUpper (hc : c.isLower = true) : lowerChar c.toUpper = [c] := by
  have halpha : c.toUpper.isAlpha = true := by
    rw [Char.isAlpha_toUpper_eq_isAlpha, Char.isAlpha, hc, Bool.or_true]
  rw [(Lowers.letter (isAlpha_iff.mp halpha)).lowerChar_eq, Char.toLower_toUpper_eq_toLower,
    toLower_small hc]

theorem lowerAfter_small {before : List Char} (hcs : ∀ c ∈ cs, c.isLower = true) :
    lowerAfter before cs = cs := by
  induction cs generalizing before with
  | nil => rfl
  | cons c rest ih =>
      obtain ⟨hc, hrest⟩ := List.forall_mem_cons.mp hcs
      have hsigma : c ≠ 'Σ' := by
        rintro rfl
        simp at hc
      rw [lowerAfter, if_neg hsigma, lowerChar_small hc, ih hrest, List.singleton_append]

theorem capitalise_small (hw : ∀ c ∈ w, c.isLower = true) :
    capitalise (w.map fun c => [c]) = capitalised w := by
  cases w with
  | nil => rfl
  | cons c rest =>
      obtain ⟨hc, hrest⟩ := List.forall_mem_cons.mp hw
      rw [List.map_cons, capitalise, upperText_small hc, capitalised, lowerText, ← List.flatMap_def,
        List.flatMap_singleton', lowerAfter_small hrest, List.singleton_append]

theorem graphemes_of_ascii (hcs : ∀ c ∈ cs, c.toNat < 128) :
    graphemes cs = cs.map fun c => [c] := by
  induction cs with
  | nil => rfl
  | cons c rest ih =>
      obtain ⟨hc, hrest⟩ := List.forall_mem_cons.mp hcs
      rw [graphemes, ih hrest]
      cases rest with
      | nil => rfl
      | cons d rest =>
          have hd : d.toNat < 128 := hrest d List.mem_cons_self
          simp [attachesBackward, attachesForward, hc, hd]

/-- A small letter or an underscore is neither a capital nor a digit, so no word ends between two
of them. -/
theorem endsWord_eq_false (hc : c.isLower = true ∨ c = '_')
    (hcs : ∀ d ∈ cs, d.isLower = true ∨ d = '_') :
    endsWord [c] (cs.map fun d => [d]) = false := by
  have hupper : ∀ d : Char, d.isLower = true ∨ d = '_' → isUpperUnit [d] = false := by
    rintro d (hd | rfl)
    · have hne : d ≠ d.toUpper := by
        intro heq
        rw [heq, Char.isLower_toUpper_eq_false] at hd
        cases hd
      simp [isUpperUnit, upperText_small hd, hne]
    · decide
  have hdigit : ∀ d : Char, d.isLower = true ∨ d = '_' → isDigitUnit [d] = false := by
    rintro d (hd | rfl)
    · have hbounds := toNat_of_small hd
      have hlarge : ¬ d.toNat ≤ 57 := by omega
      simp [isDigitUnit, Char.isDigit, UInt32.le_iff_toNat_le, hlarge]
    · decide
  cases cs with
  | nil => rfl
  | cons d rest =>
      have hd := hcs d List.mem_cons_self
      simp [endsWord, hupper c hc, hupper d hd, hdigit c hc, hdigit d hd]

theorem wordsFrom_eq_splitOn {word : List (List Char)}
    (hcs : ∀ c ∈ cs, c.isLower = true ∨ c = '_') :
    wordsFrom word (cs.map fun c => [c]) =
      ((cs.splitOn '_').map (List.map fun c => [c])).modifyHead (word.reverse ++ ·) := by
  induction cs generalizing word with
  | nil => simp [wordsFrom]
  | cons c rest ih =>
      obtain ⟨hc, hrest⟩ := List.forall_mem_cons.mp hcs
      rw [List.splitOn, List.splitOnP_cons_eq_if_modifyHead, ← List.splitOn, List.map_cons,
        wordsFrom]
      -- The word that is being read is the first part of the split.
      cases hparts : rest.splitOn '_' with
      | nil => exact (List.splitOn_ne_nil '_' rest hparts).elim
      | cons part parts =>
          by_cases hunderscore : c = '_'
          · simp [hunderscore, ih hrest, hparts]
          · simp [hunderscore, endsWord_eq_false hc hrest, ih hrest, hparts]

/-- The words that underscores join are found again. -/
theorem words_intercalate (hne : ws ≠ []) (hws : ∀ w ∈ ws, IsSmallWord w) :
    words (['_'].intercalate ws) = ws.map (List.map fun c => [c]) := by
  have hletters : ∀ c ∈ ['_'].intercalate ws, c.isLower = true ∨ c = '_' :=
    forall_mem_intercalate (Or.inr rfl) fun w hw c hc => Or.inl ((hws w hw).letters c hc)
  have hascii : ∀ c ∈ ['_'].intercalate ws, c.toNat < 128 := by
    intro c hc
    rcases hletters c hc with hsmall | rfl
    · exact ascii_of_small hsmall
    · decide
  have hunderscore : ∀ w ∈ ws, '_' ∉ w := fun w hw hmem => by
    simpa using (hws w hw).letters '_' hmem
  have hsplit : (['_'].intercalate ws).splitOn '_' = ws :=
    List.splitOn_intercalate '_' hunderscore hne
  have hnonempty : ∀ u ∈ ws.map (List.map fun c => [c]), (!u.isEmpty) = true := by
    intro u hu
    obtain ⟨w, hw, rfl⟩ := List.mem_map.mp hu
    simpa using (hws w hw).ne_nil
  rw [words, graphemes_of_ascii hascii, wordsFrom_eq_splitOn hletters, hsplit]
  cases ws with
  | nil => exact (hne rfl).elim
  | cons w ws => exact List.filter_eq_self.mpr hnonempty

theorem toList_pascalCase {s : String} (hne : ws ≠ []) (hws : ∀ w ∈ ws, IsSmallWord w)
    (hs : s.toList = ['_'].intercalate ws) : (pascalCase s).toList = ws.flatMap capitalised := by
  rw [pascalCase, String.toList_ofList, hs, words_intercalate hne hws, List.flatMap_map]
  exact List.flatMap_congr fun w hw => capitalise_small (hws w hw).letters

/-! ## Words from capitals -/

theorem toUpper_injective (hc : c.isLower = true) (hd : d.isLower = true)
    (h : c.toUpper = d.toUpper) : c = d := by
  rw [← toLower_small hc, ← Char.toLower_toUpper_eq_toLower, h, Char.toLower_toUpper_eq_toLower,
    toLower_small hd]

theorem takeWhile_isLower (hw : ∀ c ∈ w, c.isLower = true) (hws : ∀ v ∈ ws, IsSmallWord v) :
    (w ++ ws.flatMap capitalised).takeWhile Char.isLower = w := by
  rw [List.takeWhile_append_of_pos hw]
  cases ws with
  | nil => simp
  | cons v ws =>
      cases v with
      | nil => exact ((hws [] List.mem_cons_self).ne_nil rfl).elim
      | cons c rest => simp [capitalised]

theorem first_word_injective (hw : ∀ c ∈ w, c.isLower = true) (hw' : ∀ c ∈ w', c.isLower = true)
    (hws : ∀ v ∈ ws, IsSmallWord v) (hws' : ∀ v ∈ ws', IsSmallWord v)
    (h : w ++ ws.flatMap capitalised = w' ++ ws'.flatMap capitalised) :
    w = w' ∧ ws.flatMap capitalised = ws'.flatMap capitalised := by
  have hfirst : w = w' := by
    rw [← takeWhile_isLower hw hws, h, takeWhile_isLower hw' hws']
  subst hfirst
  exact ⟨rfl, List.append_cancel_left h⟩

theorem flatMap_capitalised_injective (hws : ∀ v ∈ ws, IsSmallWord v)
    (hws' : ∀ v ∈ ws', IsSmallWord v)
    (h : ws.flatMap capitalised = ws'.flatMap capitalised) : ws = ws' := by
  have hne : ∀ {v : List Char}, IsSmallWord v → capitalised v ≠ [] := by
    rintro (_ | ⟨c, rest⟩) hv
    · exact (hv.ne_nil rfl).elim
    · simp [capitalised]
  induction ws generalizing ws' with
  | nil =>
      cases ws' with
      | nil => rfl
      | cons v' ws' => simp [hne (hws' v' List.mem_cons_self)] at h
  | cons v ws ih =>
      obtain ⟨hv, hlater⟩ := List.forall_mem_cons.mp hws
      cases ws' with
      | nil => simp [hne hv] at h
      | cons v' ws' =>
          obtain ⟨hv', hlater'⟩ := List.forall_mem_cons.mp hws'
          -- After its capital, a word stands as the first one of what is left.
          match v, v', hv, hv' with
          | [], _, hv, _ => exact (hv.ne_nil rfl).elim
          | _, [], _, hv' => exact (hv'.ne_nil rfl).elim
          | c :: rest, d :: rest', hv, hv' =>
              obtain ⟨hc, hrest⟩ := List.forall_mem_cons.mp hv.letters
              obtain ⟨hd, hrest'⟩ := List.forall_mem_cons.mp hv'.letters
              simp only [List.flatMap_cons, capitalised, List.cons_append, List.cons.injEq] at h
              obtain ⟨rfl, heq⟩ := first_word_injective hrest hrest' hlater hlater' h.2
              rw [toUpper_injective hc hd h.1, ih hlater hlater' heq]

theorem camelWords_injective (hws : ∀ w ∈ ws, IsSmallWord w) (hws' : ∀ w ∈ ws', IsSmallWord w)
    (h : camelWords ws = camelWords ws') : ws = ws' := by
  cases ws with
  | nil =>
      cases ws' with
      | nil => rfl
      | cons w' ws' => simp [camelWords, (hws' w' List.mem_cons_self).ne_nil] at h
  | cons w ws =>
      obtain ⟨hw, hlater⟩ := List.forall_mem_cons.mp hws
      cases ws' with
      | nil => simp [camelWords, hw.ne_nil] at h
      | cons w' ws' =>
          obtain ⟨hw', hlater'⟩ := List.forall_mem_cons.mp hws'
          obtain ⟨rfl, heq⟩ := first_word_injective hw.letters hw'.letters hlater hlater' h
          rw [flatMap_capitalised_injective hlater hlater' heq]

end KdbSchema.Text
