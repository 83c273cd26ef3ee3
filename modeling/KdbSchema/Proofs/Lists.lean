import Mathlib

/-!
# Lists without repetition and lists of positions

Erasing repetitions leaves every member once, where it occurs first, so two lists with the same
members differ only in order afterwards.  In lists that are related member by member every member
has its partner.  A list is cut at its first separator in one way only.  A list read at the
positions of another one loses nothing where all of these positions lie inside it.
-/

namespace KdbSchema

variable {α β : Type}

/-! ## Erasing repetitions -/

theorem nodup_eraseDups [DecidableEq α] (l : List α) : l.eraseDups.Nodup := by
  induction hlen : l.length using Nat.strongRecOn generalizing l with
  | _ n ih =>
      cases l with
      | nil => simp
      | cons a l =>
          rw [List.eraseDups_cons, List.nodup_cons]
          have hshorter : (l.filter fun b => !b == a).length < n := by
            have := List.length_filter_le (fun b => !b == a) l
            simp only [List.length_cons] at hlen
            omega
          refine ⟨?_, ih _ hshorter _ rfl⟩
          rw [List.mem_eraseDups, List.mem_filter]
          simp

theorem eraseDups_perm_of_mem_iff [DecidableEq α] {l l' : List α} (h : ∀ a, a ∈ l ↔ a ∈ l') :
    l.eraseDups.Perm l'.eraseDups := by
  refine (List.perm_ext_iff_of_nodup (nodup_eraseDups l) (nodup_eraseDups l')).mpr ?_
  intro a
  rw [List.mem_eraseDups, List.mem_eraseDups, h a]

/-! ## First occurrences -/

section FirstOccurrences

variable [DecidableEq α] [DecidableEq β]

theorem eraseDups_append_of_subset {l m : List α} (h : m ⊆ l) :
    (l ++ m).eraseDups = l.eraseDups := by
  have hnone : m.removeAll l = [] := by
    unfold List.removeAll
    rw [List.filter_eq_nil_iff]
    intro a ha
    simp [h ha]
  rw [List.eraseDups_append, hnone]
  simp

theorem eraseDups_append_of_disjoint {l m : List α} (h : l.Disjoint m) :
    (l ++ m).eraseDups = l.eraseDups ++ m.eraseDups := by
  have hall : m.removeAll l = m := by
    unfold List.removeAll
    rw [List.filter_eq_self]
    intro a ha
    simpa using fun hl => h hl ha
  rw [List.eraseDups_append, hall]

theorem eraseDups_of_nodup {l : List α} (hl : l.Nodup) : l.eraseDups = l := by
  induction l with
  | nil => rfl
  | cons a l ih =>
      obtain ⟨ha, hl'⟩ := List.nodup_cons.mp hl
      have hfilter : l.filter (fun b => !b == a) = l := by
        rw [List.filter_eq_self]
        intro b hb
        simpa using ne_of_mem_of_not_mem hb ha
      rw [List.eraseDups_cons, hfilter, ih hl']

theorem eraseDups_of_forall_eq {a : α} {l : List α} (hne : l ≠ []) (hall : ∀ b ∈ l, b = a) :
    l.eraseDups = [a] := by
  have hmem : ∀ b, b ∈ l ↔ b ∈ [a] := by
    intro b
    rw [List.mem_singleton]
    constructor
    · exact hall b
    · rintro rfl
      obtain ⟨c, hc⟩ := List.exists_mem_of_ne_nil l hne
      exact hall c hc ▸ hc
  have hperm := eraseDups_perm_of_mem_iff hmem
  rw [eraseDups_of_nodup (List.nodup_singleton a)] at hperm
  exact List.perm_singleton.mp hperm

/-- Repetitions in a first part may be erased beforehand. -/
theorem eraseDups_eraseDups_append (l m : List α) :
    (l.eraseDups ++ m).eraseDups = (l ++ m).eraseDups := by
  have hremove : m.removeAll l.eraseDups = m.removeAll l := by
    unfold List.removeAll
    refine List.filter_congr fun a _ => ?_
    simp
  rw [List.eraseDups_append, List.eraseDups_append, hremove, eraseDups_of_nodup (nodup_eraseDups l)]

/-- Where every member is replaced by a list, a repeated member adds nothing. -/
theorem eraseDups_append_flatMap_eraseDups (x l : List α) (f : α → List α) :
    (x ++ l.eraseDups.flatMap f).eraseDups = (x ++ l.flatMap f).eraseDups := by
  induction l using List.reverseRecOn with
  | nil => rfl
  | append_singleton l a ih =>
      by_cases ha : a ∈ l
      · have hrepeat : f a ⊆ x ++ l.flatMap f := by
          intro b hb
          exact List.mem_append_right x (List.mem_flatMap.mpr ⟨a, ha, hb⟩)
        have hl : (l ++ [a]).eraseDups = l.eraseDups :=
          eraseDups_append_of_subset (by simpa using ha)
        rw [hl, ih, List.flatMap_append, List.flatMap_singleton, ← List.append_assoc,
          eraseDups_append_of_subset hrepeat]
      · have hl : (l ++ [a]).eraseDups = l.eraseDups ++ [a] :=
          eraseDups_append_of_disjoint (by simpa using ha)
        rw [hl, List.flatMap_append, List.flatMap_append, List.flatMap_singleton,
          ← List.append_assoc, ← List.append_assoc, ← eraseDups_eraseDups_append, ih,
          eraseDups_eraseDups_append]

theorem eraseDups_map {f : α → β} {l : List α} (hf : ∀ a ∈ l, ∀ b ∈ l, f a = f b → a = b) :
    (l.map f).eraseDups = l.eraseDups.map f := by
  induction l using List.reverseRecOn with
  | nil => rfl
  | append_singleton l a ih =>
      have hl := ih fun b hb c hc =>
        hf b (List.mem_append_left [a] hb) c (List.mem_append_left [a] hc)
      rw [List.map_append, List.map_singleton]
      by_cases ha : a ∈ l
      · have hrepeat : [f a] ⊆ l.map f := by
          simpa using ⟨a, ha, rfl⟩
        have hold : [a] ⊆ l := by simpa using ha
        rw [eraseDups_append_of_subset hrepeat, eraseDups_append_of_subset hold, hl]
      · have hfresh : (l.map f).Disjoint [f a] := by
          intro b hb hfa
          obtain ⟨c, hc, rfl⟩ := List.mem_map.mp hb
          rw [List.mem_singleton] at hfa
          have hca : c = a := hf c (by simp [hc]) a (by simp) hfa
          exact ha (hca ▸ hc)
        have hnew : l.Disjoint [a] := by simpa using ha
        rw [eraseDups_append_of_disjoint hfresh, eraseDups_append_of_disjoint hnew, hl,
          eraseDups_of_nodup (List.nodup_singleton (f a)),
          eraseDups_of_nodup (List.nodup_singleton a), List.map_append, List.map_singleton]

end FirstOccurrences

/-! ## Lists related member by member -/

theorem exists_right_of_forall₂ {r : α → β → Prop} {as : List α} {bs : List β}
    (h : List.Forall₂ r as bs) {a : α} (ha : a ∈ as) : ∃ b ∈ bs, r a b := by
  induction h with
  | nil => simp at ha
  | cons hab _ ih =>
      rcases List.mem_cons.mp ha with rfl | ha
      · exact ⟨_, List.mem_cons_self, hab⟩
      · obtain ⟨b, hb, hr⟩ := ih ha
        exact ⟨b, List.mem_cons_of_mem _ hb, hr⟩

theorem exists_left_of_forall₂ {r : α → β → Prop} {as : List α} {bs : List β}
    (h : List.Forall₂ r as bs) {b : β} (hb : b ∈ bs) : ∃ a ∈ as, r a b :=
  exists_right_of_forall₂ h.flip hb

theorem exists_forall₂_iff {r : α → β → Prop} {as : List α} :
    (∃ bs, List.Forall₂ r as bs) ↔ ∀ a ∈ as, ∃ b, r a b := by
  induction as with
  | nil => simp
  | cons a as ih =>
      rw [List.forall_mem_cons, ← ih]
      constructor
      · rintro ⟨bs, hbs⟩
        cases hbs with
        | cons hab habs => exact ⟨⟨_, hab⟩, ⟨_, habs⟩⟩
      · rintro ⟨⟨b, hb⟩, bs, hbs⟩
        exact ⟨b :: bs, .cons hb hbs⟩

theorem exists_getElem?_of_forall₂ {r : α → β → Prop} {as : List α} {bs : List β}
    (h : List.Forall₂ r as bs) {i : Nat} {b : β} (hi : bs[i]? = some b) :
    ∃ a, as[i]? = some a ∧ r a b := by
  induction h generalizing i with
  | nil => simp at hi
  | @cons a b' as bs hab _ ih =>
      cases i with
      | zero =>
          rw [List.getElem?_cons_zero, Option.some.injEq] at hi
          exact ⟨a, List.getElem?_cons_zero, hi ▸ hab⟩
      | succ i =>
          rw [List.getElem?_cons_succ] at hi ⊢
          exact ih hi

/-- Images of one list do not repeat where those of a related list do not, if they determine these. -/
theorem nodup_map_of_forall₂ {γ δ : Type} {r : α → β → Prop} {f : α → γ} {g : β → δ} {as : List α}
    {bs : List β} (h : List.Forall₂ r as bs)
    (hfg : ∀ a b a' b', r a b → r a' b' → g b = g b' → f a = f a') (hf : (as.map f).Nodup) :
    (bs.map g).Nodup := by
  induction h with
  | nil => exact List.nodup_nil
  | @cons a b as bs hab hrest ih =>
      rw [List.map_cons, List.nodup_cons] at hf ⊢
      refine ⟨?_, ih hf.2⟩
      intro hmem
      obtain ⟨b', hb', hg⟩ := List.mem_map.mp hmem
      obtain ⟨a', ha', hab'⟩ := exists_left_of_forall₂ hrest hb'
      exact hf.1 (List.mem_map.mpr ⟨a', ha', hfg a' b' a b hab' hab hg⟩)

theorem mapM_eq_some_iff {f : α → Option β} {as : List α} {bs : List β} :
    as.mapM f = some bs ↔ List.Forall₂ (fun a b => f a = some b) as bs := by
  induction as generalizing bs with
  | nil => simp [eq_comm]
  | cons a as ih =>
      simp [List.forall₂_cons_left_iff, Option.bind_eq_some_iff, ih, @eq_comm _ _ bs]

theorem map_eq_map_iff_forall₂ {γ : Type} {f : α → γ} {g : β → γ} {as : List α} {bs : List β} :
    as.map f = bs.map g ↔ List.Forall₂ (fun a b => f a = g b) as bs := by
  rw [← List.forall₂_eq_eq_eq, List.forall₂_map_left_iff, List.forall₂_map_right_iff]

/-- What can be told of every member from its image can be told of all of them from the images. -/
theorem map_eq_map_of_map_eq_map {γ : Type} {f : α → β} {g : α → γ} {as bs : List α}
    (hfg : ∀ a ∈ as, ∀ b ∈ bs, f a = f b → g a = g b) (h : as.map f = bs.map f) :
    as.map g = bs.map g := by
  induction as generalizing bs with
  | nil =>
      cases bs with
      | nil => rfl
      | cons b bs => simp at h
  | cons a as ih =>
      cases bs with
      | nil => simp at h
      | cons b bs =>
          rw [List.map_cons, List.map_cons, List.cons.injEq] at h
          have hhead : g a = g b := hfg a List.mem_cons_self b List.mem_cons_self h.1
          have htail : as.map g = bs.map g := by
            refine ih (fun a' ha b' hb => ?_) h.2
            exact hfg a' (List.mem_cons_of_mem a ha) b' (List.mem_cons_of_mem b hb)
          rw [List.map_cons, List.map_cons, hhead, htail]

/-! ## Lists in another order -/

/-- Lists with the same members in some order have none, one and the same, or two and more. -/
theorem perm_cases {l m : List α} (h : l.Perm m) :
    (l = [] ∧ m = []) ∨ (∃ a, l = [a] ∧ m = [a]) ∨
      ∃ a b as c d cs, l = a :: b :: as ∧ m = c :: d :: cs := by
  match l, m, h, h.length_eq with
  | [], [], _, _ => exact Or.inl ⟨rfl, rfl⟩
  | [a], [b], h, _ => exact Or.inr (Or.inl ⟨a, rfl, by rw [List.singleton_perm_singleton.mp h]⟩)
  | a :: b :: as, c :: d :: cs, _, _ => exact Or.inr (Or.inr ⟨a, b, as, c, d, cs, rfl, rfl⟩)

/-! ## Separators -/

/-- What stands before the first separator, and what after it, can be told from the list. -/
theorem append_cons_inj_of_not_mem {a : α} {l l' m m' : List α} (hl : a ∉ l) (hl' : a ∉ l')
    (h : l ++ a :: m = l' ++ a :: m') : l = l' ∧ m = m' := by
  induction l generalizing l' with
  | nil =>
      cases l' with
      | nil => simpa using h
      | cons b l' =>
          simp only [List.nil_append, List.cons_append, List.cons.injEq] at h
          simp [h.1] at hl'
  | cons b l ih =>
      cases l' with
      | nil =>
          simp only [List.nil_append, List.cons_append, List.cons.injEq] at h
          simp [h.1] at hl
      | cons c l' =>
          simp only [List.cons_append, List.cons.injEq] at h
          simp only [List.mem_cons, not_or] at hl hl'
          obtain ⟨hll, hmm⟩ := ih hl.2 hl'.2 h.2
          exact ⟨by rw [h.1, hll], hmm⟩

/-- A list is also cut in one way at the first place where the longer separator `a :: sep` stands,
if its first member occurs in it only once. -/
theorem eq_of_append_separator {a : α} {sep l l' m m' : List α} (hsep : a ∉ sep) (hl : a ∉ l)
    (hl' : ¬ a :: sep <:+: l') (h : l ++ a :: sep ++ m = l' ++ a :: sep ++ m') : l = l' := by
  rw [List.append_assoc, List.append_assoc] at h
  rcases List.append_eq_append_iff.mp h with ⟨as, rfl, has⟩ | ⟨bs, rfl, hbs⟩
  · cases as with
    | nil => simp
    | cons b as =>
        simp only [List.cons_append, List.cons.injEq] at has
        obtain ⟨rfl, has⟩ := has
        -- The second separator starts after the first one, which therefore lies in `l'`.
        rcases List.append_eq_append_iff.mp has with ⟨z, rfl, _⟩ | ⟨z, rfl, hz⟩
        · exact absurd ⟨l, z, by simp⟩ hl'
        · cases z with
          | nil => exact absurd ⟨l, [], by simp⟩ hl'
          | cons d z =>
              simp only [List.cons_append, List.cons.injEq] at hz
              simp [hz.1] at hsep
  · cases bs with
    | nil => simp
    | cons b bs =>
        simp only [List.cons_append, List.cons.injEq] at hbs
        simp [hbs.1] at hl

/-- Lists that are joined with a separator can be told from the joined list, if the separator occurs
in none of them and none is empty. -/
theorem intercalate_inj [DecidableEq α] {a : α} {ls ms : List (List α)}
    (hls : ∀ l ∈ ls, a ∉ l ∧ l ≠ []) (hms : ∀ m ∈ ms, a ∉ m ∧ m ≠ [])
    (h : [a].intercalate ls = [a].intercalate ms) : ls = ms := by
  -- Splitting undoes joining, but for the empty list, which is joined to the text of `[[]]`.
  have hne : ∀ (l : List α) (ls : List (List α)), l ≠ [] → [a].intercalate (l :: ls) ≠ [] := by
    intro l ls hl
    cases ls <;> simp [hl]
  cases ls with
  | nil =>
      cases ms with
      | nil => rfl
      | cons m ms => exact (hne m ms (hms m List.mem_cons_self).2 h.symm).elim
  | cons l ls =>
      cases ms with
      | nil => exact (hne l ls (hls l List.mem_cons_self).2 h).elim
      | cons m ms =>
          rw [← List.splitOn_intercalate a (fun l hl => (hls l hl).1) (List.cons_ne_nil l ls), h,
            List.splitOn_intercalate a (fun m hm => (hms m hm).1) (List.cons_ne_nil m ms)]

theorem forall_mem_intercalate {a : α} {p : α → Prop} {ls : List (List α)} (ha : p a)
    (h : ∀ l ∈ ls, ∀ b ∈ l, p b) : ∀ b ∈ [a].intercalate ls, p b := by
  induction ls with
  | nil => simp
  | cons l ls ih =>
      obtain ⟨hl, hls⟩ := List.forall_mem_cons.mp h
      cases ls with
      | nil => simpa using hl
      | cons m ms =>
          rw [List.intercalate_cons_cons, List.append_assoc, List.forall_mem_append,
            List.forall_mem_append]
          exact ⟨hl, List.forall_mem_singleton.mpr ha, ih hls⟩

/-- An occurrence of a member in two joined lists lies in one of them. -/
theorem cons_suffix_append {a : α} {l m rest : List α} (h : a :: rest <:+ l ++ m) :
    (∃ r, a :: r <:+ l ∧ rest = r ++ m) ∨ a :: rest <:+ m := by
  obtain ⟨before, hbefore⟩ := h
  rcases List.append_eq_append_iff.mp hbefore with ⟨as, rfl, has⟩ | ⟨bs, rfl, hbs⟩
  · cases as with
    | nil => exact Or.inr ⟨[], has⟩
    | cons b as =>
        rw [List.cons_append, List.cons_eq_cons] at has
        obtain ⟨rfl, rfl⟩ := has
        exact Or.inl ⟨as, ⟨before, rfl⟩, rfl⟩
  · exact Or.inr ⟨bs, hbs.symm⟩

/-! ## Reading a list at given positions -/

theorem getElem?_concat_eq_some_iff {a b : α} {l : List α} {i : Nat} :
    (l ++ [b])[i]? = some a ↔ l[i]? = some a ∨ i = l.length ∧ a = b := by
  by_cases hi : i < l.length
  · rw [List.getElem?_append_left hi]
    simp [hi.ne]
  · have hle : l.length ≤ i := Nat.le_of_not_lt hi
    rw [List.getElem?_append_right hle, List.getElem?_eq_none hle, List.getElem?_singleton]
    by_cases heq : i = l.length
    · simp [heq, eq_comm]
    · have hsub : i - l.length ≠ 0 := by omega
      simp [heq, hsub]

theorem getElem?_filterMap_of_isSome {f : α → Option β} {l : List α}
    (hsome : ∀ a ∈ l, (f a).isSome) (i : Nat) : (l.filterMap f)[i]? = l[i]?.bind f := by
  induction l generalizing i with
  | nil => rfl
  | cons a l ih =>
      obtain ⟨ha, hl⟩ := List.forall_mem_cons.mp hsome
      obtain ⟨b, hb⟩ := Option.isSome_iff_exists.mp ha
      rw [List.filterMap_cons_some hb]
      cases i with
      | zero => simp [hb]
      | succ i => simpa using ih hl i

theorem filterMap_getElem?_range (l : List α) :
    (List.range l.length).filterMap (l[·]?) = l := by
  apply List.ext_getElem?
  intro i
  rw [getElem?_filterMap_of_isSome]
  · by_cases hi : i < l.length
    · simp [hi]
    · simp [hi]
  · intro n hn
    simpa using hn

theorem lt_of_range_eq {n root : Nat} {before after : List Nat}
    (h : List.range n = before ++ root :: after) : root < n ∧ ∀ m < root, m ∈ before := by
  have hroot : (List.range n)[before.length]? = some root := by simp [h]
  obtain ⟨hlt, hget⟩ := List.getElem?_eq_some_iff.mp hroot
  rw [List.getElem_range] at hget
  subst hget
  refine ⟨by simpa using hlt, ?_⟩
  intro m hm
  have hmget : (before ++ before.length :: after)[m]? = some m := by
    rw [← h]
    simp only [List.length_range] at hlt
    simp [hm.trans hlt]
  rw [List.getElem?_append_left hm] at hmget
  exact List.mem_of_getElem? hmget

end KdbSchema
