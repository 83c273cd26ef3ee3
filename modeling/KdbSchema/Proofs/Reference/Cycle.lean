import KdbSchema.Proofs.Reference.Visit

/-!
# Cycles that a visit finds

A visit fails exactly where it meets an entered position again.  The part of the path from there on
closes to a cycle without repetitions, and the cycle is reached from the first position of the
visited list from which any cycle can be reached.
-/

namespace KdbSchema

/-! ## Simple cycles of a relation -/

/-- A list that runs along the relation, ends where it starts and repeats nothing else. -/
def SimpleCycle {α : Type} (r : α → α → Prop) (c : List α) : Prop :=
  ∃ first rest, c = first :: rest ++ [first] ∧ (first :: rest).Nodup ∧ c.IsChain r

section Relation

variable {α β : Type} {r : α → α → Prop} {s : β → β → Prop}

theorem reaches_of_isChain {a : α} {l : List α} (hchain : (a :: l).IsChain r) {b : α}
    (hb : b ∈ a :: l) : Relation.ReflTransGen r a b := by
  induction l generalizing a with
  | nil =>
      rw [List.mem_singleton] at hb
      exact hb ▸ Relation.ReflTransGen.refl
  | cons c l ih =>
      obtain ⟨hac, hchain'⟩ := List.isChain_cons_cons.mp hchain
      rcases List.mem_cons.mp hb with rfl | hb
      · exact Relation.ReflTransGen.refl
      · exact (ih hchain' hb).head hac

theorem SimpleCycle.onCycle {c : List α} (hc : SimpleCycle r c) {a : α} (ha : a ∈ c) :
    Relation.TransGen r a a := by
  obtain ⟨first, rest, rfl, _, hchain⟩ := hc
  have hback : Relation.TransGen r first first := by
    cases rest with
    | nil => exact .single (List.isChain_cons_cons.mp hchain).1
    | cons b rest =>
        obtain ⟨hfirst, hchain'⟩ := List.isChain_cons_cons.mp hchain
        exact .head' hfirst (reaches_of_isChain hchain' (by simp))
  have hto : Relation.ReflTransGen r first a := reaches_of_isChain hchain ha
  rcases Relation.reflTransGen_iff_eq_or_transGen.mp hto with rfl | hto
  · exact hback
  -- What follows `a` in the list leads back to the first member.
  · obtain ⟨before, after, hsplit⟩ := List.append_of_mem ha
    have hafter : (a :: after).IsChain r := by
      rw [hsplit] at hchain
      exact (List.isChain_append.mp hchain).2.1
    have hlast : first ∈ a :: after := by
      have hget : (a :: after).getLast? = some first := by
        have h : (first :: rest ++ [first]).getLast? = some first := List.getLast?_concat
        rw [hsplit, List.getLast?_append] at h
        simpa using h
      exact List.mem_of_getLast? hget
    exact Relation.TransGen.trans_right (reaches_of_isChain hafter hlast) hto

theorem SimpleCycle.exists_mem {c : List α} (hc : SimpleCycle r c) : ∃ a, a ∈ c := by
  obtain ⟨first, rest, rfl, _⟩ := hc
  exact ⟨first, by simp⟩

/-- A simple cycle through one place goes there and back. -/
theorem SimpleCycle.eq_pair {c : List α} {a : α} (hc : SimpleCycle r c) (hall : ∀ b ∈ c, b = a) :
    c = [a, a] := by
  obtain ⟨first, rest, rfl, hnodup, _⟩ := hc
  have hfirst : first = a := hall first (by simp)
  cases rest with
  | nil => simp [hfirst]
  | cons b rest =>
      have hb : b = a := hall b (by simp)
      simp [hfirst, hb] at hnodup

theorem SimpleCycle.map {c : List α} (hc : SimpleCycle r c) {f : α → β}
    (hinj : ∀ a ∈ c, ∀ b ∈ c, f a = f b → a = b) (hmap : ∀ a b, r a b → s (f a) (f b)) :
    SimpleCycle s (c.map f) := by
  obtain ⟨first, rest, rfl, hnodup, hchain⟩ := hc
  refine ⟨f first, rest.map f, by simp, ?_, ?_⟩
  · rw [← List.map_cons]
    refine hnodup.map_on fun a ha b hb => hinj a ?_ b ?_
    · exact List.mem_append_left _ ha
    · exact List.mem_append_left _ hb
  · rw [List.isChain_map]
    exact hchain.imp hmap

theorem LeadsToCycle.exists_step {a : α} (ha : LeadsToCycle r a) : ∃ b, r a b := by
  obtain ⟨c, hreach, hcycle⟩ := ha
  rcases Relation.ReflTransGen.cases_head hreach with rfl | ⟨b, hab, _⟩
  · obtain ⟨b, hab, _⟩ := Relation.TransGen.head'_iff.mp hcycle
    exact ⟨b, hab⟩
  · exact ⟨b, hab⟩

end Relation

/-! ## The cycle that a failing visit reports -/

theorem Walk.Consistent.simpleCycle {g : ReferenceGraph} {w : Walk} {n : Nat}
    (hw : w.Consistent g) (hentered : w.mark n = .entered)
    (hlinked : ∀ p ∈ w.path.head?, g.Edge p n) : SimpleCycle g.Edge (w.cycle n) := by
  obtain ⟨above, below, hpath, habove⟩ :=
    List.eq_append_cons_of_mem ((hw.entered_iff n).mp hentered)
  have hcycle : w.cycle n = n :: above.reverse ++ [n] := by
    have htake : w.path.takeWhile (· ≠ n) = above := by
      rw [hpath, List.takeWhile_append_of_pos, List.takeWhile_cons_of_neg, List.append_nil]
      · simp
      · intro m hm
        simpa using ne_of_mem_of_not_mem hm habove
    rw [Walk.cycle, htake]
  have hnodup : above.Nodup := by
    have h := hw.path_nodup
    rw [hpath] at h
    exact (List.nodup_append.mp h).1
  have hchain : (n :: (above ++ [n])).IsChain fun m k => g.Edge k m := by
    have hpathChain := hw.path_chain
    rw [hpath, List.append_cons] at hpathChain
    refine List.isChain_cons.mpr ⟨?_, (List.isChain_append.mp hpathChain).1⟩
    intro p hp
    refine hlinked p ?_
    rw [hpath, List.append_cons, List.head?_append_of_ne_nil _ (by simp)]
    exact hp
  refine ⟨n, above.reverse, hcycle, ?_, ?_⟩
  · rw [List.nodup_cons, List.mem_reverse, List.nodup_reverse]
    exact ⟨habove, hnodup⟩
  · have hreverse : w.cycle n = (n :: (above ++ [n])).reverse := by simp [hcycle]
    rw [hreverse, List.isChain_reverse]
    exact hchain

namespace ReferenceGraph

variable {g : ReferenceGraph} {ns : List Nat} {w : Walk} {c : List Nat}

theorem Entry.simpleCycle {n : Nat} (h : g.Entry (n :: ns) w) (hentered : w.mark n = .entered) :
    SimpleCycle g.Edge (w.cycle n) :=
  h.consistent.simpleCycle hentered fun p hp => h.linked p hp n List.mem_cons_self

theorem Visits.simpleCycle (hg : g.Closed) (hvisit : g.Visits ns w (.error c))
    (hentry : g.Entry ns w) : SimpleCycle g.Edge c := by
  generalize hr : (Except.error c : Except (List Nat) Walk) = r at hvisit
  induction hvisit with
  | nil => cases hr
  | done hmark _ ih => exact ih hentry.tail hr
  | entered hmark =>
      cases hr
      exact hentry.simpleCycle hmark
  | failed hmark _ ih => exact ih (hentry.below hg hmark) hr
  | placed hmark hbelow _ _ ih =>
      exact ih (hentry.after (hbelow.exit hg (hentry.below hg hmark))) hr

/-- The reported cycle is reached from a position of the visited list, and no cycle is reached from
any position before it. -/
theorem Visits.root (hg : g.Closed) (hvisit : g.Visits ns w (.error c))
    (hentry : g.Entry ns w) :
    ∃ before root after, ns = before ++ root :: after ∧
      (∀ n ∈ before, ¬ LeadsToCycle g.Edge n) ∧
      ∀ m ∈ c, Relation.ReflTransGen g.Edge root m := by
  generalize hr : (Except.error c : Except (List Nat) Walk) = r at hvisit
  induction hvisit with
  | nil => cases hr
  | @done n ns w r hmark _ ih =>
      obtain ⟨before, root, after, rfl, hbefore, hreach⟩ := ih hentry.tail hr
      refine ⟨n :: before, root, after, rfl, ?_, hreach⟩
      have hn : n ∈ w.order := hentry.mem_order_of_done hmark
      exact List.forall_mem_cons.mpr ⟨hentry.consistent.not_leadsToCycle hn, hbefore⟩
  | @entered n ns w hmark =>
      cases hr
      refine ⟨[], n, ns, rfl, by simp, ?_⟩
      obtain ⟨_, _, _, _, hchain⟩ := hentry.simpleCycle hmark
      exact fun m hm => reaches_of_isChain hchain hm
  | @failed n ns w c' hmark _ ih =>
      cases hr
      obtain ⟨before, root, after, hsplit, _, hreach⟩ := ih (hentry.below hg hmark) rfl
      have hroot : g.Edge n root := by
        rw [Edge, hsplit]
        simp
      exact ⟨[], n, ns, rfl, by simp, fun m hm => (hreach m hm).head hroot⟩
  | @placed n ns w u r hmark hbelow _ _ ih =>
      have hexit := hbelow.exit hg (hentry.below hg hmark)
      obtain ⟨before, root, after, rfl, hbefore, hreach⟩ := ih (hentry.after hexit) hr
      refine ⟨n :: before, root, after, rfl, ?_, hreach⟩
      have hn : n ∈ (u.leave n).order := by simp
      exact List.forall_mem_cons.mpr ⟨hexit.leave.not_leadsToCycle hn, hbefore⟩

end ReferenceGraph

end KdbSchema
