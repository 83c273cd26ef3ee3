import KdbSchema.Reference.Order
import KdbSchema.Proofs.Lists

/-!
# What a visit does

The visit of a list of positions is described by rules, one for each way in which its next step can
go, and the visit of the program follows these rules.  A state is consistent when the entered
positions are those of the path, the placed ones are those that are done, and every placed position
stands after the positions that it refers to.  Every step keeps a state consistent, so a visit that
ends places all positions that it was asked for, and changes nothing else but to place more.
-/

namespace KdbSchema

/-! ## Reading the state -/

namespace Walk

variable {w : Walk} {m n : Nat}

theorem lt_of_mark_ne_done (h : w.mark n ≠ .done) : n < w.marks.length := by
  by_contra hle
  exact h (by simp [mark, List.getD, List.getElem?_eq_none (Nat.le_of_not_lt hle)])

theorem mark_enter_self (h : n < w.marks.length) : (w.enter n).mark n = .entered := by
  simp [mark, enter, List.getD, h]

theorem mark_enter_of_ne (h : m ≠ n) : (w.enter n).mark m = w.mark m := by
  simp [mark, enter, List.getD, List.getElem?_set_ne h.symm]

theorem mark_leave_self : (w.leave n).mark n = .done := by
  by_cases h : n < w.marks.length
  · simp [mark, leave, List.getD, h]
  · simp [mark, leave, List.getD, h]

theorem mark_leave_of_ne (h : m ≠ n) : (w.leave n).mark m = w.mark m := by
  simp [mark, leave, List.getD, List.getElem?_set_ne h.symm]

@[simp] theorem length_marks_enter : (w.enter n).marks.length = w.marks.length := by
  simp [enter]

@[simp] theorem length_marks_leave : (w.leave n).marks.length = w.marks.length := by
  simp [leave]

@[simp] theorem path_enter : (w.enter n).path = n :: w.path := rfl

@[simp] theorem order_enter : (w.enter n).order = w.order := rfl

@[simp] theorem path_leave : (w.leave n).path = w.path.tail := rfl

@[simp] theorem order_leave : (w.leave n).order = w.order ++ [n] := rfl

end Walk

namespace ReferenceGraph

variable {g : ReferenceGraph}

/-! ## The rules of a visit -/

/-- `g.Visits ns w r`: visiting the positions `ns` one after the other from the state `w` ends with
`r`, a later state or a cycle. -/
inductive Visits (g : ReferenceGraph) : List Nat → Walk → Except (List Nat) Walk → Prop
  | nil {w : Walk} : Visits g [] w (.ok w)
  | done {n : Nat} {ns : List Nat} {w : Walk} {r : Except (List Nat) Walk}
      (hmark : w.mark n = .done) (hrest : Visits g ns w r) : Visits g (n :: ns) w r
  | entered {n : Nat} {ns : List Nat} {w : Walk}
      (hmark : w.mark n = .entered) : Visits g (n :: ns) w (.error (w.cycle n))
  | failed {n : Nat} {ns : List Nat} {w : Walk} {c : List Nat} (hmark : w.mark n = .fresh)
      (hbelow : Visits g (g.successors n) (w.enter n) (.error c)) :
      Visits g (n :: ns) w (.error c)
  | placed {n : Nat} {ns : List Nat} {w u : Walk} {r : Except (List Nat) Walk}
      (hmark : w.mark n = .fresh) (hbelow : Visits g (g.successors n) (w.enter n) (.ok u))
      (hrest : Visits g ns (u.leave n) r) : Visits g (n :: ns) w r

/-- The visit of the program follows the rules; in particular some rule applies in every state. -/
theorem visits_visitAll (g : ReferenceGraph) (ns : List Nat) (w : Walk) :
    g.Visits ns w ((g.visitAll ns w).map Subtype.val) := by
  fun_induction visitAll g ns w with
  | case1 w => exact .nil
  | case2 w n ns hmark ih => exact .done hmark ih
  | case3 w n ns hmark => exact .entered hmark
  | case4 w n ns hmark c hbelow ih =>
      rw [hbelow] at ih
      exact .failed hmark ih
  | case5 w n ns hmark u hu hbelow c hrest ihbelow ihrest =>
      rw [hbelow] at ihbelow
      rw [hrest] at ihrest
      exact .placed hmark ihbelow ihrest
  | case6 w n ns hmark u hu hbelow v hv hrest ihbelow ihrest =>
      rw [hbelow] at ihbelow
      rw [hrest] at ihrest
      exact .placed hmark ihbelow ihrest

def Edge (g : ReferenceGraph) (n m : Nat) : Prop := m ∈ g.successors n

def Closed (g : ReferenceGraph) : Prop := ∀ n m, g.Edge n m → m < g.size

end ReferenceGraph

/-! ## Consistent states -/

/-- The invariant of a visit.  The path has its most recent position first, so each of its members
is referred to by the next one. -/
structure Walk.Consistent (g : ReferenceGraph) (w : Walk) : Prop where
  length_marks : w.marks.length = g.size
  entered_iff : ∀ n, w.mark n = .entered ↔ n ∈ w.path
  done_iff : ∀ n, n < g.size → (w.mark n = .done ↔ n ∈ w.order)
  order_lt : ∀ n ∈ w.order, n < g.size
  path_nodup : w.path.Nodup
  order_nodup : w.order.Nodup
  path_chain : w.path.IsChain fun m n => g.Edge n m
  order_closed : ∀ i n : Nat, w.order[i]? = some n →
    ∀ m, g.Edge n m → ∃ j < i, w.order[j]? = some m

namespace Walk.Consistent

variable {g : ReferenceGraph} {w : Walk} {n : Nat}

theorem start (g : ReferenceGraph) : (Walk.start g.size).Consistent g := by
  have hfresh (n : Nat) : (Walk.start g.size).mark n ≠ .entered := by
    by_cases h : n < g.size
    · simp [Walk.start, mark, List.getD, h]
    · simp [Walk.start, mark, List.getD, h]
  constructor
  · simp [Walk.start]
  · intro n
    constructor
    · intro h
      exact (hfresh n h).elim
    · intro h
      simp [Walk.start] at h
  · intro n hn
    simp [Walk.start, mark, List.getD, hn]
  all_goals simp [Walk.start]

theorem lt_of_fresh (hw : w.Consistent g) (hfresh : w.mark n = .fresh) : n < g.size := by
  rw [← hw.length_marks]
  exact lt_of_mark_ne_done (by simp [hfresh])

/-- Entering a fresh position that the end of the path refers to. -/
theorem enter (hw : w.Consistent g) (hfresh : w.mark n = .fresh)
    (hlinked : ∀ p ∈ w.path.head?, g.Edge p n) : (w.enter n).Consistent g := by
  have hlt : n < w.marks.length := lt_of_mark_ne_done (by simp [hfresh])
  have hpath : n ∉ w.path := by
    rw [← hw.entered_iff, hfresh]
    simp
  have horder : n ∉ w.order := by
    rw [← hw.done_iff n (hw.lt_of_fresh hfresh), hfresh]
    simp
  constructor
  · rw [length_marks_enter, hw.length_marks]
  · intro m
    rw [path_enter, List.mem_cons]
    by_cases heq : m = n
    · subst heq
      simp [mark_enter_self hlt]
    · simp [mark_enter_of_ne heq, heq, hw.entered_iff m]
  · intro m hm
    rw [order_enter]
    by_cases heq : m = n
    · subst heq
      simp [mark_enter_self hlt, horder]
    · rw [mark_enter_of_ne heq, hw.done_iff m hm]
  · exact hw.order_lt
  · exact List.nodup_cons.mpr ⟨hpath, hw.path_nodup⟩
  · exact hw.order_nodup
  · exact List.isChain_cons.mpr ⟨hlinked, hw.path_chain⟩
  · exact hw.order_closed

/-- Leaving the end of the path, once everything that it refers to has been placed. -/
theorem leave {rest : List Nat} (hw : w.Consistent g) (hpath : w.path = n :: rest)
    (hplaced : ∀ m, g.Edge n m → m ∈ w.order) : (w.leave n).Consistent g := by
  have hentered : w.mark n = .entered := by
    rw [hw.entered_iff, hpath]
    exact List.mem_cons_self
  have hlt : n < g.size := by
    rw [← hw.length_marks]
    exact lt_of_mark_ne_done (by simp [hentered])
  have hnodup : n ∉ rest ∧ rest.Nodup := by
    rw [← List.nodup_cons, ← hpath]
    exact hw.path_nodup
  have horder : n ∉ w.order := by
    rw [← hw.done_iff n hlt, hentered]
    simp
  constructor
  · rw [length_marks_leave, hw.length_marks]
  · intro m
    rw [path_leave, hpath, List.tail_cons]
    by_cases heq : m = n
    · subst heq
      simp [mark_leave_self, hnodup.1]
    · simp [mark_leave_of_ne heq, hw.entered_iff m, hpath, heq]
  · intro m hm
    rw [order_leave, List.mem_append, List.mem_singleton]
    by_cases heq : m = n
    · subst heq
      simp [mark_leave_self]
    · simp [mark_leave_of_ne heq, hw.done_iff m hm, heq]
  · intro m hm
    rw [order_leave, List.mem_append, List.mem_singleton] at hm
    rcases hm with hm | rfl
    · exact hw.order_lt m hm
    · exact hlt
  · rw [path_leave, hpath]
    exact hnodup.2
  · rw [order_leave, List.nodup_append]
    refine ⟨hw.order_nodup, List.nodup_singleton n, ?_⟩
    intro a ha b hb heq
    rw [List.mem_singleton] at hb
    exact horder (hb ▸ heq ▸ ha)
  · have hchain := hw.path_chain
    rw [hpath] at hchain
    rw [path_leave, hpath]
    exact hchain.tail
  · intro i m hi k hk
    have hplace : ∃ j < i, w.order[j]? = some k := by
      rcases getElem?_concat_eq_some_iff.mp hi with hi | ⟨rfl, rfl⟩
      · exact hw.order_closed i m hi k hk
      · obtain ⟨j, hj, hget⟩ := List.getElem_of_mem (hplaced k hk)
        exact ⟨j, hj, List.getElem?_eq_some_iff.mpr ⟨hj, hget⟩⟩
    obtain ⟨j, hj, hget⟩ := hplace
    exact ⟨j, hj, getElem?_concat_eq_some_iff.mpr (Or.inl hget)⟩

/-! ## Placed positions and cycles -/

theorem placed_before {i : Nat} (hw : w.Consistent g) (hi : w.order[i]? = some n) {m : Nat}
    (hpath : Relation.TransGen g.Edge n m) : ∃ j < i, w.order[j]? = some m := by
  induction hpath with
  | single hedge => exact hw.order_closed i n hi _ hedge
  | tail _ hedge ih =>
      obtain ⟨j, hj, hget⟩ := ih
      obtain ⟨k, hk, hget'⟩ := hw.order_closed j _ hget _ hedge
      exact ⟨k, hk.trans hj, hget'⟩

end Walk.Consistent

/-- Some path of the relation leads from `a` onto a cycle. -/
def LeadsToCycle {α : Type} (r : α → α → Prop) (a : α) : Prop :=
  ∃ b, Relation.ReflTransGen r a b ∧ Relation.TransGen r b b

/-- No cycle is reached from a placed position: references lead from places to earlier places. -/
theorem Walk.Consistent.not_leadsToCycle {g : ReferenceGraph} {w : Walk} {n : Nat}
    (hw : w.Consistent g) (hn : n ∈ w.order) : ¬ LeadsToCycle g.Edge n := by
  rintro ⟨m, hreach, hcycle⟩
  have hmem : m ∈ w.order := by
    rcases Relation.reflTransGen_iff_eq_or_transGen.mp hreach with rfl | hpath
    · exact hn
    · obtain ⟨i, hi⟩ := List.mem_iff_getElem?.mp hn
      obtain ⟨j, _, hj⟩ := hw.placed_before hi hpath
      exact List.mem_iff_getElem?.mpr ⟨j, hj⟩
  obtain ⟨i, hi⟩ := List.mem_iff_getElem?.mp hmem
  obtain ⟨j, hlt, hj⟩ := hw.placed_before hi hcycle
  have heq : j = i :=
    (List.getElem?_inj (List.getElem?_eq_some_iff.mp hj).1 hw.order_nodup).mp (hj.trans hi.symm)
  omega

/-! ## From one step to a whole visit -/

/-- What holds when the visit of `ns` begins in `w`: the state is consistent, and the end of the path
refers to all of `ns`. -/
structure ReferenceGraph.Entry (g : ReferenceGraph) (ns : List Nat) (w : Walk) : Prop where
  consistent : w.Consistent g
  inRange : ∀ n ∈ ns, n < g.size
  linked : ∀ p ∈ w.path.head?, ∀ n ∈ ns, g.Edge p n

structure ReferenceGraph.Exit (g : ReferenceGraph) (ns : List Nat) (w v : Walk) : Prop where
  consistent : v.Consistent g
  path_eq : v.path = w.path
  order_prefix : w.order <+: v.order
  placed : ∀ n ∈ ns, n ∈ v.order

namespace ReferenceGraph

variable {g : ReferenceGraph} {n : Nat} {ns : List Nat} {w u v : Walk}

theorem Entry.start (g : ReferenceGraph) : g.Entry (List.range g.size) (Walk.start g.size) where
  consistent := Walk.Consistent.start g
  inRange n hn := List.mem_range.mp hn
  linked p hp := by simp [Walk.start] at hp

theorem Entry.tail (h : g.Entry (n :: ns) w) : g.Entry ns w where
  consistent := h.consistent
  inRange m hm := h.inRange m (List.mem_cons_of_mem n hm)
  linked p hp m hm := h.linked p hp m (List.mem_cons_of_mem n hm)

theorem Entry.below (hg : g.Closed) (h : g.Entry (n :: ns) w) (hfresh : w.mark n = .fresh) :
    g.Entry (g.successors n) (w.enter n) where
  consistent := h.consistent.enter hfresh fun p hp => h.linked p hp n List.mem_cons_self
  inRange m hm := hg n m hm
  linked p hp m hm := by
    rw [Walk.path_enter, List.head?_cons, Option.mem_some_iff] at hp
    exact hp ▸ hm

theorem Entry.mem_order_of_done (h : g.Entry (n :: ns) w) (hdone : w.mark n = .done) :
    n ∈ w.order :=
  (h.consistent.done_iff n (h.inRange n List.mem_cons_self)).mp hdone

theorem Exit.leave (hexit : g.Exit (g.successors n) (w.enter n) u) :
    (u.leave n).Consistent g :=
  hexit.consistent.leave hexit.path_eq hexit.placed

theorem Entry.after (h : g.Entry (n :: ns) w) (hexit : g.Exit (g.successors n) (w.enter n) u) :
    g.Entry ns (u.leave n) where
  consistent := hexit.leave
  inRange := h.tail.inRange
  linked := by
    rw [Walk.path_leave, hexit.path_eq, Walk.path_enter, List.tail_cons]
    exact h.tail.linked

/-- A visit that ends has placed all positions that it was asked for. -/
theorem Visits.exit (hg : g.Closed) (hvisit : g.Visits ns w (.ok v)) (hentry : g.Entry ns w) :
    g.Exit ns w v := by
  generalize hr : (Except.ok v : Except (List Nat) Walk) = r at hvisit
  induction hvisit generalizing v with
  | nil =>
      cases hr
      exact ⟨hentry.consistent, rfl, List.prefix_refl _, by simp⟩
  | @done n ns w r hmark _ ih =>
      have hexit := ih hentry.tail hr
      have hn : n ∈ w.order := hentry.mem_order_of_done hmark
      refine ⟨hexit.consistent, hexit.path_eq, hexit.order_prefix, ?_⟩
      exact List.forall_mem_cons.mpr ⟨hexit.order_prefix.subset hn, hexit.placed⟩
  | entered => cases hr
  | failed => cases hr
  | @placed n ns w u r hmark _ _ ihbelow ihrest =>
      have hbelow := ihbelow (hentry.below hg hmark) rfl
      have hexit := ihrest (hentry.after hbelow) hr
      have hn : n ∈ (u.leave n).order := by simp
      refine ⟨hexit.consistent, ?_, ?_, ?_⟩
      · rw [hexit.path_eq, Walk.path_leave, hbelow.path_eq, Walk.path_enter, List.tail_cons]
      · exact (hbelow.order_prefix.trans (List.prefix_append _ _)).trans hexit.order_prefix
      · exact List.forall_mem_cons.mpr ⟨hexit.order_prefix.subset hn, hexit.placed⟩

end ReferenceGraph

end KdbSchema
