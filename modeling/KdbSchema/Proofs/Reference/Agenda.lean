import KdbSchema.Proofs.Reference.DeclarationOrder

/-!
# Every visit on the way

All positions of a graph are visited one after the other, and the visit of a fresh position visits
those that it refers to before it ends.  On the way there is always an agenda: the positions that
are still to be visited at the innermost level, the position whose visit has set them, and the
state.  It goes on past its next position, when the visit of this one has ended, or into that visit.

Both steps keep states consistent and let marks only advance, so this holds of every visit on the
way, also where the whole ends with a cycle.  Both come closer to an end: the first leaves a shorter
agenda, the second fewer fresh positions.
-/

namespace KdbSchema

/-! ## Marks advance -/

def Mark.stage : Mark → Nat
  | .fresh => 0
  | .entered => 1
  | .done => 2

/-- No mark of `v` is at an earlier stage than in `w`. -/
def Walk.Advances (w v : Walk) : Prop := ∀ n, (w.mark n).stage ≤ (v.mark n).stage

namespace Walk

variable {u v w : Walk} {n : Nat}

theorem Advances.refl (w : Walk) : w.Advances w := fun _ => Nat.le_refl _

theorem Advances.trans (huv : u.Advances v) (hvw : v.Advances w) : u.Advances w :=
  fun n => (huv n).trans (hvw n)

theorem advances_enter (hfresh : w.mark n = .fresh) : w.Advances (w.enter n) := by
  intro m
  by_cases heq : m = n
  · subst m
    simp [hfresh, Mark.stage]
  · rw [mark_enter_of_ne heq]

theorem advances_leave (w : Walk) (n : Nat) : w.Advances (w.leave n) := by
  intro m
  by_cases heq : m = n
  · subst m
    rw [mark_leave_self]
    cases w.mark n <;> simp [Mark.stage]
  · rw [mark_leave_of_ne heq]

/-- A position of the graph that is done is marked so in the list. -/
theorem Consistent.getElem?_marks {g : ReferenceGraph} (hw : w.Consistent g) (hn : n ∈ w.order) :
    w.marks[n]? = some .done := by
  have hlt : n < w.marks.length := by
    rw [hw.length_marks]
    exact hw.order_lt n hn
  have hdone : w.mark n = .done := (hw.done_iff n (hw.order_lt n hn)).mpr hn
  simpa [mark, List.getD, hlt] using hdone

end Walk

namespace ReferenceGraph

variable {g : ReferenceGraph} {n : Nat} {ns : List Nat} {v w : Walk}

theorem Visits.advances (hvisit : g.Visits ns w (.ok v)) : w.Advances v := by
  generalize hr : (Except.ok v : Except (List Nat) Walk) = r at hvisit
  induction hvisit generalizing v with
  | nil =>
      cases hr
      exact .refl _
  | done _ _ ih => exact ih hr
  | entered => cases hr
  | failed => cases hr
  | @placed n ns w u r hmark _ _ ihbelow ihrest =>
      have hbelow : w.Advances u := (Walk.advances_enter hmark).trans (ihbelow rfl)
      exact (hbelow.trans (u.advances_leave n)).trans (ihrest hr)

/-! ## The visit of one position -/

/-- The state after visiting positions one after the other, or the cycle that was met. -/
def visitEach (g : ReferenceGraph) (ns : List Nat) (w : Walk) : Except (List Nat) Walk :=
  (g.visitAll ns w).map Subtype.val

def visit (g : ReferenceGraph) (n : Nat) (w : Walk) : Except (List Nat) Walk :=
  g.visitEach [n] w

theorem visits_visit (g : ReferenceGraph) (n : Nat) (w : Walk) : g.Visits [n] w (g.visit n w) :=
  g.visits_visitAll [n] w

theorem visits_of_visitEach (hend : g.visitEach ns w = .ok v) : g.Visits ns w (.ok v) :=
  hend ▸ g.visits_visitAll ns w

theorem visitEach_nil (g : ReferenceGraph) (w : Walk) : g.visitEach [] w = .ok w := by
  rw [visitEach, visitAll]
  rfl

theorem visitEach_cons_of_done (hmark : w.mark n = .done) :
    g.visitEach (n :: ns) w = g.visitEach ns w := by
  unfold visitEach
  rw [visitAll]
  split <;> simp_all

theorem visitEach_cons_of_entered (hmark : w.mark n = .entered) :
    g.visitEach (n :: ns) w = .error (w.cycle n) := by
  unfold visitEach
  rw [visitAll]
  split
  next => simp_all
  next => rfl
  next => simp_all

theorem visitEach_cons_of_fresh (hmark : w.mark n = .fresh) :
    g.visitEach (n :: ns) w =
      g.visitEach (g.successors n) (w.enter n) >>= fun u => g.visitEach ns (u.leave n) := by
  unfold visitEach
  rw [visitAll]
  split
  next => simp_all
  next => simp_all
  next =>
    cases hbelow : g.visitAll (g.successors n) (w.enter n) with
    | error c => rfl
    | ok u =>
        change _ = (g.visitAll ns (u.val.leave n)).map Subtype.val
        simp only
        cases g.visitAll ns (u.val.leave n) with
        | error c => rfl
        | ok v => rfl

/-- A fresh position is entered, all that it refers to is visited, and it is left. -/
theorem visit_of_fresh (hmark : w.mark n = .fresh) :
    g.visit n w = (g.visitEach (g.successors n) (w.enter n)).map fun u => u.leave n := by
  rw [visit, visitEach_cons_of_fresh hmark]
  simp only [visitEach_nil]
  rfl

/-- Positions are visited each from the state that the visit of the one before has left. -/
theorem visitEach_cons (g : ReferenceGraph) (n : Nat) (ns : List Nat) (w : Walk) :
    g.visitEach (n :: ns) w = g.visit n w >>= g.visitEach ns := by
  cases hmark : w.mark n with
  | done =>
      rw [visit, visitEach_cons_of_done hmark, visitEach_cons_of_done hmark, visitEach_nil]
      rfl
  | entered =>
      rw [visit, visitEach_cons_of_entered hmark, visitEach_cons_of_entered hmark]
      rfl
  | fresh =>
      rw [visit_of_fresh hmark, visitEach_cons_of_fresh hmark]
      cases g.visitEach (g.successors n) (w.enter n) with
      | error c => rfl
      | ok u => rfl

theorem Entry.head (h : g.Entry (n :: ns) w) : g.Entry [n] w where
  consistent := h.consistent
  inRange m hm := h.inRange m (List.mem_of_mem_take (i := 1) hm)
  linked p hp m hm := h.linked p hp m (List.mem_of_mem_take (i := 1) hm)

theorem Entry.next (h : g.Entry (n :: ns) w) (hexit : g.Exit [n] w v) : g.Entry ns v where
  consistent := hexit.consistent
  inRange := h.tail.inRange
  linked := hexit.path_eq ▸ h.tail.linked

theorem exit_of_visit (hg : g.Closed) (hvisit : g.visit n w = .ok v) (hentry : g.Entry [n] w) :
    g.Exit [n] w v :=
  (visits_of_visitEach hvisit).exit hg hentry

theorem remaining_le_of_visit (hvisit : g.visit n w = .ok v) : v.remaining ≤ w.remaining := by
  obtain ⟨x, _, rfl⟩ := Except.map_eq_ok_iff.mp hvisit
  exact x.property

/-! ## The agendas on the way -/

/-- The positions that are to be visited next, the position whose visit has set them, if they are
not simply all, and the state in which they are found. -/
structure Agenda where
  parent : Option Nat
  pending : List Nat
  walk : Walk

/-- All positions of the graph, none of which has been visited: where putting the tables in order
begins. -/
def agenda (g : ReferenceGraph) : Agenda := ⟨none, List.range g.size, Walk.start g.size⟩

/-- `g.Leads a b`: the agenda `b` follows on `a`, past the next position or into its visit. -/
inductive Leads (g : ReferenceGraph) : Agenda → Agenda → Prop
  | past {parent : Option Nat} {n : Nat} {ns : List Nat} {w v : Walk}
      (hvisit : g.visit n w = .ok v) : Leads g ⟨parent, n :: ns, w⟩ ⟨parent, ns, v⟩
  | into {parent : Option Nat} {n : Nat} {ns : List Nat} {w : Walk}
      (hfresh : w.mark n = .fresh) :
      Leads g ⟨parent, n :: ns, w⟩ ⟨some n, g.successors n, w.enter n⟩

/-- What holds of every agenda on the way: its visit can begin, and its parent is the end of the
path. -/
structure Agenda.Sound (g : ReferenceGraph) (a : Agenda) : Prop where
  entry : g.Entry a.pending a.walk
  head?_path : a.walk.path.head? = a.parent

variable {a b : Agenda}

theorem sound_agenda (g : ReferenceGraph) : g.agenda.Sound g where
  entry := Entry.start g
  head?_path := rfl

theorem Leads.sound (hg : g.Closed) (hlead : g.Leads a b) (ha : a.Sound g) : b.Sound g := by
  obtain ⟨hentry, hparent⟩ := ha
  cases hlead with
  | past hvisit =>
      have hexit := exit_of_visit hg hvisit hentry.head
      exact ⟨hentry.next hexit, hexit.path_eq ▸ hparent⟩
  | into hfresh => exact ⟨hentry.below hg hfresh, rfl⟩

theorem sound_of_reached (hg : g.Closed) (hreach : Relation.ReflTransGen g.Leads g.agenda a) :
    a.Sound g := by
  induction hreach with
  | refl => exact sound_agenda g
  | tail _ hlead ih => exact hlead.sound hg ih

theorem Leads.advances (hlead : g.Leads a b) : a.walk.Advances b.walk := by
  cases hlead with
  | past hvisit => exact (visits_of_visitEach hvisit).advances
  | into hfresh => exact Walk.advances_enter hfresh

theorem advances_of_reached (hreach : Relation.ReflTransGen g.Leads a b) :
    a.walk.Advances b.walk := by
  induction hreach with
  | refl => exact .refl _
  | tail _ hlead ih => exact ih.trans hlead.advances

/-- What is met while an agenda is gone through is not ahead of the end. -/
theorem advances_of_visitEach (hreach : Relation.ReflTransGen g.Leads a b)
    (hend : g.visitEach a.pending a.walk = .ok v) : b.walk.Advances v := by
  -- By induction on the first step: only there is it known how the visit ends.
  induction hreach using Relation.ReflTransGen.head_induction_on generalizing v with
  | refl => exact (visits_of_visitEach hend).advances
  | head hlead _ ih =>
      cases hlead with
      | @past _ n ns w u hvisit =>
          rw [visitEach_cons, hvisit] at hend
          exact ih hend
      | @into _ n ns w hfresh =>
          rw [visitEach_cons, visit_of_fresh hfresh] at hend
          obtain ⟨u', hu', hrest⟩ := Except.bind_eq_ok_iff.mp hend
          obtain ⟨u, hu, rfl⟩ := Except.map_eq_ok_iff.mp hu'
          have hleave : b.walk.Advances (u.leave n) := (ih hu).trans (u.advances_leave n)
          exact hleave.trans (visits_of_visitEach hrest).advances

/-- No way goes on forever, from whatever state. -/
theorem wellFounded_leads (g : ReferenceGraph) : WellFounded fun b a => g.Leads a b := by
  -- Past a position fewer are pending and no more are fresh; into a visit one fewer is fresh.
  let measure : Agenda → Nat × Nat := fun a => (a.walk.remaining, a.pending.length)
  have hwf : WellFounded (InvImage (Prod.Lex (· < ·) (· < ·)) measure) :=
    InvImage.wf measure (WellFounded.prod_lex Nat.lt_wfRel.wf Nat.lt_wfRel.wf)
  refine Subrelation.wf ?_ hwf
  intro b a hlead
  cases hlead with
  | @past _ n ns w v hvisit =>
      have hle : v.remaining ≤ w.remaining := remaining_le_of_visit hvisit
      rcases hle.lt_or_eq with hlt | heq
      · exact Prod.Lex.left _ _ hlt
      · change Prod.Lex _ _ (v.remaining, ns.length) (w.remaining, ns.length + 1)
        rw [heq]
        exact Prod.Lex.right _ (Nat.lt_succ_self _)
  | into hfresh => exact Prod.Lex.left _ _ (Walk.remaining_enter_lt hfresh)

/-- In every graph visits come to an end.  In the graph of a list of tables, every visit on the way
finds a consistent state, in which its parent is the end of the path and refers to the position; if
it succeeds it leaves a consistent state with the same path, an order that continues the earlier one
and the position done.  Marks advance from the beginning of a visit to whatever comes after it, and
from there to the end of the visit. -/
theorem visit_keeps_invariant (g : ReferenceGraph) :
    (∀ n w, g.Visits [n] w (g.visit n w)) ∧ (WellFounded fun b a => g.Leads a b) ∧
      ∀ ts, ofTables ts = .ok g → ∀ parent n ns w,
        Relation.ReflTransGen g.Leads g.agenda ⟨parent, n :: ns, w⟩ →
          w.Consistent g ∧ w.path.head? = parent ∧ (∀ p ∈ parent, g.Edge p n) ∧
            (∀ a, Relation.ReflTransGen g.Leads ⟨parent, n :: ns, w⟩ a → w.Advances a.walk) ∧
            ∀ v, g.visit n w = .ok v →
              v.Consistent g ∧ v.path = w.path ∧ w.order <+: v.order ∧
                v.marks[n]? = some .done ∧
                ∀ a, Relation.ReflTransGen g.Leads ⟨parent, [n], w⟩ a → a.walk.Advances v := by
  refine ⟨g.visits_visit, g.wellFounded_leads, ?_⟩
  intro ts hts parent n ns w hreach
  have hg : g.Closed := (ofTables_eq_ok_iff.mp hts).closed
  obtain ⟨hentry, hparent⟩ := sound_of_reached hg hreach
  have hlinked : ∀ p ∈ parent, g.Edge p n := by
    intro p hp
    exact hentry.linked p (hparent ▸ hp) n List.mem_cons_self
  refine ⟨hentry.consistent, hparent, hlinked, fun a ha => advances_of_reached ha, ?_⟩
  intro v hvisit
  have hexit : g.Exit [n] w v := exit_of_visit hg hvisit hentry.head
  have hplaced : n ∈ v.order := hexit.placed n (List.mem_singleton_self n)
  refine ⟨hexit.consistent, hexit.path_eq, hexit.order_prefix,
    hexit.consistent.getElem?_marks hplaced, ?_⟩
  intro a ha
  exact advances_of_visitEach ha hvisit

/-- The tables `a` and `c` refer to each other; from `a` the visit comes to `b` first, and from
there to `d`. -/
theorem visit_keeps_invariant_cyclic :
    let a := Table.referringTo "a" ["b", "c"]
    let b := Table.referringTo "b" ["d"]
    let c := Table.referringTo "c" ["d", "a"]
    let d := Table.referringTo "d" []
    let g : ReferenceGraph := ⟨[a, b, c, d], [[1, 2], [3], [3, 0], []]⟩
    let w : Walk := ⟨[.entered, .fresh, .fresh, .fresh], [0], []⟩
    let v : Walk := ⟨[.entered, .done, .fresh, .done], [0], [3, 1]⟩
    ofTables [d, b, a, c] = .ok g ∧
      orderTables [d, b, a, c] = .error (.cycle [a.name, c.name, a.name]) ∧
      Relation.ReflTransGen g.Leads g.agenda ⟨some 0, [1, 2], w⟩ ∧ g.visit 1 w = .ok v ∧
      w.Consistent g ∧ g.Edge 0 1 ∧ v.Consistent g ∧ w.order <+: v.order ∧ w.Advances v := by
  intro a b c d g w v
  have hts : ofTables [d, b, a, c] = .ok g := by cbv
  have hcycle : orderTables [d, b, a, c] = .error (.cycle [a.name, c.name, a.name]) := by cbv
  have hreach : Relation.ReflTransGen g.Leads g.agenda ⟨some 0, [1, 2], w⟩ := .single (.into rfl)
  have hvisit : g.visit 1 w = .ok v := by cbv
  obtain ⟨hw, _, hlinked, _, hafter⟩ :=
    (visit_keeps_invariant g).2.2 _ hts (some 0) 1 [2] w hreach
  obtain ⟨hv, _, horder, _, hadvances⟩ := hafter v hvisit
  exact ⟨hts, hcycle, hreach, hvisit, hw, hlinked 0 rfl, hv, horder, hadvances _ .refl⟩

end ReferenceGraph

end KdbSchema
