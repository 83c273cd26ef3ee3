import KdbSchema.Reference.Graph

/-!
# Declaration order

Tables are put in an order in which every table stands after the tables that it refers to.  The
tables are visited in order of their names, and from each one the tables that it refers to are
visited first, in column order.  A table is fresh until a visit enters it, open while the visit is
below it, and done once it has been placed.  A visit that meets an open table has found a cycle: the
part of the current path from that table on.
-/

namespace KdbSchema

inductive Mark where
  | fresh
  | entered
  | done
deriving DecidableEq, Repr

structure Walk where
  marks : List Mark
  /-- The entered positions, the most recent one first. -/
  path : List Nat
  /-- The positions that have been placed, in order. -/
  order : List Nat
deriving DecidableEq, Repr

namespace Walk

/-- The state in which `n` positions wait to be visited. -/
def start (n : Nat) : Walk := { marks := List.replicate n .fresh, path := [], order := [] }

/-- The mark of a position; positions outside the graph count as done. -/
def mark (w : Walk) (n : Nat) : Mark := w.marks.getD n .done

def remaining (w : Walk) : Nat := w.marks.count .fresh

def enter (w : Walk) (n : Nat) : Walk :=
  { w with marks := w.marks.set n .entered, path := n :: w.path }

/-- Leaves a position for good and places it. -/
def leave (w : Walk) (n : Nat) : Walk :=
  { marks := w.marks.set n .done, path := w.path.tail, order := w.order ++ [n] }

/-- The cycle that closes when the visit meets an entered position again. -/
def cycle (w : Walk) (n : Nat) : List Nat :=
  n :: (w.path.takeWhile (· ≠ n)).reverse ++ [n]

theorem remaining_enter_lt {w : Walk} {n : Nat} (h : w.mark n = .fresh) :
    (w.enter n).remaining < w.remaining := by
  have hlt : n < w.marks.length := by
    refine Nat.lt_of_not_le fun hle => ?_
    simp [mark, List.getD, List.getElem?_eq_none hle] at h
  have hget : w.marks[n] = .fresh := by
    simpa [mark, List.getD, List.getElem?_eq_getElem hlt] using h
  have hpos : 0 < w.marks.count .fresh :=
    List.count_pos_iff.mpr (hget ▸ List.getElem_mem hlt)
  have hset : (w.marks.set n .entered).count .fresh = w.marks.count .fresh - 1 := by
    rw [List.count_set hlt, hget]
    rfl
  change (w.marks.set n .entered).count .fresh < w.marks.count .fresh
  omega

theorem remaining_leave_le {w : Walk} {n : Nat} : (w.leave n).remaining ≤ w.remaining := by
  by_cases hlt : n < w.marks.length
  · change (w.marks.set n .done).count .fresh ≤ w.marks.count .fresh
    rw [List.count_set hlt]
    exact Nat.sub_le _ _
  · have hset : w.marks.set n .done = w.marks := List.set_eq_of_length_le (Nat.le_of_not_lt hlt)
    exact Nat.le_of_eq (congrArg (List.count Mark.fresh) hset)

end Walk

namespace ReferenceGraph

/-- Visits positions one after the other, each after the positions that it refers to. -/
def visitAll (g : ReferenceGraph) (ns : List Nat) (w : Walk) :
    Except (List Nat) { v : Walk // v.remaining ≤ w.remaining } :=
  match ns with
  | [] => .ok ⟨w, Nat.le_refl _⟩
  | n :: ns =>
    match h : w.mark n with
    | .done => g.visitAll ns w
    | .entered => .error (w.cycle n)
    | .fresh =>
      match g.visitAll (g.successors n) (w.enter n) with
      | .error c => .error c
      | .ok ⟨u, hu⟩ =>
        match g.visitAll ns (u.leave n) with
        | .error c => .error c
        | .ok ⟨v, hv⟩ =>
          .ok ⟨v, by
            have := Walk.remaining_enter_lt h
            have := Walk.remaining_leave_le (w := u) (n := n)
            omega⟩
termination_by (w.remaining, ns.length)
decreasing_by
  · exact Prod.Lex.right _ (Nat.lt_succ_self _)
  · exact Prod.Lex.left _ _ (Walk.remaining_enter_lt h)
  · apply Prod.Lex.left
    have := Walk.remaining_enter_lt h
    have := Walk.remaining_leave_le (w := u) (n := n)
    omega

def ordered (g : ReferenceGraph) : Except Failure (List Table) :=
  match g.visitAll (List.range g.size) (Walk.start g.size) with
  | .error c => .error (.cycle (c.filterMap fun n => g.tables[n]?.map Table.name))
  | .ok w => .ok (w.val.order.filterMap (g.tables[·]?))

end ReferenceGraph

def orderTables (ts : List Table) : Except Failure (List Table) := do
  let g ← ReferenceGraph.ofTables ts
  g.ordered

end KdbSchema
