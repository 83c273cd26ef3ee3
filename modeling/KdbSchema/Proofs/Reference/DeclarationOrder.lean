import KdbSchema.Proofs.Lists
import KdbSchema.Proofs.Reference.Positions
import KdbSchema.Proofs.Table.Build

/-!
# Properties of the declaration order

Tables that can be ordered come out each of them once, after all listed tables that it refers to.
This is the consistency of the last state of the visit, read in terms of tables.
-/

namespace KdbSchema

namespace ReferenceGraph

variable {g : ReferenceGraph} {ts out : List Table} {w : Walk}

/-! ## What the visit of all positions yields -/

theorem ordered_eq_ok (hg : g.Closed) (h : g.ordered = .ok out) :
    ∃ w, g.Exit (List.range g.size) (Walk.start g.size) w ∧
      out = w.order.filterMap (g.tables[·]?) := by
  have hvisit := g.visits_visitAll (List.range g.size) (Walk.start g.size)
  rw [ordered] at h
  split at h
  next => cases h
  next w hw =>
    rw [hw] at hvisit
    cases h
    exact ⟨w.val, hvisit.exit hg (Entry.start g), rfl⟩

theorem ordered_eq_error {e : Failure} (h : g.ordered = .error e) :
    ∃ c, g.Visits (List.range g.size) (Walk.start g.size) (.error c) ∧
      e = .cycle (c.filterMap fun n => g.tables[n]?.map Table.name) := by
  have hvisit := g.visits_visitAll (List.range g.size) (Walk.start g.size)
  rw [ordered] at h
  split at h
  next c hc =>
    rw [hc] at hvisit
    cases h
    exact ⟨c, hvisit, rfl⟩
  next => cases h

theorem Exit.order_perm (hexit : g.Exit (List.range g.size) (Walk.start g.size) w) :
    w.order.Perm (List.range g.size) := by
  refine (List.perm_ext_iff_of_nodup hexit.consistent.order_nodup List.nodup_range).mpr ?_
  intro n
  constructor
  · intro hn
    exact List.mem_range.mpr (hexit.consistent.order_lt n hn)
  · exact hexit.placed n

theorem Exit.getElem?_tables (hexit : g.Exit (List.range g.size) (Walk.start g.size) w)
    {i : Nat} {t : Table} (hi : (w.order.filterMap (g.tables[·]?))[i]? = some t) :
    ∃ n, w.order[i]? = some n ∧ g.tables[n]? = some t := by
  rw [getElem?_filterMap_of_isSome, Option.bind_eq_some_iff] at hi
  · exact hi
  · intro n hn
    have hlt : n < g.tables.length := hexit.consistent.order_lt n hn
    simp [hlt]

end ReferenceGraph

/-- A table without keys whose columns refer to the tables `targets` of the root. -/
def Table.referringTo (base : String) (targets : List String) : Table where
  record := base
  name := ⟨none, base⟩
  values := targets.map fun target =>
    { name := target, type := .reference ⟨none, target⟩, role := .foreignKey }

/-! ## Tables in declaration order -/

/-- `out` holds the tables `ts`, each after the tables that it refers to. -/
structure DeclarationOrder (ts out : List Table) : Prop where
  perm : out.Perm ts
  names_nodup : (out.map Table.name).Nodup
  references_first : ∀ (i j : Nat) (t u : Table), out[i]? = some t → out[j]? = some u →
    u.name ∈ t.references → j < i

/-- Tables of different names are ordered by the visit of their graph. -/
theorem orderTables_eq_ordered {ts : List Table} (hnames : (ts.map Table.name).Nodup) :
    ∃ g : ReferenceGraph, g.Represents ts ∧ orderTables ts = g.ordered := by
  obtain ⟨g, hts, hg⟩ := ReferenceGraph.exists_represents hnames
  refine ⟨g, hg, ?_⟩
  rw [orderTables, hts]
  rfl

theorem declarationOrder_of_orderTables {ts out : List Table} (h : orderTables ts = .ok out) :
    DeclarationOrder ts out := by
  obtain ⟨g, hts, hout⟩ := Except.bind_eq_ok_iff.mp h
  have hg := ReferenceGraph.ofTables_eq_ok_iff.mp hts
  obtain ⟨w, hexit, rfl⟩ := ReferenceGraph.ordered_eq_ok hg.closed hout
  have hperm : (w.order.filterMap (g.tables[·]?)).Perm ts := by
    have hrange := hexit.order_perm.filterMap (g.tables[·]?)
    rw [ReferenceGraph.size, filterMap_getElem?_range] at hrange
    exact hrange.trans hg.perm
  refine ⟨hperm, (hperm.map Table.name).nodup_iff.mpr hg.names_nodup, ?_⟩
  intro i j t u hi hj href
  obtain ⟨n, hn, ht⟩ := hexit.getElem?_tables hi
  obtain ⟨m, hm, hu⟩ := hexit.getElem?_tables hj
  obtain ⟨k, hk, hkm⟩ :=
    hexit.consistent.order_closed i n hn m (hg.edge_iff.mpr ⟨t, u, ht, hu, href⟩)
  have heq : k = j :=
    (List.getElem?_inj (List.getElem?_eq_some_iff.mp hkm).1
      hexit.consistent.order_nodup).mp (hkm.trans hm.symm)
  exact heq ▸ hk

/-- Ordered tables are the given ones, and a table to which some key or value column refers stands
before the table of that column. -/
theorem orderTables_references_first {ts out : List Table} (h : orderTables ts = .ok out) :
    out.Perm ts ∧
      ∀ (i : Nat) (t : Table), out[i]? = some t →
        ∀ c ∈ t.keys ++ t.values, ∀ u ∈ ts, c.type = .reference u.name →
          (∃ j < i, out[j]? = some u) ∧ ∀ j : Nat, out[j]? = some u → j < i := by
  have horder := declarationOrder_of_orderTables h
  refine ⟨horder.perm, ?_⟩
  intro i t hi c hc u hu htype
  have href : u.name ∈ t.references := mem_references_iff.mpr ⟨c, hc, htype⟩
  have hbefore : ∀ j : Nat, out[j]? = some u → j < i := by
    intro j hj
    exact horder.references_first i j t u hi hj href
  obtain ⟨j, hj⟩ := List.mem_iff_getElem?.mp (horder.perm.mem_iff.mpr hu)
  exact ⟨⟨j, hbefore j hj, hj⟩, hbefore⟩

/-- Two tables share a dependency, and one reference leads out of the list. -/
theorem orderTables_references_first_diamond :
    let a := Table.referringTo "a" ["c", "b"]
    let b := Table.referringTo "b" ["d"]
    let c := Table.referringTo "c" ["d", "elsewhere"]
    let d := Table.referringTo "d" []
    orderTables [a, b, c, d] = .ok [d, c, b, a] ∧
      [d, c, b, a].Perm [a, b, c, d] ∧
      ∀ (i : Nat) (t : Table), [d, c, b, a][i]? = some t →
        ∀ k ∈ t.keys ++ t.values, ∀ u ∈ [a, b, c, d], k.type = .reference u.name →
          (∃ j < i, [d, c, b, a][j]? = some u) ∧
            ∀ j : Nat, [d, c, b, a][j]? = some u → j < i := by
  intro a b c d
  have h : orderTables [a, b, c, d] = .ok [d, c, b, a] := by cbv
  exact ⟨h, orderTables_references_first h⟩

end KdbSchema
