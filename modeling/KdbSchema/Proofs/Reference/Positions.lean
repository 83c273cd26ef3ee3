import KdbSchema.Proofs.Reference.Cycle
import KdbSchema.Proofs.Reference.Sorting

/-!
# Tables and their positions

The graph of a list of tables holds the same tables in ascending order.  Its edges between positions
are exactly the references between the tables that stand there, so paths and cycles can be carried
over from positions to names and back.
-/

namespace KdbSchema

/-- Among the tables `ts`, the table called `a` refers to the one called `b`. -/
def RefersWithin (ts : List Table) (a b : QualifiedName) : Prop :=
  ∃ t ∈ ts, ∃ u ∈ ts, t.name = a ∧ u.name = b ∧ b ∈ t.references

theorem position?_eq_some_iff {ts : List Table} (hts : (ts.map Table.name).Nodup)
    {a : QualifiedName} {n : Nat} :
    position? ts a = some n ↔ ∃ t, ts[n]? = some t ∧ t.name = a := by
  rw [position?, List.findIdx?_eq_some_iff_getElem]
  constructor
  · rintro ⟨hn, hname, _⟩
    exact ⟨ts[n], List.getElem?_eq_getElem hn, by simpa using hname⟩
  · rintro ⟨t, hget, hname⟩
    obtain ⟨hn, rfl⟩ := List.getElem?_eq_some_iff.mp hget
    refine ⟨hn, by simpa using hname, ?_⟩
    intro j hj hjname
    have hjn : (ts.map Table.name)[j]? = (ts.map Table.name)[n]? := by
      have hjlt : j < ts.length := hj.trans hn
      simpa [hjlt, hn, hname] using hjname
    have hlen : j < (ts.map Table.name).length := by simpa using hj.trans hn
    have := (List.getElem?_inj hlen hts).mp hjn
    omega

namespace ReferenceGraph

variable {g : ReferenceGraph} {ts : List Table}

/-! ## The graph of a list of tables -/

/-- The graph holds the given tables in ascending order and the edges between them. -/
structure Represents (g : ReferenceGraph) (ts : List Table) : Prop where
  perm : g.tables.Perm ts
  ascending : Ascending g.tables
  edges_eq : g.edges =
    g.tables.map fun t => (t.references.filterMap (position? g.tables)).eraseDups

theorem Represents.names_nodup (hg : g.Represents ts) : (ts.map Table.name).Nodup :=
  (hg.perm.map Table.name).nodup_iff.mp hg.ascending.names_nodup

theorem ofTables_eq_ok_iff : ofTables ts = .ok g ↔ g.Represents ts := by
  rw [ofTables, Except.bind_eq_ok_iff]
  constructor
  · rintro ⟨tables, hsort, hg⟩
    obtain ⟨_, hperm, hasc⟩ := sortByName_eq_ok_iff.mp hsort
    cases hg
    exact ⟨hperm, hasc, rfl⟩
  · intro hg
    refine ⟨g.tables, sortByName_eq_ok_iff.mpr ⟨hg.names_nodup, hg.perm, hg.ascending⟩, ?_⟩
    rw [← hg.edges_eq]
    rfl

theorem exists_represents (hts : (ts.map Table.name).Nodup) :
    ∃ g, ofTables ts = .ok g ∧ g.Represents ts := by
  obtain ⟨tables, hsort, _⟩ := sortByName_of_nodup hts
  have hg := ofTables_eq_ok_iff.mp (show ofTables ts = .ok _ by rw [ofTables, hsort]; rfl)
  exact ⟨_, ofTables_eq_ok_iff.mpr hg, hg⟩

/-! ## Edges are references -/

theorem Represents.edge_iff (hg : g.Represents ts) {n m : Nat} :
    g.Edge n m ↔ ∃ t u, g.tables[n]? = some t ∧ g.tables[m]? = some u ∧
      u.name ∈ t.references := by
  have hget : g.edges[n]? = (g.tables[n]?).map fun t =>
      (t.references.filterMap (position? g.tables)).eraseDups := by
    rw [hg.edges_eq, List.getElem?_map]
  rw [Edge, successors, List.getD_eq_getElem?_getD, hget]
  cases htable : g.tables[n]? with
  | none => simp
  | some t =>
      simp only [Option.map_some, Option.getD_some, List.mem_eraseDups, List.mem_filterMap,
        position?_eq_some_iff hg.ascending.names_nodup, Option.some.injEq, exists_and_left,
        exists_eq_left']
      constructor
      · rintro ⟨a, ha, u, hu, rfl⟩
        exact ⟨u, hu, ha⟩
      · rintro ⟨u, hu, ha⟩
        exact ⟨u.name, ha, u, hu, rfl⟩

theorem Represents.closed (hg : g.Represents ts) : g.Closed := by
  intro n m hedge
  obtain ⟨_, _, _, hu, _⟩ := hg.edge_iff.mp hedge
  exact (List.getElem?_eq_some_iff.mp hu).1

theorem Represents.mem_iff (hg : g.Represents ts) {t : Table} :
    t ∈ ts ↔ ∃ n : Nat, g.tables[n]? = some t := by
  rw [← hg.perm.mem_iff, List.mem_iff_getElem?]

/-! ## Names for positions and positions for names -/

/-- The name at a position, or `d` outside the graph. -/
def nameAt (g : ReferenceGraph) (d : QualifiedName) (n : Nat) : QualifiedName :=
  (g.tables[n]?.map Table.name).getD d

/-- The position of a name, or zero if no table has it. -/
def positionOf (g : ReferenceGraph) (a : QualifiedName) : Nat :=
  (position? g.tables a).getD 0

variable {d a b : QualifiedName} {n m : Nat}

theorem nameAt_of_getElem? {t : Table} (ht : g.tables[n]? = some t) : g.nameAt d n = t.name := by
  simp [nameAt, ht]

theorem Represents.positionOf_name (hg : g.Represents ts) {t : Table}
    (ht : g.tables[n]? = some t) : g.positionOf t.name = n := by
  rw [positionOf, (position?_eq_some_iff hg.ascending.names_nodup).mpr ⟨t, ht, rfl⟩,
    Option.getD_some]

theorem Represents.refersWithin_of_edge (hg : g.Represents ts) (d : QualifiedName)
    (hedge : g.Edge n m) : RefersWithin ts (g.nameAt d n) (g.nameAt d m) := by
  obtain ⟨t, u, ht, hu, href⟩ := hg.edge_iff.mp hedge
  rw [nameAt_of_getElem? ht, nameAt_of_getElem? hu]
  exact ⟨t, hg.mem_iff.mpr ⟨n, ht⟩, u, hg.mem_iff.mpr ⟨m, hu⟩, rfl, rfl, href⟩

theorem Represents.edge_of_refersWithin (hg : g.Represents ts) (hab : RefersWithin ts a b) :
    g.Edge (g.positionOf a) (g.positionOf b) := by
  obtain ⟨t, ht, u, hu, rfl, rfl, href⟩ := hab
  obtain ⟨n, hn⟩ := hg.mem_iff.mp ht
  obtain ⟨m, hm⟩ := hg.mem_iff.mp hu
  rw [hg.positionOf_name hn, hg.positionOf_name hm]
  exact hg.edge_iff.mpr ⟨t, u, hn, hm, href⟩

theorem Represents.nameAt_injOn (hg : g.Represents ts) (hn : n < g.size) (hm : m < g.size)
    (heq : g.nameAt d n = g.nameAt d m) : n = m := by
  have hn' : g.tables[n]? = some g.tables[n] := List.getElem?_eq_getElem hn
  have hm' : g.tables[m]? = some g.tables[m] := List.getElem?_eq_getElem hm
  rw [nameAt_of_getElem? hn', nameAt_of_getElem? hm'] at heq
  rw [← hg.positionOf_name hn', heq, hg.positionOf_name hm']

theorem Represents.leadsToCycle_positionOf (hg : g.Represents ts)
    (ha : LeadsToCycle (RefersWithin ts) a) : LeadsToCycle g.Edge (g.positionOf a) := by
  obtain ⟨b, hab, hcycle⟩ := ha
  exact ⟨g.positionOf b, hab.lift _ fun _ _ h => hg.edge_of_refersWithin h,
    hcycle.lift _ fun _ _ h => hg.edge_of_refersWithin h⟩

end ReferenceGraph

end KdbSchema
