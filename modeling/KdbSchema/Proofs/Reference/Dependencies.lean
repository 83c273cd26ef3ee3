import KdbSchema.Proofs.Reference.Unfolding

/-!
# The graph of a list of tables

A graph is built of a list of tables exactly if their names differ.  It holds the tables in
ascending order and keeps for each of them, as positions, the listed tables that it refers to.
Positions and names say the same here, for no two of the listed tables share a name: read as names,
the edges of a table are what its columns mention of the list, each name where it stands first.
-/

namespace KdbSchema

/-- The names of listed tables that the columns of a table mention, in column order and without the
later repetitions. -/
def Table.mentions (ts : List Table) (t : Table) : List QualifiedName :=
  (t.references.filter fun a => a ∈ ts.map Table.name).eraseDups

variable {ts : List Table} {t : Table} {a : QualifiedName}

theorem Table.mem_mentions_iff : a ∈ t.mentions ts ↔ a ∈ t.references ∧ a ∈ ts.map Table.name := by
  simp [Table.mentions]

theorem Table.names_targets (ts : List Table) (t : Table) :
    (t.targets ts).map Table.name = t.references.filter fun a => a ∈ ts.map Table.name := by
  have hfound : ∀ a, (ts.find? fun u => u.name = a).map Table.name =
      Option.guard (fun a => decide (a ∈ ts.map Table.name)) a := by
    intro a
    cases hfind : ts.find? fun u => u.name = a with
    | some u =>
        have hu : u ∈ ts := List.mem_of_find?_eq_some hfind
        have hname : u.name = a := by simpa using List.find?_some hfind
        have ha : a ∈ ts.map Table.name := List.mem_map.mpr ⟨u, hu, hname⟩
        simp [Option.guard, hname, ha]
    | none =>
        have ha : a ∉ ts.map Table.name := by
          intro ha
          obtain ⟨u, hu, hname⟩ := List.mem_map.mp ha
          simpa [hname] using List.find?_eq_none.mp hfind u hu
        simp [Option.guard, ha]
  unfold Table.targets
  rw [List.map_filterMap, ← List.filterMap_eq_filter]
  exact List.filterMap_congr fun a _ => hfound a

namespace ReferenceGraph

variable {g : ReferenceGraph} {n : Nat} {ns : List Nat}

def Called (g : ReferenceGraph) (n : Nat) (a : QualifiedName) : Prop :=
  ∃ t, g.tables[n]? = some t ∧ t.name = a

theorem forall₂_tablesAt (hns : ∀ n ∈ ns, n < g.size) :
    List.Forall₂ (fun n t => g.tables[n]? = some t) ns (g.tablesAt ns) := by
  induction ns with
  | nil => exact .nil
  | cons n ns ih =>
      obtain ⟨hn, hns'⟩ := List.forall_mem_cons.mp hns
      have htable : g.tables[n]? = some g.tables[n] := List.getElem?_eq_getElem hn
      rw [tablesAt_cons htable]
      exact .cons htable (ih hns')

theorem names_eq_map_tablesAt (g : ReferenceGraph) (ns : List Nat) :
    g.names ns = (g.tablesAt ns).map Table.name := by
  rw [names, tablesAt, List.map_filterMap]

theorem forall₂_called_names (hns : ∀ n ∈ ns, n < g.size) :
    List.Forall₂ g.Called ns (g.names ns) := by
  rw [names_eq_map_tablesAt, List.forall₂_map_right_iff]
  exact (forall₂_tablesAt hns).imp fun _ t ht => ⟨t, ht, rfl⟩

theorem successors_of_getElem? (hn : g.edges[n]? = some ns) : g.successors n = ns := by
  rw [successors, List.getD_eq_getElem?_getD, hn, Option.getD_some]

namespace Represents

variable (hg : g.Represents ts)

include hg

theorem length_edges : g.edges.length = g.tables.length := by
  rw [hg.edges_eq, List.length_map]

theorem lt_of_mem_edges (hns : ns ∈ g.edges) (hn : n ∈ ns) : n < g.tables.length := by
  obtain ⟨i, hi⟩ := List.mem_iff_getElem?.mp hns
  have hedge : g.Edge i n := by
    rw [Edge, successors_of_getElem? hi]
    exact hn
  exact hg.closed i n hedge

/-- Read as names, the edges of a table are its mentions. -/
theorem names_successors (hn : g.tables[n]? = some t) :
    g.names (g.successors n) = t.mentions ts := by
  have hinj : ∀ u ∈ t.targets ts, ∀ v ∈ t.targets ts, u.name = v.name → u = v := by
    intro u hu v hv
    exact List.inj_on_of_nodup_map hg.names_nodup (Table.mem_of_mem_targets hu).1
      (Table.mem_of_mem_targets hv).1
  rw [names_eq_map_tablesAt, hg.tablesAt_successors hn, ← eraseDups_map hinj,
    Table.names_targets, Table.mentions]

theorem dependencies_eq_mentions (ht : t ∈ ts) : g.dependencies t.name = t.mentions ts := by
  obtain ⟨n, hn⟩ := hg.mem_iff.mp ht
  have hposition : position? g.tables t.name = some n :=
    (position?_eq_some_iff hg.ascending.names_nodup).mpr ⟨t, hn, rfl⟩
  rw [← hg.names_successors hn, dependencies, hposition]
  rfl

theorem dependencies_eq_nil (ha : a ∉ ts.map Table.name) : g.dependencies a = [] := by
  have hposition : position? g.tables a = none := by
    rw [Option.eq_none_iff_forall_ne_some]
    intro n hn
    obtain ⟨t, ht, hname⟩ := (position?_eq_some_iff hg.ascending.names_nodup).mp hn
    exact ha (List.mem_map.mpr ⟨t, hg.mem_iff.mpr ⟨n, ht⟩, hname⟩)
  rw [dependencies, hposition]

end Represents

/-- There is a graph of a list of tables exactly if their names differ.  It holds the listed tables
in ascending order, each with the positions of the listed tables that its columns mention, in column
order and without the later repetitions; asked by name, it gives the mentions of a listed table, the
table itself among them if it refers to itself, and nothing for a name that is not listed. -/
theorem ofTables_keeps_mentions (ts : List Table) :
    ((∃ g, ofTables ts = .ok g) ↔ (ts.map Table.name).Nodup) ∧
      ∀ g, ofTables ts = .ok g →
        g.tables.Perm ts ∧ Ascending g.tables ∧ g.edges.length = g.tables.length ∧
          (∀ ns ∈ g.edges, ∀ n ∈ ns, n < g.tables.length) ∧
          (∀ (i : Nat) (t : Table) (ns : List Nat), g.tables[i]? = some t →
            g.edges[i]? = some ns → List.Forall₂ g.Called ns (t.mentions ts)) ∧
          (∀ t ∈ ts, g.dependencies t.name = t.mentions ts ∧
            (t.name ∈ g.dependencies t.name ↔ t.name ∈ t.references)) ∧
          ∀ a, a ∉ ts.map Table.name → g.dependencies a = [] := by
  refine ⟨⟨?_, ?_⟩, ?_⟩
  · rintro ⟨g, hg⟩
    exact (ofTables_eq_ok_iff.mp hg).names_nodup
  · intro hnames
    obtain ⟨g, hg, _⟩ := exists_represents hnames
    exact ⟨g, hg⟩
  · intro g hts
    have hg : g.Represents ts := ofTables_eq_ok_iff.mp hts
    refine ⟨hg.perm, hg.ascending, hg.length_edges, fun ns hns n hn => hg.lt_of_mem_edges hns hn,
      ?_, ?_, fun a ha => hg.dependencies_eq_nil ha⟩
    · intro i t ns ht hns
      have hrange : ∀ n ∈ ns, n < g.size :=
        fun n hn => hg.lt_of_mem_edges (List.mem_of_getElem? hns) hn
      rw [← hg.names_successors ht, successors_of_getElem? hns]
      exact forall₂_called_names hrange
    · intro t ht
      have hdependencies := hg.dependencies_eq_mentions ht
      refine ⟨hdependencies, ?_⟩
      rw [hdependencies, Table.mem_mentions_iff]
      exact and_iff_left (List.mem_map_of_mem ht)

/-- The table `b` refers to itself, twice to `d` and once out of the list; there is another `b` in
a namespace, to which nothing refers. -/
theorem ofTables_keeps_mentions_self :
    let b := Table.referringTo "b" ["d", "elsewhere", "b", "d"]
    let b' : Table := { Table.referringTo "b" ["b"] with name := ⟨some "a", "b"⟩ }
    let d := Table.referringTo "d" []
    let g : ReferenceGraph := ⟨[b, d, b'], [[1, 0], [], [0]]⟩
    ([b', d, b].map Table.name).Nodup ∧ ofTables [b', d, b] = .ok g ∧ Ascending g.tables ∧
      g.dependencies b.name = [d.name, b.name] ∧ b.name ∈ b.references ∧
      g.dependencies ⟨none, "elsewhere"⟩ = [] := by
  intro b b' d g
  have hts : ofTables [b', d, b] = .ok g := by cbv
  obtain ⟨hbuilt, hgraph⟩ := ofTables_keeps_mentions [b', d, b]
  obtain ⟨_, hascending, _, _, _, hlisted, hunlisted⟩ := hgraph g hts
  obtain ⟨hmentions, hself⟩ := hlisted b (by simp)
  have hb : b.mentions [b', d, b] = [d.name, b.name] := by decide
  rw [hb] at hmentions
  exact ⟨hbuilt.mp ⟨g, hts⟩, hts, hascending, hmentions, hself.mp (by rw [hmentions]; simp),
    hunlisted _ (by decide)⟩

end ReferenceGraph

end KdbSchema
