import KdbSchema.Proofs.Reference.DeclarationOrder

/-!
# Tables that cannot be ordered

Tables of different names can be ordered unless references among them close to a cycle.  The failure
then shows a cycle without repetitions, which is reached from the table of least name from which any
cycle is reached.
-/

namespace KdbSchema

namespace ReferenceGraph

variable {g : ReferenceGraph} {ts : List Table} {c : List Nat}

def names (g : ReferenceGraph) (c : List Nat) : List QualifiedName :=
  c.filterMap fun n => g.tables[n]?.map Table.name

theorem names_eq_map (d : QualifiedName) (hlt : ∀ n ∈ c, n < g.size) :
    g.names c = c.map (g.nameAt d) := by
  rw [names, ← List.filterMap_eq_map]
  refine List.filterMap_congr fun n hn => ?_
  have hn' : n < g.tables.length := hlt n hn
  simp [nameAt, hn']

theorem Closed.lt_of_simpleCycle (hg : g.Closed) (hc : SimpleCycle g.Edge c) :
    ∀ n ∈ c, n < g.size := by
  intro n hn
  obtain ⟨m, _, hedge⟩ := Relation.TransGen.tail'_iff.mp (hc.onCycle hn)
  exact hg m n hedge

/-- A cycle of positions, read as names, is a cycle of references between the tables. -/
theorem Represents.simpleCycle_names (hg : g.Represents ts) (hc : SimpleCycle g.Edge c) :
    SimpleCycle (RefersWithin ts) (g.names c) := by
  have hlt := hg.closed.lt_of_simpleCycle hc
  obtain ⟨first, hfirst⟩ := hc.exists_mem
  have hsize : first < g.tables.length := hlt first hfirst
  rw [names_eq_map g.tables[first].name hlt]
  refine hc.map ?_ fun n m hedge => hg.refersWithin_of_edge _ hedge
  intro n hn m hm heq
  exact hg.nameAt_injOn (hlt n hn) (hlt m hm) heq

theorem Represents.simpleCycle_of_visits (hg : g.Represents ts)
    (hvisit : g.Visits (List.range g.size) (Walk.start g.size) (.error c)) :
    SimpleCycle (RefersWithin ts) (g.names c) :=
  hg.simpleCycle_names (hvisit.simpleCycle hg.closed (Entry.start g))

/-- The positions from which a cycle is reached come after all tables of smaller name. -/
theorem Represents.name_lt_of_leadsToCycle (hg : g.Represents ts) {root : Nat} {t : Table}
    (ht : g.tables[root]? = some t) (hbefore : ∀ n < root, ¬ LeadsToCycle g.Edge n)
    {a : QualifiedName} (ha : LeadsToCycle (RefersWithin ts) a) (hne : a ≠ t.name) :
    t.name < a := by
  obtain ⟨b, u, hu, _, _, rfl, _⟩ := ha.exists_step
  obtain ⟨n, hn⟩ := hg.mem_iff.mp hu
  have hle : ¬ n < root := by
    intro hlt
    have hleads := hg.leadsToCycle_positionOf ha
    rw [hg.positionOf_name hn] at hleads
    exact hbefore n hlt hleads
  have hroot : n ≠ root := by
    rintro rfl
    rw [ht, Option.some.injEq] at hn
    exact hne (hn ▸ rfl)
  obtain ⟨hrootLt, rfl⟩ := List.getElem?_eq_some_iff.mp ht
  obtain ⟨hnLt, rfl⟩ := List.getElem?_eq_some_iff.mp hn
  exact List.pairwise_iff_getElem.mp hg.ascending root n hrootLt hnLt (by omega)

theorem Represents.reaches_nameAt (hg : g.Represents ts) (d : QualifiedName) {n m : Nat}
    (hreach : Relation.ReflTransGen g.Edge n m) :
    Relation.ReflTransGen (RefersWithin ts) (g.nameAt d n) (g.nameAt d m) :=
  hreach.lift _ fun _ _ hedge => hg.refersWithin_of_edge d hedge

theorem Represents.root (hg : g.Represents ts)
    (hvisit : g.Visits (List.range g.size) (Walk.start g.size) (.error c)) :
    ∃ root, LeadsToCycle (RefersWithin ts) root ∧
      (∀ a, LeadsToCycle (RefersWithin ts) a → a ≠ root → root < a) ∧
      ∀ a ∈ g.names c, Relation.ReflTransGen (RefersWithin ts) root a := by
  have hc := hvisit.simpleCycle hg.closed (Entry.start g)
  obtain ⟨before, root, after, hsplit, hbefore, hreach⟩ :=
    hvisit.root hg.closed (Entry.start g)
  obtain ⟨hlt, hmem⟩ := lt_of_range_eq hsplit
  have ht : g.tables[root]? = some g.tables[root] := List.getElem?_eq_getElem hlt
  have hname : g.nameAt g.tables[root].name root = g.tables[root].name := nameAt_of_getElem? ht
  have hreachNames : ∀ m ∈ c, Relation.ReflTransGen (RefersWithin ts) g.tables[root].name
      (g.nameAt g.tables[root].name m) := by
    intro m hm
    have h := hg.reaches_nameAt g.tables[root].name (hreach m hm)
    rwa [hname] at h
  refine ⟨g.tables[root].name, ?_, ?_, ?_⟩
  · obtain ⟨m, hm⟩ := hc.exists_mem
    refine ⟨_, hreachNames m hm, ?_⟩
    exact (hc.onCycle hm).lift _ fun _ _ hedge => hg.refersWithin_of_edge _ hedge
  · intro a ha hne
    exact hg.name_lt_of_leadsToCycle ht (fun n hn => hbefore n (hmem n hn)) ha hne
  · intro a ha
    rw [names_eq_map g.tables[root].name (hg.closed.lt_of_simpleCycle hc), List.mem_map] at ha
    obtain ⟨m, hm, rfl⟩ := ha
    exact hreachNames m hm

/-- Where all positions have been placed, references close to no cycle. -/
theorem Represents.not_onCycle (hg : g.Represents ts) {w : Walk}
    (hexit : g.Exit (List.range g.size) (Walk.start g.size) w) (a : QualifiedName) :
    ¬ Relation.TransGen (RefersWithin ts) a a := by
  intro hcycle
  have hleads := hg.leadsToCycle_positionOf ⟨a, .refl, hcycle⟩
  obtain ⟨t, ht, _, _, rfl, _⟩ := (LeadsToCycle.exists_step ⟨a, .refl, hcycle⟩).choose_spec
  obtain ⟨n, hn⟩ := hg.mem_iff.mp ht
  rw [hg.positionOf_name hn] at hleads
  have hlt : n < g.size := (List.getElem?_eq_some_iff.mp hn).1
  exact hexit.consistent.not_leadsToCycle (hexit.placed n (List.mem_range.mpr hlt)) hleads

end ReferenceGraph

/-- Tables of different names cannot be ordered exactly if references among them close to a cycle.
The failure shows a cycle without repetitions that is reached from the table of least name from
which any cycle is reached, and its message gives the texts of the names. -/
theorem orderTables_fails_iff_cycle {ts : List Table} (hnames : (ts.map Table.name).Nodup) :
    ((∃ e, orderTables ts = .error e) ↔ ∃ a, Relation.TransGen (RefersWithin ts) a a) ∧
      ∀ e, orderTables ts = .error e →
        ∃ c, e = .cycle c ∧
          e.message = "foreign-key cycle: " ++ " -> ".intercalate (c.map QualifiedName.text) ∧
          SimpleCycle (RefersWithin ts) c ∧
          ∃ root, LeadsToCycle (RefersWithin ts) root ∧
            (∀ a, LeadsToCycle (RefersWithin ts) a → a ≠ root → root < a) ∧
            ∀ a ∈ c, Relation.ReflTransGen (RefersWithin ts) root a := by
  obtain ⟨g, hg, horder⟩ := orderTables_eq_ordered hnames
  rw [horder]
  refine ⟨⟨?_, ?_⟩, ?_⟩
  · rintro ⟨e, he⟩
    obtain ⟨c, hvisit, _⟩ := ReferenceGraph.ordered_eq_error he
    have hcycle := hg.simpleCycle_of_visits hvisit
    obtain ⟨a, ha⟩ := hcycle.exists_mem
    exact ⟨a, hcycle.onCycle ha⟩
  · rintro ⟨a, ha⟩
    cases hresult : g.ordered with
    | error e => exact ⟨e, rfl⟩
    | ok out =>
        obtain ⟨w, hexit, _⟩ := ReferenceGraph.ordered_eq_ok hg.closed hresult
        exact (hg.not_onCycle hexit a ha).elim
  · intro e he
    obtain ⟨c, hvisit, rfl⟩ := ReferenceGraph.ordered_eq_error he
    exact ⟨g.names c, rfl, rfl, hg.simpleCycle_of_visits hvisit, hg.root hvisit⟩

/-- A table refers to two cycles, of which the first one in column order is shown; the table of
least name refers to none. -/
theorem orderTables_fails_iff_cycle_two :
    let ts := [Table.referringTo "c" ["b"], Table.referringTo "d" ["d"], Table.referringTo "a" [],
      Table.referringTo "b" ["a", "c", "d"]]
    (ts.map Table.name).Nodup ∧
      orderTables ts = .error (.cycle [⟨none, "b"⟩, ⟨none, "c"⟩, ⟨none, "b"⟩]) ∧
      ∃ a, Relation.TransGen (RefersWithin ts) a a := by
  intro ts
  have hnames : (ts.map Table.name).Nodup := by decide
  have hfails : orderTables ts = .error (.cycle [⟨none, "b"⟩, ⟨none, "c"⟩, ⟨none, "b"⟩]) := by cbv
  exact ⟨hnames, hfails, (orderTables_fails_iff_cycle hnames).1.mp ⟨_, hfails⟩⟩

end KdbSchema
