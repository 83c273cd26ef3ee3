import KdbSchema.Proofs.Reference.CyclicTables

/-!
# The declaration order as an unfolding

Where references close to no cycle, a table can be written out in full: first the written-out forms
of all tables that it refers to, in column order, and then the table itself.  A table that is
referred to from several places is written each time.  The visit of the graph never builds this
text, but it places exactly the first occurrences: when it meets a table that is done, the whole
unfolding of that table has been placed before.
-/

namespace KdbSchema

/-- The listed tables that a table refers to, in column order and with repetitions. -/
def Table.targets (ts : List Table) (t : Table) : List Table :=
  t.references.filterMap fun name => ts.find? fun u => u.name = name

/-- The references among the tables close to no cycle. -/
def Acyclic (ts : List Table) : Prop := ∀ a, ¬ Relation.TransGen (RefersWithin ts) a a

variable {ts : List Table} {t u : Table}

theorem Table.mem_of_mem_targets (hu : u ∈ t.targets ts) : u ∈ ts ∧ u.name ∈ t.references := by
  obtain ⟨name, hname, hfind⟩ := List.mem_filterMap.mp hu
  have hu_name : u.name = name := by simpa using List.find?_some hfind
  exact ⟨List.mem_of_find?_eq_some hfind, hu_name ▸ hname⟩

theorem Table.refersWithin_of_mem_targets (ht : t ∈ ts) (hu : u ∈ t.targets ts) :
    RefersWithin ts t.name u.name := by
  obtain ⟨hu_mem, href⟩ := Table.mem_of_mem_targets hu
  exact ⟨t, ht, u, hu_mem, rfl, rfl, href⟩

namespace Acyclic

/-- The names of the tables are finitely many, so references without a cycle come to an end. -/
theorem wellFounded (hts : Acyclic ts) : WellFounded fun u t : Table => u ∈ t.targets ts := by
  let reached : QualifiedName → QualifiedName → Prop :=
    fun b a => Relation.TransGen (RefersWithin ts) a b
  have hstrict : IsStrictOrder QualifiedName reached :=
    { irrefl := hts, trans := fun _ _ _ hab hbc => hbc.trans hab }
  have hfinite : {a | a ∈ ts.map Table.name}.Finite := List.finite_toSet _
  have hnames := Set.wellFoundedOn_iff.mp (hfinite.wellFoundedOn (r := reached))
  -- The induction is on the names of listed tables; any other table leads into the list at once.
  have hlisted : ∀ a, ∀ t ∈ ts, t.name = a → Acc (fun u t : Table => u ∈ t.targets ts) t := by
    intro a
    induction a using hnames.induction with
    | _ a ih =>
        rintro t ht rfl
        refine Acc.intro t fun u hu => ?_
        have hu_mem : u ∈ ts := (Table.mem_of_mem_targets hu).1
        have hreached : reached u.name t.name :=
          .single (Table.refersWithin_of_mem_targets ht hu)
        exact ih u.name ⟨hreached, List.mem_map_of_mem hu_mem, List.mem_map_of_mem ht⟩ u hu_mem rfl
  refine ⟨fun t => Acc.intro t fun u hu => ?_⟩
  exact hlisted u.name u (Table.mem_of_mem_targets hu).1 rfl

/-- The unfoldings of all tables that a table refers to, one after the other, and then the table. -/
def unfolding (hts : Acyclic ts) (t : Table) : List Table :=
  (t.targets ts).attach.flatMap (fun u => hts.unfolding u.val) ++ [t]
termination_by hts.wellFounded.wrap t
decreasing_by exact u.property

theorem unfolding_eq (hts : Acyclic ts) (t : Table) :
    hts.unfolding t = (t.targets ts).flatMap hts.unfolding ++ [t] := by
  rw [unfolding, List.flatMap_subtype (g := hts.unfolding) (fun _ _ => rfl), List.unattach_attach]

/-- An unfolding holds only listed tables that the table refers to, directly or not. -/
theorem reaches_of_mem_unfolding (hts : Acyclic ts) (ht : t ∈ ts) (hu : u ∈ hts.unfolding t) :
    u ∈ ts ∧ Relation.ReflTransGen (RefersWithin ts) t.name u.name := by
  induction t using hts.wellFounded.induction with
  | _ t ih =>
      rw [unfolding_eq, List.mem_append, List.mem_flatMap, List.mem_singleton] at hu
      rcases hu with ⟨v, hv, hu⟩ | rfl
      · have hv_mem : v ∈ ts := (Table.mem_of_mem_targets hv).1
        obtain ⟨hu_mem, hreach⟩ := ih v hv hv_mem hu
        exact ⟨hu_mem, hreach.head (Table.refersWithin_of_mem_targets ht hv)⟩
      · exact ⟨ht, .refl⟩

end Acyclic

namespace ReferenceGraph

variable {g : ReferenceGraph} {n : Nat} {ns : List Nat} {w v : Walk}

/-! ## The tables at given positions -/

def tablesAt (g : ReferenceGraph) (ns : List Nat) : List Table := ns.filterMap (g.tables[·]?)

theorem tablesAt_append (g : ReferenceGraph) (ns ms : List Nat) :
    g.tablesAt (ns ++ ms) = g.tablesAt ns ++ g.tablesAt ms :=
  List.filterMap_append

theorem tablesAt_cons (hn : g.tables[n]? = some t) (ns : List Nat) :
    g.tablesAt (n :: ns) = t :: g.tablesAt ns :=
  List.filterMap_cons_some hn

theorem mem_tablesAt (hn : g.tables[n]? = some t) (hmem : n ∈ ns) : t ∈ g.tablesAt ns :=
  List.mem_filterMap.mpr ⟨n, hmem, hn⟩

namespace Represents

variable (hg : g.Represents ts)

include hg

theorem getElem?_positionOf (ht : t ∈ ts) : g.tables[g.positionOf t.name]? = some t := by
  obtain ⟨n, hn⟩ := hg.mem_iff.mp ht
  rwa [hg.positionOf_name hn]

theorem tablesAt_map_positionOf {us : List Table} (hus : us ⊆ ts) :
    g.tablesAt (us.map fun u => g.positionOf u.name) = us := by
  unfold tablesAt
  rw [List.filterMap_map]
  have hsome : ∀ u ∈ us, g.tables[g.positionOf u.name]? = some u :=
    fun u hu => hg.getElem?_positionOf (hus hu)
  calc
    us.filterMap (fun u => g.tables[g.positionOf u.name]?) = us.filterMap some :=
      List.filterMap_congr hsome
    _ = us := List.filterMap_some

theorem nodup_tablesAt (hns : ns.Nodup) : (g.tablesAt ns).Nodup := by
  refine hns.filterMap ?_
  intro n m t hn hm
  rw [← hg.positionOf_name hn, ← hg.positionOf_name hm]

/-- The edges of a table lead to the tables that it refers to, each at its first mention. -/
theorem tablesAt_successors (hn : g.tables[n]? = some t) :
    g.tablesAt (g.successors n) = (t.targets ts).eraseDups := by
  have hposition : ∀ name, position? g.tables name =
      (ts.find? fun u => u.name = name).map fun u => g.positionOf u.name := by
    intro name
    cases hfind : ts.find? fun u => u.name = name with
    | some u =>
        have hu : u ∈ ts := List.mem_of_find?_eq_some hfind
        have hname : u.name = name := by simpa using List.find?_some hfind
        rw [Option.map_some, position?_eq_some_iff hg.ascending.names_nodup]
        exact ⟨u, hg.getElem?_positionOf hu, hname⟩
    | none =>
        rw [Option.map_none, Option.eq_none_iff_forall_ne_some]
        intro m hm
        obtain ⟨u, hu, hname⟩ := (position?_eq_some_iff hg.ascending.names_nodup).mp hm
        have hfresh := List.find?_eq_none.mp hfind u (hg.mem_iff.mpr ⟨m, hu⟩)
        simp [hname] at hfresh
  have hmentions : t.references.filterMap (position? g.tables) =
      (t.targets ts).map fun u => g.positionOf u.name := by
    unfold Table.targets
    rw [List.map_filterMap]
    exact List.filterMap_congr fun name _ => hposition name
  have hsuccessors : g.successors n =
      ((t.targets ts).map fun u => g.positionOf u.name).eraseDups := by
    rw [successors, hg.edges_eq, List.getD_eq_getElem?_getD, List.getElem?_map, hn,
      Option.map_some, Option.getD_some, hmentions]
  have hlisted : t.targets ts ⊆ ts := fun u hu => (Table.mem_of_mem_targets hu).1
  rw [hsuccessors, eraseDups_map]
  · apply hg.tablesAt_map_positionOf
    intro u hu
    exact hlisted (List.mem_eraseDups.mp hu)
  · intro u hu v hv heq
    have hu_get := hg.getElem?_positionOf (hlisted hu)
    have hv_get := hg.getElem?_positionOf (hlisted hv)
    rw [heq, hv_get] at hu_get
    exact (Option.some.inj hu_get).symm

/-! ## The visit places first occurrences -/

/-- With a placed table, everything that its unfolding holds has been placed. -/
theorem unfolding_subset_placed (hts : Acyclic ts) (hw : w.Consistent g) (hplaced : n ∈ w.order)
    (hn : g.tables[n]? = some t) : hts.unfolding t ⊆ g.tablesAt w.order := by
  intro u hu
  have ht : t ∈ ts := hg.mem_iff.mpr ⟨n, hn⟩
  obtain ⟨hu_mem, hreach⟩ := hts.reaches_of_mem_unfolding ht hu
  have hedges : Relation.ReflTransGen g.Edge (g.positionOf t.name) (g.positionOf u.name) :=
    hreach.lift _ fun _ _ h => hg.edge_of_refersWithin h
  rw [hg.positionOf_name hn] at hedges
  have hplaced_u : g.positionOf u.name ∈ w.order := by
    rcases Relation.reflTransGen_iff_eq_or_transGen.mp hedges with heq | hpath
    · exact heq ▸ hplaced
    · obtain ⟨i, hi⟩ := List.mem_iff_getElem?.mp hplaced
      obtain ⟨j, _, hj⟩ := hw.placed_before hi hpath
      exact List.mem_of_getElem? hj
  exact mem_tablesAt (hg.getElem?_positionOf hu_mem) hplaced_u

/-- A visit adds the first occurrences in the unfoldings of the tables that it is asked for. -/
theorem tablesAt_order_of_visits (hts : Acyclic ts) (hvisit : g.Visits ns w (.ok v))
    (hentry : g.Entry ns w) :
    g.tablesAt v.order =
      (g.tablesAt w.order ++ (g.tablesAt ns).flatMap hts.unfolding).eraseDups := by
  have hkeep : ∀ {w : Walk}, w.Consistent g →
      (g.tablesAt w.order).eraseDups = g.tablesAt w.order :=
    fun hw => eraseDups_of_nodup (hg.nodup_tablesAt hw.order_nodup)
  generalize hr : (Except.ok v : Except (List Nat) Walk) = r at hvisit
  induction hvisit generalizing v with
  | @nil w =>
      cases hr
      have hnil : g.tablesAt [] = [] := rfl
      rw [hnil, List.flatMap_nil, List.append_nil, hkeep hentry.consistent]
  | @done n ns w r hmark _ ih =>
      have hlt : n < g.tables.length := hentry.inRange n List.mem_cons_self
      have hn : g.tables[n]? = some g.tables[n] := List.getElem?_eq_getElem hlt
      have hplaced : n ∈ w.order := hentry.mem_order_of_done hmark
      -- The walk stays as it is, and so must the right side: the unfolding adds nothing new.
      have hold := hg.unfolding_subset_placed hts hentry.consistent hplaced hn
      rw [ih hentry.tail hr, tablesAt_cons hn, List.flatMap_cons, ← List.append_assoc,
        ← eraseDups_eraseDups_append (g.tablesAt w.order ++ _), eraseDups_append_of_subset hold,
        hkeep hentry.consistent]
  | entered => cases hr
  | failed => cases hr
  | @placed n ns w u r hmark hbelow _ ihbelow ihrest =>
      have hlt : n < g.tables.length := hentry.inRange n List.mem_cons_self
      have hn : g.tables[n]? = some g.tables[n] := List.getElem?_eq_getElem hlt
      have hentry_below := hentry.below hg.closed hmark
      have hexit := hbelow.exit hg.closed hentry_below
      -- The edges leave out repeated mentions, whose unfoldings have no first occurrences left.
      have hu : g.tablesAt u.order = (g.tablesAt w.order ++
          (g.tables[n].targets ts).flatMap hts.unfolding).eraseDups := by
        rw [ihbelow hentry_below rfl, Walk.order_enter, hg.tablesAt_successors hn,
          eraseDups_append_flatMap_eraseDups]
      have hleave : g.tablesAt (u.leave n).order = g.tablesAt u.order ++ [g.tables[n]] := by
        rw [Walk.order_leave, tablesAt_append, tablesAt_cons hn]
        rfl
      rw [ihrest (hentry.after hexit) hr, hleave, hu, List.append_assoc,
        eraseDups_eraseDups_append, tablesAt_cons hn, List.flatMap_cons, hts.unfolding_eq]
      simp only [List.append_assoc]

theorem ordered_eq_unfolding (hts : Acyclic ts) :
    g.ordered = .ok (g.tables.flatMap hts.unfolding).eraseDups := by
  have hvisit := g.visits_visitAll (List.range g.size) (Walk.start g.size)
  rw [ordered]
  cases hwalk : g.visitAll (List.range g.size) (Walk.start g.size) with
  | error c =>
      rw [hwalk] at hvisit
      have hcycle := hg.simpleCycle_of_visits hvisit
      obtain ⟨a, ha⟩ := hcycle.exists_mem
      exact (hts a (hcycle.onCycle ha)).elim
  | ok w =>
      rw [hwalk] at hvisit
      have horder := hg.tablesAt_order_of_visits hts hvisit (Entry.start g)
      have hstart : g.tablesAt (Walk.start g.size).order = [] := rfl
      have hall : g.tablesAt (List.range g.size) = g.tables := filterMap_getElem?_range g.tables
      rw [hstart, hall, List.nil_append] at horder
      exact congrArg Except.ok horder

end Represents

end ReferenceGraph

/-! ## Ordering tables without a cycle -/

theorem orderTables_of_not_acyclic (hnames : (ts.map Table.name).Nodup) (hts : ¬ Acyclic ts) :
    ∃ c, orderTables ts = .error (.cycle c) := by
  obtain ⟨g, hg, horder⟩ := orderTables_eq_ordered hnames
  rw [horder]
  cases hresult : g.ordered with
  | ok out =>
      obtain ⟨w, hexit, _⟩ := ReferenceGraph.ordered_eq_ok hg.closed hresult
      exact (hts fun a => hg.not_onCycle hexit a).elim
  | error e =>
      obtain ⟨c, _, rfl⟩ := ReferenceGraph.ordered_eq_error hresult
      exact ⟨_, rfl⟩

theorem orderTables_of_acyclic (hnames : (ts.map Table.name).Nodup) (hts : Acyclic ts) :
    ∃ out, orderTables ts = .ok out := by
  obtain ⟨g, hg, horder⟩ := orderTables_eq_ordered hnames
  exact ⟨_, horder.trans (hg.ordered_eq_unfolding hts)⟩

/-- A table that does not refer to itself is in order on its own. -/
theorem orderTables_singleton (h : t.name ∉ t.references) : orderTables [t] = .ok [t] := by
  have hacyclic : Acyclic [t] := by
    intro a ha
    obtain ⟨b, ⟨u, hu, v, hv, _, rfl, href⟩, _⟩ := Relation.TransGen.head'_iff.mp ha
    rw [List.mem_singleton] at hu hv
    rw [hu, hv] at href
    exact h href
  have hnames : ([t].map Table.name).Nodup := by simp
  obtain ⟨out, hout⟩ := orderTables_of_acyclic hnames hacyclic
  have hperm : out.Perm [t] := (declarationOrder_of_orderTables hout).perm
  rw [hout, List.perm_singleton.mp hperm]

theorem simpleCycle_of_orderTables {c : List QualifiedName} (hnames : (ts.map Table.name).Nodup)
    (h : orderTables ts = .error (.cycle c)) : SimpleCycle (RefersWithin ts) c := by
  obtain ⟨g, hg, horder⟩ := orderTables_eq_ordered hnames
  rw [horder] at h
  obtain ⟨ns, hvisit, hc⟩ := ReferenceGraph.ordered_eq_error h
  cases hc
  exact hg.simpleCycle_of_visits hvisit

/-- A table that refers to itself is a cycle on its own. -/
theorem orderTables_singleton_self (h : t.name ∈ t.references) :
    orderTables [t] = .error (.cycle [t.name, t.name]) := by
  have hnames : ([t].map Table.name).Nodup := by simp
  have hself : RefersWithin [t] t.name t.name :=
    ⟨t, List.mem_singleton_self t, t, List.mem_singleton_self t, rfl, rfl, h⟩
  have hcyclic : ¬ Acyclic [t] := fun hacyclic => hacyclic t.name (.single hself)
  obtain ⟨c, hc⟩ := orderTables_of_not_acyclic hnames hcyclic
  have hcycle := simpleCycle_of_orderTables hnames hc
  have honly : ∀ a ∈ c, a = t.name := by
    intro a ha
    obtain ⟨_, ⟨u, hu, _, _, rfl, _⟩, _⟩ := Relation.TransGen.head'_iff.mp (hcycle.onCycle ha)
    rw [List.mem_singleton.mp hu]
  rw [hc, hcycle.eq_pair honly]

theorem acyclic_of_orderTables {out : List Table} (h : orderTables ts = .ok out) : Acyclic ts := by
  by_contra hts
  have hdeclared := declarationOrder_of_orderTables h
  have hnames : (ts.map Table.name).Nodup :=
    (hdeclared.perm.map Table.name).nodup_iff.mp hdeclared.names_nodup
  obtain ⟨c, hc⟩ := orderTables_of_not_acyclic hnames hts
  rw [h] at hc
  cases hc

theorem Acyclic.of_subset {us : List Table} (hts : Acyclic ts) (hsub : us ⊆ ts) : Acyclic us := by
  have hmono : ∀ a b, RefersWithin us a b → RefersWithin ts a b := by
    rintro a b ⟨t, ht, u, hu, hnames⟩
    exact ⟨t, hsub ht, u, hsub hu, hnames⟩
  intro a ha
  exact hts a (ha.lift id hmono)

/-- Some of the tables that can be ordered can be ordered, too. -/
theorem orderTables_ok_of_subset {us out : List Table} (h : orderTables ts = .ok out)
    (hsub : us ⊆ ts) (hnames : (us.map Table.name).Nodup) :
    ∃ out', orderTables us = .ok out' ∧ out' ⊆ out := by
  have hus : Acyclic us := (acyclic_of_orderTables h).of_subset hsub
  obtain ⟨out', hout'⟩ := orderTables_of_acyclic hnames hus
  refine ⟨out', hout', ?_⟩
  intro t ht
  have ht_us : t ∈ us := (declarationOrder_of_orderTables hout').perm.mem_iff.mp ht
  exact (declarationOrder_of_orderTables h).perm.mem_iff.mpr (hsub ht_us)

/-- Tables of different names whose references close to no cycle are declared in the order in which
they first occur when all of them, in ascending order of their names, are unfolded one after the
other. -/
theorem orderTables_eq_first_occurrences (hnames : (ts.map Table.name).Nodup)
    (hts : Acyclic ts) :
    ∃ sorted : List Table, sorted.Perm ts ∧ Ascending sorted ∧
      orderTables ts = .ok (sorted.flatMap hts.unfolding).eraseDups := by
  obtain ⟨g, hg, horder⟩ := orderTables_eq_ordered hnames
  exact ⟨g.tables, hg.perm, hg.ascending, horder.trans (hg.ordered_eq_unfolding hts)⟩

/-- In the unfolding of the first table the shared dependency `d` stands twice. -/
theorem orderTables_eq_first_occurrences_shared :
    let a := Table.referringTo "a" ["c", "b", "c"]
    let b := Table.referringTo "b" ["d"]
    let c := Table.referringTo "c" ["d", "elsewhere"]
    let d := Table.referringTo "d" []
    let ts := [d, b, a, c]
    (ts.map Table.name).Nodup ∧
      ∃ hts : Acyclic ts, hts.unfolding a = [d, c, d, b, d, c, a] ∧
        ∃ sorted : List Table, sorted.Perm ts ∧ Ascending sorted ∧
          orderTables ts = .ok (sorted.flatMap hts.unfolding).eraseDups ∧
          orderTables ts = .ok [d, c, b, a] := by
  intro a b c d ts
  have hnames : (ts.map Table.name).Nodup := by decide
  have hresult : orderTables ts = .ok [d, c, b, a] := by cbv
  have hts : Acyclic ts := acyclic_of_orderTables hresult
  have htargets : a.targets ts = [c, b, c] ∧ b.targets ts = [d] ∧ c.targets ts = [d] ∧
      d.targets ts = [] := by decide
  obtain ⟨ha, hb, hc, hd⟩ := htargets
  have hunfolding : hts.unfolding a = [d, c, d, b, d, c, a] := by
    simp [hts.unfolding_eq a, hts.unfolding_eq b, hts.unfolding_eq c, hts.unfolding_eq d,
      ha, hb, hc, hd]
  obtain ⟨sorted, hperm, hascending, horder⟩ := orderTables_eq_first_occurrences hnames hts
  exact ⟨hnames, hts, hunfolding, sorted, hperm, hascending, horder, hresult⟩

end KdbSchema
