import KdbSchema.Proofs.Compile.Requests
import KdbSchema.Proofs.Reference.Unfolding
import KdbSchema.Proofs.Table.Columns

/-!
# The outcome of a request for several records

A request looks at every listed record once.  It ends with the failure of the first record that has
no table; if all have one, with the first record whose name an earlier one has taken; if all names
differ, with a cycle of the foreign keys among the listed records; and otherwise with their tables.
So a record that cannot be built hides a clash of names, and a clash of names hides a cycle.
-/

namespace KdbSchema

namespace Compiler

variable {k : Compiler} {ids us : List RecordId} {ts : List Table}

def Builds (k : Compiler) (ids : List RecordId) : Prop := ∀ id ∈ ids, ∃ t, k.table id = .ok t

/-- A field of the listed record `a` points first to a record whose table has the name of the table
of the listed record `b`. -/
def LinksWithin (k : Compiler) (ids : List RecordId) (a b : RecordId) : Prop :=
  a ∈ ids ∧ b ∈ ids ∧ ∃ f ∈ (k.catalog a).fields, ∃ target, f.target? = some target ∧
    k.tableName target = k.tableName b

theorem order_eraseDups (k : Compiler) (ids : List RecordId) :
    k.order ids.eraseDups = k.order ids := by
  unfold order
  rw [eraseDups_of_nodup (nodup_eraseDups ids)]

/-! ## Records that cannot be built -/

theorem builds_iff :
    k.Builds us ↔ ∃ ts, List.Forall₂ (fun id t => k.table id = .ok t) us ts :=
  exists_forall₂_iff.symm

theorem order_of_not_builds (h : ¬ k.Builds ids.eraseDups) :
    ∃ before id after e, ids.eraseDups = before ++ id :: after ∧ k.Builds before ∧
      k.table id = .error e ∧ k.order ids = .error e := by
  cases hresult : ids.eraseDups.mapM k.table with
  | ok ts => exact (h (builds_iff.mpr ⟨ts, mapM_eq_ok_iff.mp hresult⟩)).elim
  | error e =>
      obtain ⟨before, id, after, hsplit, hbefore, hid⟩ := mapM_eq_error_iff.mp hresult
      exact ⟨before, id, after, e, hsplit, hbefore, hid, order_eq_error_iff.mpr (Or.inl hresult)⟩

theorem order_eq_orderTables
    (hts : List.Forall₂ (fun id t => k.table id = .ok t) ids.eraseDups ts) :
    k.order ids = orderTables ts := by
  unfold order
  rw [mapM_eq_ok_iff.mpr hts]
  rfl

/-- A record that is listed alone is built once, and its table is ordered on its own. -/
theorem order_of_forall_eq {id : RecordId} (hne : ids ≠ []) (hall : ∀ i ∈ ids, i = id) :
    k.order ids = (do
      let t ← k.table id
      orderTables [t]) := by
  unfold order
  rw [eraseDups_of_forall_eq hne hall, List.mapM_cons, List.mapM_nil]
  cases k.table id <;> rfl

theorem order_singleton {id : RecordId} {t : Table} (ht : k.table id = .ok t)
    (href : t.name ∉ t.references) : k.order [id] = .ok [t] := by
  have hall : ∀ i ∈ [id], i = id := fun i hi => List.mem_singleton.mp hi
  rw [order_of_forall_eq (List.cons_ne_nil id []) hall, ht]
  exact orderTables_singleton href

/-! ## Names for records and records for names -/

/-- The name of a record's table, or the empty name if it has none. -/
def nameOf (k : Compiler) (id : RecordId) : QualifiedName :=
  match k.tableName id with
  | .ok q => q
  | .error _ => ⟨none, ""⟩

/-- The first listed record whose table has the name, or the record zero. -/
def recordOf (k : Compiler) (us : List RecordId) (q : QualifiedName) : RecordId :=
  (us.find? fun id => k.tableName id = .ok q).getD 0

theorem nameOf_eq {id : RecordId} {q : QualifiedName} (h : k.tableName id = .ok q) :
    k.nameOf id = q := by
  simp [nameOf, h]

theorem recordOf_eq {id : RecordId} {q : QualifiedName} (hnames : (us.map k.tableName).Nodup)
    (hid : id ∈ us) (h : k.tableName id = .ok q) : k.recordOf us q = id := by
  unfold recordOf
  cases hfind : us.find? fun id => k.tableName id = .ok q with
  | none =>
      have hnone := List.find?_eq_none.mp hfind id hid
      simp [h] at hnone
  | some other =>
      have hother : k.tableName other = .ok q := by simpa using List.find?_some hfind
      exact List.inj_on_of_nodup_map hnames (List.mem_of_find?_eq_some hfind) hid
        (hother.trans h.symm)

/-! ## Names that clash -/

section Built

variable (hts : List.Forall₂ (fun id t => k.table id = .ok t) us ts)

include hts

theorem map_table_eq_of_forall₂ : us.map k.table = ts.map .ok := by
  rw [map_eq_map_iff_forall₂]
  exact hts

theorem nodup_tableNames_iff : (us.map k.tableName).Nodup ↔ (ts.map Table.name).Nodup := by
  rw [map_tableName_of_forall₂ hts]
  exact List.nodup_map_iff fun _ _ h => Except.ok.inj h

theorem orderTables_of_clash (hclash : ¬ (us.map k.tableName).Nodup) :
    ∃ (i j : Nat) (a b : RecordId) (q : QualifiedName), i < j ∧ us[i]? = some a ∧
      us[j]? = some b ∧ k.tableName a = .ok q ∧ k.tableName b = .ok q ∧
      ((us.take j).map k.tableName).Nodup ∧
      orderTables ts =
        .error (.duplicateTable q (k.catalog a).ident (k.catalog b).ident) := by
  rw [nodup_tableNames_iff hts] at hclash
  obtain ⟨before, t, after, u, hsplit, hnodup, hu, hname, hsort⟩ := sortByName_of_not_nodup hclash
  obtain ⟨i, hi, hget⟩ := List.getElem_of_mem hu
  have hu_get : ts[i]? = some u := by
    rw [hsplit, List.getElem?_append_left hi, List.getElem?_eq_getElem hi, hget]
  have ht_get : ts[before.length]? = some t := by simp [hsplit]
  obtain ⟨a, ha, hatable⟩ := exists_getElem?_of_forall₂ hts hu_get
  obtain ⟨b, hb, hbtable⟩ := exists_getElem?_of_forall₂ hts ht_get
  have hbefore : ((us.take before.length).map k.tableName).Nodup := by
    rw [nodup_tableNames_iff (List.forall₂_take before.length hts), hsplit, List.take_left]
    exact hnodup
  obtain ⟨_, _, _, hurecord, _⟩ := Record.table_eq_ok_iff.mp hatable
  obtain ⟨_, _, _, htrecord, _⟩ := Record.table_eq_ok_iff.mp hbtable
  refine ⟨i, before.length, a, b, t.name, hi, ha, hb, ?_, tableName_of_table hbtable, hbefore, ?_⟩
  · rw [tableName_of_table hatable, hname]
  · rw [← hurecord, ← htrecord, orderTables, ReferenceGraph.ofTables, hsort]
    rfl

/-! ## Links between records and references between tables -/

theorem LinksWithin.refersWithin {a b : RecordId} (h : k.LinksWithin us a b) :
    ∃ t u, k.table a = .ok t ∧ k.table b = .ok u ∧ RefersWithin ts t.name u.name := by
  obtain ⟨ha, hb, f, hf, target, htarget, hname⟩ := h
  obtain ⟨t, ht, hatable⟩ := exists_right_of_forall₂ hts ha
  obtain ⟨u, hu, hbtable⟩ := exists_right_of_forall₂ hts hb
  rw [tableName_of_table hbtable] at hname
  have href : u.name ∈ t.references :=
    (Record.mem_references_iff hatable).mpr ⟨f, hf, target, htarget, hname⟩
  exact ⟨t, u, hatable, hbtable, t, ht, u, hu, rfl, rfl, href⟩

theorem exists_linksWithin {p q : QualifiedName} (h : RefersWithin ts p q) :
    ∃ a b, k.tableName a = .ok p ∧ k.tableName b = .ok q ∧ k.LinksWithin us a b := by
  obtain ⟨t, ht, u, hu, rfl, rfl, href⟩ := h
  obtain ⟨a, ha, hatable⟩ := exists_left_of_forall₂ hts ht
  obtain ⟨b, hb, hbtable⟩ := exists_left_of_forall₂ hts hu
  have hbname : k.tableName b = .ok u.name := tableName_of_table hbtable
  obtain ⟨f, hf, target, htarget, hname⟩ := (Record.mem_references_iff hatable).mp href
  exact ⟨a, b, tableName_of_table hatable, hbname, ha, hb, f, hf, target, htarget,
    hname.trans hbname.symm⟩

/-- Where all names differ, records link in a circle exactly if their tables refer in a circle. -/
theorem acyclic_iff_links (hnames : (us.map k.tableName).Nodup) :
    Acyclic ts ↔ ∀ a, ¬ Relation.TransGen (k.LinksWithin us) a a := by
  have hnames_refer : ∀ a b, k.LinksWithin us a b → RefersWithin ts (k.nameOf a) (k.nameOf b) := by
    intro a b hlink
    obtain ⟨t, u, ha, hb, href⟩ := hlink.refersWithin hts
    rwa [nameOf_eq (tableName_of_table ha), nameOf_eq (tableName_of_table hb)]
  have hrecords_link : ∀ p q, RefersWithin ts p q →
      k.LinksWithin us (k.recordOf us p) (k.recordOf us q) := by
    intro p q href
    obtain ⟨a, b, ha, hb, hlink⟩ := exists_linksWithin hts href
    rwa [recordOf_eq hnames hlink.1 ha, recordOf_eq hnames hlink.2.1 hb]
  -- A circle is carried over step by step, by the names of records or the records of names.
  constructor
  · intro hacyclic a ha
    exact hacyclic (k.nameOf a) (ha.lift k.nameOf hnames_refer)
  · intro hlinks q hq
    exact hlinks (k.recordOf us q) (hq.lift (k.recordOf us) hrecords_link)

end Built

/-! ## The outcome -/

/-- Repetitions are dropped first.  Then the request ends with the failure of the first record that
cannot be built, else with the first record whose name an earlier record has taken, else with a
cycle if the listed records link in a circle, and else with one table for each record. -/
theorem order_outcome (k : Compiler) (ids : List RecordId) :
    let us := ids.eraseDups
    k.order ids = k.order us ∧
    (¬ k.Builds us →
      ∃ before id after e, us = before ++ id :: after ∧ k.Builds before ∧
        k.table id = .error e ∧ k.order ids = .error e) ∧
    (k.Builds us → ¬ (us.map k.tableName).Nodup →
      ∃ (i j : Nat) (a b : RecordId) (q : QualifiedName), i < j ∧ us[i]? = some a ∧
        us[j]? = some b ∧ k.tableName a = .ok q ∧ k.tableName b = .ok q ∧
        ((us.take j).map k.tableName).Nodup ∧
        ∃ e, k.order ids = .error e ∧
          e = .duplicateTable q (k.catalog a).ident (k.catalog b).ident ∧
          e.message = "table '" ++ q.text ++ "' is declared by both '" ++ (k.catalog a).ident ++
            "' and '" ++ (k.catalog b).ident ++ "'") ∧
    (k.Builds us → (us.map k.tableName).Nodup →
      (∃ a, Relation.TransGen (k.LinksWithin us) a a) → ∃ c, k.order ids = .error (.cycle c)) ∧
    (k.Builds us → (us.map k.tableName).Nodup →
      (∀ a, ¬ Relation.TransGen (k.LinksWithin us) a a) →
      ∃ out, k.order ids = .ok out ∧ (out.map Except.ok).Perm (us.map k.table)) := by
  intro us
  refine ⟨(order_eraseDups k ids).symm, order_of_not_builds, ?_, ?_, ?_⟩
  · intro hbuilds hclash
    obtain ⟨ts, hts⟩ := builds_iff.mp hbuilds
    obtain ⟨i, j, a, b, q, hij, ha, hb, haq, hbq, hfirst, hfails⟩ := orderTables_of_clash hts hclash
    refine ⟨i, j, a, b, q, hij, ha, hb, haq, hbq, hfirst, _, ?_, rfl, rfl⟩
    exact (order_eq_orderTables hts).trans hfails
  · rintro hbuilds hnames ⟨a, ha⟩
    obtain ⟨ts, hts⟩ := builds_iff.mp hbuilds
    have hcyclic : ¬ Acyclic ts := by
      intro hacyclic
      exact (acyclic_iff_links hts hnames).mp hacyclic a ha
    rw [order_eq_orderTables hts]
    exact orderTables_of_not_acyclic ((nodup_tableNames_iff hts).mp hnames) hcyclic
  · intro hbuilds hnames hlinks
    obtain ⟨ts, hts⟩ := builds_iff.mp hbuilds
    have hacyclic : Acyclic ts := (acyclic_iff_links hts hnames).mpr hlinks
    obtain ⟨out, hout⟩ :=
      orderTables_of_acyclic ((nodup_tableNames_iff hts).mp hnames) hacyclic
    refine ⟨out, (order_eq_orderTables hts).trans hout, ?_⟩
    rw [map_table_eq_of_forall₂ hts]
    exact (declarationOrder_of_orderTables hout).perm.map Except.ok

/-- Two equal records refer to the name that both of them take.  Listed together they clash, and
listed alone, however often, each of them closes a circle. -/
theorem order_outcome_equal_records :
    let k : Compiler := { catalog := .linked ["a", "a"] fun _ => [0] }
    k.catalog 0 = k.catalog 1 ∧ k.Builds [1, 0] ∧ ¬ ([1, 0].map k.tableName).Nodup ∧
      k.order [1, 0, 1] = .error (.duplicateTable ⟨none, "a"⟩ "a" "a") ∧
      Relation.TransGen (k.LinksWithin [1]) 1 1 ∧ ∃ c, k.order [1, 1] = .error (.cycle c) := by
  intro k
  have htable : ∀ id ∈ [1, 0], k.table id = .ok (Table.referringTo "a" ["a"]) := by
    intro id hid
    simp only [List.mem_cons, List.not_mem_nil, or_false] at hid
    rcases hid with rfl | rfl <;> decide +kernel
  have hname : ∀ id ∈ [1, 0], k.tableName id = .ok ⟨none, "a"⟩ := by
    intro id hid
    exact tableName_of_table (htable id hid)
  have hbuilds : k.Builds [1, 0] := fun id hid => ⟨_, htable id hid⟩
  have hclash : ¬ ([1, 0].map k.tableName).Nodup := by
    simp [hname 1 (by decide), hname 0 (by decide)]
  have hlink : k.LinksWithin [1] 1 1 := by
    refine ⟨by decide, by decide, _, List.mem_singleton.mpr rfl, 0, rfl, ?_⟩
    rw [hname 0 (by decide), hname 1 (by decide)]
  have htogether : k.order [1, 0, 1] = .error (.duplicateTable ⟨none, "a"⟩ "a" "a") := by
    obtain ⟨i, j, a, b, q, _, ha, hb, haq, _, _, e, he, hduplicate, _⟩ :=
      (order_outcome k [1, 0, 1]).2.2.1 hbuilds hclash
    have ha_mem : a ∈ [1, 0] := List.mem_of_getElem? ha
    have hb_mem : b ∈ [1, 0] := List.mem_of_getElem? hb
    have hq : q = ⟨none, "a"⟩ := by
      rw [hname a ha_mem] at haq
      exact (Except.ok.inj haq).symm
    have hident : ∀ id ∈ [1, 0], (k.catalog id).ident = "a" := by decide
    rw [he, hduplicate, hq, hident a ha_mem, hident b hb_mem]
  have hbuilds_alone : k.Builds [1] := fun id hid => hbuilds id (by simp_all)
  have halone : ∃ c, k.order [1, 1] = .error (.cycle c) :=
    (order_outcome k [1, 1]).2.2.2.1 hbuilds_alone (by decide) ⟨1, .single hlink⟩
  exact ⟨by decide, hbuilds, hclash, htogether, .single hlink, halone⟩

end Compiler

end KdbSchema
