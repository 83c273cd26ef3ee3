import KdbSchema.Proofs.Compile.Requests
import KdbSchema.Proofs.Reference.CyclicTables

/-!
# Independence of the listing

Tables of different names are ordered alike however they are listed.  For records this means that
the script depends only on which records are listed: neither their order nor repetitions show in it.
A failure may depend on the order, since the first record that fails ends the request, but where
every record has a table of its own name the only failure left is that of a cycle, and it is the same
for every listing.
-/

namespace KdbSchema

/-! ## Tables -/

theorem sortByName_eq_of_perm {ts us : List Table} (hnames : (ts.map Table.name).Nodup)
    (hperm : us.Perm ts) : sortByName us = sortByName ts := by
  obtain ⟨vs, hvs, hvsPerm, hasc⟩ := sortByName_of_nodup hnames
  rw [hvs]
  apply sortByName_eq_ok_iff.mpr
  exact ⟨(hperm.map Table.name).nodup_iff.mpr hnames, hvsPerm.trans hperm.symm, hasc⟩

theorem orderTables_eq_of_perm {ts us : List Table} (hnames : (ts.map Table.name).Nodup)
    (hperm : us.Perm ts) : orderTables us = orderTables ts := by
  unfold orderTables ReferenceGraph.ofTables
  rw [sortByName_eq_of_perm hnames hperm]

theorem orderTables_ok_of_perm {ts us out : List Table} (hperm : us.Perm ts)
    (h : orderTables ts = .ok out) : orderTables us = .ok out := by
  have horder := declarationOrder_of_orderTables h
  have hnames : (ts.map Table.name).Nodup :=
    (horder.perm.map Table.name).nodup_iff.mp horder.names_nodup
  rw [orderTables_eq_of_perm hnames hperm, h]

/-! ## Records -/

theorem mapM_ok_of_perm {α β ε : Type} {f : α → Except ε β} {as as' : List α} {bs : List β}
    (hperm : as'.Perm as) (h : as.mapM f = .ok bs) :
    ∃ bs', as'.mapM f = .ok bs' ∧ bs'.Perm bs := by
  obtain ⟨bs', hbs', hbsPerm⟩ := List.perm_comp_forall₂ hperm (mapM_eq_ok_iff.mp h)
  exact ⟨bs', mapM_eq_ok_iff.mpr hbs', hbsPerm⟩

namespace Compiler

variable {k : Compiler} {ids ids' : List RecordId}

theorem order_ok_of_mem_iff (hmem : ∀ id, id ∈ ids ↔ id ∈ ids') {out : List Table}
    (h : k.order ids = .ok out) : k.order ids' = .ok out := by
  obtain ⟨ts, hts, hout⟩ := order_eq_ok_iff.mp h
  have hperm := eraseDups_perm_of_mem_iff fun id => (hmem id).symm
  obtain ⟨us, hus, husPerm⟩ := mapM_ok_of_perm hperm hts
  exact order_eq_ok_iff.mpr ⟨us, hus, orderTables_ok_of_perm husPerm hout⟩

theorem names_nodup_of_distinct {ts : List Table} (hts : ids.eraseDups.mapM k.table = .ok ts)
    (hdistinct : ∀ id ∈ ids, ∀ other ∈ ids, k.tableName id = k.tableName other → id = other) :
    (ts.map Table.name).Nodup := by
  have hnames := map_tableName_of_forall₂ (mapM_eq_ok_iff.mp hts)
  have hnodup : (ids.eraseDups.map k.tableName).Nodup := by
    apply (nodup_eraseDups ids).map_on
    intro id hid other hother
    exact hdistinct id (List.mem_eraseDups.mp hid) other (List.mem_eraseDups.mp hother)
  rw [hnames] at hnodup
  exact hnodup.of_map _

theorem order_error_of_distinct (hmem : ∀ id, id ∈ ids ↔ id ∈ ids')
    (hbuilt : ∀ id ∈ ids, ∃ t, k.table id = .ok t)
    (hdistinct : ∀ id ∈ ids, ∀ other ∈ ids, k.tableName id = k.tableName other → id = other)
    {e : Failure} (h : k.order ids = .error e) :
    k.order ids' = .error e ∧ ∃ c, e = .cycle c := by
  rcases order_eq_error_iff.mp h with hfirst | ⟨ts, hts, hout⟩
  · obtain ⟨before, id, after, hsplit, _, hid⟩ := mapM_eq_error_iff.mp hfirst
    have hidMem : id ∈ ids := by
      rw [← List.mem_eraseDups, hsplit]
      simp
    obtain ⟨t, ht⟩ := hbuilt id hidMem
    rw [ht] at hid
    cases hid
  · have hnames := names_nodup_of_distinct hts hdistinct
    have hperm := eraseDups_perm_of_mem_iff fun id => (hmem id).symm
    obtain ⟨us, hus, husPerm⟩ := mapM_ok_of_perm hperm hts
    constructor
    · apply order_eq_error_iff.mpr
      exact Or.inr ⟨us, hus, by rw [orderTables_eq_of_perm hnames husPerm, hout]⟩
    · obtain ⟨g, _, horder⟩ := orderTables_eq_ordered hnames
      obtain ⟨c, _, hc⟩ := ReferenceGraph.ordered_eq_error (horder ▸ hout)
      exact ⟨_, hc⟩

/-- The outcome for tables of different names does not depend on how they are listed.  Hence two
listings of the same records yield the same script or fail both, and where every record has a table
of its own name they fail with the same cycle. -/
theorem declareSchema_listing_independent :
    (∀ ts us : List Table, (ts.map Table.name).Nodup → us.Perm ts →
      orderTables us = orderTables ts) ∧
    ∀ (k : Compiler) (ids ids' : List RecordId), (∀ id, id ∈ ids ↔ id ∈ ids') →
      ((∃ text, k.declareSchema ids = .ok text ∧ k.declareSchema ids' = .ok text) ∨
        ∃ e e', k.declareSchema ids = .error e ∧ k.declareSchema ids' = .error e') ∧
      ((∀ id ∈ ids, ∃ t, k.table id = .ok t) →
        (∀ id ∈ ids, ∀ other ∈ ids, k.tableName id = k.tableName other → id = other) →
        ∀ e, k.declareSchema ids = .error e →
          k.declareSchema ids' = .error e ∧ ∃ c, e = .cycle c) := by
  refine ⟨fun ts us hnames hperm => orderTables_eq_of_perm hnames hperm, ?_⟩
  intro k ids ids' hmem
  constructor
  · cases hids : k.order ids with
    | ok out =>
        have hids' := order_ok_of_mem_iff hmem hids
        left
        exact ⟨_, declareSchema_eq_ok_iff.mpr ⟨out, hids, rfl⟩,
          declareSchema_eq_ok_iff.mpr ⟨out, hids', rfl⟩⟩
    | error e =>
        right
        cases hids' : k.order ids' with
        | ok out =>
            have hout := order_ok_of_mem_iff (fun id => (hmem id).symm) hids'
            rw [hids] at hout
            cases hout
        | error e' =>
            exact ⟨e, e', declareSchema_eq_error_iff.mpr hids,
              declareSchema_eq_error_iff.mpr hids'⟩
  · intro hbuilt hdistinct e he
    obtain ⟨hids', hcycle⟩ :=
      order_error_of_distinct hmem hbuilt hdistinct (declareSchema_eq_error_iff.mp he)
    exact ⟨declareSchema_eq_error_iff.mpr hids', hcycle⟩

/-- Two records that point at each other fail alike when one of them is listed twice. -/
theorem declareSchema_listing_independent_pair :
    let k : Compiler := { catalog := .linked ["a", "b"] fun id => [1 - id] }
    let e : Failure := .cycle [⟨none, "a"⟩, ⟨none, "b"⟩, ⟨none, "a"⟩]
    (∀ id, id ∈ [1, 0, 1] ↔ id ∈ [0, 1]) ∧ (∀ id ∈ [1, 0, 1], ∃ t, k.table id = .ok t) ∧
      (∀ id ∈ [1, 0, 1], ∀ other ∈ [1, 0, 1], k.tableName id = k.tableName other → id = other) ∧
      k.declareSchema [1, 0, 1] = .error e ∧ k.declareSchema [0, 1] = .error e := by
  intro k e
  have hmem : ∀ id, id ∈ [1, 0, 1] ↔ id ∈ [0, 1] := by
    intro id
    simp
    tauto
  have ha : k.table 0 = .ok (Table.referringTo "a" ["b"]) := by cbv
  have hb : k.table 1 = .ok (Table.referringTo "b" ["a"]) := by cbv
  have hbuilt : ∀ id ∈ [1, 0, 1], ∃ t, k.table id = .ok t := by
    simp [ha, hb]
  have hdistinct : ∀ id ∈ [1, 0, 1], ∀ other ∈ [1, 0, 1],
      k.tableName id = k.tableName other → id = other := by
    simp [tableName_of_table ha, tableName_of_table hb, Table.referringTo]
  have hfails : k.declareSchema [1, 0, 1] = .error e := by cbv
  exact ⟨hmem, hbuilt, hdistinct, hfails,
    ((declareSchema_listing_independent.2 k _ _ hmem).2 hbuilt hdistinct e hfails).1⟩

end Compiler

end KdbSchema
