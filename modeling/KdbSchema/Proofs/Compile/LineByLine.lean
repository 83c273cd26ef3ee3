import KdbSchema.Proofs.Compile.OrderOutcome
import KdbSchema.Proofs.Script.Lines

/-!
# The script line by line

A script holds one line for each listed record, and that line is the declaration which the record
has on its own: it does not depend on what else is listed.  Which line comes first does depend on
that, since a reference to a table that is not listed puts nothing in order.  But fewer references
close fewer cycles, so wherever a list has a script, every part of it has one, made of some of the
same lines.
-/

namespace KdbSchema

namespace Compiler

variable {k : Compiler} {ids part us : List RecordId} {out : List Table} {text : String}

/-! ## Records in declaration order -/

/-- The ordered tables are those of the listed records in some arrangement. -/
theorem exists_arrangement (h : k.order ids = .ok out) :
    ∃ us, us.Perm ids.eraseDups ∧ List.Forall₂ (fun id t => k.table id = .ok t) us out := by
  obtain ⟨ts, hts, hout⟩ := order_eq_ok_iff.mp h
  have hperm : out.Perm ts := (declarationOrder_of_orderTables hout).perm
  have hall : List.Forall₂ (fun t id => k.table id = .ok t) ts ids.eraseDups :=
    (mapM_eq_ok_iff.mp hts).flip
  obtain ⟨us, hus, husPerm⟩ := List.perm_comp_forall₂ hperm hall
  exact ⟨us, husPerm, hus.flip⟩

theorem mapM_declareTable (h : List.Forall₂ (fun id t => k.table id = .ok t) us out) :
    us.mapM k.declareTable = .ok (out.map (Table.declaration k.config.uniqueAttribute)) := by
  rw [mapM_eq_ok_iff, List.forall₂_map_right_iff]
  refine h.imp fun id t ht => ?_
  exact declareTable_eq_ok_iff.mpr ⟨t, ht, rfl⟩

theorem not_mem_declareTable {id : RecordId} {line : String} (h : k.declareTable id = .ok line) :
    '\n' ∉ line.toList := by
  obtain ⟨t, ht, rfl⟩ := declareTable_eq_ok_iff.mp h
  exact (Record.table_wellFormed ht).not_mem_declaration (by decide) (by decide)

theorem lines_eq_declarations (h : List.Forall₂ (fun id t => k.table id = .ok t) us out) :
    lines (script k.config.uniqueAttribute out) =
      out.map (Table.declaration k.config.uniqueAttribute) := by
  apply lines_script_of_wellFormed
  intro t ht
  obtain ⟨id, _, htable⟩ := exists_left_of_forall₂ h ht
  exact Record.table_wellFormed htable

/-! ## Parts of a list -/

theorem order_ok_of_subset (h : k.order ids = .ok out) (hpart : part ⊆ ids) :
    ∃ out', k.order part = .ok out' ∧ out' ⊆ out := by
  obtain ⟨ts, hts, hout⟩ := order_eq_ok_iff.mp h
  have hall := mapM_eq_ok_iff.mp hts
  have hlisted : ∀ id ∈ part.eraseDups, id ∈ ids.eraseDups := by
    intro id hid
    exact List.mem_eraseDups.mpr (hpart (List.mem_eraseDups.mp hid))
  have hbuilds : k.Builds part.eraseDups := by
    intro id hid
    obtain ⟨t, _, ht⟩ := exists_right_of_forall₂ hall (hlisted id hid)
    exact ⟨t, ht⟩
  obtain ⟨us, hus⟩ := builds_iff.mp hbuilds
  have hsub : us ⊆ ts := by
    intro u hu
    obtain ⟨id, hid, hu_table⟩ := exists_left_of_forall₂ hus hu
    obtain ⟨t, ht, ht_table⟩ := exists_right_of_forall₂ hall (hlisted id hid)
    rw [hu_table] at ht_table
    exact Except.ok.inj ht_table ▸ ht
  -- Two of the records have different names already in the whole list.
  have hnames : (us.map Table.name).Nodup := by
    have hdeclared := declarationOrder_of_orderTables hout
    have hnames_all : (ids.eraseDups.map k.tableName).Nodup :=
      (nodup_tableNames_iff hall).mpr
        ((hdeclared.perm.map Table.name).nodup_iff.mp hdeclared.names_nodup)
    refine (nodup_tableNames_iff hus).mp ((nodup_eraseDups part).map_on ?_)
    intro a ha b hb
    exact List.inj_on_of_nodup_map hnames_all (hlisted a ha) (hlisted b hb)
  obtain ⟨out', hout', hsub_out⟩ := orderTables_ok_of_subset hout hsub hnames
  exact ⟨out', (order_eq_orderTables hus).trans hout', hsub_out⟩

theorem declareSchema_ok_of_subset (h : k.declareSchema ids = .ok text) (hpart : part ⊆ ids) :
    ∃ text', k.declareSchema part = .ok text' ∧ ∀ line ∈ lines text', line ∈ lines text := by
  obtain ⟨out, hout, rfl⟩ := declareSchema_eq_ok_iff.mp h
  obtain ⟨out', hout', hsub⟩ := order_ok_of_subset hout hpart
  refine ⟨_, declareSchema_eq_ok_iff.mpr ⟨out', hout', rfl⟩, ?_⟩
  obtain ⟨us, _, hus⟩ := exists_arrangement hout
  obtain ⟨us', _, hus'⟩ := exists_arrangement hout'
  rw [lines_eq_declarations hus, lines_eq_declarations hus']
  exact fun line hline => List.map_subset _ hsub hline

/-- A script is made of the declarations of the listed records, each record once and each
declaration followed by a line break, in the order of their tables.  No declaration holds a line
break itself, so there are as many lines as records.  Every part of the list has a script, too, and
each line of it is a line of the whole script. -/
theorem declareSchema_line_by_line (h : k.declareSchema ids = .ok text) :
    (∃ (us : List RecordId) (declarations : List String),
      us.Perm ids.eraseDups ∧ us.mapM k.table = k.order ids ∧
      us.mapM k.declareTable = .ok declarations ∧
      text = String.join (declarations.map fun line => line ++ "\n") ∧
      (∀ line ∈ declarations, '\n' ∉ line.toList) ∧
      lines text = declarations ∧ (lines text).length = ids.eraseDups.length) ∧
    ∀ part, part ⊆ ids →
      ∃ text', k.declareSchema part = .ok text' ∧ ∀ line ∈ lines text', line ∈ lines text := by
  refine ⟨?_, fun part hpart => declareSchema_ok_of_subset h hpart⟩
  obtain ⟨out, hout, rfl⟩ := declareSchema_eq_ok_iff.mp h
  obtain ⟨us, hperm, hus⟩ := exists_arrangement hout
  have hdeclarations := mapM_declareTable hus
  have hlines := lines_eq_declarations hus
  have htables : us.mapM k.table = k.order ids := by
    rw [hout, mapM_eq_ok_iff]
    exact hus
  have hjoined : script k.config.uniqueAttribute out =
      String.join ((out.map (Table.declaration k.config.uniqueAttribute)).map
        fun line => line ++ "\n") := by
    rw [script, List.map_map]
    rfl
  have hlength : (lines (script k.config.uniqueAttribute out)).length = ids.eraseDups.length := by
    rw [hlines, List.length_map, ← hus.length_eq, hperm.length_eq]
  refine ⟨us, _, hperm, htables, hdeclarations, hjoined, ?_, hlines, hlength⟩
  intro line hline
  obtain ⟨id, _, hid⟩ := exists_left_of_forall₂ (mapM_eq_ok_iff.mp hdeclarations) hline
  exact not_mem_declareTable hid

/-- Without the table between them the other two lines change places. -/
theorem declareSchema_line_by_line_gap :
    let k : Compiler :=
      { catalog := .linked ["price", "trade", "book"] fun id => [[], [0], [1]].getD id [] }
    let text := ".price:([])\n.trade:([]price:`.price$())\n.book:([]trade:`.trade$())\n"
    let text' := ".book:([]trade:`.trade$())\n.price:([])\n"
    k.declareSchema [2, 1, 2, 0] = .ok text ∧ (lines text).length = 3 ∧
      k.declareSchema [0, 2] = .ok text' ∧ ∀ line ∈ lines text', line ∈ lines text := by
  intro k text text'
  have h : k.declareSchema [2, 1, 2, 0] = .ok text := by cbv
  have hpart : k.declareSchema [0, 2] = .ok text' := by cbv
  have hsub : [0, 2] ⊆ [2, 1, 2, 0] := by decide
  obtain ⟨⟨_, _, _, _, _, _, _, _, hlength⟩, hparts⟩ := declareSchema_line_by_line h
  obtain ⟨text'', htext'', hlines⟩ := hparts _ hsub
  obtain rfl : text'' = text' := by
    rw [hpart] at htext''
    exact (Except.ok.inj htext'').symm
  exact ⟨h, hlength, hpart, hlines⟩

end Compiler

end KdbSchema
