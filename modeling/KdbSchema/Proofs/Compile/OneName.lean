import KdbSchema.Proofs.Compile.Requests
import KdbSchema.Proofs.Script.Lines
import KdbSchema.Proofs.Table.Columns

/-!
# One name for a table

The name of a table is resolved when it is asked for, when the table is declared and wherever a
field points to its record, and it is the same name each time.  A record that has no name therefore
has no table and no declaration, and no record with a field that points to it first has a table
either.  If it has a name, its declaration starts with it, and the columns of all such fields refer
to it.
-/

namespace KdbSchema

variable {catalog : Catalog} {config : Config} {r : Record RecordId} {t : Table}
  {f : Field RecordId} {target : RecordId} {q : QualifiedName} {uniqueAttribute : Bool}

/-! ## Columns in the text of a declaration -/

theorem exists_text_of_mem_columns (uniqueAttribute : Bool) {cs : List Column} {c : Column}
    (hc : c ∈ cs) :
    ∃ before after, columnsDeclaration uniqueAttribute cs =
      before ++ c.declaration uniqueAttribute ++ after := by
  induction cs with
  | nil => simp at hc
  | cons d cs ih =>
      cases cs with
      | nil =>
          obtain rfl := List.mem_singleton.mp hc
          exact ⟨"", "", by simp [columnsDeclaration]⟩
      | cons e cs =>
          rw [columnsDeclaration_cons_cons]
          rcases List.mem_cons.mp hc with rfl | hc
          · refine ⟨"", ";" ++ columnsDeclaration uniqueAttribute (e :: cs), ?_⟩
            simp [String.append_assoc]
          · obtain ⟨before, after, hcs⟩ := ih hc
            refine ⟨d.declaration uniqueAttribute ++ ";" ++ before, after, ?_⟩
            simp [hcs, String.append_assoc]

theorem Table.exists_text_of_mem {c : Column} (hc : c ∈ t.keys ++ t.values) :
    ∃ before after, t.declaration uniqueAttribute =
      before ++ c.declaration uniqueAttribute ++ after := by
  unfold Table.declaration
  rcases List.mem_append.mp hc with hc | hc
  · obtain ⟨before, after, hcs⟩ := exists_text_of_mem_columns uniqueAttribute hc
    refine ⟨t.name.text ++ ":([" ++ before,
      after ++ "]" ++ columnsDeclaration uniqueAttribute t.values ++ ")", ?_⟩
    simp [hcs, String.append_assoc]
  · obtain ⟨before, after, hcs⟩ := exists_text_of_mem_columns uniqueAttribute hc
    refine ⟨t.name.text ++ ":([" ++ columnsDeclaration uniqueAttribute t.keys ++ "]" ++ before,
      after ++ ")", ?_⟩
    simp [hcs, String.append_assoc]

theorem Table.declaration_starts (t : Table) (uniqueAttribute : Bool) :
    ∃ rest, t.declaration uniqueAttribute = t.name.text ++ ":(" ++ rest := by
  refine ⟨"[" ++ columnsDeclaration uniqueAttribute t.keys ++ "]" ++
    columnsDeclaration uniqueAttribute t.values ++ ")", ?_⟩
  apply String.toList_inj.mp
  simp [Table.declaration]

theorem Column.declaration_of_reference {c : Column} (h : c.type = .reference q) :
    c.declaration uniqueAttribute =
      c.attributeText uniqueAttribute ++ c.name ++ ":`" ++ q.text ++ "$()" := by
  apply String.toList_inj.mp
  simp [Column.declaration, ColumnType.emptyList, h]

/-! ## Fields that point to a record -/

theorem Record.table_error_of_target {e : Failure} (hf : f ∈ r.fields)
    (htarget : f.target? = some target) (h : (catalog target).qualifiedName config = .error e) :
    ∃ e', r.table catalog config = .error e' := by
  cases hresult : r.table catalog config with
  | error e' => exact ⟨e', rfl⟩
  | ok t =>
      obtain ⟨c, _, hcolumn⟩ := Record.exists_column_of_mem hresult hf
      obtain ⟨_, _, htype, _⟩ := Field.column_eq_ok_iff.mp hcolumn
      obtain ⟨q, hq, _⟩ := Field.columnType_of_target htype htarget
      rw [h] at hq
      cases hq

/-- The columns with the name that the field gives refer to the table of its target. -/
theorem Record.type_of_target (ht : r.table catalog config = .ok t) (hf : f ∈ r.fields)
    (htarget : f.target? = some target) (hq : (catalog target).qualifiedName config = .ok q)
    {c : Column} (hc : c ∈ t.keys ++ t.values) (hname : c.name = f.columnName) :
    c.type = .reference q := by
  obtain ⟨d, hd, hcolumn⟩ := Record.exists_column_of_mem ht hf
  obtain ⟨_, _, htype, hd_name, _⟩ := Field.column_eq_ok_iff.mp hcolumn
  obtain ⟨q', hq', hd_type⟩ := Field.columnType_of_target htype htarget
  have heq : c = d :=
    List.inj_on_of_nodup_map (Record.names_nodup ht) hc hd (hname.trans hd_name.symm)
  rw [hq] at hq'
  rw [heq, hd_type, Except.ok.inj hq']

namespace Compiler

variable {k : Compiler} {id : RecordId} {e : Failure}

theorem table_error_of_tableName (h : k.tableName id = .error e) : k.table id = .error e :=
  Except.bind_eq_error_iff.mpr (Or.inl h)

theorem declareTable_starts (hq : k.tableName id = .ok q) {text : String}
    (h : k.declareTable id = .ok text) : ∃ rest, text = q.text ++ ":(" ++ rest := by
  obtain ⟨t, ht, rfl⟩ := declareTable_eq_ok_iff.mp h
  rw [tableName_of_table ht] at hq
  cases hq
  exact t.declaration_starts k.config.uniqueAttribute

/-- A record whose name fails to resolve has no table and no declaration, with the same failure, and
no record with a field that points to it first has a table.  The name of any other record stands at
the start of its declaration, and every field that points to it first yields a column that refers to
this name and shows it. -/
theorem table_name_agrees (k : Compiler) (id : RecordId) :
    (∀ e, k.tableName id = .error e →
      k.table id = .error e ∧ k.declareTable id = .error e ∧
        ∀ r : Record RecordId, (∃ f ∈ r.fields, f.target? = some id) →
          ∃ e', r.table k.catalog k.config = .error e') ∧
    ∀ q, k.tableName id = .ok q →
      (∀ text, k.declareTable id = .ok text → ∃ rest, text = q.text ++ ":(" ++ rest) ∧
      ∀ (r : Record RecordId) (t : Table), r.table k.catalog k.config = .ok t →
        ∀ f ∈ r.fields, f.target? = some id →
          (∃ c ∈ t.keys ++ t.values, c.name = f.columnName) ∧
          ∀ c ∈ t.keys ++ t.values, c.name = f.columnName →
            c.type = .reference q ∧
            ∀ uniqueAttribute,
              c.declaration uniqueAttribute =
                c.attributeText uniqueAttribute ++ c.name ++ ":`" ++ q.text ++ "$()" ∧
              ∃ before after, t.declaration uniqueAttribute =
                before ++ c.declaration uniqueAttribute ++ after := by
  constructor
  · intro e he
    have htable := table_error_of_tableName he
    refine ⟨htable, declareTable_eq_error_iff.mpr htable, ?_⟩
    rintro r ⟨f, hf, htarget⟩
    exact Record.table_error_of_target hf htarget he
  · intro q hq
    refine ⟨fun text h => declareTable_starts hq h, ?_⟩
    intro r t ht f hf htarget
    constructor
    · obtain ⟨c, hc, hcolumn⟩ := Record.exists_column_of_mem ht hf
      exact ⟨c, hc, (Field.column_eq_ok_iff.mp hcolumn).2.2.2.1⟩
    · intro c hc hname
      have htype := Record.type_of_target ht hf htarget hq hc hname
      refine ⟨htype, fun uniqueAttribute => ?_⟩
      exact ⟨Column.declaration_of_reference htype, Table.exists_text_of_mem hc⟩

/-- The key of a trade points to a venue first; the namespace of both is the default one.  A count
has no name, since the word is taken, and so a total that points to it has no table. -/
theorem table_name_agrees_venue :
    let venue : Record RecordId := { ident := "Venue", tableName := some "Venues" }
    let count : Record RecordId := { ident := "Count" }
    let f : Field RecordId :=
      { ident := "Place", type := .unsupported "Venue",
        modifiers := [.unique, .foreignKey 0, .key, .foreignKey 1] }
    let trade : Record RecordId := { ident := "Trade", fields := [f] }
    let total : Record RecordId :=
      { ident := "Total",
        fields := [{ ident := "Of", type := .primitive .int64, modifiers := [.foreignKey 1] }] }
    let k : Compiler :=
      { catalog := fun id => if id = 0 then venue else count
        config := { defaultNamespace := some "ref" } }
    let q : QualifiedName := ⟨some "ref", "Venues"⟩
    let e : Failure := .tableName "Count" "count" (.reserved "count" .table)
    let c : Column := { name := "place", type := .reference q, role := .key, isUnique := true }
    let t : Table := { record := "Trade", name := ⟨some "ref", "trade"⟩, keys := [c] }
    (k.tableName 0 = .ok q ∧ k.declareTable 0 = .ok ".ref.Venues:([])" ∧
      (∃ rest, ".ref.Venues:([])" = q.text ++ ":(" ++ rest) ∧
      trade.table k.catalog k.config = .ok t ∧ f.target? = some 0 ∧
      c.declaration true = "`u#" ++ "place" ++ ":`" ++ ".ref.Venues" ++ "$()") ∧
      k.tableName 1 = .error e ∧ k.table 1 = .error e ∧ k.declareTable 1 = .error e ∧
      ∃ e', total.table k.catalog k.config = .error e' := by
  intro venue count f trade total k q e c t
  have hvenue : k.tableName 0 = .ok q := by decide +kernel
  have hdeclared : k.declareTable 0 = .ok ".ref.Venues:([])" := by decide +kernel
  have htrade : trade.table k.catalog k.config = .ok t := by decide +kernel
  have hcount : k.tableName 1 = .error e := by decide +kernel
  obtain ⟨hstart, hcolumns⟩ := (table_name_agrees k 0).2 q hvenue
  obtain ⟨htable, hundeclared, hpointing⟩ := (table_name_agrees k 1).1 e hcount
  obtain ⟨_, hall⟩ := hcolumns trade t htrade f (by simp [trade]) rfl
  obtain ⟨_, hshown⟩ := hall c (by simp [t]) (by decide +kernel)
  exact ⟨⟨hvenue, hdeclared, hstart _ hdeclared, htrade, rfl, (hshown true).1⟩, hcount, htable,
    hundeclared, hpointing total ⟨_, List.mem_singleton.mpr rfl, rfl⟩⟩

end Compiler

end KdbSchema
