import KdbSchema.Proofs.Script.Grammar
import KdbSchema.Proofs.Table.Columns

/-!
# Scripts lose nothing

The script of built tables tells the tables: their names and, column by column, name, type, role,
placement and unique mark.  The text is cut at its line breaks, each line at its colon and brackets,
and the columns at their semicolons.  A column then shows its mark, its name and its type; its role
follows from the side of the bracket and the type, and the mark is either the placement or the
unique mark, since no column has both.  Only where unique marks are not written do they stay open.
-/

namespace KdbSchema

/-! ## Types and marks -/

theorem ColumnType.atomic_emptyList_injective {s t : Tag}
    (h : (ColumnType.atomic s).emptyList = (ColumnType.atomic t).emptyList) : s = t := by
  cases s <;> cases t <;> first | rfl | exact absurd h (by decide)

theorem ColumnType.emptyList_reference_ne_atomic (q : QualifiedName) (t : Tag) :
    (ColumnType.reference q).emptyList ≠ (ColumnType.atomic t).emptyList := by
  intro h
  have hreference : (ColumnType.reference q).emptyList.toList.tail.head? = some '.' := by
    simp [ColumnType.emptyList, List.head?_append, q.head?_text]
  have hatomic : (ColumnType.atomic t).emptyList.toList.tail.head? ≠ some '.' := by
    cases t <;> decide
  exact hatomic (h ▸ hreference)

theorem ColumnType.emptyList_injective {a b : ColumnType}
    (ha : ∀ q, a = .reference q → q.WellFormed) (hb : ∀ q, b = .reference q → q.WellFormed)
    (h : a.emptyList = b.emptyList) : a = b := by
  cases a with
  | atomic s =>
      cases b with
      | atomic t => rw [ColumnType.atomic_emptyList_injective h]
      | reference q => exact (ColumnType.emptyList_reference_ne_atomic q s h.symm).elim
  | reference p =>
      cases b with
      | atomic t => exact (ColumnType.emptyList_reference_ne_atomic p t h).elim
      | reference q =>
          have htext : p.text = q.text := by
            apply String.toList_inj.mp
            simpa [ColumnType.emptyList] using congrArg String.toList h
          rw [QualifiedName.text_injective (ha p rfl) (hb q rfl) htext]

theorem Column.attributeText_inj {uniqueAttribute : Bool} {c d : Column} (hc : c.Settled)
    (hd : d.Settled) (h : c.attributeText uniqueAttribute = d.attributeText uniqueAttribute) :
    c.placement = d.placement ∧
      (c.isUnique && uniqueAttribute) = (d.isUnique && uniqueAttribute) := by
  -- At most one of placement and unique mark is there to be written, on either side.
  have hc_mark := hc.placement_eq
  have hd_mark := hd.placement_eq
  unfold Column.attributeText at h
  cases hcp : c.placement <;> cases hdp : d.placement <;> cases hcu : c.isUnique <;>
    cases hdu : d.isUnique <;> cases uniqueAttribute <;>
    simp_all [Placement.letter?]

/-! ## Columns -/

/-- What a declaration shows of a column: all but a unique mark that is not written. -/
def Column.shown (uniqueAttribute : Bool) (c : Column) : Column :=
  { c with isUnique := c.isUnique && uniqueAttribute }

@[simp] theorem Column.shown_true : Column.shown true = id := by
  funext c
  simp [Column.shown]

@[simp] theorem Column.shown_false :
    Column.shown false = fun c => { c with isUnique := false } := by
  funext c
  simp [Column.shown]

theorem Column.role_eq_of_type_eq {c d : Column} (hc : c.Settled) (hd : d.Settled)
    (hkey : c.role = .key ↔ d.role = .key) (htype : c.type = d.type) : c.role = d.role := by
  by_cases hrole : c.role = .key
  · rw [hrole, hkey.mp hrole]
  · have hforeign : c.isForeignKey = d.isForeignKey := by
      simp [Column.isForeignKey, Column.reference?, htype]
    rw [hc.role_eq hrole, hd.role_eq (mt hkey.mpr hrole), hforeign]

/-- What the declaration of a column has to be readable: checked names, and a role and a mark that
follow from what is written. -/
structure Column.Readable (c : Column) : Prop where
  name : IsIdentifier c.name.toList
  reference : ∀ q, c.type = .reference q → q.WellFormed
  settled : c.Settled

theorem Column.shown_eq_of_declaration_eq {uniqueAttribute : Bool} {c d : Column}
    (hc : c.Readable) (hd : d.Readable) (hkey : c.role = .key ↔ d.role = .key)
    (h : c.declaration uniqueAttribute = d.declaration uniqueAttribute) :
    c.shown uniqueAttribute = d.shown uniqueAttribute := by
  have hlist := congrArg String.toList h
  rw [Column.toList_declaration, Column.toList_declaration] at hlist
  obtain ⟨hmark, hname, htype⟩ := column_cut (c.isMark_attributeText uniqueAttribute)
    (d.isMark_attributeText uniqueAttribute) hc.name hd.name hlist
  have htype_eq : c.type = d.type :=
    ColumnType.emptyList_injective hc.reference hd.reference (String.toList_inj.mp htype)
  obtain ⟨hplacement, hunique⟩ :=
    Column.attributeText_inj hc.settled hd.settled (String.toList_inj.mp hmark)
  have hrole := Column.role_eq_of_type_eq hc.settled hd.settled hkey htype_eq
  unfold Column.shown
  rw [String.toList_inj.mp hname, htype_eq, hrole, hplacement, hunique]

theorem columns_shown_eq {uniqueAttribute : Bool} {cs ds : List Column}
    (hcs : ∀ c ∈ cs, c.Readable) (hds : ∀ d ∈ ds, d.Readable)
    (hkey : ∀ c ∈ cs, ∀ d ∈ ds, (c.role = .key ↔ d.role = .key))
    (h : columnsDeclaration uniqueAttribute cs = columnsDeclaration uniqueAttribute ds) :
    cs.map (Column.shown uniqueAttribute) = ds.map (Column.shown uniqueAttribute) := by
  have hseparable : ∀ {cs : List Column}, (∀ c ∈ cs, c.Readable) →
      ∀ part ∈ (cs.map (Column.declaration uniqueAttribute)).map String.toList,
        ';' ∉ part ∧ part ≠ [] := by
    intro cs hcs part hpart
    rw [List.map_map, List.mem_map] at hpart
    obtain ⟨c, hc, rfl⟩ := hpart
    exact (Column.isColumn_declaration (hcs c hc).name (hcs c hc).reference _).separable
  have hlist := congrArg String.toList h
  unfold columnsDeclaration at hlist
  rw [String.toList_intercalate, String.toList_intercalate] at hlist
  have hparts := intercalate_inj (hseparable hcs) (hseparable hds) hlist
  have hdeclarations := List.map_injective_iff.mpr (fun _ _ => String.toList_inj.mp) hparts
  exact map_eq_map_of_map_eq_map
    (fun c hc d hd => Column.shown_eq_of_declaration_eq (hcs c hc) (hds d hd) (hkey c hc d hd))
    hdeclarations

/-! ## Tables -/

/-- What a declaration shows of a table: its name, its key columns and its other columns. -/
def Table.shown (uniqueAttribute : Bool) (t : Table) : QualifiedName × List Column × List Column :=
  (t.name, t.keys.map (Column.shown uniqueAttribute), t.values.map (Column.shown uniqueAttribute))

structure Table.Readable (t : Table) : Prop where
  name : t.name.WellFormed
  column : ∀ c ∈ t.keys ++ t.values, c.Readable
  key : ∀ c ∈ t.keys, c.role = .key
  value : ∀ c ∈ t.values, c.role ≠ .key

theorem Record.table_readable {catalog : Catalog} {config : Config} {r : Record RecordId}
    {t : Table} (ht : r.table catalog config = .ok t) : t.Readable where
  name := (Record.table_wellFormed ht).name
  column c hc :=
    { name := (Record.table_wellFormed ht).column c hc
      reference := (Record.table_wellFormed ht).reference c hc
      settled := Record.settled_of_mem ht hc }
  key _ := Record.role_of_mem_keys ht
  value _ := Record.role_of_mem_values ht

namespace Table.Readable

variable {uniqueAttribute : Bool} {t u : Table}

theorem keys (ht : t.Readable) : ∀ c ∈ t.keys, c.Readable :=
  fun c hc => ht.column c (List.mem_append_left t.values hc)

theorem values (ht : t.Readable) : ∀ c ∈ t.values, c.Readable :=
  fun c hc => ht.column c (List.mem_append_right t.keys hc)

theorem not_mem_keysDeclaration (ht : t.Readable) :
    ']' ∉ (columnsDeclaration uniqueAttribute t.keys).toList := by
  have hkeys : IsColumns (t.keys.map Column.name)
      (columnsDeclaration uniqueAttribute t.keys).toList := by
    apply isColumns_columnsDeclaration
    exact fun c hc => Column.isColumn_declaration (ht.keys c hc).name (ht.keys c hc).reference _
  exact hkeys.not_mem (by decide) (by decide) (by decide)

theorem shown_eq_of_declaration_eq (ht : t.Readable) (hu : u.Readable)
    (h : t.declaration uniqueAttribute = u.declaration uniqueAttribute) :
    t.shown uniqueAttribute = u.shown uniqueAttribute := by
  have hlist := congrArg String.toList h
  rw [Table.toList_declaration, Table.toList_declaration] at hlist
  have hcolon : isNamePart ':' = false := by decide
  obtain ⟨hname, hkeys, hvalues⟩ := declaration_cut (ht.name.not_mem_text hcolon (by decide))
    (hu.name.not_mem_text hcolon (by decide)) ht.not_mem_keysDeclaration
    hu.not_mem_keysDeclaration hlist
  have hname_eq : t.name = u.name :=
    QualifiedName.text_injective ht.name hu.name (String.toList_inj.mp hname)
  have hkeys_eq : t.keys.map (Column.shown uniqueAttribute) =
      u.keys.map (Column.shown uniqueAttribute) := by
    refine columns_shown_eq ht.keys hu.keys ?_ (String.toList_inj.mp hkeys)
    exact fun c hc d hd => iff_of_true (ht.key c hc) (hu.key d hd)
  have hvalues_eq : t.values.map (Column.shown uniqueAttribute) =
      u.values.map (Column.shown uniqueAttribute) := by
    refine columns_shown_eq ht.values hu.values ?_ (String.toList_inj.mp hvalues)
    exact fun c hc d hd => iff_of_false (ht.value c hc) (hu.value d hd)
  unfold Table.shown
  rw [hname_eq, hkeys_eq, hvalues_eq]

end Table.Readable

/-! ## Scripts -/

/-- The table was built for some record, in whatever catalog and under whatever configuration. -/
def Table.Built (t : Table) : Prop :=
  ∃ (catalog : Catalog) (config : Config) (r : Record RecordId), r.table catalog config = .ok t

theorem shown_eq_of_script_eq {uniqueAttribute : Bool} {ts us : List Table}
    (hts : ∀ t ∈ ts, t.Built) (hus : ∀ u ∈ us, u.Built)
    (h : script uniqueAttribute ts = script uniqueAttribute us) :
    ts.map (Table.shown uniqueAttribute) = us.map (Table.shown uniqueAttribute) := by
  have hwellFormed : ∀ {t : Table}, t.Built → t.WellFormed :=
    fun ⟨_, _, _, hbuilt⟩ => Record.table_wellFormed hbuilt
  have hreadable : ∀ {t : Table}, t.Built → t.Readable :=
    fun ⟨_, _, _, hbuilt⟩ => Record.table_readable hbuilt
  have hlines := congrArg lines h
  rw [lines_script_of_wellFormed fun t ht => hwellFormed (hts t ht),
    lines_script_of_wellFormed fun u hu => hwellFormed (hus u hu)] at hlines
  refine map_eq_map_of_map_eq_map ?_ hlines
  intro t ht u hu hdeclaration
  exact (hreadable (hts t ht)).shown_eq_of_declaration_eq (hreadable (hus u hu)) hdeclaration

/-- Two lists of built tables with one script agree table by table in the names, the key columns and
the other columns; where unique marks are not written, they agree in all but these. -/
theorem script_determines_tables {ts us : List Table} (hts : ∀ t ∈ ts, t.Built)
    (hus : ∀ u ∈ us, u.Built) :
    (script true ts = script true us →
      List.Forall₂ (fun t u => t.name = u.name ∧ t.keys = u.keys ∧ t.values = u.values) ts us) ∧
    (script false ts = script false us →
      List.Forall₂ (fun t u => t.name = u.name ∧
        t.keys.map (fun c => { c with isUnique := false }) =
          u.keys.map (fun c => { c with isUnique := false }) ∧
        t.values.map (fun c => { c with isUnique := false }) =
          u.values.map (fun c => { c with isUnique := false })) ts us) := by
  constructor
  · intro h
    refine (map_eq_map_iff_forall₂.mp (shown_eq_of_script_eq hts hus h)).imp fun t u htu => ?_
    simpa [Table.shown] using htu
  · intro h
    refine (map_eq_map_iff_forall₂.mp (shown_eq_of_script_eq hts hus h)).imp fun t u htu => ?_
    simpa [Table.shown] using htu

/-- Two records of different names and under different configurations have tables that are written
alike, and so has a third one without the unique mark, where such marks are not written. -/
theorem script_determines_tables_trade :
    let key : Column := { name := "id", type := .atomic .long, role := .key, isUnique := true }
    let venue : Column :=
      { name := "venue", type := .reference ⟨none, "venues"⟩, role := .foreignKey }
    let t : Table := ⟨"Trade", ⟨some "mkt", "trade"⟩, [key], [venue]⟩
    let u : Table := ⟨"Deal", ⟨some "mkt", "trade"⟩, [key], [venue]⟩
    let v : Table := ⟨"Trade", ⟨some "mkt", "trade"⟩, [{ key with isUnique := false }], [venue]⟩
    t.Built ∧ u.Built ∧ v.Built ∧
      (script true [t] = script true [u] ∧ t.keys = u.keys ∧ t.values = u.values) ∧
      (script false [t] = script false [v] ∧ t.keys ≠ v.keys ∧
        t.keys.map (fun c => { c with isUnique := false }) =
          v.keys.map (fun c => { c with isUnique := false })) := by
  intro key venue t u v
  let venues : Catalog := fun _ => { ident := "Venues", marker := some "" }
  let id (marks : List (Modifier RecordId)) : Field RecordId :=
    { ident := "Id", type := .primitive .int64, modifiers := marks }
  let venueField : Field RecordId :=
    { ident := "Venue", type := .unsupported "Venue", modifiers := [.foreignKey 0] }
  have ht : t.Built :=
    ⟨venues, {},
      { ident := "Trade", marker := some "mkt", fields := [venueField, id [.key, .unique]] },
      by decide +kernel⟩
  have hu : u.Built :=
    ⟨venues, { defaultNamespace := some "mkt" },
      { ident := "Deal", tableName := some "trade", fields := [id [.unique, .key], venueField] },
      by decide +kernel⟩
  have hv : v.Built :=
    ⟨venues, {}, { ident := "Trade", marker := some "mkt", fields := [id [.key], venueField] },
      by decide +kernel⟩
  have hsame : script true [t] = script true [u] := by decide +kernel
  have hunmarked : script false [t] = script false [v] := by decide +kernel
  have hts : ∀ x ∈ [t], x.Built := by simpa using ht
  have hus : ∀ x ∈ [u], x.Built := by simpa using hu
  have hvs : ∀ x ∈ [v], x.Built := by simpa using hv
  have htu := (script_determines_tables hts hus).1 hsame
  have htv := (script_determines_tables hts hvs).2 hunmarked
  obtain ⟨_, hkeys, hvalues⟩ := (List.forall₂_cons.mp htu).1
  obtain ⟨_, hunmarked_keys, _⟩ := (List.forall₂_cons.mp htv).1
  have hmarked : t.keys ≠ v.keys := by simp [t, v, key]
  exact ⟨ht, hu, hv, ⟨hsame, hkeys, hvalues⟩, hunmarked, hmarked, hunmarked_keys⟩

end KdbSchema
