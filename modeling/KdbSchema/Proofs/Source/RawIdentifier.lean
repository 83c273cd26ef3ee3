import KdbSchema.Proofs.Source.Derivation
import KdbSchema.Proofs.Table.Build
import KdbSchema.Proofs.Table.Name
import KdbSchema.Proofs.Text.Words

/-!
# Raw identifiers

An identifier can be written with a mark that keeps it from being a keyword.  The name of a field is
taken without its mark, so marks change no field and no column.  The name of an item is taken as it
is written: two spellings of an item give the same record exactly if the marks of its own name are
the same.  A marked name is no table name, so no table can be compiled from it unless the name of
the table is set.
-/

namespace KdbSchema

variable {config : Config} {s : String}

/-! ## Names with the mark -/

theorem camelCase_raw (s : String) : camelCase ("r#" ++ s) = "r#" ++ s := by
  have hchars : ("r#" ++ s).toList = 'r' :: '#' :: s.toList := by simp
  rw [camelCase_eq hchars (.letter (Or.inr (by decide))), ← String.toList_inj,
    String.toList_ofList, hchars]
  rfl

theorem checkName_raw (role : NameRole) (extra : List String) (s : String) :
    checkName role extra ("r#" ++ s) = .error (.invalidCharacter '#') := by
  have hmisfit : FirstMisfit ("r#" ++ s).toList '#' := by
    refine ⟨['r'], s.toList, by simp, ?_, ?_⟩
    · simp [fits_cons_iff]
    · simp [fitsAt_succ_iff, isNamePart]
  exact checkName_eq_error_iff.mpr (Or.inl (Or.inr ⟨'#', hmisfit, rfl⟩))

theorem Record.qualifiedName_raw {ρ : Type} {r : Record ρ} (hident : r.ident = "r#" ++ s)
    (htable : r.tableName = none) :
    r.qualifiedName config = .error (.tableName r.ident r.ident (.invalidCharacter '#')) := by
  have hbase : r.tableName.getD (camelCase r.ident) = r.ident := by
    rw [htable, Option.getD_none, hident, camelCase_raw]
  refine Record.qualifiedName_eq_error_iff.mpr (Or.inl ⟨.invalidCharacter '#', ?_, ?_⟩)
  · rw [hbase, hident, checkName_raw]
  · rw [hbase]

/-! ## Names that do not count -/

/-- Where the name of the table is set, it does not depend on that of the record. -/
theorem Record.qualifiedName_ok_congr {ρ : Type} {r r' : Record ρ} {q : QualifiedName}
    (htable : r'.tableName = r.tableName) (hmarker : r'.marker = r.marker)
    (hset : r.tableName ≠ none) :
    r'.qualifiedName config = .ok q ↔ r.qualifiedName config = .ok q := by
  obtain ⟨base, hbase⟩ := Option.ne_none_iff_exists'.mp hset
  simp only [Record.qualifiedName_eq_ok_iff, htable, hmarker, hbase, Option.getD_some]

/-- Only failures tell the name of the record. -/
theorem Record.columns_ok_congr {catalog : Catalog} {r r' : Record RecordId} {cs : List Column}
    (h : r'.fields = r.fields) :
    r'.columns catalog config = .ok cs ↔ r.columns catalog config = .ok cs := by
  simp only [Record.columns, Field.columns_eq_ok_iff, Field.column_eq_ok_iff,
    Field.columnType_eq_ok_iff, Field.tag_eq_ok_iff, h]

namespace Source

structure ItemField.Respelled (f g : ItemField) : Prop where
  attributes : g.attributes = f.attributes
  name : g.name.name = f.name.name
  type : g.type = f.type

/-- Two items with named fields that are the same but for the marks of their own names and of those
of the fields. -/
structure Item.Respelled (x y : Item) : Prop where
  attributes : y.attributes = x.attributes
  name : y.name.name = x.name.name
  generics : y.generics = x.generics
  body : x.body.Matches ItemField.Respelled y.body

variable {i j : Identifier}

theorem Identifier.declaredName_congr (h : j.name = i.name) : j.declaredName = i.declaredName := by
  rw [declaredName, declaredName, h]

/-- A declared name has the hash of a mark only from the bare name. -/
theorem Identifier.hash_mem_name (h : '#' ∈ i.declaredName.toList) : '#' ∈ i.name.toList := by
  unfold declaredName at h
  split at h
  · exact Text.mem_of_mem_pascalCase (by decide) h
  · exact h

theorem Identifier.spelling_eq_iff (h : j.name = i.name) :
    j.spelling = i.spelling ↔ j.isRaw = i.isRaw := by
  have hmark : "r#" ++ i.name ≠ i.name := by
    intro heq
    have hlength := congrArg String.length heq
    rw [String.length_append] at hlength
    simp at hlength
  unfold spelling
  rw [h]
  cases j.isRaw <;> cases i.isRaw <;> simp [hmark, Ne.symm hmark]

theorem ItemField.Respelled.field_eq {f g : ItemField} (h : f.Respelled g) : g.field = f.field := by
  simp only [field, entries, h.attributes, h.type, Identifier.declaredName_congr h.name]

/-- What is derived as `e` from the spelling `y` of an item, next to `d` from the spelling `x`. -/
structure Derived.Respelled (x y : Item) (d e : Derived) : Prop where
  text : ∀ s, Item.ofText? s = some y → deriveText s = .ok e
  record_eq : e.record = { d.record with ident := y.name.spelling }
  record_eq_iff : e.record = d.record ↔ y.name.isRaw = x.name.isRaw
  fields :
    List.Forall₂
      (fun f g => (∀ value, ¬ Attribute.SetIn f.attributes "rename" value) →
        g.ident = Identifier.declaredName ⟨f.name.name, false⟩ ∧
          ('#' ∈ g.ident.toList → '#' ∈ f.name.name.toList))
      y.body.namedFields e.record.fields
  columns : ∀ resolve r, d.record.retarget? resolve = some r →
    ∃ r', e.record.retarget? resolve = some r' ∧ ∀ catalog config cs,
      r'.columns catalog config = .ok cs ↔ r.columns catalog config = .ok cs
  -- The name of the table only depends on that of the item where it is not set.
  name_of_set : d.record.tableName ≠ none → ∀ config q,
    e.record.qualifiedName config = .ok q ↔ d.record.qualifiedName config = .ok q
  name_of_raw : d.record.tableName = none → y.name.isRaw = true → ∀ config,
    e.record.qualifiedName config =
      .error (.tableName y.name.spelling y.name.spelling (.invalidCharacter '#'))

theorem Item.ident_of_derive {x : Item} {d : Derived} (h : x.derive = .ok d) :
    d.record.ident = x.name.spelling := by
  obtain ⟨_, _, rfl⟩ := derive_eq_ok_iff.mp h
  rfl

theorem Item.bare_names_of_derive {x : Item} {d : Derived} (h : x.derive = .ok d) :
    List.Forall₂
      (fun f g => (∀ value, ¬ Attribute.SetIn f.attributes "rename" value) →
        g.ident = Identifier.declaredName ⟨f.name.name, false⟩ ∧
          ('#' ∈ g.ident.toList → '#' ∈ f.name.name.toList))
      x.body.namedFields d.record.fields := by
  refine (describes_of_derive h).imp ?_
  intro f g hfg hrename
  have hname : g.ident = f.name.declaredName := hfg.declared hrename
  refine ⟨hname.trans (Identifier.declaredName_congr rfl), ?_⟩
  intro hhash
  rw [hname] at hhash
  exact Identifier.hash_mem_name hhash

/-- If a record is derived from an item, one is derived from every other spelling of the item, with
the same fields and the same columns; a field without another name is named after the bare
identifier.  The record is named after the item as that is spelled.  It is the same record exactly
if the marks of the two items are the same, and a marked one resolves to no table, unless the name
of the table is set; then it resolves as before. -/
theorem Item.derive_respelled (x y : Item) (d : Derived) (h : x.Respelled y)
    (hx : x.derive = .ok d) : ∃ e, y.derive = .ok e ∧ Derived.Respelled x y d e := by
  have hentries : x.entries.Perm y.entries := by
    rw [entries, entries, h.attributes]
  have hy := derive_of_matches hx hentries h.body
    (fun f g hfg => by rw [ItemField.entries, ItemField.entries, hfg.attributes])
    (fun f g hfg _ => hfg.field_eq)
  refine ⟨_, hy, ?_⟩
  constructor
  case text => exact fun s hs => (deriveText_eq hs).trans hy
  case record_eq => rfl
  case record_eq_iff =>
    rw [← Identifier.spelling_eq_iff h.name, ← ident_of_derive hx]
    constructor
    · exact fun hrecord => congrArg Record.ident hrecord
    · intro hspelling
      rw [hspelling]
  case fields => exact bare_names_of_derive hy
  case columns =>
    intro resolve r hr
    obtain ⟨fields, hfields, rfl⟩ := Option.map_eq_some_iff.mp hr
    refine ⟨_, Option.map_eq_some_iff.mpr ⟨fields, hfields, rfl⟩, ?_⟩
    intro catalog config cs
    exact Record.columns_ok_congr rfl
  case name_of_set =>
    intro hset config q
    exact Record.qualifiedName_ok_congr rfl rfl hset
  case name_of_raw =>
    intro htable hraw config
    have hspelling : y.name.spelling = "r#" ++ y.name.name := by
      rw [Identifier.spelling, if_pos hraw]
    exact Record.qualifiedName_raw hspelling htable

/-- All names of a trade are marked; its fields stay, and it has no table any more. -/
theorem Item.derive_respelled_trade :
    let trade (isRaw : Bool) : Item :=
      { attributes := [], name := ⟨"Trade", isRaw⟩, generics := {}
        body := .fields [⟨[.settings [.named "key" .word]], ⟨"in_force", isRaw⟩, .named "" "bool"⟩,
          ⟨[], ⟨"side", isRaw⟩, .named "" "char"⟩] }
    let s := "struct r#Trade \x7b #[qschema(key)] r#in_force: bool, r#side: char \x7d"
    let fields : List (Field String) :=
      [{ ident := "InForce", type := .primitive .bool, modifiers := [.key] },
        { ident := "side", type := .primitive .char }]
    let d : Derived :=
      { record := { ident := "Trade", fields := fields }
        header := "impl::qschema::node::RecordforTrade" }
    (trade false).Respelled (trade true) ∧ (trade false).derive = .ok d ∧
      Item.ofText? s = some (trade true) ∧
      ∃ e, deriveText s = .ok e ∧ e.record.ident = "r#Trade" ∧ e.record.fields = fields ∧
        e.record ≠ d.record ∧ ∀ config, e.record.qualifiedName config =
          .error (.tableName "r#Trade" "r#Trade" (.invalidCharacter '#')) := by
  intro trade s fields d
  have h : (trade false).Respelled (trade true) :=
    ⟨rfl, rfl, rfl, .fields (.cons ⟨rfl, rfl, rfl⟩ (.cons ⟨rfl, rfl, rfl⟩ .nil))⟩
  have hx : (trade false).derive = .ok d := by cbv
  have hs : Item.ofText? s = some (trade true) := by decide +kernel
  obtain ⟨e, _, he⟩ := derive_respelled (trade false) (trade true) d h hx
  refine ⟨h, hx, hs, e, he.text s hs, ?_, ?_, ?_, he.name_of_raw rfl rfl⟩
  · rw [he.record_eq]
    rfl
  · rw [he.record_eq]
  · intro heq
    cases he.record_eq_iff.mp heq

/-- A marked name of an item changes the record and leaves it without a table. -/
theorem Item.derive_raw_trade_ne :
    let trade (isRaw : Bool) : Item :=
      { attributes := [], name := ⟨"Trade", isRaw⟩, generics := {}
        body := .fields [⟨[], { name := "id" }, .named "" "i32"⟩] }
    let record (ident : String) : Record String :=
      { ident := ident, fields := [{ ident := "id", type := .primitive .int32 }] }
    (trade false).Respelled (trade true) ∧
      Item.ofText? "struct Trade \x7b id: i32 \x7d" = some (trade false) ∧
      Item.ofText? "struct r#Trade \x7b id: i32 \x7d" = some (trade true) ∧
      (trade false).derive =
        .ok { record := record "Trade", header := "impl::qschema::node::RecordforTrade" } ∧
      (trade true).derive =
        .ok { record := record "r#Trade", header := "impl::qschema::node::Recordforr#Trade" } ∧
      record "r#Trade" ≠ record "Trade" ∧
      (record "Trade").qualifiedName {} = .ok { space := none, base := "trade" } ∧
      (record "r#Trade").qualifiedName {} =
        .error (.tableName "r#Trade" "r#Trade" (.invalidCharacter '#')) := by
  intro trade record
  refine ⟨⟨rfl, rfl, rfl, .fields (.cons ⟨rfl, rfl, rfl⟩ .nil)⟩, ?_, ?_, ?_, ?_, ?_, ?_, ?_⟩
  · decide +kernel
  · decide +kernel
  · cbv
  · cbv
  · decide
  · decide +kernel
  · decide +kernel

end Source

end KdbSchema
