import KdbSchema.Proofs.Table.Build

/-!
# Which fields have columns

A field has a column exactly if it asks for at most one placement, and for one only on an atomic
column that is neither a foreign key nor unique; if its name is free for columns; and if it either
points to a record that has a name and asks for no other tag, or has a type with a tag and asks for
at most one other that the type accepts.  The columns of a record exist exactly if each field has
one and no two fields give it the same name, and then each column is what its field says.
-/

namespace KdbSchema

variable {catalog : Catalog} {config : Config} {record : String} {f : Field RecordId} {c : Column}

/-! ## Fields that have a column -/

/-- The conditions under which a field has a column, apart from the names of the other columns. -/
structure Field.Admissible (catalog : Catalog) (config : Config) (f : Field RecordId) : Prop where
  atMostOne : f.placements.length ≤ 1
  placed : f.placements ≠ [] →
    (∀ target, .foreignKey target ∉ f.modifiers) ∧ (∃ p, f.type = .primitive p) ∧
      .unique ∉ f.modifiers
  name : checkName .column config.reserved.columns (camelCase f.ident) = .ok ()
  type :
    (∃ target, f.target? = some target ∧ f.overrides = [] ∧
      ∃ q, (catalog target).qualifiedName config = .ok q) ∨
    ((∀ target, .foreignKey target ∉ f.modifiers) ∧ ∃ p, f.type = .primitive p ∧
      (f.overrides = [] ∨ ∃ o, f.overrides = [o] ∧ p.accepts o = true))

structure Field.Describes (catalog : Catalog) (config : Config) (f : Field RecordId) (c : Column) :
    Prop where
  name : c.name = camelCase f.ident
  reference : ∀ target, f.target? = some target →
    ∃ q, (catalog target).qualifiedName config = .ok q ∧ c.type = .reference q
  atomic : (∀ target, .foreignKey target ∉ f.modifiers) →
    ∃ p, f.type = .primitive p ∧ c.type = .atomic (p.tag f.overrides.head?)
  key : c.role = .key ↔ .key ∈ f.modifiers
  foreignKey : c.role = .foreignKey ↔
    .key ∉ f.modifiers ∧ ∃ target, .foreignKey target ∈ f.modifiers
  placement : c.placement = f.placements.head?.getD .none
  unique : c.isUnique = true ↔ .unique ∈ f.modifiers

theorem Field.exists_placement_iff :
    (∃ p, f.placement = .ok p) ↔ f.placements.length ≤ 1 ∧
      (f.placements ≠ [] →
        (∀ target, .foreignKey target ∉ f.modifiers) ∧ (∃ p, f.type = .primitive p) ∧
          .unique ∉ f.modifiers) := by
  simp only [Field.placement_eq_ok_iff, ← Field.target?_eq_none_iff,
    ← Field.isUnique_eq_true_iff, Bool.not_eq_true]
  cases f.placements with
  | nil => simp
  | cons p ps =>
      cases ps with
      | nil => simp
      | cons => simp

theorem Field.exists_columnType_iff :
    (∃ type, f.columnType catalog config record = .ok type) ↔
      (∃ target, f.target? = some target ∧ f.overrides = [] ∧
        ∃ q, (catalog target).qualifiedName config = .ok q) ∨
      ((∀ target, .foreignKey target ∉ f.modifiers) ∧ ∃ p, f.type = .primitive p ∧
        (f.overrides = [] ∨ ∃ o, f.overrides = [o] ∧ p.accepts o = true)) := by
  simp only [Field.columnType_eq_ok_iff, Field.tag_eq_ok_iff, ← Field.target?_eq_none_iff]
  constructor
  · rintro ⟨_, ⟨target, q, htarget, hnone, hq, _⟩ | ⟨htarget, _, ⟨p, hp, htag⟩, _⟩⟩
    · exact Or.inl ⟨target, htarget, hnone, q, hq⟩
    · refine Or.inr ⟨htarget, p, hp, ?_⟩
      exact htag.imp And.left fun ⟨o, ho, haccepts, _⟩ => ⟨o, ho, haccepts⟩
  · rintro (⟨target, htarget, hnone, q, hq⟩ | ⟨htarget, p, hp, hnone | ⟨o, ho, haccepts⟩⟩)
    · exact ⟨_, Or.inl ⟨target, q, htarget, hnone, hq, rfl⟩⟩
    · exact ⟨_, Or.inr ⟨htarget, _, ⟨p, hp, Or.inl ⟨hnone, rfl⟩⟩, rfl⟩⟩
    · exact ⟨_, Or.inr ⟨htarget, _, ⟨p, hp, Or.inr ⟨o, ho, haccepts, rfl⟩⟩, rfl⟩⟩

theorem Field.exists_column_iff :
    (∃ c, f.column catalog config record = .ok c) ↔ f.Admissible catalog config := by
  constructor
  · rintro ⟨c, hc⟩
    obtain ⟨hplacement, hname, htype, hcolumn, _, _⟩ := Field.column_eq_ok_iff.mp hc
    obtain ⟨hatMostOne, hplaced⟩ := Field.exists_placement_iff.mp ⟨_, hplacement⟩
    rw [hcolumn] at hname
    exact ⟨hatMostOne, hplaced, hname, Field.exists_columnType_iff.mp ⟨_, htype⟩⟩
  · intro h
    obtain ⟨placement, hplacement⟩ := Field.exists_placement_iff.mpr ⟨h.atMostOne, h.placed⟩
    have htypes : ∃ type, f.columnType catalog config record = .ok type :=
      Field.exists_columnType_iff.mpr h.type
    obtain ⟨type, htype⟩ := htypes
    refine ⟨⟨f.columnName, type, f.role, placement, f.isUnique⟩, ?_⟩
    exact Field.column_eq_ok_iff.mpr ⟨hplacement, h.name, htype, rfl, rfl, rfl⟩

/-! ## What the column is -/

theorem Field.describes_of_column (h : f.column catalog config record = .ok c) :
    f.Describes catalog config c := by
  obtain ⟨hplacement, _, htype, hcolumn, hrole, hunique⟩ := Field.column_eq_ok_iff.mp h
  refine ⟨hcolumn, ?_, ?_, ?_, ?_, ?_, ?_⟩
  · intro target htarget
    exact Field.columnType_of_target htype htarget
  · intro hnone
    rw [← Field.target?_eq_none_iff] at hnone
    rcases Field.columnType_eq_ok_iff.mp htype with ⟨target, _, htarget, _⟩ | ⟨_, tag, htag, hc⟩
    · rw [hnone] at htarget
      cases htarget
    · obtain ⟨p, hp, ⟨hoverrides, htag⟩ | ⟨o, hoverrides, _, htag⟩⟩ := Field.tag_eq_ok_iff.mp htag
      · exact ⟨p, hp, by rw [hoverrides, ← hc, ← htag, List.head?_nil]⟩
      · exact ⟨p, hp, by rw [hoverrides, ← hc, ← htag, List.head?_cons]⟩
  · rw [hrole, Field.role, ← Field.isKey_eq_true_iff]
    cases f.isKey <;> cases f.target? <;> simp
  · have hpoints : (∃ target, .foreignKey target ∈ f.modifiers) ↔ f.target? ≠ none := by
      simp [Field.target?_eq_none_iff]
    rw [hpoints, hrole, Field.role, ← Field.isKey_eq_true_iff]
    cases f.isKey <;> cases f.target? <;> simp
  · rcases Field.placement_eq_ok_iff.mp hplacement with ⟨hnil, hc⟩ | ⟨hone, _⟩
    · rw [hnil, ← hc]
      rfl
    · rw [hone]
      rfl
  · rw [hunique, Field.isUnique_eq_true_iff]

/-- The columns of a record exist exactly if every field is admissible and the names that the fields
give to their columns differ.  Then there is one column for each field, in the order of the fields,
and it is what the field says. -/
theorem Record.columns_exist_iff (catalog : Catalog) (config : Config) (r : Record RecordId) :
    ((∃ cs, r.columns catalog config = .ok cs) ↔
      (∀ f ∈ r.fields, f.Admissible catalog config) ∧
        (r.fields.map fun f => camelCase f.ident).Nodup) ∧
    ∀ cs, r.columns catalog config = .ok cs →
      List.Forall₂ (fun f c => f.Describes catalog config c) r.fields cs := by
  have hnames : ∀ cs : List Column,
      List.Forall₂ (fun f c => f.column catalog config r.ident = .ok c) r.fields cs →
        (r.fields.map fun f => camelCase f.ident) = cs.map Column.name := by
    intro cs hall
    apply map_eq_map_iff_forall₂.mpr
    refine hall.imp fun f c hc => ?_
    exact (Field.describes_of_column hc).name.symm
  have hadmissible : (∀ f ∈ r.fields, f.Admissible catalog config) ↔
      ∃ cs, List.Forall₂ (fun f c => f.column catalog config r.ident = .ok c) r.fields cs := by
    rw [exists_forall₂_iff]
    exact forall₂_congr fun f _ => Field.exists_column_iff.symm
  constructor
  · rw [hadmissible]
    constructor
    · rintro ⟨cs, hcs⟩
      obtain ⟨hall, hnodup, _⟩ := Field.columns_eq_ok_iff.mp hcs
      exact ⟨⟨cs, hall⟩, hnames cs hall ▸ hnodup⟩
    · rintro ⟨⟨cs, hall⟩, hnodup⟩
      rw [hnames cs hall] at hnodup
      exact ⟨cs, Field.columns_eq_ok_iff.mpr ⟨hall, hnodup, fun _ _ => List.not_mem_nil⟩⟩
  · intro cs hcs
    obtain ⟨hall, _⟩ := Field.columns_eq_ok_iff.mp hcs
    exact hall.imp fun f c hc => Field.describes_of_column hc

/-- A unique key that points to two records, a sorted time that is stored as a date, and a unique
text that is stored as a list of characters. -/
theorem Record.columns_exist_iff_trade :
    let catalog : Catalog := fun _ => { ident := "Venue" }
    let trade : Record RecordId :=
      { ident := "Trade"
        fields :=
          [{ ident := "Venue", type := .unsupported "Venue",
             modifiers := [.foreignKey 0, .unique, .key, .foreignKey 1] },
           { ident := "At", type := .primitive .timestamp, modifiers := [.sorted, .dateOverride] },
           { ident := "Note", type := .primitive .text, modifiers := [.stringOverride, .unique] }] }
    let cs : List Column :=
      [{ name := "venue", type := .reference ⟨none, "venue"⟩, role := .key, isUnique := true },
       { name := "at", type := .atomic .date, placement := .sorted },
       { name := "note", type := .atomic .string, isUnique := true }]
    trade.columns catalog {} = .ok cs ∧ (∀ f ∈ trade.fields, f.Admissible catalog {}) ∧
      (trade.fields.map fun f => camelCase f.ident).Nodup ∧
      List.Forall₂ (fun f c => f.Describes catalog {} c) trade.fields cs := by
  intro catalog trade cs
  have hcolumns : trade.columns catalog {} = .ok cs := by decide +kernel
  obtain ⟨hexist, hdescribe⟩ := Record.columns_exist_iff catalog {} trade
  obtain ⟨hadmissible, hnodup⟩ := hexist.mp ⟨cs, hcolumns⟩
  exact ⟨hcolumns, hadmissible, hnodup, hdescribe cs hcolumns⟩

end KdbSchema
