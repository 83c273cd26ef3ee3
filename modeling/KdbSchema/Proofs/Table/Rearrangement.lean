import KdbSchema.Proofs.Lists
import KdbSchema.Proofs.Table.Dependence
import KdbSchema.Proofs.Table.Field

/-!
# Modifiers in another order

The modifiers of a field are a list, but only what they say together matters.  Their order can be
changed as long as the records that the field points to keep theirs, a mark as key or as unique can
be written again or taken back where another one is left, and after the first record that the field
points to no other one counts.  All questions that are asked about the modifiers have the same
answers then, up to the order of the placements and of the overrides; and where that order could be
seen, because there are two of either, the field fails without telling which they are.
-/

namespace KdbSchema

variable {ρ : Type} {catalog catalog' : Catalog} {config : Config} {record : String}

/-! ## Changes -/

inductive Modifier.Change : List (Modifier ρ) → List (Modifier ρ) → Prop
  | reorder {ms ms' : List (Modifier ρ)} (h : ms.Perm ms')
      (htargets : ms.filterMap Modifier.target? = ms'.filterMap Modifier.target?) : Change ms ms'
  | repeatMark {mark : Modifier ρ} {before after : List (Modifier ρ)}
      (hmark : mark = .key ∨ mark = .unique) (h : mark ∈ before ++ after) :
      Change (before ++ after) (before ++ mark :: after)
  | dropTarget (first later : ρ) (before between after : List (Modifier ρ)) :
      Change (before ++ .foreignKey first :: (between ++ .foreignKey later :: after))
        (before ++ .foreignKey first :: (between ++ after))

structure Field.Rearranged (f g : Field ρ) : Prop where
  ident : g.ident = f.ident
  type : g.type = f.type
  isOptional : g.isOptional = f.isOptional
  modifiers : Relation.EqvGen Modifier.Change f.modifiers g.modifiers

structure Record.Rearranged (r s : Record ρ) : Prop where
  ident : s.ident = r.ident
  tableName : s.tableName = r.tableName
  marker : s.marker = r.marker
  fields : List.Forall₂ Field.Rearranged r.fields s.fields

/-! ## What the modifiers say -/

/-- Two lists of modifiers say the same. -/
structure Modifier.Alike (ms ms' : List (Modifier ρ)) : Prop where
  key : .key ∈ ms ↔ .key ∈ ms'
  unique : .unique ∈ ms ↔ .unique ∈ ms'
  target : ms.findSome? Modifier.target? = ms'.findSome? Modifier.target?
  placements : (ms.filterMap Modifier.placement?).Perm (ms'.filterMap Modifier.placement?)
  overrides : (ms.filterMap Modifier.override?).Perm (ms'.filterMap Modifier.override?)

theorem Modifier.Alike.refl (ms : List (Modifier ρ)) : Modifier.Alike ms ms :=
  ⟨Iff.rfl, Iff.rfl, rfl, .refl _, .refl _⟩

theorem Modifier.Alike.symm {ms ms' : List (Modifier ρ)} (h : Modifier.Alike ms ms') :
    Modifier.Alike ms' ms :=
  ⟨h.key.symm, h.unique.symm, h.target.symm, h.placements.symm, h.overrides.symm⟩

theorem Modifier.Alike.trans {ms ms' ms'' : List (Modifier ρ)} (h : Modifier.Alike ms ms')
    (h' : Modifier.Alike ms' ms'') : Modifier.Alike ms ms'' :=
  ⟨h.key.trans h'.key, h.unique.trans h'.unique, h.target.trans h'.target,
    h.placements.trans h'.placements, h.overrides.trans h'.overrides⟩

theorem Modifier.Change.alike {ms ms' : List (Modifier ρ)} (h : Modifier.Change ms ms') :
    Modifier.Alike ms ms' := by
  cases h with
  | reorder hperm htargets =>
      refine ⟨hperm.mem_iff, hperm.mem_iff, ?_, hperm.filterMap _, hperm.filterMap _⟩
      -- The first target is the head of the list of all targets, which keeps its order.
      rw [← List.head?_filterMap, htargets, List.head?_filterMap]
  | repeatMark hmark hmem =>
      constructor
      · rcases hmark with rfl | rfl
        · simpa using hmem
        · simp
      · rcases hmark with rfl | rfl
        · simp
        · simpa using hmem
      all_goals
        rcases hmark with rfl | rfl <;>
          simp [List.findSome?_cons, List.filterMap_cons, Modifier.target?, Modifier.placement?,
            Modifier.override?]
  | dropTarget first later before between after =>
      constructor <;>
        simp [List.findSome?_cons, List.filterMap_cons, Modifier.target?, Modifier.placement?,
          Modifier.override?]

theorem Modifier.alike_of_eqvGen {ms ms' : List (Modifier ρ)}
    (h : Relation.EqvGen Modifier.Change ms ms') : Modifier.Alike ms ms' := by
  induction h with
  | rel _ _ hchange => exact hchange.alike
  | refl ms => exact .refl ms
  | symm _ _ _ ih => exact ih.symm
  | trans _ _ _ _ _ ih ih' => exact ih.trans ih'

/-! ## What a field gives -/

theorem Field.Rearranged.alike {f g : Field ρ} (h : f.Rearranged g) :
    Modifier.Alike f.modifiers g.modifiers :=
  Modifier.alike_of_eqvGen h.modifiers

section OneField

variable {f g : Field RecordId} (h : f.Rearranged g)

include h

theorem Field.Rearranged.columnName_eq : g.columnName = f.columnName := by
  rw [Field.columnName, Field.columnName, h.ident]

theorem Field.Rearranged.isUnique_eq : g.isUnique = f.isUnique := by
  rw [Bool.eq_iff_iff, Field.isUnique_eq_true_iff, Field.isUnique_eq_true_iff, h.alike.unique]

theorem Field.Rearranged.target?_eq : g.target? = f.target? :=
  h.alike.target.symm

theorem Field.Rearranged.role_eq : g.role = f.role := by
  have hkey : g.isKey = f.isKey := by
    rw [Bool.eq_iff_iff, Field.isKey_eq_true_iff, Field.isKey_eq_true_iff, h.alike.key]
  rw [Field.role, Field.role, hkey, h.target?_eq]

theorem Field.Rearranged.placement_eq : g.placement = f.placement := by
  have hperm : f.placements.Perm g.placements := h.alike.placements
  unfold Field.placement
  rw [h.target?_eq, h.type, h.isUnique_eq]
  rcases perm_cases hperm with ⟨hf, hg⟩ | ⟨p, hf, hg⟩ | ⟨p, q, ps, p', q', ps', hf, hg⟩
  · rw [hf, hg]
  · rw [hf, hg]
  · rw [hf, hg]

theorem Field.Rearranged.tag_eq : g.tag record = f.tag record := by
  have hperm : f.overrides.Perm g.overrides := h.alike.overrides
  unfold Field.tag
  rw [h.columnName_eq, h.type]
  rcases perm_cases hperm with ⟨hf, hg⟩ | ⟨o, hf, hg⟩ | ⟨o, o', os, q, q', qs, hf, hg⟩
  · rw [hf, hg]
  · rw [hf, hg]
  · rw [hf, hg]

theorem Field.Rearranged.columnType_eq
    (hnames : ∀ target, (catalog' target).qualifiedName config =
      (catalog target).qualifiedName config) :
    g.columnType catalog' config record = f.columnType catalog config record := by
  have hperm : f.overrides.Perm g.overrides := h.alike.overrides
  have hempty : g.overrides.isEmpty = f.overrides.isEmpty := hperm.isEmpty_eq.symm
  unfold Field.columnType
  rw [h.target?_eq, h.tag_eq, h.columnName_eq, hempty]
  cases f.target? with
  | none => rfl
  | some target => simp only [hnames]

theorem Field.Rearranged.column_eq
    (hnames : ∀ target, (catalog' target).qualifiedName config =
      (catalog target).qualifiedName config) :
    g.column catalog' config record = f.column catalog config record := by
  unfold Field.column
  rw [h.columnName_eq, h.placement_eq, h.columnType_eq hnames, h.role_eq, h.isUnique_eq]

end OneField

/-! ## What a record gives -/

theorem Record.Rearranged.qualifiedName_eq {r s : Record ρ} (h : r.Rearranged s) :
    s.qualifiedName config = r.qualifiedName config := by
  unfold Record.qualifiedName
  rw [h.ident, h.tableName, h.marker]

/-- Where modifiers are changed, in a record and in the records that it may point to, its columns
and its table are the same as before, and so is the failure if there is one. -/
theorem Record.modifiers_rearranged (catalog catalog' : Catalog) (config : Config)
    (r s : Record RecordId) (hcatalog : ∀ id, (catalog id).Rearranged (catalog' id))
    (h : r.Rearranged s) :
    s.columns catalog' config = r.columns catalog config ∧
      s.table catalog' config = r.table catalog config := by
  have hnames : ∀ target, (catalog' target).qualifiedName config =
      (catalog target).qualifiedName config := fun target => (hcatalog target).qualifiedName_eq
  have hfields : List.Forall₂ (fun f g => AgreesUnless (fun _ => False)
      (f.column catalog config r.ident) (g.column catalog' config r.ident)) r.fields s.fields := by
    refine h.fields.imp fun f g hfg => ?_
    rw [AgreesUnless.never_iff]
    exact hfg.column_eq hnames
  have hname : AgreesUnless (fun _ => False) (r.qualifiedName config) (s.qualifiedName config) := by
    rw [AgreesUnless.never_iff]
    exact h.qualifiedName_eq
  constructor
  · unfold Record.columns
    rw [h.ident]
    exact AgreesUnless.never_iff.mp (Field.columns_agreesUnless hfields)
  · exact AgreesUnless.never_iff.mp (Record.table_agreesUnless h.ident hname hfields)

/-- The key of a trade is marked twice, before its target and not after it, and points to nothing
else any more.  The two placements of a quote change places and are refused in the same words. -/
theorem Record.modifiers_rearranged_trade :
    let venue : Record RecordId := { ident := "Venue" }
    let withModifiers (ident : String) (ms : List (Modifier RecordId)) : Record RecordId :=
      { ident := ident, fields := [{ ident := "Sym", type := .primitive .text, modifiers := ms }] }
    let trade := withModifiers "Trade" [.foreignKey 0, .unique, .key, .foreignKey 1]
    let trade' := withModifiers "Trade" [.key, .key, .unique, .foreignKey 0]
    let quote := withModifiers "Quote" [.sorted, .grouped]
    let quote' := withModifiers "Quote" [.grouped, .sorted]
    let catalog : Catalog := fun id => [venue, trade].getD id quote
    let catalog' : Catalog := fun id => [venue, trade'].getD id quote'
    let t : Table :=
      { record := "Trade", name := ⟨none, "trade"⟩
        keys := [{ name := "sym", type := .reference ⟨none, "venue"⟩, role := .key,
                   isUnique := true }] }
    trade.Rearranged trade' ∧ quote.Rearranged quote' ∧
      (∀ id, (catalog id).Rearranged (catalog' id)) ∧
      trade.table catalog {} = .ok t ∧ trade'.table catalog' {} = .ok t ∧
      quote.table catalog {} = .error (.placement "Quote" "sym" .several) ∧
      quote'.table catalog' {} = .error (.placement "Quote" "sym" .several) := by
  intro venue withModifiers trade trade' quote quote' catalog catalog' t
  have hkey : Relation.EqvGen Modifier.Change
      [.foreignKey 0, .unique, .key, .foreignKey 1] [.key, .key, .unique, .foreignKey 0] := by
    apply Relation.EqvGen.trans _ [.foreignKey 0, .unique, .key]
    · exact .rel _ _ (.dropTarget 0 1 [] [.unique, .key] [])
    apply Relation.EqvGen.trans _ [.key, .foreignKey 0, .unique, .key]
    · exact .rel _ _ (@Modifier.Change.repeatMark _ _ [] _ (Or.inl rfl) (by decide))
    · exact .rel _ _ (.reorder (by decide) rfl)
  have hplacements : Relation.EqvGen Modifier.Change
      ([.sorted, .grouped] : List (Modifier RecordId)) [.grouped, .sorted] :=
    .rel _ _ (.reorder (by decide) rfl)
  have htrade : trade.Rearranged trade' :=
    ⟨rfl, rfl, rfl, .cons ⟨rfl, rfl, rfl, hkey⟩ .nil⟩
  have hquote : quote.Rearranged quote' :=
    ⟨rfl, rfl, rfl, .cons ⟨rfl, rfl, rfl, hplacements⟩ .nil⟩
  have hcatalog : ∀ id, (catalog id).Rearranged (catalog' id) := by
    intro id
    match id with
    | 0 => exact ⟨rfl, rfl, rfl, .nil⟩
    | 1 => exact htrade
    | _ + 2 => exact hquote
  have ht : trade.table catalog {} = .ok t := by decide +kernel
  have he : quote.table catalog {} = .error (.placement "Quote" "sym" .several) := by
    decide +kernel
  have ht' := (Record.modifiers_rearranged catalog catalog' {} trade trade' hcatalog htrade).2
  have he' := (Record.modifiers_rearranged catalog catalog' {} quote quote' hcatalog hquote).2
  exact ⟨htrade, hquote, hcatalog, ht, ht'.trans ht, he, he'.trans he⟩

end KdbSchema
