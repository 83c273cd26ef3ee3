import KdbSchema.Source.Derivation
import KdbSchema.Proofs.Lists
import KdbSchema.Proofs.Source.Settings

/-!
# What is derived from an item

A record is derived from an item exactly if the item has named fields and the settings of the item
and of each field have no fault.  Every field of the record then tells what one field of the item
says, in the same order.  The modifiers of a field are those that its settings ask for; they always
stand in the order of their positions, and none stands there twice.
-/

namespace KdbSchema

/-- The place of a modifier among those of a derived field. -/
def Modifier.position {ρ : Type} : Modifier ρ → Nat
  | key => 0
  | unique => 1
  | sorted => 2
  | parted => 3
  | grouped => 4
  | foreignKey _ => 5
  | dateOverride => 6
  | timeOverride => 7
  | stringOverride => 8

def Modifier.settingName {ρ : Type} : Modifier ρ → String
  | key => "key"
  | unique => "unique"
  | sorted => "sorted"
  | parted => "parted"
  | grouped => "grouped"
  | foreignKey _ => "foreign_key"
  | dateOverride => "date"
  | timeOverride => "time"
  | stringOverride => "string"

namespace Source

variable {f : ItemField} {x : Item} {d : Derived} {entries : List SettingEntry}

/-- A value asks for a modifier: a foreign key is asked for by its path, any other by turning it
on. -/
def SettingValue.Asks (value : SettingValue) : Modifier String → Prop
  | .foreignKey path => value.path = .ok path
  | _ => value.TurnsOn

/-- What a field of an item says about the field that is derived from it. -/
structure ItemField.Describes (f : ItemField) (g : Field String) : Prop where
  renamed : ∀ value s, Attribute.SetIn f.attributes "rename" value → value.string = .ok s →
    g.ident = s
  declared : (∀ value, ¬ Attribute.SetIn f.attributes "rename" value) → g.ident = f.name.declaredName
  type : g.type = f.type.fieldType
  isOptional : g.isOptional = f.type.isOptional
  ordered : g.modifiers.Pairwise fun m m' => m.position < m'.position
  asked : ∀ m, m ∈ g.modifiers ↔
    ∃ value, Attribute.SetIn f.attributes m.settingName value ∧ value.Asks m

/-- Two bodies with named fields, of which each field is related to the one at the same place. -/
inductive ItemBody.Matches (related : ItemField → ItemField → Prop) : ItemBody → ItemBody → Prop
  | fields {fs gs : List ItemField} (h : List.Forall₂ related fs gs) :
      Matches related (.fields fs) (.fields gs)

/-! ## Modifiers -/

/-- The modifiers are part of one list, in which only the target of the foreign key is left open. -/
theorem modifiersOf_sublist (entries : List SettingEntry) :
    ∃ target, (modifiersOf entries).Sublist [.key, .unique, .sorted, .parted, .grouped,
      .foreignKey target, .dateOverride, .timeOverride, .stringOverride] := by
  have hflag : ∀ (name : String) (m : Modifier String),
      (if isFlagSet name entries then [m] else []).Sublist [m] := by
    intro name m
    split <;> simp
  have htarget : ∃ target : String, ((settingText? SettingValue.path "foreign_key" entries).map
      Modifier.foreignKey).toList.Sublist [.foreignKey target] := by
    cases settingText? SettingValue.path "foreign_key" entries with
    | none => exact ⟨"", by simp⟩
    | some target => exact ⟨target, by simp⟩
  obtain ⟨target, htarget⟩ := htarget
  refine ⟨target, ?_⟩
  have hflags := (((hflag "key" .key).append (hflag "unique" .unique)).append
    (hflag "sorted" .sorted)).append (hflag "parted" .parted) |>.append (hflag "grouped" .grouped)
  exact (((hflags.append htarget).append (hflag "date" .dateOverride)).append
    (hflag "time" .timeOverride)).append (hflag "string" .stringOverride)

theorem modifiersOf_ordered (entries : List SettingEntry) :
    (modifiersOf entries).Pairwise fun m m' => m.position < m'.position := by
  obtain ⟨target, hsub⟩ := modifiersOf_sublist entries
  refine List.Pairwise.sublist hsub ?_
  simp [Modifier.position]

theorem mem_modifiersOf_iff (honce : (settingNames entries).Nodup) {m : Modifier String} :
    m ∈ modifiersOf entries ↔ ∃ value, .ok (m.settingName, value) ∈ entries ∧ value.Asks m := by
  have hflag : ∀ (name : String) (n : Modifier String),
      m ∈ (if isFlagSet name entries then [n] else []) ↔ m = n ∧ isFlagSet name entries = true := by
    intro name n
    split
    · next h => simp [h]
    · next h => simp [h]
  simp only [modifiersOf, List.mem_append, hflag, isFlagSet_eq_true_iff honce, Option.mem_toList,
    Option.map_eq_some_iff, settingText?_eq_some_iff honce]
  cases m <;> simp [Modifier.settingName, SettingValue.Asks]

/-! ## Fields and items -/

theorem ItemField.describes_field (h : WellSet fieldRules f.entries) : f.Describes f.field where
  renamed := by
    intro value s hset hstring
    have hrename : settingText? SettingValue.string "rename" f.entries = some s :=
      (settingText?_eq_some_iff h.once).mpr
        ⟨value, Attribute.ok_mem_settingEntries_iff.mpr hset, hstring⟩
    simp [field, hrename]
  declared := by
    intro hnone
    have hrename : settingText? SettingValue.string "rename" f.entries = none := by
      rw [Option.eq_none_iff_forall_ne_some]
      intro s hs
      obtain ⟨value, hmem, _⟩ := (settingText?_eq_some_iff h.once).mp hs
      exact hnone value (Attribute.ok_mem_settingEntries_iff.mp hmem)
    simp [field, hrename]
  type := rfl
  isOptional := rfl
  ordered := modifiersOf_ordered f.entries
  asked := by
    intro m
    rw [field, mem_modifiersOf_iff h.once]
    simp only [entries, Attribute.ok_mem_settingEntries_iff]

theorem ItemBody.faults_eq_nil_iff {body : ItemBody} :
    body.faults = [] ↔ ∃ fs, body = .fields fs ∧ ∀ f ∈ fs, WellSet fieldRules f.entries := by
  cases body with
  | fields fs =>
      simp [faults, ItemField.faults, List.flatMap_eq_nil_iff, settingFaults_eq_nil_iff]
  | positional count => simp [faults]
  | unit => simp [faults]
  | enumeration => simp [faults]
  | union => simp [faults]

theorem Item.derive_eq_ok_iff :
    x.derive = .ok d ↔ WellSet itemRules x.entries ∧
      (∃ fs, x.body = .fields fs ∧ ∀ f ∈ fs, WellSet fieldRules f.entries) ∧
      d = { record := x.record, header := x.header } := by
  rw [← settingFaults_eq_nil_iff, ← ItemBody.faults_eq_nil_iff, ← and_assoc,
    ← List.append_eq_nil_iff]
  change x.derive = .ok d ↔ x.faults = [] ∧ _
  unfold derive
  cases x.faults with
  | nil => simp [eq_comm]
  | cons first others => simp

theorem deriveText_eq {s : String} (h : Item.ofText? s = some x) : deriveText s = x.derive := by
  rw [deriveText, h]

/-- Each field of a derived record is described by the field of the item at the same place. -/
theorem Item.describes_of_derive (h : x.derive = .ok d) :
    List.Forall₂ ItemField.Describes x.body.namedFields d.record.fields := by
  obtain ⟨_, ⟨fs, hbody, hfields⟩, rfl⟩ := derive_eq_ok_iff.mp h
  simp only [record, hbody, ItemBody.namedFields]
  rw [List.forall₂_map_right_iff, List.forall₂_same]
  exact fun f hf => ItemField.describes_field (hfields f hf)

/-- Where the entries of two items and of their fields are the same up to order, and each field of
the one says what the field of the other says, the two records differ in their names at most. -/
theorem Item.derive_of_matches {y : Item} {related : ItemField → ItemField → Prop}
    (hx : x.derive = .ok d) (hentries : x.entries.Perm y.entries)
    (hbody : x.body.Matches related y.body)
    (hperm : ∀ f g, related f g → f.entries.Perm g.entries)
    (hfield : ∀ f g, related f g → WellSet fieldRules f.entries → g.field = f.field) :
    y.derive = .ok { record := { d.record with ident := y.name.spelling }, header := y.header } := by
  obtain ⟨hset, ⟨fs, hfs, hfields⟩, rfl⟩ := derive_eq_ok_iff.mp hx
  rw [hfs] at hbody
  generalize hgs : y.body = body at hbody
  cases hbody with
  | @fields _ gs hmatch =>
      have hfields' : ∀ g ∈ gs, WellSet fieldRules g.entries := by
        intro g hg
        obtain ⟨f, hf, hfg⟩ := exists_left_of_forall₂ hmatch hg
        exact (hfields f hf).of_perm (hperm f g hfg)
      have hsame : fs.map ItemField.field = gs.map ItemField.field := by
        rw [map_eq_map_iff_forall₂]
        refine (List.forall₂_and_left fs gs |>.mpr ⟨hfields, hmatch⟩).imp ?_
        exact fun f g hfg => (hfield f g hfg.2 hfg.1).symm
      refine derive_eq_ok_iff.mpr ⟨hset.of_perm hentries, ⟨gs, hgs, hfields'⟩, ?_⟩
      simp [record, hfs, hgs, ItemBody.namedFields, hsame,
        settingText?_eq_of_perm hset.once hentries]

end Source

end KdbSchema
