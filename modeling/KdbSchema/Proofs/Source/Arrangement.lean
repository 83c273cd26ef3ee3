import KdbSchema.Proofs.Source.Derivation

/-!
# The arrangement of settings

Settings can be written in many ways: in any order, in one attribute or in several, and with
attributes of other names between them.  A change of the arrangement only permutes the entries that
are read from the attributes, and between attributes that hold nothing but settings every
permutation comes from such changes.  Entries without faults stay so and look the same by their
names, so an item from which a record is derived gives the same record in every arrangement.
-/

namespace KdbSchema.Source

open Relation (EqvGen)

variable {attributes attributes' : List Attribute}

inductive Attribute.Change : List Attribute → List Attribute → Prop
  | reorder {items items' : List Setting} (before after : List Attribute)
      (h : items.Perm items') :
      Change (before ++ .settings items :: after) (before ++ .settings items' :: after)
  /-- A setting is moved to a later attribute. -/
  | move (item : Setting) (left right items : List Setting)
      (before between after : List Attribute) :
      Change (before ++ .settings (left ++ item :: right) :: (between ++ .settings items :: after))
        (before ++ .settings (left ++ right) :: (between ++ .settings (item :: items) :: after))
  | split (items items' : List Setting) (before after : List Attribute) :
      Change (before ++ .settings (items ++ items') :: after)
        (before ++ .settings items :: .settings items' :: after)
  | insertEmpty (before after : List Attribute) :
      Change (before ++ after) (before ++ .settings [] :: after)
  | insertForeign (path : String) (before after : List Attribute) :
      Change (before ++ after) (before ++ .foreign path :: after)

/-- The attributes of a field are changed any number of times, in either direction. -/
structure ItemField.Rearranged (f g : ItemField) : Prop where
  name : g.name = f.name
  type : g.type = f.type
  attributes : EqvGen Attribute.Change f.attributes g.attributes

/-- The attributes of an item with named fields and those of its fields are changed. -/
structure Item.Rearranged (x y : Item) : Prop where
  name : y.name = x.name
  generics : y.generics = x.generics
  attributes : EqvGen Attribute.Change x.attributes y.attributes
  body : x.body.Matches ItemField.Rearranged y.body

/-! ## Entries -/

theorem Attribute.Change.settingEntries_perm (h : Attribute.Change attributes attributes') :
    (settingEntries attributes).Perm (settingEntries attributes') := by
  unfold settingEntries
  cases h with
  | reorder before after h =>
      simp only [List.flatMap_append, List.flatMap_cons, Attribute.entries]
      exact ((h.map _).append_right _).append_left _
  | move item left right items before between after =>
      simp only [List.flatMap_append, List.flatMap_cons, Attribute.entries, List.map_append,
        List.map_cons, List.append_assoc, List.cons_append]
      refine List.Perm.append_left _ (List.Perm.append_left _ ?_)
      -- What is passed over on the way is the rest of one attribute and all those between.
      have hpassed : ∀ passed rest : List SettingEntry,
          (item.entry :: (passed ++ rest)).Perm (passed ++ item.entry :: rest) :=
        fun _ _ => List.perm_middle.symm
      simpa only [List.append_assoc] using
        hpassed (right.map Setting.entry ++ between.flatMap Attribute.entries) _
  | split items items' before after =>
      simp [Attribute.entries]
  | insertEmpty before after =>
      simp [Attribute.entries]
  | insertForeign path before after =>
      simp [Attribute.entries]

theorem Attribute.settingEntries_perm (h : EqvGen Attribute.Change attributes attributes') :
    (settingEntries attributes).Perm (settingEntries attributes') := by
  induction h with
  | rel _ _ hchange => exact hchange.settingEntries_perm
  | refl _ => exact .refl _
  | symm _ _ _ ih => exact ih.symm
  | trans _ _ _ _ _ ih ih' => exact ih.trans ih'

/-! ## Arrangements of the same settings -/

/-- Attributes that hold settings or do not count. -/
inductive Attribute.Holds : List Attribute → List Setting → Prop
  | nil : Holds [] []
  | settings {items items' : List Setting} {attributes : List Attribute}
      (h : Holds attributes items') : Holds (.settings items :: attributes) (items ++ items')
  | foreign {items : List Setting} {attributes : List Attribute} (path : String)
      (h : Holds attributes items) : Holds (.foreign path :: attributes) items

theorem Attribute.Holds.gathered {items : List Setting} (h : Attribute.Holds attributes items) :
    EqvGen Attribute.Change attributes [.settings items] := by
  have hcons : ∀ (a : Attribute) {as as' : List Attribute}, EqvGen Attribute.Change as as' →
      EqvGen Attribute.Change (a :: as) (a :: as') := by
    intro a as as' has
    induction has with
    | rel _ _ hchange =>
        apply EqvGen.rel
        cases hchange with
        | reorder before after h => exact .reorder (a :: before) after h
        | move item left right items before between after =>
            exact .move item left right items (a :: before) between after
        | split items items' before after => exact .split items items' (a :: before) after
        | insertEmpty before after => exact .insertEmpty (a :: before) after
        | insertForeign path before after => exact .insertForeign path (a :: before) after
    | refl _ => exact .refl _
    | symm _ _ _ ih => exact .symm _ _ ih
    | trans _ _ _ _ _ ih ih' => exact .trans _ _ _ ih ih'
  induction h with
  | nil => exact .rel _ _ (.insertEmpty [] [])
  | settings _ ih =>
      exact .trans _ _ _ (hcons _ ih) (.symm _ _ (.rel _ _ (.split _ _ [] [])))
  | foreign path _ ih =>
      exact .trans _ _ _ (.symm _ _ (.rel _ _ (.insertForeign path [] _))) ih

/-- Attributes that hold the same settings, in any order, are arrangements of each other. -/
theorem Attribute.Holds.rearranged {items items' : List Setting}
    (h : Attribute.Holds attributes items) (h' : Attribute.Holds attributes' items')
    (hperm : items.Perm items') : EqvGen Attribute.Change attributes attributes' :=
  .trans _ _ _ h.gathered (.trans _ _ _ (.rel _ _ (.reorder [] [] hperm)) h'.gathered.symm)

/-! ## What is derived -/

theorem modifiersOf_eq_of_perm {entries entries' : List SettingEntry}
    (honce : (settingNames entries).Nodup) (hperm : entries.Perm entries') :
    modifiersOf entries' = modifiersOf entries := by
  simp only [modifiersOf, isFlagSet_eq_of_perm honce hperm, settingText?_eq_of_perm honce hperm]

theorem ItemField.Rearranged.field_eq {f g : ItemField} (h : f.Rearranged g)
    (hset : WellSet fieldRules f.entries) : g.field = f.field := by
  have hperm : f.entries.Perm g.entries := Attribute.settingEntries_perm h.attributes
  rw [field, field, settingText?_eq_of_perm hset.once hperm,
    modifiersOf_eq_of_perm hset.once hperm, h.name, h.type]

/-- If a record is derived from an item, the same record is derived from the item with its settings
and those of its fields in any other arrangement, and from every text that reads as that item.  The
fields of the record are described by those of the item, one by one and in their order: each has
the modifiers that its settings ask for, in one fixed order and none twice. -/
theorem Item.derive_rearranged (x y : Item) (d : Derived) (h : x.Rearranged y)
    (hx : x.derive = .ok d) :
    y.derive = .ok d ∧
      (∀ s, Item.ofText? s = some y → deriveText s = .ok d) ∧
      List.Forall₂ ItemField.Describes x.body.namedFields d.record.fields := by
  have hy := derive_of_matches hx (Attribute.settingEntries_perm h.attributes) h.body
    (fun f g hfg => Attribute.settingEntries_perm hfg.attributes) (fun f g hfg => hfg.field_eq)
  obtain ⟨_, _, rfl⟩ := derive_eq_ok_iff.mp hx
  have hheader : y.header = x.header := by
    rw [header, header, h.name, h.generics]
  rw [h.name, hheader] at hy
  exact ⟨hy, fun s hs => (deriveText_eq hs).trans hy, describes_of_derive hx⟩

/-- The settings of a trade are gathered and reversed, those of its field too, and attributes of
other names are put in. -/
theorem Item.derive_rearranged_trade :
    let string (s : String) : SettingValue :=
      .expression ⟨.literal ⟨.string s, "\"" ++ s ++ "\"", false⟩, "\"" ++ s ++ "\""⟩
    let table : Setting := .named "table" (string "t")
    let rename : Setting := .named "rename" (string "Sym")
    let venue : Setting :=
      .named "foreign_key" (.expression ⟨.path "a::Venue", "a::Venue"⟩)
    let trade (own ofField : List Attribute) : Item :=
      { attributes := own, name := { name := "Trade" }, generics := {}
        body := .fields [⟨ofField, { name := "sym" }, .named "" "String"⟩] }
    let x := trade [.settings [table, .named "namespace" .word]]
      [.settings [.named "key" .word, rename], .settings [venue, .named "unique" .word]]
    let y := trade [.settings [.named "namespace" .word], .foreign "derive", .settings [table]]
      [.settings [.named "unique" .word, venue, rename, .named "key" .word], .foreign "serde"]
    let s := "#[qschema(namespace)] #[derive(Debug)] #[qschema(table = \"t\")] struct Trade \x7b" ++
      "#[qschema(unique, foreign_key = a::Venue, rename = \"Sym\", key)] #[serde] sym: String \x7d"
    let record : Record String :=
      { ident := "Trade", tableName := some "t", marker := some ""
        fields := [{ ident := "Sym", type := .primitive .text
                     modifiers := [.key, .unique, .foreignKey "a::Venue"] }] }
    let d : Derived := { record := record, header := "impl::qschema::node::RecordforTrade" }
    x.Rearranged y ∧ x.derive = .ok d ∧ y.derive = .ok d ∧ Item.ofText? s = some y ∧
      deriveText s = .ok d := by
  intro string table rename venue trade x y s record d
  have hown : EqvGen Attribute.Change x.attributes y.attributes := by
    refine Attribute.Holds.rearranged (.settings .nil) (.settings (.foreign _ (.settings .nil))) ?_
    exact List.Perm.swap _ _ _
  have hfield : EqvGen Attribute.Change
      [.settings [.named "key" .word, rename], .settings [venue, .named "unique" .word]]
      [.settings [.named "unique" .word, venue, rename, .named "key" .word], .foreign "serde"] := by
    refine Attribute.Holds.rearranged (.settings (.settings .nil)) (.settings (.foreign _ .nil)) ?_
    decide
  have h : x.Rearranged y := ⟨rfl, rfl, hown, .fields (.cons ⟨rfl, rfl, hfield⟩ .nil)⟩
  have hx : x.derive = .ok d := by cbv
  have hs : Item.ofText? s = some y := by decide +kernel
  obtain ⟨hy, htext, _⟩ := derive_rearranged x y d h hx
  exact ⟨h, hx, hy, hs, htext s hs⟩

end KdbSchema.Source
