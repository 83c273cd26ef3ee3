import KdbSchema.Proofs.Source.Derivation
import KdbSchema.Proofs.Table.FailureOrder
import KdbSchema.Proofs.Text.Words

/-!
# Names in small words

A field that is named in small words, joined by underscores, has a column that is named in the same
words, joined with capitals.  The words can be told from the column name, so different fields have
different columns, however many words there are and however long these are.  Where all fields are
named in this way, no column repeats the name of an earlier one.
-/

namespace KdbSchema

variable {catalog : Catalog} {config : Config} {r : Record RecordId}

/-! ## Column names of a record -/

/-- A column by itself is never refused for repeating a name: its form and the reserved words are
all that its name is checked for. -/
theorem Field.column_ne_duplicate (f : Field RecordId) (owner record name : String) :
    f.column catalog config owner ≠ .error (.columnName record name .duplicate) := by
  intro h
  rcases (@Field.column_eq_error_iff catalog config owner [] f _).mp h with
    ⟨_, _, hplacement⟩ | ⟨_, ⟨reason, hcheck, hname⟩ | ⟨_, htype | ⟨_, hnone⟩⟩⟩
  · cases hplacement
  · cases hname
    rcases checkName_eq_error_iff.mp hcheck with (⟨_, hempty⟩ | ⟨_, _, hcharacter⟩) | ⟨_, _, hword⟩
    · cases hempty
    · cases hcharacter
    · cases hword
  · cases htype
  · exact hnone

theorem Record.columns_ne_duplicate (h : (r.fields.map Field.columnName).Nodup)
    (record name : String) :
    r.columns catalog config ≠ .error (.columnName record name .duplicate) := by
  intro herror
  obtain ⟨before, f, hfaulty, hfails⟩ := Record.columns_eq_error_iff.mp herror
  rcases Field.firstFails_performed_iff.mp hfails with hcolumn | ⟨_, hrepeated, _⟩
  · exact Field.column_ne_duplicate f r.ident record name hcolumn
  · have hnodup : ((before ++ [f]).map Field.columnName).Nodup :=
      h.sublist (hfaulty.position.sublist.map Field.columnName)
    rw [List.map_append, List.nodup_append] at hnodup
    exact hnodup.2.2 _ hrepeated _ (by simp) rfl

theorem Record.columnNames_eq {cs : List Column} (h : r.columns catalog config = .ok cs) :
    cs.map Column.name = r.fields.map Field.columnName := by
  obtain ⟨hall, _⟩ := Field.columns_eq_ok_iff.mp h
  rw [eq_comm, map_eq_map_iff_forall₂]
  exact hall.imp fun f c hc => (Field.column_eq_ok_iff.mp hc).2.2.2.1.symm

theorem Record.columnNames_of_retarget? {ρ σ : Type} {resolve : ρ → Option σ} {r : Record ρ}
    {r' : Record σ} (h : r.retarget? resolve = some r') :
    r'.fields.map Field.columnName = r.fields.map Field.columnName := by
  obtain ⟨fields, hfields, rfl⟩ := Option.map_eq_some_iff.mp h
  rw [eq_comm, map_eq_map_iff_forall₂]
  refine (mapM_eq_some_iff.mp hfields).imp ?_
  intro f g hg
  obtain ⟨modifiers, _, rfl⟩ := Option.map_eq_some_iff.mp hg
  rfl

namespace Source

/-- An identifier that underscores join from small words. -/
structure Identifier.Joins (i : Identifier) (ws : List (List Char)) : Prop where
  ne_nil : ws ≠ []
  small : ∀ w ∈ ws, Text.IsSmallWord w
  name : i.name.toList = ['_'].intercalate ws

variable {i : Identifier} {ws : List (List Char)}

theorem Identifier.Joins.contains_underscore_iff (h : i.Joins ws) :
    i.name.contains '_' = true ↔ ∀ w, ws ≠ [w] := by
  rw [String.contains_char_eq, decide_eq_true_iff, h.name]
  match ws, h with
  | [], h => exact (h.ne_nil rfl).elim
  | [w], h =>
      have hnone : '_' ∉ w := fun hmem => by
        simpa using (h.small w List.mem_cons_self).letters '_' hmem
      simpa using hnone
  | w :: w' :: ws, _ => simp [List.intercalate_cons_cons]

/-- The first word stands in small letters in the end, whether it was capitalised before or not. -/
theorem Identifier.Joins.toList_camelCase (h : i.Joins ws) :
    (camelCase i.declaredName).toList = Text.camelWords ws := by
  cases ws with
  | nil => exact (h.ne_nil rfl).elim
  | cons w ws =>
      have hw := h.small w List.mem_cons_self
      cases w with
      | nil => exact (hw.ne_nil rfl).elim
      | cons c rest =>
          have hc : c.isLower = true := hw.letters c List.mem_cons_self
          have hdeclared : ∃ a, Text.lowerChar a = [c] ∧
              i.declaredName.toList = a :: (rest ++ ws.flatMap Text.capitalised) := by
            cases ws with
            | nil =>
                have hsingle : ¬ i.name.contains '_' = true := by
                  rw [h.contains_underscore_iff]
                  simp
                refine ⟨c, Text.lowerChar_small hc, ?_⟩
                simp [declaredName, hsingle, h.name]
            | cons w' ws =>
                have hseveral : i.name.contains '_' = true := by
                  rw [h.contains_underscore_iff]
                  simp
                refine ⟨c.toUpper, Text.lowerChar_toUpper hc, ?_⟩
                rw [declaredName, if_pos hseveral, Text.toList_pascalCase h.ne_nil h.small h.name]
                rfl
          obtain ⟨a, hlower, hname⟩ := hdeclared
          rw [KdbSchema.toList_camelCase hname, hlower]
          rfl

/-- The words and with them the identifier can be told from the column name. -/
theorem Identifier.Joins.name_injective {j : Identifier} {vs : List (List Char)} (hi : i.Joins ws)
    (hj : j.Joins vs) (h : camelCase i.declaredName = camelCase j.declaredName) :
    i.name = j.name := by
  rw [← String.toList_inj, hi.toList_camelCase, hj.toList_camelCase] at h
  rw [← String.toList_inj, hi.name, hj.name, Text.camelWords_injective hi.small hj.small h]

/-- The columns of fields that are named in small words have the words joined with capitals as their
names.  These differ where the names of the fields do, so no column repeats the name of an earlier
one, whatever the rest of the fields says and whatever the records are to which they point. -/
theorem Item.columnNames_of_smallWords (x : Item) (d : Derived) (hx : x.derive = .ok d)
    (hdistinct : (x.body.namedFields.map fun f => f.name.name).Nodup)
    (hwords : ∀ f ∈ x.body.namedFields, ∃ ws, f.name.Joins ws)
    (hrename : ∀ f ∈ x.body.namedFields, ∀ value,
      ¬ Attribute.SetIn f.attributes "rename" value) :
    List.Forall₂ (fun f g => ∀ ws, f.name.Joins ws → g.columnName.toList = Text.camelWords ws)
        x.body.namedFields d.record.fields ∧
      (d.record.fields.map Field.columnName).Nodup ∧
      ∀ resolve r, d.record.retarget? resolve = some r → ∀ catalog config,
        (∀ cs, r.columns catalog config = .ok cs →
          cs.map Column.name = d.record.fields.map Field.columnName) ∧
        ∀ record name, r.columns catalog config ≠ .error (.columnName record name .duplicate) := by
  have hcolumns : List.Forall₂
      (fun f g => (∃ ws, f.name.Joins ws) ∧ g.columnName = camelCase f.name.declaredName)
      x.body.namedFields d.record.fields := by
    have hfields : ∀ f ∈ x.body.namedFields, (∃ ws, f.name.Joins ws) ∧
        ∀ value, ¬ Attribute.SetIn f.attributes "rename" value :=
      fun f hf => ⟨hwords f hf, hrename f hf⟩
    refine (List.forall₂_and_left _ _ |>.mpr ⟨hfields, describes_of_derive hx⟩).imp ?_
    rintro f g ⟨⟨hjoins, hplain⟩, hdescribes⟩
    exact ⟨hjoins, congrArg camelCase (hdescribes.declared hplain)⟩
  have hnames : List.Forall₂
      (fun f g => ∀ ws, f.name.Joins ws → g.columnName.toList = Text.camelWords ws)
      x.body.namedFields d.record.fields := by
    refine hcolumns.imp ?_
    rintro f g ⟨_, hname⟩ ws hws
    rw [hname, hws.toList_camelCase]
  have hnodup : (d.record.fields.map Field.columnName).Nodup := by
    refine nodup_map_of_forall₂ hcolumns ?_ hdistinct
    rintro f g f' g' ⟨⟨ws, hws⟩, hname⟩ ⟨⟨ws', hws'⟩, hname'⟩ heq
    rw [hname, hname'] at heq
    exact hws.name_injective hws' heq
  refine ⟨hnames, hnodup, ?_⟩
  intro resolve r hr catalog config
  have hfields := Record.columnNames_of_retarget? hr
  refine ⟨fun cs hcs => (Record.columnNames_eq hcs).trans hfields, ?_⟩
  rw [← hfields] at hnodup
  exact fun record name => Record.columns_ne_duplicate hnodup record name

/-- The same letters are cut into words in four ways; one of the fields is a foreign key. -/
theorem Item.columnNames_of_smallWords_flags :
    let field (name : String) (items : List Setting) : ItemField :=
      ⟨[.settings items], { name := name }, .named "" "bool"⟩
    let venue : Setting := .named "foreign_key" (.expression ⟨.path "Venue", "Venue"⟩)
    let x : Item :=
      { attributes := [], name := { name := "Flags" }, generics := {}
        body := .fields [field "a_bc_d" [.named "key" .word], field "ab_cd" [venue],
          field "a_b_c_d" [], field "abcd" []] }
    let record : Record String :=
      { ident := "Flags"
        fields := [{ ident := "ABcD", type := .primitive .bool, modifiers := [.key] },
          { ident := "AbCd", type := .primitive .bool, modifiers := [.foreignKey "Venue"] },
          { ident := "ABCD", type := .primitive .bool },
          { ident := "abcd", type := .primitive .bool }] }
    let resolve (path : String) : Option RecordId := if path = "Venue" then some 0 else none
    x.derive = .ok { record := record, header := "impl::qschema::node::RecordforFlags" } ∧
      record.fields.map Field.columnName = ["aBcD", "abCd", "aBCD", "abcd"] ∧
      (record.fields.map Field.columnName).Nodup ∧
      ∃ r, record.retarget? resolve = some r ∧ ∀ catalog config record name,
        r.columns catalog config ≠ .error (.columnName record name .duplicate) := by
  intro field venue x record resolve
  have hx : x.derive =
      .ok { record := record, header := "impl::qschema::node::RecordforFlags" } := by cbv
  have hdistinct : (x.body.namedFields.map fun f => f.name.name).Nodup := by decide
  have hwords : ∀ f ∈ x.body.namedFields, ∃ ws, f.name.Joins ws := by
    simp only [x, ItemBody.namedFields, List.forall_mem_cons]
    refine ⟨⟨[['a'], ['b', 'c'], ['d']], ?_⟩, ⟨[['a', 'b'], ['c', 'd']], ?_⟩,
      ⟨[['a'], ['b'], ['c'], ['d']], ?_⟩, ⟨[['a', 'b', 'c', 'd']], ?_⟩, by simp⟩ <;>
      exact ⟨by decide, by decide, by decide⟩
  have hrename : ∀ f ∈ x.body.namedFields, ∀ value,
      ¬ Attribute.SetIn f.attributes "rename" value := by
    simp [x, ItemBody.namedFields, field, venue, Attribute.SetIn]
  obtain ⟨_, hnodup, hrest⟩ := columnNames_of_smallWords x _ hx hdistinct hwords hrename
  refine ⟨hx, by decide +kernel, hnodup, _, rfl, ?_⟩
  intro catalog config
  exact (hrest resolve _ rfl catalog config).2

end Source

end KdbSchema
