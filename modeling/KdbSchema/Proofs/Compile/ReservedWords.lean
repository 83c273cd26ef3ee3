import KdbSchema.Proofs.Compile.Dependence
import KdbSchema.Proofs.Compile.OrderOutcome

/-!
# Further reserved words

A configuration may reserve words beyond the built-in ones, for columns and for tables apart.  More
words can only refuse more: a request either ends as it did with fewer words, or it fails because a
name is one of the new words of its own role.  The names of tables that are only pointed to are
checked like those of the listed ones, against the words for tables.
-/

namespace KdbSchema

/-- The second configuration differs from the first one in further reserved words at most. -/
structure Config.Extends (c c' : Config) : Prop where
  defaultNamespace : c'.defaultNamespace = c.defaultNamespace
  uniqueAttribute : c'.uniqueAttribute = c.uniqueAttribute
  columns : c.reserved.columns ⊆ c'.reserved.columns
  tables : c.reserved.tables ⊆ c'.reserved.tables

/-- The failure refuses a name because it is a word that only the second configuration reserves for
the role of the name. -/
inductive RefusesNewWord (c c' : Config) : Failure → Prop
  | column (record : String) {word : String} (hword : word ∈ c'.reserved.columns)
      (hnew : word ∉ c.reserved.columns) :
      RefusesNewWord c c' (.columnName record word (.reserved word .column))
  | table (record : String) {word : String} (hword : word ∈ c'.reserved.tables)
      (hnew : word ∉ c.reserved.tables) :
      RefusesNewWord c c' (.tableName record word (.reserved word .table))

/-! ## Names -/

theorem checkName_agreesUnless (role : NameRole) {words words' : List String}
    (hwords : words ⊆ words') (name : String) :
    AgreesUnless (fun v => v = .reserved name role ∧ name ∈ words' ∧ name ∉ words)
      (checkName role words name) (checkName role words' name) := by
  unfold checkName
  apply (AgreesUnless.refl _ _).bind
  intro _
  by_cases hold : name ∈ role.words ∨ name ∈ words
  · have hboth : name ∈ role.words ∨ name ∈ words' := hold.imp_right fun h => hwords h
    rw [if_pos hold, if_pos hboth]
    exact .refl _ _
  · by_cases hnew : name ∈ words'
    · rw [if_pos (Or.inr hnew)]
      exact .of_error ⟨rfl, hnew, fun h => hold (Or.inr h)⟩
    · have hneither : ¬ (name ∈ role.words ∨ name ∈ words') := by
        rintro (h | h)
        · exact hold (Or.inl h)
        · exact hnew h
      rw [if_neg hold, if_neg hneither]
      exact .refl _ _

section Extended

variable {c c' : Config} (h : c.Extends c')

include h

theorem Record.qualifiedName_agreesUnless_newWord (r : Record RecordId) :
    AgreesUnless (RefusesNewWord c c') (r.qualifiedName c) (r.qualifiedName c') := by
  apply Record.qualifiedName_agreesUnless rfl rfl
  · rw [h.defaultNamespace]
  · intro base
    apply (checkName_agreesUnless .table h.tables base).mapError
    rintro _ ⟨rfl, hword, hnew⟩
    exact .table r.ident hword hnew

theorem Record.table_agreesUnless_newWord (catalog : Catalog) (r : Record RecordId) :
    AgreesUnless (RefusesNewWord c c') (r.table catalog c) (r.table catalog c') := by
  apply Record.table_agreesUnless rfl (Record.qualifiedName_agreesUnless_newWord h r)
  rw [List.forall₂_same]
  intro f _
  apply Field.column_agreesUnless
  · apply (checkName_agreesUnless .column h.columns f.columnName).mapError
    rintro _ ⟨rfl, hword, hnew⟩
    exact .column r.ident hword hnew
  · intro target _
    exact Record.qualifiedName_agreesUnless_newWord h (catalog target)

end Extended

namespace Compiler

/-- With further reserved words every script stays what it is or is refused, and what refuses it is
one of the new words, as a name of the role that it is reserved for.  A request that failed before
fails as before or for such a word. -/
theorem reserved_words_only_reject (catalog : Catalog) (c c' : Config) (h : c.Extends c')
    (ids : List RecordId) :
    let k : Compiler := { catalog := catalog, config := c }
    let k' : Compiler := { catalog := catalog, config := c' }
    (∀ text, k'.declareSchema ids = .ok text → k.declareSchema ids = .ok text) ∧
    (∀ text e, k.declareSchema ids = .ok text → k'.declareSchema ids = .error e →
      RefusesNewWord c c' e) ∧
    ∀ e e', k.declareSchema ids = .error e → k'.declareSchema ids = .error e' →
      e' = e ∨ RefusesNewWord c c' e' := by
  intro k k'
  have hagree : AgreesUnless (RefusesNewWord c c') (k.declareSchema ids) (k'.declareSchema ids) := by
    refine declareSchema_agreesUnless h.uniqueAttribute ?_
    intro id _
    exact Record.table_agreesUnless_newWord h catalog (catalog id)
  refine ⟨?_, ?_, ?_⟩
  · intro text htext
    exact hagree.eq_of_ok htext
  · intro text e htext he
    exact hagree.reason htext he
  · intro e e' he he'
    exact hagree.error_or_reason he he'

/-- A trade points to a venue that is not listed.  With the new words the name of the venue is
refused, although the column of the trade keeps that name.  A book, which has no columns, is
declared as before.  A quote was refused for its second column and is now refused for the first. -/
theorem reserved_words_only_reject_venue :
    let trade : Record RecordId :=
      { ident := "Trade"
        fields := [{ ident := "Venue", type := .unsupported "Venue", modifiers := [.foreignKey 1] }] }
    let quote : Record RecordId :=
      { ident := "Quote"
        fields := [{ ident := "Price", type := .primitive .float64 },
          { ident := "Sym", type := .primitive .text }] }
    let catalog : Catalog := fun id =>
      [trade, { ident := "Venue" }, { ident := "Book" }].getD id quote
    let c : Config := { reserved := { columns := ["sym"] } }
    let c' : Config := { reserved := { columns := ["price", "sym"], tables := ["venue"] } }
    let k : Compiler := { catalog := catalog, config := c }
    let k' : Compiler := { catalog := catalog, config := c' }
    let venue : Failure := .tableName "Venue" "venue" (.reserved "venue" .table)
    let sym : Failure := .columnName "Quote" "sym" (.reserved "sym" .column)
    let price : Failure := .columnName "Quote" "price" (.reserved "price" .column)
    c.Extends c' ∧ k.declareSchema [0] = .ok ".trade:([]venue:`.venue$())\n" ∧
      k'.declareSchema [0] = .error venue ∧ RefusesNewWord c c' venue ∧
      k'.declareSchema [2] = .ok ".book:([])\n" ∧ k.declareSchema [2] = .ok ".book:([])\n" ∧
      k.declareSchema [3] = .error sym ∧ k'.declareSchema [3] = .error price ∧
      RefusesNewWord c c' price := by
  intro trade quote catalog c c' k k' venue sym price
  have hextends : c.Extends c' := ⟨rfl, rfl, by simp [c, c'], by simp [c]⟩
  let t : Table :=
    { record := "Trade", name := ⟨none, "trade"⟩
      values := [{ name := "venue", type := .reference ⟨none, "venue"⟩, role := .foreignKey }] }
  have htable : k.table 0 = .ok t := by decide +kernel
  have htrade : k.declareSchema [0] = .ok ".trade:([]venue:`.venue$())\n" :=
    declareSchema_eq_ok_iff.mpr ⟨_, order_singleton htable (by decide), by decide +kernel⟩
  have hvenue : k'.declareSchema [0] = .error venue := by decide +kernel
  have hbook : k'.declareSchema [2] = .ok ".book:([])\n" := by cbv
  have hsym : k.declareSchema [3] = .error sym := by decide +kernel
  have hprice : k'.declareSchema [3] = .error price := by decide +kernel
  obtain ⟨_, hreason, _⟩ := reserved_words_only_reject catalog c c' hextends [0]
  obtain ⟨hkeeps, _, _⟩ := reserved_words_only_reject catalog c c' hextends [2]
  obtain ⟨_, _, hfails⟩ := reserved_words_only_reject catalog c c' hextends [3]
  have hother : price ≠ sym := by decide
  exact ⟨hextends, htrade, hvenue, hreason _ _ htrade hvenue, hbook, hkeeps _ hbook, hsym, hprice,
    (hfails _ _ hsym hprice).resolve_left hother⟩

end Compiler

end KdbSchema
