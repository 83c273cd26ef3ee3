import KdbSchema.Table.Basic
import KdbSchema.Proofs.Agreement

/-!
# What a table depends on

A name is resolved from the identifier, the table name and the namespace of a record and from the
words that tables cannot take.  A column depends on its field, on the words that columns cannot take
and on the name of the record that the field points to first, and on nothing else of that record.
So two runs agree on a table wherever they agree on these checks and names, and what explains a
difference between the tables explains one between the checks.
-/

namespace KdbSchema

variable {P : Failure → Prop} {catalog catalog' : Catalog} {config config' : Config}

theorem Record.qualifiedName_agreesUnless {ρ σ : Type} {r : Record ρ} {s : Record σ}
    (hident : s.ident = r.ident) (htable : s.tableName = r.tableName)
    (hspace : s.marker.or config'.defaultNamespace = r.marker.or config.defaultNamespace)
    (hcheck : ∀ base,
      AgreesUnless P
        ((checkName .table config.reserved.tables base).mapError (.tableName r.ident base))
        ((checkName .table config'.reserved.tables base).mapError (.tableName r.ident base))) :
    AgreesUnless P (r.qualifiedName config) (s.qualifiedName config') := by
  unfold Record.qualifiedName
  rw [hident, htable, hspace]
  apply (hcheck _).bind
  intro _
  exact .refl P _

section Fields

variable {record : String}

theorem Field.columnType_agreesUnless {f : Field RecordId}
    (htarget : ∀ target, f.target? = some target →
      AgreesUnless P ((catalog target).qualifiedName config)
        ((catalog' target).qualifiedName config')) :
    AgreesUnless P (f.columnType catalog config record) (f.columnType catalog' config' record) := by
  unfold Field.columnType
  cases hfirst : f.target? with
  | none => exact .refl P _
  | some target =>
      by_cases hoverrides : f.overrides.isEmpty = true
      · simp only [if_pos hoverrides]
        exact (htarget target hfirst).map _
      · simp only [if_neg hoverrides]
        exact .refl P _

theorem Field.column_agreesUnless {f : Field RecordId}
    (hcheck :
      AgreesUnless P
        ((checkName .column config.reserved.columns f.columnName).mapError
          (.columnName record f.columnName))
        ((checkName .column config'.reserved.columns f.columnName).mapError
          (.columnName record f.columnName)))
    (htarget : ∀ target, f.target? = some target →
      AgreesUnless P ((catalog target).qualifiedName config)
        ((catalog' target).qualifiedName config')) :
    AgreesUnless P (f.column catalog config record) (f.column catalog' config' record) := by
  unfold Field.column
  apply (AgreesUnless.refl P _).bind
  intro _
  apply hcheck.bind
  intro _
  apply (Field.columnType_agreesUnless htarget).bind
  intro _
  exact .refl P _

/-- The check for repeated names compares the columns alone, so it agrees where the columns do. -/
theorem Field.columns_agreesUnless {fs gs : List (Field RecordId)} {taken : List String}
    (h : List.Forall₂ (fun f g => AgreesUnless P (f.column catalog config record)
      (g.column catalog' config' record)) fs gs) :
    AgreesUnless P (Field.columns catalog config record taken fs)
      (Field.columns catalog' config' record taken gs) := by
  induction h generalizing taken with
  | nil => exact .refl P _
  | cons hcolumn _ ih =>
      rw [Field.columns, Field.columns]
      apply hcolumn.bind
      intro c
      by_cases htaken : c.name ∈ taken
      · simp only [if_pos htaken]
        exact .refl P _
      · simp only [if_neg htaken]
        apply ih.bind
        intro cs
        exact .refl P _

end Fields

theorem Record.table_agreesUnless {r s : Record RecordId} (hident : s.ident = r.ident)
    (hname : AgreesUnless P (r.qualifiedName config) (s.qualifiedName config'))
    (hcolumns : List.Forall₂ (fun f g => AgreesUnless P (f.column catalog config r.ident)
      (g.column catalog' config' r.ident)) r.fields s.fields) :
    AgreesUnless P (r.table catalog config) (s.table catalog' config') := by
  unfold Record.table Record.columns
  rw [hident]
  apply hname.bind
  intro name
  apply (Field.columns_agreesUnless hcolumns).bind
  intro cs
  exact .refl P _

end KdbSchema
