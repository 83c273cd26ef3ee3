import KdbSchema.Proofs.Compile.Requests
import KdbSchema.Proofs.Script.References

/-!
# Scripts declare before they refer

Every line of a script declares the table of a listed record, and it refers to names under which
the records that its fields point to are declared, if they are listed.  So a line that refers to a
declared name stands after the only line that declares it.
-/

namespace KdbSchema

namespace Compiler

variable {k : Compiler} {ids : List RecordId} {text : String}

/-- The tables `out` of the listed records, in the order in which the script declares them. -/
structure Declared (k : Compiler) (ids : List RecordId) (out : List Table) : Prop where
  order : ∃ ts, DeclarationOrder ts out
  source : ∀ t ∈ out, ∃ id ∈ ids, k.table id = .ok t
  covers : ∀ id ∈ ids, ∃ t ∈ out, k.table id = .ok t

theorem exists_declared (h : k.declareSchema ids = .ok text) :
    ∃ out, k.Declared ids out ∧ script k.config.uniqueAttribute out = text := by
  obtain ⟨out, hout, htext⟩ := declareSchema_eq_ok_iff.mp h
  obtain ⟨ts, hts, horder⟩ := order_eq_ok_iff.mp hout
  have hdeclaration := declarationOrder_of_orderTables horder
  have hall := mapM_eq_ok_iff.mp hts
  refine ⟨out, ⟨⟨ts, hdeclaration⟩, ?_, ?_⟩, htext⟩
  · intro t ht
    obtain ⟨id, hid, htable⟩ :=
      exists_left_of_forall₂ hall (hdeclaration.perm.mem_iff.mp ht)
    exact ⟨id, List.mem_eraseDups.mp hid, htable⟩
  · intro id hid
    obtain ⟨t, ht, htable⟩ := exists_right_of_forall₂ hall (List.mem_eraseDups.mpr hid)
    exact ⟨t, hdeclaration.perm.mem_iff.mpr ht, htable⟩

namespace Declared

variable {out : List Table}

theorem wellFormed (hout : k.Declared ids out) : ∀ t ∈ out, t.WellFormed := by
  intro t ht
  obtain ⟨id, _, htable⟩ := hout.source t ht
  exact Record.table_wellFormed htable

theorem lines_script (hout : k.Declared ids out) :
    lines (script k.config.uniqueAttribute out) =
      out.map (Table.declaration k.config.uniqueAttribute) :=
  lines_script_of_wellFormed hout.wellFormed

/-- A reference to a name that some line declares leads to an earlier line. -/
theorem declaredBefore (hout : k.Declared ids out) {i : Nat} {t u : Table}
    (hi : out[i]? = some t) (hu : u ∈ out)
    (hrefers : RefersTo (t.declaration k.config.uniqueAttribute) u.name.text) :
    DeclaredBefore (lines (script k.config.uniqueAttribute out)) u.name.text i := by
  have ht : t.WellFormed := hout.wellFormed t (List.mem_of_getElem? hi)
  obtain ⟨q, hq, htext⟩ := exists_reference_of_refersTo ht hrefers
  have hname : q = u.name :=
    QualifiedName.text_injective (ht.of_mem_references hq) (hout.wellFormed u hu).name htext
  obtain ⟨ts, horder⟩ := hout.order
  rw [hout.lines_script]
  exact horder.declaredBefore hout.wellFormed _ hi hu (hname ▸ hq)

/-- Where all records that fields point to first are listed, so are all tables referred to. -/
theorem exists_referred (hout : k.Declared ids out)
    (hclosed : ∀ id ∈ ids, ∀ f ∈ (k.catalog id).fields, ∀ target, f.target? = some target →
      target ∈ ids)
    {t : Table} (ht : t ∈ out) {q : QualifiedName} (hq : q ∈ t.references) :
    ∃ u ∈ out, u.name = q := by
  obtain ⟨id, hid, htable⟩ := hout.source t ht
  obtain ⟨f, hf, target, htarget, hname⟩ := Record.exists_target_of_mem htable hq
  obtain ⟨u, hu, hutable⟩ := hout.covers target (hclosed id hid f hf target htarget)
  refine ⟨u, hu, ?_⟩
  have hresolved : k.tableName target = .ok u.name := tableName_of_table hutable
  unfold tableName at hresolved
  rw [hname] at hresolved
  exact (Except.ok.inj hresolved).symm

end Declared

/-- A line that mentions a name which some line declares stands after the only line that declares
it.  If every record that a field of a listed record points to first is itself listed, then every
name that a line refers to is declared by exactly one line, an earlier one. -/
theorem declareSchema_declares_before_use (h : k.declareSchema ids = .ok text) :
    (∀ (i : Nat) (line n : String), (lines text)[i]? = some line → Mentions line n →
      (∃ l ∈ lines text, Declares l n) → DeclaredBefore (lines text) n i) ∧
    ((∀ id ∈ ids, ∀ f ∈ (k.catalog id).fields, ∀ target, f.target? = some target →
        target ∈ ids) →
      ∀ (i : Nat) (line n : String), (lines text)[i]? = some line → RefersTo line n →
        DeclaredBefore (lines text) n i) := by
  obtain ⟨out, hout, rfl⟩ := exists_declared h
  constructor
  · intro i line n hi hmentions hdeclared
    rw [hout.lines_script] at hi hdeclared
    rw [List.getElem?_map, Option.map_eq_some_iff] at hi
    obtain ⟨t, ht, rfl⟩ := hi
    obtain ⟨l, hl, hdeclares⟩ := hdeclared
    obtain ⟨u, hu, rfl⟩ := List.mem_map.mp hl
    have hform : u.WellFormed := hout.wellFormed u hu
    have hn : n = u.name.text := (declares_declaration_iff hform).mp hdeclares
    subst hn
    exact hout.declaredBefore ht hu (refersTo_of_mentions hform.name hmentions)
  · intro hclosed i line n hi hrefers
    rw [hout.lines_script, List.getElem?_map, Option.map_eq_some_iff] at hi
    obtain ⟨t, ht, rfl⟩ := hi
    have htout : t ∈ out := List.mem_of_getElem? ht
    obtain ⟨q, hq, rfl⟩ := exists_reference_of_refersTo (hout.wellFormed t htout) hrefers
    obtain ⟨u, hu, rfl⟩ := hout.exists_referred hclosed htout hq
    exact hout.declaredBefore ht hu hrefers

/-- The record of the second table points at that of the first one and is listed before it. -/
theorem declareSchema_declares_before_use_pair :
    let k : Compiler :=
      { catalog := .linked ["price", "trade"] fun id => if id = 1 then [0] else [] }
    let text := ".price:([])\n.trade:([]price:`.price$())\n"
    let line := ".trade:([]price:`.price$())"
    k.declareSchema [1, 0] = .ok text ∧ (lines text)[1]? = some line ∧
      RefersTo line ".price" ∧ DeclaredBefore (lines text) ".price" 1 := by
  intro k text line
  have h : k.declareSchema [1, 0] = .ok text := by cbv
  have hline : (lines text)[1]? = some line := by cbv
  have hmentions : Mentions line ".price" := ⟨by decide, ".trade:([]price:", ")", by decide⟩
  have hrefers : RefersTo line ".price" := ⟨hmentions, by decide⟩
  have hclosed : ∀ id ∈ [1, 0], ∀ f ∈ (k.catalog id).fields, ∀ target,
      f.target? = some target → target ∈ [1, 0] := by
    simp [k, Catalog.linked, Field.target?, Modifier.target?]
  exact ⟨h, hline, hrefers,
    (declareSchema_declares_before_use h).2 hclosed 1 line ".price" hline hrefers⟩

end Compiler

end KdbSchema
