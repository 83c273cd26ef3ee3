import KdbSchema.Proofs.Compile.Dependence
import KdbSchema.Proofs.Table.Field

/-!
# The default namespace

A default namespace does what a marker on every unmarked record would do.  It shows in the name of a
record and in the names of the records that its fields point to, so the marker has to be put on all
records that can be reached along foreign keys; these may refer to each other in circles.  A record
that has a marker, be it the empty one, keeps its name.
-/

namespace KdbSchema

/-- The record with the marker `space`, unless it has a marker already. -/
def Record.marked {ρ : Type} (space : String) (r : Record ρ) : Record ρ :=
  { r with marker := r.marker.or (some space) }

namespace Catalog

/-- A field of the record `a` carries a foreign key to the record `b`. -/
def Points (catalog : Catalog) (a b : RecordId) : Prop :=
  ∃ f ∈ (catalog a).fields, .foreignKey b ∈ f.modifiers

/-- The record `b` is listed, or foreign keys lead to it from a record that is. -/
def Reached (catalog : Catalog) (ids : List RecordId) (b : RecordId) : Prop :=
  ∃ a ∈ ids, Relation.ReflTransGen catalog.Points a b

end Catalog

namespace Compiler

variable {k : Compiler} {space : String} {ids : List RecordId} {id : RecordId}

def withDefault (k : Compiler) (space : String) : Compiler :=
  { k with config := { k.config with defaultNamespace := some space } }

/-! ## Records with a marker -/

theorem tableName_withDefault_of_marker (h : (k.catalog id).marker.isSome) :
    (k.withDefault space).tableName id = k.tableName id := by
  obtain ⟨marker, hmarker⟩ := Option.isSome_iff_exists.mp h
  refine tableName_congr rfl rfl ?_ rfl
  simp [withDefault, hmarker]

theorem agree_withDefault_of_markers
    (h : ∀ id ∈ ids, (k.catalog id).marker.isSome ∧
      ∀ f ∈ (k.catalog id).fields, ∀ target, f.target? = some target →
        (k.catalog target).marker.isSome) :
    Agree (k.withDefault space) k ids := by
  refine Agree.of_table rfl ?_
  intro id hid
  obtain ⟨hmarker, htargets⟩ := h id hid
  refine table_congr rfl rfl rfl (tableName_withDefault_of_marker hmarker) ?_
  intro f hf target htarget
  exact tableName_withDefault_of_marker (htargets f hf target htarget)

/-! ## Marking the others -/

section Marked

variable {marked : Catalog}
  (hmarked : ∀ id, k.catalog.Reached ids id → marked id = (k.catalog id).marked space)

include hmarked

theorem tableName_withDefault (hid : k.catalog.Reached ids id) :
    (k.withDefault space).tableName id = { k with catalog := marked : Compiler }.tableName id := by
  apply tableName_congr
  · simp [withDefault, hmarked id hid, Record.marked]
  · simp [withDefault, hmarked id hid, Record.marked]
  · cases hmarker : (k.catalog id).marker <;>
      simp [withDefault, hmarked id hid, Record.marked, hmarker]
  · rfl

theorem agree_withDefault :
    Agree (k.withDefault space) { k with catalog := marked } ids := by
  refine Agree.of_table rfl ?_
  intro id hid
  have hreached : k.catalog.Reached ids id := ⟨id, hid, .refl⟩
  have hrecord : marked id = (k.catalog id).marked space := hmarked id hreached
  apply table_congr
  · simp [withDefault, hrecord, Record.marked]
  · simp [withDefault, hrecord, Record.marked]
  · rfl
  · exact tableName_withDefault hmarked hreached
  · intro f hf target htarget
    have hpoints : k.catalog.Points id target := by
      simp only [hrecord, Record.marked] at hf
      exact ⟨f, hf, Field.mem_modifiers_of_target htarget⟩
    exact tableName_withDefault hmarked ⟨id, hid, .single hpoints⟩

end Marked

/-- Under a default namespace every request ends as it does without it where each record that can be
reached from the listed ones, and has no marker, is given the default as its marker.  In particular
a record with a marker keeps its name, and requests for records that have markers themselves and
point to records with markers end as they do without the default. -/
theorem default_namespace_marks (k : Compiler) (space : String) (ids : List RecordId) :
    (∀ marked : Catalog,
      (∀ id, k.catalog.Reached ids id → marked id = (k.catalog id).marked space) →
      Agree (k.withDefault space) { k with catalog := marked } ids) ∧
    (∀ id, (k.catalog id).marker.isSome →
      (k.withDefault space).tableName id = k.tableName id) ∧
    ((∀ id ∈ ids, (k.catalog id).marker.isSome ∧
      ∀ f ∈ (k.catalog id).fields, ∀ target, f.target? = some target →
        (k.catalog target).marker.isSome) →
      Agree (k.withDefault space) k ids) := by
  refine ⟨?_, ?_, ?_⟩
  · intro marked hmarked
    exact agree_withDefault hmarked
  · intro id hmarker
    exact tableName_withDefault_of_marker hmarker
  · intro h
    exact agree_withDefault_of_markers h

/-- Two records point at each other, and the empty marker keeps one of them in the root.  The circle
is told from that one on, whether the other record has its namespace by default or by a marker.  A
third record has a marker of its own. -/
theorem default_namespace_marks_circle :
    let trade : Record RecordId :=
      { ident := "Trade"
        fields := [{ ident := "Venue", type := .unsupported "Venue", modifiers := [.foreignKey 1] }] }
    let venue : Record RecordId :=
      { ident := "Venue", marker := some ""
        fields := [{ ident := "Main", type := .primitive .int64, modifiers := [.foreignKey 0] }] }
    let audit : Record RecordId := { ident := "Audit", marker := some "ref" }
    let k : Compiler := { catalog := fun id => [trade, venue].getD id audit }
    let marked : Catalog := fun id => [{ trade with marker := some "mkt" }, venue].getD id audit
    let e : Failure := .cycle [⟨none, "venue"⟩, ⟨some "mkt", "trade"⟩, ⟨none, "venue"⟩]
    (∀ id, k.catalog.Reached [0, 1] id → marked id = (k.catalog id).marked "mkt") ∧
      (k.withDefault "mkt").declareSchema [0, 1] = .error e ∧
      { k with catalog := marked : Compiler }.declareSchema [0, 1] = .error e ∧
      (k.withDefault "mkt").tableName 1 = .ok ⟨none, "venue"⟩ ∧
      (k.withDefault "mkt").declareTable 2 = .ok ".ref.audit:([])" := by
  intro trade venue audit k marked e
  have hmarked : ∀ id, k.catalog.Reached [0, 1] id → marked id = (k.catalog id).marked "mkt" := by
    rintro (_ | _ | id) _ <;> rfl
  have hcircle : { k with catalog := marked : Compiler }.declareSchema [0, 1] = .error e := by
    let t : Table :=
      { record := "Trade", name := ⟨some "mkt", "trade"⟩
        values := [{ name := "venue", type := .reference ⟨none, "venue"⟩, role := .foreignKey }] }
    let u : Table :=
      { record := "Venue", name := ⟨none, "venue"⟩
        values :=
          [{ name := "main", type := .reference ⟨some "mkt", "trade"⟩, role := .foreignKey }] }
    have htables : [0, 1].eraseDups.mapM { k with catalog := marked : Compiler }.table =
        .ok [t, u] := by decide +kernel
    have horder : orderTables [t, u] = .error e := by cbv
    exact declareSchema_eq_error_iff.mpr (order_eq_error_iff.mpr (Or.inr ⟨_, htables, horder⟩))
  have hvenue : k.tableName 1 = .ok ⟨none, "venue"⟩ := by decide +kernel
  have haudit : k.declareTable 2 = .ok ".ref.audit:([])" := by decide +kernel
  have hagree := (default_namespace_marks k "mkt" [0, 1]).1 marked hmarked
  have hname := (default_namespace_marks k "mkt" [0, 1]).2.1 1 rfl
  have halone := (default_namespace_marks k "mkt" [2]).2.2 (by
    intro id hid
    obtain rfl := List.mem_singleton.mp hid
    exact ⟨rfl, fun f hf => absurd hf List.not_mem_nil⟩)
  have haudit_alone := halone.declareTable 2 (List.mem_singleton.mpr rfl)
  exact ⟨hmarked, hagree.declareSchema.trans hcircle, hcircle, hname.trans hvenue,
    haudit_alone.trans haudit⟩

end Compiler

end KdbSchema
