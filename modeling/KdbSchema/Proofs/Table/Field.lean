import KdbSchema.Table.Column
import KdbSchema.Proofs.Outcome

/-!
# What the modifiers of a field say

The modifiers of a field are asked one question at a time: whether it is a key, whether it is
unique, which record it points to first, which placements and which other tags it asks for.  The
answers decide whether the parts of a column exist, its placement, its tag and its type, and what
they are.
-/

namespace KdbSchema

variable {catalog : Catalog} {config : Config} {record : String} {f : Field RecordId}

/-! ## What the modifiers say -/

theorem Field.isKey_eq_true_iff : f.isKey = true ↔ .key ∈ f.modifiers := by
  unfold Field.isKey
  rw [List.any_eq_true]
  constructor
  · rintro ⟨m, hm, hkey⟩
    cases m <;> simp at hkey
    exact hm
  · intro hkey
    exact ⟨.key, hkey, rfl⟩

theorem Field.isUnique_eq_true_iff : f.isUnique = true ↔ .unique ∈ f.modifiers := by
  unfold Field.isUnique
  rw [List.any_eq_true]
  constructor
  · rintro ⟨m, hm, hunique⟩
    cases m <;> simp at hunique
    exact hm
  · intro hunique
    exact ⟨.unique, hunique, rfl⟩

theorem Field.target?_eq_none_iff :
    f.target? = none ↔ ∀ target, .foreignKey target ∉ f.modifiers := by
  unfold Field.target?
  rw [List.findSome?_eq_none_iff]
  constructor
  · intro h target hmem
    cases h _ hmem
  · intro h m hm
    cases m with
    | foreignKey target => exact absurd hm (h target)
    | _ => rfl

theorem Field.mem_modifiers_of_target {target : RecordId} (h : f.target? = some target) :
    .foreignKey target ∈ f.modifiers := by
  obtain ⟨m, hm, htarget⟩ := List.exists_of_findSome?_eq_some h
  cases m <;> simp [Modifier.target?] at htarget
  rwa [htarget] at hm

/-! ## The parts of a column -/

theorem Field.placement_eq_ok_iff {p : Placement} :
    f.placement = .ok p ↔
      (f.placements = [] ∧ .none = p) ∨
        (f.placements = [p] ∧ f.target? = none ∧ (∃ type, f.type = .primitive type) ∧
          f.isUnique = false) := by
  unfold Field.placement
  cases f.placements with
  | nil => simp
  | cons q qs =>
      cases qs with
      | nil => cases f.target? <;> cases f.type <;> cases f.isUnique <;> simp
      | cons => simp

theorem Field.tag_eq_ok_iff {tag : Tag} :
    f.tag record = .ok tag ↔
      ∃ p, f.type = .primitive p ∧
        ((f.overrides = [] ∧ p.tag none = tag) ∨
          ∃ o, f.overrides = [o] ∧ p.accepts o = true ∧ p.tag (some o) = tag) := by
  unfold Field.tag
  cases f.type with
  | unsupported name => simp
  | primitive p =>
      cases f.overrides with
      | nil => simp
      | cons o os =>
          cases os with
          | nil => cases haccepts : p.accepts o <;> simp [haccepts]
          | cons => simp

theorem Field.columnType_eq_ok_iff {type : ColumnType} :
    f.columnType catalog config record = .ok type ↔
      (∃ target q, f.target? = some target ∧ f.overrides = [] ∧
        (catalog target).qualifiedName config = .ok q ∧ .reference q = type) ∨
      (f.target? = none ∧ ∃ tag, f.tag record = .ok tag ∧ .atomic tag = type) := by
  unfold Field.columnType
  cases f.target? with
  | none => simp [Except.map_eq_ok_iff]
  | some target =>
      by_cases hoverrides : f.overrides = []
      · simp [hoverrides, Except.map_eq_ok_iff]
      · simp [hoverrides]

end KdbSchema
