import KdbSchema.Source.Grammar.Nesting
import Mathlib.Tactic

/-!
# Classification of types

References, parentheses, groups and optional types are layers around a type.  Every type is one core
inside a list of layers, in one way only.  What a field of the type holds depends on the core alone,
and whether it may lack a value depends on the core and on whether one of the layers is optional.
-/

namespace KdbSchema.Source

inductive TypeLayer where
  | reference (mark : String)
  | parentheses
  | group
  /-- A path that ends in the optional type with the inner type for its only argument. -/
  | option (lead opening closing : String)

namespace TypeLayer

def around : TypeLayer → TypeExpr → TypeExpr
  | reference mark, t => .reference mark t
  | parentheses, t => .parenthesised t
  | group, t => .grouped t
  | option lead opening closing, t => .applied lead TypeExpr.optionalName opening t closing

def isOption : TypeLayer → Bool
  | option _ _ _ => true
  | _ => false

theorem around_injective {l m : TypeLayer} {t u : TypeExpr} (h : l.around t = m.around u) :
    l = m ∧ t = u := by
  cases l <;> cases m <;> simp_all [around]

theorem fieldType_around (l : TypeLayer) (t : TypeExpr) : (l.around t).fieldType = t.fieldType := by
  cases l with
  | reference mark => rfl
  | parentheses => rfl
  | group => rfl
  | option lead opening closing => simp [around, TypeExpr.fieldType]

theorem isOptional_around (l : TypeLayer) (t : TypeExpr) :
    (l.around t).isOptional = (l.isOption || t.isOptional) := by
  cases l with
  | reference mark => rfl
  | parentheses => rfl
  | group => rfl
  | option lead opening closing => simp [around, isOption, TypeExpr.isOptional]

end TypeLayer

namespace TypeExpr

variable {t core : TypeExpr} {layers : List TypeLayer} {p : Primitive}

/-- The type inside layers, the first of which is the outermost. -/
def within (layers : List TypeLayer) (t : TypeExpr) : TypeExpr := layers.foldr TypeLayer.around t

/-- A type that is no layer around another one. -/
def IsCore (t : TypeExpr) : Prop := ∀ (l : TypeLayer) (inner : TypeExpr), t ≠ l.around inner

theorem within_cons (l : TypeLayer) (layers : List TypeLayer) (t : TypeExpr) :
    within (l :: layers) t = l.around (within layers t) := rfl

/-! ## The core of a type -/

theorem isCore_or_around (t : TypeExpr) : t.IsCore ∨ ∃ (l : TypeLayer) (inner : TypeExpr),
    t = l.around inner := by
  by_cases h : ∃ (l : TypeLayer) (inner : TypeExpr), t = l.around inner
  · exact Or.inr h
  · left
    intro l inner heq
    exact h ⟨l, inner, heq⟩

theorem exists_core (t : TypeExpr) : ∃ layers core, core.IsCore ∧ within layers core = t := by
  rcases isCore_or_around t with hcore | ⟨l, inner, heq⟩
  · exact ⟨[], t, hcore, rfl⟩
  · obtain ⟨layers, core, hcore, hinner⟩ := exists_core inner
    refine ⟨l :: layers, core, hcore, ?_⟩
    rw [within_cons, hinner, heq]
termination_by sizeOf t
decreasing_by
  subst heq
  cases l <;> simp [TypeLayer.around]; omega

theorem core_unique {layers' : List TypeLayer} {core' : TypeExpr} (hcore : core.IsCore)
    (hcore' : core'.IsCore) (h : within layers core = within layers' core') :
    layers = layers' ∧ core = core' := by
  induction layers generalizing layers' with
  | nil =>
      cases layers' with
      | nil => exact ⟨rfl, h⟩
      | cons m layers' => exact absurd h (hcore m _)
  | cons l layers ih =>
      cases layers' with
      | nil => exact absurd h.symm (hcore' l _)
      | cons m layers' =>
          obtain ⟨rfl, hinner⟩ := TypeLayer.around_injective h
          obtain ⟨rfl, rfl⟩ := ih hinner
          exact ⟨rfl, rfl⟩

/-- Every type is a core inside layers, in one way only. -/
theorem existsUnique_core (t : TypeExpr) :
    ∃! parts : List TypeLayer × TypeExpr, parts.2.IsCore ∧ within parts.1 parts.2 = t := by
  obtain ⟨layers, core, hcore, rfl⟩ := exists_core t
  refine ⟨(layers, core), ⟨hcore, rfl⟩, ?_⟩
  rintro ⟨layers', core'⟩ ⟨hcore', h⟩
  obtain ⟨rfl, rfl⟩ := core_unique hcore' hcore h
  rfl

/-! ## What is seen through the layers -/

theorem fieldType_within (layers : List TypeLayer) (t : TypeExpr) :
    (within layers t).fieldType = t.fieldType := by
  induction layers with
  | nil => rfl
  | cons l layers ih => rw [within_cons, l.fieldType_around, ih]

theorem isOptional_within (layers : List TypeLayer) (t : TypeExpr) :
    (within layers t).isOptional = (layers.any TypeLayer.isOption || t.isOptional) := by
  induction layers with
  | nil => rfl
  | cons l layers ih => rw [within_cons, l.isOptional_around, ih, List.any_cons, Bool.or_assoc]

/-- A core holds what its name stands for, if it is a path to a known name without arguments, and
otherwise nothing that is known. -/
theorem IsCore.fieldType_cases (hcore : core.IsCore) :
    (∃ lead name p, core = .named lead name ∧ primitive? name = some p ∧
      core.fieldType = .primitive p) ∨
    (∀ lead name, core = .named lead name → primitive? name = none) ∧
      core.fieldType = .unsupported core.text := by
  cases core with
  | reference mark target => exact absurd rfl (hcore (.reference mark) target)
  | parenthesised inner => exact absurd rfl (hcore .parentheses inner)
  | grouped inner => exact absurd rfl (hcore .group inner)
  | named lead name =>
      cases hname : primitive? name with
      | none => simp [fieldType, text, hname]
      | some p => exact Or.inl ⟨lead, name, p, rfl, hname, by simp [fieldType, hname]⟩
  | applied lead name opening argument closing =>
      have hname : name ≠ optionalName := by
        rintro rfl
        exact hcore (.option lead opening closing) argument rfl
      simp [fieldType, hname]
  | compound lead name arguments => simp [fieldType, text]
  | other written => simp [fieldType, text]

theorem IsCore.fieldType_eq_primitive_iff (hcore : core.IsCore) :
    core.fieldType = .primitive p ↔
      ∃ lead name, core = .named lead name ∧ primitive? name = some p := by
  constructor
  · intro h
    rcases hcore.fieldType_cases with ⟨lead, name, q, hcore, hname, hq⟩ | ⟨_, hnone⟩
    · rw [h, FieldType.primitive.injEq] at hq
      exact ⟨lead, name, hcore, hq ▸ hname⟩
    · rw [h] at hnone
      cases hnone
  · rintro ⟨lead, name, rfl, hname⟩
    simp [fieldType, hname]

/-- However many references, parentheses, groups and optional types stand around a core, a field
holds what the core says: a semantic type exactly if the core is a path that ends in a known name
without arguments, and otherwise nothing known, told by the text of the core alone.  It may lack a
value exactly if one of the layers is an optional type or the core itself says so. -/
theorem classified_by_core (layers : List TypeLayer) (core : TypeExpr) (hcore : core.IsCore) :
    (within layers core).fieldType = core.fieldType ∧
    ((within layers core).isOptional = true ↔
      (∃ l ∈ layers, l.isOption = true) ∨ core.isOptional = true) ∧
    (∀ p, core.fieldType = .primitive p ↔
      ∃ lead name, core = .named lead name ∧ primitive? name = some p) ∧
    ((¬ ∃ lead name p, core = .named lead name ∧ primitive? name = some p) →
      core.fieldType = .unsupported core.text) := by
  refine ⟨fieldType_within layers core, ?_, fun p => hcore.fieldType_eq_primitive_iff, ?_⟩
  · rw [isOptional_within, Bool.or_eq_true, List.any_eq_true]
  · intro hunknown
    rcases hcore.fieldType_cases with ⟨lead, name, p, hcore, hname, _⟩ | ⟨_, hnone⟩
    · exact absurd ⟨lead, name, p, hcore, hname⟩ hunknown
    · exact hnone

/-- An option inside a reference and parentheses holds the time that its argument names.  Around an
option that has two arguments the same layers hold nothing known. -/
theorem classified_by_core_nested :
    let layers : List TypeLayer :=
      [.reference "&'amut", .parentheses, .option "std::option::" "<" ">", .reference "&"]
    let known : TypeExpr := .named "chrono::" "NaiveDateTime"
    let unknown : TypeExpr := .compound "" "Option" "<A,B>"
    known.IsCore ∧ unknown.IsCore ∧
      Grammar.readText? (fun i => Grammar.typeExpr i true)
        "&'a mut (std::option::Option<&chrono::NaiveDateTime>)" = some (within layers known) ∧
      (within layers known).fieldType = .primitive .timestamp ∧
      (within layers known).isOptional = true ∧
      (within layers unknown).fieldType = .unsupported "Option<A,B>" ∧
      unknown.isOptional = true := by
  intro layers known unknown
  have hknown : known.IsCore := by
    intro l inner h
    cases l <;> simp [known, TypeLayer.around] at h
  have hunknown : unknown.IsCore := by
    intro l inner h
    cases l <;> simp [unknown, TypeLayer.around] at h
  obtain ⟨hsame, hoptional, hkind, _⟩ := classified_by_core layers known hknown
  obtain ⟨hsame', _, _, hrest⟩ := classified_by_core layers unknown hunknown
  refine ⟨hknown, hunknown, by decide +kernel, ?_, ?_, ?_, rfl⟩
  · rw [hsame, hkind]
    exact ⟨"chrono::", "NaiveDateTime", rfl, rfl⟩
  · rw [hoptional]
    exact Or.inl ⟨.option "std::option::" "<" ">", by simp [layers], rfl⟩
  · rw [hsame', hrest (by simp [unknown])]
    rfl

end TypeExpr

end KdbSchema.Source
