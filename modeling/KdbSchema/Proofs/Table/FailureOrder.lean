import KdbSchema.Proofs.Table.Admission

/-!
# Which fault of a field is told

A field can break several rules at once, and one of them is told.  Four checks are made of it: its
placement, the form of its name, its type, and last whether an earlier column has the name already.
The first check that fails gives the failure of the field, and the first field that fails gives the
failure of the record.

A name that repeats an earlier one is a fault of the name, so it might be looked for before the
type.  That order tells something else exactly for a field whose name is well formed but repeated
and whose type has a fault as well: it tells the name, while the checks tell the type.
-/

namespace KdbSchema

variable {catalog : Catalog} {config : Config} {record : String} {taken : List String}
  {f : Field RecordId} {e : Failure}

/-! ## Faults of the placement and of the type -/

inductive Field.Misplaced (f : Field RecordId) : PlacementFault → Prop
  | several (h : 2 ≤ f.placements.length) : Misplaced f .several
  | onForeignKey {p : Placement} {target : RecordId} (h : f.placements = [p])
      (htarget : f.target? = some target) : Misplaced f (.onForeignKey p)
  | onCompound {p : Placement} {name : String} (h : f.placements = [p])
      (hplain : f.target? = none) (htype : f.type = .unsupported name) :
      Misplaced f (.onCompound p name)
  | withUnique {p : Placement} {type : Primitive} (h : f.placements = [p])
      (hplain : f.target? = none) (htype : f.type = .primitive type)
      (hunique : f.isUnique = true) : Misplaced f (.withUnique p)

theorem Field.placement_eq_error_iff {reason : PlacementFault} :
    f.placement = .error reason ↔ f.Misplaced reason := by
  constructor
  · intro h
    unfold Field.placement at h
    cases hplacements : f.placements with
    | nil => simp [hplacements] at h
    | cons p ps =>
        cases ps with
        | cons q qs =>
            simp only [hplacements, Except.error.injEq] at h
            subst reason
            exact .several (by simp [hplacements])
        | nil =>
            cases htarget : f.target? with
            | some target =>
                simp [hplacements, htarget] at h
                subst reason
                exact .onForeignKey hplacements htarget
            | none =>
                cases htype : f.type with
                | unsupported name =>
                    simp [hplacements, htarget, htype] at h
                    subst reason
                    exact .onCompound hplacements htarget htype
                | primitive type =>
                    cases hunique : f.isUnique with
                    | false => simp [hplacements, htarget, htype, hunique] at h
                    | true =>
                        simp [hplacements, htarget, htype, hunique] at h
                        subst reason
                        exact .withUnique hplacements htarget htype hunique
  · intro h
    unfold Field.placement
    cases h with
    | several h =>
        match f.placements, h with
        | p :: q :: ps, _ => rfl
    | onForeignKey h htarget => simp [h, htarget]
    | onCompound h hplain htype => simp [h, hplain, htype]
    | withUnique h hplain htype hunique => simp [h, hplain, htype, hunique]

inductive Field.Mistyped (catalog : Catalog) (config : Config) (record : String)
    (f : Field RecordId) : Failure → Prop
  | unsupported {name : String} (hplain : f.target? = none) (htype : f.type = .unsupported name) :
      Mistyped catalog config record f (.unsupportedType record f.columnName name)
  | several {type : Primitive} (hplain : f.target? = none) (htype : f.type = .primitive type)
      (h : 2 ≤ f.overrides.length) :
      Mistyped catalog config record f (.override record f.columnName .several)
  | inapplicable {type : Primitive} {o : Override} (hplain : f.target? = none)
      (htype : f.type = .primitive type) (h : f.overrides = [o]) (ho : type.accepts o = false) :
      Mistyped catalog config record f (.override record f.columnName (.inapplicable o type))
  | onForeignKey {target : RecordId} (htarget : f.target? = some target) (h : f.overrides ≠ []) :
      Mistyped catalog config record f (.override record f.columnName .onForeignKey)
  | target {target : RecordId} {name : String} {reason : NameViolation}
      (htarget : f.target? = some target) (h : f.overrides = [])
      (hname : (catalog target).qualifiedName config =
        .error (.tableName (catalog target).ident name reason)) :
      Mistyped catalog config record f (.tableName (catalog target).ident name reason)

theorem Record.names_self_of_qualifiedName_error {r : Record RecordId}
    (h : r.qualifiedName config = .error e) :
    ∃ name reason, e = .tableName r.ident name reason := by
  rcases Record.qualifiedName_eq_error_iff.mp h with ⟨reason, _, he⟩ | ⟨_, s, reason, _, _, he⟩
  · exact ⟨_, reason, he⟩
  · exact ⟨s, reason, he⟩

theorem Field.tag_eq_error_iff (hplain : f.target? = none) :
    f.tag record = .error e ↔ f.Mistyped catalog config record e := by
  constructor
  · intro h
    unfold Field.tag at h
    cases htype : f.type with
    | unsupported name =>
        simp only [htype, Except.error.injEq] at h
        subst e
        exact .unsupported hplain htype
    | primitive type =>
        match hoverrides : f.overrides with
        | [] => simp [htype, hoverrides] at h
        | [o] =>
            cases ho : type.accepts o with
            | true => simp [htype, hoverrides, ho] at h
            | false =>
                simp [htype, hoverrides, ho] at h
                subst e
                exact .inapplicable hplain htype hoverrides ho
        | o :: o' :: os =>
            simp only [htype, hoverrides, Except.error.injEq] at h
            subst e
            exact .several hplain htype (by simp [hoverrides])
  · intro h
    unfold Field.tag
    cases h with
    | unsupported _ htype => simp [htype]
    | several _ htype h =>
        match f.overrides, h with
        | o :: o' :: os, _ => simp [htype]
    | inapplicable _ htype h ho => simp [htype, h, ho]
    | onForeignKey htarget | target htarget => simp [hplain] at htarget

theorem Field.columnType_eq_error_iff :
    f.columnType catalog config record = .error e ↔ f.Mistyped catalog config record e := by
  cases htarget : f.target? with
  | none =>
      simp only [Field.columnType, htarget, Except.map_eq_error_iff]
      exact Field.tag_eq_error_iff htarget
  | some target =>
      unfold Field.columnType
      constructor
      · intro h
        by_cases hoverrides : f.overrides = []
        · simp [htarget, hoverrides, Except.map_eq_error_iff] at h
          obtain ⟨name, reason, rfl⟩ := Record.names_self_of_qualifiedName_error h
          exact .target htarget hoverrides h
        · simp [htarget, hoverrides] at h
          subst e
          exact .onForeignKey htarget hoverrides
      · intro h
        cases h with
        | unsupported hplain | several hplain | inapplicable hplain => simp [htarget] at hplain
        | onForeignKey _ h => simp [htarget, h]
        | target hfirst h hname =>
            rw [htarget, Option.some.injEq] at hfirst
            simp [htarget, h, hfirst, hname, Except.map]

/-! ## Checks and their order -/

inductive FieldCheck where
  | placement
  | name
  | type
  | repetition

def FieldCheck.performed : List FieldCheck := [placement, name, type, repetition]

/-- The order in which all that concerns the name comes before the type. -/
def FieldCheck.namesFirst : List FieldCheck := [placement, name, repetition, type]

/-- A check of a field fails.  The field comes after columns with the names `taken`. -/
def Field.Fails (catalog : Catalog) (config : Config) (record : String) (taken : List String)
    (f : Field RecordId) : FieldCheck → Failure → Prop
  | .placement, e => ∃ reason, f.Misplaced reason ∧ .placement record f.columnName reason = e
  | .name, e => ∃ reason, checkName .column config.reserved.columns f.columnName = .error reason ∧
      .columnName record f.columnName reason = e
  | .type, e => f.Mistyped catalog config record e
  | .repetition, e => f.columnName ∈ taken ∧ .columnName record f.columnName .duplicate = e

def Field.FirstFails (catalog : Catalog) (config : Config) (record : String) (taken : List String)
    (f : Field RecordId) : List FieldCheck → Failure → Prop
  | [], _ => False
  | check :: checks, e =>
      f.Fails catalog config record taken check e ∨
        (∀ e', ¬ f.Fails catalog config record taken check e') ∧
          f.FirstFails catalog config record taken checks e

theorem Field.fails_placement_iff :
    f.Fails catalog config record taken .placement e ↔
      f.placement.mapError (.placement record f.columnName) = .error e := by
  simp only [Field.Fails, Except.mapError_eq_error_iff, Field.placement_eq_error_iff]

theorem Field.fails_name_iff :
    f.Fails catalog config record taken .name e ↔
      (checkName .column config.reserved.columns f.columnName).mapError
        (.columnName record f.columnName) = .error e := by
  simp only [Field.Fails, Except.mapError_eq_error_iff]

theorem Field.fails_type_iff :
    f.Fails catalog config record taken .type e ↔
      f.columnType catalog config record = .error e := by
  simp only [Field.Fails, Field.columnType_eq_error_iff]

theorem Field.column_eq_error_iff :
    f.column catalog config record = .error e ↔
      f.FirstFails catalog config record taken [.placement, .name, .type] e := by
  simp only [Field.FirstFails, Field.fails_placement_iff, Field.fails_name_iff,
    Field.fails_type_iff]
  unfold Field.column
  refine Except.bind_eq_error_iff_of_forall fun placement => ?_
  refine Except.bind_eq_error_iff_of_forall fun _ => ?_
  refine Except.bind_eq_error_iff_of_forall fun type => ?_
  simp [pure, Except.pure]

/-- A check that is made last fails only where no other check does. -/
theorem Field.firstFails_concat_iff {checks : List FieldCheck} {check : FieldCheck} :
    f.FirstFails catalog config record taken (checks ++ [check]) e ↔
      f.FirstFails catalog config record taken checks e ∨
        (∀ e', ¬ f.FirstFails catalog config record taken checks e') ∧
          f.Fails catalog config record taken check e := by
  induction checks with
  | nil => simp [Field.FirstFails]
  | cons head checks ih =>
      simp only [List.cons_append, Field.FirstFails, ih]
      by_cases hhead : ∃ e', f.Fails catalog config record taken head e'
      · obtain ⟨e', he'⟩ := hhead
        have hnot : ¬ ∀ e'', ¬ f.Fails catalog config record taken head e'' := fun h => h e' he'
        simp [hnot]
      · have hnone : ∀ e', ¬ f.Fails catalog config record taken head e' := not_exists.mp hhead
        simp [hnone]

theorem Field.firstFails_performed_iff :
    f.FirstFails catalog config record taken FieldCheck.performed e ↔
      f.column catalog config record = .error e ∨
        (∀ e', f.column catalog config record ≠ .error e') ∧ f.columnName ∈ taken ∧
          .columnName record f.columnName .duplicate = e := by
  have hlast : FieldCheck.performed = [.placement, .name, .type] ++ [.repetition] := rfl
  rw [hlast, Field.firstFails_concat_iff]
  simp only [ne_eq, @Field.column_eq_error_iff catalog config record taken]
  rfl

/-! ## The first field that fails -/

theorem Field.columns_eq_error_iff {fs : List (Field RecordId)} :
    Field.columns catalog config record taken fs = .error e ↔
      ∃ before f after, fs = before ++ f :: after ∧
        (∀ g ∈ before, ∃ c, g.column catalog config record = .ok c) ∧
        (before.map Field.columnName).Nodup ∧ (∀ g ∈ before, g.columnName ∉ taken) ∧
        f.FirstFails catalog config record ((before.map Field.columnName).reverse ++ taken)
          FieldCheck.performed e := by
  -- Each field that passes puts its name in front of the taken ones, so they stand in reverse.
  induction fs generalizing taken with
  | nil => simp [Field.columns]
  | cons g fs ih =>
      rw [Field.columns, Except.bind_eq_error_iff]
      constructor
      · rintro (hg | ⟨c, hc, hrest⟩)
        · refine ⟨[], g, fs, rfl, by simp, by simp, by simp, ?_⟩
          exact Field.firstFails_performed_iff.mpr (Or.inl hg)
        · have hname : c.name = g.columnName := (Field.column_eq_ok_iff.mp hc).2.2.2.1
          rw [hname] at hrest
          by_cases htaken : g.columnName ∈ taken
          · rw [if_pos htaken] at hrest
            cases hrest
            refine ⟨[], g, fs, rfl, by simp, by simp, by simp, ?_⟩
            exact Field.firstFails_performed_iff.mpr (Or.inr ⟨by simp [hc], htaken, rfl⟩)
          · rw [if_neg htaken] at hrest
            rcases Except.bind_eq_error_iff.mp hrest with hcs | ⟨cs, _, hpure⟩
            · obtain ⟨before, f, after, rfl, hcolumns, hnodup, hfresh, hfails⟩ := ih.mp hcs
              simp only [List.mem_cons, not_or] at hfresh
              refine ⟨g :: before, f, after, rfl, ?_, ?_, ?_, by simpa using hfails⟩
              · exact List.forall_mem_cons.mpr ⟨⟨c, hc⟩, hcolumns⟩
              · rw [List.map_cons, List.nodup_cons]
                refine ⟨?_, hnodup⟩
                intro hmem
                rcases List.mem_map.mp hmem with ⟨h, hh, heq⟩
                exact (hfresh h hh).1 heq
              · exact List.forall_mem_cons.mpr ⟨htaken, fun h hh => (hfresh h hh).2⟩
            · cases hpure
      · rintro ⟨before, f, after, hsplit, hcolumns, hnodup, hfresh, hfails⟩
        cases before with
        | nil =>
            obtain ⟨rfl, rfl⟩ := List.cons_eq_cons.mp hsplit
            rcases Field.firstFails_performed_iff.mp hfails with hg | ⟨hok, htaken, rfl⟩
            · exact Or.inl hg
            · cases hc : g.column catalog config record with
              | error e' => exact absurd hc (hok e')
              | ok c =>
                  have hname : c.name = g.columnName := (Field.column_eq_ok_iff.mp hc).2.2.2.1
                  refine Or.inr ⟨c, rfl, ?_⟩
                  rw [hname, if_pos (by simpa using htaken)]
                  rfl
        | cons h before =>
            obtain ⟨rfl, rfl⟩ := List.cons_eq_cons.mp hsplit
            obtain ⟨⟨c, hc⟩, hcolumns⟩ := List.forall_mem_cons.mp hcolumns
            obtain ⟨htaken, hfresh⟩ := List.forall_mem_cons.mp hfresh
            rw [List.map_cons, List.nodup_cons] at hnodup
            have hname : c.name = g.columnName := (Field.column_eq_ok_iff.mp hc).2.2.2.1
            refine Or.inr ⟨c, hc, ?_⟩
            rw [hname, if_neg htaken]
            refine Except.bind_eq_error_iff.mpr (Or.inl (ih.mpr ?_))
            refine ⟨before, f, after, rfl, hcolumns, hnodup.2, ?_, by simpa using hfails⟩
            intro h hh
            have hne : h.columnName ≠ g.columnName :=
              fun heq => hnodup.1 (heq ▸ List.mem_map_of_mem hh)
            simp [hne, hfresh h hh]

/-- A field of a record is the first one that breaks a rule or repeats the name of an earlier one.
The fields before it are given. -/
structure Record.FirstFaulty (catalog : Catalog) (config : Config) (r : Record RecordId)
    (before : List (Field RecordId)) (f : Field RecordId) : Prop where
  position : before ++ [f] <+: r.fields
  admissible : ∀ g ∈ before, g.Admissible catalog config
  distinct : (before.map Field.columnName).Nodup
  faulty : f.Admissible catalog config → f.columnName ∈ before.map Field.columnName

variable {r : Record RecordId} {before : List (Field RecordId)}

theorem Field.firstFails_congr {taken' : List String} {checks : List FieldCheck}
    (h : f.columnName ∈ taken ↔ f.columnName ∈ taken') :
    f.FirstFails catalog config record taken checks e ↔
      f.FirstFails catalog config record taken' checks e := by
  have hfails : ∀ check e, f.Fails catalog config record taken check e ↔
      f.Fails catalog config record taken' check e := by
    intro check e
    cases check with
    | repetition => simp only [Field.Fails, h]
    | _ => rfl
  induction checks with
  | nil => rfl
  | cons check checks ih => simp only [Field.FirstFails, hfails, ih]

theorem Field.exists_firstFails_iff :
    (∃ e, f.FirstFails catalog config record taken FieldCheck.performed e) ↔
      (f.Admissible catalog config → f.columnName ∈ taken) := by
  simp only [Field.firstFails_performed_iff, ← @Field.exists_column_iff catalog config record]
  cases f.column catalog config record with
  | error e => simp
  | ok c => simp

theorem Record.columns_eq_error_iff :
    r.columns catalog config = .error e ↔
      ∃ before f, r.FirstFaulty catalog config before f ∧
        f.FirstFails catalog config r.ident (before.map Field.columnName)
          FieldCheck.performed e := by
  have hreverse : ∀ (before : List (Field RecordId)) (f : Field RecordId),
      f.columnName ∈ (before.map Field.columnName).reverse ++ [] ↔
        f.columnName ∈ before.map Field.columnName := by simp
  unfold Record.columns
  rw [Field.columns_eq_error_iff]
  constructor
  · rintro ⟨before, f, after, hsplit, hcolumns, hnodup, _, hfails⟩
    rw [Field.firstFails_congr (hreverse before f)] at hfails
    refine ⟨before, f, ⟨⟨after, by simp [hsplit]⟩, ?_, hnodup, ?_⟩, hfails⟩
    · exact fun g hg => Field.exists_column_iff.mp (hcolumns g hg)
    · exact Field.exists_firstFails_iff.mp ⟨e, hfails⟩
  · rintro ⟨before, f, hfaulty, hfails⟩
    obtain ⟨after, hsplit⟩ := hfaulty.position
    rw [← Field.firstFails_congr (hreverse before f)] at hfails
    refine ⟨before, f, after, by simp [← hsplit], ?_, hfaulty.distinct, by simp, hfails⟩
    exact fun g hg => Field.exists_column_iff.mpr (hfaulty.admissible g hg)

theorem Record.FirstFaulty.columns_eq_error_iff (h : r.FirstFaulty catalog config before f) :
    r.columns catalog config = .error e ↔
      f.FirstFails catalog config r.ident (before.map Field.columnName)
        FieldCheck.performed e := by
  have hfails : ∀ e, f.FirstFails catalog config r.ident (before.map Field.columnName)
      FieldCheck.performed e → r.columns catalog config = .error e :=
    fun e he => Record.columns_eq_error_iff.mpr ⟨before, f, h, he⟩
  refine ⟨fun he => ?_, hfails e⟩
  obtain ⟨e', he'⟩ := Field.exists_firstFails_iff.mpr h.faulty
  have heq := (hfails e' he').symm.trans he
  cases heq
  exact he'

theorem Record.firstFaulty_second {g : Field RecordId} {c : Column} (hfields : r.fields = [g, f])
    (hcolumn : g.column catalog config r.ident = .ok c) (hname : f.columnName = g.columnName) :
    r.FirstFaulty catalog config [g] f where
  position := by simp [hfields]
  admissible := by
    intro h hh
    rw [List.mem_singleton.mp hh]
    exact Field.exists_column_iff.mp ⟨c, hcolumn⟩
  distinct := by simp
  faulty := by simp [hname]

/-! ## The other order -/

/-- The type of a field has a fault and its name, which is well formed, is taken. -/
structure Field.TakenAndMistyped (catalog : Catalog) (config : Config) (record : String)
    (taken : List String) (f : Field RecordId) : Prop where
  placed : ∀ reason, ¬ f.Misplaced reason
  named : checkName .column config.reserved.columns f.columnName = .ok ()
  taken : f.columnName ∈ taken
  mistyped : ∃ e, f.Mistyped catalog config record e

theorem Field.takenAndMistyped_of_unsupported {name : String} (hmodifiers : f.modifiers = [])
    (htype : f.type = .unsupported name)
    (hnamed : checkName .column config.reserved.columns f.columnName = .ok ())
    (htaken : f.columnName ∈ taken) : f.TakenAndMistyped catalog config record taken where
  placed := by
    intro reason hreason
    rw [← Field.placement_eq_error_iff] at hreason
    simp [Field.placement, Field.placements, hmodifiers] at hreason
  named := hnamed
  taken := htaken
  mistyped := ⟨_, .unsupported (by simp [Field.target?, hmodifiers]) htype⟩

section TakenAndMistyped

variable (h : f.TakenAndMistyped catalog config record taken)

include h

theorem Field.TakenAndMistyped.performed_iff :
    f.FirstFails catalog config record taken FieldCheck.performed e ↔
      f.Mistyped catalog config record e := by
  obtain ⟨e', he'⟩ := h.mistyped
  have hnot : ¬ ∀ e', ¬ f.Mistyped catalog config record e' := fun hnone => hnone e' he'
  simp [FieldCheck.performed, Field.FirstFails, Field.Fails, h.placed, h.named, hnot]

theorem Field.TakenAndMistyped.namesFirst_iff :
    f.FirstFails catalog config record taken FieldCheck.namesFirst e ↔
      e = .columnName record f.columnName .duplicate := by
  simp [FieldCheck.namesFirst, Field.FirstFails, Field.Fails, h.placed, h.named, h.taken, eq_comm]

end TakenAndMistyped

theorem Field.Mistyped.ne_columnName {name : String} {reason : NameViolation}
    (h : f.Mistyped catalog config record e) : e ≠ .columnName record name reason := by
  cases h <;> simp

/-- The two orders differ in what comes after the form of the name, so they tell the same unless
both of the checks that are exchanged fail. -/
theorem Field.namesFirst_iff_performed (h : ¬ f.TakenAndMistyped catalog config record taken) :
    f.FirstFails catalog config record taken FieldCheck.namesFirst e ↔
      f.FirstFails catalog config record taken FieldCheck.performed e := by
  simp only [FieldCheck.namesFirst, FieldCheck.performed, Field.FirstFails]
  refine or_congr_right (and_congr_right fun hplaced => ?_)
  refine or_congr_right (and_congr_right fun hnamed => ?_)
  by_cases htaken : f.columnName ∈ taken
  · have htyped : ∀ e, ¬ f.Fails catalog config record taken .type e := by
      intro e' he'
      refine h ⟨?_, ?_, htaken, e', he'⟩
      · exact fun reason hreason => hplaced _ ⟨reason, hreason, rfl⟩
      · cases hcheck : checkName .column config.reserved.columns f.columnName with
        | ok _ => rfl
        | error reason => exact absurd ⟨reason, hcheck, rfl⟩ (hnamed _)
    simp [htyped]
  · have hfresh : ∀ e, ¬ f.Fails catalog config record taken .repetition e :=
      fun _ he => htaken he.1
    simp [hfresh]

/-- The columns of a record fail exactly if some field is the first to be at fault, and they fail
with what the first failing check tells of it.  This is also what would be told if all that concerns
the name was looked at before the type, unless the name of the field is taken and its type has a
fault as well: then the fault of the type is told, and in the other order the name would be. -/
theorem Record.columns_failure_order (catalog : Catalog) (config : Config) (r : Record RecordId) :
    ((∃ e, r.columns catalog config = .error e) ↔
      ∃ before f, r.FirstFaulty catalog config before f) ∧
    ∀ before f, r.FirstFaulty catalog config before f →
      let taken := before.map Field.columnName
      (∀ e, r.columns catalog config = .error e ↔
        f.FirstFails catalog config r.ident taken FieldCheck.performed e) ∧
      (¬ f.TakenAndMistyped catalog config r.ident taken →
        ∀ e, r.columns catalog config = .error e ↔
          f.FirstFails catalog config r.ident taken FieldCheck.namesFirst e) ∧
      (f.TakenAndMistyped catalog config r.ident taken →
        ∀ e, r.columns catalog config = .error e →
          f.Mistyped catalog config r.ident e ∧
            ¬ f.FirstFails catalog config r.ident taken FieldCheck.namesFirst e) := by
  constructor
  · constructor
    · rintro ⟨e, he⟩
      obtain ⟨before, f, hfaulty, _⟩ := Record.columns_eq_error_iff.mp he
      exact ⟨before, f, hfaulty⟩
    · rintro ⟨before, f, hfaulty⟩
      obtain ⟨e, he⟩ := Field.exists_firstFails_iff.mpr hfaulty.faulty
      exact ⟨e, hfaulty.columns_eq_error_iff.mpr he⟩
  · intro before f hfaulty taken
    refine ⟨fun e => hfaulty.columns_eq_error_iff, ?_, ?_⟩
    · intro hunmasked e
      rw [Field.namesFirst_iff_performed hunmasked, hfaulty.columns_eq_error_iff]
    · intro hmasked e he
      rw [hfaulty.columns_eq_error_iff, hmasked.performed_iff] at he
      rw [hmasked.namesFirst_iff]
      exact ⟨he, he.ne_columnName⟩

/-- The second field of a bag asks for a placement that it cannot have, has no type and takes the
name of the first one: the placement is told, in either order.  Without the placement the type is
told, and not the name. -/
theorem Record.columns_failure_order_bag :
    let sym : Field RecordId := { ident := "Sym", type := .primitive .text }
    let placed : Field RecordId :=
      { ident := "sym", type := .unsupported "Vec<u8>", modifiers := [.parted] }
    let plain : Field RecordId := { ident := "sym", type := .unsupported "Vec<u8>" }
    let bag (items : Field RecordId) : Record RecordId := { ident := "Bag", fields := [sym, items] }
    let catalog : Catalog := fun _ => bag plain
    let e : Failure := .placement "Bag" "sym" (.onCompound .parted "Vec<u8>")
    let e' : Failure := .unsupportedType "Bag" "sym" "Vec<u8>"
    ((bag placed).FirstFaulty catalog {} [sym] placed ∧
      ¬ placed.TakenAndMistyped catalog {} "Bag" ([sym].map Field.columnName) ∧
      (bag placed).columns catalog {} = .error e ∧
      placed.FirstFails catalog {} "Bag" ([sym].map Field.columnName) FieldCheck.namesFirst e) ∧
    (bag plain).FirstFaulty catalog {} [sym] plain ∧
      plain.TakenAndMistyped catalog {} "Bag" ([sym].map Field.columnName) ∧
      (bag plain).columns catalog {} = .error e' ∧
      ¬ plain.FirstFails catalog {} "Bag" ([sym].map Field.columnName)
        FieldCheck.namesFirst e' := by
  intro sym placed plain bag catalog e e'
  have hcolumn : sym.column catalog {} "Bag" = .ok { name := "sym", type := .atomic .symbol } := by
    decide +kernel
  have hfaulty : (bag placed).FirstFaulty catalog {} [sym] placed :=
    Record.firstFaulty_second rfl hcolumn (by decide +kernel)
  have hfaulty' : (bag plain).FirstFaulty catalog {} [sym] plain :=
    Record.firstFaulty_second rfl hcolumn (by decide +kernel)
  have hmisplaced : placed.Misplaced (.onCompound .parted "Vec<u8>") := .onCompound rfl rfl rfl
  have hunmasked : ¬ placed.TakenAndMistyped catalog {} "Bag" ([sym].map Field.columnName) :=
    fun h => h.placed _ hmisplaced
  have hmasked : plain.TakenAndMistyped catalog {} "Bag" ([sym].map Field.columnName) :=
    Field.takenAndMistyped_of_unsupported rfl rfl (by decide +kernel) (by decide +kernel)
  have hcolumns : (bag placed).columns catalog {} = .error e := by decide +kernel
  have hcolumns' : (bag plain).columns catalog {} = .error e' := by decide +kernel
  obtain ⟨_, hnames, _⟩ := (Record.columns_failure_order catalog {} (bag placed)).2 _ _ hfaulty
  obtain ⟨_, _, htype⟩ := (Record.columns_failure_order catalog {} (bag plain)).2 _ _ hfaulty'
  exact ⟨⟨hfaulty, hunmasked, hcolumns, (hnames hunmasked e).mp hcolumns⟩, hfaulty', hmasked,
    hcolumns', (htype hmasked e' hcolumns').2⟩

/-- The second field of a record has no type and takes the name of the first one.  The type is told,
though the repeated name would be if it counted with the other faults of a name. -/
theorem Record.columns_not_namesFirst :
    let foo : Field RecordId := { ident := "foo", type := .primitive .int32 }
    let repeated : Field RecordId := { ident := "Foo", type := .unsupported "Vec<u8>" }
    let dup : Record RecordId := { ident := "Dup", fields := [foo, repeated] }
    let catalog : Catalog := fun _ => dup
    dup.FirstFaulty catalog {} [foo] repeated ∧
      dup.columns catalog {} = .error (.unsupportedType "Dup" "foo" "Vec<u8>") ∧
      ∀ e, repeated.FirstFails catalog {} "Dup" ([foo].map Field.columnName)
        FieldCheck.namesFirst e ↔ e = .columnName "Dup" "foo" .duplicate := by
  intro foo repeated dup catalog
  have hcolumn : foo.column catalog {} "Dup" = .ok { name := "foo", type := .atomic .int } := by
    decide +kernel
  have hname : repeated.columnName = "foo" := by decide +kernel
  have hmasked : repeated.TakenAndMistyped catalog {} "Dup" ([foo].map Field.columnName) :=
    Field.takenAndMistyped_of_unsupported rfl rfl (by decide +kernel) (by decide +kernel)
  refine ⟨Record.firstFaulty_second rfl hcolumn (by decide +kernel), by decide +kernel, ?_⟩
  intro e
  rw [hmasked.namesFirst_iff, hname]

end KdbSchema
