import KdbSchema.Source.Setting
import Mathlib.Tactic

/-!
# Settings without faults

Settings have no fault exactly if every entry is a setting with a known name and a value that its
name takes, and no name is set twice.  Neither depends on the order of the entries.  With each name
set at most once, what a name is set to is whatever stands beside it anywhere, so that looking a
name up does not depend on the order either.
-/

namespace KdbSchema.Source

variable {rules : SettingRules} {seen : List String} {entries entries' : List SettingEntry}
  {attributes : List Attribute} {name s : String} {value : SettingValue}

def settingNames (entries : List SettingEntry) : List String :=
  entries.filterMap fun
    | .ok (name, _) => some name
    | .error _ => none

/-- All entries are settings with known names and values of the right kind, and none is repeated. -/
structure WellSet (rules : SettingRules) (entries : List SettingEntry) : Prop where
  known : ∀ entry ∈ entries, ∃ name value check,
    entry = .ok (name, value) ∧ rules name = some check ∧ check value = none
  once : (settingNames entries).Nodup

theorem settingNames_cons_ok :
    settingNames (.ok (name, value) :: entries) = name :: settingNames entries := rfl

theorem mem_settingNames_iff : name ∈ settingNames entries ↔ ∃ value, .ok (name, value) ∈ entries := by
  unfold settingNames
  rw [List.mem_filterMap]
  constructor
  · rintro ⟨entry, hmem, hname⟩
    match entry, hname with
    | .ok (_, value), rfl => exact ⟨value, hmem⟩
  · rintro ⟨value, hmem⟩
    exact ⟨_, hmem, rfl⟩

/-! ## Faults -/

theorem wellSet_cons_ok_iff {check : SettingValue → Option DerivationFault}
    (hcheck : rules name = some check) :
    WellSet rules (.ok (name, value) :: entries) ↔
      check value = none ∧ name ∉ settingNames entries ∧ WellSet rules entries := by
  constructor
  · rintro ⟨hknown, honce⟩
    obtain ⟨hhead, htail⟩ := List.forall_mem_cons.mp hknown
    obtain ⟨hnew, honce⟩ := List.nodup_cons.mp honce
    obtain ⟨_, _, check', hentry, hcheck', hvalue⟩ := hhead
    cases hentry
    rw [hcheck, Option.some.injEq] at hcheck'
    exact ⟨hcheck' ▸ hvalue, hnew, htail, honce⟩
  · rintro ⟨hvalue, hnew, hknown, honce⟩
    exact ⟨List.forall_mem_cons.mpr ⟨⟨name, value, check, rfl, hcheck, hvalue⟩, hknown⟩,
      List.nodup_cons.mpr ⟨hnew, honce⟩⟩

theorem settingFaults_eq_nil_iff_of_seen :
    settingFaults rules seen entries = [] ↔
      WellSet rules entries ∧ ∀ name ∈ settingNames entries, name ∉ seen := by
  induction entries generalizing seen with
  | nil => simp [settingFaults, settingNames, WellSet.mk]
  | cons entry entries ih =>
      match entry with
      | .error fault =>
          simp only [settingFaults, reduceCtorEq, false_iff, not_and]
          intro hset
          obtain ⟨_, _, _, hentry, _⟩ := hset.known _ List.mem_cons_self
          cases hentry
      | .ok (name, value) =>
          cases hcheck : rules name with
          | none =>
              simp only [settingFaults, hcheck, reduceCtorEq, false_iff, not_and]
              intro hset
              obtain ⟨_, _, _, hentry, hcheck', _⟩ := hset.known _ List.mem_cons_self
              cases hentry
              rw [hcheck] at hcheck'
              cases hcheck'
          | some check =>
              rw [wellSet_cons_ok_iff hcheck, settingNames_cons_ok, List.forall_mem_cons]
              by_cases hseen : name ∈ seen
              · simp [settingFaults, hcheck, hseen]
              · simp only [settingFaults, hcheck, if_neg hseen, List.append_eq_nil_iff,
                  Option.toList_eq_nil_iff, ih, List.mem_cons, not_or]
                grind

theorem settingFaults_eq_nil_iff :
    settingFaults rules [] entries = [] ↔ WellSet rules entries := by
  simp [settingFaults_eq_nil_iff_of_seen]

theorem WellSet.of_perm (h : WellSet rules entries) (hperm : entries.Perm entries') :
    WellSet rules entries' where
  known := fun entry hentry => h.known entry (hperm.mem_iff.mpr hentry)
  once := (hperm.filterMap _).nodup_iff.mp h.once

/-! ## Values -/

section Once

variable (honce : (settingNames entries).Nodup)

include honce

theorem settingValue?_eq_some_iff :
    settingValue? name entries = some value ↔ .ok (name, value) ∈ entries := by
  unfold settingValue?
  induction entries with
  | nil => simp
  | cons entry entries ih =>
      match entry with
      | .error fault => simpa [List.findSome?_cons] using ih honce
      | .ok (name', value') =>
          obtain ⟨hnew, honce⟩ := List.nodup_cons.mp honce
          have hother : .ok (name', value) ∉ entries :=
            fun hmem => hnew (mem_settingNames_iff.mpr ⟨value, hmem⟩)
          by_cases hname : name' = name
          · subst hname
            simp [hother, eq_comm]
          · simpa [List.findSome?_cons, hname, Ne.symm hname] using ih honce

theorem settingValue?_eq_of_perm (hperm : entries.Perm entries') (name : String) :
    settingValue? name entries' = settingValue? name entries := by
  have honce' : (settingNames entries').Nodup := (hperm.filterMap _).nodup_iff.mp honce
  ext value
  rw [settingValue?_eq_some_iff honce, settingValue?_eq_some_iff honce', hperm.mem_iff]

theorem isFlagSet_eq_of_perm (hperm : entries.Perm entries') (name : String) :
    isFlagSet name entries' = isFlagSet name entries := by
  rw [isFlagSet, isFlagSet, settingValue?_eq_of_perm honce hperm]

theorem settingText?_eq_of_perm (hperm : entries.Perm entries')
    (read : SettingValue → Checked String) (name : String) :
    settingText? read name entries' = settingText? read name entries := by
  rw [settingText?, settingText?, settingValue?_eq_of_perm honce hperm]

theorem settingText?_eq_some_iff {read : SettingValue → Checked String} :
    settingText? read name entries = some s ↔
      ∃ value, .ok (name, value) ∈ entries ∧ read value = .ok s := by
  have hread : ∀ value, (read value).toOption = some s ↔ read value = .ok s := by
    intro value
    cases read value <;> simp [Except.toOption]
  simp only [settingText?, Option.bind_eq_some_iff, settingValue?_eq_some_iff honce, hread]

end Once

inductive SettingValue.TurnsOn : SettingValue → Prop
  | word : TurnsOn .word
  | truth {e : Expression} {text : String} {hasSuffix : Bool}
      (h : e.form = .literal ⟨.boolean true, text, hasSuffix⟩) : TurnsOn (.expression e)
  | text {e : Expression} {text : String} {hasSuffix : Bool}
      (h : e.form = .literal ⟨.string "true", text, hasSuffix⟩) : TurnsOn (.expression e)

theorem SettingValue.flag_eq_true_iff : value.flag = .ok true ↔ value.TurnsOn := by
  constructor
  · intro h
    unfold flag at h
    split at h
    · exact .word
    · cases h
    · split at h
      · next hform =>
          cases h
          exact .truth hform
      · next hform => exact .text hform
      all_goals cases h
  · intro h
    cases h with
    | word => rfl
    | truth h => simp [flag, h]
    | text h => simp [flag, h]

theorem isFlagSet_eq_true_iff (honce : (settingNames entries).Nodup) :
    isFlagSet name entries = true ↔ ∃ value, .ok (name, value) ∈ entries ∧ value.TurnsOn := by
  simp only [← settingValue?_eq_some_iff honce, ← SettingValue.flag_eq_true_iff]
  unfold isFlagSet
  cases settingValue? name entries with
  | none => simp
  | some value => rcases hflag : value.flag with _ | _ <;> simp [hflag]

/-! ## Settings in attributes -/

def Attribute.SetIn (attributes : List Attribute) (name : String) (value : SettingValue) : Prop :=
  ∃ items, .settings items ∈ attributes ∧ .named name value ∈ items

theorem Attribute.ok_mem_entries_iff {a : Attribute} :
    .ok (name, value) ∈ a.entries ↔ ∃ items, a = .settings items ∧ .named name value ∈ items := by
  cases a with
  | settings items =>
      simp only [entries, List.mem_map, settings.injEq, exists_eq_left']
      constructor
      · rintro ⟨item, hmem, hitem⟩
        cases item <;> simp [Setting.entry] at hitem
        obtain ⟨rfl, rfl⟩ := hitem
        exact hmem
      · intro hmem
        exact ⟨_, hmem, rfl⟩
  | assigned => simp [entries]
  | unreadable => simp [entries]
  | foreign path => simp [entries]

theorem Attribute.ok_mem_settingEntries_iff :
    .ok (name, value) ∈ settingEntries attributes ↔ SetIn attributes name value := by
  simp only [settingEntries, List.mem_flatMap, ok_mem_entries_iff, SetIn]
  grind

end KdbSchema.Source
