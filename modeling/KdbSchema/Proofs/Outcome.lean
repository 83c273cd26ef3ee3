import KdbSchema.Failure
import Mathlib.Tactic

/-!
# Outcomes of requests

A request ends with a value or with the failure that stopped it.  These lemmas take compound
requests apart: a sequence of two, and one request for every member of a list, which ends at the
first member that fails.
-/

namespace KdbSchema

variable {α β ε : Type}

theorem Except.bind_eq_ok_iff {x : Except ε α} {f : α → Except ε β} {b : β} :
    (x >>= f) = .ok b ↔ ∃ a, x = .ok a ∧ f a = .ok b := by
  cases x with
  | error e =>
      constructor
      · intro h
        cases h
      · rintro ⟨a, ha, _⟩
        cases ha
  | ok a =>
      constructor
      · intro h
        exact ⟨a, rfl, h⟩
      · rintro ⟨a', ha, hb⟩
        cases ha
        exact hb

theorem Except.bind_eq_error_iff {x : Except ε α} {f : α → Except ε β} {e : ε} :
    (x >>= f) = .error e ↔ x = .error e ∨ ∃ a, x = .ok a ∧ f a = .error e := by
  cases x with
  | error e' =>
      constructor
      · intro h
        cases h
        exact Or.inl rfl
      · rintro (h | ⟨a, ha, _⟩)
        · cases h
          rfl
        · cases ha
  | ok a =>
      constructor
      · intro h
        exact Or.inr ⟨a, rfl, h⟩
      · rintro (h | ⟨a', ha, hb⟩)
        · cases h
        · cases ha
          exact hb

/-- A second request whose failure does not depend on the value of the first one. -/
theorem Except.bind_eq_error_iff_of_forall {x : Except ε α} {f : α → Except ε β} {e : ε} {P : Prop}
    (h : ∀ a, f a = .error e ↔ P) :
    (x >>= f) = .error e ↔ x = .error e ∨ (∀ e', x ≠ .error e') ∧ P := by
  rw [Except.bind_eq_error_iff]
  simp only [h]
  cases x with
  | error e' => simp
  | ok a => simp

theorem Except.map_eq_ok_iff {x : Except ε α} {f : α → β} {b : β} :
    x.map f = .ok b ↔ ∃ a, x = .ok a ∧ f a = b := by
  cases x with
  | error e => simp [Except.map]
  | ok a => simp [Except.map]

theorem Except.map_eq_error_iff {x : Except ε α} {f : α → β} {e : ε} :
    x.map f = .error e ↔ x = .error e := by
  cases x with
  | error e' => simp [Except.map]
  | ok a => simp [Except.map]

theorem Except.mapError_eq_ok_iff {δ : Type} {x : Except ε α} {f : ε → δ} {a : α} :
    x.mapError f = .ok a ↔ x = .ok a := by
  cases x with
  | error e => simp [Except.mapError]
  | ok a' => simp [Except.mapError]

theorem Except.mapError_eq_error_iff {δ : Type} {x : Except ε α} {f : ε → δ} {d : δ} :
    x.mapError f = .error d ↔ ∃ e, x = .error e ∧ f e = d := by
  cases x with
  | error e => simp [Except.mapError]
  | ok a => simp [Except.mapError]

/-- Requests for all members of a list succeed together exactly when each of them succeeds. -/
theorem mapM_eq_ok_iff {f : α → Except ε β} {as : List α} {bs : List β} :
    as.mapM f = .ok bs ↔ List.Forall₂ (fun a b => f a = .ok b) as bs := by
  induction as generalizing bs with
  | nil =>
      rw [List.mapM_nil, List.forall₂_nil_left_iff]
      constructor
      · intro h
        cases h
        rfl
      · rintro rfl
        rfl
  | cons a as ih =>
      rw [List.mapM_cons, Except.bind_eq_ok_iff, List.forall₂_cons_left_iff]
      constructor
      · rintro ⟨b, hb, hrest⟩
        obtain ⟨bs', hbs, hcons⟩ := Except.bind_eq_ok_iff.mp hrest
        cases hcons
        exact ⟨b, bs', hb, ih.mp hbs, rfl⟩
      · rintro ⟨b, bs', hb, hbs, rfl⟩
        exact ⟨b, hb, Except.bind_eq_ok_iff.mpr ⟨bs', ih.mpr hbs, rfl⟩⟩

/-- Requests for all members of a list end with the failure of the first member that fails. -/
theorem mapM_eq_error_iff {f : α → Except ε β} {as : List α} {e : ε} :
    as.mapM f = .error e ↔
      ∃ before a after, as = before ++ a :: after ∧
        (∀ b ∈ before, ∃ c, f b = .ok c) ∧ f a = .error e := by
  induction as with
  | nil =>
      constructor
      · intro h
        cases h
      · rintro ⟨before, a, after, h, _⟩
        simp at h
  | cons a as ih =>
      rw [List.mapM_cons, Except.bind_eq_error_iff]
      constructor
      · rintro (ha | ⟨b, hb, hrest⟩)
        · exact ⟨[], a, as, rfl, by simp, ha⟩
        · rcases Except.bind_eq_error_iff.mp hrest with has | ⟨bs, _, hpure⟩
          · obtain ⟨before, a', after, rfl, hbefore, ha'⟩ := ih.mp has
            refine ⟨a :: before, a', after, rfl, ?_, ha'⟩
            intro c hc
            rcases List.mem_cons.mp hc with rfl | hc
            · exact ⟨b, hb⟩
            · exact hbefore c hc
          · cases hpure
      · rintro ⟨before, a', after, hsplit, hbefore, ha'⟩
        cases before with
        | nil =>
            obtain ⟨rfl, rfl⟩ := List.cons_eq_cons.mp hsplit
            exact Or.inl ha'
        | cons b before =>
            obtain ⟨rfl, rfl⟩ := List.cons_eq_cons.mp hsplit
            obtain ⟨c, hc⟩ := hbefore a List.mem_cons_self
            refine Or.inr ⟨c, hc, Except.bind_eq_error_iff.mpr (Or.inl ?_)⟩
            exact ih.mpr ⟨before, a', after, rfl,
              fun b hb => hbefore b (List.mem_cons_of_mem a hb), ha'⟩

/-- Checks of all members of a list end with the failure of the first member that fails. -/
theorem forM_eq_error_iff {f : α → Except ε Unit} {as : List α} {e : ε} :
    as.forM f = .error e ↔
      ∃ before a after, as = before ++ a :: after ∧
        (∀ b ∈ before, f b = .ok ()) ∧ f a = .error e := by
  induction as with
  | nil =>
      constructor
      · intro h
        cases h
      · rintro ⟨before, a, after, h, _⟩
        simp at h
  | cons a as ih =>
      change (f a >>= fun _ => as.forM f) = .error e ↔ _
      rw [Except.bind_eq_error_iff]
      constructor
      · rintro (ha | ⟨_, ha, has⟩)
        · exact ⟨[], a, as, rfl, by simp, ha⟩
        · obtain ⟨before, a', after, rfl, hbefore, ha'⟩ := ih.mp has
          exact ⟨a :: before, a', after, rfl, List.forall_mem_cons.mpr ⟨ha, hbefore⟩, ha'⟩
      · rintro ⟨before, a', after, hsplit, hbefore, ha'⟩
        cases before with
        | nil =>
            obtain ⟨rfl, rfl⟩ := List.cons_eq_cons.mp hsplit
            exact Or.inl ha'
        | cons b before =>
            obtain ⟨rfl, rfl⟩ := List.cons_eq_cons.mp hsplit
            obtain ⟨ha, hbefore⟩ := List.forall_mem_cons.mp hbefore
            exact Or.inr ⟨(), ha, ih.mpr ⟨before, a', after, rfl, hbefore, ha'⟩⟩

end KdbSchema
