import KdbSchema.Trace
import KdbSchema.Proofs.Outcome

/-!
# Requests that report

A request that reports has the outcome of the same request without the report.  What it reports is
put together along the way: of two requests the second one reports only if the first one succeeds,
and of a request for every member of a list only those members report that come up before the first
failure.
-/

namespace KdbSchema

namespace Traced

variable {α β γ : Type} {t : Traced α} {f : α → Traced β} {e : Failure}

/-! ## Two requests -/

theorem bind_of_ok {a : α} (h : t.outcome = .ok a) :
    t >>= f = { outcome := (f a).outcome, events := t.events ++ (f a).events } := by
  change t.andThen f = _
  simp only [andThen, h]

theorem bind_of_error (h : t.outcome = .error e) :
    t >>= f = { outcome := .error e, events := t.events } := by
  change t.andThen f = _
  simp only [andThen, h]

theorem outcome_bind (t : Traced α) (f : α → Traced β) :
    (t >>= f).outcome = t.outcome >>= fun a => (f a).outcome := by
  cases h : t.outcome with
  | ok a =>
      rw [bind_of_ok h]
      rfl
  | error e =>
      rw [bind_of_error h]
      rfl

instance : LawfulMonad Traced := LawfulMonad.mk' Traced
  (by
    intro α t
    change t.andThen (fun a => { outcome := .ok a }) = t
    obtain ⟨outcome, events⟩ := t
    cases outcome <;> simp [andThen])
  (by
    intro α β a f
    change ({ outcome := .ok a } : Traced α).andThen f = f a
    simp [andThen])
  (by
    intro α β γ t f g
    change (t.andThen f).andThen g = t.andThen fun a => (f a).andThen g
    obtain ⟨outcome, events⟩ := t
    cases outcome with
    | error e => simp [andThen]
    | ok a =>
        simp only [andThen]
        cases (f a).outcome <;> simp)

@[simp]
theorem events_pure (a : α) : (pure a : Traced α).events = [] := rfl

theorem outcome_reportFailure (r : Except Failure α) : (reportFailure r).outcome = r := by
  cases r <;> rfl

/-- A return reports nothing. -/
theorem events_bind_pure (t : Traced α) (g : α → β) :
    (t >>= fun a => pure (g a)).events = t.events := by
  cases h : t.outcome with
  | ok a =>
      rw [bind_of_ok h]
      exact List.append_nil t.events
  | error e => rw [bind_of_error h]

theorem notices_bind_pure (t : Traced α) (g : α → β) :
    (t >>= fun a => pure (g a)).notices = t.notices := by
  rw [notices, events_bind_pure, notices]

/-! ## One request for every member of a list -/

theorem outcome_mapM (f : α → Traced β) (as : List α) :
    (as.mapM f).outcome = as.mapM fun a => (f a).outcome := by
  induction as with
  | nil => rfl
  | cons a as ih =>
      rw [List.mapM_cons, List.mapM_cons, outcome_bind]
      congr 1
      funext b
      rw [outcome_bind, ih]
      rfl

theorem events_mapM_append {before : List α} (h : ∀ a ∈ before, ∃ b, (f a).outcome = .ok b)
    (after : List α) :
    ((before ++ after).mapM f).events =
      (before.flatMap fun a => (f a).events) ++ (after.mapM f).events := by
  induction before with
  | nil => rfl
  | cons a before ih =>
      obtain ⟨⟨b, hb⟩, hbefore⟩ := List.forall_mem_cons.mp h
      rw [List.cons_append, List.mapM_cons, bind_of_ok hb, events_bind_pure, ih hbefore,
        List.flatMap_cons, List.append_assoc]

theorem events_mapM_cons_of_error {a : α} (ha : (f a).outcome = .error e) (as : List α) :
    ((a :: as).mapM f).events = (f a).events := by
  rw [List.mapM_cons, bind_of_error ha]

end Traced

end KdbSchema
