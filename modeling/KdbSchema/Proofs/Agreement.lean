import KdbSchema.Proofs.Outcome

/-!
# Two runs of one request

The same request is run twice, on inputs that differ in a known way.  The second run either ends as
the first one did, or it fails for a reason that the difference explains.  A compound request ends
so if its parts do: the first part that ends otherwise fails, and its failure is that of the whole.
Where no reason counts as explained, the two runs end alike.
-/

namespace KdbSchema

variable {α β ε δ : Type} {P : ε → Prop} {Q : δ → Prop}

/-- The second outcome is the first one, or a failure that satisfies `P`. -/
def AgreesUnless (P : ε → Prop) (x x' : Except ε α) : Prop :=
  x' = x ∨ ∃ e, x' = .error e ∧ P e

namespace AgreesUnless

variable {x x' : Except ε α}

theorem refl (P : ε → Prop) (x : Except ε α) : AgreesUnless P x x :=
  Or.inl rfl

theorem of_error {e : ε} (he : P e) : AgreesUnless P x (.error e) :=
  Or.inr ⟨e, rfl, he⟩

theorem eq_of_ok {a : α} (h : AgreesUnless P x x') (ha : x' = .ok a) : x = .ok a := by
  rcases h with heq | ⟨e, he, _⟩
  · rw [← heq, ha]
  · rw [ha] at he
    cases he

theorem reason {a : α} {e : ε} (h : AgreesUnless P x x') (ha : x = .ok a)
    (he : x' = .error e) : P e := by
  rcases h with heq | ⟨e', he', hP⟩
  · rw [heq, ha] at he
    cases he
  · rw [he] at he'
    cases he'
    exact hP

theorem error_or_reason {e e' : ε} (h : AgreesUnless P x x') (he : x = .error e)
    (he' : x' = .error e') : e' = e ∨ P e' := by
  rcases h with heq | ⟨e'', he'', hP⟩
  · rw [he, he'] at heq
    cases heq
    exact Or.inl rfl
  · rw [he'] at he''
    cases he''
    exact Or.inr hP

theorem never_iff : AgreesUnless (fun _ => False) x x' ↔ x' = x := by
  simp [AgreesUnless]

/-! ## Compound requests -/

theorem bind {f f' : α → Except ε β} (hx : AgreesUnless P x x')
    (hf : ∀ a, AgreesUnless P (f a) (f' a)) : AgreesUnless P (x >>= f) (x' >>= f') := by
  rcases hx with heq | ⟨e, he, hP⟩
  · subst heq
    cases x' with
    | error e => exact refl P _
    | ok a => exact hf a
  · subst he
    exact of_error hP

theorem map (f : α → β) (hx : AgreesUnless P x x') : AgreesUnless P (x.map f) (x'.map f) := by
  rcases hx with heq | ⟨e, he, hP⟩
  · rw [heq]
    exact refl P _
  · rw [he]
    exact of_error hP

theorem mapError {f : ε → δ} (hx : AgreesUnless P x x') (hPQ : ∀ e, P e → Q (f e)) :
    AgreesUnless Q (x.mapError f) (x'.mapError f) := by
  rcases hx with heq | ⟨e, he, hP⟩
  · rw [heq]
    exact refl Q _
  · rw [he]
    exact of_error (hPQ e hP)

theorem mapM {f f' : α → Except ε β} {as : List α}
    (hf : ∀ a ∈ as, AgreesUnless P (f a) (f' a)) : AgreesUnless P (as.mapM f) (as.mapM f') := by
  induction as with
  | nil => exact refl P _
  | cons a as ih =>
      obtain ⟨ha, has⟩ := List.forall_mem_cons.mp hf
      rw [List.mapM_cons, List.mapM_cons]
      apply ha.bind
      intro b
      apply (ih has).bind
      intro bs
      exact refl P _

end AgreesUnless

end KdbSchema
