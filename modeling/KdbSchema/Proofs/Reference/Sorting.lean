import KdbSchema.Reference.Graph
import KdbSchema.Proofs.Outcome
import Mathlib.Data.String.Basic
import Mathlib.Tactic

/-!
# Sorting tables by name

Qualified names are totally ordered, so tables of different names have exactly one ascending
arrangement.  Sorting succeeds exactly for such tables and yields that arrangement; otherwise it
tells the first table of the list whose name an earlier one has taken, together with that earlier
table.
-/

namespace KdbSchema

/-! ## The order of names -/

namespace QualifiedName

theorem SpaceBefore.irrefl (s : Option String) : ¬ SpaceBefore s s := by
  cases s with
  | none => exact id
  | some s => exact String.lt_irrefl s

theorem SpaceBefore.trans {r s t : Option String} (hrs : SpaceBefore r s)
    (hst : SpaceBefore s t) : SpaceBefore r t := by
  cases r with
  | none =>
      cases t with
      | none =>
          cases s with
          | none => exact hrs
          | some s => exact hst.elim
      | some t => trivial
  | some r =>
      cases s with
      | none => exact hrs.elim
      | some s =>
          cases t with
          | none => exact hst.elim
          | some t => exact String.lt_trans hrs hst

theorem SpaceBefore.trichotomy (s t : Option String) :
    SpaceBefore s t ∨ s = t ∨ SpaceBefore t s := by
  cases s with
  | none =>
      cases t with
      | none => exact Or.inr (Or.inl rfl)
      | some t => exact Or.inl trivial
  | some s =>
      cases t with
      | none => exact Or.inr (Or.inr trivial)
      | some t =>
          rcases lt_trichotomy s t with hlt | rfl | hgt
          · exact Or.inl hlt
          · exact Or.inr (Or.inl rfl)
          · exact Or.inr (Or.inr hgt)

theorem lt_irrefl (m : QualifiedName) : ¬ m < m := by
  rintro (h | ⟨_, h⟩)
  · exact SpaceBefore.irrefl _ h
  · exact String.lt_irrefl _ h

theorem lt_trans {l m n : QualifiedName} (hlm : l < m) (hmn : m < n) : l < n := by
  rcases hlm with hlm | ⟨hlm, hlm'⟩
  · rcases hmn with hmn | ⟨hmn, _⟩
    · exact Or.inl (hlm.trans hmn)
    · exact Or.inl (hmn ▸ hlm)
  · rcases hmn with hmn | ⟨hmn, hmn'⟩
    · exact Or.inl (hlm ▸ hmn)
    · exact Or.inr ⟨hlm.trans hmn, String.lt_trans hlm' hmn'⟩

theorem trichotomy (m n : QualifiedName) : m < n ∨ m = n ∨ n < m := by
  rcases SpaceBefore.trichotomy m.space n.space with hlt | heq | hgt
  · exact Or.inl (Or.inl hlt)
  · rcases lt_trichotomy m.base n.base with hlt | hbase | hgt
    · exact Or.inl (Or.inr ⟨heq, hlt⟩)
    · refine Or.inr (Or.inl ?_)
      cases m
      cases n
      simp_all
    · exact Or.inr (Or.inr (Or.inr ⟨heq.symm, hgt⟩))
  · exact Or.inr (Or.inr (Or.inl hgt))

end QualifiedName

/-! ## Ascending lists of tables -/

/-- The tables stand in ascending order of their names, without repetition. -/
def Ascending (ts : List Table) : Prop := ts.Pairwise fun t u => t.name < u.name

theorem Ascending.nil : Ascending [] := List.Pairwise.nil

theorem Ascending.names_nodup {ts : List Table} (hts : Ascending ts) :
    (ts.map Table.name).Nodup := by
  refine List.pairwise_map.mpr (hts.imp ?_)
  intro t u hlt heq
  exact QualifiedName.lt_irrefl u.name (heq ▸ hlt)

/-- The same tables have only one ascending arrangement. -/
theorem Ascending.eq_of_perm {ts us : List Table} (hts : Ascending ts) (hus : Ascending us)
    (hperm : ts.Perm us) : ts = us := by
  refine hperm.eq_of_pairwise ?_ hts hus
  intro t u _ _ htu hut
  exact (QualifiedName.lt_irrefl t.name (QualifiedName.lt_trans htu hut)).elim

/-! ## Inserting one table -/

theorem insertByName_of_new {t : Table} {us : List Table} (hus : Ascending us)
    (hnew : t.name ∉ us.map Table.name) :
    ∃ vs, insertByName t us = .ok vs ∧ vs.Perm (t :: us) ∧ Ascending vs := by
  induction us with
  | nil => exact ⟨[t], rfl, List.Perm.refl _, List.pairwise_singleton _ _⟩
  | cons u us ih =>
      obtain ⟨hu, hus'⟩ := List.pairwise_cons.mp hus
      rw [List.map_cons, List.mem_cons, not_or] at hnew
      rw [insertByName, if_neg hnew.1]
      by_cases hlt : t.name < u.name
      · refine ⟨t :: u :: us, if_pos hlt, List.Perm.refl _, ?_⟩
        refine List.pairwise_cons.mpr ⟨?_, hus⟩
        intro v hv
        rcases List.mem_cons.mp hv with rfl | hv
        · exact hlt
        · exact QualifiedName.lt_trans hlt (hu v hv)
      · obtain ⟨vs, hvs, hperm, hasc⟩ := ih hus' hnew.2
        refine ⟨u :: vs, ?_, (hperm.cons u).trans (List.Perm.swap t u us), ?_⟩
        · rw [if_neg hlt, hvs]
          rfl
        · refine List.pairwise_cons.mpr ⟨?_, hasc⟩
          intro v hv
          rcases List.mem_cons.mp (hperm.mem_iff.mp hv) with rfl | hv
          · rcases QualifiedName.trichotomy v.name u.name with h | h | h
            · exact (hlt h).elim
            · exact (hnew.1 h).elim
            · exact h
          · exact hu v hv

theorem insertByName_of_taken {t : Table} {us : List Table} (hus : Ascending us)
    (htaken : t.name ∈ us.map Table.name) :
    ∃ u ∈ us, u.name = t.name ∧
      insertByName t us = .error (.duplicateTable t.name u.record t.record) := by
  induction us with
  | nil => simp at htaken
  | cons u us ih =>
      obtain ⟨hu, hus'⟩ := List.pairwise_cons.mp hus
      by_cases heq : t.name = u.name
      · exact ⟨u, List.mem_cons_self, heq.symm, by rw [insertByName, if_pos heq]⟩
      · have htail : t.name ∈ us.map Table.name :=
          (List.mem_cons.mp htaken).resolve_left heq
        obtain ⟨v, hv, hname, hinsert⟩ := ih hus' htail
        have hlt : ¬ t.name < u.name := by
          intro h
          exact QualifiedName.lt_irrefl _ (QualifiedName.lt_trans h (hname ▸ hu v hv))
        refine ⟨v, List.mem_cons_of_mem u hv, hname, ?_⟩
        rw [insertByName, if_neg heq, if_neg hlt, hinsert]
        rfl

/-! ## Sorting a list -/

private theorem foldlM_insertByName_of_nodup {sorted ts : List Table} (hsorted : Ascending sorted)
    (hnodup : ((sorted ++ ts).map Table.name).Nodup) :
    ∃ vs, ts.foldlM (fun sorted t => insertByName t sorted) sorted = Except.ok vs ∧
      vs.Perm (sorted ++ ts) ∧ Ascending vs := by
  induction ts generalizing sorted with
  | nil => exact ⟨sorted, rfl, by simp, hsorted⟩
  | cons t ts ih =>
      have hmove : (sorted ++ t :: ts).Perm (t :: sorted ++ ts) := List.perm_middle
      have hnodup' : ((t :: sorted ++ ts).map Table.name).Nodup :=
        (hmove.map Table.name).nodup_iff.mp hnodup
      have hnew : t.name ∉ sorted.map Table.name := by
        rw [List.cons_append, List.map_cons, List.nodup_cons, List.map_append] at hnodup'
        exact fun hmem => hnodup'.1 (List.mem_append_left _ hmem)
      obtain ⟨us, hus, hperm, hasc⟩ := insertByName_of_new hsorted hnew
      have hpermAll : (us ++ ts).Perm (sorted ++ t :: ts) :=
        (hperm.append_right ts).trans hmove.symm
      obtain ⟨vs, hvs, hvsPerm, hvsAsc⟩ :=
        ih hasc ((hpermAll.map Table.name).nodup_iff.mpr hnodup)
      refine ⟨vs, ?_, hvsPerm.trans hpermAll, hvsAsc⟩
      rw [List.foldlM_cons, hus]
      exact hvs

private theorem foldlM_insertByName_of_not_nodup {sorted ts : List Table}
    (hsorted : Ascending sorted) (hrepeat : ¬ ((sorted ++ ts).map Table.name).Nodup) :
    ∃ before t after u, ts = before ++ t :: after ∧
      ((sorted ++ before).map Table.name).Nodup ∧ u ∈ sorted ++ before ∧ u.name = t.name ∧
      ts.foldlM (fun sorted t => insertByName t sorted) sorted =
        .error (Failure.duplicateTable t.name u.record t.record) := by
  induction ts generalizing sorted with
  | nil =>
      rw [List.append_nil] at hrepeat
      exact (hrepeat hsorted.names_nodup).elim
  | cons t ts ih =>
      by_cases htaken : t.name ∈ sorted.map Table.name
      · obtain ⟨u, hu, hname, hinsert⟩ := insertByName_of_taken hsorted htaken
        refine ⟨[], t, ts, u, rfl, ?_, by simpa using hu, hname, ?_⟩
        · simpa using hsorted.names_nodup
        · rw [List.foldlM_cons, hinsert]
          rfl
      · obtain ⟨us, hus, hperm, hasc⟩ := insertByName_of_new hsorted htaken
        have hpermAll (vs : List Table) : (us ++ vs).Perm (sorted ++ t :: vs) :=
          (hperm.append_right vs).trans List.perm_middle.symm
        have hrepeat' : ¬ ((us ++ ts).map Table.name).Nodup := by
          rwa [((hpermAll ts).map Table.name).nodup_iff]
        obtain ⟨before, v, after, u, rfl, hnodup, hu, hname, hfold⟩ := ih hasc hrepeat'
        refine ⟨t :: before, v, after, u, rfl, ?_, ?_, hname, ?_⟩
        · exact ((hpermAll before).map Table.name).nodup_iff.mp hnodup
        · exact (hpermAll before).mem_iff.mp hu
        · rw [List.foldlM_cons, hus]
          exact hfold

theorem sortByName_of_nodup {ts : List Table} (hnodup : (ts.map Table.name).Nodup) :
    ∃ vs, sortByName ts = .ok vs ∧ vs.Perm ts ∧ Ascending vs := by
  exact foldlM_insertByName_of_nodup Ascending.nil hnodup

/-- Where a name is taken twice, sorting tells the first table that comes too late and the earlier
table of its name. -/
theorem sortByName_of_not_nodup {ts : List Table} (hrepeat : ¬ (ts.map Table.name).Nodup) :
    ∃ before t after u, ts = before ++ t :: after ∧ (before.map Table.name).Nodup ∧
      u ∈ before ∧ u.name = t.name ∧
      sortByName ts = .error (.duplicateTable t.name u.record t.record) := by
  exact foldlM_insertByName_of_not_nodup Ascending.nil hrepeat

/-- Sorting yields the ascending arrangement of tables of different names, and nothing else. -/
theorem sortByName_eq_ok_iff {ts vs : List Table} :
    sortByName ts = .ok vs ↔ (ts.map Table.name).Nodup ∧ vs.Perm ts ∧ Ascending vs := by
  by_cases hnodup : (ts.map Table.name).Nodup
  · obtain ⟨us, hus, hperm, hasc⟩ := sortByName_of_nodup hnodup
    rw [hus]
    constructor
    · intro h
      cases h
      exact ⟨hnodup, hperm, hasc⟩
    · rintro ⟨_, hvsPerm, hvsAsc⟩
      rw [hasc.eq_of_perm hvsAsc (hperm.trans hvsPerm.symm)]
  · obtain ⟨_, _, _, _, _, _, _, _, herror⟩ := sortByName_of_not_nodup hnodup
    rw [herror]
    constructor
    · intro h
      cases h
    · intro h
      exact (hnodup h.1).elim

end KdbSchema
