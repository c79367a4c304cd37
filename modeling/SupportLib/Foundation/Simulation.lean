import Mathlib.Data.List.Basic

/-! Runs of a program that can fail beside runs of what it stands for. -/

namespace Foundation

universe u

variable {σ τ : Type u} {α ι ε : Type*}

/-- Every step of an abstract run is permitted in the state it starts from. -/
def Along (astep : α → ι → α) (permitted : α → ι → Prop) : α → List ι → Prop
  | _, [] => True
  | a, i :: is => permitted a i ∧ Along astep permitted (astep a i) is

theorem Along.of_forall {astep : α → ι → α} {permitted : α → ι → Prop} {is : List ι}
    (hall : ∀ a, ∀ i ∈ is, permitted a i) (a : α) : Along astep permitted a is := by
  induction is generalizing a with
  | nil => trivial
  | cons i is ih =>
    exact ⟨hall a i List.mem_cons_self, ih (fun a i hmem => hall a i (List.mem_cons_of_mem _ hmem)) _⟩

/-- A computation with a result has one after each of its steps. -/
theorem bind_eq_ok_iff {x : Except ε σ} {f : σ → Except ε τ} {c : τ} :
    x >>= f = .ok c ↔ ∃ b, x = .ok b ∧ f b = .ok c := by
  cases x with
  | error e => simp [bind, Except.bind]
  | ok b => simp [bind, Except.bind]

section Lockstep

variable {step : σ → ι → Except ε σ} {astep : α → ι → α} {permitted : α → ι → Prop}
variable {R : σ → α → Prop} {J : ι → Prop}

theorem foldlM_cons_ok {s s' : σ} {i : ι} (hs : step s i = .ok s') (is : List ι) :
    (i :: is).foldlM step s = is.foldlM step s' := by
  rw [List.foldlM_cons, hs]
  rfl

theorem foldlM_cons_error {s : σ} {i : ι} {e : ε} (hs : step s i = .error e) (is : List ι) :
    (i :: is).foldlM step s = .error e := by
  rw [List.foldlM_cons, hs]
  rfl

theorem foldlM_append_eq_ok_iff {s s' : σ} {is js : List ι} :
    (is ++ js).foldlM step s = .ok s' ↔
      ∃ t, is.foldlM step s = .ok t ∧ js.foldlM step t = .ok s' := by
  rw [List.foldlM_append, bind_eq_ok_iff]

theorem foldlM_singleton (s : σ) (i : ι) : [i].foldlM step s = step s i := by
  rw [List.foldlM_cons]
  cases step s i <;> rfl

/-- Where the abstract steps are permitted, a run of the program stays in step. -/
theorem foldlM_simulates
    (hstep : ∀ s a i, R s a → J i → permitted a i → ∃ s', step s i = .ok s' ∧ R s' (astep a i))
    {s : σ} {a : α} {is : List ι} (hrel : R s a) (hinputs : ∀ i ∈ is, J i)
    (halong : Along astep permitted a is) :
    ∃ s', is.foldlM step s = .ok s' ∧ R s' (is.foldl astep a) := by
  induction is generalizing s a with
  | nil => exact ⟨s, rfl, hrel⟩
  | cons i is ih =>
    obtain ⟨hnow, hlater⟩ := List.forall_mem_cons.mp hinputs
    obtain ⟨s', hs', hrel'⟩ := hstep s a i hrel hnow halong.1
    rw [foldlM_cons_ok hs']
    exact ih hrel' hlater halong.2

/-- Where one of them is not, the run ends in the program's error. -/
theorem foldlM_fails {e : ε}
    (hstep : ∀ s a i, R s a → J i → permitted a i → ∃ s', step s i = .ok s' ∧ R s' (astep a i))
    (hfail : ∀ s a i, R s a → J i → ¬ permitted a i → step s i = .error e) {s : σ} {a : α}
    {is : List ι} (hrel : R s a) (hinputs : ∀ i ∈ is, J i)
    (halong : ¬ Along astep permitted a is) : is.foldlM step s = .error e := by
  induction is generalizing s a with
  | nil => exact absurd trivial halong
  | cons i is ih =>
    obtain ⟨hnow, hlater⟩ := List.forall_mem_cons.mp hinputs
    by_cases hpermitted : permitted a i
    · obtain ⟨s', hs', hrel'⟩ := hstep s a i hrel hnow hpermitted
      rw [foldlM_cons_ok hs']
      exact ih hrel' hlater fun hrest => halong ⟨hpermitted, hrest⟩
    · exact foldlM_cons_error (hfail s a i hrel hnow hpermitted) is

end Lockstep

end Foundation
