import Mathlib.Data.List.Chain
import Mathlib.Data.List.Forall2

/-! Deterministic components that take one call after another. A step either
faults, which ends the run, or yields an outcome that carries the next state. -/

namespace Foundation

/-- A step function on states together with the state an outcome leaves behind. -/
structure Machine (σ ι ω ε : Type*) where
  step : σ → ι → Except ε ω
  next : ω → σ

namespace Machine

variable {σ ι ω ε : Type*} (M : Machine σ ι ω ε)

/-- The outcomes of a whole run, or the first fault in it. -/
def run : σ → List ι → Except ε (List ω)
  | _, [] => .ok []
  | s, i :: is => do
    let o ← M.step s i
    let os ← run (M.next o) is
    .ok (o :: os)

/-- Every step the run takes, a faulting one included, meets `P` on the state
before it and its input. -/
def Always (P : σ → ι → Prop) : σ → List ι → Prop
  | _, [] => True
  | s, i :: is => P s i ∧ ∀ o, M.step s i = .ok o → Always P (M.next o) is

variable {M}

instance decidableAlways {P : σ → ι → Prop} [∀ s i, Decidable (P s i)] :
    ∀ (s : σ) (is : List ι), Decidable (M.Always P s is)
  | _, [] => isTrue trivial
  | s, i :: is =>
    match hstep : M.step s i with
    | .error _ => decidable_of_iff (P s i) (by simp [Always, hstep])
    | .ok o =>
      have : Decidable (M.Always P (M.next o) is) := decidableAlways (M.next o) is
      decidable_of_iff (P s i ∧ M.Always P (M.next o) is) (by simp [Always, hstep])

theorem run_cons_eq_ok_iff {s : σ} {i : ι} {is : List ι} {result : List ω} :
    M.run s (i :: is) = .ok result ↔
      ∃ o os, M.step s i = .ok o ∧ M.run (M.next o) is = .ok os ∧ result = o :: os := by
  cases hstep : M.step s i with
  | error e => simp [run, hstep, bind, Except.bind]
  | ok o =>
    cases hrun : M.run (M.next o) is with
    | error e => simp [run, hstep, hrun, bind, Except.bind]
    | ok os => simp [run, hstep, hrun, bind, Except.bind, eq_comm]

theorem run_cons_of_step {s : σ} {i : ι} {is : List ι} {o : ω} {os : List ω}
    (hstep : M.step s i = .ok o) (hrun : M.run (M.next o) is = .ok os) :
    M.run s (i :: is) = .ok (o :: os) :=
  run_cons_eq_ok_iff.mpr ⟨o, os, hstep, hrun, rfl⟩

theorem run_cons_eq_error_iff {s : σ} {i : ι} {is : List ι} {e : ε} :
    M.run s (i :: is) = .error e ↔
      M.step s i = .error e ∨ ∃ o, M.step s i = .ok o ∧ M.run (M.next o) is = .error e := by
  cases hstep : M.step s i with
  | error e' => simp [run, hstep, bind, Except.bind]
  | ok o =>
    cases hrun : M.run (M.next o) is with
    | error e' => simp [run, hstep, hrun, bind, Except.bind]
    | ok os => simp [run, hstep, hrun, bind, Except.bind]

theorem run_length {s : σ} {is : List ι} {os : List ω} (hrun : M.run s is = .ok os) :
    os.length = is.length := by
  induction is generalizing s os with
  | nil =>
    cases hrun
    rfl
  | cons i is ih =>
    obtain ⟨o, rest, _, htail, rfl⟩ := run_cons_eq_ok_iff.mp hrun
    rw [List.length_cons, List.length_cons, ih htail]

/-- Along a run on inputs that meet `J`, an invariant holds at every step. -/
theorem always_of_invariant {I : σ → Prop} {J : ι → Prop} {P : σ → ι → Prop}
    (hpreserves : ∀ s i o, I s → M.step s i = .ok o → I (M.next o))
    (hholds : ∀ s i, I s → J i → P s i) {s : σ} {is : List ι} (hinit : I s)
    (hinputs : ∀ i ∈ is, J i) : M.Always P s is := by
  induction is generalizing s with
  | nil => trivial
  | cons i is ih =>
    obtain ⟨hnow, hlater⟩ := List.forall_mem_cons.mp hinputs
    exact ⟨hholds s i hinit hnow, fun o hstep => ih (hpreserves s i o hinit hstep) hlater⟩

variable (M) in
/-- The states that successful steps lead to, each on an input permitted in the
state before it, with the inputs so far. -/
inductive Reaches (permitted : σ → ι → Prop) (start : σ) : List ι → σ → Prop
  | init : Reaches permitted start [] start
  | step {history : List ι} {s : σ} {i : ι} {o : ω} (hreach : Reaches permitted start history s)
      (hpermitted : permitted s i) (hstep : M.step s i = .ok o) :
      Reaches permitted start (history ++ [i]) (M.next o)

/-- What holds at the start and is preserved by every permitted step holds of
every reachable state. -/
theorem Reaches.invariant {I : List ι → σ → Prop} {permitted : σ → ι → Prop} {start s : σ}
    {history : List ι} (hreach : M.Reaches permitted start history s) (hinit : I [] start)
    (hpreserves : ∀ history s i o, I history s → permitted s i → M.step s i = .ok o →
      I (history ++ [i]) (M.next o)) : I history s := by
  induction hreach with
  | init => exact hinit
  | step _ hpermitted hstep ih => exact hpreserves _ _ _ _ ih hpermitted hstep

theorem run_ne_error_iff_always {s : σ} {is : List ι} {e : ε} :
    M.run s is ≠ .error e ↔ M.Always (fun s i => M.step s i ≠ .error e) s is := by
  induction is generalizing s with
  | nil => simp [run, Always]
  | cons i is ih =>
    rw [ne_eq, run_cons_eq_error_iff, not_or]
    simp only [Always, not_exists, not_and]
    exact and_congr Iff.rfl (forall_congr' fun o => imp_congr_right fun _ => ih)

theorem always_congr {P Q : σ → ι → Prop} (hagree : ∀ s i, P s i ↔ Q s i) {s : σ}
    {is : List ι} : M.Always P s is ↔ M.Always Q s is := by
  induction is generalizing s with
  | nil => exact Iff.rfl
  | cons i is ih => exact and_congr (hagree s i) (forall_congr' fun o => imp_congr_right fun _ => ih)

/-- When the last input determines what matters of the state, a condition on
states and inputs is a condition on consecutive inputs. -/
theorem always_iff_isChain {I : ι → σ → Prop} {R Q : ι → ι → Prop} {P : σ → ι → Prop}
    (htracks : ∀ i s i' o, I i s → R i i' → M.step s i' = .ok o → I i' (M.next o))
    (hagree : ∀ i s i', I i s → R i i' → (P s i' ↔ Q i i'))
    (hproceeds : ∀ i s i', I i s → R i i' → Q i i' → ∃ o, M.step s i' = .ok o)
    {i : ι} {s : σ} {is : List ι} (hinit : I i s) (hlinked : List.IsChain R (i :: is)) :
    M.Always P s is ↔ List.IsChain Q (i :: is) := by
  induction is generalizing i s with
  | nil => simp [Always]
  | cons i' is ih =>
    obtain ⟨hnow, hlater⟩ := List.isChain_cons_cons.mp hlinked
    rw [List.isChain_cons_cons]
    simp only [Always]
    constructor
    · rintro ⟨hP, htail⟩
      have hQ := (hagree i s i' hinit hnow).mp hP
      obtain ⟨o, hstep⟩ := hproceeds i s i' hinit hnow hQ
      exact ⟨hQ, (ih (htracks i s i' o hinit hnow hstep) hlater).mp (htail o hstep)⟩
    · rintro ⟨hQ, htail⟩
      refine ⟨(hagree i s i' hinit hnow).mpr hQ, fun o hstep => ?_⟩
      exact (ih (htracks i s i' o hinit hnow hstep) hlater).mpr htail

/-- Let `μ` measure states and `ν` inputs. When every step from a state that
tracks its last input succeeds, and keeps the difference of the two measures
exactly if `Q` links the consecutive inputs, a whole run keeps the difference
exactly if `Q` links all of them. Tracking is only needed while `Q` held. -/
theorem offset_iff_isChain {I : ι → σ → Prop} {R Q : ι → ι → Prop} {P : σ → ι → Prop}
    {good : ω → Prop} (μ : σ → ℤ) (ν : ι → ℤ)
    (hstep : ∀ i s i', I i s → R i i' → P s i' → ∃ o, M.step s i' = .ok o ∧ good o ∧
      (μ (M.next o) - ν i' = μ s - ν i ↔ Q i i') ∧ (Q i i' → I i' (M.next o)))
    {i : ι} {s : σ} {is : List ι} (hinit : I i s) (hlinked : List.IsChain R (i :: is))
    (hP : M.Always P s is) :
    (∃ os, M.run s is = .ok os ∧
      List.Forall₂ (fun i' o => good o ∧ μ (M.next o) - ν i' = μ s - ν i) is os) ↔
      List.IsChain Q (i :: is) := by
  induction is generalizing i s with
  | nil => simp [run]
  | cons i' is ih =>
    obtain ⟨hnow, hlater⟩ := List.isChain_cons_cons.mp hlinked
    obtain ⟨o, ho, hgood, hoffset, htracks⟩ := hstep i s i' hinit hnow hP.1
    rw [List.isChain_cons_cons]
    constructor
    -- An outcome that keeps the offset makes `Q` hold, and only then is the next input tracked.
    · rintro ⟨os, hrun, hall⟩
      obtain ⟨o', rest, ho', hrest, rfl⟩ := run_cons_eq_ok_iff.mp hrun
      rw [ho] at ho'
      cases ho'
      obtain ⟨⟨_, hkeep⟩, hall⟩ := List.forall₂_cons.mp hall
      have hQ := hoffset.mp hkeep
      refine ⟨hQ, (ih (htracks hQ) hlater (hP.2 o ho)).mp ⟨rest, hrest, ?_⟩⟩
      rw [hkeep]
      exact hall
    · rintro ⟨hQ, hchain⟩
      have hkeep := hoffset.mpr hQ
      obtain ⟨rest, hrest, hall⟩ := (ih (htracks hQ) hlater (hP.2 o ho)).mpr hchain
      rw [hkeep] at hall
      exact ⟨o :: rest, run_cons_of_step ho hrest, List.forall₂_cons.mpr ⟨⟨hgood, hkeep⟩, hall⟩⟩

/-- When no step fails, none lowers a level, and every visible output shows the
level its step reached, then no later output lies below an earlier one. -/
theorem run_outputs_pairwise {α β : Type*} [Preorder α] {I : σ → Prop} {P : σ → ι → Prop}
    {level : σ → α} {out : ω → Option β} {Shows : α → β → Prop} {Le : β → β → Prop}
    (hstep : ∀ s i, I s → P s i → ∃ o, M.step s i = .ok o ∧ I (M.next o) ∧
      level s ≤ level (M.next o) ∧ ∀ b, out o = some b → Shows (level (M.next o)) b)
    (horder : ∀ a a' b b', a ≤ a' → Shows a b → Shows a' b' → Le b b')
    {s : σ} {is : List ι} (hinit : I s) (hP : M.Always P s is) :
    ∃ os, M.run s is = .ok os ∧ (os.filterMap out).Pairwise Le := by
  -- Strengthened for the induction: every output also shows a level the run started below.
  suffices h : ∃ os, M.run s is = .ok os ∧ (os.filterMap out).Pairwise Le ∧
      ∀ b ∈ os.filterMap out, ∃ a, level s ≤ a ∧ Shows a b by
    obtain ⟨os, hrun, hpairwise, _⟩ := h
    exact ⟨os, hrun, hpairwise⟩
  induction is generalizing s with
  | nil => exact ⟨[], rfl, List.Pairwise.nil, by simp⟩
  | cons i is ih =>
    obtain ⟨o, ho, hnext, hlevel, hshows⟩ := hstep s i hinit hP.1
    obtain ⟨os, hrun, hpairwise, habove⟩ := ih hnext (hP.2 o ho)
    refine ⟨o :: os, run_cons_of_step ho hrun, ?_⟩
    cases hout : out o with
    | none =>
      rw [List.filterMap_cons_none hout]
      refine ⟨hpairwise, fun b hb => ?_⟩
      obtain ⟨a, ha, hb⟩ := habove b hb
      exact ⟨a, hlevel.trans ha, hb⟩
    | some b =>
      rw [List.filterMap_cons_some hout, List.pairwise_cons]
      refine ⟨⟨fun b' hb' => ?_, hpairwise⟩, fun b' hb' => ?_⟩
      · obtain ⟨a, ha, hb'⟩ := habove b' hb'
        exact horder _ a b b' ha (hshows b hout) hb'
      · rcases List.mem_cons.mp hb' with rfl | hb'
        · exact ⟨_, hlevel, hshows _ hout⟩
        · obtain ⟨a, ha, hb'⟩ := habove b' hb'
          exact ⟨a, hlevel.trans ha, hb'⟩

theorem forall_mem_of_forall₂ {good : ω → Prop} {is : List ι} {os : List ω}
    (h : List.Forall₂ (fun _ o => good o) is os) : ∀ o ∈ os, good o := by
  induction h with
  | nil => simp
  | cons hgood _ ih =>
    intro o hmem
    rcases List.mem_cons.mp hmem with rfl | hmem
    · exact hgood
    · exact ih o hmem

/-- Pairs that measure the same distances from the first one measure the same
distances between any two. -/
theorem pairwise_zip_iff_forall₂ (good : ω → Prop) (f : ω → ℤ) (g : ι → ℤ) (i : ι) (o : ω)
    {is : List ι} {os : List ω} (hlength : os.length = is.length) :
    ((∀ p ∈ o :: os, good p) ∧
        ((i :: is).zip (o :: os)).Pairwise fun p q => f q.2 - f p.2 = g q.1 - g p.1) ↔
      List.Forall₂ (fun i' p => good p ∧ f p - f o = g i' - g i) (i :: is) (o :: os) := by
  constructor
  · rintro ⟨hgood, hpairs⟩
    rw [List.zip_cons_cons, List.pairwise_cons] at hpairs
    rw [List.forall₂_cons, List.forall₂_iff_zip]
    refine ⟨⟨hgood o (by simp), by omega⟩, hlength.symm, fun {i' p} hmem => ⟨?_, ?_⟩⟩
    · exact hgood p (List.mem_cons_of_mem _ (List.of_mem_zip hmem).2)
    · exact hpairs.1 (i', p) hmem
  · intro hall
    refine ⟨forall_mem_of_forall₂ (hall.imp fun _ _ h => h.1), ?_⟩
    rw [List.forall₂_iff_zip] at hall
    refine List.pairwise_of_forall_mem_list ?_
    rintro ⟨i', o'⟩ hmem ⟨i'', o''⟩ hmem'
    have hdiff := (hall.2 hmem).2
    have hdiff' := (hall.2 hmem').2
    dsimp only
    omega

/-- The machine that reads its inputs off richer ones. -/
def comap {κ : Type*} (M : Machine σ ι ω ε) (f : κ → ι) : Machine σ κ ω ε where
  step s k := M.step s (f k)
  next := M.next

theorem run_comap {κ : Type*} (f : κ → ι) (s : σ) (ks : List κ) :
    (M.comap f).run s ks = M.run s (ks.map f) := by
  induction ks generalizing s with
  | nil => rfl
  | cons k ks ih =>
    simp only [run, List.map_cons, ih]
    rfl

theorem always_comap {κ : Type*} (f : κ → ι) {P : σ → ι → Prop} {s : σ} {ks : List κ} :
    (M.comap f).Always (fun s k => P s (f k)) s ks ↔ M.Always P s (ks.map f) := by
  induction ks generalizing s with
  | nil => exact Iff.rfl
  | cons k ks ih => exact and_congr Iff.rfl (forall_congr' fun o => imp_congr_right fun _ => ih)

/-- A whole run that starts with a tracked input: its outcomes measure the same
distances from the first one as the inputs do exactly if `Q` links the inputs. -/
theorem distance_iff_isChain {κ : Type*} (f : κ → ι) {I : κ → σ → Prop} {R Q : κ → κ → Prop}
    {P : σ → ι → Prop} {good : ω → Prop} (μ : σ → ℤ) (ν : κ → ℤ)
    (hstep : ∀ k s k', I k s → R k k' → P s (f k') → ∃ o, M.step s (f k') = .ok o ∧ good o ∧
      (μ (M.next o) - ν k' = μ s - ν k ↔ Q k k') ∧ (Q k k' → I k' (M.next o)))
    {start : σ} {k : κ} {ks : List κ} {o : ω} (hfirst : M.step start (f k) = .ok o)
    (hgood : good o) (hinit : I k (M.next o)) (hlinked : List.IsChain R (k :: ks))
    (hP : M.Always P start ((k :: ks).map f)) :
    (∃ o os, M.run start ((k :: ks).map f) = .ok (o :: os) ∧
      List.Forall₂ (fun k' p => good p ∧ μ (M.next p) - μ (M.next o) = ν k' - ν k)
        (k :: ks) (o :: os)) ↔ List.IsChain Q (k :: ks) := by
  have hoffset := offset_iff_isChain (M := M.comap f) μ ν hstep hinit hlinked
    ((always_comap f).mpr (hP.2 o hfirst))
  rw [← hoffset, run_comap, List.map_cons]
  have hsame : ∀ k' p, good p ∧ μ (M.next p) - ν k' = μ (M.next o) - ν k ↔
      good p ∧ μ (M.next p) - μ (M.next o) = ν k' - ν k := by
    intro k' p
    refine and_congr_right fun _ => ?_
    omega
  constructor
  · rintro ⟨o', os, hrun, hall⟩
    obtain ⟨_, _, ho', hos, heq⟩ := run_cons_eq_ok_iff.mp hrun
    cases heq
    cases hfirst.symm.trans ho'
    exact ⟨os, hos, (List.forall₂_cons.mp hall).2.imp fun k' p => (hsame k' p).mpr⟩
  · rintro ⟨os, hos, hall⟩
    refine ⟨o, os, run_cons_of_step hfirst hos, List.forall₂_cons.mpr ⟨⟨hgood, by omega⟩, ?_⟩⟩
    exact hall.imp fun k' p => (hsame k' p).mp

theorem run_succeeds {I : σ → Prop} {J : ι → Prop}
    (hstep : ∀ s i, I s → J i → ∃ o, M.step s i = .ok o ∧ I (M.next o)) {s : σ} {is : List ι}
    (hinit : I s) (hinputs : ∀ i ∈ is, J i) : ∃ os, M.run s is = .ok os := by
  induction is generalizing s with
  | nil => exact ⟨[], rfl⟩
  | cons i is ih =>
    obtain ⟨hnow, hlater⟩ := List.forall_mem_cons.mp hinputs
    obtain ⟨o, ho, hnext⟩ := hstep s i hinit hnow
    obtain ⟨os, hrun⟩ := ih hnext hlater
    exact ⟨o :: os, run_cons_of_step ho hrun⟩

/-- Every outcome of a run is that of a step from a state that keeps the invariant. -/
theorem step_of_run_getElem? {I : σ → Prop}
    (hpreserves : ∀ s i o, I s → M.step s i = .ok o → I (M.next o)) {s : σ} {is : List ι}
    {os : List ω} (hinit : I s) (hrun : M.run s is = .ok os) {k : ℕ} {o : ω}
    (ho : os[k]? = some o) : ∃ t i, I t ∧ is[k]? = some i ∧ M.step t i = .ok o := by
  induction is generalizing s os k with
  | nil =>
    cases hrun
    cases ho
  | cons i is ih =>
    obtain ⟨first, rest, hfirst, hrest, rfl⟩ := run_cons_eq_ok_iff.mp hrun
    cases k with
    | zero =>
      cases ho
      exact ⟨s, i, hinit, rfl, hfirst⟩
    | succ k => exact ih (hpreserves s i first hinit hfirst) hrest ho

/-- `l` without the entries at the positions in `removed`. -/
def without {α : Type*} : (ℕ → Bool) → List α → List α
  | _, [] => []
  | removed, a :: l =>
    if removed 0 then without (fun k => removed (k + 1)) l
    else a :: without (fun k => removed (k + 1)) l

/-- Where a view of the state determines the answer of a step and the view it
leaves, steps that leave the view as it was can be taken out of a run without
changing the answers of the others. -/
theorem run_without {τ β : Type*} (view : σ → τ) (answer : ω → β) (Silent : ι → ω → Prop)
    (hview : ∀ s t i o, view s = view t → M.step s i = .ok o →
      ∃ p, M.step t i = .ok p ∧ answer p = answer o ∧ view (M.next p) = view (M.next o))
    (hsilent : ∀ s i o, M.step s i = .ok o → Silent i o → view (M.next o) = view s)
    {s t : σ} {is : List ι} {os : List ω} {removed : ℕ → Bool} (hsame : view s = view t)
    (hrun : M.run s is = .ok os)
    (hremoved : ∀ k i o, removed k = true → is[k]? = some i → os[k]? = some o → Silent i o) :
    ∃ ps, M.run t (without removed is) = .ok ps ∧
      ps.map answer = (without removed os).map answer := by
  induction is generalizing s t os removed with
  | nil =>
    cases hrun
    exact ⟨[], rfl, rfl⟩
  | cons i is ih =>
    obtain ⟨o, rest, ho, hrest, rfl⟩ := run_cons_eq_ok_iff.mp hrun
    have hlater : ∀ k i o, removed (k + 1) = true → is[k]? = some i → rest[k]? = some o →
        Silent i o := fun k i o => hremoved (k + 1) i o
    by_cases hfirst : removed 0 = true
    · have hkeeps := hsilent s i o ho (hremoved 0 i o hfirst rfl rfl)
      obtain ⟨ps, hps, hanswers⟩ := ih (hkeeps.trans hsame) hrest hlater
      refine ⟨ps, ?_, ?_⟩
      · rw [without, if_pos hfirst]
        exact hps
      · rw [without, if_pos hfirst]
        exact hanswers
    · obtain ⟨p, hp, hanswer, hnext⟩ := hview s t i o hsame ho
      obtain ⟨ps, hps, hanswers⟩ := ih hnext.symm hrest hlater
      refine ⟨p :: ps, ?_, ?_⟩
      · rw [without, if_neg hfirst]
        exact run_cons_of_step hp hps
      · rw [without, if_neg hfirst, List.map_cons, List.map_cons, hanswer, hanswers]

end Machine

end Foundation
