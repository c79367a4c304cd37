import Mathlib.Data.List.Induction
import SupportLib.Efi
import SupportLib.Foundation.Simulation

/-! The constructors and destructors of the examples `Stdlib`, `Cpp` and
`Sdl2Cpp`. They count with a global variable in which order they are called, and
so does the entry of the program. Only the numbers up to 3 are ever stored. -/

open Foundation

namespace SupportLib.Examples

/-- A function that stops unless the variable has the expected value, and sets it
to the next one. -/
def watch (build : Build) (expected next g_global_value : ℕ) : Except Fault ℕ := do
  if g_global_value ≠ expected then ASSERT build false
  .ok next

def initializeGlobalValue1 (build : Build) : ℕ → Except Fault ℕ := watch build 0 1

def initializeGlobalValue2 (build : Build) : ℕ → Except Fault ℕ := watch build 1 2

def finishGlobalValue1 (build : Build) : ℕ → Except Fault ℕ := watch build 3 0

def finishGlobalValue2 (build : Build) : ℕ → Except Fault ℕ := watch build 2 3

/-- Which of the pointers to the firmware are set. -/
structure FirmwarePointers where
  gST : Bool
  gBS : Bool
  gImageHandle : Bool
  deriving DecidableEq, Repr

/-- The checks at the start of the entries, whose output does not matter here. -/
def checkPointers (build : Build) (pointers : FirmwarePointers) : Except Fault Unit := do
  ASSERT build pointers.gST
  ASSERT build pointers.gBS
  ASSERT build pointers.gImageHandle

def EDK2_LIBC_ENTRY_NAME (build : Build) (pointers : FirmwarePointers) (g_global_value : ℕ) :
    Except Fault ℕ := do
  if g_global_value ≠ 2 then ASSERT build false
  checkPointers build pointers
  .ok g_global_value

/-- What can be called in an image of `Stdlib`. -/
inductive GlobalCall where
  | initializeGlobalValue1
  | initializeGlobalValue2
  | finishGlobalValue1
  | finishGlobalValue2
  | entry
  deriving DecidableEq, Repr

def GlobalCall.run (build : Build) (pointers : FirmwarePointers) (g_global_value : ℕ) :
    GlobalCall → Except Fault ℕ
  | .initializeGlobalValue1 => Examples.initializeGlobalValue1 build g_global_value
  | .initializeGlobalValue2 => Examples.initializeGlobalValue2 build g_global_value
  | .finishGlobalValue1 => Examples.finishGlobalValue1 build g_global_value
  | .finishGlobalValue2 => Examples.finishGlobalValue2 build g_global_value
  | .entry => EDK2_LIBC_ENTRY_NAME build pointers g_global_value

/-- The globals of the C++ programs, with the member of the object that has a
constructor of its own. -/
structure CppGlobals where
  g_global_value : ℕ
  g_cpp_global : ℕ
  deriving DecidableEq, Repr

/-- The entry of the C++ programs, up to where one of them calls `sdl2_main`: its
checks. -/
def EDK2_LIBCXX_ENTRY_NAME (build : Build) (pointers : FirmwarePointers) (g : CppGlobals) :
    Except Fault CppGlobals := do
  if g.g_global_value ≠ 2 then ASSERT build false
  if g.g_cpp_global ≠ 2 then ASSERT build false
  checkPointers build pointers
  .ok g

/-- What can be called in an image of the C++ programs. -/
inductive CppCall where
  | global (call : GlobalCall)
  | CppGlobal
  | destroyCppGlobal
  deriving DecidableEq, Repr

def CppCall.run (build : Build) (pointers : FirmwarePointers) (g : CppGlobals) :
    CppCall → Except Fault CppGlobals
  | .global .entry => EDK2_LIBCXX_ENTRY_NAME build pointers g
  | .global call => do
    let g_global_value ← call.run build pointers g.g_global_value
    .ok { g with g_global_value := g_global_value }
  | .CppGlobal => .ok { g with g_cpp_global := 2 }
  | .destroyCppGlobal => .ok g

/-- The constructors, and so many runs of the program. -/
def opening (n : ℕ) : List GlobalCall :=
  [.initializeGlobalValue1, .initializeGlobalValue2] ++ List.replicate n .entry

/-- A life of the image, from its constructors to its destructors. -/
def life (n : ℕ) : List GlobalCall := opening n ++ [.finishGlobalValue2, .finishGlobalValue1]

def FirmwarePointers.Set (pointers : FirmwarePointers) : Prop :=
  pointers.gST = true ∧ pointers.gBS = true ∧ pointers.gImageHandle = true

/-- The value a call expects, and the one it leaves. -/
def GlobalCall.expected : GlobalCall → ℕ
  | .initializeGlobalValue1 => 0
  | .initializeGlobalValue2 => 1
  | .finishGlobalValue1 => 3
  | .finishGlobalValue2 => 2
  | .entry => 2

def GlobalCall.next : GlobalCall → ℕ
  | .initializeGlobalValue1 => 1
  | .initializeGlobalValue2 => 2
  | .finishGlobalValue1 => 0
  | .finishGlobalValue2 => 3
  | .entry => 2

section Calls

variable {pointers : FirmwarePointers} {v v' : ℕ}

theorem watch_eq_ok_iff {expected next : ℕ} :
    watch .DEBUG expected next v = .ok v' ↔ v = expected ∧ v' = next := by
  rw [watch]
  by_cases hv : v = expected
  · rw [if_neg (not_not.mpr hv)]
    simp [hv, eq_comm]
  · rw [if_pos hv]
    simp [hv, ASSERT, bind, Except.bind]

theorem checkPointers_eq_ok_iff :
    checkPointers .DEBUG pointers = .ok () ↔ pointers.Set := by
  obtain ⟨gST, gBS, gImageHandle⟩ := pointers
  cases gST <;> cases gBS <;> cases gImageHandle <;>
    simp [checkPointers, FirmwarePointers.Set, ASSERT, bind, Except.bind]

/-- All that a call can do in a debug build. -/
theorem GlobalCall.run_eq_ok_iff (c : GlobalCall) :
    c.run .DEBUG pointers v = .ok v' ↔
      v = c.expected ∧ v' = c.next ∧ (c = .entry → pointers.Set) := by
  cases c with
  | entry =>
    rw [← checkPointers_eq_ok_iff]
    simp only [GlobalCall.run, EDK2_LIBC_ENTRY_NAME, GlobalCall.expected, GlobalCall.next]
    by_cases hv : v = 2
    · rw [if_neg (not_not.mpr hv)]
      cases checkPointers .DEBUG pointers with
      | error fault => simp [bind, Except.bind]
      | ok => simp [hv, bind, Except.bind, eq_comm]
    · rw [if_pos hv]
      simp [hv, ASSERT, bind, Except.bind]
  | _ => exact watch_eq_ok_iff.trans (by simp [GlobalCall.expected, GlobalCall.next])

/-- How far into a life the calls that led to a value have come. -/
def Unfinished (rest : List GlobalCall) : ℕ → Prop
  | 0 => rest = []
  | 1 => rest = [.initializeGlobalValue1]
  | 2 => ∃ n, rest = opening n
  | 3 => ∃ n, rest = opening n ++ [.finishGlobalValue2]
  | _ => False

/-- The calls are whole lives and the beginning of one more. -/
def LivesTo (calls : List GlobalCall) (g_global_value : ℕ) : Prop :=
  ∃ (lives : List ℕ) (rest : List GlobalCall), calls = lives.flatMap life ++ rest ∧ Unfinished rest g_global_value

theorem LivesTo.step {calls : List GlobalCall} (c : GlobalCall)
    (hlives : LivesTo calls c.expected) : LivesTo (calls ++ [c]) c.next := by
  obtain ⟨lives, rest, rfl, hrest⟩ := hlives
  cases c with
  | initializeGlobalValue1 =>
    cases hrest
    exact ⟨lives, _, List.append_assoc _ _ _, rfl⟩
  | initializeGlobalValue2 =>
    cases hrest
    exact ⟨lives, _, List.append_assoc _ _ _, 0, rfl⟩
  | entry =>
    obtain ⟨n, rfl⟩ := hrest
    refine ⟨lives, _, List.append_assoc _ _ _, n + 1, ?_⟩
    rw [opening, opening, List.append_assoc, ← List.replicate_succ']
  | finishGlobalValue2 =>
    obtain ⟨n, rfl⟩ := hrest
    exact ⟨lives, _, List.append_assoc _ _ _, n, rfl⟩
  | finishGlobalValue1 =>
    obtain ⟨n, rfl⟩ := hrest
    refine ⟨lives ++ [n], [], ?_, rfl⟩
    rw [List.flatMap_append, List.flatMap_singleton, List.append_nil, List.append_assoc,
      List.append_assoc]
    rfl

theorem LivesTo.of_foldlM {calls : List GlobalCall}
    (hrun : calls.foldlM (GlobalCall.run .DEBUG pointers) 0 = .ok v) :
    LivesTo calls v ∧ (.entry ∈ calls → pointers.Set) := by
  induction calls using List.reverseRecOn generalizing v with
  | nil =>
    cases hrun
    exact ⟨⟨[], [], rfl, rfl⟩, by simp⟩
  | append_singleton calls c ih =>
    obtain ⟨u, hbefore, hlast⟩ := foldlM_append_eq_ok_iff.mp hrun
    rw [foldlM_singleton] at hlast
    obtain ⟨hlives, hset⟩ := ih hbefore
    obtain ⟨rfl, rfl, hentry⟩ := c.run_eq_ok_iff.mp hlast
    refine ⟨hlives.step c, fun hmem => ?_⟩
    rcases List.mem_append.mp hmem with hmem | hmem
    · exact hset hmem
    · exact hentry (List.mem_singleton.mp hmem).symm

/-- A call that finds the value it expects goes on with the one it leaves. -/
theorem GlobalCall.foldlM_cons (c : GlobalCall) (hentry : c = .entry → pointers.Set)
    (calls : List GlobalCall) :
    (c :: calls).foldlM (GlobalCall.run .DEBUG pointers) c.expected =
      calls.foldlM (GlobalCall.run .DEBUG pointers) c.next :=
  foldlM_cons_ok (c.run_eq_ok_iff.mpr ⟨rfl, rfl, hentry⟩) calls

theorem foldlM_entries {n : ℕ} (hset : n ≠ 0 → pointers.Set) (calls : List GlobalCall) :
    (List.replicate n GlobalCall.entry ++ calls).foldlM (GlobalCall.run .DEBUG pointers) 2 =
      calls.foldlM (GlobalCall.run .DEBUG pointers) 2 := by
  induction n with
  | zero => rfl
  | succ n ih =>
    have hset' := hset (Nat.succ_ne_zero n)
    rw [List.replicate_succ, List.cons_append]
    exact (GlobalCall.entry.foldlM_cons (fun _ => hset') _).trans (ih fun _ => hset')

/-- The first calls of a life lead to its runs of the program and past them. -/
theorem foldlM_opening {n : ℕ} (hset : n ≠ 0 → pointers.Set) (calls : List GlobalCall) :
    (opening n ++ calls).foldlM (GlobalCall.run .DEBUG pointers) 0 =
      calls.foldlM (GlobalCall.run .DEBUG pointers) 2 := by
  rw [opening, List.append_assoc]
  exact (GlobalCall.initializeGlobalValue1.foldlM_cons (fun h => (nomatch h)) _).trans
    ((GlobalCall.initializeGlobalValue2.foldlM_cons (fun h => (nomatch h)) _).trans
      (foldlM_entries hset calls))

theorem foldlM_life {n : ℕ} (hset : n ≠ 0 → pointers.Set) (calls : List GlobalCall) :
    (life n ++ calls).foldlM (GlobalCall.run .DEBUG pointers) 0 =
      calls.foldlM (GlobalCall.run .DEBUG pointers) 0 := by
  rw [life, List.append_assoc, foldlM_opening hset]
  exact (GlobalCall.finishGlobalValue2.foldlM_cons (fun h => (nomatch h)) _).trans
    (GlobalCall.finishGlobalValue1.foldlM_cons (fun h => (nomatch h)) _)

theorem entry_mem_opening {n : ℕ} (hn : n ≠ 0) : GlobalCall.entry ∈ opening n :=
  List.mem_append_right _ (List.mem_replicate.mpr ⟨hn, rfl⟩)

theorem foldlM_unfinished {rest : List GlobalCall} (hrest : Unfinished rest v)
    (hset : .entry ∈ rest → pointers.Set) :
    rest.foldlM (GlobalCall.run .DEBUG pointers) 0 = .ok v := by
  match v with
  | 0 =>
    cases hrest
    rfl
  | 1 =>
    cases hrest
    exact GlobalCall.initializeGlobalValue1.foldlM_cons (fun h => (nomatch h)) []
  | 2 =>
    obtain ⟨n, rfl⟩ := hrest
    rw [← List.append_nil (opening n)]
    exact foldlM_opening (fun hn => hset (entry_mem_opening hn)) []
  | 3 =>
    obtain ⟨n, rfl⟩ := hrest
    exact (foldlM_opening (fun hn => hset (List.mem_append_left _ (entry_mem_opening hn))) _).trans
      (GlobalCall.finishGlobalValue2.foldlM_cons (fun h => (nomatch h)) [])

/-- The calls of a debug build come to a value exactly if they are whole lives
and a beginning that leaves this value. -/
theorem foldlM_eq_ok_iff (calls : List GlobalCall) :
    calls.foldlM (GlobalCall.run .DEBUG pointers) 0 = .ok v ↔
      LivesTo calls v ∧ (.entry ∈ calls → pointers.Set) := by
  refine ⟨LivesTo.of_foldlM, ?_⟩
  rintro ⟨⟨lives, rest, rfl, hrest⟩, hset⟩
  induction lives with
  | nil => exact foldlM_unfinished hrest hset
  | cons n lives ih =>
    rw [List.flatMap_cons, List.append_assoc] at hset ⊢
    rw [foldlM_life fun hn => hset ?_]
    · exact ih fun hmem => hset (List.mem_append_right _ hmem)
    · exact List.mem_append_left _ (List.mem_append_left _ (entry_mem_opening hn))

theorem exists_livesTo_iff (calls : List GlobalCall) :
    (∃ v, LivesTo calls v) ↔ ∃ lives : List ℕ, calls <+: lives.flatMap life := by
  constructor
  · rintro ⟨v, lives, rest, rfl, hrest⟩
    have hprefix {n : ℕ} (h : rest <+: life n) :
        lives.flatMap life ++ rest <+: (lives ++ [n]).flatMap life := by
      rw [List.flatMap_append, List.flatMap_singleton]
      exact (List.prefix_append_right_inj _).mpr h
    match v with
    | 0 =>
      cases hrest
      exact ⟨_, hprefix (n := 0) List.nil_prefix⟩
    | 1 =>
      cases hrest
      exact ⟨_, hprefix (n := 0) ⟨_, rfl⟩⟩
    | 2 =>
      obtain ⟨n, rfl⟩ := hrest
      exact ⟨_, hprefix (List.prefix_append _ _)⟩
    | 3 =>
      obtain ⟨n, rfl⟩ := hrest
      exact ⟨_, hprefix ⟨[.finishGlobalValue1], List.append_assoc _ _ _⟩⟩
  · rintro ⟨lives, rest, hrest⟩
    have hwhole : LivesTo (calls ++ rest) 0 := ⟨lives, [], by rw [hrest, List.append_nil], rfl⟩
    have hrun : (calls ++ rest).foldlM (GlobalCall.run .DEBUG ⟨true, true, true⟩) 0 = .ok 0 :=
      (foldlM_eq_ok_iff _).mpr ⟨hwhole, fun _ => ⟨rfl, rfl, rfl⟩⟩
    obtain ⟨v, hcalls, _⟩ := foldlM_append_eq_ok_iff.mp hrun
    exact ⟨v, (LivesTo.of_foldlM hcalls).1⟩

theorem livesTo_zero_iff (calls : List GlobalCall) :
    LivesTo calls 0 ↔ ∃ lives : List ℕ, calls = lives.flatMap life := by
  constructor
  · rintro ⟨lives, rest, rfl, hrest⟩
    cases hrest
    exact ⟨lives, List.append_nil _⟩
  · rintro ⟨lives, rfl⟩
    exact ⟨lives, [], (List.append_nil _).symm, rfl⟩

end Calls

/-- The calls that count with the variable. -/
def globalCalls (calls : List CppCall) : List GlobalCall :=
  calls.filterMap fun c =>
    match c with
    | .global call => some call
    | _ => none

/-- Every run of the program comes after the constructor of the object. -/
def EntriesConstructed (calls : List CppCall) : Prop :=
  ∀ before after, calls = before ++ .global .entry :: after → .CppGlobal ∈ before

theorem entriesConstructed_concat (calls : List CppCall) (c : CppCall) :
    EntriesConstructed (calls ++ [c]) ↔
      EntriesConstructed calls ∧ (c = .global .entry → .CppGlobal ∈ calls) := by
  constructor
  · intro h
    refine ⟨fun before after heq => h before (after ++ [c]) ?_, ?_⟩
    · rw [heq, List.append_assoc, List.cons_append]
    · rintro rfl
      exact h calls [] rfl
  · rintro ⟨hbefore, hlast⟩ before after heq
    rcases List.eq_nil_or_concat after with rfl | ⟨after, d, rfl⟩
    · obtain ⟨rfl, hc⟩ := List.append_inj' heq rfl
      exact hlast (List.singleton_inj.mp hc)
    · rw [List.concat_eq_append, ← List.cons_append, ← List.append_assoc] at heq
      exact hbefore before after (List.append_inj' heq rfl).1

section CppCalls

variable {pointers : FirmwarePointers} {g g' : CppGlobals}

theorem libcxx_entry_eq_ok_iff :
    EDK2_LIBCXX_ENTRY_NAME .DEBUG pointers g = .ok g' ↔
      g.g_global_value = 2 ∧ g.g_cpp_global = 2 ∧ pointers.Set ∧ g' = g := by
  rw [EDK2_LIBCXX_ENTRY_NAME, ← checkPointers_eq_ok_iff]
  by_cases hvalue : g.g_global_value = 2
  · by_cases hcpp : g.g_cpp_global = 2
    · rw [if_neg (not_not.mpr hvalue), if_neg (not_not.mpr hcpp)]
      cases checkPointers .DEBUG pointers with
      | error fault => simp [bind, Except.bind]
      | ok => simp [hvalue, hcpp, bind, Except.bind, eq_comm]
    · rw [if_neg (not_not.mpr hvalue), if_pos hcpp]
      simp [hcpp, ASSERT, bind, Except.bind]
  · rw [if_pos hvalue]
    simp [hvalue, ASSERT, bind, Except.bind]

/-- A call that counts does what it does in C, and the program also asks for the
object. -/
theorem CppCall.run_global_eq_ok_iff (c : GlobalCall) :
    (CppCall.global c).run .DEBUG pointers g = .ok g' ↔
      c.run .DEBUG pointers g.g_global_value = .ok g'.g_global_value ∧
        g'.g_cpp_global = g.g_cpp_global ∧ (c = .entry → g.g_cpp_global = 2) := by
  obtain ⟨value, cpp⟩ := g
  obtain ⟨value', cpp'⟩ := g'
  cases c with
  | entry =>
    rw [GlobalCall.run_eq_ok_iff, CppCall.run, libcxx_entry_eq_ok_iff]
    simp only [GlobalCall.expected, GlobalCall.next, CppGlobals.mk.injEq, forall_const]
    constructor
    · rintro ⟨hvalue, hcpp, hset, hvalue', hcpp'⟩
      exact ⟨⟨hvalue, hvalue'.trans hvalue, hset⟩, hcpp', hcpp⟩
    · rintro ⟨⟨hvalue, hvalue', hset⟩, hcpp', hcpp⟩
      exact ⟨hvalue, hcpp, hset, hvalue'.trans hvalue.symm, hcpp'⟩
  | _ =>
    simp only [CppCall.run]
    generalize GlobalCall.run .DEBUG pointers value _ = result
    cases result with
    | error fault => simp [bind, Except.bind]
    | ok next => simp [bind, Except.bind, eq_comm]

/-- The C++ calls come through exactly if those that count do and no run of the
program comes too early. -/
theorem cpp_foldlM_eq_ok_iff (calls : List CppCall) :
    calls.foldlM (CppCall.run .DEBUG pointers) ⟨0, 0⟩ = .ok g ↔
      (globalCalls calls).foldlM (GlobalCall.run .DEBUG pointers) 0 = .ok g.g_global_value ∧
        EntriesConstructed calls ∧ g.g_cpp_global = if .CppGlobal ∈ calls then 2 else 0 := by
  induction calls using List.reverseRecOn generalizing g with
  | nil =>
    obtain ⟨value, cpp⟩ := g
    have hnone : EntriesConstructed [] := by
      intro before after heq
      simp at heq
    simp [globalCalls, hnone, pure, Except.pure, eq_comm]
  | append_singleton calls c ih =>
    rw [foldlM_append_eq_ok_iff, entriesConstructed_concat, globalCalls, List.filterMap_append,
      ← globalCalls]
    simp only [foldlM_singleton, ih]
    cases c with
    | CppGlobal =>
      constructor
      · rintro ⟨t, ⟨hrun, hconstructed, _⟩, hg⟩
        cases hg
        exact ⟨by simpa using hrun, ⟨hconstructed, fun h => (nomatch h)⟩, by simp⟩
      · obtain ⟨value, cpp⟩ := g
        rintro ⟨hrun, ⟨hconstructed, _⟩, hcpp⟩
        rw [if_pos (List.mem_append_right _ List.mem_cons_self)] at hcpp
        cases hcpp
        exact ⟨⟨value, if .CppGlobal ∈ calls then 2 else 0⟩,
          ⟨by simpa using hrun, hconstructed, rfl⟩, rfl⟩
    | destroyCppGlobal =>
      constructor
      · rintro ⟨t, ⟨hrun, hconstructed, hcpp⟩, hg⟩
        cases hg
        exact ⟨by simpa using hrun, ⟨hconstructed, fun h => (nomatch h)⟩, by simpa using hcpp⟩
      · rintro ⟨hrun, ⟨hconstructed, _⟩, hcpp⟩
        exact ⟨g, ⟨by simpa using hrun, hconstructed, by simpa using hcpp⟩, rfl⟩
    | global call =>
      have hmem : CppCall.CppGlobal ∈ calls ++ [.global call] ↔ CppCall.CppGlobal ∈ calls := by simp
      simp only [CppCall.run_global_eq_ok_iff, List.filterMap_cons, List.filterMap_nil,
        foldlM_append_eq_ok_iff, foldlM_singleton, hmem, CppCall.global.injEq]
      constructor
      · rintro ⟨t, ⟨hrun, hconstructed, hcpp⟩, hcall, hsame, hentry⟩
        refine ⟨⟨_, hrun, hcall⟩, ⟨hconstructed, fun h => ?_⟩, hsame.trans hcpp⟩
        by_contra hnone
        rw [if_neg hnone, hentry h] at hcpp
        cases hcpp
      · rintro ⟨⟨v, hrun, hcall⟩, ⟨hconstructed, hentry⟩, hcpp⟩
        refine ⟨⟨v, if .CppGlobal ∈ calls then 2 else 0⟩, ⟨hrun, hconstructed, rfl⟩, hcall, hcpp,
          fun h => if_pos (hentry h)⟩

/-- Whatever order the calls of an image come in, a debug build gets through them
exactly if those that count are the beginning of a sequence of whole lives, the
program never runs before the constructor of the object, and it finds the
pointers to the firmware set. The variable is back at 0 exactly after whole lives. -/
theorem cpp_calls_run_iff (pointers : FirmwarePointers) (calls : List CppCall) :
    ((∃ g, calls.foldlM (CppCall.run .DEBUG pointers) ⟨0, 0⟩ = .ok g) ↔
      (∃ lives : List ℕ, globalCalls calls <+: lives.flatMap life) ∧ EntriesConstructed calls ∧
        (.entry ∈ globalCalls calls → pointers.Set)) ∧
    ∀ g, calls.foldlM (CppCall.run .DEBUG pointers) ⟨0, 0⟩ = .ok g →
      (g.g_global_value = 0 ↔ ∃ lives : List ℕ, globalCalls calls = lives.flatMap life) := by
  simp only [cpp_foldlM_eq_ok_iff, foldlM_eq_ok_iff, ← exists_livesTo_iff, ← livesTo_zero_iff]
  refine ⟨⟨?_, ?_⟩, ?_⟩
  · rintro ⟨g, ⟨hlives, hset⟩, hconstructed, _⟩
    exact ⟨⟨_, hlives⟩, hconstructed, hset⟩
  · rintro ⟨⟨v, hlives⟩, hconstructed, hset⟩
    exact ⟨⟨v, _⟩, ⟨hlives, hset⟩, hconstructed, rfl⟩
  · rintro g ⟨⟨hlives, hset⟩, _⟩
    refine ⟨fun hzero => hzero ▸ hlives, fun hzero => ?_⟩
    have hvalue := (foldlM_eq_ok_iff (globalCalls calls)).mpr ⟨hlives, hset⟩
    have hback := (foldlM_eq_ok_iff (globalCalls calls)).mpr ⟨hzero, hset⟩
    exact Except.ok.inj (hvalue.symm.trans hback)

end CppCalls

end SupportLib.Examples
