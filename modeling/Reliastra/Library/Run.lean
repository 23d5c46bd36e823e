import Mathlib.Order.Basic

/-!
# Runs of a total transition function

A refused or waiting action leaves the state as it is, so the step function is
total and every list of actions is a run. Interleavings of several parties are
runs as well: an action then names the party that moves.

`AllSteps` lets a condition look at the state an action is taken in. The rules
below carry an invariant along a run whose actions all meet such a condition,
and turn an exact step condition into an exact condition on whole runs.
-/

namespace Reliastra.Library.Run

variable {σ α : Type*}

/-- The state a run of actions ends in. -/
def exec (step : σ → α → σ) (s : σ) (run : List α) : σ := run.foldl step s

/-- Every action of the run meets `ok` in the state it is taken in. -/
def AllSteps (step : σ → α → σ) (ok : σ → α → Prop) : σ → List α → Prop
  | _, [] => True
  | s, a :: rest => ok s a ∧ AllSteps step ok (step s a) rest

variable {step : σ → α → σ}

@[simp] theorem exec_nil (s : σ) : exec step s [] = s := rfl

@[simp] theorem exec_cons (s : σ) (a : α) (rest : List α) :
    exec step s (a :: rest) = exec step (step s a) rest := rfl

theorem exec_append (s : σ) (before after : List α) :
    exec step s (before ++ after) = exec step (exec step s before) after :=
  List.foldl_append ..

theorem exec_concat (s : σ) (before : List α) (a : α) :
    exec step s (before ++ [a]) = step (exec step s before) a := by
  rw [exec_append, exec_cons, exec_nil]

theorem allSteps_append {ok : σ → α → Prop} (s : σ) (before after : List α) :
    AllSteps step ok s (before ++ after) ↔
      AllSteps step ok s before ∧ AllSteps step ok (exec step s before) after := by
  induction before generalizing s with
  | nil => simp [AllSteps]
  | cons a rest ih => simp [AllSteps, ih, and_assoc]

/-- The condition read off at every split of the run. -/
theorem allSteps_iff_split {ok : σ → α → Prop} (s : σ) (run : List α) :
    AllSteps step ok s run ↔
      ∀ before a after, run = before ++ a :: after → ok (exec step s before) a := by
  constructor
  · intro all before a after split
    subst split
    exact ((allSteps_append s before (a :: after)).mp all).2.1
  · intro split
    induction run generalizing s with
    | nil => trivial
    | cons a rest ih =>
      refine ⟨split [] a rest rfl, ih (step s a) ?_⟩
      intro before b after equal
      exact split (a :: before) b after (by rw [equal, List.cons_append])

theorem allSteps_of_forall_mem {p : α → Prop} (s : σ) (run : List α) (all : ∀ a ∈ run, p a) :
    AllSteps step (fun _ a => p a) s run := by
  induction run generalizing s with
  | nil => trivial
  | cons a rest ih =>
    exact ⟨all a (by simp), ih (step s a) (fun b member => all b (by simp [member]))⟩

/-! ## Invariants along a run -/

theorem exec_invariant {inv : σ → Prop} (keeps : ∀ s a, inv s → inv (step s a))
    (s : σ) (run : List α) (initial : inv s) : inv (exec step s run) := by
  induction run generalizing s with
  | nil => exact initial
  | cons a rest ih => exact ih (step s a) (keeps s a initial)

theorem exec_invariant_of_allSteps {inv : σ → Prop} {ok : σ → α → Prop}
    (keeps : ∀ s a, inv s → ok s a → inv (step s a))
    (s : σ) (run : List α) (initial : inv s) (all : AllSteps step ok s run) :
    inv (exec step s run) := by
  induction run generalizing s with
  | nil => exact initial
  | cons a rest ih => exact ih (step s a) (keeps s a initial all.1) all.2

/-- With an invariant at hand, a step condition may be traded for another. -/
theorem allSteps_mono {inv : σ → Prop} {ok good : σ → α → Prop}
    (keeps : ∀ s a, inv s → ok s a → inv (step s a))
    (gives : ∀ s a, inv s → ok s a → good s a)
    (s : σ) (run : List α) (initial : inv s) (all : AllSteps step ok s run) :
    AllSteps step good s run := by
  induction run generalizing s with
  | nil => trivial
  | cons a rest ih =>
    exact ⟨gives s a initial all.1, ih (step s a) (keeps s a initial all.1) all.2⟩

/-- What every single step preserves about the state before it, a run preserves. -/
theorem exec_rel_of_allSteps {ok : σ → α → Prop} {rel : σ → σ → Prop}
    (refl : ∀ s, rel s s) (trans : ∀ s t u, rel s t → rel t u → rel s u)
    (moves : ∀ s a, ok s a → rel s (step s a))
    (s : σ) (run : List α) (all : AllSteps step ok s run) : rel s (exec step s run) := by
  induction run generalizing s with
  | nil => exact refl s
  | cons a rest ih => exact trans _ _ _ (moves s a all.1) (ih (step s a) all.2)

/-- Two step conditions that agree on the invariant agree on runs. -/
theorem allSteps_congr {inv : σ → Prop} {ok good : σ → α → Prop}
    (keeps : ∀ s a, inv s → ok s a → inv (step s a))
    (agree : ∀ s a, inv s → (ok s a ↔ good s a))
    (s : σ) (run : List α) (initial : inv s) :
    AllSteps step ok s run ↔ AllSteps step good s run := by
  induction run generalizing s with
  | nil => exact Iff.rfl
  | cons a rest ih =>
    unfold AllSteps
    rw [← agree s a initial]
    exact and_congr_right (fun met => ih (step s a) (keeps s a initial met))

/-- A property holds in every state of a run exactly when every step meets
`ok`, if meeting it carries the invariant on and missing it once breaks the
property there and then; of runs whose steps stay `within` a condition. -/
theorem forall_states_iff_allSteps_within {inv good : σ → Prop} {within ok : σ → α → Prop}
    (sound : ∀ s, inv s → good s)
    (keeps : ∀ s a, inv s → within s a → ok s a → inv (step s a))
    (breaks : ∀ s a, inv s → within s a → ¬ ok s a → ¬ good (step s a))
    (s : σ) (run : List α) (initial : inv s) (inside : AllSteps step within s run) :
    (∀ before after, run = before ++ after → good (exec step s before)) ↔
      AllSteps step ok s run := by
  induction run generalizing s with
  | nil =>
    refine ⟨fun _ => trivial, fun _ before after split => ?_⟩
    obtain ⟨rfl, rfl⟩ := List.append_eq_nil_iff.mp split.symm
    exact sound s initial
  | cons a rest ih =>
    obtain ⟨here, later⟩ := inside
    constructor
    · intro states
      have met : ok s a := by
        by_contra missed
        exact breaks s a initial here missed (states [a] rest rfl)
      refine ⟨met, (ih (step s a) (keeps s a initial here met) later).mp ?_⟩
      intro before after equal
      exact states (a :: before) after (by rw [equal, List.cons_append])
    · intro ⟨met, all⟩ before after split
      cases before with
      | nil => exact sound s initial
      | cons b before =>
        rw [List.cons_append, List.cons.injEq] at split
        obtain ⟨rfl, split⟩ := split
        exact (ih (step s a) (keeps s a initial here met) later).mpr all before after split

theorem forall_states_iff_allSteps {inv good : σ → Prop} {ok : σ → α → Prop}
    (sound : ∀ s, inv s → good s)
    (keeps : ∀ s a, inv s → ok s a → inv (step s a))
    (breaks : ∀ s a, inv s → ¬ ok s a → ¬ good (step s a))
    (s : σ) (run : List α) (initial : inv s) :
    (∀ before after, run = before ++ after → good (exec step s before)) ↔
      AllSteps step ok s run := by
  have inside : AllSteps step (fun _ _ => True) s run :=
    allSteps_of_forall_mem s run (fun _ _ => trivial)
  exact forall_states_iff_allSteps_within sound (fun s a holds _ => keeps s a holds)
    (fun s a holds _ => breaks s a holds) s run initial inside

end Reliastra.Library.Run
