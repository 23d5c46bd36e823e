import Mathlib.Algebra.GroupWithZero.Nat
import Mathlib.Logic.Function.Basic
import Mathlib.Logic.Relation
import Reliastra.Library.Run

/-!
# Parties interleaved over a shared state

Every party has a local state, and all of them share one. A move names a party
and one of its actions; the action reads and writes the shared state and the
local state of its party and nothing else, so a list of moves is an
interleaving.

An invariant of such a system has three parts: what holds of the shared state,
what holds of a party and the shared state, and what holds of two parties. A
move has to establish the parts its party is in, and to leave the shared state
good enough for the others.
-/

namespace Reliastra.Library

/-- Two parties are numbered 0 and 1. -/
instance (priority := high) neZero_two : NeZero 2 := ⟨by decide⟩

structure World (σ ι ℓ : Type*) where
  shared : σ
  locals : ι → ℓ

namespace World

variable {σ ι ℓ α : Type*} [DecidableEq ι] {act : ι → σ → ℓ → α → σ × ℓ}

/-- One party takes one action. -/
def move (act : ι → σ → ℓ → α → σ × ℓ) (w : World σ ι ℓ) (m : ι × α) : World σ ι ℓ :=
  ⟨(act m.1 w.shared (w.locals m.1) m.2).1,
    Function.update w.locals m.1 (act m.1 w.shared (w.locals m.1) m.2).2⟩

theorem move_locals_self (w : World σ ι ℓ) (i : ι) (a : α) :
    (w.move act (i, a)).locals i = (act i w.shared (w.locals i) a).2 :=
  Function.update_self ..

theorem move_locals_of_ne (w : World σ ι ℓ) {i j : ι} (a : α) (other : j ≠ i) :
    (w.move act (i, a)).locals j = w.locals j := Function.update_of_ne other ..

/-- The moves of one party in a row are a run of its own. -/
theorem exec_party (w : World σ ι ℓ) (i : ι) (acts : List α) :
    Run.exec (move act) w (acts.map (fun a => (i, a))) =
      ⟨(Run.exec (fun s a => act i s.1 s.2 a) (w.shared, w.locals i) acts).1,
        Function.update w.locals i
          (Run.exec (fun s a => act i s.1 s.2 a) (w.shared, w.locals i) acts).2⟩ := by
  induction acts generalizing w with
  | nil =>
    rw [List.map_nil, Run.exec_nil, Run.exec_nil, Function.update_eq_self]
  | cons a rest ih =>
    rw [List.map_cons, Run.exec_cons, Run.exec_cons, ih, move_locals_self]
    simp only [move, Function.update_idem]

/-! ## Invariants of the shared state, of a party, and of two parties -/

structure Holds (store : σ → Prop) (own : ι → σ → ℓ → Prop) (pair : ℓ → ℓ → Prop)
    (w : World σ ι ℓ) : Prop where
  store : store w.shared
  own : ∀ i, own i w.shared (w.locals i)
  pair : ∀ i j, i ≠ j → pair (w.locals i) (w.locals j)

/-- What a move of party `i` to a new shared and local state has to show. -/
structure Keeps (store : σ → Prop) (own : ι → σ → ℓ → Prop) (pair : ℓ → ℓ → Prop)
    (w : World σ ι ℓ) (i : ι) (after : σ × ℓ) : Prop where
  store : store after.1
  mine : own i after.1 after.2
  others : ∀ j, j ≠ i → own j after.1 (w.locals j)
  pairs : ∀ j, j ≠ i → pair after.2 (w.locals j)

variable {store : σ → Prop} {own : ι → σ → ℓ → Prop} {pair : ℓ → ℓ → Prop}

theorem Holds.move (symm : ∀ a b, pair a b → pair b a) {w : World σ ι ℓ} {i : ι} {a : α}
    (holds : Holds store own pair w)
    (keeps : Keeps store own pair w i (act i w.shared (w.locals i) a)) :
    Holds store own pair (w.move act (i, a)) := by
  refine ⟨keeps.store, ?_, ?_⟩
  · intro j
    by_cases same : j = i
    · subst same
      rw [move_locals_self]
      exact keeps.mine
    · rw [move_locals_of_ne w a same]
      exact keeps.others j same
  · intro j k different
    by_cases first : j = i
    · subst first
      rw [move_locals_self, move_locals_of_ne w a different.symm]
      exact keeps.pairs k different.symm
    · rw [move_locals_of_ne w a first]
      by_cases second : k = i
      · subst second
        rw [move_locals_self]
        exact symm _ _ (keeps.pairs j first)
      · rw [move_locals_of_ne w a second]
        exact holds.pair j k different

/-- An invariant that every move keeps holds after every interleaving. -/
theorem Holds.exec (symm : ∀ a b, pair a b → pair b a)
    (keeps : ∀ w i a, Holds store own pair w →
      Keeps store own pair w i (act i w.shared (w.locals i) a))
    (w : World σ ι ℓ) (run : List (ι × α)) (initial : Holds store own pair w) :
    Holds store own pair (Run.exec (World.move act) w run) :=
  Run.exec_invariant (fun w m holds => holds.move symm (keeps w m.1 m.2 holds)) w run initial

/-- An invariant that the moves of a kind keep holds after every run of such moves. -/
theorem Holds.exec_of_allSteps {ok : World σ ι ℓ → ι × α → Prop}
    (symm : ∀ a b, pair a b → pair b a)
    (keeps : ∀ w i a, Holds store own pair w → ok w (i, a) →
      Keeps store own pair w i (act i w.shared (w.locals i) a))
    (w : World σ ι ℓ) (run : List (ι × α)) (initial : Holds store own pair w)
    (met : Run.AllSteps (World.move act) ok w run) :
    Holds store own pair (Run.exec (World.move act) w run) :=
  Run.exec_invariant_of_allSteps
    (fun w m holds kind => holds.move symm (keeps w m.1 m.2 holds kind)) w run initial met

end World

end Reliastra.Library

/-!
## Wait-for graphs

A deadlock is a cycle of the relation "waits for". When one party moves, only
edges at that party change, so a cycle that was not there before goes through
it; `noReturn_of_trap` is how a proof shows that none does.
-/

namespace Reliastra.Library.WaitFor

open Relation

variable {ι : Type*} {waits after : ι → ι → Prop}

/-- No party waits for itself, not even through others. -/
def Acyclic (waits : ι → ι → Prop) : Prop := ∀ p, ¬ TransGen waits p p

/-- A chain either avoids the party `t`, or passes through it. -/
theorem avoids_or_passes (t : ι) {p q : ι} (chain : TransGen waits p q) :
    TransGen (fun a b => waits a b ∧ a ≠ t ∧ b ≠ t) p q ∨
      (ReflTransGen waits p t ∧ ReflTransGen waits t q) := by
  induction chain with
  | single edge =>
    rename_i b
    by_cases first : p = t
    · subst first
      exact .inr ⟨.refl, .single edge⟩
    · by_cases last : b = t
      · subst last
        exact .inr ⟨.single edge, .refl⟩
      · exact .inl (.single ⟨edge, first, last⟩)
  | tail chain edge ih =>
    rename_i b c
    rcases ih with avoided | ⟨reach, leave⟩
    · by_cases last : c = t
      · subst last
        exact .inr ⟨(chain.tail edge).to_reflTransGen, .refl⟩
      · by_cases middle : b = t
        · subst middle
          exact .inr ⟨chain.to_reflTransGen, .single edge⟩
        · exact .inl (avoided.tail ⟨edge, middle, last⟩)
    · exact .inr ⟨reach, leave.tail edge⟩

/-- A move of `t` that closes no chain at `t` keeps the graph free of cycles. -/
theorem Acyclic.move {t : ι} (acyclic : Acyclic waits)
    (others : ∀ p q, p ≠ t → q ≠ t → after p q → waits p q)
    (noReturn : ¬ TransGen after t t) : Acyclic after := by
  intro p cycle
  rcases avoids_or_passes t cycle with avoided | ⟨reach, leave⟩
  · apply acyclic p
    refine TransGen.mono ?_ p p avoided
    intro a b edge
    exact others a b edge.2.1 edge.2.2 edge.1
  · by_cases same : p = t
    · subst same
      exact noReturn cycle
    · have back : TransGen after t p := by
        rcases reflTransGen_iff_eq_or_transGen.mp leave with equal | chain
        · exact absurd equal same
        · exact chain
      exact noReturn (back.trans_left reach)

/-- A chain that leaves `t` into a set that is never left, and that `t` is not
in, does not come back. -/
theorem noReturn_of_trap {t : ι} (trap : ι → Prop) (enters : ∀ q, waits t q → trap q)
    (stays : ∀ p q, trap p → waits p q → trap q) (outside : ¬ trap t) :
    ¬ TransGen waits t t := by
  have trapped : ∀ q, TransGen waits t q → trap q := by
    intro q chain
    induction chain with
    | single edge => exact enters _ edge
    | tail _ edge ih => exact stays _ _ ih edge
  exact fun cycle => outside (trapped t cycle)

/-- A party that waits for nobody is on no cycle. -/
theorem noReturn_of_free {t : ι} (free : ∀ q, ¬ waits t q) : ¬ TransGen waits t t :=
  noReturn_of_trap (fun _ => False) free (fun _ _ none _ => none) id

end Reliastra.Library.WaitFor
