import Mathlib.Data.List.Nodup

/-!
# Loops that end at the first exception

The body takes a state and an item and may raise, with whatever it has changed
by then. The rules say what holds at the end when every turn keeps an invariant,
which may depend on the items still to come, and when some turn has to raise.
-/

namespace Reliastra.Library.Loops

variable {σ α ε : Type*}

def untilRaised (body : σ → α → σ × Except ε Unit) (s : σ) : List α → σ × Except ε Unit
  | [] => (s, .ok ())
  | item :: rest =>
    match body s item with
    | (after, .ok ()) => untilRaised body after rest
    | (after, .error failure) => (after, .error failure)

variable {body : σ → α → σ × Except ε Unit}

theorem untilRaised_cons_ok {s : σ} {item : α} (ok : (body s item).2 = .ok ()) (rest : List α) :
    untilRaised body s (item :: rest) = untilRaised body (body s item).1 rest := by
  generalize turn : body s item = result at ok
  obtain ⟨after, outcome⟩ := result
  cases ok
  simp only [untilRaised, turn]

theorem untilRaised_cons_error {s : σ} {item : α} {failure : ε}
    (error : (body s item).2 = .error failure) (rest : List α) :
    untilRaised body s (item :: rest) = body s item := by
  generalize turn : body s item = result at error
  obtain ⟨after, outcome⟩ := result
  cases error
  simp only [untilRaised, turn]

/-- No turn raises, and each carries the invariant on to the items that are left. -/
theorem untilRaised_ok (inv : List α → σ → Prop)
    (turns : ∀ s item rest, inv (item :: rest) s →
      (body s item).2 = .ok () ∧ inv rest (body s item).1)
    (s : σ) (items : List α) (initial : inv items s) :
    (untilRaised body s items).2 = .ok () ∧ inv [] (untilRaised body s items).1 := by
  induction items generalizing s with
  | nil => exact ⟨rfl, initial⟩
  | cons item rest ih =>
    obtain ⟨ok, kept⟩ := turns s item rest initial
    rw [untilRaised_cons_ok ok]
    exact ih (body s item).1 kept

/-- What every turn keeps, raising or not, holds in the end; what every turn
that does not raise keeps holds at a regular end. -/
theorem untilRaised_invariant {inv weak : σ → Prop} (weaken : ∀ s, inv s → weak s)
    (turns : ∀ s item, inv s → weak (body s item).1 ∧
      ((body s item).2 = .ok () → inv (body s item).1))
    (s : σ) (items : List α) (initial : inv s) :
    weak (untilRaised body s items).1 ∧
      ((untilRaised body s items).2 = .ok () → inv (untilRaised body s items).1) := by
  induction items generalizing s with
  | nil => exact ⟨weaken s initial, fun _ => initial⟩
  | cons item rest ih =>
    obtain ⟨reached, kept⟩ := turns s item initial
    cases outcome : (body s item).2 with
    | ok done =>
      cases done
      rw [untilRaised_cons_ok outcome]
      exact ih (body s item).1 (kept outcome)
    | error failure =>
      rw [untilRaised_cons_error outcome]
      exact ⟨reached, fun ok => by rw [outcome] at ok; cases ok⟩

/-- One item that raises in every state the loop can be in ends it. -/
theorem untilRaised_raises {inv : σ → Prop}
    (turns : ∀ s item, inv s → (body s item).2 = .ok () → inv (body s item).1)
    {bad : α} (raises : ∀ s, inv s → (body s bad).2 ≠ .ok ())
    (s : σ) (items : List α) (initial : inv s) (member : bad ∈ items) :
    (untilRaised body s items).2 ≠ .ok () := by
  induction items generalizing s with
  | nil => cases member
  | cons item rest ih =>
    cases outcome : (body s item).2 with
    | error failure =>
      rw [untilRaised_cons_error outcome, outcome]
      exact fun ok => by cases ok
    | ok done =>
      cases done
      rw [untilRaised_cons_ok outcome]
      rcases List.mem_cons.mp member with rfl | later
      · exact absurd outcome (raises s initial)
      · exact ih (body s item).1 (turns s item initial outcome) later

/-- A loop whose turns write at most one entry to a log: every entry is one turn's. -/
theorem untilRaised_log {β : Type*} {log : σ → List β}
    (turns : ∀ s item, log (body s item).1 = log s ∨
      ∃ entry, log (body s item).1 = log s ++ [entry])
    (s : σ) (items : List α) :
    ∃ made, log (untilRaised body s items).1 = log s ++ made ∧
      ∀ entry ∈ made, ∃ t, ∃ item ∈ items, log (body t item).1 = log t ++ [entry] := by
  induction items generalizing s with
  | nil => exact ⟨[], (List.append_nil _).symm, fun _ member => by cases member⟩
  | cons item rest ih =>
    have turn : ∃ made, log (body s item).1 = log s ++ made ∧
        ∀ entry ∈ made, log (body s item).1 = log s ++ [entry] := by
      cases turns s item with
      | inl same => exact ⟨[], by rw [same, List.append_nil], fun _ member => by cases member⟩
      | inr more =>
        obtain ⟨entry, written⟩ := more
        refine ⟨[entry], written, ?_⟩
        intro other member
        rw [List.mem_singleton.mp member, written]
    obtain ⟨made, written, own⟩ := turn
    cases outcome : (body s item).2 with
    | ok =>
      obtain ⟨later, logged, others⟩ := ih (body s item).1
      rw [untilRaised_cons_ok outcome]
      refine ⟨made ++ later, by rw [logged, written, List.append_assoc], ?_⟩
      intro entry member
      cases List.mem_append.mp member with
      | inl here => exact ⟨s, item, List.mem_cons_self, own entry here⟩
      | inr there =>
        obtain ⟨t, other, inRest, turn⟩ := others entry there
        exact ⟨t, other, List.mem_cons_of_mem _ inRest, turn⟩
    | error failure =>
      rw [untilRaised_cons_error outcome]
      exact ⟨made, written, fun entry here => ⟨s, item, List.mem_cons_self, own entry here⟩⟩

end Reliastra.Library.Loops
