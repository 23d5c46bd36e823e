import Mathlib.Data.List.Nodup
import Mathlib.Data.List.TakeDrop
import Mathlib.Order.Basic

/-!
# Draining a queue in batches

Each run takes the first `size` items of a queue. An item that `fails` undoes
its whole run; one that `stays` is left where it is; all others leave the queue.
Without new arrivals the runs look at longer and longer prefixes of the queue
they started with, and `frontier` says how far the n-th run looks, as long as no
run is undone.
-/

namespace Reliastra.Library.Batches

variable {α : Type*} (size : Nat) (stays fails : α → Prop) [DecidablePred stays]
  [DecidablePred fails]

/-- One run. -/
def drain (queue : List α) : List α :=
  if ∃ a ∈ queue.take size, fails a then queue
  else (queue.take size).filter stays ++ queue.drop size

/-- The queue after some runs. -/
def drained (queue : List α) : Nat → List α
  | 0 => queue
  | runs + 1 => drain size stays fails (drained queue runs)

/-- How many items of the queue the first runs have looked at. -/
def frontier (queue : List α) : Nat → Nat
  | 0 => 0
  | runs + 1 => frontier queue runs +
      (size - ((queue.take (frontier queue runs)).filter stays).length)

variable {size stays fails} {queue : List α}

theorem drain_sublist (queue : List α) : (drain size stays fails queue).Sublist queue := by
  unfold drain
  split
  · exact List.Sublist.refl queue
  · conv_rhs => rw [← List.take_append_drop size queue]
    exact List.Sublist.append_right List.filter_sublist _

/-- What has left does not come back. -/
theorem drained_sublist (queue : List α) {runs more : Nat} (later : runs ≤ more) :
    (drained size stays fails queue more).Sublist (drained size stays fails queue runs) := by
  induction more with
  | zero =>
    obtain rfl : runs = 0 := Nat.le_zero.mp later
    exact List.Sublist.refl _
  | succ more ih =>
    rcases Nat.le_succ_iff.mp later with before | rfl
    · exact (drain_sublist _).trans (ih before)
    · exact List.Sublist.refl _

/-- The items that stay never outgrow a batch. -/
theorem stayed_le_size (queue : List α) (runs : Nat) :
    ((queue.take (frontier size stays queue runs)).filter stays).length ≤ size := by
  induction runs with
  | zero => simp [frontier]
  | succ runs ih =>
    rw [frontier, List.take_add, List.filter_append, List.length_append]
    generalize ((queue.take (frontier size stays queue runs)).filter stays).length = stayed at ih ⊢
    have fewer := List.length_filter_le (fun a => decide (stays a))
      ((queue.drop (frontier size stays queue runs)).take (size - stayed))
    have taken := List.length_take_le (size - stayed)
      (queue.drop (frontier size stays queue runs))
    omega

theorem drained_of_fixed (fixed : drain size stays fails queue = queue) (runs : Nat) :
    drained size stays fails queue runs = queue := by
  induction runs with
  | zero => rfl
  | succ runs ih => rw [drained, ih, fixed]

/-- The queue after runs that looked this far, none of them undone. -/
def remaining (stays : α → Prop) [DecidablePred stays] (queue : List α) (reach : Nat) : List α :=
  (queue.take reach).filter stays ++ queue.drop reach

theorem remaining_take (runs : Nat) :
    (remaining stays queue (frontier size stays queue runs)).take size =
      (queue.take (frontier size stays queue runs)).filter stays ++
        (queue.drop (frontier size stays queue runs)).take
          (size - ((queue.take (frontier size stays queue runs)).filter stays).length) := by
  rw [remaining, List.take_append, List.take_of_length_le (stayed_le_size queue runs)]

theorem remaining_drop (runs : Nat) :
    (remaining stays queue (frontier size stays queue runs)).drop size =
      queue.drop (frontier size stays queue (runs + 1)) := by
  rw [remaining, List.drop_append, List.drop_of_length_le (stayed_le_size queue runs),
    List.nil_append, List.drop_drop, frontier]

theorem mem_take_succ {runs : Nat} {a : α} :
    a ∈ queue.take (frontier size stays queue (runs + 1)) ↔
      a ∈ queue.take (frontier size stays queue runs) ∨
        a ∈ (queue.drop (frontier size stays queue runs)).take
          (size - ((queue.take (frontier size stays queue runs)).filter stays).length) := by
  rw [frontier, List.take_add, List.mem_append]

theorem drain_remaining {runs : Nat}
    (fine : ∀ a ∈ queue.take (frontier size stays queue (runs + 1)), ¬ fails a) :
    drain size stays fails (remaining stays queue (frontier size stays queue runs)) =
      remaining stays queue (frontier size stays queue (runs + 1)) := by
  have none : ¬ ∃ a ∈ (remaining stays queue (frontier size stays queue runs)).take size,
      fails a := by
    intro ⟨a, member, failed⟩
    rw [remaining_take, List.mem_append] at member
    rcases member with stayed | new
    · exact fine a (mem_take_succ.mpr (Or.inl (List.mem_filter.mp stayed).1)) failed
    · exact fine a (mem_take_succ.mpr (Or.inr new)) failed
  rw [drain, if_neg none, remaining_drop, remaining_take, List.filter_append]
  unfold remaining
  conv_rhs => rw [frontier, List.take_add, List.filter_append]
  simp only [List.filter_filter, Bool.and_self, frontier]

/-- A run that meets a failing item is undone. -/
theorem drain_undone {runs : Nat}
    (fine : ∀ a ∈ queue.take (frontier size stays queue runs), ¬ fails a)
    (fails_next : ¬ ∀ a ∈ queue.take (frontier size stays queue (runs + 1)), ¬ fails a) :
    drain size stays fails (remaining stays queue (frontier size stays queue runs)) =
      remaining stays queue (frontier size stays queue runs) := by
  push Not at fails_next
  obtain ⟨a, member, failed⟩ := fails_next
  have new := (mem_take_succ.mp member).resolve_left (fun seen => fine a seen failed)
  rw [drain, if_pos]
  refine ⟨a, ?_, failed⟩
  rw [remaining_take]
  exact List.mem_append_right _ new

/-- While no run is undone, the queue is what stayed and what no run has looked
at. -/
theorem drained_eq (runs : Nat)
    (fine : ∀ a ∈ queue.take (frontier size stays queue runs), ¬ fails a) :
    drained size stays fails queue runs =
      remaining stays queue (frontier size stays queue runs) := by
  induction runs with
  | zero => simp [drained, remaining, frontier]
  | succ runs ih =>
    rw [drained, ih (fun a member => fine a (mem_take_succ.mpr (Or.inl member))),
      drain_remaining fine]

/-- After any number of runs the queue is as the last run that was not undone
left it. -/
theorem drained_cases (queue : List α) (runs : Nat) :
    ∃ last, (∀ a ∈ queue.take (frontier size stays queue last), ¬ fails a) ∧
      drained size stays fails queue runs =
        remaining stays queue (frontier size stays queue last) := by
  induction runs with
  | zero =>
    refine ⟨0, ?_, ?_⟩
    · simp [frontier]
    · simp [drained, remaining, frontier]
  | succ runs ih =>
    obtain ⟨last, fine, same⟩ := ih
    rw [drained, same]
    by_cases next : ∀ a ∈ queue.take (frontier size stays queue (last + 1)), ¬ fails a
    · exact ⟨last + 1, next, drain_remaining next⟩
    · exact ⟨last, fine, drain_undone fine next⟩

/-! ## Items that leave -/

/-- The first runs have looked at every wanted item, and at no failing one. -/
def Reached (size : Nat) (stays fails : α → Prop) [DecidablePred stays] (wanted : α → Prop)
    (queue : List α) (runs : Nat) : Prop :=
  (∀ a ∈ queue.take (frontier size stays queue runs), ¬ fails a) ∧
    ∀ a ∈ queue, wanted a → a ∈ queue.take (frontier size stays queue runs)

variable {wanted : α → Prop}

theorem not_mem_of_reached (distinct : queue.Nodup) (leaves : ∀ a, wanted a → ¬ stays a)
    {runs : Nat} (reached : Reached size stays fails wanted queue runs) {more : Nat}
    (later : runs ≤ more) {a : α} (member : a ∈ queue) (want : wanted a) :
    a ∉ drained size stays fails queue more := by
  intro still
  have seen := reached.2 a member want
  have before := (drained_sublist queue later).subset still
  rw [drained_eq runs reached.1, remaining, List.mem_append] at before
  rcases before with stayed | unseen
  · exact leaves a want (of_decide_eq_true (List.mem_filter.mp stayed).2)
  · have apart := List.disjoint_take_drop distinct
      (Nat.le_refl (frontier size stays queue runs))
    exact apart seen unseen

theorem reached_of_not_mem {runs : Nat}
    (gone : ∀ a ∈ queue, wanted a → a ∉ drained size stays fails queue runs) :
    ∃ last, Reached size stays fails wanted queue last := by
  obtain ⟨last, fine, same⟩ := @drained_cases α size stays fails _ _ queue runs
  refine ⟨last, fine, fun a member want => ?_⟩
  have left := gone a member want
  rw [same, remaining, List.mem_append, not_or] at left
  rw [← List.take_append_drop (frontier size stays queue last) queue, List.mem_append] at member
  exact member.resolve_right left.2

end Reliastra.Library.Batches
