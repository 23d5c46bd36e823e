import Reliastra.Source.Checks.ConcurrentScheduling

/-!
# Checks are dispatched once per due time

A run of the scheduler sends its tasks before anybody can see that the due times
have moved on. No task is sent twice exactly where no run selects what another one
has sent, or is about to send, for the same due time.
-/

namespace Reliastra.Guarantees.DuplicateChecks

open Reliastra.Library Reliastra.Source Reliastra.Source.Checks

variable {ι : Type}

abbrev Schedulers (ι : Type) := World SchedulingStore ι SchedulerPhase

abbrev after [DecidableEq ι] (w : Schedulers ι) (run : List (ι × SchedulerAct)) : Schedulers ι :=
  Run.exec (World.move schedulerAct) w run

/-- No region of a dependency was sent to the queue twice for one due time. -/
def AtMostOnce (w : Schedulers ι) : Prop := w.shared.dispatched.Nodup

/-- Nor will it be when the runs that have selected send their tasks. -/
def Safe [DecidableEq ι] (w : Schedulers ι) : Prop :=
  ∀ sends : List (ι × SchedulerAct), (∀ m ∈ sends, m.2 = .dispatch) → AtMostOnce (after w sends)

/-- A selection finds none of its tasks in the queue's history or in another run. -/
def SelectsUnclaimed (w : Schedulers ι) (m : ι × SchedulerAct) : Prop :=
  match m.2 with
  | .select _ queriedAt due =>
    w.locals m.1 = .idle → DueAnswer w.shared.schedule.table queriedAt due →
      ∀ task ∈ dueTasks w.shared.advances due,
        task ∉ w.shared.dispatched ∧ ∀ other ≠ m.1, task ∉ (w.locals other).left
  | _ => True

/-! ## The invariant -/

def OwnTasks (_ : ι) (s : SchedulingStore) (phase : SchedulerPhase) : Prop :=
  phase.left.Nodup ∧ ∀ task ∈ phase.left, task ∉ s.dispatched

def Apart (a b : SchedulerPhase) : Prop := ∀ task ∈ a.left, task ∉ b.left

theorem Apart.symm (a b : SchedulerPhase) (apart : Apart a b) : Apart b a :=
  fun task here there => apart task there here

abbrev Unclaimed : Schedulers ι → Prop :=
  World.Holds (fun s => s.dispatched.Nodup) OwnTasks Apart

variable {w : Schedulers ι} {i : ι}

/-- A step that sends nothing and leaves no task to its run keeps the invariant. -/
theorem keeps_of_quiet (inv : Unclaimed w) {s : SchedulingStore} {phase : SchedulerPhase}
    (dispatched : s.dispatched = w.shared.dispatched) (quiet : phase.left = []) :
    World.Keeps (fun s => s.dispatched.Nodup) OwnTasks Apart w i (s, phase) := by
  refine ⟨?_, ?_, ?_, ?_⟩
  · rw [dispatched]
    exact inv.store
  · unfold OwnTasks
    rw [quiet]
    exact ⟨List.nodup_nil, fun task member => absurd member List.not_mem_nil⟩
  · intro other _
    unfold OwnTasks
    rw [dispatched]
    exact inv.own other
  · intro other _ task member
    rw [quiet] at member
    exact absurd member List.not_mem_nil

/-- A step that sends nothing and leaves its run the tasks it had. -/
theorem keeps_of_same (inv : Unclaimed w) {s : SchedulingStore} {phase : SchedulerPhase}
    (dispatched : s.dispatched = w.shared.dispatched) (same : phase.left = (w.locals i).left) :
    World.Keeps (fun s => s.dispatched.Nodup) OwnTasks Apart w i (s, phase) := by
  refine ⟨?_, ?_, ?_, ?_⟩
  · rw [dispatched]
    exact inv.store
  · unfold OwnTasks
    rw [dispatched, same]
    exact inv.own i
  · intro other _
    unfold OwnTasks
    rw [dispatched]
    exact inv.own other
  · intro other different task member
    rw [same] at member
    exact inv.pair i other different.symm task member

theorem keeps_select (inv : Unclaimed w) {now queriedAt : Instant} {due : List ScheduledDependency}
    (unclaimed : SelectsUnclaimed w (i, .select now queriedAt due)) (idle : w.locals i = .idle)
    (answer : DueAnswer w.shared.schedule.table queriedAt due) :
    World.Keeps (fun s => s.dispatched.Nodup) OwnTasks Apart w i
      (w.shared, .dispatching now due (dueTasks w.shared.advances due)) := by
  have tasks := unclaimed idle answer
  refine ⟨inv.store, ⟨dueTasks_nodup answer _, ?_⟩, fun other _ => inv.own other, ?_⟩
  · exact fun task member => (tasks task member).1
  · exact fun other different task member => (tasks task member).2 other different

theorem keeps_dispatch (inv : Unclaimed w) {now : Instant} {due : List ScheduledDependency}
    {task : CheckTask} {left : List CheckTask}
    (phase : w.locals i = .dispatching now due (task :: left)) :
    World.Keeps (fun s => s.dispatched.Nodup) OwnTasks Apart w i
      ({ w.shared with dispatched := task :: w.shared.dispatched }, .dispatching now due left) := by
  have own := inv.own i
  rw [phase] at own
  obtain ⟨distinct, unsent⟩ := own
  have apart := List.nodup_cons.mp distinct
  refine ⟨?_, ⟨apart.2, ?_⟩, ?_, ?_⟩
  · exact List.nodup_cons.mpr ⟨unsent task List.mem_cons_self, inv.store⟩
  · intro other member sent
    rcases List.mem_cons.mp sent with rfl | before
    · exact apart.1 member
    · exact unsent other (List.mem_cons_of_mem _ member) before
  · intro other different
    refine ⟨(inv.own other).1, fun theirs member sent => ?_⟩
    rcases List.mem_cons.mp sent with rfl | before
    · have pair := inv.pair i other different.symm
      rw [phase] at pair
      exact pair theirs List.mem_cons_self member
    · exact (inv.own other).2 theirs member before
  · intro other different theirs member
    have pair := inv.pair i other different.symm
    rw [phase] at pair
    exact pair theirs (List.mem_cons_of_mem _ member)

variable [DecidableEq ι]

theorem unclaimed_move (w : Schedulers ι) (m : ι × SchedulerAct) (inv : Unclaimed w)
    (unclaimed : SelectsUnclaimed w m) : Unclaimed (w.move schedulerAct m) := by
  obtain ⟨i, act⟩ := m
  apply World.Holds.move Apart.symm inv
  cases phase : w.locals i with
  | idle =>
    have quiet : SchedulerPhase.left .idle = [] := rfl
    cases act with
    | select now queriedAt due =>
      simp only [schedulerAct]
      split
      · next answer => exact keeps_select inv unclaimed phase answer
      · exact keeps_of_quiet inv rfl quiet
    | edit schedule =>
      simp only [schedulerAct]
      split
      · exact keeps_of_quiet inv rfl quiet
      · exact keeps_of_quiet inv rfl quiet
    | dispatch => exact keeps_of_quiet inv rfl quiet
    | flush => exact keeps_of_quiet inv rfl quiet
    | commit => exact keeps_of_quiet inv rfl quiet
    | abort => exact keeps_of_quiet inv rfl quiet
  | flushed now due =>
    have quiet : SchedulerPhase.left (.flushed now due) = [] := rfl
    cases act with
    | edit schedule =>
      simp only [schedulerAct]
      split
      · exact keeps_of_quiet inv rfl quiet
      · exact keeps_of_quiet inv rfl quiet
    | commit => exact keeps_of_quiet inv rfl rfl
    | abort => exact keeps_of_quiet inv rfl rfl
    | select now queriedAt due => exact keeps_of_quiet inv rfl quiet
    | dispatch => exact keeps_of_quiet inv rfl quiet
    | flush => exact keeps_of_quiet inv rfl quiet
  | dispatching now due left =>
    have same : SchedulerPhase.left (.dispatching now due left) = (w.locals i).left := by rw [phase]
    cases act with
    | edit schedule =>
      simp only [schedulerAct]
      split
      · exact keeps_of_same inv rfl same
      · exact keeps_of_same inv rfl same
    | abort => exact keeps_of_quiet inv rfl rfl
    | select now queriedAt due => exact keeps_of_same inv rfl same
    | commit => exact keeps_of_same inv rfl same
    | dispatch =>
      cases left with
      | nil => exact keeps_of_same inv rfl same
      | cons task left => exact keeps_dispatch inv phase
    | flush =>
      cases left with
      | cons task left => exact keeps_of_same inv rfl same
      | nil =>
        simp only [schedulerAct]
        split
        · exact keeps_of_quiet inv rfl rfl
        split
        · exact keeps_of_same inv rfl same
        · exact keeps_of_quiet inv rfl rfl

theorem safe_of_unclaimed (w : Schedulers ι) (inv : Unclaimed w) : Safe w := by
  intro sends only
  have steps (w : Schedulers ι) (m : ι × SchedulerAct) (inv : Unclaimed w)
      (send : m.2 = .dispatch) : Unclaimed (w.move schedulerAct m) := by
    refine unclaimed_move w m inv ?_
    unfold SelectsUnclaimed
    rw [send]
    trivial
  have all : Run.AllSteps (World.move schedulerAct) (fun _ m => m.2 = .dispatch) w sends :=
    Run.allSteps_of_forall_mem w sends only
  exact (Run.exec_invariant_of_allSteps steps w sends inv all).store

/-! ## A selection of claimed tasks -/

omit [DecidableEq ι] in
/-- A run sends what it has left, the first task first. -/
theorem sends_alone (i : ι) (now : Instant) (due : List ScheduledDependency)
    (left : List CheckTask) (s : SchedulingStore) :
    Run.exec (fun t act => schedulerAct i t.1 t.2 act) (s, .dispatching now due left)
        (List.replicate left.length .dispatch) =
      ({ s with dispatched := left.reverse ++ s.dispatched }, .dispatching now due []) := by
  induction left generalizing s with
  | nil => rfl
  | cons task rest ih =>
    have sent : schedulerAct i s (.dispatching now due (task :: rest)) .dispatch =
        ({ s with dispatched := task :: s.dispatched }, .dispatching now due rest) := rfl
    rw [List.length_cons, List.replicate_succ, Run.exec_cons, sent, ih, List.reverse_cons,
      List.append_assoc, List.singleton_append]

/-- Its tasks come on top of the history, and no other run notices. -/
theorem after_sends {now : Instant} {due : List ScheduledDependency} {left : List CheckTask}
    (w : Schedulers ι) (phase : w.locals i = .dispatching now due left) :
    (after w (List.replicate left.length (i, .dispatch))).shared.dispatched =
        left.reverse ++ w.shared.dispatched ∧
      ∀ other ≠ i,
        (after w (List.replicate left.length (i, .dispatch))).locals other = w.locals other := by
  have party : List.replicate left.length (i, SchedulerAct.dispatch) =
      (List.replicate left.length .dispatch).map (fun act => (i, act)) := List.map_replicate.symm
  unfold after
  rw [party, World.exec_party, phase, sends_alone]
  exact ⟨rfl, fun other different => Function.update_of_ne different _ _⟩

theorem phase_of_left {phase : SchedulerPhase} {task : CheckTask} (member : task ∈ phase.left) :
    ∃ now due, phase = .dispatching now due phase.left := by
  cases phase with
  | dispatching now due left => exact ⟨now, due, rfl⟩
  | idle => exact absurd member List.not_mem_nil
  | flushed now due => exact absurd member List.not_mem_nil

theorem unsafe_of_claimed (w : Schedulers ι) (m : ι × SchedulerAct) (_ : Unclaimed w)
    (claimed : ¬ SelectsUnclaimed w m) : ¬ Safe (w.move schedulerAct m) := by
  obtain ⟨i, act⟩ := m
  cases act with
  | select now queriedAt due =>
    simp only [SelectsUnclaimed] at claimed
    push Not at claimed
    obtain ⟨idle, answer, task, selected, taken⟩ := claimed
    intro safe
    have moved : (w.move schedulerAct (i, .select now queriedAt due)).locals i =
        .dispatching now due (dueTasks w.shared.advances due) := by
      rw [World.move_locals_self, idle]
      simp only [schedulerAct, if_pos answer]
    have shared : (w.move schedulerAct (i, .select now queriedAt due)).shared = w.shared := by
      simp only [World.move, idle, schedulerAct, if_pos answer]
    have elsewhere (other : ι) (different : other ≠ i) :
        (w.move schedulerAct (i, .select now queriedAt due)).locals other = w.locals other :=
      World.move_locals_of_ne w _ different
    generalize w.move schedulerAct (i, .select now queriedAt due) = w' at safe moved shared elsewhere
    obtain ⟨sent, others⟩ := after_sends w' moved
    by_cases before : task ∈ w.shared.dispatched
    · -- its own tasks come on top of the history
      have twice := safe (List.replicate (dueTasks w.shared.advances due).length (i, .dispatch))
        (fun m member => by rw [List.eq_of_mem_replicate member])
      unfold AtMostOnce at twice
      rw [sent, shared] at twice
      exact (List.nodup_append.mp twice).2.2 task (List.mem_reverse.mpr selected) task before rfl
    · obtain ⟨other, different, theirs⟩ := taken before
      obtain ⟨now', due', phase⟩ := phase_of_left theirs
      -- the other run sends its tasks after this one
      have waiting : (after w' (List.replicate (dueTasks w.shared.advances due).length
          (i, .dispatch))).locals other = .dispatching now' due' (w.locals other).left := by
        rw [others other different, elsewhere other different]
        exact phase
      obtain ⟨sent', _⟩ := after_sends _ waiting
      have twice := safe (List.replicate (dueTasks w.shared.advances due).length (i, .dispatch) ++
          List.replicate (w.locals other).left.length (other, .dispatch)) (by
        intro m member
        rcases List.mem_append.mp member with here | there
        · rw [List.eq_of_mem_replicate here]
        · rw [List.eq_of_mem_replicate there])
      unfold AtMostOnce after at twice
      rw [Run.exec_append, sent', sent] at twice
      refine (List.nodup_append.mp twice).2.2 task (List.mem_reverse.mpr theirs) task ?_ rfl
      exact List.mem_append_left _ (List.mem_reverse.mpr selected)
  | _ => exact absurd trivial claimed

/-! ## Every interleaving -/

/-- Nobody has selected anything, and nothing was sent. -/
def noRuns (schedule : CheckSchedule) : Schedulers ι :=
  ⟨⟨schedule, fun _ => 0, [], []⟩, fun _ => .idle⟩

/-- Over any interleaving of runs of the scheduler, with failures at any point and
tries after them, no region of a dependency is dispatched twice for one due time
exactly when every selection finds its tasks unclaimed. -/
theorem dispatched_once_iff (schedule : CheckSchedule) (run : List (ι × SchedulerAct)) :
    (∀ before rest, run = before ++ rest → Safe (after (noRuns schedule) before)) ↔
      Run.AllSteps (World.move schedulerAct) SelectsUnclaimed (noRuns schedule) run := by
  have initial : Unclaimed (noRuns (ι := ι) schedule) := by
    refine ⟨List.nodup_nil, ?_, ?_⟩
    · exact fun _ => ⟨List.nodup_nil, fun _ member => absurd member List.not_mem_nil⟩
    · exact fun _ _ _ _ member => absurd member List.not_mem_nil
  exact Run.forall_states_iff_allSteps safe_of_unclaimed unclaimed_move unsafe_of_claimed
    (noRuns schedule) run initial

/-! ## Two ways to a second dispatch -/

def dueDependency : ScheduledDependency := ⟨1, true, false, some 0, 60, ["us-east"]⟩

def oneDue : CheckSchedule := ⟨⟨[dueDependency], by decide⟩, by decide⟩

/-- Two ticks overlap: the second selects before the first one commits. -/
def overlappingTicks : List (Bool × SchedulerAct) :=
  [(true, .select 0 0 [dueDependency]), (true, .dispatch), (true, .flush),
    (false, .select 1 1 [dueDependency]), (true, .commit), (false, .dispatch)]

/-- The commit fails, and the task is tried again. -/
def triedAgain : List (Bool × SchedulerAct) :=
  [(true, .select 0 0 [dueDependency]), (true, .dispatch), (true, .flush), (true, .abort),
    (true, .select 1 1 [dueDependency]), (true, .dispatch)]

theorem dispatched_twice :
    ¬ AtMostOnce (after (noRuns oneDue) overlappingTicks) ∧
      ¬ AtMostOnce (after (noRuns oneDue) triedAgain) := by
  unfold AtMostOnce
  constructor
  · decide
  · decide

end Reliastra.Guarantees.DuplicateChecks
