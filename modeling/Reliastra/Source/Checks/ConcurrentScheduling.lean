import Reliastra.Library.Interleaving
import Reliastra.Source.Checks.Scheduler

/-!
# Runs of the scheduler side by side

`schedule_due_checks` of `app/modules/checks/service.py` inside the transaction
of `schedule_checks`, step by step. A run selects, sends its tasks to the queue
one after another, writes `next_check_at` and commits; it may fail anywhere, the
commit included, and the task is then tried again. What was sent stays sent. The
rows of an open transaction are visible to nobody else.
-/

namespace Reliastra.Source.Checks

open Reliastra.Library

/-- The dependencies; `_validate_regions` leaves no region twice. -/
structure CheckSchedule where
  table : Table ScheduledDependency.id
  distinct : ∀ dep ∈ table.rows, dep.regions.Nodup

/-- A call of `execute_check.delay`. The due time it serves is named by the
number of advances of `next_check_at` that were committed when the run read it. -/
structure CheckTask where
  dependencyId : Uuid
  region : String
  dueTime : Nat
  deriving DecidableEq, Repr

structure SchedulingStore where
  schedule : CheckSchedule
  /-- The committed advances of each dependency, which no step of a run reads. -/
  advances : Uuid → Nat
  /-- The rows an open transaction has written. -/
  locked : List Uuid
  /-- The queue's history, newest first. -/
  dispatched : List CheckTask

inductive SchedulerPhase where
  | idle
  | dispatching (now : Instant) (due : List ScheduledDependency) (left : List CheckTask)
  | flushed (now : Instant) (due : List ScheduledDependency)

/-- The tasks a run has yet to send. -/
def SchedulerPhase.left : SchedulerPhase → List CheckTask
  | .dispatching _ _ left => left
  | _ => []

inductive SchedulerAct where
  /-- `now` is read before the query reads its own clock. -/
  | select (now queriedAt : Instant) (due : List ScheduledDependency)
  | dispatch
  | flush
  | commit
  | abort
  /-- Other requests leave these dependencies. -/
  | edit (schedule : CheckSchedule)

/-- The tasks of the loop, in its order. -/
def dueTasks (advances : Uuid → Nat) (due : List ScheduledDependency) : List CheckTask :=
  due.flatMap (fun dep => dep.regionsToCheck.map (fun region => ⟨dep.id, region, advances dep.id⟩))

/-- The assignment of the loop, with the interval the run has read. -/
def advanceDependency (now : Instant) (table : Table ScheduledDependency.id)
    (dep : ScheduledDependency) : Table ScheduledDependency.id :=
  table.updateKey dep.id
    (fun row => { row with nextCheckAt := some (now + secondsToMicros dep.checkIntervalSeconds) })
    (fun _ => rfl)

theorem advanceDependency_distinct {now : Instant} {table : Table ScheduledDependency.id}
    (distinct : ∀ dep ∈ table.rows, dep.regions.Nodup) (dep : ScheduledDependency) :
    ∀ row ∈ (advanceDependency now table dep).rows, row.regions.Nodup := by
  intro row member
  unfold advanceDependency at member
  rw [Table.updateKey_rows] at member
  obtain ⟨old, stored, rfl⟩ := List.mem_map.mp member
  split
  · exact distinct old stored
  · exact distinct old stored

theorem advanceAll_distinct {now : Instant} {table : Table ScheduledDependency.id}
    (distinct : ∀ dep ∈ table.rows, dep.regions.Nodup) (due : List ScheduledDependency) :
    ∀ row ∈ (due.foldl (advanceDependency now) table).rows, row.regions.Nodup := by
  induction due generalizing table with
  | nil => exact distinct
  | cons dep rest ih => exact ih (advanceDependency_distinct distinct dep)

def CheckSchedule.advance (schedule : CheckSchedule) (now : Instant)
    (due : List ScheduledDependency) : CheckSchedule where
  table := due.foldl (advanceDependency now) schedule.table
  distinct := advanceAll_distinct schedule.distinct due

/-- The API creates, edits and deletes dependencies; when an old one is due is
the scheduler's to say. -/
def KeepsDueTimes (before after : CheckSchedule) : Prop :=
  ∀ dep ∈ after.table.rows, ∀ old ∈ before.table.rows, old.id = dep.id →
    dep.nextCheckAt = old.nextCheckAt

instance (before after : CheckSchedule) : Decidable (KeepsDueTimes before after) :=
  inferInstanceAs (Decidable (∀ dep ∈ after.table.rows, ∀ old ∈ before.table.rows, _))

def SchedulingStore.unlock (s : SchedulingStore) (due : List ScheduledDependency) :
    SchedulingStore :=
  { s with locked := s.locked.filter (fun id => id ∉ due.map (·.id)) }

/-- One step of a run; an act that is not its next leaves everything alone, and so
does an answer the database cannot give. -/
def schedulerAct {ι : Type} (_ : ι) (s : SchedulingStore) (phase : SchedulerPhase) :
    SchedulerAct → SchedulingStore × SchedulerPhase
  | .select now queriedAt due =>
    match phase with
    | .idle =>
      if DueAnswer s.schedule.table queriedAt due then
        (s, .dispatching now due (dueTasks s.advances due))
      else (s, .idle)
    | _ => (s, phase)
  | .dispatch =>
    match phase with
    | .dispatching now due (task :: left) =>
      ({ s with dispatched := task :: s.dispatched }, .dispatching now due left)
    | _ => (s, phase)
  | .flush =>
    match phase with
    | .dispatching now due [] =>
      -- `StaleDataError`: the row is gone
      if ∃ dep ∈ due, s.schedule.table.get? dep.id = none then (s, .idle)
      -- the `UPDATE` waits for the row lock
      else if ∃ dep ∈ due, dep.id ∈ s.locked then (s, phase)
      else ({ s with locked := due.map (·.id) ++ s.locked }, .flushed now due)
    | _ => (s, phase)
  | .commit =>
    match phase with
    | .flushed now due =>
      ({ s.unlock due with
          schedule := s.schedule.advance now due
          advances := fun id => if id ∈ due.map (·.id) then s.advances id + 1 else s.advances id },
        .idle)
    | _ => (s, phase)
  | .abort =>
    match phase with
    | .idle => (s, .idle)
    | .dispatching _ _ _ => (s, .idle)
    | .flushed _ due => (s.unlock due, .idle)
  | .edit schedule =>
    if KeepsDueTimes s.schedule schedule then ({ s with schedule := schedule }, phase)
    else (s, phase)

/-! ## Tasks -/

theorem regionsToCheck_nodup {dep : ScheduledDependency} (distinct : dep.regions.Nodup) :
    dep.regionsToCheck.Nodup := by
  unfold ScheduledDependency.regionsToCheck
  split
  · decide
  · exact distinct

/-- The tasks of one run are different from each other. -/
theorem dueTasks_nodup {schedule : CheckSchedule} {now : Instant} {due : List ScheduledDependency}
    (answer : DueAnswer schedule.table now due) (advances : Uuid → Nat) :
    (dueTasks advances due).Nodup := by
  obtain ⟨selected, keys, _⟩ := answer
  unfold dueTasks
  rw [List.nodup_flatMap]
  constructor
  · intro dep member
    have distinct := schedule.distinct dep (selected dep member).1
    refine (List.nodup_map_iff ?_).mpr (regionsToCheck_nodup distinct)
    intro region other same
    simpa using same
  · have apart := List.pairwise_map.mp keys
    refine apart.imp ?_
    intro dep other different
    refine List.disjoint_left.mpr ?_
    intro task first second
    obtain ⟨region, _, rfl⟩ := List.mem_map.mp first
    obtain ⟨region', _, same⟩ := List.mem_map.mp second
    simp only [CheckTask.mk.injEq] at same
    exact different same.1.symm

/-! ## A run that nothing disturbs -/

private theorem dispatchDependency_sends (breaker : CircuitBreaker.BreakerStore) (now : Instant)
    (log : List Dispatch) (dep : ScheduledDependency) (dueTime : Nat) :
    (dispatchDependency breaker now log dep).map (fun d => (d.dependencyId, d.region)) =
      ((dep.regionsToCheck.map (fun region => (⟨dep.id, region, dueTime⟩ : CheckTask))).map
        (fun t => (t.dependencyId, t.region))).reverse ++
        log.map (fun d => (d.dependencyId, d.region)) := by
  unfold dispatchDependency
  induction dep.regionsToCheck generalizing log with
  | nil => rfl
  | cons region rest ih =>
    rw [List.foldl_cons, ih]
    simp

/-- It sends what the scheduler sends in one piece. -/
theorem scheduleDueChecks_sends (s : Monitoring) (advances : Uuid → Nat)
    (due : List ScheduledDependency) :
    (scheduleDueChecks s due).dispatches.map (fun d => (d.dependencyId, d.region)) =
      ((dueTasks advances due).map (fun t => (t.dependencyId, t.region))).reverse ++
        s.dispatches.map (fun d => (d.dependencyId, d.region)) := by
  unfold scheduleDueChecks dueTasks
  dsimp only
  generalize s.dispatches = log
  induction due generalizing log with
  | nil => rfl
  | cons dep rest ih =>
    rw [List.foldl_cons, ih, dispatchDependency_sends s.breaker s.clock log dep (advances dep.id)]
    simp [List.flatMap_cons]

end Reliastra.Source.Checks
