import Reliastra.Source.Checks.Scheduler
import Mathlib.Data.List.Perm.Basic
import Reliastra.Source.Core.CircuitBreaker

/-!
# Does an open circuit stop checks?

The scheduler never asks the breaker. So a run respects the circuits exactly
when it never meets a due dependency that the breaker would have refused: one
whose circuit is cooling down, was probed less than a lease ago, or has several
regions, each of which is a probe.
-/

namespace Reliastra.Guarantees.CircuitDispatch

open Reliastra.Library Source Source.Checks Source.CircuitBreaker

/-! ## The property -/

/-- The dispatch goes to a circuit that is not open, or it is the first probe of
its lease and the half-open interval has passed. -/
def Admitted (dispatch : Dispatch) (earlier : List Dispatch) : Prop :=
  dispatch.circuit.state = .opened →
    ¬ dispatch.circuit.Cooling dispatch.dispatchedAt ∧
      ∀ probe ∈ earlier, probe.dependencyId = dispatch.dependencyId →
        probe.circuit.state = .opened →
        secondsToMicros probeLeaseSeconds ≤ dispatch.dispatchedAt - probe.dispatchedAt

/-- Every dispatch of the log was admitted, given the ones before it. -/
def RespectsCircuits : List Dispatch → Prop
  | [] => True
  | dispatch :: earlier => Admitted dispatch earlier ∧ RespectsCircuits earlier

/-! ## The condition -/

/-- The breaker has no objection to one task of the dependency for each of its
regions. -/
def Unobjectionable (breaker : BreakerStore) (now : Instant) (log : List Dispatch)
    (dep : ScheduledDependency) : Prop :=
  (breaker.load dep.id).state = .opened →
    ¬ (breaker.load dep.id).Cooling now ∧ dep.regionsToCheck.length = 1 ∧
      ∀ probe ∈ log, probe.dependencyId = dep.id → probe.circuit.state = .opened →
        secondsToMicros probeLeaseSeconds ≤ now - probe.dispatchedAt

/-- When the scheduler runs, the breaker has no objection to any due dependency
it reads. -/
def NoneRefused (s : Monitoring) (action : MonitoringAction) : Prop :=
  match action with
  | .scheduleDueChecks due =>
    DueAnswer s.dependencies s.clock due →
      ∀ dep ∈ due, Unobjectionable s.breaker s.clock s.dispatches dep
  | _ => True

/-! ## One dependency -/

theorem regionsToCheck_ne_nil (dep : ScheduledDependency) : dep.regionsToCheck ≠ [] := by
  unfold ScheduledDependency.regionsToCheck
  split
  · decide
  · assumption

theorem RespectsCircuits.of_append {log : List Dispatch} (newer : List Dispatch)
    (respects : RespectsCircuits (newer ++ log)) : RespectsCircuits log := by
  induction newer with
  | nil => exact respects
  | cons dispatch rest ih => exact ih respects.2

/-- The tasks of one dependency, in front of the log. -/
theorem dispatchDependency_eq (breaker : BreakerStore) (now : Instant) (log : List Dispatch)
    (dep : ScheduledDependency) :
    dispatchDependency breaker now log dep =
      (dep.regionsToCheck.map
        (fun region => (⟨dep.id, region, now, breaker.load dep.id⟩ : Dispatch))).reverse ++ log := by
  unfold dispatchDependency
  generalize dep.regionsToCheck = regions
  induction regions generalizing log with
  | nil => rfl
  | cons region rest ih =>
    rw [List.foldl_cons, ih, List.map_cons, List.reverse_cons, List.append_assoc]
    rfl

theorem respects_of_notOpened {dispatches log : List Dispatch}
    (notOpened : ∀ dispatch ∈ dispatches, dispatch.circuit.state ≠ .opened) :
    RespectsCircuits (dispatches ++ log) ↔ RespectsCircuits log := by
  induction dispatches with
  | nil => exact Iff.rfl
  | cons dispatch rest ih =>
    have step := ih (fun other member => notOpened other (List.mem_cons_of_mem _ member))
    rw [List.cons_append, RespectsCircuits, step]
    constructor
    · exact fun both => both.2
    · intro respects
      exact ⟨fun opened => absurd opened (notOpened dispatch List.mem_cons_self), respects⟩

/-- Two probes of one run are two probes of one lease. -/
theorem not_respects_twice {first second : Dispatch} {log : List Dispatch}
    (same : second.dependencyId = first.dependencyId)
    (moment : second.dispatchedAt = first.dispatchedAt)
    (opened : first.circuit.state = .opened) (opened' : second.circuit.state = .opened) :
    ¬ RespectsCircuits (second :: first :: log) := by
  intro ⟨admitted, _⟩
  have apart := (admitted opened').2 first List.mem_cons_self same.symm opened
  rw [moment, sub_self] at apart
  exact absurd apart (by decide)

theorem respects_dispatchDependency (breaker : BreakerStore) (now : Instant)
    (log : List Dispatch) (dep : ScheduledDependency) :
    RespectsCircuits (dispatchDependency breaker now log dep) ↔
      RespectsCircuits log ∧ Unobjectionable breaker now log dep := by
  rw [dispatchDependency_eq]
  by_cases opened : (breaker.load dep.id).state = .opened
  · have many := regionsToCheck_ne_nil dep
    unfold Unobjectionable
    generalize dep.regionsToCheck = regions at many ⊢
    match regions, many with
    | [region], _ =>
      simp only [List.map_cons, List.map_nil, List.reverse_cons, List.reverse_nil,
        List.nil_append, List.cons_append, RespectsCircuits, Admitted, opened, true_imp_iff,
        List.length_singleton, true_and]
      exact and_comm
    | first :: second :: rest, _ =>
      have crowded : ¬ (first :: second :: rest).length = 1 := by simp
      simp only [crowded, false_and, and_false, opened, true_imp_iff, iff_false]
      intro respects
      simp only [List.map_cons, List.reverse_cons, List.append_assoc, List.cons_append,
        List.nil_append] at respects
      have pair := respects.of_append _
      exact absurd pair (not_respects_twice rfl rfl opened opened)
  · have objection : Unobjectionable breaker now log dep := fun h => absurd h opened
    rw [respects_of_notOpened]
    · simp only [objection, and_true]
    · intro dispatch member
      simp only [List.mem_reverse, List.mem_map] at member
      obtain ⟨region, _, rfl⟩ := member
      exact opened

/-! ## One run of the scheduler -/

/-- The tasks of one dependency are no objection to another one. -/
theorem unobjectionable_other (breaker : BreakerStore) (now : Instant) (log : List Dispatch)
    {dep other : ScheduledDependency} (different : other.id ≠ dep.id) :
    Unobjectionable breaker now (dispatchDependency breaker now log dep) other ↔
      Unobjectionable breaker now log other := by
  rw [dispatchDependency_eq]
  have foreign : ∀ region, (⟨dep.id, region, now, breaker.load dep.id⟩ : Dispatch).dependencyId ≠
      other.id := fun _ same => different same.symm
  unfold Unobjectionable
  apply imp_congr_right
  intro opened
  apply and_congr_right
  intro _
  apply and_congr_right
  intro _
  constructor
  · intro spaced probe member
    exact spaced probe (List.mem_append_right _ member)
  · intro spaced probe member same
    rcases List.mem_append.mp member with own | member
    · simp only [List.mem_reverse, List.mem_map] at own
      obtain ⟨region, _, rfl⟩ := own
      exact absurd same (foreign region)
    · exact spaced probe member same

theorem respects_schedule (breaker : BreakerStore) (now : Instant) (log : List Dispatch)
    {due : List ScheduledDependency} (distinct : (due.map ScheduledDependency.id).Nodup) :
    RespectsCircuits (due.foldl (dispatchDependency breaker now) log) ↔
      RespectsCircuits log ∧ ∀ dep ∈ due, Unobjectionable breaker now log dep := by
  induction due generalizing log with
  | nil => simp
  | cons dep rest ih =>
    rw [List.map_cons, List.nodup_cons] at distinct
    have others : (∀ other ∈ rest,
        Unobjectionable breaker now (dispatchDependency breaker now log dep) other) ↔
        ∀ other ∈ rest, Unobjectionable breaker now log other := by
      apply forall₂_congr
      intro other member
      apply unobjectionable_other
      intro same
      exact distinct.1 (List.mem_map.mpr ⟨other, member, same⟩)
    rw [List.foldl_cons, ih _ distinct.2, respects_dispatchDependency, others,
      List.forall_mem_cons, and_assoc]

theorem respects_step (s : Monitoring) (action : MonitoringAction) :
    RespectsCircuits (monitoringStep s action).dispatches ↔
      RespectsCircuits s.dispatches ∧ NoneRefused s action := by
  cases action with
  | elapse micros => simp [monitoringStep, NoneRefused]
  | recordSuccess dependencyId => simp [monitoringStep, NoneRefused]
  | recordFailure dependencyId => simp [monitoringStep, NoneRefused]
  | scheduleDueChecks due =>
    by_cases answered : DueAnswer s.dependencies s.clock due
    · simp only [monitoringStep, answered, if_true, NoneRefused, true_imp_iff]
      exact respects_schedule s.breaker s.clock s.dispatches answered.2.1
    · simp only [monitoringStep, answered, if_false, NoneRefused, false_imp_iff, and_true]

/-! ## Main result -/

def started (dependencies : Table ScheduledDependency.id) (breaker : BreakerStore)
    (clock : Instant) : Monitoring := ⟨dependencies, breaker, clock, []⟩

theorem respects_run (s : Monitoring) (run : List MonitoringAction) :
    RespectsCircuits (Run.exec monitoringStep s run).dispatches ↔
      RespectsCircuits s.dispatches ∧ Run.AllSteps monitoringStep NoneRefused s run := by
  induction run generalizing s with
  | nil => simp [Run.AllSteps]
  | cons action rest ih =>
    rw [Run.exec_cons, ih, respects_step, Run.AllSteps, and_assoc]

/-- No check is dispatched into an open circuit, but for one probe a lease, exactly
when the breaker has no objection whenever the scheduler runs. -/
theorem circuits_respected_iff (dependencies : Table ScheduledDependency.id)
    (breaker : BreakerStore) (clock : Instant) (run : List MonitoringAction) :
    RespectsCircuits
        (Run.exec monitoringStep (started dependencies breaker clock) run).dispatches ↔
      Run.AllSteps monitoringStep NoneRefused (started dependencies breaker clock) run := by
  rw [respects_run]
  simp only [started, RespectsCircuits, true_and]

/-! ## A dependency that is down -/

def deadDependency : ScheduledDependency := ⟨1, true, false, some 0, 60, ["us-east"]⟩

/-- Three failures open the circuit; the scheduler runs a second later. -/
def threeFailures : List MonitoringAction :=
  [.recordFailure 1, .recordFailure 1, .recordFailure 1, .elapse 1000000]

def deadStart : Monitoring := started ⟨[deadDependency], by decide⟩ .empty 0

/-- The breaker refuses the check, and the scheduler dispatches it. -/
theorem dispatched_into_open_circuit :
    (shouldDispatch (Run.exec monitoringStep deadStart threeFailures).breaker 1
        (Run.exec monitoringStep deadStart threeFailures).clock).2 = false ∧
      ¬ RespectsCircuits (Run.exec monitoringStep deadStart
        (threeFailures ++ [.scheduleDueChecks [deadDependency]])).dispatches := by
  refine ⟨by decide, ?_⟩
  intro ⟨admitted, _⟩
  exact (admitted rfl).1 (by decide)

end Reliastra.Guarantees.CircuitDispatch

/-!
## Outcomes recorded side by side

A worker saves what it made of the state it loaded, so an outcome that another
worker saved in between is lost. When every save meets the state it was computed
from, the stored state is that of the outcomes applied one after the other, in the
order they were saved.
-/

namespace Reliastra.Guarantees.BreakerRecording

open Reliastra.Library Reliastra.Source Reliastra.Source.CircuitBreaker

/-- What the breaker counts; the time of the opening is left out. -/
def counts (circuit : Circuit) : BreakerState × Nat × Nat :=
  (circuit.state, circuit.failures, circuit.successes)

/-- The outcomes applied one after the other. -/
def serially (circuit : Circuit) (outcomes : List Outcome) : Circuit :=
  outcomes.foldl (fun circuit outcome => circuit.after 0 outcome) circuit

/-- Some order of the recorded outcomes leads to what is stored. -/
def Linear (dependencyId : Uuid) (initial : Circuit) (s : RecordingStore) : Prop :=
  ∃ outcomes : List Outcome, outcomes.Perm s.recorded ∧
    counts (s.redis.load dependencyId) = counts (serially initial outcomes)

variable {ι : Type} [DecidableEq ι] {dependencyId : Uuid}

/-- A worker that saves finds the state it has loaded. -/
def Undisturbed (dependencyId : Uuid) (w : World RecordingStore ι RecorderPhase) :
    ι × RecorderAct → Prop
  | (i, .save _) => ∀ outcome circuit,
      w.locals i = .loaded outcome circuit ∨ w.locals i = .cleared outcome circuit →
        counts circuit = counts (w.shared.redis.load dependencyId)
  | (_, .load _) => True
  | (_, .clearProbe) => True

/-! ## One command -/

/-- The counts after an outcome depend on the counts before it alone. -/
theorem counts_after {circuit other : Circuit} (same : counts circuit = counts other)
    (now later : Instant) (outcome : Outcome) :
    counts (circuit.after now outcome) = counts (other.after later outcome) := by
  obtain ⟨state, failures, successes, openedAt⟩ := circuit
  obtain ⟨state', failures', successes', openedAt'⟩ := other
  simp only [counts, Prod.mk.injEq] at same
  obtain ⟨rfl, rfl, rfl⟩ := same
  cases outcome with
  | success =>
    by_cases closes : successThreshold ≤ successes + 1
    · simp [Circuit.after, counts, closes]
    · simp [Circuit.after, counts, closes]
  | failure =>
    by_cases opens : failureThreshold ≤ failures + 1
    · simp [Circuit.after, counts, opens]
    · simp [Circuit.after, counts, opens]

theorem load_save (s : RecordingStore) (outcome : Outcome) (circuit : Circuit) (now : Instant) :
    (s.save dependencyId outcome circuit now).redis.load dependencyId =
      circuit.after now outcome := by
  simp [RecordingStore.save, BreakerStore.save, BreakerStore.load]

/-- What is stored is what the saves made, one after the other. -/
def InOrder (dependencyId : Uuid) (initial : Circuit) (s : RecordingStore) : Prop :=
  counts (s.redis.load dependencyId) = counts (serially initial s.recorded)

theorem inOrder_save {s : RecordingStore} {initial circuit : Circuit}
    (inOrder : InOrder dependencyId initial s)
    (fresh : counts circuit = counts (s.redis.load dependencyId)) (outcome : Outcome)
    (now : Instant) : InOrder dependencyId initial (s.save dependencyId outcome circuit now) := by
  have recorded : (s.save dependencyId outcome circuit now).recorded = s.recorded ++ [outcome] := rfl
  unfold InOrder serially
  rw [load_save, recorded, List.foldl_append]
  exact counts_after (fresh.trans inOrder) now 0 outcome

theorem inOrder_step {w : World RecordingStore ι RecorderPhase} {initial : Circuit}
    (inOrder : InOrder dependencyId initial w.shared) (m : ι × RecorderAct)
    (undisturbed : Undisturbed dependencyId w m) :
    InOrder dependencyId initial (World.move (recordStep dependencyId) w m).shared := by
  obtain ⟨i, action⟩ := m
  cases action with
  | load outcome =>
    simp only [World.move, recordStep]
    split <;> exact inOrder
  | clearProbe =>
    simp only [World.move, recordStep]
    split
    · split <;> exact inOrder
    · exact inOrder
  | save now =>
    simp only [World.move, recordStep]
    split
    · next outcome circuit here =>
      split
      · exact inOrder
      · exact inOrder_save inOrder (undisturbed outcome circuit (.inl here)) outcome now
    · next outcome circuit here =>
      exact inOrder_save inOrder (undisturbed outcome circuit (.inr here)) outcome now
    · exact inOrder

/-! ## Any interleaving -/

/-- No worker has begun. -/
def started (store : BreakerStore) : World RecordingStore ι RecorderPhase :=
  ⟨⟨store, []⟩, fun _ => .idle⟩

/-- In a run whose saves all meet the state they were computed from, no outcome is
lost. -/
theorem linear_of_undisturbed (dependencyId : Uuid) (store : BreakerStore)
    (run : List (ι × RecorderAct))
    (undisturbed : Run.AllSteps (World.move (recordStep dependencyId)) (Undisturbed dependencyId)
      (started store) run) :
    Linear dependencyId (store.load dependencyId)
      (Run.exec (World.move (recordStep dependencyId)) (started store) run).shared := by
  have steps (w : World RecordingStore ι RecorderPhase) (m : ι × RecorderAct)
      (holds : InOrder dependencyId (store.load dependencyId) w.shared)
      (met : Undisturbed dependencyId w m) := inOrder_step holds m met
  have initial : InOrder dependencyId (store.load dependencyId)
      (started (ι := ι) store).shared := rfl
  have inOrder := Run.exec_invariant_of_allSteps steps (started store) run initial undisturbed
  exact ⟨_, List.Perm.refl _, inOrder⟩

/-! ## Two workers and three -/

/-- The second worker loads what the first has saved. -/
theorem linear_of_undisturbed_sample :
    Linear 7 emptyState (Run.exec (World.move (recordStep 7)) (started (ι := Fin 2) .empty)
      [(0, .load .failure), (0, .save 1), (1, .load .success), (1, .save 2)]).shared := by
  apply linear_of_undisturbed 7 .empty
  refine ⟨trivial, ?_, trivial, ?_, trivial⟩
  · rintro outcome circuit (loaded | cleared)
    · cases loaded
      rfl
    · cases cleared
  · rintro outcome circuit (loaded | cleared)
    · cases loaded
      rfl
    · cases cleared

/-- Three regions fail at once: the circuit counts one failure and stays closed. -/
def atOnce : List (Fin 3 × RecorderAct) :=
  [(0, .load .failure), (1, .load .failure), (2, .load .failure), (0, .save 1), (1, .save 1),
    (2, .save 1)]

/-- In every order three failures open the circuit. -/
theorem failures_lost :
    ¬ Linear 7 emptyState
      (Run.exec (World.move (recordStep 7)) (started (ι := Fin 3) .empty) atOnce).shared := by
  intro ⟨outcomes, perm, stored⟩
  have recorded : (Run.exec (World.move (recordStep 7)) (started (ι := Fin 3) .empty)
      atOnce).shared.recorded = List.replicate 3 .failure := rfl
  rw [recorded, List.perm_replicate] at perm
  rw [perm] at stored
  revert stored
  decide

end Reliastra.Guarantees.BreakerRecording
