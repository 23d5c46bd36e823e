import Reliastra.Library.Histories
import Reliastra.Library.Run
import Reliastra.Source.Core.CircuitBreaker

/-!
# The circuit and the outcomes behind it

Whether a circuit is open can be read off the recorded outcomes: some run of three
failures has not been followed by two successes in a row. While it is open, probes
are a lease apart, and none goes out in the half-open interval after a failure that
was at least the third in a row. A single failure of a probe does not restart the
interval.
-/

namespace Reliastra.Guarantees.CircuitHistory

open Reliastra.Library Reliastra.Library.History Reliastra.Source Reliastra.Source.CircuitBreaker

/-! ## Calls -/

inductive CallKind where
  | recordSuccess
  | recordFailure
  | shouldDispatch
  deriving DecidableEq, Repr

/-- A call on the breaker, and the time it is made. -/
structure BreakerCall where
  dependencyId : Uuid
  now : Instant
  kind : CallKind
  deriving DecidableEq, Repr

/-- What a call leaves in Redis. -/
def perform (store : BreakerStore) (call : BreakerCall) : BreakerStore :=
  match call.kind with
  | .recordSuccess => recordSuccess store call.dependencyId
  | .recordFailure => recordFailure store call.dependencyId call.now
  | .shouldDispatch => (shouldDispatch store call.dependencyId call.now).1

/-- The store after the calls, one after the other. -/
def afterCalls (calls : List BreakerCall) : BreakerStore := Run.exec perform .empty calls

def BreakerCall.outcomeFor (dependencyId : Uuid) (call : BreakerCall) : Option Outcome :=
  if call.dependencyId = dependencyId then
    match call.kind with
    | .recordSuccess => some .success
    | .recordFailure => some .failure
    | .shouldDispatch => none
  else none

/-- The outcomes recorded for the dependency. -/
def outcomes (dependencyId : Uuid) (calls : List BreakerCall) : List Outcome :=
  calls.filterMap (BreakerCall.outcomeFor dependencyId)

/-- No call is made before the one it follows. -/
def Ordered (calls : List BreakerCall) : Prop :=
  calls.Pairwise (fun first second => first.now ≤ second.now)

instance (calls : List BreakerCall) : Decidable (Ordered calls) :=
  inferInstanceAs (Decidable (List.Pairwise _ _))

/-! ## The semantics -/

/-- The circuit is open, and the breaker lets a check of the dependency pass. -/
structure Probes (dependencyId : Uuid) (earlier : List BreakerCall) (call : BreakerCall) :
    Prop where
  asks : call.kind = .shouldDispatch
  ofDependency : call.dependencyId = dependencyId
  opened : ((afterCalls earlier).load dependencyId).state = .opened
  allowed : (shouldDispatch (afterCalls earlier) dependencyId call.now).2 = true

/-- A failure of the dependency was recorded at this time. -/
def FailedAt (dependencyId : Uuid) (calls : List BreakerCall) (time : Instant) : Prop :=
  ∃ before call, before ++ [call] <+: calls ∧ call.outcomeFor dependencyId = some .failure ∧
    call.now = time

/-- A failure of the dependency was recorded at this time that was at least the
third in a row. -/
def TrippedAt (dependencyId : Uuid) (calls : List BreakerCall) (time : Instant) : Prop :=
  ∃ before call, before ++ [call] <+: calls ∧ call.outcomeFor dependencyId = some .failure ∧
    List.replicate failureThreshold .failure <:+ outcomes dependencyId (before ++ [call]) ∧
    call.now = time

/-- What the breaker does over a sequence of calls; `restarts` are the failures
after which probes wait for the half-open interval. -/
structure Semantics (restarts : Uuid → List BreakerCall → Instant → Prop) (dependencyId : Uuid)
    (calls : List BreakerCall) : Prop where
  opened : ((afterCalls calls).load dependencyId).state = .opened ↔
    Unanswered .failure failureThreshold .success successThreshold (outcomes dependencyId calls)
  spaced : ∀ before call middle next, before ++ call :: middle ++ [next] <+: calls →
    outcomes dependencyId middle = [] → Probes dependencyId before call →
    Probes dependencyId (before ++ call :: middle) next →
    call.now + secondsToMicros probeLeaseSeconds ≤ next.now
  waits : ∀ before call, before ++ [call] <+: calls → Probes dependencyId before call →
    ∀ time, restarts dependencyId before time →
      time + secondsToMicros halfOpenIntervalSeconds ≤ call.now

/-! ## One call -/

variable {dependencyId : Uuid}

theorem afterCalls_concat (calls : List BreakerCall) (call : BreakerCall) :
    afterCalls (calls ++ [call]) = perform (afterCalls calls) call :=
  Run.exec_concat _ _ _

theorem outcomes_concat (calls : List BreakerCall) (call : BreakerCall) :
    outcomes dependencyId (calls ++ [call]) =
      outcomes dependencyId calls ++ (call.outcomeFor dependencyId).toList := by
  unfold outcomes
  rw [List.filterMap_append]
  cases outcome : call.outcomeFor dependencyId with
  | none => rw [List.filterMap_cons_none outcome]; rfl
  | some recorded => rw [List.filterMap_cons_some outcome]; rfl

theorem shouldDispatch_load (store : BreakerStore) (id : Uuid) (now : Instant) :
    (shouldDispatch store id now).1.load dependencyId = store.load dependencyId := by
  simp only [shouldDispatch]
  split
  · rfl
  split
  · rfl
  split <;> rfl

private theorem load_save_of_ne {store : BreakerStore} {id : Uuid} (other : id ≠ dependencyId)
    (circuit : Circuit) : (store.save id circuit).load dependencyId = store.load dependencyId := by
  simp [BreakerStore.save, BreakerStore.load, Ne.symm other]

/-- The circuit of a dependency after a call. -/
theorem perform_load (store : BreakerStore) (call : BreakerCall) :
    (perform store call).load dependencyId =
      match call.outcomeFor dependencyId with
      | some outcome => (store.load dependencyId).after call.now outcome
      | none => store.load dependencyId := by
  obtain ⟨id, now, kind⟩ := call
  by_cases same : id = dependencyId
  · subst same
    cases kind with
    | recordSuccess =>
      simp only [perform, BreakerCall.outcomeFor, if_true]
      exact recordSuccess_load store id now
    | recordFailure =>
      simp only [perform, BreakerCall.outcomeFor, if_true]
      exact recordFailure_load store id now
    | shouldDispatch =>
      simp only [perform, BreakerCall.outcomeFor, if_true]
      exact shouldDispatch_load store id now
  · simp only [perform, BreakerCall.outcomeFor, if_neg same]
    cases kind with
    | recordSuccess =>
      simp only [recordSuccess]
      split
      · exact load_save_of_ne same _
      · exact load_save_of_ne same _
    | recordFailure => exact load_save_of_ne same _
    | shouldDispatch => exact shouldDispatch_load store id now

theorem trippedAt_concat {calls : List BreakerCall} {call : BreakerCall} {time : Instant}
    (tripped : TrippedAt dependencyId (calls ++ [call]) time) :
    TrippedAt dependencyId calls time ∨
      call.outcomeFor dependencyId = some .failure ∧
        List.replicate failureThreshold .failure <:+ outcomes dependencyId (calls ++ [call]) ∧
        call.now = time := by
  obtain ⟨before, failed, place, failure, third, at_time⟩ := tripped
  rcases List.prefix_concat_iff.mp place with equal | earlier
  · obtain ⟨rfl, last⟩ := List.append_inj' equal rfl
    obtain rfl : failed = call := List.singleton_inj.mp last
    exact .inr ⟨failure, third, at_time⟩
  · exact .inl ⟨before, failed, earlier, failure, third, at_time⟩

/-! ## The stored counters and the history -/

/-- What the circuit says about the calls behind it. -/
structure Tracks (dependencyId : Uuid) (calls : List BreakerCall) (circuit : Circuit) : Prop where
  failures : circuit.failures = trailing .failure (outcomes dependencyId calls)
  opened : circuit.state = .opened ↔
    Unanswered .failure failureThreshold .success successThreshold (outcomes dependencyId calls)
  successes : circuit.state = .opened →
    circuit.successes = trailing .success (outcomes dependencyId calls)
  since : circuit.state = .opened →
    ∀ time, TrippedAt dependencyId calls time → time ≤ circuit.openedSince

theorem tracks_empty : Tracks dependencyId [] emptyState :=
  ⟨rfl, ⟨nofun, fun open' => absurd open' (not_unanswered_nil (by decide))⟩, nofun, nofun⟩

/-- A call that records nothing for the dependency. -/
theorem Tracks.skip {calls : List BreakerCall} {circuit : Circuit} {call : BreakerCall}
    (tracks : Tracks dependencyId calls circuit)
    (nothing : call.outcomeFor dependencyId = none) :
    Tracks dependencyId (calls ++ [call]) circuit := by
  have same : outcomes dependencyId (calls ++ [call]) = outcomes dependencyId calls := by
    rw [outcomes_concat, nothing]
    exact List.append_nil _
  refine ⟨by rw [same]; exact tracks.failures, by rw [same]; exact tracks.opened,
    fun opened => by rw [same]; exact tracks.successes opened, fun opened time tripped => ?_⟩
  rcases trippedAt_concat tripped with earlier | ⟨failure, _⟩
  · exact tracks.since opened time earlier
  · rw [nothing] at failure
    cases failure

theorem Tracks.succeed {calls : List BreakerCall} {circuit : Circuit} {call : BreakerCall}
    (tracks : Tracks dependencyId calls circuit)
    (success : call.outcomeFor dependencyId = some .success) :
    Tracks dependencyId (calls ++ [call]) (circuit.after call.now .success) := by
  have grown : outcomes dependencyId (calls ++ [call]) =
      outcomes dependencyId calls ++ [.success] := by
    rw [outcomes_concat, success]
    rfl
  have reset := unanswered_concat_reset (a := Outcome.failure) (b := .success)
    (m := failureThreshold) (n := successThreshold) (by decide) (by decide)
    (outcomes dependencyId calls)
  rw [← grown, ← tracks.opened, grown, trailing_concat_self] at reset
  unfold Circuit.after
  by_cases closes : successThreshold ≤ circuit.successes + 1
  · simp only [if_pos closes]
    refine ⟨?_, ⟨nofun, fun unanswered => ?_⟩, nofun, nofun⟩
    · rw [grown, trailing_concat_of_ne (by decide)]
    · rw [grown] at unanswered
      obtain ⟨opened, few⟩ := reset.mp unanswered
      rw [tracks.successes opened] at closes
      omega
  · simp only [if_neg closes]
    refine ⟨?_, ⟨fun opened => ?_, fun unanswered => ?_⟩, fun opened => ?_,
      fun opened time tripped => ?_⟩
    · rw [grown, trailing_concat_of_ne (by decide)]
    · rw [grown]
      refine reset.mpr ⟨opened, ?_⟩
      rw [← tracks.successes opened]
      omega
    · rw [grown] at unanswered
      exact (reset.mp unanswered).1
    · rw [grown, trailing_concat_self, ← tracks.successes opened]
    · rcases trippedAt_concat tripped with earlier | ⟨failure, _⟩
      · exact tracks.since opened time earlier
      · rw [success] at failure
        cases failure

theorem Tracks.fail {calls : List BreakerCall} {circuit : Circuit} {call : BreakerCall}
    (tracks : Tracks dependencyId calls circuit)
    (failure : call.outcomeFor dependencyId = some .failure)
    (latest : ∀ earlier ∈ calls, earlier.now ≤ call.now) :
    Tracks dependencyId (calls ++ [call]) (circuit.after call.now .failure) := by
  have grown : outcomes dependencyId (calls ++ [call]) =
      outcomes dependencyId calls ++ [.failure] := by
    rw [outcomes_concat, failure]
    rfl
  have trigger := unanswered_concat_trigger (a := Outcome.failure) (b := .success)
    (m := failureThreshold) (n := successThreshold) (by decide) (by decide)
    (outcomes dependencyId calls)
  rw [← tracks.opened, trailing_concat_self, ← tracks.failures] at trigger
  unfold Circuit.after
  by_cases opens : failureThreshold ≤ circuit.failures + 1
  · simp only [if_pos opens]
    refine ⟨?_, ⟨fun _ => ?_, fun _ => rfl⟩, fun _ => ?_, fun _ time tripped => ?_⟩
    · rw [grown, trailing_concat_self, tracks.failures]
    · rw [grown]
      exact trigger.mpr (.inr opens)
    · rw [grown, trailing_concat_of_ne (by decide)]
    · rcases trippedAt_concat tripped with ⟨before, failed, place, _, _, rfl⟩ | ⟨_, _, rfl⟩
      · exact latest failed (place.subset (by simp))
      · exact Int.le_refl call.now
  · simp only [if_neg opens]
    refine ⟨?_, ⟨fun opened => ?_, fun unanswered => ?_⟩, fun _ => ?_, fun opened time tripped => ?_⟩
    · rw [grown, trailing_concat_self, tracks.failures]
    · rw [grown]
      exact trigger.mpr (.inl opened)
    · rw [grown] at unanswered
      exact (trigger.mp unanswered).resolve_right opens
    · rw [grown, trailing_concat_of_ne (by decide)]
    · rcases trippedAt_concat tripped with earlier | ⟨_, third, _⟩
      · exact tracks.since opened time earlier
      · rw [replicate_suffix_iff, grown, trailing_concat_self, ← tracks.failures] at third
        exact absurd third opens

theorem tracks_afterCalls (calls : List BreakerCall) (ordered : Ordered calls) :
    Tracks dependencyId calls ((afterCalls calls).load dependencyId) := by
  induction calls using List.reverseRecOn with
  | nil => exact tracks_empty
  | append_singleton calls call ih =>
    obtain ⟨before, _, latest⟩ := List.pairwise_append.mp ordered
    have tracks := ih before
    rw [afterCalls_concat, perform_load]
    cases outcome : call.outcomeFor dependencyId with
    | none => exact tracks.skip outcome
    | some recorded =>
      cases recorded with
      | success => exact tracks.succeed outcome
      | failure =>
        exact tracks.fail outcome (fun earlier member => latest earlier member call (by simp))

/-! ## Probes -/

theorem Ordered.of_prefix {calls part : List BreakerCall} (ordered : Ordered calls)
    (place : part <+: calls) : Ordered part := ordered.sublist place.sublist

theorem Probes.allowed_iff {before : List BreakerCall} {call : BreakerCall}
    (probes : Probes dependencyId before call) :
    ¬ ((afterCalls before).load dependencyId).Cooling call.now ∧
      ¬ (afterCalls before).Leased dependencyId call.now :=
  (shouldDispatch_iff _ _ _).mp probes.allowed probes.opened

/-- A probe takes the lease. -/
theorem Probes.lease {before : List BreakerCall} {call : BreakerCall}
    (probes : Probes dependencyId before call) :
    (perform (afterCalls before) call).probes dependencyId =
      some (call.now + secondsToMicros probeLeaseSeconds) := by
  obtain ⟨warm, free⟩ := probes.allowed_iff
  simp only [perform, probes.asks, shouldDispatch, probes.ofDependency, probes.opened,
    ne_eq, not_true_eq_false, if_false, if_neg warm, if_neg free, if_true]

/-- While nothing is recorded for the dependency, the lease can only be renewed. -/
theorem perform_lease {store : BreakerStore} {call : BreakerCall} {time expiresAt : Instant}
    (nothing : call.outcomeFor dependencyId = none) (later : time ≤ call.now)
    (leased : store.probes dependencyId = some expiresAt)
    (lasts : time + secondsToMicros probeLeaseSeconds ≤ expiresAt) :
    ∃ expiresAt, (perform store call).probes dependencyId = some expiresAt ∧
      time + secondsToMicros probeLeaseSeconds ≤ expiresAt := by
  obtain ⟨id, now, kind⟩ := call
  cases kind with
  | recordSuccess =>
    have other : dependencyId ≠ id := by
      rintro rfl
      simp [BreakerCall.outcomeFor] at nothing
    simp only [perform, recordSuccess, BreakerStore.save]
    split
    · exact ⟨expiresAt, by rw [← leased]; exact if_neg other, lasts⟩
    · exact ⟨expiresAt, leased, lasts⟩
  | recordFailure => exact ⟨expiresAt, leased, lasts⟩
  | shouldDispatch =>
    simp only [perform, shouldDispatch]
    split
    · exact ⟨expiresAt, leased, lasts⟩
    split
    · exact ⟨expiresAt, leased, lasts⟩
    split
    · exact ⟨expiresAt, leased, lasts⟩
    · by_cases same : dependencyId = id
      · exact ⟨now + secondsToMicros probeLeaseSeconds, if_pos same,
          Int.add_le_add_right later _⟩
      · exact ⟨expiresAt, (if_neg same).trans leased, lasts⟩

theorem exec_lease {store : BreakerStore} {calls : List BreakerCall} {time expiresAt : Instant}
    (nothing : outcomes dependencyId calls = []) (later : ∀ call ∈ calls, time ≤ call.now)
    (leased : store.probes dependencyId = some expiresAt)
    (lasts : time + secondsToMicros probeLeaseSeconds ≤ expiresAt) :
    ∃ expiresAt, (Run.exec perform store calls).probes dependencyId = some expiresAt ∧
      time + secondsToMicros probeLeaseSeconds ≤ expiresAt := by
  induction calls generalizing store expiresAt with
  | nil => exact ⟨expiresAt, leased, lasts⟩
  | cons call rest ih =>
    have quiet := List.filterMap_eq_nil_iff.mp nothing
    obtain ⟨renewed, held, enough⟩ := perform_lease (quiet call (by simp)) (later call (by simp))
      leased lasts
    exact ih (List.filterMap_eq_nil_iff.mpr (fun other member => quiet other (by simp [member])))
      (fun other member => later other (by simp [member])) held enough

/-- Two probes with no outcome in between are a lease apart. -/
theorem probes_spaced {before middle : List BreakerCall} {call next : BreakerCall}
    (ordered : Ordered (before ++ call :: middle))
    (nothing : outcomes dependencyId middle = []) (probes : Probes dependencyId before call)
    (again : Probes dependencyId (before ++ call :: middle) next) :
    call.now + secondsToMicros probeLeaseSeconds ≤ next.now := by
  have later : ∀ other ∈ middle, call.now ≤ other.now :=
    (List.pairwise_cons.mp (List.pairwise_append.mp ordered).2.1).1
  obtain ⟨expiresAt, held, enough⟩ := exec_lease nothing later probes.lease (Int.le_refl _)
  have store : afterCalls (before ++ call :: middle) =
      Run.exec perform (perform (afterCalls before) call) middle := by
    unfold afterCalls
    rw [Run.exec_append, Run.exec_cons]
  have free := again.allowed_iff.2
  rw [store] at free
  by_contra early
  exact free ⟨expiresAt, held, Int.lt_of_lt_of_le (Int.not_le.mp early) enough⟩

theorem probes_wait {before : List BreakerCall} {call : BreakerCall} (ordered : Ordered before)
    (probes : Probes dependencyId before call) {time : Instant}
    (tripped : TrippedAt dependencyId before time) :
    time + secondsToMicros halfOpenIntervalSeconds ≤ call.now := by
  have since := (tracks_afterCalls before ordered).since probes.opened time tripped
  by_contra early
  have soon : call.now < ((afterCalls before).load dependencyId).openedSince +
      secondsToMicros halfOpenIntervalSeconds :=
    Int.lt_of_lt_of_le (Int.not_le.mp early) (Int.add_le_add_right since _)
  exact probes.allowed_iff.1 ⟨probes.opened, Int.sub_left_lt_of_lt_add soon⟩

/-! ## The whole sequence -/

/-- What the breaker does, for every sequence of calls on any dependencies. -/
theorem circuit_semantics (dependencyId : Uuid) (calls : List BreakerCall)
    (ordered : Ordered calls) : Semantics TrippedAt dependencyId calls := by
  refine ⟨(tracks_afterCalls calls ordered).opened, ?_, ?_⟩
  · intro before call middle next place nothing probes again
    have part : before ++ call :: middle <+: calls := (List.prefix_append _ _).trans place
    exact probes_spaced (ordered.of_prefix part) nothing probes again
  · intro before call place probes time tripped
    exact probes_wait (ordered.of_prefix ((List.prefix_append _ _).trans place)) probes tripped

/-- Three failures, and after the interval a success and another failure. -/
def failedProbe : List BreakerCall :=
  [⟨1, 0, .recordFailure⟩, ⟨1, 0, .recordFailure⟩, ⟨1, 0, .recordFailure⟩,
    ⟨1, secondsToMicros 61, .recordSuccess⟩, ⟨1, secondsToMicros 62, .recordFailure⟩,
    ⟨1, secondsToMicros 63, .shouldDispatch⟩]

theorem circuit_semantics_failedProbe : Semantics TrippedAt 1 failedProbe :=
  circuit_semantics 1 failedProbe (by decide)

/-- The breaker lets a probe pass one second after the last failure. -/
theorem probe_after_failure : Ordered failedProbe ∧ ¬ Semantics FailedAt 1 failedProbe := by
  refine ⟨by decide, fun semantics => ?_⟩
  have probe : Probes 1 (failedProbe.take 5) ⟨1, secondsToMicros 63, .shouldDispatch⟩ :=
    ⟨rfl, rfl, by decide, by decide⟩
  have early := semantics.waits (failedProbe.take 5) _ (by decide) probe (secondsToMicros 62)
    ⟨failedProbe.take 4, ⟨1, secondsToMicros 62, .recordFailure⟩, by decide, by decide, rfl⟩
  exact absurd early (by decide)

end Reliastra.Guarantees.CircuitHistory
