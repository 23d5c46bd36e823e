import Reliastra.Library.Interleaving
import Reliastra.Source.Observations.Outbox

/-!
# Producers and processors of the outbox side by side

Source: `execute_check` of `app/modules/checks/service.py` as far as it writes
the result and its event, `app/modules/observations/outbox.py`, and
`_run_managed_session` of `app/infrastructure/async_tasks.py`, which gives every
task one transaction and one commit. A worker runs one task after another; its
transaction is cut where the database serves it.

`FOR UPDATE SKIP LOCKED` takes rows no other transaction has locked and holds
them until its transaction ends. A failed flush costs the transaction, so it is
an end of it, as is a crash or a rollback at any other point (`abort`).

Three records are kept that no step reads: the events producers committed, those
processors removed, and which observation was recorded for which event.
-/

namespace Reliastra.Source.Observations

open Reliastra.Library

structure EvidenceStore (ι : Type) where
  organizations : List Uuid
  results : List CheckResult
  outbox : Table OutboxEvent.id
  observations : List Observation
  /-- Who holds the row lock of an event. -/
  locks : Uuid → Option ι
  committed : List OutboxEvent
  removed : List OutboxEvent
  recorded : List (OutboxEvent × Observation)

/-- What a processor's commit will take from the outbox and add to the
observations. -/
structure Drained where
  removed : List OutboxEvent
  recorded : List (OutboxEvent × Observation)

inductive OutboxPhase where
  | idle
  /-- `CheckRepository.create` has flushed the result. -/
  | checked (result : CheckResult)
  | enqueued (result : CheckResult) (event : OutboxEvent)
  /-- Between two rounds of the loop over the locked events. -/
  | draining (rest : List OutboxEvent) (drained : Drained)
  /-- The observation of the event is inserted, its row not yet deleted. -/
  | recording (event : OutboxEvent) (observation : Observation) (rest : List OutboxEvent)
      (drained : Drained)

inductive OutboxAct where
  | createResult (result : CheckResult)
  /-- `result.quorum_confirmed = True`. -/
  | confirmQuorum
  | enqueue (endpointUrl method : String) (now : Instant) (newId : Uuid)
  | listPending (limit : Nat) (events : List OutboxEvent)
  | processEvent (now : Instant)
  | deleteEvent
  | commit
  | abort

variable {ι : Type}

/-- An answer of `list_pending`: oldest first, without what others have locked.
Beside other processors it may pass over a row that is free again by now. -/
structure PendingAnswer (s : EvidenceStore ι) (limit : Nat) (events : List OutboxEvent) : Prop where
  stored : ∀ e ∈ events, e ∈ s.outbox.rows
  unlocked : ∀ e ∈ events, s.locks e.id = none
  distinct : (events.map (·.id)).Nodup
  ordered : events.Pairwise Older
  limited : events.length ≤ limit

variable [DecidableEq ι]

instance (s : EvidenceStore ι) (limit : Nat) (events : List OutboxEvent) :
    Decidable (PendingAnswer s limit events) :=
  decidable_of_iff
    ((∀ e ∈ events, e ∈ s.outbox.rows) ∧ (∀ e ∈ events, s.locks e.id = none) ∧
      (events.map (·.id)).Nodup ∧ events.Pairwise Older ∧ events.length ≤ limit)
    ⟨fun ⟨a, b, c, d, e⟩ => ⟨a, b, c, d, e⟩, fun ⟨a, b, c, d, e⟩ => ⟨a, b, c, d, e⟩⟩

def EvidenceStore.lock (s : EvidenceStore ι) (i : ι) (events : List OutboxEvent) : EvidenceStore ι :=
  { s with locks := fun id => if id ∈ events.map (·.id) then some i else s.locks id }

/-- The end of a transaction. -/
def EvidenceStore.release (s : EvidenceStore ι) (i : ι) : EvidenceStore ι :=
  { s with locks := fun id => if s.locks id = some i then none else s.locks id }

/-- What a producer's commit makes visible; `none` is a duplicate key. -/
def EvidenceStore.publish (s : EvidenceStore ι) (result : CheckResult) (event : OutboxEvent) :
    Option (EvidenceStore ι) :=
  (s.outbox.insert event).map (fun outbox =>
    { s with
      results := s.results ++ [result]
      outbox := outbox
      committed := s.committed ++ [event] })

/-- What a processor's commit makes visible. -/
def EvidenceStore.drain (s : EvidenceStore ι) (drained : Drained) : EvidenceStore ι :=
  { s with
    outbox := s.outbox.deleteKeys (drained.removed.map (·.id))
    observations := s.observations ++ drained.recorded.map (·.2)
    removed := s.removed ++ drained.removed
    recorded := s.recorded ++ drained.recorded }

def outboxAct (codec : PayloadCodec) (i : ι) (s : EvidenceStore ι) (phase : OutboxPhase) :
    OutboxAct → EvidenceStore ι × OutboxPhase
  | .createResult result =>
    match phase with
    | .idle => (s, .checked result)
    | _ => (s, phase)
  | .confirmQuorum =>
    match phase with
    | .checked result => (s, .checked { result with quorumConfirmed := true })
    | _ => (s, phase)
  | .enqueue endpointUrl method now newId =>
    match phase with
    | .checked result =>
      match outboxEventOf codec result endpointUrl method now newId with
      | .ok event => (s, .enqueued result event)
      | .error _ => (s, .idle)
    | _ => (s, phase)
  | .listPending limit events =>
    match phase with
    | .idle =>
      if PendingAnswer s limit events then (s.lock i events, .draining events ⟨[], []⟩)
      else (s, phase)
    | _ => (s, phase)
  | .processEvent now =>
    match phase with
    | .draining (event :: rest) drained =>
      if event.eventType ≠ observationCreated then
        (s, .draining rest { drained with removed := drained.removed ++ [event] })
      else match codec.parse event.payload with
      -- the event stays pending for the next cycle
      | none => (s, .draining rest drained)
      | some dto =>
        if dto.val.Storable s.organizations then
          (s, .recording event (observationOf dto now) rest drained)
        else (s.release i, .idle)
    | _ => (s, phase)
  | .deleteEvent =>
    match phase with
    | .recording event observation rest drained =>
      (s, .draining rest
        ⟨drained.removed ++ [event], drained.recorded ++ [(event, observation)]⟩)
    | _ => (s, phase)
  | .commit =>
    match phase with
    | .enqueued result event => ((s.publish result event).getD s, .idle)
    | .draining [] drained => ((s.drain drained).release i, .idle)
    | _ => (s, phase)
  | .abort => (s.release i, .idle)

/-! ## One processor alone -/

/-- The tables `process_outbox` reads and writes. -/
def EvidenceStore.tables (s : EvidenceStore ι) : OutboxDatabase :=
  ⟨s.organizations, s.outbox, s.observations, s.recorded⟩

/-- What a batch without violations has done after these events. -/
def drainedBy (codec : PayloadCodec) (organizations : List Uuid) (now : Instant)
    (events : List OutboxEvent) : Drained :=
  ⟨events.filter (fun e => ¬ Unparsable codec e),
    events.filterMap (recordedFor codec organizations now)⟩

def stepAlone (codec : PayloadCodec) (i : ι) (state : EvidenceStore ι × OutboxPhase)
    (act : OutboxAct) : EvidenceStore ι × OutboxPhase := outboxAct codec i state.1 state.2 act

/-- The statements for the events of a batch. -/
def batchActs (now : Instant) (events : List OutboxEvent) : List OutboxAct :=
  events.flatMap (fun _ => [.processEvent now, .deleteEvent])

theorem batchActs_cons (now : Instant) (event : OutboxEvent) (rest : List OutboxEvent) :
    batchActs now (event :: rest) = .processEvent now :: .deleteEvent :: batchActs now rest := rfl

/-- After a failed flush the rest of the task comes to nothing. -/
theorem batch_idle {codec : PayloadCodec} {i : ι} {now : Instant} (s : EvidenceStore ι)
    (events : List OutboxEvent) :
    Run.exec (stepAlone codec i) (s, .idle) (batchActs now events) = (s, .idle) := by
  induction events with
  | nil => rfl
  | cons event rest ih =>
    rw [batchActs_cons, Run.exec_cons, Run.exec_cons]
    exact ih

theorem event_violates {codec : PayloadCodec} {i : ι} {now : Instant} {s : EvidenceStore ι}
    {event : OutboxEvent} {rest : List OutboxEvent} {drained : Drained}
    (violates : Violates codec s.organizations event) :
    stepAlone codec i (s, .draining (event :: rest) drained) (.processEvent now) =
      (s.release i, .idle) := by
  obtain ⟨created, dto, parsed, refused⟩ := violates
  simp only [stepAlone, outboxAct, created, ne_eq, not_true_eq_false, if_false,
    Option.mem_def.mp parsed, if_neg refused]

theorem event_alone {codec : PayloadCodec} (i : ι) (now : Instant) {s : EvidenceStore ι}
    {event : OutboxEvent} (done rest : List OutboxEvent)
    (fine : ¬ Violates codec s.organizations event) :
    Run.exec (stepAlone codec i)
        (s, .draining (event :: rest) (drainedBy codec s.organizations now done))
        [.processEvent now, .deleteEvent] =
      (s, .draining rest (drainedBy codec s.organizations now (done ++ [event]))) := by
  by_cases created : event.eventType = observationCreated
  · cases parsed : codec.parse event.payload with
    | none =>
      simp [stepAlone, outboxAct, created, parsed, drainedBy, Unparsable, recordedFor]
    | some dto =>
      have storable : dto.val.Storable s.organizations := by
        by_contra refused
        exact fine ⟨created, dto, parsed, refused⟩
      have valid : ValidEvent codec s.organizations event := ⟨created, dto, parsed, storable⟩
      simp [stepAlone, outboxAct, created, parsed, storable, drainedBy, Unparsable, recordedFor,
        valid]
  · have invalid : ¬ ValidEvent codec s.organizations event := fun valid => created valid.1
    simp [stepAlone, outboxAct, created, drainedBy, Unparsable, recordedFor, invalid]

theorem batch_alone (codec : PayloadCodec) (i : ι) (now : Instant) (s : EvidenceStore ι)
    (done events : List OutboxEvent) :
    Run.exec (stepAlone codec i) (s, .draining events (drainedBy codec s.organizations now done))
        (batchActs now events) =
      if ∃ e ∈ events, Violates codec s.organizations e then (s.release i, .idle)
      else (s, .draining [] (drainedBy codec s.organizations now (done ++ events))) := by
  induction events generalizing done with
  | nil => simp [batchActs]
  | cons event rest ih =>
    by_cases violates : Violates codec s.organizations event
    · rw [batchActs_cons, Run.exec_cons, event_violates violates, Run.exec_cons]
      exact (batch_idle _ rest).trans (if_pos ⟨event, List.mem_cons_self, violates⟩).symm
    · have first := event_alone i now done rest violates
      rw [Run.exec_cons, Run.exec_cons, Run.exec_nil] at first
      rw [batchActs_cons, Run.exec_cons, Run.exec_cons, first, ih]
      simp only [List.mem_cons, exists_eq_or_imp, violates, false_or, List.append_assoc,
        List.singleton_append]

/-- The statements of one processor with nothing in between commit what
`process_outbox` does. -/
theorem outboxAct_alone (codec : PayloadCodec) (i : ι) (s : EvidenceStore ι) (limit : Nat)
    (now : Instant) (free : ∀ id, s.locks id = none) :
    (Run.exec (stepAlone codec i) (s, .idle)
      (.listPending limit (Observations.listPending limit s.tables) ::
        (batchActs now (Observations.listPending limit s.tables) ++ [.commit]))).1.tables =
      processOutbox codec limit s.tables now := by
  have answer : PendingAnswer s limit (Observations.listPending limit s.tables) := by
    refine ⟨fun e member => mem_queue.mp (List.mem_of_mem_take member), fun e _ => free e.id, ?_, ?_,
      List.length_take_le _ _⟩
    · exact (queue_distinct s.tables).sublist ((List.take_sublist _ _).map _)
    · exact ((queue_ordered s.tables).sublist (List.take_sublist _ _)).imp of_decide_eq_true
  have first : stepAlone codec i (s, .idle)
      (.listPending limit (Observations.listPending limit s.tables)) =
      (s.lock i (Observations.listPending limit s.tables),
        .draining (Observations.listPending limit s.tables) (drainedBy codec s.organizations now [])) :=
    if_pos answer
  rw [Run.exec_cons, first, Run.exec_append, processOutbox_eq]
  have batch := batch_alone codec i now
    (s.lock i (Observations.listPending limit s.tables)) []
    (Observations.listPending limit s.tables)
  refine (congrArg (fun state => (Run.exec (stepAlone codec i) state [.commit]).1.tables)
    batch).trans ?_
  split
  · next violating => exact (if_pos violating).symm
  · next fine => exact (if_neg fine).symm

end Reliastra.Source.Observations
