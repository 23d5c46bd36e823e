import Reliastra.Source.Observations.ConcurrentOutbox

/-!
# The outbox delivers exactly once

An event is written with its check result and deleted with its observation, each
pair in one transaction, and the row lock keeps the event with one processor
until that transaction ends. So whatever the workers do side by side, and
wherever they crash, a committed event is either pending or has become exactly
one observation.
-/

namespace Reliastra.Guarantees.OutboxDelivery

open Reliastra.Library Source Source.Observations

variable {ι : Type}

/-- The event was enqueued for this check result. -/
def EnqueuedFor (codec : PayloadCodec) (event : OutboxEvent) (result : CheckResult) : Prop :=
  ∃ endpointUrl method now newId,
    outboxEventOf codec result endpointUrl method now newId = .ok event

/-- Every committed event is still pending or has one observation, all
observations since `before` come from such events, and every event has its
check result. -/
structure ExactlyOnce (codec : PayloadCodec) (before : List Observation) (s : EvidenceStore ι) :
    Prop where
  accounted : ∀ event, event.eventType = observationCreated →
    s.committed.count event = s.outbox.rows.count event + (s.recorded.map (·.1)).count event
  observations : s.observations = before ++ s.recorded.map (·.2)
  faithful : ∀ entry ∈ s.recorded, FromPayload codec entry
  checked : ∀ event ∈ s.committed, ∃ result ∈ s.results, EnqueuedFor codec event result

/-! ## The invariant -/

structure Accounted (codec : PayloadCodec) (before : List Observation) (s : EvidenceStore ι) :
    Prop where
  conserved : s.committed.Perm (s.outbox.rows ++ s.removed)
  recorded : s.recorded.map (·.1) = s.removed.filter (fun e => e.eventType = observationCreated)
  observations : s.observations = before ++ s.recorded.map (·.2)
  faithful : ∀ entry ∈ s.recorded, FromPayload codec entry
  checked : ∀ event ∈ s.committed, ∃ result ∈ s.results, EnqueuedFor codec event result

/-- The worker holds these events of the outbox. -/
structure HoldsLocks (s : EvidenceStore ι) (i : ι) (events : List OutboxEvent) : Prop where
  stored : ∀ e ∈ events, e ∈ s.outbox.rows
  locked : ∀ e ∈ events, s.locks e.id = some i
  distinct : (events.map (·.id)).Nodup

/-- What a processor has done so far agrees with itself. -/
structure Consistent (codec : PayloadCodec) (drained : Drained) : Prop where
  recorded : drained.recorded.map (·.1) =
    drained.removed.filter (fun e => e.eventType = observationCreated)
  faithful : ∀ entry ∈ drained.recorded, FromPayload codec entry

def Own (codec : PayloadCodec) (i : ι) (s : EvidenceStore ι) : OutboxPhase → Prop
  | .idle | .checked _ => True
  | .enqueued result event => EnqueuedFor codec event result
  | .draining rest drained => HoldsLocks s i (drained.removed ++ rest) ∧ Consistent codec drained
  | .recording event observation rest drained =>
    HoldsLocks s i (drained.removed ++ event :: rest) ∧ Consistent codec drained ∧
      event.eventType = observationCreated ∧ FromPayload codec (event, observation)

variable {codec : PayloadCodec} {before : List Observation}

theorem exactlyOnce_of_accounted {s : EvidenceStore ι} (accounted : Accounted codec before s) :
    ExactlyOnce codec before s := by
  refine ⟨?_, accounted.observations, accounted.faithful, accounted.checked⟩
  intro event created
  have kept : (s.removed.filter (fun e => decide (e.eventType = observationCreated))).count event =
      s.removed.count event := List.count_filter (by simp [created])
  rw [accounted.conserved.count_eq, List.count_append, accounted.recorded, kept]

/-! ## Steps -/

theorem HoldsLocks.sublist {s : EvidenceStore ι} {i : ι} {events fewer : List OutboxEvent}
    (holds : HoldsLocks s i events) (sub : fewer.Sublist events) : HoldsLocks s i fewer :=
  ⟨fun e member => holds.stored e (sub.subset member),
    fun e member => holds.locked e (sub.subset member),
    holds.distinct.sublist (sub.map _)⟩

/-- The locks of a worker survive a step that keeps its rows and its locks. -/
theorem HoldsLocks.of_kept {s after : EvidenceStore ι} {i : ι} {events : List OutboxEvent}
    (holds : HoldsLocks s i events)
    (rows : ∀ e, e ∈ s.outbox.rows → s.locks e.id = some i → e ∈ after.outbox.rows)
    (locks : ∀ id, s.locks id = some i → after.locks id = some i) : HoldsLocks after i events :=
  ⟨fun e member => rows e (holds.stored e member) (holds.locked e member),
    fun e member => locks e.id (holds.locked e member), holds.distinct⟩

theorem Own.of_kept {s after : EvidenceStore ι} {i : ι} {phase : OutboxPhase}
    (own : Own codec i s phase)
    (rows : ∀ e, e ∈ s.outbox.rows → s.locks e.id = some i → e ∈ after.outbox.rows)
    (locks : ∀ id, s.locks id = some i → after.locks id = some i) : Own codec i after phase := by
  cases phase with
  | idle => trivial
  | checked result => trivial
  | enqueued result event => exact own
  | draining rest drained => exact ⟨own.1.of_kept rows locks, own.2⟩
  | recording event observation rest drained => exact ⟨own.1.of_kept rows locks, own.2⟩

theorem publish_accounted {s after : EvidenceStore ι} {result : CheckResult} {event : OutboxEvent}
    (accounted : Accounted codec before s) (enqueued : EnqueuedFor codec event result)
    (published : s.publish result event = some after) : Accounted codec before after := by
  obtain ⟨outbox, inserted, rfl⟩ := Option.map_eq_some_iff.mp published
  have rows := (Table.insert_eq_some inserted).2
  refine ⟨?_, accounted.recorded, accounted.observations, accounted.faithful, ?_⟩
  · have moved : (s.committed ++ [event]).Perm (s.outbox.rows ++ s.removed ++ [event]) :=
      accounted.conserved.append_right [event]
    dsimp only
    rw [rows]
    refine moved.trans ?_
    rw [List.append_assoc, List.append_assoc]
    exact List.perm_append_comm.append_left s.outbox.rows
  · intro other member
    rcases List.mem_append.mp member with old | new
    · obtain ⟨source, stored, enqueued⟩ := accounted.checked other old
      exact ⟨source, List.mem_append_left _ stored, enqueued⟩
    · rw [List.mem_singleton.mp new]
      exact ⟨result, List.mem_append_right _ List.mem_cons_self, enqueued⟩

theorem drain_accounted {s : EvidenceStore ι} {i : ι} {drained : Drained}
    (accounted : Accounted codec before s) (holds : HoldsLocks s i drained.removed)
    (consistent : Consistent codec drained) : Accounted codec before (s.drain drained) := by
  refine ⟨?_, ?_, ?_, ?_, accounted.checked⟩
  · have split := Table.deleteKeys_perm s.outbox drained.removed holds.stored holds.distinct
    have moved := accounted.conserved.trans (split.append_right s.removed)
    refine moved.trans ?_
    dsimp only [EvidenceStore.drain]
    rw [List.append_assoc]
    refine (List.perm_append_comm).trans ?_
    rw [List.append_assoc]
  · dsimp only [EvidenceStore.drain]
    rw [List.map_append, List.filter_append, accounted.recorded, consistent.recorded]
  · dsimp only [EvidenceStore.drain]
    rw [accounted.observations, List.map_append, List.append_assoc]
  · intro entry member
    rcases List.mem_append.mp member with old | new
    · exact accounted.faithful entry old
    · exact consistent.faithful entry new

theorem accounted_locks {s : EvidenceStore ι} (accounted : Accounted codec before s)
    (locks : Uuid → Option ι) : Accounted codec before { s with locks := locks } :=
  ⟨accounted.conserved, accounted.recorded, accounted.observations, accounted.faithful,
    accounted.checked⟩

theorem Own.publish {s after : EvidenceStore ι} {j : ι} {phase : OutboxPhase}
    {result : CheckResult} {event : OutboxEvent} (own : Own codec j s phase)
    (published : s.publish result event = some after) : Own codec j after phase := by
  obtain ⟨outbox, inserted, rfl⟩ := Option.map_eq_some_iff.mp published
  have rows := (Table.insert_eq_some inserted).2
  refine own.of_kept (fun e stored _ => ?_) (fun _ locked => locked)
  dsimp only
  rw [rows]
  exact List.mem_append_left _ stored

/-- A processor's commit deletes rows it has locked, so no one else's. -/
theorem Own.drain {s : EvidenceStore ι} {i j : ι} {phase : OutboxPhase} {drained : Drained}
    (own : Own codec j s phase) (other : j ≠ i) (holds : HoldsLocks s i drained.removed) :
    Own codec j (s.drain drained) phase := by
  refine own.of_kept (fun e stored locked => Table.mem_deleteKeys.mpr ⟨stored, fun taken => ?_⟩)
    (fun _ locked => locked)
  obtain ⟨mine, member, same⟩ := List.mem_map.mp taken
  have owned := holds.locked mine member
  rw [same, locked] at owned
  exact other (Option.some.inj owned)

theorem Own.lock {s : EvidenceStore ι} {i j : ι} {phase : OutboxPhase} {limit : Nat}
    {events : List OutboxEvent} (own : Own codec j s phase)
    (answer : PendingAnswer s limit events) : Own codec j (s.lock i events) phase := by
  refine own.of_kept (fun _ stored _ => stored) (fun id locked => ?_)
  have free : id ∉ events.map (·.id) := by
    intro taken
    obtain ⟨e, member, rfl⟩ := List.mem_map.mp taken
    rw [answer.unlocked e member] at locked
    cases locked
  simp only [EvidenceStore.lock, if_neg free, locked]

theorem holdsLocks_lock {s : EvidenceStore ι} {i : ι} {limit : Nat} {events : List OutboxEvent}
    (answer : PendingAnswer s limit events) : HoldsLocks (s.lock i events) i events := by
  refine ⟨answer.stored, fun e member => ?_, answer.distinct⟩
  simp only [EvidenceStore.lock, if_pos (List.mem_map_of_mem member)]

/-- What holds throughout: of the store, and of each worker. -/
def Invariant (codec : PayloadCodec) (before : List Observation) :
    World (EvidenceStore ι) ι OutboxPhase → Prop :=
  World.Holds (Accounted codec before) (Own codec) (fun _ _ => True)

/-- A step that leaves the store alone only has to account for its worker. -/
theorem keeps_local {w : World (EvidenceStore ι) ι OutboxPhase} {i : ι}
    (holds : Invariant codec before w) {phase : OutboxPhase} (mine : Own codec i w.shared phase) :
    World.Keeps (Accounted codec before) (Own codec) (fun _ _ => True) w i (w.shared, phase) :=
  ⟨holds.store, mine, fun j _ => holds.own j, fun _ _ => trivial⟩

/-- No event was enqueued yet. -/
def emptyOutbox (organizations : List Uuid) (results : List CheckResult)
    (observations : List Observation) : EvidenceStore ι :=
  { organizations := organizations
    results := results
    outbox := .empty
    observations := observations
    locks := fun _ => none
    committed := []
    removed := []
    recorded := [] }

def workersIdle (store : EvidenceStore ι) : World (EvidenceStore ι) ι OutboxPhase :=
  ⟨store, fun _ => .idle⟩

theorem invariant_initial (organizations : List Uuid) (results : List CheckResult)
    (observations : List Observation) :
    Invariant codec observations
      (workersIdle (emptyOutbox (ι := ι) organizations results observations)) := by
  refine ⟨⟨List.Perm.refl _, rfl, ?_, ?_, ?_⟩, fun _ => trivial, fun _ _ _ => trivial⟩
  · exact (List.append_nil observations).symm
  · intro entry member
    cases member
  · intro event member
    cases member

section Interleaving
variable [DecidableEq ι]

theorem locks_release {s : EvidenceStore ι} {i j : ι} (other : j ≠ i) {id : Uuid}
    (locked : s.locks id = some j) : (s.release i).locks id = some j := by
  have different : s.locks id ≠ some i := by
    rw [locked]
    exact fun same => other (Option.some.inj same)
  simp only [EvidenceStore.release, if_neg different]
  exact locked

/-- Another worker's events survive the end of a transaction. -/
theorem Own.release {s : EvidenceStore ι} {i j : ι} {phase : OutboxPhase}
    (own : Own codec j s phase) (other : j ≠ i) : Own codec j (s.release i) phase :=
  own.of_kept (fun _ stored _ => stored) (fun _ locked => locks_release other locked)

/-- The end of a transaction that commits nothing. -/
theorem keeps_released {w : World (EvidenceStore ι) ι OutboxPhase} {i : ι}
    (holds : Invariant codec before w) :
    World.Keeps (Accounted codec before) (Own codec) (fun _ _ => True) w i
      (w.shared.release i, .idle) :=
  ⟨accounted_locks holds.store _, trivial, fun j other => (holds.own j).release other,
    fun _ _ => trivial⟩

theorem keeps_processEvent {w : World (EvidenceStore ι) ι OutboxPhase} {i : ι} (now : Instant)
    (holds : Invariant codec before w) :
    World.Keeps (Accounted codec before) (Own codec) (fun _ _ => True) w i
      (outboxAct codec i w.shared (w.locals i) (.processEvent now)) := by
  have own := holds.own i
  unfold outboxAct
  dsimp only
  split
  · next event rest drained here =>
    rw [here] at own
    obtain ⟨locks, consistent⟩ := own
    split
    · next unknown =>
      refine keeps_local holds ⟨?_, ?_, consistent.faithful⟩
      · rw [List.append_assoc]
        exact locks
      · dsimp only
        rw [List.filter_append, ← consistent.recorded]
        simp [unknown]
    next created =>
    split
    · exact keeps_local holds ⟨locks.sublist (List.Sublist.append_left
        (List.sublist_cons_self event rest) drained.removed), consistent⟩
    next dto parsed =>
    split
    · exact keeps_local holds ⟨locks, consistent, not_not.mp created, dto, now, parsed, rfl⟩
    · exact keeps_released holds
  · exact keeps_local holds own

theorem keeps_commit {w : World (EvidenceStore ι) ι OutboxPhase} {i : ι}
    (holds : Invariant codec before w) :
    World.Keeps (Accounted codec before) (Own codec) (fun _ _ => True) w i
      (outboxAct codec i w.shared (w.locals i) .commit) := by
  have own := holds.own i
  unfold outboxAct
  dsimp only
  split
  · next result event here =>
    rw [here] at own
    cases published : w.shared.publish result event with
    | none => exact keeps_local holds trivial
    | some after =>
      exact ⟨publish_accounted holds.store own published, trivial,
        fun j _ => (holds.own j).publish published, fun _ _ => trivial⟩
  · next drained here =>
    rw [here] at own
    obtain ⟨locks, consistent⟩ := own
    rw [List.append_nil] at locks
    refine ⟨accounted_locks (drain_accounted holds.store locks consistent) _, trivial, ?_,
      fun _ _ => trivial⟩
    exact fun j other => ((holds.own j).drain other locks).release other
  · exact keeps_local holds own

theorem keeps_step (w : World (EvidenceStore ι) ι OutboxPhase) (i : ι) (act : OutboxAct)
    (holds : Invariant codec before w) :
    World.Keeps (Accounted codec before) (Own codec) (fun _ _ => True) w i
      (outboxAct codec i w.shared (w.locals i) act) := by
  have own := holds.own i
  cases act with
  | createResult result =>
    unfold outboxAct
    dsimp only
    split
    · exact keeps_local holds trivial
    · exact keeps_local holds own
  | confirmQuorum =>
    unfold outboxAct
    dsimp only
    split
    · exact keeps_local holds trivial
    · exact keeps_local holds own
  | enqueue endpointUrl method now newId =>
    unfold outboxAct
    dsimp only
    split
    · next result here =>
      split
      · next event enqueued =>
        exact keeps_local holds ⟨endpointUrl, method, now, newId, enqueued⟩
      · exact keeps_local holds trivial
    · exact keeps_local holds own
  | listPending limit events =>
    unfold outboxAct
    dsimp only
    split
    · split
      · next answer =>
        refine ⟨accounted_locks holds.store _, ⟨?_, rfl, fun _ member => by cases member⟩,
          fun j _ => (holds.own j).lock answer, fun _ _ => trivial⟩
        exact holdsLocks_lock answer
      · exact keeps_local holds own
    · exact keeps_local holds own
  | processEvent now => exact keeps_processEvent now holds
  | deleteEvent =>
    unfold outboxAct
    dsimp only
    split
    · next event observation rest drained here =>
      rw [here] at own
      obtain ⟨locks, consistent, created, source⟩ := own
      refine keeps_local holds ⟨?_, ?_, ?_⟩
      · rw [List.append_assoc]
        exact locks
      · dsimp only
        rw [List.map_append, List.filter_append, consistent.recorded]
        simp [created]
      · intro entry member
        rcases List.mem_append.mp member with old | new
        · exact consistent.faithful entry old
        · rw [List.mem_singleton.mp new]
          exact source
    · exact keeps_local holds own
  | commit => exact keeps_commit holds
  | abort => exact keeps_released holds

/-! ## Runs -/

/-- Whatever any number of workers do, in any order, wherever they crash or roll
back: the outbox has delivered exactly once. -/
theorem exactly_once (codec : PayloadCodec) (organizations : List Uuid)
    (results : List CheckResult) (observations : List Observation) (run : List (ι × OutboxAct)) :
    ExactlyOnce codec observations
      (Run.exec (World.move (outboxAct codec))
        (workersIdle (emptyOutbox organizations results observations)) run).shared :=
  exactlyOnce_of_accounted (World.Holds.exec (fun _ _ _ => trivial) keeps_step _ run
    (invariant_initial organizations results observations)).store

end Interleaving

end Reliastra.Guarantees.OutboxDelivery
