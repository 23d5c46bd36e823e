import Reliastra.Library.Batches
import Reliastra.Library.Run
import Reliastra.Source.Observations.Schema

/-!
# Draining the outbox

Source: `app/modules/observations/outbox.py`, `process_outbox` of
`app/modules/observations/tasks.py`, with the commit of `_run_managed_session`.
One processor at a time; `ConcurrentOutbox` has several.

A batch shares one session. A failed flush rolls its transaction back, and from
then on the session refuses every statement and the commit: the loop swallows
this for an event it records and raises it for one it only deletes. The loop
also reads the attributes of events that the rollback expired, which may raise
even earlier; nothing is committed either way.
-/

namespace Reliastra.Source.Observations

open Reliastra.Library

structure OutboxDatabase where
  organizations : List Uuid
  outbox : Table OutboxEvent.id
  observations : List Observation
  /-- Which event an observation was recorded for. Nothing reads it. -/
  recorded : List (OutboxEvent × Observation)

/-- The pending events in the order of `list_pending`. -/
def OutboxDatabase.queue (db : OutboxDatabase) : List OutboxEvent :=
  db.outbox.rows.mergeSort (fun a b => decide (Older a b))

def listPending (limit : Nat) (db : OutboxDatabase) : List OutboxEvent := db.queue.take limit

def OutboxDatabase.delete (db : OutboxDatabase) (event : OutboxEvent) : OutboxDatabase :=
  { db with outbox := db.outbox.deleteKeys [event.id] }

def OutboxDatabase.record (db : OutboxDatabase) (event : OutboxEvent)
    (observation : Observation) : OutboxDatabase :=
  { db with
    observations := db.observations ++ [observation]
    recorded := db.recorded ++ [(event, observation)] }

/-- The session of a batch: what it has flushed, and whether it is usable. -/
structure BatchSession where
  database : OutboxDatabase
  active : Bool
  processed : Nat

/-- One round of the loop. -/
def processEvent (codec : PayloadCodec) (now : Instant) (s : BatchSession) (event : OutboxEvent) :
    Except Failure BatchSession :=
  if event.eventType ≠ observationCreated then
    if s.active then .ok { s with database := s.database.delete event }
    else .error (.python "PendingRollbackError")
  else match codec.parse event.payload with
  | none => .ok s
  | some dto =>
    if ¬ s.active then .ok s
    else if dto.val.Storable s.database.organizations then
      .ok { s with
        database := (s.database.record event (observationOf dto now)).delete event
        processed := s.processed + 1 }
    else .ok { s with active := false }

def processOutboxBatch (codec : PayloadCodec) (limit : Nat) (now : Instant) (db : OutboxDatabase) :
    Except Failure BatchSession :=
  (listPending limit db).foldlM (processEvent codec now) ⟨db, true, 0⟩

/-- `process_outbox`: what the task leaves committed. -/
def processOutbox (codec : PayloadCodec) (limit : Nat) (db : OutboxDatabase) (now : Instant) :
    OutboxDatabase :=
  match processOutboxBatch codec limit now db with
  | .ok s => if s.active then s.database else db
  | .error _ => db

/-! ## What becomes of an event -/

/-- The payload does not parse: the event stays pending. -/
def Unparsable (codec : PayloadCodec) (event : OutboxEvent) : Prop :=
  event.eventType = observationCreated ∧ codec.parse event.payload = none

/-- The insert of its observation violates a constraint. -/
def Violates (codec : PayloadCodec) (organizations : List Uuid) (event : OutboxEvent) : Prop :=
  event.eventType = observationCreated ∧
    ∃ dto ∈ codec.parse event.payload, ¬ dto.val.Storable organizations

/-- Neither poisonous nor of an unknown type. -/
def ValidEvent (codec : PayloadCodec) (organizations : List Uuid) (event : OutboxEvent) : Prop :=
  event.eventType = observationCreated ∧
    ∃ dto ∈ codec.parse event.payload, dto.val.Storable organizations

instance (codec : PayloadCodec) : DecidablePred (Unparsable codec) := fun event =>
  inferInstanceAs (Decidable (event.eventType = observationCreated ∧ codec.parse event.payload = none))

instance (codec : PayloadCodec) (organizations : List Uuid) :
    DecidablePred (Violates codec organizations) := fun event =>
  inferInstanceAs (Decidable (event.eventType = observationCreated ∧
    ∃ dto ∈ codec.parse event.payload, ¬ dto.val.Storable organizations))

instance (codec : PayloadCodec) (organizations : List Uuid) :
    DecidablePred (ValidEvent codec organizations) := fun event =>
  inferInstanceAs (Decidable (event.eventType = observationCreated ∧
    ∃ dto ∈ codec.parse event.payload, dto.val.Storable organizations))

/-- What a valid event becomes. -/
def recordedFor (codec : PayloadCodec) (organizations : List Uuid) (now : Instant)
    (event : OutboxEvent) : Option (OutboxEvent × Observation) :=
  if ValidEvent codec organizations event then
    (codec.parse event.payload).map (fun dto => (event, observationOf dto now))
  else none

/-! ## What a batch commits -/

/-- The database after these events, none of which violates a constraint. -/
def OutboxDatabase.after (codec : PayloadCodec) (now : Instant) (events : List OutboxEvent)
    (db : OutboxDatabase) : OutboxDatabase :=
  let recorded := events.filterMap (recordedFor codec db.organizations now)
  { db with
    outbox := db.outbox.deleteKeys
      ((events.filter (fun e => ¬ Unparsable codec e)).map (·.id))
    observations := db.observations ++ recorded.map (·.2)
    recorded := db.recorded ++ recorded }

theorem after_cons (codec : PayloadCodec) (now : Instant) (event : OutboxEvent)
    (rest : List OutboxEvent) (db : OutboxDatabase) :
    (db.after codec now [event]).after codec now rest = db.after codec now (event :: rest) := by
  have outbox (first second : List Uuid) :
      (db.outbox.deleteKeys first).deleteKeys second = db.outbox.deleteKeys (first ++ second) := by
    apply Table.ext
    simp only [Table.deleteKeys, List.filter_filter, List.mem_append, not_or]
    exact List.filter_congr (fun _ _ => by simp [Bool.and_comm])
  have cons : event :: rest = [event] ++ rest := rfl
  simp only [OutboxDatabase.after, outbox]
  rw [cons, List.filter_append, List.filterMap_append]
  simp only [List.map_append, List.append_assoc]

theorem processEvent_after {codec : PayloadCodec} (now : Instant) {s : BatchSession}
    {event : OutboxEvent} (active : s.active = true)
    (fine : ¬ Violates codec s.database.organizations event) :
    ∃ processed, processEvent codec now s event =
      .ok ⟨s.database.after codec now [event], true, processed⟩ := by
  obtain ⟨db, usable, processed⟩ := s
  obtain rfl : usable = true := active
  by_cases created : event.eventType = observationCreated
  · cases parsed : codec.parse event.payload with
    | none =>
      refine ⟨processed, ?_⟩
      simp [processEvent, created, parsed, OutboxDatabase.after, Unparsable, recordedFor,
        Table.deleteKeys]
    | some dto =>
      have storable : dto.val.Storable db.organizations := by
        by_contra refused
        exact fine ⟨created, dto, parsed, refused⟩
      have valid : ValidEvent codec db.organizations event := ⟨created, dto, parsed, storable⟩
      refine ⟨processed + 1, ?_⟩
      simp [processEvent, created, parsed, storable, OutboxDatabase.after, Unparsable, recordedFor,
        valid, OutboxDatabase.record, OutboxDatabase.delete]
  · have invalid : ¬ ValidEvent codec db.organizations event := fun valid => created valid.1
    refine ⟨processed, ?_⟩
    simp [processEvent, created, OutboxDatabase.after, Unparsable, recordedFor, invalid,
      OutboxDatabase.delete]

theorem batch_after (codec : PayloadCodec) (now : Instant) (events : List OutboxEvent)
    (s : BatchSession) (active : s.active = true)
    (fine : ∀ e ∈ events, ¬ Violates codec s.database.organizations e) :
    ∃ processed, events.foldlM (processEvent codec now) s =
      .ok ⟨s.database.after codec now events, true, processed⟩ := by
  induction events generalizing s with
  | nil =>
    obtain ⟨db, usable, processed⟩ := s
    obtain rfl : usable = true := active
    refine ⟨processed, ?_⟩
    simp [OutboxDatabase.after, Table.deleteKeys, pure, Except.pure]
  | cons event rest ih =>
    obtain ⟨processed, first⟩ := processEvent_after now active (fine event (by simp))
    obtain ⟨total, later⟩ := ih ⟨s.database.after codec now [event], true, processed⟩ rfl
      (fun e member => fine e (by simp [member]))
    refine ⟨total, ?_⟩
    rw [List.foldlM_cons, first]
    simp only [bind, Except.bind, later, after_cons]

theorem processEvent_inactive {codec : PayloadCodec} {now : Instant} {s after : BatchSession}
    {event : OutboxEvent} (inactive : s.active = false)
    (success : processEvent codec now s event = .ok after) : after.active = false := by
  unfold processEvent at success
  rw [inactive] at success
  split at success
  · cases success
  split at success
  · cases success
    exact inactive
  · cases success
    exact inactive

theorem batch_inactive {codec : PayloadCodec} {now : Instant} (events : List OutboxEvent)
    {s after : BatchSession} (inactive : s.active = false)
    (success : events.foldlM (processEvent codec now) s = .ok after) : after.active = false := by
  induction events generalizing s with
  | nil =>
    cases success
    exact inactive
  | cons event rest ih =>
    rw [List.foldlM_cons] at success
    cases first : processEvent codec now s event with
    | error failure =>
      rw [first] at success
      cases success
    | ok between =>
      rw [first] at success
      exact ih (processEvent_inactive inactive first) success

/-- One violating event costs the whole batch. -/
theorem batch_undone {codec : PayloadCodec} {now : Instant} (events : List OutboxEvent)
    {s after : BatchSession} (active : s.active = true)
    (violating : ∃ e ∈ events, Violates codec s.database.organizations e)
    (success : events.foldlM (processEvent codec now) s = .ok after) : after.active = false := by
  induction events generalizing s with
  | nil =>
    obtain ⟨e, member, _⟩ := violating
    cases member
  | cons event rest ih =>
    rw [List.foldlM_cons] at success
    by_cases here : Violates codec s.database.organizations event
    · obtain ⟨created, dto, parsed, refused⟩ := here
      have first : processEvent codec now s event = .ok { s with active := false } := by
        simp only [processEvent, created, ne_eq, not_true_eq_false, if_false, Option.mem_def.mp parsed,
          active, if_neg refused]
      rw [first] at success
      exact batch_inactive rest rfl success
    · obtain ⟨processed, first⟩ := processEvent_after now active here
      rw [first] at success
      refine ih rfl ?_ success
      obtain ⟨e, member, violates⟩ := violating
      rcases List.mem_cons.mp member with rfl | later
      · exact absurd violates here
      · exact ⟨e, later, violates⟩

theorem processOutbox_eq (codec : PayloadCodec) (limit : Nat) (db : OutboxDatabase)
    (now : Instant) :
    processOutbox codec limit db now =
      if ∃ e ∈ listPending limit db, Violates codec db.organizations e then db
      else db.after codec now (listPending limit db) := by
  unfold processOutbox processOutboxBatch
  by_cases violating : ∃ e ∈ listPending limit db, Violates codec db.organizations e
  · rw [if_pos violating]
    cases batch : (listPending limit db).foldlM (processEvent codec now) ⟨db, true, 0⟩ with
    | error failure => rfl
    | ok s =>
      have inactive : ¬ s.active = true := by
        rw [batch_undone _ rfl violating batch]
        exact Bool.false_ne_true
      exact if_neg inactive
  · rw [if_neg violating]
    obtain ⟨processed, batch⟩ := batch_after codec now (listPending limit db)
      ⟨db, true, 0⟩ rfl (fun e member violates => violating ⟨e, member, violates⟩)
    rw [batch]
    rfl

/-! ## The queue -/

theorem older_trans (a b c : OutboxEvent) (first : decide (Older a b) = true)
    (second : decide (Older b c) = true) : decide (Older a c) = true := by
  rw [decide_eq_true_iff] at *
  unfold Older at *
  rcases first with before | ⟨same, first⟩ <;> rcases second with later | ⟨also, second⟩
  · exact Or.inl (before.trans later)
  · exact Or.inl (also ▸ before)
  · exact Or.inl (same ▸ later)
  · exact Or.inr ⟨same.trans also, first.trans second⟩

theorem older_total (a b : OutboxEvent) :
    (decide (Older a b) || decide (Older b a)) = true := by
  rw [Bool.or_eq_true, decide_eq_true_iff, decide_eq_true_iff]
  unfold Older
  rcases lt_trichotomy a.createdAt b.createdAt with before | same | after
  · exact Or.inl (Or.inl before)
  · rcases Nat.le_total a.id b.id with less | more
    · exact Or.inl (Or.inr ⟨same, less⟩)
    · exact Or.inr (Or.inr ⟨same.symm, more⟩)
  · exact Or.inr (Or.inl after)

theorem mem_queue {db : OutboxDatabase} {event : OutboxEvent} :
    event ∈ db.queue ↔ event ∈ db.outbox.rows := List.mem_mergeSort

theorem queue_perm (db : OutboxDatabase) : db.queue.Perm db.outbox.rows :=
  List.mergeSort_perm db.outbox.rows _

theorem queue_ordered (db : OutboxDatabase) :
    db.queue.Pairwise (fun a b => decide (Older a b) = true) :=
  List.pairwise_mergeSort older_trans older_total db.outbox.rows

theorem queue_distinct (db : OutboxDatabase) : (db.queue.map (·.id)).Nodup :=
  ((queue_perm db).map (·.id)).nodup_iff.mpr db.outbox.unique

/-- A list of pending events in their order is the queue they make. -/
theorem queue_eq {db : OutboxDatabase} {events : List OutboxEvent}
    (perm : db.outbox.rows.Perm events)
    (ordered : events.Pairwise (fun a b => decide (Older a b) = true)) : db.queue = events := by
  refine ((queue_perm db).trans perm).eq_of_pairwise ?_ (queue_ordered db) ordered
  intro a b here there before after
  rw [decide_eq_true_iff] at before after
  have same : a.id = b.id := by
    unfold Older at before after
    grind
  exact Table.eq_of_key (mem_queue.mp here) (perm.mem_iff.mpr there) same

/-- A batch drains the queue. -/
theorem queue_after (codec : PayloadCodec) (limit : Nat) (now : Instant) (db : OutboxDatabase) :
    (db.after codec now (listPending limit db)).queue =
      (db.queue.take limit).filter (fun e => Unparsable codec e) ++ db.queue.drop limit := by
  have whole := List.take_append_drop limit db.queue
  have distinct := queue_distinct db
  rw [← whole, List.map_append, List.nodup_append] at distinct
  apply queue_eq
  · refine ((queue_perm db).symm.filter _).trans (List.Perm.of_eq ?_)
    conv_lhs => rw [← whole]
    rw [List.filter_append]
    congr 1
    · refine List.filter_congr (fun e member => decide_eq_decide.mpr ⟨fun stays => ?_, ?_⟩)
      · by_contra leaves
        exact stays (List.mem_map_of_mem (List.mem_filter.mpr ⟨member, decide_eq_true leaves⟩))
      · intro stays gone
        obtain ⟨other, taken, same⟩ := List.mem_map.mp gone
        obtain ⟨there, leaves⟩ := List.mem_filter.mp taken
        have equal := Table.eq_of_key (mem_queue.mp (List.mem_of_mem_take there))
          (mem_queue.mp (List.mem_of_mem_take member)) same
        rw [equal] at leaves
        exact of_decide_eq_true leaves stays
    · refine List.filter_eq_self.mpr (fun e member => decide_eq_true (fun gone => ?_))
      obtain ⟨other, taken, same⟩ := List.mem_map.mp gone
      exact distinct.2.2 other.id (List.mem_map_of_mem (List.mem_filter.mp taken).1) e.id
        (List.mem_map_of_mem member) same
  · refine (queue_ordered db).sublist ?_
    conv_rhs => rw [← whole]
    exact List.Sublist.append_right List.filter_sublist _

theorem queue_processOutbox (codec : PayloadCodec) (limit : Nat) (db : OutboxDatabase)
    (now : Instant) :
    (processOutbox codec limit db now).queue =
      Batches.drain limit (Unparsable codec) (Violates codec db.organizations) db.queue := by
  rw [processOutbox_eq]
  unfold Batches.drain listPending
  split
  · rfl
  · exact queue_after codec limit now db

end Reliastra.Source.Observations
