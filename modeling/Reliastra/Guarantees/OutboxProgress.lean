import Reliastra.Source.Observations.Outbox

/-!
# Does the outbox get past poisonous events?

An event whose payload does not parse stays where it is, so `limit` of them at
the head of the queue block everything behind them. An event whose observation
the database refuses undoes the whole batch it is in, and the next run meets it
again. `records_all_iff` says for which outboxes every valid event is recorded
nevertheless.
-/

namespace Reliastra.Guarantees.OutboxProgress

open Reliastra.Library Source Source.Observations

/-- Every valid event of the start has its observation, and nothing else was
added. -/
structure RecordsAll (codec : PayloadCodec) (start db : OutboxDatabase) : Prop where
  observations : db.observations = start.observations ++ db.recorded.map (·.2)
  faithful : ∀ entry ∈ db.recorded, FromPayload codec entry
  valid : ∀ e ∈ start.outbox.rows, ValidEvent codec start.organizations e →
    e ∈ db.recorded.map (·.1)

/-- From some number of runs on, every valid event is recorded. -/
def EventuallyRecordsAll (codec : PayloadCodec) (limit : Nat) (start : OutboxDatabase) : Prop :=
  ∃ runs, ∀ clock : List Instant, runs ≤ clock.length →
    RecordsAll codec start (Run.exec (processOutbox codec limit) start clock)

/-- Some number of batches takes in every valid event and no violating one. The
n-th batch starts with the unparsable events of the ones before it, and goes on
with the next events of the queue. -/
def ValidWithinReach (codec : PayloadCodec) (limit : Nat) (start : OutboxDatabase) : Prop :=
  ∃ runs, Batches.Reached limit (Unparsable codec) (Violates codec start.organizations)
    (ValidEvent codec start.organizations) start.queue runs

/-! ## Runs -/

structure Tracks (codec : PayloadCodec) (start db : OutboxDatabase) : Prop where
  organizations : db.organizations = start.organizations
  observations : db.observations = start.observations ++ db.recorded.map (·.2)
  faithful : ∀ entry ∈ db.recorded, FromPayload codec entry
  kept : ∀ e ∈ start.queue, ValidEvent codec start.organizations e →
    e ∈ db.queue ∨ e ∈ db.recorded.map (·.1)
  gone : ∀ e ∈ db.recorded.map (·.1), e ∉ db.queue

variable {codec : PayloadCodec} {limit : Nat} {start db : OutboxDatabase}

theorem recordedFor_eq_some {organizations : List Uuid} {now : Instant} {event : OutboxEvent}
    {entry : OutboxEvent × Observation}
    (recorded : recordedFor codec organizations now event = some entry) :
    entry.1 = event ∧ ValidEvent codec organizations event ∧ FromPayload codec entry := by
  unfold recordedFor at recorded
  split at recorded
  · next valid =>
    obtain ⟨dto, parsed, rfl⟩ := Option.map_eq_some_iff.mp recorded
    exact ⟨rfl, valid, dto, now, parsed, rfl⟩
  · cases recorded

theorem recordedFor_valid {organizations : List Uuid} (now : Instant) {event : OutboxEvent}
    (valid : ValidEvent codec organizations event) :
    ∃ observation, recordedFor codec organizations now event = some (event, observation) := by
  obtain ⟨_, dto, parsed, _⟩ := id valid
  refine ⟨observationOf dto now, ?_⟩
  rw [recordedFor, if_pos valid, Option.mem_def.mp parsed]
  rfl

theorem not_unparsable_of_valid {organizations : List Uuid} {event : OutboxEvent}
    (valid : ValidEvent codec organizations event) : ¬ Unparsable codec event := by
  intro ⟨_, unparsed⟩
  obtain ⟨_, dto, parsed, _⟩ := valid
  rw [Option.mem_def.mp parsed] at unparsed
  cases unparsed

/-- A batch that goes through: what it recorded is gone from the queue, and what
is still there was not recorded. -/
theorem tracks_after (tracks : Tracks codec start db) (now : Instant) :
    Tracks codec start (db.after codec now (listPending limit db)) := by
  have queue := queue_after codec limit now db
  have distinct : db.queue.Nodup := (queue_distinct db).of_map
  refine ⟨tracks.organizations, ?_, ?_, ?_, ?_⟩
  · simp only [OutboxDatabase.after, tracks.observations, List.map_append, List.append_assoc]
  · intro entry member
    rcases List.mem_append.mp member with old | new
    · exact tracks.faithful entry old
    · obtain ⟨event, _, recorded⟩ := List.mem_filterMap.mp new
      exact (recordedFor_eq_some recorded).2.2
  · intro e member valid
    rcases tracks.kept e member valid with pending | recorded
    · rw [queue]
      rw [← List.take_append_drop limit db.queue, List.mem_append] at pending
      rcases pending with taken | left
      · right
        rw [← tracks.organizations] at valid
        obtain ⟨observation, recorded⟩ := recordedFor_valid now valid
        refine List.mem_map.mpr ⟨(e, observation), List.mem_append_right _ ?_, rfl⟩
        exact List.mem_filterMap.mpr ⟨e, taken, recorded⟩
      · exact Or.inl (List.mem_append_right _ left)
    · right
      simp only [OutboxDatabase.after, List.map_append]
      exact List.mem_append_left _ recorded
  · intro e recorded
    rw [queue, List.mem_append, not_or]
    simp only [OutboxDatabase.after, List.map_append] at recorded
    rcases List.mem_append.mp recorded with old | new
    · have absent := tracks.gone e old
      exact ⟨fun still => absent (List.mem_of_mem_take (List.mem_filter.mp still).1),
        fun still => absent (List.mem_of_mem_drop still)⟩
    · obtain ⟨entry, found, rfl⟩ := List.mem_map.mp new
      obtain ⟨event, taken, recorded⟩ := List.mem_filterMap.mp found
      obtain ⟨same, valid, _⟩ := recordedFor_eq_some recorded
      rw [same]
      constructor
      · exact fun still => not_unparsable_of_valid valid
          (of_decide_eq_true (List.mem_filter.mp still).2)
      · exact fun still => List.disjoint_take_drop distinct (Nat.le_refl limit) taken still

theorem tracks_processOutbox (db : OutboxDatabase) (now : Instant) (tracks : Tracks codec start db) :
    Tracks codec start (processOutbox codec limit db now) := by
  rw [processOutbox_eq]
  split
  · exact tracks
  · exact tracks_after tracks now

theorem queue_runs (start : OutboxDatabase) (clock : List Instant) :
    (Run.exec (processOutbox codec limit) start clock).organizations = start.organizations ∧
      (Run.exec (processOutbox codec limit) start clock).queue =
        Batches.drained limit (Unparsable codec) (Violates codec start.organizations) start.queue
          clock.length := by
  induction clock using List.reverseRecOn with
  | nil => exact ⟨rfl, rfl⟩
  | append_singleton earlier now ih =>
    obtain ⟨organizations, queue⟩ := ih
    rw [Run.exec_concat, List.length_append, List.length_singleton]
    constructor
    · rw [processOutbox_eq]
      split
      · exact organizations
      · exact organizations
    · rw [queue_processOutbox, organizations, queue]
      rfl

/-! ## The guarantee -/

/-- An outbox before any run. -/
def pendingOutbox (organizations : List Uuid) (outbox : Table OutboxEvent.id)
    (observations : List Observation) : OutboxDatabase := ⟨organizations, outbox, observations, []⟩

theorem tracks_runs (organizations : List Uuid) (outbox : Table OutboxEvent.id)
    (observations : List Observation) (clock : List Instant) :
    Tracks codec (pendingOutbox organizations outbox observations)
      (Run.exec (processOutbox codec limit) (pendingOutbox organizations outbox observations)
        clock) := by
  refine Run.exec_invariant tracks_processOutbox _ clock ⟨rfl, ?_, ?_, ?_, ?_⟩
  · exact (List.append_nil observations).symm
  · intro entry member
    cases member
  · exact fun e member _ => Or.inl member
  · intro e member
    cases member

theorem recordsAll_iff (organizations : List Uuid) (outbox : Table OutboxEvent.id)
    (observations : List Observation) (clock : List Instant) :
    let start := pendingOutbox organizations outbox observations
    RecordsAll codec start (Run.exec (processOutbox codec limit) start clock) ↔
      ∀ e ∈ start.queue, ValidEvent codec organizations e →
        e ∉ Batches.drained limit (Unparsable codec) (Violates codec organizations) start.queue
          clock.length := by
  intro start
  have tracks : Tracks codec start _ := @tracks_runs codec limit organizations
    outbox observations clock
  have queue := (@queue_runs codec limit start clock).2
  constructor
  · intro all e member valid still
    have recorded := all.valid e (mem_queue.mp member) valid
    refine tracks.gone e recorded ?_
    rw [queue]
    exact still
  · intro none
    refine ⟨tracks.observations, tracks.faithful, fun e stored valid => ?_⟩
    have member := mem_queue.mpr stored
    refine (tracks.kept e member valid).resolve_left (fun still => ?_)
    rw [queue] at still
    exact none e member valid still

/-- Every valid event is recorded sooner or later exactly when it is within
reach; otherwise some valid event never is, however often the task runs. -/
theorem records_all_iff (codec : PayloadCodec) (limit : Nat) (organizations : List Uuid)
    (outbox : Table OutboxEvent.id) (observations : List Observation) :
    let start := pendingOutbox organizations outbox observations
    (EventuallyRecordsAll codec limit start ↔ ValidWithinReach codec limit start) ∧
      (¬ ValidWithinReach codec limit start → ∀ clock,
        ¬ RecordsAll codec start (Run.exec (processOutbox codec limit) start clock)) := by
  intro start
  have never (clock : List Instant)
      (all : RecordsAll codec start (Run.exec (processOutbox codec limit) start clock)) :
      ValidWithinReach codec limit start :=
    Batches.reached_of_not_mem ((recordsAll_iff organizations outbox observations clock).mp all)
  refine ⟨⟨?_, ?_⟩, fun unreached clock all => unreached (never clock all)⟩
  · intro ⟨runs, all⟩
    exact never (List.replicate runs 0) (all _ (by simp))
  · intro ⟨runs, reached⟩
    refine ⟨runs, fun clock enough => ?_⟩
    refine (recordsAll_iff organizations outbox observations clock).mpr (fun e member valid => ?_)
    exact Batches.not_mem_of_reached (queue_distinct start).of_map
      (fun _ valid => not_unparsable_of_valid valid) reached enough member valid

/-! ## Two outboxes that never drain -/

/-- A queue that no run changes keeps its valid events. -/
theorem never_records (organizations : List Uuid) (outbox : Table OutboxEvent.id)
    (observations : List Observation) {e : OutboxEvent}
    (member : e ∈ (pendingOutbox organizations outbox observations).queue)
    (valid : ValidEvent codec organizations e)
    (fixed : Batches.drain limit (Unparsable codec) (Violates codec organizations)
      (pendingOutbox organizations outbox observations).queue =
        (pendingOutbox organizations outbox observations).queue) :
    ¬ EventuallyRecordsAll codec limit (pendingOutbox organizations outbox observations) := by
  intro ⟨runs, all⟩
  have recorded := (recordsAll_iff organizations outbox observations (List.replicate runs 0)).mp
    (all _ (by simp)) e member valid
  rw [Batches.drained_of_fixed fixed] at recorded
  exact recorded member

def siteObservation (orgId : Uuid) : ObservationFields where
  timestamp := some 0
  sourceType := "customer_check"
  sourceId := none
  orgId := some orgId
  region := "us-east"
  endpointUrl := "https://vendor.example"
  latencyMs := 12
  statusCode := some 200
  responseTimeMs := none
  tlsVersion := none
  tlsCertificateIssuer := none
  tlsCertificateExpiry := none
  errorType := none
  errorMessage := none
  metadata := none

def sitePayload (orgText : String) : String :=
  "\x7b\"timestamp\":\"1970-01-01T00:00:00Z\",\"source_type\":\"customer_check\",\"org_id\":\"" ++
    orgText ++ "\",\"region\":\"us-east\",\"endpoint_url\":\"https://vendor.example\"," ++
    "\"latency_ms\":12.0,\"status_code\":200\x7d"

def orgText (orgId : Uuid) : String := "00000000-0000-0000-0000-00000000000" ++ toString orgId

/-- The library functions on the payloads of organizations 1 and 2. -/
def siteCodec : PayloadCodec where
  dump dto := sitePayload (orgText (dto.val.orgId.getD 0))
  parse text :=
    if text = sitePayload (orgText 1) then observationCreateDTO (siteObservation 1)
    else if text = sitePayload (orgText 2) then observationCreateDTO (siteObservation 2)
    else none
  uuidText := orgText

def siteEvent (id : Uuid) (payload : String) : OutboxEvent := ⟨id, observationCreated, payload, id⟩

/-- Organization 2 was deleted after its check. -/
def orphanFirst : OutboxDatabase :=
  pendingOutbox [1] ⟨[siteEvent 1 (sitePayload (orgText 2)), siteEvent 2 (sitePayload (orgText 1))],
    by decide⟩ []

def garbageFirst : OutboxDatabase :=
  pendingOutbox [1] ⟨[siteEvent 1 "", siteEvent 2 "", siteEvent 3 (sitePayload (orgText 1))],
    by decide⟩ []

/-- A batch of 100 never gets past the event of a deleted organization, nor a
batch of 2 past two payloads that do not parse. -/
theorem valid_event_blocked :
    ¬ EventuallyRecordsAll siteCodec 100 orphanFirst ∧
      ¬ EventuallyRecordsAll siteCodec 2 garbageFirst := by
  have queues : orphanFirst.queue = orphanFirst.outbox.rows ∧
      garbageFirst.queue = garbageFirst.outbox.rows := by
    constructor <;> exact List.mergeSort_of_pairwise (by decide)
  constructor
  · apply never_records (e := siteEvent 2 (sitePayload (orgText 1)))
    · exact mem_queue.mpr (by decide +kernel)
    · decide +kernel
    · exact queues.1 ▸ (by decide +kernel)
  · apply never_records (e := siteEvent 3 (sitePayload (orgText 1)))
    · exact mem_queue.mpr (by decide +kernel)
    · decide +kernel
    · exact queues.2 ▸ (by decide +kernel)

end Reliastra.Guarantees.OutboxProgress
