import Mathlib.Data.Countable.Basic
import Mathlib.Data.Rat.Encodable
import Mathlib.Logic.Equiv.List
import Reliastra.Guarantees.OutboxDelivery
import Reliastra.Guarantees.RecordableChecks
import Reliastra.Source.Observations.Statistics

/-!
# Checks and observations tell the same story

A check result is up exactly when its observation does not count as a failure:
an answer as expected has a status code and no message, and every other end of a
probe has a message or no status code. The outbox carries every result to one
observation of the same dependency and instant. So once it is drained the two
aggregates count the same rows.
-/

namespace Reliastra.Guarantees.StatisticsAgree

open Reliastra.Library Source Source.Observations
open Source.Checks (Dependency StoredDependency Network HttpStatus Region ProbeOutcome ProbeReport
  checkRow followRedirects followRedirects_ended maxRedirects probeDependency)
open Source.SsrfProtection (UrlLibrary resolvePinnedTarget)
open OutboxDelivery (Accounted Own Invariant emptyOutbox workersIdle invariant_initial keeps_step)
open RecordableChecks (failureText result_errorMessage)

/-! ## One check -/

/-- A probe that is up has a status code; one that is not leaves a message, or
no status code. -/
def Classified (report : ProbeReport) : Prop :=
  report.outcome = .up ↔
    report.statusCode ≠ none ∧ (failureText report.outcome).filter (· ≠ "") = none

theorem append_ne_empty {own : String} (text : String) (nonempty : own ≠ "") : own ++ text ≠ "" := by
  intro empty
  have lengths := congrArg String.length empty
  rw [String.length_append, String.length_empty] at lengths
  exact nonempty (String.length_eq_zero_iff.mp (by omega))

theorem classified_raised (message : String) : Classified ⟨.down message, none⟩ := by
  simp [Classified]

theorem classified_message {message : String} (code : Option Int) (nonempty : message ≠ "") :
    Classified ⟨.down message, code⟩ := by
  simp [Classified, failureText, Option.filter, nonempty]

variable {lib : UrlLibrary}

/-- One redirect after the other, whatever ends them. -/
theorem classified_followRedirects (net : Network) (dep : StoredDependency) (left hop : Nat)
    (currentUrl : String) : Classified (followRedirects lib net dep left hop currentUrl) := by
  have ended := followRedirects_ended lib net dep left hop currentUrl
  generalize followRedirects lib net dep left hop currentUrl = report at ended ⊢
  cases ended with
  | raised error => exact classified_raised error
  | expected status => simp [Classified, failureText]
  | unexpected status => exact classified_message _ (append_ne_empty _ (by decide))
  | tooMany status => exact classified_message _ (by decide)
  | refused status refusal => exact classified_message _ (append_ne_empty _ (by decide))

theorem classified_probe (net : Network) (dep : StoredDependency) :
    Classified (probeDependency lib net dep) := by
  unfold probeDependency
  cases resolvePinnedTarget lib (net 0).resolve (net 0).pin dep.endpointUrl with
  | error refusal => simp [Classified]
  | ok pinned => exact classified_followRedirects net dep maxRedirects 0 dep.endpointUrl

/-- The row and the observation built of it say the same. -/
def Agrees (result : CheckResult) : Prop :=
  result.isUp = true ↔ result.statusCode ≠ none ∧ result.errorMessage.filter (· ≠ "") = none

theorem not_countsAsFailure_iff (codec : PayloadCodec) (result : CheckResult)
    (endpointUrl method : String) :
    ¬ CountsAsFailure (checkObservation codec result endpointUrl method) ↔
      result.statusCode ≠ none ∧ result.errorMessage.filter (· ≠ "") = none := by
  simp [CountsAsFailure, checkObservation]

theorem agrees_checkRow (net : Network) (dep : StoredDependency) (region : Region) (now : Instant)
    (elapsedMs : Rat) (newId : Uuid) :
    Agrees (checkRow dep region (probeDependency lib net dep) now elapsedMs newId) := by
  have classified : Classified (probeDependency lib net dep) := classified_probe net dep
  generalize probeDependency lib net dep = report at classified ⊢
  have message : (checkRow dep region report now elapsedMs newId).errorMessage =
      failureText report.outcome := result_errorMessage ⟨region.val, report.outcome⟩ _ now
  have up : (checkRow dep region report now elapsedMs newId).isUp = true ↔ report.outcome = .up :=
    decide_eq_true_iff
  unfold Agrees
  rw [message, up]
  exact classified

/-! ## What the two tables say -/

/-- What the aggregates read of a row. -/
structure Sighting where
  sourceId : Option Uuid
  moment : Instant
  failed : Bool

def resultSighting (result : CheckResult) : Sighting :=
  ⟨some result.dependencyId, result.executedAt, !result.isUp⟩

def observationSighting (observation : Observation) : Sighting :=
  ⟨observation.fields.sourceId, observation.timestamp, decide (CountsAsFailure observation.fields)⟩

/-- The sighting a payload carries. -/
def eventSighting (codec : PayloadCodec) (event : OutboxEvent) : Option Sighting :=
  (codec.parse event.payload).map (fun dto => observationSighting (observationOf dto 0))

/-- A payload of a check comes back from `model_validate_json` as it went into
`model_dump_json`. -/
def RoundTrips (codec : PayloadCodec) : Prop :=
  ∀ (result : CheckResult) (endpointUrl method : String) (dto : ObservationCreateDTO),
    observationCreateDTO (checkObservation codec result endpointUrl method) = some dto →
      codec.parse (codec.dump dto) = some dto

/-- The event carries the result. -/
def Carries (codec : PayloadCodec) (result : CheckResult) (event : OutboxEvent) : Prop :=
  event.eventType = observationCreated ∧ eventSighting codec event = some (resultSighting result) ∧
    ∀ dto ∈ codec.parse event.payload, dto.val.timestamp ≠ none

variable {codec : PayloadCodec}

theorem carries_of_enqueued (roundTrips : RoundTrips codec) {result : CheckResult}
    {event : OutboxEvent} {endpointUrl method : String} {now : Instant} {newId : Uuid}
    (agrees : Agrees result)
    (enqueued : outboxEventOf codec result endpointUrl method now newId = .ok event) :
    Carries codec result event := by
  unfold outboxEventOf at enqueued
  cases built : observationCreateDTO (checkObservation codec result endpointUrl method) with
  | none =>
    rw [built] at enqueued
    cases enqueued
  | some dto =>
    rw [built] at enqueued
    cases enqueued
    have parsed := roundTrips result endpointUrl method dto built
    have fields : dto.val = checkObservation codec result endpointUrl method := by
      unfold observationCreateDTO at built
      split at built
      · cases built
        rfl
      · cases built
    refine ⟨rfl, ?_, ?_⟩
    · have verdict : decide (CountsAsFailure (checkObservation codec result endpointUrl method)) =
          !result.isUp := by
        have same := agrees.trans (not_countsAsFailure_iff codec result endpointUrl method).symm
        cases up : result.isUp <;> simp_all
      simp only [eventSighting, parsed, Option.map_some, observationSighting, observationOf, fields,
        verdict]
      rfl
    · intro other found
      rw [parsed, Option.mem_some_iff] at found
      rw [← found, fields]
      exact Option.some_ne_none _

/-! ## The pairs of a run -/

/-- Results and events are published in pairs. -/
def Paired (codec : PayloadCodec) {ι : Type} (s : EvidenceStore ι) : Prop :=
  List.Forall₂ (Carries codec) s.results s.committed

def OwnPair (codec : PayloadCodec) {ι : Type} (_ : ι) (_ : EvidenceStore ι) : OutboxPhase → Prop
  | .checked result => Agrees result
  | .enqueued result event => Carries codec result event
  | .idle | .draining _ _ | .recording _ _ _ _ => True

/-- A step that publishes nothing only has to account for its worker. -/
theorem keeps_unpublished {ι : Type} {w : World (EvidenceStore ι) ι OutboxPhase} {i : ι}
    {after : EvidenceStore ι × OutboxPhase}
    (holds : World.Holds (Paired codec) (OwnPair codec) (fun _ _ => True) w)
    (results : after.1.results = w.shared.results)
    (committed : after.1.committed = w.shared.committed) (mine : OwnPair codec i after.1 after.2) :
    World.Keeps (Paired codec) (OwnPair codec) (fun _ _ => True) w i after := by
  refine ⟨?_, mine, fun j _ => holds.own j, fun _ _ => trivial⟩
  unfold Paired
  rw [results, committed]
  exact holds.store

theorem paired_publish {ι : Type} {s after : EvidenceStore ι} {result : CheckResult}
    {event : OutboxEvent} (paired : Paired codec s) (carries : Carries codec result event)
    (published : s.publish result event = some after) : Paired codec after := by
  obtain ⟨outbox, _, rfl⟩ := Option.map_eq_some_iff.mp published
  exact List.rel_append paired (.cons carries .nil)

section Interleaving
variable {ι : Type} [DecidableEq ι]

theorem keeps_pairs (roundTrips : RoundTrips codec) (w : World (EvidenceStore ι) ι OutboxPhase)
    (i : ι) (act : EvidenceAct)
    (holds : World.Holds (Paired codec) (OwnPair codec) (fun _ _ => True) w) :
    World.Keeps (Paired codec) (OwnPair codec) (fun _ _ => True) w i
      (evidenceAct codec lib i w.shared (w.locals i) act) := by
  have own := holds.own i
  unfold evidenceAct
  cases act with
  | check net dep region now elapsedMs newId =>
    unfold EvidenceAct.statement outboxAct
    dsimp only
    split
    · exact keeps_unpublished holds rfl rfl (agrees_checkRow net dep region now elapsedMs newId)
    · exact keeps_unpublished holds rfl rfl own
  | confirmQuorum =>
    unfold EvidenceAct.statement outboxAct
    dsimp only
    split
    · next result here =>
      rw [here] at own
      exact keeps_unpublished holds rfl rfl own
    · exact keeps_unpublished holds rfl rfl own
  | enqueue dep now newId =>
    unfold EvidenceAct.statement outboxAct
    dsimp only
    split
    · next result here =>
      rw [here] at own
      split
      · next event enqueued =>
        exact keeps_unpublished holds rfl rfl (carries_of_enqueued roundTrips own enqueued)
      · exact keeps_unpublished holds rfl rfl trivial
    · exact keeps_unpublished holds rfl rfl own
  | listPending limit events =>
    unfold EvidenceAct.statement outboxAct
    dsimp only
    split
    · split
      · exact keeps_unpublished holds rfl rfl trivial
      · exact keeps_unpublished holds rfl rfl own
    · exact keeps_unpublished holds rfl rfl own
  | processEvent now =>
    unfold EvidenceAct.statement outboxAct
    dsimp only
    split
    · split
      · exact keeps_unpublished holds rfl rfl trivial
      split
      · exact keeps_unpublished holds rfl rfl trivial
      split
      · exact keeps_unpublished holds rfl rfl trivial
      · exact keeps_unpublished holds rfl rfl trivial
    · exact keeps_unpublished holds rfl rfl own
  | deleteEvent =>
    unfold EvidenceAct.statement outboxAct
    dsimp only
    split
    · exact keeps_unpublished holds rfl rfl trivial
    · exact keeps_unpublished holds rfl rfl own
  | commit =>
    unfold EvidenceAct.statement outboxAct
    dsimp only
    split
    · next result event here =>
      rw [here] at own
      cases published : w.shared.publish result event with
      | none => exact keeps_unpublished holds rfl rfl trivial
      | some after =>
        exact ⟨paired_publish holds.store own published, trivial, fun j _ => holds.own j,
          fun _ _ => trivial⟩
    · exact keeps_unpublished holds rfl rfl trivial
    · exact keeps_unpublished holds rfl rfl own
  | abort => exact keeps_unpublished holds rfl rfl trivial

/-- Where a run of workers has come to, from empty tables. -/
def reached (codec : PayloadCodec) (lib : UrlLibrary) (organizations : List Uuid)
    (run : List (ι × EvidenceAct)) : EvidenceStore ι :=
  (Run.exec (World.move (evidenceAct codec lib)) (workersIdle (emptyOutbox organizations [] []))
    run).shared

theorem reached_accounted (organizations : List Uuid) (run : List (ι × EvidenceAct)) :
    Accounted codec [] (reached codec lib organizations run) := by
  have steps : ∀ (w : World (EvidenceStore ι) ι OutboxPhase) (i : ι) (act : EvidenceAct),
      Invariant codec [] w → World.Keeps (Accounted codec []) (Own codec) (fun _ _ => True) w i
        (evidenceAct codec lib i w.shared (w.locals i) act) :=
    fun w i act holds => keeps_step w i (act.statement lib) holds
  exact (World.Holds.exec (fun _ _ _ => trivial) steps _ run
    (invariant_initial organizations [] [])).store

theorem reached_paired (roundTrips : RoundTrips codec) (organizations : List Uuid)
    (run : List (ι × EvidenceAct)) : Paired codec (reached codec lib organizations run) := by
  have initial : World.Holds (Paired codec) (OwnPair codec) (fun _ _ => True)
      (workersIdle (emptyOutbox (ι := ι) organizations [] [])) :=
    ⟨.nil, fun _ => trivial, fun _ _ _ => trivial⟩
  exact (World.Holds.exec (fun _ _ _ => trivial) (keeps_pairs roundTrips) _ run initial).store

end Interleaving

/-! ## The rows of a drained outbox -/

theorem results_sightings {results : List CheckResult} {events : List OutboxEvent}
    (paired : List.Forall₂ (Carries codec) results events) :
    events.map (eventSighting codec) = results.map (fun r => some (resultSighting r)) := by
  induction paired with
  | nil => rfl
  | cons carries _ ih => rw [List.map_cons, List.map_cons, carries.2.1, ih]

theorem carries_of_mem {results : List CheckResult} {events : List OutboxEvent}
    (paired : List.Forall₂ (Carries codec) results events) {event : OutboxEvent}
    (member : event ∈ events) : ∃ result, Carries codec result event := by
  induction paired with
  | nil => cases member
  | cons carries _ ih =>
    rcases List.mem_cons.mp member with rfl | later
    · exact ⟨_, carries⟩
    · exact ih later

theorem observation_sighting {event : OutboxEvent} {observation : Observation}
    {result : CheckResult} (carries : Carries codec result event)
    (source : FromPayload codec (event, observation)) :
    eventSighting codec event = some (observationSighting observation) := by
  obtain ⟨dto, now, parsed, rfl⟩ := source
  have parsed : codec.parse event.payload = some dto := parsed
  obtain ⟨moment, timed⟩ := Option.ne_none_iff_exists'.mp (carries.2.2 dto parsed)
  have same : observationOf dto 0 = observationOf dto now := by
    simp only [observationOf, timed, Option.getD_some]
  rw [eventSighting, parsed, Option.map_some, same]

/-- Every result has become one observation that says the same. -/
theorem sightings_perm {ι : Type} {s : EvidenceStore ι} (accounted : Accounted codec [] s)
    (paired : Paired codec s) (drained : s.outbox.rows = []) :
    (s.results.map resultSighting).Perm (s.observations.map observationSighting) := by
  have committed : s.committed.Perm s.removed := by
    have conserved := accounted.conserved
    rwa [drained, List.nil_append] at conserved
  have created : ∀ e ∈ s.removed, decide (e.eventType = observationCreated) = true := by
    intro e member
    obtain ⟨result, carries⟩ := carries_of_mem paired (committed.mem_iff.mpr member)
    exact decide_eq_true carries.1
  have recorded : s.recorded.map (·.1) = s.removed := by
    rw [accounted.recorded, List.filter_eq_self.mpr created]
  have observed : s.recorded.map (fun entry => eventSighting codec entry.1) =
      s.recorded.map (fun entry => some (observationSighting entry.2)) := by
    refine List.map_congr_left (fun entry member => ?_)
    have place : entry.1 ∈ s.committed := by
      rw [committed.mem_iff, ← recorded]
      exact List.mem_map_of_mem member
    obtain ⟨result, carries⟩ := carries_of_mem paired place
    exact observation_sighting carries (accounted.faithful entry member)
  have perm : (s.results.map (fun r => some (resultSighting r))).Perm
      (s.observations.map (fun o => some (observationSighting o))) := by
    have moved := committed.map (eventSighting codec)
    rw [results_sightings paired, ← recorded, List.map_map] at moved
    refine moved.trans (List.Perm.of_eq ?_)
    rw [accounted.observations, List.nil_append, List.map_map]
    exact observed
  have bare := perm.filterMap id
  simpa [List.filterMap_map, Function.comp_def] using bare

/-! ## The aggregates -/

/-- The rows both aggregates select. -/
def InWindow (sourceId : Uuid) (since : Instant) (s : Sighting) : Prop :=
  s.sourceId = some sourceId ∧ since ≤ s.moment

instance (sourceId : Uuid) (since : Instant) : DecidablePred (InWindow sourceId since) := fun s =>
  inferInstanceAs (Decidable (s.sourceId = some sourceId ∧ since ≤ s.moment))

def seen (sourceId : Uuid) (since : Instant) (rows : List Sighting) : List Sighting :=
  rows.filter (fun s => InWindow sourceId since s)

def failures (rows : List Sighting) : Int := sumWhere (fun s => s.failed = true) (fun _ => 1) rows

theorem checks_seen {dependencies : Table Dependency.id} {dep : Dependency}
    (stored : dep ∈ dependencies.rows) (live : dep.isDeleted = false) (since : Instant)
    (rows : List CheckResult) :
    (checksInWindow dependencies dep.id since rows).map resultSighting =
      seen dep.id since (rows.map resultSighting) := by
  unfold checksInWindow seen
  rw [List.filter_map]
  congr 1
  refine List.filter_congr (fun r _ => decide_eq_decide.mpr ?_)
  constructor
  · intro ⟨_, same, inside⟩
    exact ⟨congrArg some same, inside⟩
  · intro ⟨same, inside⟩
    have same : r.dependencyId = dep.id := Option.some.inj same
    exact ⟨⟨dep, stored, same, live⟩, same, inside⟩

theorem observations_seen (sourceId : Uuid) (since : Instant) (rows : List Observation) :
    (observationsInWindow sourceId since rows).map observationSighting =
      seen sourceId since (rows.map observationSighting) := by
  unfold observationsInWindow seen
  rw [List.filter_map]
  rfl

theorem checkAggregatedStats_eq {dependencies : Table Dependency.id} {dep : Dependency}
    (stored : dep ∈ dependencies.rows) (live : dep.isDeleted = false) (windowHours : Int)
    (now : Instant) (rows : List CheckResult) :
    (checkAggregatedStats dependencies rows dep.id windowHours now).totalChecks =
        (seen dep.id (windowStart windowHours now) (rows.map resultSighting)).length ∧
      (checkAggregatedStats dependencies rows dep.id windowHours now).totalDown =
        failures (seen dep.id (windowStart windowHours now) (rows.map resultSighting)) := by
  rw [← checks_seen stored live]
  unfold checkAggregatedStats failures
  generalize checksInWindow dependencies dep.id (windowStart windowHours now) rows = selected
  dsimp only
  constructor
  · rw [List.length_map]
  · induction selected with
    | nil => rfl
    | cons r rest ih =>
      rw [List.map_cons, sumWhere_cons, sumWhere_cons, ← ih, List.length_cons]
      cases up : r.isUp <;> simp [resultSighting, up] <;> omega

theorem observationAggregatedStats_eq (sourceId : Uuid) (windowHours : Int) (now : Instant)
    (rows : List Observation) :
    (observationAggregatedStats rows sourceId windowHours now).total =
        (seen sourceId (windowStart windowHours now) (rows.map observationSighting)).length ∧
      (observationAggregatedStats rows sourceId windowHours now).errors =
        failures (seen sourceId (windowStart windowHours now) (rows.map observationSighting)) := by
  rw [← observations_seen]
  unfold observationAggregatedStats failures
  generalize observationsInWindow sourceId (windowStart windowHours now) rows = selected
  dsimp only
  constructor
  · rw [List.length_map]
  · induction selected with
    | nil => rfl
    | cons o rest ih =>
      rw [List.map_cons, sumWhere_cons, sumWhere_cons, ← ih]
      simp [observationSighting]

theorem failures_perm {rows others : List Sighting} (perm : rows.Perm others) :
    failures rows = failures others := by
  unfold failures
  induction perm with
  | nil => rfl
  | cons s _ ih => rw [sumWhere_cons, sumWhere_cons, ih]
  | swap s t rest =>
    simp only [sumWhere_cons]
    omega
  | trans _ _ first second => exact first.trans second

/-! ## Main result -/

/-- Whatever the network does, a check result is up exactly when its observation
does not count as a failure. And whatever producers and processors have done,
once nothing is pending, the two aggregates of a dependency that is not deleted
count the same rows and the same failures in every window, at every instant. -/
theorem statistics_agree {ι : Type} [DecidableEq ι] (codec : PayloadCodec) (lib : UrlLibrary)
    (roundTrips : RoundTrips codec) :
    (∀ (net : Network) (dep : StoredDependency) (region : Region) (now : Instant) (elapsedMs : Rat)
        (newId : Uuid) (confirmed : Bool),
      let result := { checkRow dep region (probeDependency lib net dep) now elapsedMs newId with
        quorumConfirmed := confirmed }
      result.isUp = true ↔
        ¬ CountsAsFailure (checkObservation codec result dep.endpointUrl dep.method.value)) ∧
    ∀ (organizations : List Uuid) (run : List (ι × EvidenceAct)),
      (reached codec lib organizations run).outbox.rows = [] →
      ∀ (dependencies : Table Dependency.id) (dep : Dependency), dep ∈ dependencies.rows →
      dep.isDeleted = false → ∀ (windowHours : Int) (now : Instant),
        let checks := checkAggregatedStats dependencies (reached codec lib organizations run).results
          dep.id windowHours now
        let observations := observationAggregatedStats
          (reached codec lib organizations run).observations dep.id windowHours now
        checks.totalChecks = observations.total ∧ checks.totalDown = observations.errors := by
  constructor
  · intro net dep region now elapsedMs newId confirmed result
    have agrees : Agrees (checkRow dep region (probeDependency lib net dep) now elapsedMs newId) :=
      agrees_checkRow net dep region now elapsedMs newId
    exact agrees.trans
      (not_countsAsFailure_iff codec result dep.endpointUrl dep.method.value).symm
  · intro organizations run drained dependencies dep stored live windowHours now
    have perm := sightings_perm (reached_accounted organizations run)
      (reached_paired roundTrips organizations run) drained
    have inWindow : (seen dep.id (windowStart windowHours now) _).Perm
        (seen dep.id (windowStart windowHours now) _) := perm.filter _
    have checks := checkAggregatedStats_eq stored live windowHours now
      (reached codec lib organizations run).results
    have observations := observationAggregatedStats_eq dep.id windowHours now
      (reached codec lib organizations run).observations
    constructor
    · rw [checks.1, observations.1, inWindow.length_eq]
    · rw [checks.2, observations.2, failures_perm inWindow]

/-! ## A history -/

def vendorLibrary : UrlLibrary where
  urlparse _ := .ok ⟨"https", some "api.example", .ok none⟩
  urljoin _ location := .ok location
  inBlockedNetwork text := if text = "api.example" then .error "ValueError" else .ok false

/-- The vendor answers with an internal error. -/
def failingNetwork : Network := fun _ =>
  ⟨fun _ => .ok ["93.184.216.34"], fun _ => .ok ["93.184.216.34"], .response 500 none⟩

def vendorDependency : StoredDependency where
  id := 1
  orgId := 2
  isActive := true
  isDeleted := false
  endpointUrl := "https://api.example/"
  method := .get
  expectedStatusCodes := []
  urlScheme := by decide
  urlFits := by decide

theorem usEast_allowed : "us-east" ∈ Checks.allowedRegions := by decide

def usEast : Region := ⟨"us-east", usEast_allowed⟩

def failedResult : CheckResult :=
  checkRow vendorDependency usEast (probeDependency vendorLibrary failingNetwork vendorDependency)
    0 250 7

def uuidText (id : Uuid) : String := "00000000-0000-0000-0000-" ++ zeroPadded 12 id

def failedFields : ObservationFields :=
  checkObservation ⟨fun _ => "", fun _ => none, uuidText⟩ failedResult "https://api.example/" "GET"

def failedDto : ObservationCreateDTO := ⟨failedFields, by decide⟩

def failedMembers : String :=
  "\"timestamp\":\"1970-01-01T00:00:00Z\",\"source_type\":\"customer_check\"," ++
    "\"source_id\":\"00000000-0000-0000-0000-000000000001\"," ++
    "\"org_id\":\"00000000-0000-0000-0000-000000000002\",\"region\":\"us-east\"," ++
    "\"endpoint_url\":\"https://api.example/\",\"latency_ms\":250.0,\"status_code\":500," ++
    "\"response_time_ms\":250.0,\"tls_version\":null,\"tls_certificate_issuer\":null," ++
    "\"tls_certificate_expiry\":null,\"error_type\":\"unexpected_status_code\"," ++
    "\"error_message\":\"Unexpected status code: 500\",\"metadata\":\x7b\"method\":\"GET\"," ++
    "\"is_up\":false,\"quorum_confirmed\":false," ++
    "\"check_result_id\":\"00000000-0000-0000-0000-000000000007\"\x7d"

/-- `model_dump_json` of the observation. -/
def failedPayload : String := "\x7b" ++ failedMembers ++ "\x7d"

/-- The DTO of a check, from what it is built of. -/
def builtOf (source : CheckResult × String × String) : Option ObservationCreateDTO :=
  observationCreateDTO (checkObservation ⟨fun _ => "", fun _ => none, uuidText⟩ source.1 source.2.1
    source.2.2)

theorem exists_numbering :
    ∃ number : CheckResult × String × String → Nat, Function.Injective number := by
  have chars : Countable Char :=
    Function.Injective.countable (f := Char.toNat) (fun a b same => Char.toNat_inj.mp same)
  have texts : Countable String :=
    Function.Injective.countable (f := String.toList) (fun _ _ same => String.toList_injective same)
  have results : Countable CheckResult := by
    refine Function.Injective.countable (f := fun r : CheckResult =>
      (r.dependencyId, r.orgId, r.region, r.executedAt, r.isUp, r.errorMessage, r.quorumConfirmed,
        r.id, r.latencyMs, r.statusCode)) ?_
    intro ⟨⟨_, _, _, _, _, _, _⟩, _, _, _⟩ ⟨⟨_, _, _, _, _, _, _⟩, _, _, _⟩ same
    simp only [Prod.mk.injEq] at same
    simp [same]
  exact exists_injective_nat _

open Classical in
/-- The library on the sample's payload, and some invertible text elsewhere. -/
noncomputable def vendorCodec : PayloadCodec where
  dump dto :=
    if dto = failedDto then failedPayload
    else if built : ∃ source, builtOf source = some dto then
      String.ofList (List.replicate (exists_numbering.choose built.choose) 'a')
    else ""
  parse text :=
    if text = failedPayload then some failedDto
    else if numbered : ∃ source, exists_numbering.choose source = text.length then
      builtOf numbered.choose
    else none
  uuidText := uuidText

theorem parse_failedPayload : vendorCodec.parse failedPayload = some failedDto := by
  simp only [vendorCodec, if_true]

theorem dump_failedDto : vendorCodec.dump failedDto = failedPayload := by
  simp only [vendorCodec, if_true]

theorem vendorCodec_roundTrips : RoundTrips vendorCodec := by
  intro result endpointUrl method dto built
  by_cases sample : dto = failedDto
  · rw [sample, dump_failedDto, parse_failedPayload]
  have source : ∃ source, builtOf source = some dto := ⟨(result, endpointUrl, method), built⟩
  have dumped : vendorCodec.dump dto =
      String.ofList (List.replicate (exists_numbering.choose source.choose) 'a') := by
    simp only [vendorCodec, if_neg sample, dif_pos source]
  have other : vendorCodec.dump dto ≠ failedPayload := by
    intro same
    have brace : '{' ∈ (vendorCodec.dump dto).toList := by
      rw [same, failedPayload, String.toList_append, String.toList_append]
      exact List.mem_append_left _ (List.mem_append_left _ (by decide))
    rw [dumped, String.toList_ofList] at brace
    cases List.eq_of_mem_replicate brace
  have numbered : ∃ number, exists_numbering.choose number = (vendorCodec.dump dto).length :=
    ⟨source.choose, by rw [dumped, String.length_ofList, List.length_replicate]⟩
  have same : numbered.choose = source.choose := by
    apply exists_numbering.choose_spec
    rw [numbered.choose_spec, dumped, String.length_ofList, List.length_replicate]
  calc vendorCodec.parse (vendorCodec.dump dto) = builtOf numbered.choose := by
        simp only [vendorCodec] at other numbered ⊢
        rw [if_neg other, dif_pos numbered]
    _ = some dto := by rw [same, source.choose_spec]

def failedEvent : OutboxEvent := ⟨8, observationCreated, failedPayload, 0⟩

/-- The check is published. -/
def publishedStore : EvidenceStore Bool :=
  { emptyOutbox [2] [] [] with
    results := [failedResult]
    outbox := ⟨[failedEvent], List.nodup_singleton _⟩
    committed := [failedEvent] }

def checkActs : List EvidenceAct :=
  [.check failingNetwork vendorDependency usEast 0 250 7, .enqueue vendorDependency 0 8, .commit]

def drainActs : List EvidenceAct :=
  [.listPending 100 [failedEvent], .processEvent 1, .deleteEvent, .commit]

/-- One check, and one batch of the outbox. -/
def vendorHistory : List (Bool × EvidenceAct) :=
  checkActs.map (fun a => (false, a)) ++ drainActs.map (fun a => (true, a))

theorem failedEvent_enqueued :
    outboxEventOf vendorCodec failedResult "https://api.example/" "GET" 0 8 = .ok failedEvent := by
  have built : observationCreateDTO
      (checkObservation vendorCodec failedResult "https://api.example/" "GET") = some failedDto :=
    dif_pos failedDto.property
  unfold outboxEventOf
  rw [built]
  exact congrArg Except.ok (congrArg (OutboxEvent.mk 8 observationCreated · 0) dump_failedDto)

theorem check_published :
    Run.exec (fun s a => evidenceAct vendorCodec vendorLibrary false s.1 s.2 a)
      (emptyOutbox [2] [] [], .idle) checkActs = (publishedStore, .idle) := by
  have enqueued : evidenceAct vendorCodec vendorLibrary false (emptyOutbox [2] [] [])
      (.checked failedResult) (.enqueue vendorDependency 0 8) =
        (emptyOutbox [2] [] [], .enqueued failedResult failedEvent) := by
    have urls : vendorDependency.endpointUrl = "https://api.example/" ∧
        vendorDependency.method.value = "GET" := ⟨rfl, rfl⟩
    simp only [evidenceAct, EvidenceAct.statement, outboxAct, urls, failedEvent_enqueued]
  unfold checkActs
  rw [Run.exec_cons, Run.exec_cons]
  change Run.exec _ (evidenceAct vendorCodec vendorLibrary false (emptyOutbox [2] [] [])
      (.checked failedResult) (.enqueue vendorDependency 0 8)) [EvidenceAct.commit] = _
  rw [enqueued]
  rfl

theorem event_drained :
    (Run.exec (fun s a => evidenceAct vendorCodec vendorLibrary true s.1 s.2 a)
      (publishedStore, .idle) drainActs).1.outbox.rows = [] := by
  have answer : PendingAnswer publishedStore 100 [failedEvent] :=
    ⟨fun e member => member, fun _ _ => rfl, List.nodup_singleton _, List.pairwise_singleton _ _,
      by decide⟩
  have storable : failedDto.val.Storable [2] := by decide
  have listed : evidenceAct vendorCodec vendorLibrary true publishedStore .idle
      (.listPending 100 [failedEvent]) =
        (publishedStore.lock true [failedEvent], .draining [failedEvent] ⟨[], []⟩) := by
    simp only [evidenceAct, EvidenceAct.statement, outboxAct, if_pos answer]
  have processed : evidenceAct vendorCodec vendorLibrary true
      (publishedStore.lock true [failedEvent]) (.draining [failedEvent] ⟨[], []⟩)
      (.processEvent 1) = (publishedStore.lock true [failedEvent],
        .recording failedEvent (observationOf failedDto 1) [] ⟨[], []⟩) := by
    unfold evidenceAct EvidenceAct.statement outboxAct
    simp only [failedEvent, ne_eq, not_true_eq_false, if_false, parse_failedPayload]
    exact if_pos storable
  unfold drainActs
  rw [Run.exec_cons, Run.exec_cons]
  dsimp only
  rw [listed]
  dsimp only
  rw [processed]
  rfl

theorem vendorHistory_drained :
    (reached vendorCodec vendorLibrary [2] vendorHistory).outbox.rows = [] := by
  unfold reached vendorHistory workersIdle
  rw [Run.exec_append, World.exec_party, World.exec_party, check_published]
  dsimp only
  rw [Function.update_of_ne Bool.noConfusion]
  exact event_drained

/-- A check that failed and its observation, counted. -/
theorem statistics_agree_sample :
    let s := reached vendorCodec vendorLibrary [2] vendorHistory
    let checks := checkAggregatedStats ⟨[vendorDependency.toDependency], List.nodup_singleton _⟩
      s.results 1 24 0
    let observations := observationAggregatedStats s.observations 1 24 0
    checks.totalChecks = observations.total ∧ checks.totalDown = observations.errors :=
  (statistics_agree vendorCodec vendorLibrary vendorCodec_roundTrips).2 [2] vendorHistory
    vendorHistory_drained ⟨[vendorDependency.toDependency], List.nodup_singleton _⟩
    vendorDependency.toDependency List.mem_cons_self rfl 24 0

end Reliastra.Guarantees.StatisticsAgree
