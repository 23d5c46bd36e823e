import Mathlib.Data.Rat.Defs
import Reliastra.Source.Vendors.Service
import Mathlib.Data.List.Dedup
import Mathlib.Data.List.Sort
import Reliastra.Library.Run
import Reliastra.Source.Checks.Execution

/-!
# The timeline of a vendor

`_get_vendor_timeline_impl` and `_associate_incidents` of
`app/modules/vendors/service.py`, with `VendorRepository.get_incidents_in_window`.
The buckets come from one aggregate query, so they are an input here: what it
answers for the window and the resolution it is asked for.
-/

namespace Reliastra.Source.Vendors

open Reliastra.Library Api

/-! ## Windows and resolutions -/

/-- `_WINDOW_HOURS`. -/
def windowHours : List (String × Int) :=
  [("1h", 1), ("6h", 6), ("24h", 24), ("7d", 168), ("30d", 720), ("90d", 2160)]

/-- `_AUTO_RESOLUTION`. -/
def autoResolution : List (String × Int) :=
  [("1h", 60), ("6h", 60), ("24h", 300), ("7d", 900), ("30d", 3600), ("90d", 21600)]

/-- `_RESOLUTION_SECONDS`. -/
def resolutionSeconds : List (String × Int) :=
  [("1m", 60), ("5m", 300), ("15m", 900), ("1h", 3600), ("6h", 21600)]

def joinLabels (labels : List (String × Int)) : String :=
  ", ".intercalate (labels.map (·.1))

def checkWindow (window : String) : Except Failure Unit :=
  refuseIf (windowHours.lookup window = none)
    (invalid ("Invalid window '" ++ window ++ "'. Supported: " ++ joinLabels windowHours))

def checkResolution (resolution : String) : Except Failure Unit :=
  refuseIf (resolution ≠ "auto" ∧ resolutionSeconds.lookup resolution = none)
    (invalid ("Invalid resolution '" ++ resolution ++ "'. Supported: auto, " ++
      joinLabels resolutionSeconds))

/-- `_resolve_resolution`. -/
def resolveResolution (window resolution : String) : Except Failure Int :=
  if resolution = "auto" then require (autoResolution.lookup window) (.python "KeyError")
  else require (resolutionSeconds.lookup resolution) (.python "KeyError")

/-- What the timeline's first step settles: the hours and the width of a bucket. -/
def timelineWindow (window resolution : String) : Except Failure (Int × Int) := do
  checkWindow window
  checkResolution resolution
  let width ← resolveResolution window resolution
  let hours ← require (windowHours.lookup window) (.python "KeyError")
  .ok (hours, width)

/-! ## Incidents of the window -/

/-- The columns `get_incidents_in_window` selects. -/
structure IncidentPeriod where
  id : Uuid
  startedAt : Instant
  resolvedAt : Option Instant
  deriving DecidableEq, Repr

/-- `inc_resolved or datetime.now(timezone.utc)`. -/
def IncidentPeriod.endedAt (incident : IncidentPeriod) (now : Instant) : Instant :=
  incident.resolvedAt.getD now

/-- `tstzrange(a, b) && tstzrange(c, d)`: an empty range overlaps none. -/
def RangesOverlap (a b c d : Instant) : Prop := a < b ∧ c < d ∧ a < d ∧ c < b

instance (a b c d : Instant) : Decidable (RangesOverlap a b c d) :=
  inferInstanceAs (Decidable (a < b ∧ c < d ∧ a < d ∧ c < b))

def incidentPeriod (incident : Incident) : IncidentPeriod :=
  ⟨incident.id, incident.startedAt, incident.resolvedAt⟩

section Queries
variable (byStart : OrderBy IncidentPeriod.startedAt) (incidents : Table Incident.id)
  (dependencies : Table Dependency.id)

def monitoredIncidents (endpointUrls : List String) : List IncidentPeriod :=
  (incidents.rows.filter (fun incident => ∃ dep ∈ dependencies.rows,
    incident.dependencyId = dep.id ∧ dep.endpointUrl ∈ endpointUrls)).map incidentPeriod

/-- A range with its bounds in the wrong order is an error of the query. -/
def getIncidentsInWindow (endpointUrls : List String) (windowStart windowEnd now : Instant) :
    Except Failure (List IncidentPeriod) :=
  if endpointUrls = [] then .ok []
  else do
    let joined := monitoredIncidents incidents dependencies endpointUrls
    refuseIf (windowEnd < windowStart ∨ ∃ incident ∈ joined, incident.endedAt now < incident.startedAt)
      (.python "DataError")
    .ok (byStart.arrange (joined.filter (fun incident =>
      RangesOverlap incident.startedAt (incident.endedAt now) windowStart windowEnd)))

end Queries

/-! ## Points -/

/-- A row of the bucket query. -/
structure BucketRow where
  bucketStart : Instant
  avgLatencyMs : ℚ
  repStatusCode : Option Int
  isUp : Bool
  obsCount : Nat
  deriving DecidableEq

structure TimelineBucket where
  timestamp : Instant
  avgLatencyMs : ℚ
  statusCode : Option Int
  isUp : Bool
  observationCount : Nat
  incidentId : Option Uuid
  deriving DecidableEq

def timelinePoint (bucket : BucketRow) (incidentId : Option Uuid) : TimelineBucket where
  timestamp := bucket.bucketStart
  avgLatencyMs := bucket.avgLatencyMs
  statusCode := bucket.repStatusCode
  isUp := bucket.isUp
  observationCount := bucket.obsCount
  incidentId := incidentId

/-- `b_start < inc_end and inc_start < b_end_est`, with the end estimated ten minutes
after the start. -/
def OverlapsEstimate (bucket : BucketRow) (now : Instant) (incident : IncidentPeriod) : Prop :=
  bucket.bucketStart < incident.endedAt now ∧
    incident.startedAt < bucket.bucketStart + secondsToMicros 600

instance (bucket : BucketRow) (now : Instant) (incident : IncidentPeriod) :
    Decidable (OverlapsEstimate bucket now incident) :=
  inferInstanceAs (Decidable (_ ∧ _))

/-- `_associate_incidents`. -/
def associateIncidents (buckets : List BucketRow) (incidents : List IncidentPeriod)
    (now : Instant) : List TimelineBucket :=
  if incidents = [] then buckets.map (fun bucket => timelinePoint bucket none)
  else buckets.map (fun bucket => timelinePoint bucket
    ((incidents.find? (fun incident => OverlapsEstimate bucket now incident)).map (·.id)))

/-- The points of `_get_vendor_timeline_impl` when nothing is cached. `urls` are the
vendor's, and `timelineBuckets` is the aggregate query. -/
def timelinePoints (byStart : OrderBy IncidentPeriod.startedAt) (incidents : Table Incident.id)
    (dependencies : Table Dependency.id)
    (timelineBuckets : List String → Instant → Instant → Int → List BucketRow)
    (urls : List String) (window resolution : String) (now : Instant) :
    Except Failure (List TimelineBucket) := do
  let (hours, width) ← timelineWindow window resolution
  let since := now - secondsToMicros (hours * 3600)
  let buckets := timelineBuckets urls since now width
  let periods ← getIncidentsInWindow byStart incidents dependencies urls since now now
  .ok (associateIncidents buckets periods now)

/-- The two branches of the source agree: without incidents no bucket finds one. -/
theorem associateIncidents_eq (buckets : List BucketRow) (incidents : List IncidentPeriod)
    (now : Instant) :
    associateIncidents buckets incidents now = buckets.map (fun bucket => timelinePoint bucket
      ((incidents.find? (fun incident => OverlapsEstimate bucket now incident)).map (·.id))) := by
  unfold associateIncidents
  split
  · next none => simp [none]
  · rfl

/-- The query returns an incident once, so an id stands for one period. -/
theorem getIncidentsInWindow_unique {byStart : OrderBy IncidentPeriod.startedAt}
    {incidents : Table Incident.id} {dependencies : Table Dependency.id}
    {endpointUrls : List String} {windowStart windowEnd now : Instant}
    {periods : List IncidentPeriod}
    (ok : getIncidentsInWindow byStart incidents dependencies endpointUrls windowStart windowEnd
      now = .ok periods) :
    ∀ first ∈ periods, ∀ second ∈ periods, first.id = second.id → first = second := by
  unfold getIncidentsInWindow at ok
  split at ok
  · cases ok
    simp
  · rw [bind_eq_ok_iff] at ok
    obtain ⟨_, _, arranged⟩ := ok
    cases arranged
    -- every selected row is that of an incident of the table
    have source (period : IncidentPeriod) (member : period ∈ byStart.arrange
        ((monitoredIncidents incidents dependencies endpointUrls).filter (fun incident =>
          RangesOverlap incident.startedAt (incident.endedAt now) windowStart windowEnd))) :
        ∃ incident ∈ incidents.rows, incidentPeriod incident = period := by
      rw [byStart.mem_arrange, List.mem_filter, monitoredIncidents, List.mem_map] at member
      obtain ⟨⟨incident, selected, same⟩, _⟩ := member
      exact ⟨incident, (List.mem_filter.mp selected).1, same⟩
    intro first inFirst second inSecond sameId
    obtain ⟨incident, row, rfl⟩ := source first inFirst
    obtain ⟨other, otherRow, rfl⟩ := source second inSecond
    rw [incidents.eq_of_key row otherRow sameId]

end Reliastra.Source.Vendors

/-!
## Responses of the timeline

`get_vendor_timeline` of `app/modules/vendors/service.py` around what the timeline module
has, with `get_timeline_buckets` of the observation repository. A response is cached in
Redis under its request and the minute; an entry may be gone at any time, and Redis may
fail. With every entry stands the evidence it was made of, which the source does not keep.
-/

namespace Reliastra.Source.Vendors

open Reliastra.Library Api Observations

structure TimelineDatabase extends VendorDatabase where
  incidents : Table Incident.id

structure TimelineQueries (α : Type) extends VendorQueries α where
  byStart : OrderBy IncidentPeriod.startedAt
  /-- `round(float(avg), 2)` of the latencies of a bucket. -/
  average : List ℚ → ℚ
  /-- `round(latency_ms, 2)`. -/
  round2 : ℚ → ℚ

/-! ## Buckets -/

/-- `2000-01-01T00:00:00Z`. -/
def bucketOrigin : Instant := secondsToMicros 946684800

/-- `date_bin`. -/
def dateBin (resolutionSeconds : Int) (timestamp : Instant) : Instant :=
  let stride := secondsToMicros resolutionSeconds
  bucketOrigin + (timestamp - bucketOrigin) / stride * stride

/-- The customer checks of some URLs. -/
def customerChecks (observations : List Observation) (urls : List String) : List Observation :=
  observations.filter (fun obs =>
    obs.fields.endpointUrl ∈ urls ∧ obs.fields.sourceType = "customer_check")

/-- Of the window and the region. -/
def Within (since till : Instant) (region : String) (obs : Observation) : Prop :=
  since ≤ obs.timestamp ∧ obs.timestamp < till ∧ obs.fields.region = region

instance (since till : Instant) (region : String) : DecidablePred (Within since till region) :=
  fun _ => inferInstanceAs (Decidable (_ ∧ _ ∧ _))

/-- One row of the aggregate query. -/
def bucketRow (average : List ℚ → ℚ) (start : Instant) (rows : List Observation) : BucketRow where
  bucketStart := start
  avgLatencyMs := average (rows.map (·.fields.latencyMs))
  repStatusCode := (rows.filterMap (·.fields.statusCode)).min?
  isUp := rows.all (fun obs => obs.fields.statusCode.isSome && obs.fields.errorType.isNone)
  obsCount := rows.length

/-- `get_timeline_buckets`. -/
def getTimelineBuckets (average : List ℚ → ℚ) (observations : List Observation)
    (urls : List String) (since till : Instant) (resolutionSeconds : Int) (region : String) :
    List BucketRow :=
  let rows := (customerChecks observations urls).filter (Within since till region)
  let bin := fun obs : Observation => dateBin resolutionSeconds obs.timestamp
  ((rows.map bin).dedup.insertionSort (· ≤ ·)).map (fun start =>
    bucketRow average start (rows.filter (fun obs => bin obs = start)))

/-! ## Responses -/

/-- `_DEFAULT_REGION`. -/
def defaultRegion : String := "us-east-1"

/-- `region or _DEFAULT_REGION`. -/
def resolvedRegion (region : Option String) : String := (nonempty region).getD defaultRegion

/-- `_auto_label`. -/
def autoLabel (window : String) : String :=
  let seconds := (autoResolution.lookup window).getD 0
  match resolutionSeconds.find? (fun entry => entry.2 = seconds) with
  | some entry => entry.1
  | none => toString seconds ++ "s"

structure TimelineCurrent where
  timestamp : Option Instant
  latencyMs : Option ℚ
  statusCode : Option Int
  isUp : Option Bool
  deriving DecidableEq

structure VendorTimelineResponse where
  vendorName : String
  window : String
  resolution : String
  region : String
  fromInstant : Instant
  toInstant : Instant
  current : TimelineCurrent
  points : List TimelineBucket
  deriving DecidableEq

structure TimelineRequest where
  vendorName : String
  window : String
  resolution : String
  region : Option String
  now : Instant
  /-- Redis answers the read, and takes the write. -/
  redisReads : Bool
  redisWrites : Bool

/-- The parts `_cache_key` joins with colons; only the region can have one. -/
structure TimelineKey where
  vendorName : String
  window : String
  resolution : String
  region : String
  minute : Int
  deriving DecidableEq

def TimelineRequest.key (request : TimelineRequest) : TimelineKey :=
  ⟨request.vendorName, request.window, request.resolution, resolvedRegion request.region,
    request.now / secondsToMicros 60⟩

/-- A response, and the customer checks of the vendor's URLs when it was made. -/
structure Evidenced where
  response : VendorTimelineResponse
  evidence : List Observation

structure TimelineState where
  db : TimelineDatabase
  cache : TimelineKey → Option Evidenced

def labelOf (request : TimelineRequest) : String :=
  if request.resolution ≠ "auto" then request.resolution else autoLabel request.window

section Timeline
variable {α : Type} [LinearOrder α] (q : TimelineQueries α)

/-- What a request settles before the cache is asked: the vendor, its URLs, the hours of
the window and the width of a bucket. -/
def timelineSubject (db : TimelineDatabase) (request : TimelineRequest) :
    Except Failure (VendorTracking × List String × Int × Int) := do
  checkWindow request.window
  checkResolution request.resolution
  let vendor ← require ((getByName db.toVendorDatabase request.vendorName).filter (·.isPublic))
    (notFound ("Vendor '" ++ request.vendorName ++ "' not found"))
  let (hours, width) ← timelineWindow request.window request.resolution
  .ok (vendor, vendorUrls q.toVendorQueries db.toVendorDatabase vendor, hours, width)

def timelineCurrent (latest : Option Observation) : TimelineCurrent where
  timestamp := latest.map (·.timestamp)
  latencyMs := latest.map (fun obs => q.round2 obs.fields.latencyMs)
  statusCode := latest.bind (·.fields.statusCode)
  isUp := latest.map (fun obs => obs.fields.statusCode.isSome && obs.fields.errorType.isNone)

/-- The response where nothing is cached. -/
def freshTimeline (db : TimelineDatabase) (request : TimelineRequest) (vendor : VendorTracking)
    (urls : List String) (hours width : Int) : Except Failure VendorTimelineResponse := do
  let region := resolvedRegion request.region
  let since := request.now - secondsToMicros (hours * 3600)
  let buckets := getTimelineBuckets q.average db.observations urls since request.now width region
  let periods ← getIncidentsInWindow q.byStart db.incidents db.dependencies urls since request.now
    request.now
  let latest := (q.newest.arrange ((customerChecks db.observations urls).filter
    (fun obs => obs.fields.region = region))).head?
  .ok
    { vendorName := vendor.vendorName
      window := request.window
      resolution := labelOf request
      region := region
      fromInstant := since
      toInstant := request.now
      current := timelineCurrent q latest
      points := associateIncidents buckets periods request.now }

/-- The answer of the safety net. -/
def emptyTimeline (request : TimelineRequest) (hours : Int) : VendorTimelineResponse where
  vendorName := request.vendorName
  window := request.window
  resolution := labelOf request
  region := resolvedRegion request.region
  fromInstant := request.now - secondsToMicros (hours * 3600)
  toInstant := request.now
  current := ⟨none, none, none, none⟩
  points := []

/-- `_get_cache` for the key of the request. -/
def cachedTimeline (s : TimelineState) (request : TimelineRequest) : Option Evidenced :=
  if request.redisReads then s.cache request.key else none

/-- `_set_cache`. -/
def setCache (s : TimelineState) (request : TimelineRequest) (entry : Evidenced) : TimelineState :=
  if request.redisWrites then { s with cache := Function.update s.cache request.key (some entry) }
  else s

/-- `get_vendor_timeline`: what it returns, and the cache it leaves. -/
def getVendorTimeline (s : TimelineState) (request : TimelineRequest) :
    Except Failure Evidenced × TimelineState :=
  match timelineSubject q s.db request with
  | .error failure => (.error failure, s)
  | .ok (vendor, urls, hours, width) =>
    match cachedTimeline s request with
    | some entry => (.ok entry, s)
    | none =>
      let evidence := customerChecks s.db.observations urls
      match freshTimeline q s.db request vendor urls hours width with
      | .error _ => (.ok ⟨emptyTimeline request hours, evidence⟩, s)
      | .ok response => (.ok ⟨response, evidence⟩, setCache s request ⟨response, evidence⟩)

section Answers
variable {q} {s : TimelineState} {request : TimelineRequest} {vendor : VendorTracking}
  {urls : List String} {hours width : Int}

theorem getVendorTimeline_cached {entry : Evidenced}
    (found : timelineSubject q s.db request = .ok (vendor, urls, hours, width))
    (hit : cachedTimeline s request = some entry) :
    getVendorTimeline q s request = (.ok entry, s) := by
  unfold getVendorTimeline
  rw [found]
  dsimp only
  rw [hit]

theorem getVendorTimeline_failed {failure : Failure}
    (found : timelineSubject q s.db request = .ok (vendor, urls, hours, width))
    (miss : cachedTimeline s request = none)
    (raised : freshTimeline q s.db request vendor urls hours width = .error failure) :
    getVendorTimeline q s request =
      (.ok ⟨emptyTimeline request hours, customerChecks s.db.observations urls⟩, s) := by
  unfold getVendorTimeline
  rw [found]
  dsimp only
  rw [miss]
  dsimp only
  rw [raised]

theorem getVendorTimeline_fresh {response : VendorTimelineResponse}
    (found : timelineSubject q s.db request = .ok (vendor, urls, hours, width))
    (miss : cachedTimeline s request = none)
    (made : freshTimeline q s.db request vendor urls hours width = .ok response) :
    getVendorTimeline q s request =
      (.ok ⟨response, customerChecks s.db.observations urls⟩,
        setCache s request ⟨response, customerChecks s.db.observations urls⟩) := by
  unfold getVendorTimeline
  rw [found]
  dsimp only
  rw [miss]
  dsimp only
  rw [made]

/-- A request leaves the state as it is, or offers the cache the response it answers with. -/
theorem getVendorTimeline_cache (q : TimelineQueries α) (s : TimelineState)
    (request : TimelineRequest) :
    (getVendorTimeline q s request).2 = s ∨ ∃ vendor urls hours width response,
      freshTimeline q s.db request vendor urls hours width = .ok response ∧
        (getVendorTimeline q s request).2 =
          setCache s request ⟨response, customerChecks s.db.observations urls⟩ := by
  cases found : timelineSubject q s.db request with
  | error failure =>
    refine Or.inl ?_
    unfold getVendorTimeline
    rw [found]
  | ok subject =>
    obtain ⟨vendor, urls, hours, width⟩ := subject
    cases hit : cachedTimeline s request with
    | some entry => exact Or.inl (by rw [getVendorTimeline_cached found hit])
    | none =>
      cases made : freshTimeline q s.db request vendor urls hours width with
      | error failure => exact Or.inl (by rw [getVendorTimeline_failed found hit made])
      | ok response =>
        exact Or.inr ⟨vendor, urls, hours, width, response, made,
          by rw [getVendorTimeline_fresh found hit made]⟩

end Answers

/-! ## Runs -/

inductive TimelineOp where
  | request (request : TimelineRequest)
  /-- An entry expires, or Redis drops it. -/
  | expire (key : TimelineKey)
  /-- Whatever the rest of the service writes. -/
  | write (db : TimelineDatabase)

def timelineStep (s : TimelineState) : TimelineOp → TimelineState
  | .request request => (getVendorTimeline q s request).2
  | .expire key => { s with cache := Function.update s.cache key none }
  | .write db => { s with db := db }

end Timeline

end Reliastra.Source.Vendors
