import Mathlib.Algebra.BigOperators.Group.List.Lemmas
import Reliastra.Guarantees.VendorDetails
import Reliastra.Source.Vendors.Timeline

/-!
# The timeline accounts for the observations

Grouping into buckets loses no observation, so the counts of a timeline add up to the
observations of its window and region, for cached responses to those they were made of.
The region of a request that names none is one no check is ever made from, so such a
timeline has nothing to count.
-/

namespace Reliastra.Guarantees.TimelineAccounts

open Reliastra.Library Source Source.Api Source.Vendors Source.Observations
open Source.Checks (StoredDependency Region ProbeReport checkRow)

/-! ## What is claimed of a response -/

/-- The counts of the points add up to the customer checks of window and region. -/
def Accounts (entry : Evidenced) : Prop :=
  (entry.response.points.map (·.observationCount)).sum =
    (entry.evidence.filter (Within entry.response.fromInstant entry.response.toInstant
      entry.response.region)).length

/-- An observation the outbox makes of a check. -/
def ProducedByCheck (obs : Observation) : Prop :=
  ∃ (codec : PayloadCodec) (dep : StoredDependency) (region : Region) (report : ProbeReport)
    (executedAt : Instant) (elapsedMs : Rat) (newId : Uuid) (dto : ObservationCreateDTO)
    (processedAt : Instant),
    observationCreateDTO (checkObservation codec (checkRow dep region report executedAt elapsedMs
      newId) dep.endpointUrl dep.method.value) = some dto ∧ obs = observationOf dto processedAt

/-- A region from which checks can come. -/
def ChecksCome (region : String) : Prop := ∃ obs, ProducedByCheck obs ∧ obs.fields.region = region

section Timeline
variable {α : Type} [LinearOrder α] (q : TimelineQueries α)

/-- Whatever is answered is for the region asked for, accounts for the observations, and
without a region asked for is for one from which checks can come. -/
def TimelineHolds (s : TimelineState) (request : TimelineRequest) : Prop :=
  ∀ entry, (getVendorTimeline q s request).1 = .ok entry →
    entry.response.region = resolvedRegion request.region ∧ Accounts entry ∧
      (nonempty request.region = none → ChecksCome entry.response.region)

/-- PostgreSQL takes the period of every incident of the URLs as a range. -/
def PeriodsOrdered (db : TimelineDatabase) (urls : List String) (now : Instant) : Prop :=
  ∀ incident ∈ monitoredIncidents db.incidents db.dependencies urls,
    incident.startedAt ≤ incident.endedAt now

/-- The answer is not the empty one of the safety net, or that one is right. -/
def Computable (s : TimelineState) (request : TimelineRequest) (urls : List String)
    (hours : Int) : Prop :=
  cachedTimeline s request ≠ none ∨ PeriodsOrdered s.db urls request.now ∨
    ∀ obs ∈ customerChecks s.db.observations urls,
      ¬ Within (request.now - secondsToMicros (hours * 3600)) request.now
        (resolvedRegion request.region) obs

end Timeline

/-! ## Regions of checks -/

theorem region_of_check {obs : Observation} (produced : ProducedByCheck obs) :
    obs.fields.region ∈ Checks.allowedRegions := by
  obtain ⟨codec, dep, region, report, executedAt, elapsedMs, newId, dto, processedAt, made, rfl⟩ :=
    produced
  unfold observationCreateDTO at made
  split at made
  · cases made
    exact region.property
  · cases made

theorem not_checksCome_default : ¬ ChecksCome defaultRegion := by
  intro ⟨obs, produced, same⟩
  have allowed := region_of_check produced
  rw [same] at allowed
  exact absurd allowed (by decide)

/-! ## Counting -/

/-- The sizes of the groups add up to the size of the whole. -/
theorem sum_groups {β γ : Type} [DecidableEq γ] (f : β → γ) (rows : List β) :
    ((rows.map f).dedup.map (fun key => (rows.filter (fun row => f row = key)).length)).sum =
      rows.length := by
  have sizes (key : γ) : (rows.filter (fun row => f row = key)).length = (rows.map f).count key := by
    rw [List.count, List.countP_map, ← List.countP_eq_length_filter]
    rfl
  simp only [sizes]
  rw [List.sum_map_count_dedup_eq_length, List.length_map]

theorem sum_obsCount (average : List ℚ → ℚ) (observations : List Observation) (urls : List String)
    (since till : Instant) (width : Int) (region : String) :
    ((getTimelineBuckets average observations urls since till width region).map (·.obsCount)).sum =
      ((customerChecks observations urls).filter (Within since till region)).length := by
  unfold getTimelineBuckets
  dsimp only
  rw [List.map_map, ((List.perm_insertionSort _ _).map _).sum_eq]
  exact sum_groups (fun obs : Observation => dateBin width obs.timestamp) _

theorem associateIncidents_counts (buckets : List BucketRow) (incidents : List IncidentPeriod)
    (now : Instant) : (associateIncidents buckets incidents now).map (·.observationCount) =
      buckets.map (·.obsCount) := by
  rw [associateIncidents_eq, List.map_map]
  rfl

section Timeline
variable {α : Type} [LinearOrder α] {q : TimelineQueries α} {db : TimelineDatabase}
  {s : TimelineState} {request : TimelineRequest} {vendor : VendorTracking} {urls : List String}
  {hours width : Int}

/-! ## Fresh and cached responses -/

omit [LinearOrder α] in
/-- What a fresh response is. -/
theorem freshTimeline_eq_ok {response : VendorTimelineResponse}
    (made : freshTimeline q db request vendor urls hours width = .ok response) :
    response.region = resolvedRegion request.region ∧
      Accounts ⟨response, customerChecks db.observations urls⟩ ∧
      ∃ periods, getIncidentsInWindow q.byStart db.incidents db.dependencies urls
        (request.now - secondsToMicros (hours * 3600)) request.now request.now = .ok periods := by
  obtain ⟨periods, found, rest⟩ := bind_eq_ok made
  cases rest
  refine ⟨rfl, ?_, periods, found⟩
  unfold Accounts
  dsimp only
  rw [associateIncidents_counts, sum_obsCount]

/-- Every cached response is for the region of its key, and accounts for what it was made
of. -/
def CacheAccounts (s : TimelineState) : Prop :=
  ∀ key entry, s.cache key = some entry → entry.response.region = key.region ∧ Accounts entry

theorem cacheAccounts_step (q : TimelineQueries α) (s : TimelineState) (op : TimelineOp)
    (sound : CacheAccounts s) : CacheAccounts (timelineStep q s op) := by
  cases op with
  | request request =>
    show CacheAccounts (getVendorTimeline q s request).2
    rcases getVendorTimeline_cache q s request with same | ⟨vendor, urls, hours, width, response,
      made, after⟩
    · rw [same]
      exact sound
    · obtain ⟨region, accounts, _⟩ := freshTimeline_eq_ok made
      rw [after]
      unfold setCache
      by_cases writes : request.redisWrites
      · rw [if_pos writes]
        intro key entry stored
        dsimp only at stored
        by_cases here : key = request.key
        · rw [here, Function.update_self] at stored
          obtain rfl := Option.some.inj stored
          rw [here]
          exact ⟨region, accounts⟩
        · rw [Function.update_of_ne here] at stored
          exact sound key entry stored
      · rw [if_neg writes]
        exact sound
  | expire gone =>
    intro key entry stored
    by_cases here : key = gone
    · have none : (timelineStep q s (.expire gone)).cache gone = none := Function.update_self ..
      rw [here, none] at stored
      cases stored
    · have kept : (timelineStep q s (.expire gone)).cache key = s.cache key :=
        Function.update_of_ne here ..
      rw [kept] at stored
      exact sound key entry stored
  | write db => exact sound

theorem cacheAccounts_exec (q : TimelineQueries α) (db : TimelineDatabase)
    (run : List TimelineOp) : CacheAccounts (Run.exec (timelineStep q) ⟨db, fun _ => none⟩ run) :=
  Run.exec_invariant (cacheAccounts_step q) _ run (fun _ _ stored => by cases stored)

/-! ## One request -/

theorem timelineSubject_eq_ok
    (found : timelineSubject q db request = .ok (vendor, urls, hours, width)) :
    0 < hours ∧ urls ≠ [] := by
  have positive : ∀ entry ∈ windowHours, 0 < entry.2 := by decide
  obtain ⟨_, _, afterWindow⟩ := bind_eq_ok found
  obtain ⟨_, _, afterResolution⟩ := bind_eq_ok afterWindow
  obtain ⟨owner, _, afterVendor⟩ := bind_eq_ok afterResolution
  obtain ⟨⟨settledHours, settledWidth⟩, window, rest⟩ := bind_eq_ok afterVendor
  cases rest
  refine ⟨?_, ?_⟩
  · obtain ⟨_, _, afterCheck⟩ := bind_eq_ok window
    obtain ⟨_, _, afterLabel⟩ := bind_eq_ok afterCheck
    obtain ⟨_, _, afterWidth⟩ := bind_eq_ok afterLabel
    obtain ⟨known, lookup, settled⟩ := bind_eq_ok afterWidth
    cases settled
    obtain ⟨before, behind, split, _⟩ := List.lookup_eq_some_iff.mp (require_eq_ok.mp lookup)
    exact positive (request.window, hours) (by rw [split]; simp)
  · unfold vendorUrls
    rw [List.eraseDups_cons]
    exact List.cons_ne_nil _ _

/-- The query for the incidents takes all their periods, or fails. -/
theorem getIncidentsInWindow_ok_iff (byStart : OrderBy IncidentPeriod.startedAt)
    (some : urls ≠ []) (positive : 0 < hours) (now : Instant) :
    (∃ periods, getIncidentsInWindow byStart db.incidents db.dependencies urls
      (now - secondsToMicros (hours * 3600)) now now = .ok periods) ↔ PeriodsOrdered db urls now := by
  have length : (0 : Int) ≤ secondsToMicros (hours * 3600) := by
    show 0 ≤ hours * 3600 * 1000000
    omega
  have forward : ¬ now < now - secondsToMicros (hours * 3600) := not_lt.mpr (sub_le_self now length)
  unfold getIncidentsInWindow PeriodsOrdered
  rw [if_neg some]
  constructor
  · intro ⟨periods, found⟩
    obtain ⟨_, allowed, _⟩ := bind_eq_ok found
    have fits := refuseIf_eq_ok.mp allowed
    intro incident member
    exact not_lt.mp (fun late => fits (Or.inr ⟨incident, member, late⟩))
  · intro ordered
    refine ⟨_, bind_eq_ok_iff.mpr ⟨(), refuseIf_eq_ok.mpr ?_, rfl⟩⟩
    intro refused
    rcases refused with backward | ⟨incident, member, late⟩
    · exact forward backward
    · exact absurd (ordered incident member) (not_le.mpr late)

/-- A fresh response is made exactly when the periods are ordered. -/
theorem freshTimeline_ok_iff
    (found : timelineSubject q db request = .ok (vendor, urls, hours, width)) :
    (∃ response, freshTimeline q db request vendor urls hours width = .ok response) ↔
      PeriodsOrdered db urls request.now := by
  obtain ⟨positive, some⟩ := timelineSubject_eq_ok found
  rw [← getIncidentsInWindow_ok_iff q.byStart some positive]
  constructor
  · intro ⟨response, made⟩
    exact (freshTimeline_eq_ok made).2.2
  · intro ⟨periods, answered⟩
    exact ⟨_, bind_eq_ok_iff.mpr ⟨periods, answered, rfl⟩⟩

/-- What a request is answered with, in a state whose cache accounts for its evidence: a
response for the region asked for that accounts for its evidence, or the empty one. -/
theorem answer_cases (sound : CacheAccounts s)
    (found : timelineSubject q s.db request = .ok (vendor, urls, hours, width)) :
    ∃ entry, (getVendorTimeline q s request).1 = .ok entry ∧
      entry.response.region = resolvedRegion request.region ∧
      (Accounts entry ↔ Computable s request urls hours) := by
  cases hit : cachedTimeline s request with
  | some entry =>
    have stored : s.cache request.key = some entry := by
      unfold cachedTimeline at hit
      by_cases reads : request.redisReads
      · rwa [if_pos reads] at hit
      · rw [if_neg reads] at hit
        cases hit
    obtain ⟨region, accounts⟩ := sound request.key entry stored
    refine ⟨entry, by rw [getVendorTimeline_cached found hit], region, ?_⟩
    exact iff_of_true accounts (Or.inl (by simp [hit]))
  | none =>
    cases made : freshTimeline q s.db request vendor urls hours width with
    | ok response =>
      obtain ⟨region, accounts, _⟩ := freshTimeline_eq_ok made
      refine ⟨_, by rw [getVendorTimeline_fresh found hit made], region, ?_⟩
      exact iff_of_true accounts (Or.inr (Or.inl ((freshTimeline_ok_iff found).mp ⟨response, made⟩)))
    | error failure =>
      refine ⟨_, by rw [getVendorTimeline_failed found hit made], rfl, ?_⟩
      have unordered : ¬ PeriodsOrdered s.db urls request.now := by
        intro ordered
        obtain ⟨response, succeeded⟩ := (freshTimeline_ok_iff found).mpr ordered
        rw [made] at succeeded
        cases succeeded
      -- the empty response accounts for no observations only
      have empty : Accounts ⟨emptyTimeline request hours, customerChecks s.db.observations urls⟩ ↔
          ∀ obs ∈ customerChecks s.db.observations urls,
            ¬ Within (request.now - secondsToMicros (hours * 3600)) request.now
              (resolvedRegion request.region) obs := by
        have sum : Accounts ⟨emptyTimeline request hours, customerChecks s.db.observations urls⟩ ↔
            0 = ((customerChecks s.db.observations urls).filter (Within
              (request.now - secondsToMicros (hours * 3600)) request.now
              (resolvedRegion request.region))).length := Iff.rfl
        rw [sum, eq_comm, List.length_eq_zero_iff, List.filter_eq_nil_iff]
        simp
      rw [empty]
      unfold Computable
      simp [hit, unordered]

theorem timelineHolds_iff (sound : CacheAccounts s)
    (found : timelineSubject q s.db request = .ok (vendor, urls, hours, width)) :
    TimelineHolds q s request ↔
      nonempty request.region ≠ none ∧ Computable s request urls hours := by
  obtain ⟨entry, answered, region, accounts⟩ := answer_cases sound found
  constructor
  · intro holds
    obtain ⟨_, counted, checked⟩ := holds entry answered
    refine ⟨fun unnamed => ?_, accounts.mp counted⟩
    have comes := checked unnamed
    rw [region, resolvedRegion, unnamed] at comes
    exact not_checksCome_default comes
  · intro ⟨named, computable⟩ other same
    obtain rfl := Except.ok.inj (answered.symm.trans same)
    exact ⟨region, accounts.mpr computable, fun unnamed => absurd unnamed named⟩

end Timeline

/-- In every run of requests, with whatever else writes the tables and whenever entries
expire: the answer to a request accounts for the observations, and is for a region checks
come from, exactly when the request names its region and an answer can be computed. -/
theorem timeline_accounts_iff {α : Type} [LinearOrder α] (q : TimelineQueries α)
    (db : TimelineDatabase) (run : List TimelineOp) (request : TimelineRequest)
    (vendor : VendorTracking) (urls : List String) (hours width : Int)
    (found : timelineSubject q (Run.exec (timelineStep q) ⟨db, fun _ => none⟩ run).db request =
      .ok (vendor, urls, hours, width)) :
    TimelineHolds q (Run.exec (timelineStep q) ⟨db, fun _ => none⟩ run) request ↔
      nonempty request.region ≠ none ∧
        Computable (Run.exec (timelineStep q) ⟨db, fun _ => none⟩ run) request urls hours :=
  timelineHolds_iff (cacheAccounts_exec q db run) found

/-! ## A vendor checked from one region -/

def timelineQueries : TimelineQueries String where
  toVendorQueries := VendorDetails.byText
  byStart := OrderBy.stable _
  average _ := 0
  round2 := id

/-- Two checks of the vendor from `us-east`. -/
def checkedVendor : TimelineDatabase := { VendorDetails.recovered with incidents := .empty }

/-- The timeline of the last hour, a minute after the checks. -/
def lastHour (region : Option String) : TimelineRequest :=
  ⟨"acme", "1h", "auto", region, secondsToMicros 60, true, true⟩

theorem subject_lastHour (region : Option String) :
    timelineSubject timelineQueries checkedVendor (lastHour region) =
      .ok (VendorDetails.acme, ["https://a.example"], 1, 60) := by
  have same : timelineSubject timelineQueries checkedVendor (lastHour region) =
      timelineSubject timelineQueries checkedVendor (lastHour none) := rfl
  rw [same]
  decide +kernel

theorem timeline_accounts_iff_last_hour :
    TimelineHolds timelineQueries
        (Run.exec (timelineStep timelineQueries) ⟨checkedVendor, fun _ => none⟩
          [.request (lastHour (some "us-east"))]) (lastHour (some "us-east")) ↔
      nonempty (lastHour (some "us-east")).region ≠ none ∧
        Computable (Run.exec (timelineStep timelineQueries) ⟨checkedVendor, fun _ => none⟩
          [.request (lastHour (some "us-east"))]) (lastHour (some "us-east"))
          ["https://a.example"] 1 :=
  timeline_accounts_iff timelineQueries checkedVendor [.request (lastHour (some "us-east"))]
    (lastHour (some "us-east")) VendorDetails.acme ["https://a.example"] 1 60 rfl

/-- The region asked for has two checks, the default timeline has no point. -/
theorem default_timeline_empty :
    (∃ entry, (getVendorTimeline timelineQueries ⟨checkedVendor, fun _ => none⟩
        (lastHour none)).1 = .ok entry ∧ entry.response.points = []) ∧
      (∃ entry, (getVendorTimeline timelineQueries ⟨checkedVendor, fun _ => none⟩
        (lastHour (some "us-east"))).1 = .ok entry ∧
          entry.response.points.map (·.observationCount) = [2]) ∧
      ¬ TimelineHolds timelineQueries ⟨checkedVendor, fun _ => none⟩ (lastHour none) := by
  refine ⟨⟨_, rfl, rfl⟩, ⟨_, rfl, rfl⟩, ?_⟩
  rw [timelineHolds_iff (fun _ _ stored => by cases stored) (subject_lastHour none)]
  intro ⟨named, _⟩
  exact named rfl

end Reliastra.Guarantees.TimelineAccounts
