import Reliastra.Source.Evidence.Windows

/-!
# Is the evidence complete?

Attribution and snapshot select the observations of an incident by a window that
starts at `started_at`, newest first, up to 100 and 1000 rows. The failing checks
come before `started_at`, so `evidence_complete_iff` asks for an incident none of
whose observations lies before it, and for few enough of them.
-/

namespace Reliastra.Guarantees.EvidenceWindows

open Reliastra.Source Source.Evidence Source.Observations
open Source.Checks (Dependency)

variable {ι : Type} [DecidableEq ι] {dep : Dependency}

/-! ## Completeness -/

/-- The attribution engine is given all the observations of the incident. -/
def AttributionComplete (store : ObservationStore) (opening : QuorumOpening ι dep)
    (resolvedAt : Instant) : Prop :=
  ∃ resolved given,
    resolveIncident store (some opening.incident) (some opening.incident.orgId) false resolvedAt =
      .ok (resolved, some given) ∧
    given.Perm (opening.observations resolvedAt store.rows)

/-- The incident after its resolution. -/
def resolvedIncident (opening : QuorumOpening ι dep) (resolvedAt : Instant) :
    Source.Checks.Incident :=
  { opening.incident with status := .resolved, resolvedAt := some resolvedAt }

/-- All the observations of the incident are hashed into the snapshot. -/
def SnapshotComplete (store : ObservationStore) (opening : QuorumOpening ι dep)
    (resolvedAt generatedAt : Instant) : Prop :=
  ∃ evidence,
    generateForIncident store (some (resolvedIncident opening resolvedAt)) [dep] generatedAt =
      .ok evidence ∧
    evidence.observations.Perm (opening.observations resolvedAt store.rows)

/-- No observation of the incident is older than its `started_at`, and there are
no more than the limit. -/
def WindowHolds (limit : Nat) (opening : QuorumOpening ι dep) (resolvedAt : Instant)
    (rows : List Observation) : Prop :=
  (∀ observation ∈ opening.observations resolvedAt rows,
      opening.startedAt ≤ observation.timestamp) ∧
    (opening.observations resolvedAt rows).length ≤ limit

/-! ## One query -/

/-- A limited answer to a narrower question is the whole answer when nothing is
left out by the question, nor by the limit. -/
theorem take_perm_filter_iff {α : Type} {rows ordered : List α} {wide narrow : α → Prop}
    [DecidablePred wide] [DecidablePred narrow] (limit : Nat)
    (narrower : ∀ row, narrow row → wide row)
    (answered : ordered.Perm (rows.filter narrow)) :
    (ordered.take limit).Perm (rows.filter wide) ↔
      (∀ row ∈ rows.filter wide, narrow row) ∧ (rows.filter wide).length ≤ limit := by
  constructor
  · intro complete
    constructor
    · intro row member
      have taken := complete.mem_iff.mpr member
      have selected := answered.mem_iff.mp (List.mem_of_mem_take taken)
      exact of_decide_eq_true (List.mem_filter.mp selected).2
    · rw [← complete.length_eq]
      exact List.length_take_le limit ordered
  · intro ⟨inside, few⟩
    have same : rows.filter narrow = rows.filter wide := by
      apply List.filter_congr
      intro row member
      by_cases selected : wide row
      · have kept := inside row (List.mem_filter.mpr ⟨member, decide_eq_true selected⟩)
        simp [selected, kept]
      · have left_out : ¬ narrow row := fun kept => selected (narrower row kept)
        simp [selected, left_out]
    rw [same] at answered
    have whole : ordered.length ≤ limit := by
      rw [answered.length_eq]
      exact few
    rw [List.take_of_length_le whole]
    exact answered

/-- What the window from `started_at` to the resolution selects. -/
def windowQuery (opening : QuorumOpening ι dep) (resolvedAt : Instant) (limit : Nat) :
    SourceQuery :=
  ⟨dep.id, some customerCheck, limit, some opening.startedAt, some resolvedAt⟩

theorem windowQuery_selects_iff (opening : QuorumOpening ι dep) (resolvedAt : Instant)
    (limit : Nat) (observation : Observation) :
    (windowQuery opening resolvedAt limit).Selects observation ↔
      observation.fields.sourceId = some dep.id ∧
        observation.fields.sourceType = customerCheck ∧
        opening.startedAt ≤ observation.timestamp ∧ observation.timestamp ≤ resolvedAt := by
  have named : (some customerCheck).filter (· ≠ "") = some customerCheck := by decide
  unfold SourceQuery.Selects windowQuery
  rw [named]
  simp only [Option.mem_some_iff, forall_eq']

theorem query_complete_iff (store : ObservationStore) (opening : QuorumOpening ι dep)
    (resolvedAt : Instant) (limit : Nat) :
    (store.listForSource (windowQuery opening resolvedAt limit)).Perm
        (opening.observations resolvedAt store.rows) ↔
      WindowHolds limit opening resolvedAt store.rows := by
  obtain ⟨ordered, answered, _, taken⟩ := store.answers (windowQuery opening resolvedAt limit)
  have narrower : ∀ observation,
      (windowQuery opening resolvedAt limit).Selects observation →
        observation.fields.sourceId = some dep.id ∧
          observation.fields.sourceType = customerCheck ∧
          opening.Begun observation.timestamp ∧ observation.timestamp ≤ resolvedAt := by
    intro observation selected
    rw [windowQuery_selects_iff] at selected
    obtain ⟨source, kind, since, upTo⟩ := selected
    exact ⟨source, kind, Or.inr since, upTo⟩
  rw [taken, QuorumOpening.observations, take_perm_filter_iff _ narrower answered]
  unfold WindowHolds
  apply and_congr_left'
  constructor
  · intro inside observation member
    have selected := inside observation member
    rw [windowQuery_selects_iff] at selected
    exact selected.2.2.1
  · intro inside observation member
    have since := inside observation member
    obtain ⟨_, wide⟩ := List.mem_filter.mp member
    obtain ⟨source, kind, _, upTo⟩ := of_decide_eq_true wide
    rw [windowQuery_selects_iff]
    exact ⟨source, kind, since, upTo⟩

/-! ## The two readers -/

/-- A quorum of a deleted dependency has no second region. -/
theorem opening_listed (opening : QuorumOpening ι dep) : dep.isDeleted = false := by
  have confirms := opening.confirms
  unfold Source.Checks.executeCheck at confirms
  simp only at confirms
  split at confirms
  · next answered =>
    by_contra deleted
    cases (congrArg Prod.snd confirms)
  · next answered =>
    by_contra deleted
    rw [Decidable.not_not] at answered
    have silent : opening.recent = [] := by
      have empty := answered.1
      simp only [deleted, and_false, decide_false, List.filter_false] at empty
      exact empty.eq_nil
    simp [silent, Source.Checks.failingRegions, Source.Checks.quorumMinRegions] at confirms
    split at confirms <;> cases (congrArg Prod.snd confirms)

theorem attribution_complete_iff (store : ObservationStore) (opening : QuorumOpening ι dep)
    (resolvedAt : Instant) :
    AttributionComplete store opening resolvedAt ↔
      WindowHolds 100 opening resolvedAt store.rows := by
  rw [← query_complete_iff store opening resolvedAt 100]
  have runs : resolveIncident store (some opening.incident) (some opening.incident.orgId) false
      resolvedAt = .ok (resolvedIncident opening resolvedAt,
        some (store.listForSource (windowQuery opening resolvedAt 100))) := by
    unfold resolveIncident
    simp [QuorumOpening.incident, Source.Checks.newIncident, resolvedIncident, attributionQuery,
      windowQuery]
  unfold AttributionComplete
  rw [runs]
  constructor
  · intro ⟨resolved, given, answered, complete⟩
    cases answered
    exact complete
  · intro complete
    exact ⟨_, _, rfl, complete⟩

theorem snapshot_complete_iff (store : ObservationStore) (opening : QuorumOpening ι dep)
    (resolvedAt generatedAt : Instant) :
    SnapshotComplete store opening resolvedAt generatedAt ↔
      WindowHolds 1000 opening resolvedAt store.rows := by
  rw [← query_complete_iff store opening resolvedAt 1000]
  have runs : generateForIncident store (some (resolvedIncident opening resolvedAt)) [dep]
      generatedAt = .ok ⟨resolvedIncident opening resolvedAt, dep, opening.startedAt, resolvedAt,
        store.listForSource (windowQuery opening resolvedAt 1000)⟩ := by
    have listed := opening_listed opening
    unfold generateForIncident
    simp [resolvedIncident, QuorumOpening.incident, Source.Checks.newIncident, listed,
      snapshotQuery, windowQuery]
  unfold SnapshotComplete
  rw [runs]
  constructor
  · intro ⟨evidence, answered, complete⟩
    cases answered
    exact complete
  · intro complete
    exact ⟨_, rfl, complete⟩

/-! ## Main result -/

/-- Attribution and snapshot have all the observations of an incident exactly
when none is older than `started_at` and there are at most 100, and 1000. -/
theorem evidence_complete_iff (opening : QuorumOpening ι dep) (resolvedAt generatedAt : Instant)
    (atResolution atGeneration : ObservationStore) :
    AttributionComplete atResolution opening resolvedAt ∧
        SnapshotComplete atGeneration opening resolvedAt generatedAt ↔
      WindowHolds 100 opening resolvedAt atResolution.rows ∧
        WindowHolds 1000 opening resolvedAt atGeneration.rows := by
  rw [attribution_complete_iff, snapshot_complete_iff]

/-- The observation of a check that triggered the quorum is in neither, once the
clock has moved on before the incident is recorded. -/
theorem trigger_excluded (opening : QuorumOpening ι dep) {resolvedAt : Instant}
    {rows : List Observation} {observation : Observation} {limit : Nat}
    (stored : observation ∈ opening.observations resolvedAt rows)
    (earlier : observation.timestamp < opening.startedAt) :
    ¬ WindowHolds limit opening resolvedAt rows := by
  intro holds
  exact absurd (holds.1 observation stored) (not_le.mpr earlier)

/-! ## An incident without its opening failures -/

/-- A table that is kept newest first. -/
def ObservationStore.ofSorted (rows : List Observation)
    (sorted : rows.Pairwise (fun newer older => older.timestamp ≤ newer.timestamp)) :
    ObservationStore where
  rows := rows
  listForSource query := (rows.filter query.Selects).take query.limit
  answers query := ⟨rows.filter query.Selects, .refl _, sorted.filter _, rfl⟩

def sampleDependency : Dependency := ⟨1, 2, true, false⟩

def failedCheck (region : String) (executedAt : Instant) : Source.Checks.CheckResult where
  dependencyId := 1
  orgId := 2
  region := region
  executedAt := executedAt
  isUp := false
  errorMessage := some "timed out"
  quorumConfirmed := false

/-- `us-east` failed at 0; `eu-west` fails ten seconds later, and the incident is
recorded two milliseconds after that. -/
def sampleOpening : QuorumOpening Bool sampleDependency where
  probes _ := ⟨"eu-west", .down "timed out"⟩
  party := true
  atRead := ⟨[failedCheck "us-east" 0], ⟨[], by decide⟩, some true, none⟩
  atCreate := ⟨[failedCheck "us-east" 0], ⟨[], by decide⟩, some true, none⟩
  result := failedCheck "eu-west" (secondsToMicros 10)
  recent := [failedCheck "eu-west" (secondsToMicros 10), failedCheck "us-east" 0]
  readAt := secondsToMicros 10 + 1000
  incidentId := 3
  startedAt := secondsToMicros 10 + 2000
  confirms := by rfl
  opens := by rfl

/-- What the outbox stores of a failed check. -/
def storedObservation (region : String) (executedAt : Instant) : Observation :=
  ⟨executedAt, checkObservation ⟨fun _ => "", fun _ => none, fun _ => ""⟩
    { failedCheck region executedAt with id := 4, latencyMs := 30, statusCode := none }
    "https://example.com" "GET"⟩

def sampleStore : ObservationStore :=
  ObservationStore.ofSorted
    [storedObservation "eu-west" (secondsToMicros 10), storedObservation "us-east" 0]
    (by decide)

/-- Neither reader gets the two failures that opened the incident. -/
theorem opening_failures_dropped :
    ¬ ∀ (dep : Dependency) (opening : QuorumOpening Bool dep) (resolvedAt generatedAt : Instant)
      (store : ObservationStore),
      AttributionComplete store opening resolvedAt ∧
        SnapshotComplete store opening resolvedAt generatedAt := by
  intro complete
  have attributed := (complete sampleDependency sampleOpening (secondsToMicros 100)
    (secondsToMicros 101) sampleStore).1
  rw [attribution_complete_iff] at attributed
  have stored : storedObservation "us-east" 0 ∈
      sampleOpening.observations (secondsToMicros 100) sampleStore.rows := by
    unfold QuorumOpening.observations
    rw [List.mem_filter]
    constructor
    · exact List.mem_cons_of_mem _ List.mem_cons_self
    · decide
  exact trigger_excluded sampleOpening stored (by decide) attributed

end Reliastra.Guarantees.EvidenceWindows
