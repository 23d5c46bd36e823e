import Reliastra.Source.Evidence.Generation

/-!
# The attribution engine

Source: `AttributionEngine` of `app/modules/attribution/service.py`.

A float is a value of some type with the operations of the language, about which
nothing is assumed. A time stamp and an identifier are written by the functions
the evidence is written with. No observation is `None`, and every one has a
latency.
-/

namespace Reliastra.Source.Attribution

open Reliastra.Library Reliastra.Library.JsonText Evidence.Generation
open Api (Incident)

/-! ## Floats -/

structure FloatOps (φ : Type) where
  /-- The float a literal denotes. -/
  literal : String → φ
  /-- `/` of two integers. -/
  ratio : Nat → Nat → φ
  sub : φ → φ → φ
  add : φ → φ → φ
  mul : φ → φ → φ
  div : φ → φ → φ
  /-- `value ** 2`. -/
  square : φ → φ
  /-- `math.sqrt`. -/
  sqrt : φ → φ
  /-- `sum` of a sequence of floats. -/
  sum : List φ → φ
  le : φ → φ → Bool
  lt : φ → φ → Bool
  /-- `round(value, digits)`. -/
  round : φ → Nat → φ

namespace FloatOps

variable {φ : Type} (ops : FloatOps φ)

/-- `max(a, b)`, which keeps `a` unless `b` is greater. -/
def max (a b : φ) : φ := if ops.lt a b then b else a

/-- `min(a, b)`, which keeps `a` unless `b` is less. -/
def min (a b : φ) : φ := if ops.lt b a then b else a

end FloatOps

/-! ## Signals -/

/-- The keys of `WEIGHTS`. -/
inductive Signal where
  | temporal
  | endpointOverlap
  | latencyCorrelation
  | errorPattern
  | infrastructureBaseline
  deriving DecidableEq, Repr

def Signal.name : Signal → String
  | .temporal => "temporal"
  | .endpointOverlap => "endpoint_overlap"
  | .latencyCorrelation => "latency_correlation"
  | .errorPattern => "error_pattern"
  | .infrastructureBaseline => "infrastructure_baseline"

/-- The order of `WEIGHTS` and of `scores`. -/
def Signal.all : List Signal :=
  [.temporal, .endpointOverlap, .latencyCorrelation, .errorPattern, .infrastructureBaseline]

/-- A row of `incident_correlations`, as the engine reads it. -/
structure IncidentCorrelation (φ : Type) where
  id : Uuid
  incidentId : Uuid
  correlationConfidence : φ

section Engine
variable {φ : Type} (ops : FloatOps φ)

def weights : Signal → φ
  | .temporal => ops.literal "0.20"
  | .endpointOverlap => ops.literal "0.25"
  | .latencyCorrelation => ops.literal "0.25"
  | .errorPattern => ops.literal "0.15"
  | .infrastructureBaseline => ops.literal "0.15"

/-- `_signal_temporal`, from the rows `list_open_in_window` answers. -/
def signalTemporal (others : List Incident) : φ :=
  if others = [] then ops.literal "0.0" else ops.literal "1.0"

/-- `_signal_endpoint_overlap`, from the rows `get_correlations` answers. -/
def signalEndpointOverlap : List (IncidentCorrelation φ) → φ
  | [] => ops.literal "0.0"
  | first :: rest =>
    ops.min (ops.literal "1.0")
      (rest.foldl (fun best item => ops.max best item.correlationConfidence)
        first.correlationConfidence)

/-- `_signal_latency_correlation`. -/
def signalLatencyCorrelation (observations : List (Observation φ)) : φ :=
  let latencies := observations.map (fun item => ops.max (ops.literal "0.0") item.latencyMs)
  if latencies.length < 2 then ops.literal "0.0"
  else
    let count := ops.ratio latencies.length 1
    let mean := ops.div (ops.sum latencies) count
    let variance := ops.div
      (ops.sum (latencies.map (fun value => ops.square (ops.sub value mean)))) count
    let coefficient := ops.div (ops.sqrt variance) (ops.add mean (ops.literal "1.0"))
    ops.min (ops.literal "1.0") (ops.max (ops.literal "0.0") coefficient)

/-- `_signal_error_pattern`. -/
def signalErrorPattern (observations : List (Observation φ)) : φ :=
  let errors := observations.filterMap (fun item => item.errorType.filter (fun text => text ≠ ""))
  if errors = [] then ops.literal "0.0"
  else ops.ratio ((errors.map (fun text => errors.count text)).foldl Nat.max 0) errors.length

/-- What `compute_attribution` reads besides the incident. -/
structure AttributionInputs (φ : Type) where
  others : List Incident
  correlations : List (IncidentCorrelation φ)
  observations : List (Observation φ)
  infrastructureOk : Bool

/-- `scores`, rounded. -/
def scores (inputs : AttributionInputs φ) : Signal → φ
  | .temporal => ops.round (signalTemporal ops inputs.others) 4
  | .endpointOverlap => ops.round (signalEndpointOverlap ops inputs.correlations) 4
  | .latencyCorrelation => ops.round (signalLatencyCorrelation ops inputs.observations) 4
  | .errorPattern => ops.round (signalErrorPattern ops inputs.observations) 4
  | .infrastructureBaseline =>
    ops.round (if inputs.infrastructureOk then ops.literal "1.0" else ops.literal "0.0") 4

def confidenceOf (scores : Signal → φ) : φ :=
  ops.round
    (ops.mul (ops.sum (Signal.all.map (fun name => ops.mul (scores name) (weights ops name))))
      (ops.ratio 100 1)) 2

def classificationOf (confidence : φ) (infrastructureOk : Bool) : String :=
  if ops.le (ops.ratio 75 1) confidence then "vendor_failure"
  else if ops.le (ops.ratio 50 1) confidence then "multi_cause"
  else if infrastructureOk = false then "infrastructure_issue"
  else "unknown"

/-! ## Evidence -/

/-- An entry about a signal in the lists of evidence. -/
def signalItem (scores : Signal → φ) (signal : Signal) : Value φ :=
  .obj [("type", .str "signal"), ("signal", .str signal.name), ("score", .float (scores signal))]

/-- An entry about an observation. -/
def observationItem (lib : EvidenceLibrary φ) (item : Observation φ) : Value φ :=
  .obj
    [("observation_id", .str (lib.uuidText item.id)),
      ("timestamp", .str (lib.isoformat item.timestamp)),
      ("region", .str item.region),
      ("error_type", orNull .str item.errorType)]

theorem signalItem_distinct (scores : Signal → φ) (signal : Signal) :
    (signalItem scores signal).Distinct := by
  simp [signalItem, Value.Distinct, MembersDistinct]

theorem observationItem_distinct (lib : EvidenceLibrary φ) (item : Observation φ) :
    (observationItem lib item).Distinct := by
  cases reported : item.errorType <;>
    simp [observationItem, Value.Distinct, MembersDistinct, orNull, reported]

/-- A list of entries as a JSON column. -/
def entriesDocument (entries : List (Value φ)) (distinct : ∀ v ∈ entries, v.Distinct) :
    Document φ :=
  ⟨.arr entries, (elementsDistinct_iff entries).mpr distinct⟩

/-- `_collect_supporting`. -/
def collectSupporting (lib : EvidenceLibrary φ) (observations : List (Observation φ))
    (scores : Signal → φ) : Document φ :=
  entriesDocument
    ((observations.filter
        (fun item => item.errorType ≠ none ∨ item.statusCode = none)).map (observationItem lib) ++
      (Signal.all.filter (fun signal => ops.le (ops.literal "0.5") (scores signal))).map
        (signalItem scores)) (by
    intro v member
    rcases List.mem_append.mp member with observed | signalled
    · obtain ⟨item, _, rfl⟩ := List.mem_map.mp observed
      exact observationItem_distinct lib item
    · obtain ⟨signal, _, rfl⟩ := List.mem_map.mp signalled
      exact signalItem_distinct scores signal)

/-- `_collect_contradicting`. -/
def collectContradicting (scores : Signal → φ) : Document φ :=
  entriesDocument
    ((Signal.all.filter (fun signal => ops.lt (scores signal) (ops.literal "0.5"))).map
      (signalItem scores)) (by
    intro v member
    obtain ⟨signal, _, rfl⟩ := List.mem_map.mp member
    exact signalItem_distinct scores signal)

/-- `signal_breakdown`. -/
def breakdown (scores : Signal → φ) : Document φ :=
  ⟨.obj (Signal.all.map (fun signal => (signal.name, .float (scores signal)))), by
    simp [Value.Distinct, Signal.all, Signal.name, MembersDistinct]⟩

/-! ## The result -/

/-- A row of `attribution_results`. -/
structure StoredAttribution (φ : Type) extends AttributionResult φ where
  orgId : Uuid
  suspectedDependencyId : Uuid

def StoredAttribution.key (row : StoredAttribution φ) : Uuid := row.incidentId

/-- `compute_attribution`; the identifier is the one the row gets when it is flushed. -/
def computeAttribution (lib : EvidenceLibrary φ) (incident : Incident)
    (inputs : AttributionInputs φ) (newId : Uuid) : StoredAttribution φ :=
  let scores := scores ops inputs
  let confidence := confidenceOf ops scores
  { id := newId
    incidentId := incident.id
    classification := classificationOf ops confidence inputs.infrastructureOk
    confidenceScore := confidence
    signalBreakdown := breakdown scores
    supportingEvidence := collectSupporting ops lib inputs.observations scores
    contradictingEvidence := collectContradicting ops scores
    methodologyVersion := "v1.0"
    orgId := incident.orgId
    suspectedDependencyId := incident.dependencyId }

end Engine

end Reliastra.Source.Attribution
