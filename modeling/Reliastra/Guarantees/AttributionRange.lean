import Reliastra.Source.Attribution.ExactReals

/-!
# The range of an attribution

No operation of the engine raises, whatever the observations are. Four signals are
between 0 and 1. The fifth is the largest confidence of a correlation, capped above
and not below, and `manually_correlate` stores any confidence: the attribution is in
range exactly when the incident has no correlation, or one that is not negative.
-/

namespace Reliastra.Guarantees.AttributionRange

open Reliastra.Source Reliastra.Source.Attribution Reliastra.Source.Evidence.Generation

/-! ## The property -/

/-- A signal before `scores` rounds it. -/
noncomputable def signalValue (inputs : AttributionInputs (Option ℝ)) : Signal → Option ℝ
  | .temporal => signalTemporal exactReals inputs.others
  | .endpointOverlap => signalEndpointOverlap exactReals inputs.correlations
  | .latencyCorrelation => signalLatencyCorrelation exactReals inputs.observations
  | .errorPattern => signalErrorPattern exactReals inputs.observations
  | .infrastructureBaseline =>
    if inputs.infrastructureOk then exactReals.literal "1.0" else exactReals.literal "0.0"

noncomputable def confidence (inputs : AttributionInputs (Option ℝ)) : Option ℝ :=
  confidenceOf exactReals (scores exactReals inputs)

def Within (low high : ℤ) (value : Option ℝ) : Prop := ∃ x, value = some x ∧ low ≤ x ∧ x ≤ high

structure InRange (inputs : AttributionInputs (Option ℝ)) : Prop where
  signals : ∀ signal, Within 0 1 (signalValue inputs signal)
  scores : ∀ signal, Within 0 1 (scores exactReals inputs signal)
  confidence : Within 0 100 (confidence inputs)

/-- The columns hold numbers. -/
structure Numbers (inputs : AttributionInputs (Option ℝ)) : Prop where
  latencies : ∀ item ∈ inputs.observations, item.latencyMs.isSome
  confidences : ∀ item ∈ inputs.correlations, item.correlationConfidence.isSome

/-- The incident has no correlation, or one with a confidence of at least 0. -/
def SomeNonneg (inputs : AttributionInputs (Option ℝ)) : Prop :=
  inputs.correlations = [] ∨
    ∃ item ∈ inputs.correlations, ∃ x ∈ item.correlationConfidence, (0 : ℝ) ≤ x

/-! ## Literals -/

private theorem literal_zero : literalValue "0.0" = 0 := by
  have digits : mantissa "0.0" = 0 := by decide
  simp [literalValue, digits]

private theorem literal_one : literalValue "1.0" = 1 := by
  have digits : mantissa "1.0" = 10 := by decide
  have point : decimals "1.0" = 1 := by decide
  norm_num [literalValue, digits, point]

/-- The weights add up to one. -/
private theorem weights_values :
    literalValue "0.20" = 1 / 5 ∧ literalValue "0.25" = 1 / 4 ∧ literalValue "0.15" = 3 / 20 := by
  have fifth : mantissa "0.20" = 20 ∧ decimals "0.20" = 2 := by decide
  have quarter : mantissa "0.25" = 25 ∧ decimals "0.25" = 2 := by decide
  have rest : mantissa "0.15" = 15 ∧ decimals "0.15" = 2 := by decide
  refine ⟨?_, ?_, ?_⟩
  · norm_num [literalValue, fifth]
  · norm_num [literalValue, quarter]
  · norm_num [literalValue, rest]

private theorem within_zero_one (flag : Bool) :
    Within 0 1 (if flag then exactReals.literal "1.0" else exactReals.literal "0.0") := by
  cases flag with
  | true => exact ⟨1, by rw [if_pos rfl, exactReals_literal, literal_one], by norm_num⟩
  | false =>
    exact ⟨0, by rw [if_neg Bool.false_ne_true, exactReals_literal, literal_zero], by norm_num⟩

/-! ## The signals -/

variable {inputs : AttributionInputs (Option ℝ)}

theorem temporal_within (others : List Api.Incident) :
    Within 0 1 (signalTemporal exactReals others) := by
  have within := within_zero_one (decide (others ≠ []))
  unfold signalTemporal
  by_cases alone : others = []
  · simpa [alone] using within
  · simpa [alone] using within

/-- Latencies that are numbers, cut off at zero. -/
private theorem latencies_eq (observations : List (Observation (Option ℝ)))
    (numbers : ∀ item ∈ observations, item.latencyMs.isSome) :
    ∃ values : List ℝ, (∀ value ∈ values, 0 ≤ value) ∧
      observations.map (fun item => exactReals.max (exactReals.literal "0.0") item.latencyMs) =
        values.map some := by
  induction observations with
  | nil => exact ⟨[], by simp, rfl⟩
  | cons item rest ih =>
    obtain ⟨values, nonneg, equal⟩ := ih (fun other member => numbers other (by simp [member]))
    obtain ⟨latency, known⟩ := Option.isSome_iff_exists.mp (numbers item (by simp))
    refine ⟨max 0 latency :: values, ?_, ?_⟩
    · intro value member
      rcases List.mem_cons.mp member with rfl | later
      · exact le_max_left _ _
      · exact nonneg value later
    · rw [List.map_cons, List.map_cons, equal, known, exactReals_literal, literal_zero,
        exactReals_max]

theorem latency_within (observations : List (Observation (Option ℝ)))
    (numbers : ∀ item ∈ observations, item.latencyMs.isSome) :
    Within 0 1 (signalLatencyCorrelation exactReals observations) := by
  obtain ⟨values, nonneg, latencies⟩ := latencies_eq observations numbers
  simp only [signalLatencyCorrelation, latencies, List.length_map]
  split
  · exact ⟨0, by rw [exactReals_literal, literal_zero], by norm_num⟩
  · next several =>
    have count : values.length ≠ 0 := by omega
    have count' : (values.length : ℝ) ≠ 0 := Nat.cast_ne_zero.mpr count
    have mean_nonneg : 0 ≤ values.sum / values.length :=
      div_nonneg (List.sum_nonneg nonneg) (Nat.cast_nonneg _)
    have ratio : exactReals.ratio values.length 1 = some (values.length : ℝ) := by
      rw [exactReals_ratio _ one_ne_zero, Nat.cast_one, div_one]
    have squares (mean : ℝ) : (values.map some).map
          (fun value => exactReals.square (exactReals.sub value (some mean))) =
        (values.map (fun value => (value - mean) ^ 2)).map some := by
      rw [List.map_map, List.map_map]
      rfl
    have variance_nonneg (mean : ℝ) :
        0 ≤ (values.map (fun value => (value - mean) ^ 2)).sum / (values.length : ℝ) := by
      refine div_nonneg (List.sum_nonneg ?_) (Nat.cast_nonneg _)
      intro square member
      obtain ⟨value, _, rfl⟩ := List.mem_map.mp member
      exact sq_nonneg _
    -- the mean is not negative, so the last divisor is at least one
    have divisor : values.sum / values.length + 1 ≠ 0 := by linarith
    rw [exactReals_sum, ratio, exactReals_div count', squares, exactReals_sum,
      exactReals_div count', exactReals_sqrt (variance_nonneg _), exactReals_literal, literal_one,
      exactReals_add, exactReals_div divisor, exactReals_literal, literal_zero, exactReals_max,
      exactReals_min]
    refine ⟨_, rfl, ?_, ?_⟩
    · exact_mod_cast le_min zero_le_one (le_max_left _ _)
    · exact_mod_cast min_le_left _ _

private theorem foldl_max_le (counts : List Nat) {start bound : Nat} (first : start ≤ bound)
    (rest : ∀ count ∈ counts, count ≤ bound) : counts.foldl Nat.max start ≤ bound := by
  induction counts generalizing start with
  | nil => exact first
  | cons count counts ih =>
    exact ih (Nat.max_le.mpr ⟨first, rest count (by simp)⟩)
      (fun other member => rest other (by simp [member]))

theorem errorPattern_within (observations : List (Observation (Option ℝ))) :
    Within 0 1 (signalErrorPattern exactReals observations) := by
  simp only [signalErrorPattern]
  split
  · exact ⟨0, by rw [exactReals_literal, literal_zero], by norm_num⟩
  · next some_error =>
    rw [exactReals_ratio _ (fun empty => some_error (List.length_eq_zero_iff.mp empty))]
    refine ⟨_, rfl, ?_, ?_⟩
    · push_cast
      positivity
    · push_cast
      refine div_le_one_of_le₀ ?_ (Nat.cast_nonneg _)
      refine Nat.cast_le.mpr (foldl_max_le _ (Nat.zero_le _) ?_)
      intro count member
      obtain ⟨text, _, rfl⟩ := List.mem_map.mp member
      exact List.count_le_length

/-- The largest confidence is a number, not negative if one of them is not. -/
private theorem largest_confidence (rest : List (IncidentCorrelation (Option ℝ))) (best : ℝ)
    (numbers : ∀ item ∈ rest, item.correlationConfidence.isSome) :
    ∃ largest, rest.foldl (fun best item => exactReals.max best item.correlationConfidence)
        (some best) = some largest ∧
      (0 ≤ largest ↔ 0 ≤ best ∨ ∃ item ∈ rest, ∃ x ∈ item.correlationConfidence, (0 : ℝ) ≤ x) := by
  induction rest generalizing best with
  | nil => exact ⟨best, rfl, by simp⟩
  | cons item rest ih =>
    obtain ⟨x, known⟩ := Option.isSome_iff_exists.mp (numbers item (by simp))
    obtain ⟨largest, folded, iff⟩ :=
      ih (max best x) (fun other member => numbers other (by simp [member]))
    refine ⟨largest, ?_, ?_⟩
    · rw [List.foldl_cons, known, exactReals_max]
      exact folded
    · rw [iff, le_max_iff, or_assoc, List.exists_mem_cons_iff, known]
      simp

theorem overlap_value (correlations : List (IncidentCorrelation (Option ℝ)))
    (numbers : ∀ item ∈ correlations, item.correlationConfidence.isSome) :
    ∃ overlap, signalEndpointOverlap exactReals correlations = some overlap ∧ overlap ≤ 1 ∧
      (0 ≤ overlap ↔ correlations = [] ∨
        ∃ item ∈ correlations, ∃ x ∈ item.correlationConfidence, (0 : ℝ) ≤ x) := by
  cases correlations with
  | nil => exact ⟨0, by rw [signalEndpointOverlap, exactReals_literal, literal_zero], by simp⟩
  | cons first rest =>
    obtain ⟨x, known⟩ := Option.isSome_iff_exists.mp (numbers first (by simp))
    obtain ⟨largest, folded, iff⟩ := largest_confidence rest x
      (fun other member => numbers other (by simp [member]))
    refine ⟨min 1 largest, ?_, min_le_left _ _, ?_⟩
    · rw [signalEndpointOverlap, known, folded, exactReals_literal, literal_one, exactReals_min]
    · rw [le_min_iff, iff, List.exists_mem_cons_iff, known]
      simp

/-! ## The scores and the confidence -/

theorem scores_eq (inputs : AttributionInputs (Option ℝ)) (signal : Signal) :
    scores exactReals inputs signal = exactReals.round (signalValue inputs signal) 4 := by
  cases signal <;> rfl

private theorem round_within {low high : ℤ} {value : Option ℝ} (within : Within low high value)
    (digits : Nat) : Within low high (exactReals.round value digits) := by
  obtain ⟨x, rfl, above, below⟩ := within
  exact ⟨_, exactReals_round x digits, roundTo_mem above below digits⟩

theorem confidence_value (inputs : AttributionInputs (Option ℝ)) {values : Signal → ℝ}
    (known : ∀ signal, scores exactReals inputs signal = some (values signal)) :
    confidence inputs = some (roundTo ((values .temporal / 5 + values .endpointOverlap / 4 +
      values .latencyCorrelation / 4 + values .errorPattern * 3 / 20 +
        values .infrastructureBaseline * 3 / 20) * 100) 2) := by
  obtain ⟨fifth, quarter, rest⟩ := weights_values
  have terms : Signal.all.map
        (fun name => exactReals.mul (scores exactReals inputs name) (weights exactReals name)) =
      [values .temporal * (1 / 5), values .endpointOverlap * (1 / 4),
        values .latencyCorrelation * (1 / 4), values .errorPattern * (3 / 20),
        values .infrastructureBaseline * (3 / 20)].map some := by
    simp only [Signal.all, List.map_cons, List.map_nil, known, weights, exactReals_literal,
      exactReals_mul, fifth, quarter, rest]
  unfold confidence confidenceOf
  rw [terms, exactReals_sum, exactReals_ratio _ one_ne_zero, exactReals_mul, exactReals_round]
  congr 2
  simp only [List.sum_cons, List.sum_nil]
  push_cast
  ring

/-- Every operation of the engine has a value. -/
theorem signalValue_isSome (numbers : Numbers inputs) (signal : Signal) :
    ∃ x, signalValue inputs signal = some x := by
  cases signal with
  | temporal => exact (temporal_within inputs.others).imp fun x within => within.1
  | endpointOverlap =>
    exact (overlap_value inputs.correlations numbers.confidences).imp fun x value => value.1
  | latencyCorrelation =>
    exact (latency_within inputs.observations numbers.latencies).imp fun x within => within.1
  | errorPattern => exact (errorPattern_within inputs.observations).imp fun x within => within.1
  | infrastructureBaseline =>
    exact (within_zero_one inputs.infrastructureOk).imp fun x within => within.1

theorem confidence_isSome (numbers : Numbers inputs) : ∃ x, confidence inputs = some x := by
  choose values known using signalValue_isSome numbers
  have rounded (signal : Signal) :
      scores exactReals inputs signal = some (roundTo (values signal) 4) := by
    rw [scores_eq, known, exactReals_round]
  exact ⟨_, confidence_value inputs rounded⟩

theorem confidence_within (within : ∀ signal, Within 0 1 (scores exactReals inputs signal)) :
    Within 0 100 (confidence inputs) := by
  choose values known above below using within
  refine ⟨_, confidence_value inputs known, roundTo_mem ?_ ?_ 2⟩
  · push_cast at above ⊢
    linarith [above .temporal, above .endpointOverlap, above .latencyCorrelation,
      above .errorPattern, above .infrastructureBaseline]
  · push_cast at below ⊢
    linarith [below .temporal, below .endpointOverlap, below .latencyCorrelation,
      below .errorPattern, below .infrastructureBaseline]

theorem inRange_of_someNonneg (numbers : Numbers inputs) (nonneg : SomeNonneg inputs) :
    InRange inputs := by
  have signals (signal : Signal) : Within 0 1 (signalValue inputs signal) := by
    cases signal with
    | temporal => exact temporal_within inputs.others
    | endpointOverlap =>
      obtain ⟨overlap, value, capped, iff⟩ := overlap_value inputs.correlations numbers.confidences
      exact ⟨overlap, value, by exact_mod_cast iff.mpr nonneg, by exact_mod_cast capped⟩
    | latencyCorrelation => exact latency_within inputs.observations numbers.latencies
    | errorPattern => exact errorPattern_within inputs.observations
    | infrastructureBaseline => exact within_zero_one inputs.infrastructureOk
  have rounded (signal : Signal) : Within 0 1 (scores exactReals inputs signal) := by
    rw [scores_eq]
    exact round_within (signals signal) 4
  exact ⟨signals, rounded, confidence_within rounded⟩

/-- No operation raises, and the signals, scores and confidence are in range exactly
when the incident has no correlation or one that is not negative. -/
theorem attribution_in_range_iff (inputs : AttributionInputs (Option ℝ)) (numbers : Numbers inputs) :
    (∀ signal, ∃ x, signalValue inputs signal = some x) ∧ (∃ x, confidence inputs = some x) ∧
      (InRange inputs ↔ SomeNonneg inputs) := by
  refine ⟨signalValue_isSome numbers, confidence_isSome numbers, ?_,
    inRange_of_someNonneg numbers⟩
  intro inRange
  obtain ⟨overlap, value, _, iff⟩ := overlap_value inputs.correlations numbers.confidences
  obtain ⟨x, known, above, _⟩ := inRange.signals .endpointOverlap
  have same : overlap = x := Option.some.inj (value.symm.trans known)
  subst same
  exact iff.mp (by exact_mod_cast above)

/-! ## A correlation of minus one half -/

/-- One correlation, no observations and a healthy infrastructure. -/
noncomputable def correlatedOnce (confidence : ℝ) : AttributionInputs (Option ℝ) :=
  ⟨[], [⟨1, 2, some confidence⟩], [], true⟩

private theorem correlatedOnce_numbers (confidence : ℝ) : Numbers (correlatedOnce confidence) :=
  ⟨fun item member => absurd member List.not_mem_nil, fun item member => by
    obtain rfl := List.mem_singleton.mp member
    rfl⟩

theorem attribution_in_range_sample :
    (∀ signal, ∃ x, signalValue (correlatedOnce 1) signal = some x) ∧
      (∃ x, confidence (correlatedOnce 1) = some x) ∧
      (InRange (correlatedOnce 1) ↔ SomeNonneg (correlatedOnce 1)) :=
  attribution_in_range_iff (correlatedOnce 1) (correlatedOnce_numbers 1)

/-- `manually_correlate` has stored a confidence of -0.5. -/
theorem negative_overlap : ¬ InRange (correlatedOnce (-1 / 2)) := by
  intro inRange
  obtain ⟨x, known, above, _⟩ := inRange.signals .endpointOverlap
  have overlap : signalValue (correlatedOnce (-1 / 2)) .endpointOverlap =
      some (min 1 (-1 / 2)) := by
    simp only [signalValue, correlatedOnce, signalEndpointOverlap, List.foldl_nil,
      exactReals_literal, literal_one, exactReals_min]
  have same : min 1 (-1 / 2) = x := Option.some.inj (overlap.symm.trans known)
  have least : min (1 : ℝ) (-1 / 2) ≤ -1 / 2 := min_le_right _ _
  rw [same] at least
  push_cast at above
  linarith

end Reliastra.Guarantees.AttributionRange
