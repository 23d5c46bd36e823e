import Reliastra.Guarantees.OneIncident
import Reliastra.Source.Checks.Scheduler

/-!
# Is a dead dependency noticed?

A quorum needs two regions, and the validator accepts one. A dependency that is
checked from two regions or more is noticed in the first round of failing checks
that are all read within the window of the quorum, in any interleaving.
-/

namespace Reliastra.Guarantees.BlindDependencies

open Reliastra.Library Source Source.Checks OneIncident

/-! ## Accepted regions -/

theorem dedupeRegions_nodup {requested : List String} {deduped regions : List Region}
    (distinct : deduped.Nodup) (accepted : dedupeRegions requested deduped = .ok regions) :
    regions.Nodup := by
  induction requested generalizing deduped with
  | nil =>
    cases accepted
    exact distinct
  | cons region rest ih =>
    unfold dedupeRegions at accepted
    split at accepted
    · next allowed =>
      refine ih ?_ accepted
      split
      · exact distinct
      · next fresh =>
        rw [List.nodup_append]
        refine ⟨distinct, List.nodup_singleton _, ?_⟩
        intro old member new here same
        rw [List.mem_singleton.mp here] at same
        exact fresh (same ▸ member)
    · cases accepted

theorem validateRegions_nodup {requested : List String} {regions : List Region}
    (accepted : validateRegions requested = .ok regions) : regions.Nodup := by
  unfold validateRegions at accepted
  split at accepted
  · cases accepted
  · exact dedupeRegions_nodup List.nodup_nil accepted

/-! ## A round -/

/-- The check of every region fails, with a message each. -/
def failingRound (regions : List Region) (message : Fin regions.length → String)
    (t : Fin regions.length) : Probe :=
  ⟨(regions.get t).val, .down (message t)⟩

/-- A round of the scheduler has one task for every accepted region. -/
theorem round_dispatched {requested : List String} {regions : List Region}
    (accepted : validateRegions requested = .ok regions) (dep : ScheduledDependency)
    (stored : dep.regions = regions.map (·.val)) :
    dep.regionsToCheck = regions.map (·.val) := by
  have some_region : regions ≠ [] := by
    rintro rfl
    unfold validateRegions at accepted
    split at accepted
    · cases accepted
    · next requested_some =>
      match requested, requested_some with
      | region :: rest, _ =>
        have kept : ∀ (names : List String) (deduped : List Region), deduped ≠ [] →
            dedupeRegions names deduped ≠ .ok [] := by
          intro names
          induction names with
          | nil =>
            intro deduped nonempty empty
            cases empty
            exact nonempty rfl
          | cons name names ih =>
            intro deduped nonempty
            unfold dedupeRegions
            split
            · apply ih
              split
              · exact nonempty
              · simp
            · simp
        unfold dedupeRegions at accepted
        split at accepted
        · exact kept rest _ (by simp) accepted
        · cases accepted
  unfold ScheduledDependency.regionsToCheck
  rw [stored, if_neg]
  exact fun empty => some_region (List.map_eq_nil_iff.mp empty)

/-- No check of the round has begun; an incident may be open already. -/
structure RoundBegins {ι : Type} (dep : Dependency) (w : World (CheckDatabase ι) ι Phase) :
    Prop where
  probing : ∀ t, w.locals t = .probing
  unlocked : w.shared.lockHolder = none
  atMostOneOpen : AtMostOneOpen dep w.shared

variable {ι : Type} {dep : Dependency} {probes : ι → Probe}

theorem invariant_begins {w : World (CheckDatabase ι) ι Phase} (begins : RoundBegins dep w) :
    Invariant dep probes w := by
  refine ⟨begins.atMostOneOpen, ?_, ?_⟩
  · intro t
    rw [begins.probing t]
    trivial
  · intro t u _
    rw [begins.probing t, begins.probing u]
    refine ⟨?_, fun both => both.1.elim⟩
    intro result readAt other otherReadAt seen
    cases seen

/-- A dependency that is checked from several regions has an open incident once
every check of a round has reached it, failed and committed within the window. -/
theorem no_blind_dependency (requested : List String) (regions : List Region)
    (accepted : validateRegions requested = .ok regions) (several : 2 ≤ regions.length)
    (dep : Dependency) (message : Fin regions.length → String)
    (w : World (CheckDatabase (Fin regions.length)) (Fin regions.length) Phase)
    (begins : RoundBegins dep w) (run : List (Fin regions.length × CheckAction))
    (all : AllCommitted
      (Run.exec (World.move (executeCheck dep (failingRound regions message))) w run)) :
    (Run.exec (World.move (executeCheck dep (failingRound regions message))) w
      run).shared.openIncidents dep.id ≠ [] := by
  have failing : ∀ t, ∃ text, (failingRound regions message t).outcome = .down text :=
    fun t => ⟨message t, rfl⟩
  have inv := World.Holds.exec pair_symm (invariant_step failing) w run (invariant_begins begins)
  have apart : (failingRound regions message ⟨0, by omega⟩).region ≠
      (failingRound regions message ⟨1, by omega⟩).region := by
    intro same
    have equal := (validateRegions_nodup accepted).get_inj_iff.mp (Subtype.ext same)
    cases congrArg Fin.val equal
  obtain ⟨r, result, readAt, write, here, confirmed⟩ := confirmed_of_regions inv all apart
  exact open_of_confirmed inv here confirmed

/-! ## Two regions, and one -/

def twoRegions : List Region := [⟨"us-east", by decide⟩, ⟨"eu-west", by decide⟩]

def twoFailures (t : Fin 2) (seconds : Int) : CheckResult :=
  (failingRound twoRegions (fun _ => "timed out") t).result sampleDependency
    (secondsToMicros seconds)

/-- The second region reads the quorum after the first one has committed. -/
def twoRegionsRun : List (Fin 2 × CheckAction) :=
  [(0, .record (secondsToMicros 1)), (1, .record (secondsToMicros 2)), (0, .lock), (1, .lock),
    (0, .readQuorum (secondsToMicros 3) [twoFailures 0 1]), (0, .commit), (1, .lock),
    (1, .readQuorum (secondsToMicros 4) [twoFailures 1 2, twoFailures 0 1]),
    (1, .readOpenIncident none (secondsToMicros 4)), (1, .createIncident 21 (secondsToMicros 5)),
    (1, .commit)]

def twoRegionsEnd : World (CheckDatabase (Fin 2)) (Fin 2) Phase :=
  Run.exec (World.move (executeCheck sampleDependency
    (failingRound twoRegions (fun _ => "timed out")))) sampleWorld twoRegionsRun

def twoRegionsFinal (t : Fin 2) : CheckResult × Instant × IncidentWrite :=
  if t = 0 then (twoFailures 0 1, secondsToMicros 3, .unchanged)
  else
    ({ twoFailures 1 2 with quorumConfirmed := true }, secondsToMicros 4,
      .create (newIncident sampleDependency (twoFailures 1 2) 21 (secondsToMicros 5)))

theorem twoRegionsEnd_locals (t : Fin 2) : twoRegionsEnd.locals t =
    .committed (twoRegionsFinal t).1 (some (twoRegionsFinal t).2.1) (twoRegionsFinal t).2.2 := by
  revert t
  decide

theorem twoRegionsEnd_allCommitted : AllCommitted twoRegionsEnd := by
  constructor
  · intro t
    exact ⟨_, _, _, twoRegionsEnd_locals t⟩
  · intro t u result readAt other otherReadAt seen otherSeen
    rw [twoRegionsEnd_locals] at seen otherSeen
    cases seen
    cases otherSeen
    revert t u
    decide

theorem no_blind_dependency_sample : twoRegionsEnd.shared.openIncidents 7 ≠ [] :=
  no_blind_dependency ["us-east", "eu-west", "us-east"] twoRegions (by decide) (by decide)
    sampleDependency (fun _ => "timed out") sampleWorld ⟨fun _ => rfl, rfl, Nat.zero_le _⟩
    twoRegionsRun twoRegionsEnd_allCommitted

def oneRegion : List Region := [⟨"us-east", by decide⟩]

def oneFailure : CheckResult :=
  (failingRound oneRegion (fun _ => "timed out") ⟨0, by decide⟩).result sampleDependency
    (secondsToMicros 1)

def oneRegionEnd : World (CheckDatabase (Fin 1)) (Fin 1) Phase :=
  Run.exec (World.move (executeCheck sampleDependency
      (failingRound oneRegion (fun _ => "timed out"))))
    ⟨⟨[], .empty, none, none⟩, fun _ => .probing⟩
    [(0, .record (secondsToMicros 1)), (0, .lock),
      (0, .readQuorum (secondsToMicros 2) [oneFailure]), (0, .commit)]

/-- A dependency with one region is accepted, its only check fails and commits,
and no incident is open. -/
theorem one_region_is_blind :
    validateRegions ["us-east"] = .ok oneRegion ∧
      oneRegionEnd.locals 0 = .committed oneFailure (some (secondsToMicros 2)) .unchanged ∧
      oneRegionEnd.shared.openIncidents 7 = [] := by
  refine ⟨?_, ?_, ?_⟩ <;> decide

end Reliastra.Guarantees.BlindDependencies
