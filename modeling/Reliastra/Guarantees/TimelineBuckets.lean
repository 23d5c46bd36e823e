import Mathlib.Data.Int.ConditionallyCompleteOrder
import Mathlib.Order.Interval.Set.LinearOrder
import Reliastra.Source.Vendors.Timeline

/-!
# Which incident a timeline bucket carries

A bucket of width `w` starting at `b` should carry the first incident of the list
that was active at some instant of `[b, b + w)`. The code takes every bucket to be
ten minutes wide, a width no resolution has, so the two searches differ. They find
the same incident exactly when the first one either of them accepts is accepted by
both.
-/

namespace Reliastra.Guarantees

open Reliastra.Library Reliastra.Source Vendors Api

section Search

variable {α β : Type*}

/-- Two searches of one list, compared through `key`, agree when the first element
either accepts is accepted by both. -/
theorem find?_map_eq_iff {p q : α → Prop} [DecidablePred p] [DecidablePred q] {key : α → β}
    {items : List α} (inj : ∀ a ∈ items, ∀ b ∈ items, key a = key b → a = b) :
    (items.find? p).map key = (items.find? q).map key ↔
      ∀ a, items.find? (fun a => p a ∨ q a) = some a → p a ∧ q a := by
  induction items with
  | nil => simp
  | cons head tail ih =>
    have later := ih (fun a ha b hb => inj a (by simp [ha]) b (by simp [hb]))
    -- an element of the tail with the head's key is the head itself
    have mixed {r : α → Prop} [DecidablePred r] (fails : ¬ r head)
        (found : (tail.find? r).map key = some (key head)) : False := by
      obtain ⟨a, isFound, sameKey⟩ := Option.map_eq_some_iff.mp found
      have member := List.mem_of_find?_eq_some isFound
      have equal := inj a (List.mem_cons_of_mem _ member) head (by simp) sameKey
      have holds : r a := by simpa using List.find?_some isFound
      exact fails (equal ▸ holds)
    by_cases hp : p head
    · by_cases hq : q head
      · simp [hp, hq]
      · refine iff_of_false ?_ (fun both => hq (both head (by simp [hp])).2)
        rw [List.find?_cons_of_pos (by simpa using hp), List.find?_cons_of_neg (by simpa using hq)]
        intro same
        exact mixed hq same.symm
    · by_cases hq : q head
      · refine iff_of_false ?_ (fun both => hp (both head (by simp [hq])).1)
        rw [List.find?_cons_of_neg (by simpa using hp), List.find?_cons_of_pos (by simpa using hq)]
        intro same
        exact mixed hp same
      · rw [List.find?_cons_of_neg (by simpa using hp), List.find?_cons_of_neg (by simpa using hq),
          List.find?_cons_of_neg (by simp [hp, hq])]
        exact later

end Search

/-! ## Active periods -/

/-- The incident's active period `[started_at, resolved_at or now)` meets
`[b, b + width)`. -/
def ActiveDuring (width : Int) (now : Instant) (bucket : BucketRow) (incident : IncidentPeriod) :
    Prop :=
  (Set.Ico incident.startedAt (incident.endedAt now) ∩
    Set.Ico bucket.bucketStart (bucket.bucketStart + secondsToMicros width)).Nonempty

theorem activeDuring_iff {width : Int} {now : Instant} {bucket : BucketRow}
    {incident : IncidentPeriod} :
    ActiveDuring width now bucket incident ↔
      RangesOverlap incident.startedAt (incident.endedAt now) bucket.bucketStart
        (bucket.bucketStart + secondsToMicros width) := by
  unfold ActiveDuring RangesOverlap
  rw [Set.Ico_inter_Ico, Set.nonempty_Ico, sup_lt_iff, lt_inf_iff, lt_inf_iff]
  constructor
  · intro ⟨⟨active, before⟩, after, wide⟩
    exact ⟨active, wide, before, after⟩
  · intro ⟨active, wide, before, after⟩
    exact ⟨⟨active, before⟩, after, wide⟩

instance (width : Int) (now : Instant) (bucket : BucketRow) (incident : IncidentPeriod) :
    Decidable (ActiveDuring width now bucket incident) :=
  decidable_of_iff _ activeDuring_iff.symm

/-- Each point carries the first incident active during its bucket, and none when
there is none. -/
def CarriesActive (width : Int) (now : Instant) (incidents : List IncidentPeriod)
    (buckets : List BucketRow) (points : List TimelineBucket) : Prop :=
  points.map (·.incidentId) = buckets.map (fun bucket =>
    (incidents.find? (fun incident => ActiveDuring width now bucket incident)).map (·.id))

instance (width : Int) (now : Instant) (incidents : List IncidentPeriod)
    (buckets : List BucketRow) (points : List TimelineBucket) :
    Decidable (CarriesActive width now incidents buckets points) :=
  inferInstanceAs (Decidable (_ = _))

theorem timeline_incidents_iff (width : Int) (now : Instant) (buckets : List BucketRow)
    (incidents : List IncidentPeriod)
    (unique : ∀ first ∈ incidents, ∀ second ∈ incidents, first.id = second.id → first = second) :
    CarriesActive width now incidents buckets (associateIncidents buckets incidents now) ↔
      ∀ bucket ∈ buckets, ∀ incident,
        incidents.find? (fun incident =>
          OverlapsEstimate bucket now incident ∨ ActiveDuring width now bucket incident) =
            some incident →
        OverlapsEstimate bucket now incident ∧ ActiveDuring width now bucket incident := by
  unfold CarriesActive
  rw [associateIncidents_eq, List.map_map, List.map_inj_left]
  constructor
  · intro same bucket member
    exact (find?_map_eq_iff unique).mp (same bucket member)
  · intro both bucket member
    exact (find?_map_eq_iff unique).mpr (both bucket member)

/-- The bucket `[0 s, 300 s)` of a resolution of five minutes. -/
def fiveMinuteBucket : BucketRow := ⟨0, 120, some 200, true, 5⟩

theorem timeline_incidents_iff_five_minutes :
    CarriesActive 300 0 [⟨7, secondsToMicros 60, some (secondsToMicros 120)⟩] [fiveMinuteBucket]
      (associateIncidents [fiveMinuteBucket]
        [⟨7, secondsToMicros 60, some (secondsToMicros 120)⟩] 0) ↔
      ∀ bucket ∈ [fiveMinuteBucket], ∀ incident,
        [(⟨7, secondsToMicros 60, some (secondsToMicros 120)⟩ : IncidentPeriod)].find?
          (fun incident => OverlapsEstimate bucket 0 incident ∨
            ActiveDuring 300 0 bucket incident) = some incident →
        OverlapsEstimate bucket 0 incident ∧ ActiveDuring 300 0 bucket incident :=
  timeline_incidents_iff 300 0 [fiveMinuteBucket]
    [⟨7, secondsToMicros 60, some (secondsToMicros 120)⟩] (by decide)

/-- An incident that starts 400 s after the start of a bucket: of five minutes, which
carries it all the same; one that starts after 700 s, in a bucket of fifteen minutes,
which does not carry it. -/
theorem timeline_incidents_not_always :
    timelineWindow "24h" "5m" = .ok (24, 300) ∧ timelineWindow "7d" "15m" = .ok (168, 900) ∧
    ¬ CarriesActive 300 0 [⟨7, secondsToMicros 400, some (secondsToMicros 500)⟩]
      [fiveMinuteBucket] (associateIncidents [fiveMinuteBucket]
        [⟨7, secondsToMicros 400, some (secondsToMicros 500)⟩] 0) ∧
    ¬ CarriesActive 900 0 [⟨7, secondsToMicros 700, some (secondsToMicros 800)⟩]
      [fiveMinuteBucket] (associateIncidents [fiveMinuteBucket]
        [⟨7, secondsToMicros 700, some (secondsToMicros 800)⟩] 0) := by
  refine ⟨by decide, by decide, by decide, by decide⟩

/-- The incidents of a vendor's timeline are such a list: their ids come from the
primary key. -/
theorem timelinePoints_spec {byStart : OrderBy IncidentPeriod.startedAt}
    {incidents : Table Api.Incident.id} {dependencies : Table Api.Dependency.id}
    {timelineBuckets : List String → Instant → Instant → Int → List BucketRow}
    {urls : List String} {window resolution : String} {now : Instant}
    {points : List TimelineBucket}
    (ok : timelinePoints byStart incidents dependencies timelineBuckets urls window resolution
      now = .ok points) :
    ∃ hours width periods, timelineWindow window resolution = .ok (hours, width) ∧
      getIncidentsInWindow byStart incidents dependencies urls
        (now - secondsToMicros (hours * 3600)) now now = .ok periods ∧
      points = associateIncidents
        (timelineBuckets urls (now - secondsToMicros (hours * 3600)) now width) periods now ∧
      ∀ first ∈ periods, ∀ second ∈ periods, first.id = second.id → first = second := by
  unfold timelinePoints at ok
  rw [bind_eq_ok_iff] at ok
  obtain ⟨⟨hours, width⟩, accepted, ok⟩ := ok
  rw [bind_eq_ok_iff] at ok
  obtain ⟨periods, found, ok⟩ := ok
  cases ok
  exact ⟨hours, width, periods, accepted, found, rfl, getIncidentsInWindow_unique found⟩

end Reliastra.Guarantees
