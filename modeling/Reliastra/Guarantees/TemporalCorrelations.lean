import Mathlib.Data.List.Nodup
import Reliastra.Source.Incidents.ConcurrentCreation

/-!
# Do open incidents of one outage know each other, once?

A creation reads the open incidents that are committed by then and writes both
directions without a look at the rows there are. Two creations side by side miss
each other, and a dependency that fails twice is correlated twice.
`correlated_of_quiet` says what a run has to leave out.
-/

namespace Reliastra.Guarantees.TemporalCorrelations

open Reliastra.Library Reliastra.Source Reliastra.Source.Incidents
open Reliastra.Source.Api hiding resolveIncident updateIncident

variable {ι : Type}

/-! ## The property -/

/-- The pair a row is about. -/
def pairOf (row : TemporalCorrelation) : Uuid × Uuid :=
  (row.incidentId, row.correlatedDependencyId)

/-- Open incidents of one organization, of different dependencies, that started
within the window of each other. -/
structure Related (i j : Incident) : Prop where
  opened : i.status = .opened ∧ j.status = .opened
  org : i.orgId = j.orgId
  apart : i.dependencyId ≠ j.dependencyId
  near : Near i j

structure Correlated (s : CorrelationStore) : Prop where
  complete : ∀ i ∈ s.incidents.table.rows, ∀ j ∈ s.incidents.table.rows, Related i j →
    (i.id, j.dependencyId) ∈ s.correlations.map pairOf
  single : (s.correlations.map pairOf).Nodup

abbrev Creations (ι : Type) := World CorrelationStore ι CreationPhase

def creationStep (orgOf : Uuid → Uuid) (_ : ι) (shared : CorrelationStore) (phase : CreationPhase)
    (action : CreationAct) : CorrelationStore × CreationPhase :=
  creationAct orgOf shared phase action

def opening : Creations ι := ⟨⟨.empty, [], []⟩, fun _ => .idle⟩

/-! ## The condition -/

/-- The incident of a creation that has read the open ones. -/
def hasListed : CreationPhase → Option Incident
  | .listed incident _ => some incident
  | _ => none

/-- When a creation reads the open incidents, no other one that has read them is
still under way for a related incident, and no related incident has been
correlated with this dependency before. -/
def Quiet (w : Creations ι) (move : ι × CreationAct) : Prop :=
  match move.2 with
  | .listOpen => ∀ incident, w.locals move.1 = .inserted incident →
    (∀ j, j ≠ move.1 → ∀ other ∈ hasListed (w.locals j), ¬ Related incident other) ∧
      ∀ other ∈ w.shared.incidents.table.rows, Related incident other →
        (other.id, incident.dependencyId) ∉ w.shared.correlations.map pairOf
  | _ => True

/-! ## The invariant -/

/-- The incident a transaction has put into the indexes. -/
def held : CreationPhase → Option Incident
  | .inserted incident => some incident
  | .listed incident _ => some incident
  | _ => none

structure StoreHolds (orgOf : Uuid → Uuid) (s : CorrelationStore) : Prop where
  owned : ∀ i ∈ s.incidents.table.rows, i.orgId = orgOf i.dependencyId
  correlated : Correlated s
  known : ∀ row ∈ s.correlations, row.incidentId ∈ s.incidents.table.rows.map (·.id)

/-- The row of an open transaction keeps its keys from everybody else. -/
structure Reserved (orgOf : Uuid → Uuid) (s : CorrelationStore) (incident : Incident) : Prop where
  uncommitted : incident ∈ s.uncommitted
  status : incident.status = .opened
  owned : incident.orgId = orgOf incident.dependencyId
  newId : incident.id ∉ s.incidents.table.rows.map (·.id)
  onlyOpen : ∀ i ∈ s.incidents.table.rows, i.status = .opened →
    i.dependencyId ≠ incident.dependencyId

/-- What a creation has read covers every incident related to its own, and none
of these has a row for the dependency yet. -/
structure Covers (s : CorrelationStore) (incident : Incident) (others : List Incident) : Prop where
  all : ∀ i ∈ s.incidents.table.rows, Related incident i →
    ∃ other ∈ others, other.id = i.id ∧ other.dependencyId = i.dependencyId
  known : ∀ other ∈ others, other.id ∈ s.incidents.table.rows.map (·.id)
  fresh : ∀ other ∈ others, other.dependencyId ≠ incident.dependencyId →
    (other.id, incident.dependencyId) ∉ s.correlations.map pairOf
  distinct : others.Pairwise (fun a b => a.id ≠ b.id ∧ a.dependencyId ≠ b.dependencyId)

def PhaseHolds (orgOf : Uuid → Uuid) (s : CorrelationStore) : CreationPhase → Prop
  | .inserted incident => Reserved orgOf s incident
  | .listed incident others => Reserved orgOf s incident ∧ Covers s incident others
  | _ => True

structure Apart (a b : CreationPhase) : Prop where
  keys : ∀ i ∈ held a, ∀ j ∈ held b, i.id ≠ j.id ∧ i.dependencyId ≠ j.dependencyId
  unrelated : ∀ i ∈ hasListed a, ∀ j ∈ hasListed b, ¬ Related i j

theorem near_symm {i j : Incident} (near : Near i j) : Near j i := by
  obtain ⟨before, after⟩ := near
  exact ⟨Int.sub_right_le_of_le_add after, Int.le_add_of_sub_right_le before⟩

theorem Related.symm {i j : Incident} (related : Related i j) : Related j i :=
  ⟨related.opened.symm, related.org.symm, related.apart.symm, near_symm related.near⟩

theorem apart_symm (a b : CreationPhase) (apart : Apart a b) : Apart b a := by
  constructor
  · intro i mine j theirs
    obtain ⟨id, dependency⟩ := apart.keys j theirs i mine
    exact ⟨id.symm, dependency.symm⟩
  · exact fun i mine j theirs related => apart.unrelated j theirs i mine related.symm

theorem apart_of_not_held {a b : CreationPhase} (unheld : held a = none) : Apart a b := by
  have unlisted : hasListed a = none := by
    cases a with
    | listed incident others => cases unheld
    | _ => rfl
  constructor
  · intro i mine
    rw [unheld] at mine
    cases mine
  · intro i mine
    rw [unlisted] at mine
    cases mine

/-! ## The rows of one creation -/

variable {orgOf : Uuid → Uuid} {s : CorrelationStore} {incident : Incident}
  {others : List Incident}

theorem mem_pairs {pair : Uuid × Uuid} : pair ∈ (correlate incident others).map pairOf ↔
    ∃ other ∈ others, other.dependencyId ≠ incident.dependencyId ∧
      (pair = (incident.id, other.dependencyId) ∨ pair = (other.id, incident.dependencyId)) := by
  constructor
  · intro member
    obtain ⟨row, created, rfl⟩ := List.mem_map.mp member
    obtain ⟨other, listed, apart, direction⟩ := mem_correlate.mp created
    refine ⟨other, listed, apart, ?_⟩
    simp only [bothDirections, List.mem_cons, List.not_mem_nil, or_false] at direction
    rcases direction with rfl | rfl
    · exact .inl rfl
    · exact .inr rfl
  · rintro ⟨other, listed, apart, rfl | rfl⟩
    · exact List.mem_map.mpr ⟨_, mem_correlate.mpr ⟨other, listed, apart, List.mem_cons_self⟩, rfl⟩
    · exact List.mem_map.mpr ⟨_, mem_correlate.mpr ⟨other, listed, apart,
        List.mem_cons_of_mem _ List.mem_cons_self⟩, rfl⟩

theorem pairs_nodup
    (distinct : others.Pairwise (fun a b => a.id ≠ b.id ∧ a.dependencyId ≠ b.dependencyId))
    (foreign : ∀ other ∈ others, other.id ≠ incident.id) :
    ((correlate incident others).map pairOf).Nodup := by
  unfold correlate
  rw [List.map_flatMap, List.nodup_flatMap]
  constructor
  · intro other listed
    have here := foreign other (List.mem_of_mem_filter listed)
    simp [bothDirections, pairOf, Ne.symm here]
  · have kept := distinct.filter (fun other => other.dependencyId ≠ incident.dependencyId)
    have foreign' : ∀ other ∈ others.filter
        (fun other => other.dependencyId ≠ incident.dependencyId), other.id ≠ incident.id :=
      fun other listed => foreign other (List.mem_of_mem_filter listed)
    refine List.Pairwise.imp_of_mem ?_ kept
    intro a b first second ⟨ids, dependencies⟩ pair left right
    simp only [bothDirections, List.map_cons, List.map_nil, List.mem_cons, List.not_mem_nil,
      or_false, pairOf] at left right
    rcases left with rfl | rfl <;> rcases right with same | same
    · exact dependencies (Prod.mk.inj same).2
    · exact foreign' b second (Prod.mk.inj same).1.symm
    · exact foreign' a first (Prod.mk.inj same).1
    · exact ids (Prod.mk.inj same).1

/-- The commit of a creation that covers what it has to. -/
theorem StoreHolds.commit {incidents : IncidentTable} (holds : StoreHolds orgOf s)
    (reserved : Reserved orgOf s incident) (covers : Covers s incident others)
    (success : insertIncident s.incidents incident = .ok incidents) :
    StoreHolds orgOf { s.withdraw incident with
      incidents := incidents
      correlations := s.correlations ++ correlate incident others } := by
  obtain ⟨_, rows⟩ := insertIncident_rows success
  have foreign : ∀ other ∈ others, other.id ≠ incident.id :=
    fun other listed same => reserved.newId (same ▸ covers.known other listed)
  have pairs : (s.correlations ++ correlate incident others).map pairOf =
      s.correlations.map pairOf ++ (correlate incident others).map pairOf := List.map_append ..
  refine ⟨?_, ⟨?_, ?_⟩, ?_⟩
  · intro i member
    change i ∈ incidents.table.rows at member
    rw [rows] at member
    rcases List.mem_append.mp member with old | new
    · exact holds.owned i old
    · rw [List.mem_singleton.mp new]
      exact reserved.owned
  · intro i left j right related
    change i ∈ incidents.table.rows at left
    change j ∈ incidents.table.rows at right
    change (i.id, j.dependencyId) ∈ (s.correlations ++ correlate incident others).map pairOf
    rw [rows] at left right
    rw [pairs, List.mem_append]
    rcases List.mem_append.mp left with old | new <;>
      rcases List.mem_append.mp right with old' | new'
    · exact .inl (holds.correlated.complete i old j old' related)
    · have new' := List.mem_singleton.mp new'
      subst new'
      obtain ⟨other, listed, same, dependency⟩ := covers.all i old related.symm
      refine .inr (mem_pairs.mpr ⟨other, listed, ?_, .inr (by rw [same])⟩)
      rw [dependency]
      exact related.apart
    · have new := List.mem_singleton.mp new
      subst new
      obtain ⟨other, listed, same, dependency⟩ := covers.all j old' related
      refine .inr (mem_pairs.mpr ⟨other, listed, ?_, .inl (by rw [dependency])⟩)
      rw [dependency]
      exact related.apart.symm
    · rw [List.mem_singleton.mp new, List.mem_singleton.mp new'] at related
      exact absurd rfl related.apart
  · change ((s.correlations ++ correlate incident others).map pairOf).Nodup
    rw [pairs]
    apply List.nodup_append.mpr
    refine ⟨holds.correlated.single, pairs_nodup covers.distinct foreign, ?_⟩
    intro pair old pair' new same
    subst same
    obtain ⟨row, stored, about⟩ := List.mem_map.mp old
    obtain ⟨other, listed, apart, rfl | rfl⟩ := mem_pairs.mp new
    · have mine : row.incidentId = incident.id := congrArg Prod.fst about
      exact reserved.newId (mine ▸ holds.known row stored)
    · exact covers.fresh other listed apart old
  · intro row member
    change row.incidentId ∈ incidents.table.rows.map (·.id)
    rw [rows, List.map_append]
    rcases List.mem_append.mp member with old | new
    · exact List.mem_append_left _ (holds.known row old)
    · obtain ⟨other, listed, _, direction⟩ := mem_correlate.mp new
      simp only [bothDirections, List.mem_cons, List.not_mem_nil, or_false] at direction
      rcases direction with rfl | rfl
      · exact List.mem_append_right _ (List.mem_singleton_self _)
      · exact List.mem_append_left _ (covers.known other listed)

/-! ## What the others see of a step -/

/-- Apart from a commit, rows of incidents only close, and correlations stay. -/
structure Closes (s after : CorrelationStore) : Prop where
  rows : ∀ j ∈ after.incidents.table.rows, ∃ i ∈ s.incidents.table.rows, j.id = i.id ∧
    j.orgId = i.orgId ∧ j.dependencyId = i.dependencyId ∧ j.startedAt = i.startedAt ∧
      (j.status = .opened → i.status = .opened)
  ids : ∀ id, id ∈ after.incidents.table.rows.map (·.id) ↔
    id ∈ s.incidents.table.rows.map (·.id)
  correlations : after.correlations = s.correlations

theorem related_of_closed {i i' j j' : Incident} (related : Related i j)
    (left : i.orgId = i'.orgId ∧ i.dependencyId = i'.dependencyId ∧ i.startedAt = i'.startedAt ∧
      (i.status = .opened → i'.status = .opened))
    (right : j.orgId = j'.orgId ∧ j.dependencyId = j'.dependencyId ∧ j.startedAt = j'.startedAt ∧
      (j.status = .opened → j'.status = .opened)) : Related i' j' := by
  obtain ⟨⟨opened, opened'⟩, org, apart, near⟩ := related
  obtain ⟨leftOrg, leftDependency, leftStart, leftStatus⟩ := left
  obtain ⟨rightOrg, rightDependency, rightStart, rightStatus⟩ := right
  refine ⟨⟨leftStatus opened, rightStatus opened'⟩, ?_, ?_, ?_⟩
  · rw [← leftOrg, ← rightOrg]
    exact org
  · rw [← leftDependency, ← rightDependency]
    exact apart
  · unfold Near at near ⊢
    rw [← leftStart, ← rightStart]
    exact near

theorem StoreHolds.closes {after : CorrelationStore} (holds : StoreHolds orgOf s)
    (closes : Closes s after) : StoreHolds orgOf after := by
  refine ⟨?_, ⟨?_, ?_⟩, ?_⟩
  · intro j member
    obtain ⟨i, old, _, org, dependency, _⟩ := closes.rows j member
    rw [org, dependency]
    exact holds.owned i old
  · intro i left j right related
    obtain ⟨i', old, id, leftSame⟩ := closes.rows i left
    obtain ⟨j', old', _, rightSame⟩ := closes.rows j right
    rw [closes.correlations, id, rightSame.2.1]
    exact holds.correlated.complete i' old j' old' (related_of_closed related leftSame rightSame)
  · rw [closes.correlations]
    exact holds.correlated.single
  · intro row member
    rw [closes.correlations] at member
    rw [closes.ids]
    exact holds.known row member

theorem Reserved.closes {after : CorrelationStore} (reserved : Reserved orgOf s incident)
    (closes : Closes s after) (uncommitted : incident ∈ after.uncommitted) :
    Reserved orgOf after incident := by
  refine ⟨uncommitted, reserved.status, reserved.owned, ?_, ?_⟩
  · rw [closes.ids]
    exact reserved.newId
  · intro j member opened
    obtain ⟨i, old, _, _, dependency, _, status⟩ := closes.rows j member
    rw [dependency]
    exact reserved.onlyOpen i old (status opened)

theorem Covers.closes {after : CorrelationStore} (covers : Covers s incident others)
    (closes : Closes s after) : Covers after incident others := by
  refine ⟨?_, ?_, ?_, covers.distinct⟩
  · intro j member related
    obtain ⟨i, old, id, same⟩ := closes.rows j member
    obtain ⟨other, listed, here, dependency⟩ := covers.all i old
      (related_of_closed related ⟨rfl, rfl, rfl, fun opened => opened⟩ same)
    exact ⟨other, listed, here.trans id.symm, dependency.trans same.2.1.symm⟩
  · intro other listed
    rw [closes.ids]
    exact covers.known other listed
  · intro other listed apart
    rw [closes.correlations]
    exact covers.fresh other listed apart

/-- A phase survives a step that leaves its own row among the uncommitted ones. -/
theorem PhaseHolds.closes {after : CorrelationStore} {phase : CreationPhase}
    (holds : PhaseHolds orgOf s phase) (closes : Closes s after)
    (uncommitted : ∀ i ∈ held phase, i ∈ after.uncommitted) : PhaseHolds orgOf after phase := by
  cases phase with
  | inserted incident => exact Reserved.closes holds closes (uncommitted incident rfl)
  | listed incident others =>
    exact ⟨Reserved.closes holds.1 closes (uncommitted incident rfl), holds.2.closes closes⟩
  | _ => trivial

theorem PhaseHolds.uncommitted {phase : CreationPhase} (holds : PhaseHolds orgOf s phase)
    {i : Incident} (under : i ∈ held phase) : i ∈ s.uncommitted := by
  cases phase with
  | inserted incident =>
    cases under
    exact Reserved.uncommitted holds
  | listed incident others =>
    cases under
    exact holds.1.uncommitted
  | _ => cases under

theorem closes_refl {uncommitted : List Incident} :
    Closes s { s with uncommitted := uncommitted } :=
  ⟨fun j member => ⟨j, member, rfl, rfl, rfl, rfl, fun opened => opened⟩, fun _ => Iff.rfl, rfl⟩

/-- What the commit of one creation is to another one under way. -/
theorem PhaseHolds.commit {incidents : IncidentTable} {phase : CreationPhase}
    (holds : PhaseHolds orgOf s phase) (apart : Apart (.listed incident others) phase)
    (newId : incident.id ∉ s.incidents.table.rows.map (·.id))
    (rows : incidents.table.rows = s.incidents.table.rows ++ [incident]) :
    PhaseHolds orgOf { s.withdraw incident with
      incidents := incidents
      correlations := s.correlations ++ correlate incident others } phase := by
  have reserved {mine : Incident} (under : mine ∈ held phase) (old : Reserved orgOf s mine) :
      Reserved orgOf { s.withdraw incident with
        incidents := incidents
        correlations := s.correlations ++ correlate incident others } mine := by
    obtain ⟨ids, dependencies⟩ := apart.keys incident rfl mine under
    refine ⟨?_, old.status, old.owned, ?_, ?_⟩
    · exact List.mem_filter.mpr ⟨old.uncommitted, decide_eq_true ids.symm⟩
    · change mine.id ∉ incidents.table.rows.map (·.id)
      rw [rows, List.map_append, List.mem_append]
      rintro (there | new)
      · exact old.newId there
      · exact ids (List.mem_singleton.mp new).symm
    · intro i member status
      change i ∈ incidents.table.rows at member
      rw [rows] at member
      rcases List.mem_append.mp member with there | new
      · exact old.onlyOpen i there status
      · rw [List.mem_singleton.mp new]
        exact dependencies
  cases phase with
  | inserted mine => exact reserved rfl holds
  | listed mine theirs =>
    obtain ⟨old, covers⟩ := holds
    refine ⟨reserved rfl old, ?_, ?_, ?_, covers.distinct⟩
    · intro i member related
      change i ∈ incidents.table.rows at member
      rw [rows] at member
      rcases List.mem_append.mp member with there | new
      · exact covers.all i there related
      · rw [List.mem_singleton.mp new] at related
        exact absurd related.symm (apart.unrelated incident rfl mine rfl)
    · intro other listed
      change other.id ∈ incidents.table.rows.map (·.id)
      rw [rows, List.map_append]
      exact List.mem_append_left _ (covers.known other listed)
    · intro other listed away
      change _ ∉ (s.correlations ++ correlate incident others).map pairOf
      rw [List.map_append, List.mem_append]
      rintro (there | new)
      · exact covers.fresh other listed away there
      · obtain ⟨third, _, _, same | same⟩ := mem_pairs.mp new
        · exact newId ((Prod.mk.inj same).1 ▸ covers.known other listed)
        · exact (apart.keys incident rfl mine rfl).2 (Prod.mk.inj same).2.symm
  | _ => trivial

/-! ## One step -/

variable {w : Creations ι}

abbrev Invariant (orgOf : Uuid → Uuid) (w : Creations ι) : Prop :=
  World.Holds (StoreHolds orgOf) (fun _ shared phase => PhaseHolds orgOf shared phase) Apart w

abbrev KeepsAll (orgOf : Uuid → Uuid) (w : Creations ι) (i : ι)
    (after : CorrelationStore × CreationPhase) : Prop :=
  World.Keeps (StoreHolds orgOf) (fun _ shared phase => PhaseHolds orgOf shared phase) Apart w i
    after

theorem keeps_unmoved {i : ι} (holds : Invariant orgOf w) :
    KeepsAll orgOf w i (w.shared, w.locals i) :=
  ⟨holds.store, holds.own i, fun j _ => holds.own j, fun j other => holds.pair i j other.symm⟩

/-- The party goes to a phase in which it holds no row. -/
theorem keeps_unheld {i : ι} {phase : CreationPhase} (holds : Invariant orgOf w)
    (unheld : held phase = none) : KeepsAll orgOf w i (w.shared, phase) := by
  refine ⟨holds.store, ?_, fun j _ => holds.own j, fun _ _ => apart_of_not_held unheld⟩
  cases phase with
  | inserted incident => cases unheld
  | listed incident others => cases unheld
  | _ => trivial

theorem keeps_withdraw {i : ι} {incident : Incident} (holds : Invariant orgOf w)
    (under : incident ∈ held (w.locals i)) :
    KeepsAll orgOf w i (w.shared.withdraw incident, .idle) := by
  refine ⟨holds.store.closes closes_refl, trivial, ?_, fun _ _ => apart_of_not_held rfl⟩
  intro j other
  apply (holds.own j).closes closes_refl
  intro theirs listed
  have different := ((holds.pair i j other.symm).keys incident under theirs listed).1
  exact List.mem_filter.mpr ⟨(holds.own j).uncommitted listed, decide_eq_true different.symm⟩

theorem keeps_insert {i : ι} {incident : Incident} {incidents : IncidentTable}
    (holds : Invariant orgOf w) (opened : incident.status = .opened)
    (owned : incident.orgId = orgOf incident.dependencyId)
    (free : ¬ Waits w.shared incident.dependencyId incident.id)
    (success : insertIncident w.shared.incidents incident = .ok incidents) :
    KeepsAll orgOf w i
      ({ w.shared with uncommitted := incident :: w.shared.uncommitted }, .inserted incident) := by
  obtain ⟨newIdFree, rows⟩ := insertIncident_rows success
  refine ⟨holds.store.closes closes_refl, ⟨List.mem_cons_self, opened, owned, newIdFree, ?_⟩,
    ?_, ?_⟩
  · intro other member opened' same
    have stored : other ∈ incidents.table.rows := rows ▸ List.mem_append_left _ member
    have added : incident ∈ incidents.table.rows :=
      rows ▸ List.mem_append_right _ (List.mem_singleton_self _)
    have owner : other.orgId = incident.orgId := by
      rw [owned, ← same]
      exact holds.store.owned other member
    have equal := incidents.oneOpen other stored incident added opened' opened owner same
    exact newIdFree (equal ▸ List.mem_map_of_mem member)
  · intro j _
    apply (holds.own j).closes closes_refl
    exact fun theirs listed => List.mem_cons_of_mem _ ((holds.own j).uncommitted listed)
  · intro j _
    constructor
    · rintro mine ⟨⟩ theirs listed
      have stored := (holds.own j).uncommitted listed
      constructor
      · exact fun same => free ⟨theirs, stored, .inl same.symm⟩
      · exact fun same => free ⟨theirs, stored, .inr same.symm⟩
    · rintro mine ⟨⟩

theorem keeps_listOpen {i : ι} {incident : Incident} (holds : Invariant orgOf w)
    (here : w.locals i = .inserted incident) (quiet : Quiet w (i, .listOpen)) :
    KeepsAll orgOf w i
      (w.shared, .listed incident (listOpenInWindow w.shared.incidents incident)) := by
  have reserved := holds.own i
  rw [here] at reserved
  obtain ⟨alone, uncorrelated⟩ := quiet incident here
  refine ⟨holds.store, ⟨reserved, ?_, ?_, ?_, ?_⟩, fun j _ => holds.own j, ?_⟩
  · intro other member related
    refine ⟨other, mem_listOpenInWindow.mpr ⟨member, related.org.symm, related.near,
      related.opened.2, ?_⟩, rfl, rfl⟩
    exact fun same => reserved.newId (same ▸ List.mem_map_of_mem member)
  · exact fun other listed => List.mem_map_of_mem (mem_listOpenInWindow.mp listed).1
  · intro other listed apart
    obtain ⟨member, org, near, opened, _⟩ := mem_listOpenInWindow.mp listed
    exact uncorrelated other member ⟨⟨reserved.status, opened⟩, org.symm, apart.symm, near⟩
  · have unique : w.shared.incidents.table.rows.Pairwise (fun a b => a.id ≠ b.id) :=
      List.pairwise_map.mp w.shared.incidents.table.unique
    refine List.Pairwise.imp_of_mem ?_ (unique.filter _)
    intro a b first second ids
    obtain ⟨member, org, _, opened, _⟩ := mem_listOpenInWindow.mp first
    obtain ⟨member', org', _, opened', _⟩ := mem_listOpenInWindow.mp second
    exact ⟨ids, fun same => ids (w.shared.incidents.oneOpen a member b member' opened opened'
      (org.trans org'.symm) same)⟩
  · intro j other
    have before := holds.pair i j other.symm
    rw [here] at before
    refine ⟨before.keys, ?_⟩
    rintro mine ⟨⟩ theirs listed
    exact alone j other theirs listed

theorem keeps_commit {i : ι} {incident : Incident} {others : List Incident}
    {incidents : IncidentTable} (holds : Invariant orgOf w)
    (here : w.locals i = .listed incident others)
    (success : insertIncident w.shared.incidents incident = .ok incidents) :
    KeepsAll orgOf w i ({ w.shared.withdraw incident with
      incidents := incidents
      correlations := w.shared.correlations ++ correlate incident others }, .idle) := by
  have own := holds.own i
  rw [here] at own
  obtain ⟨reserved, covers⟩ := own
  refine ⟨holds.store.commit reserved covers success, trivial, ?_,
    fun _ _ => apart_of_not_held rfl⟩
  intro j other
  have apart := holds.pair i j other.symm
  rw [here] at apart
  exact (holds.own j).commit apart reserved.newId (insertIncident_rows success).2

theorem resolve_ids {s after : IncidentTable} {incidentId : Uuid} {now : Instant}
    (success : resolveIncident incidentId none now s = .ok after) :
    after.table.rows.map (·.id) = s.table.rows.map (·.id) := by
  obtain ⟨incident, _, success⟩ := bind_eq_ok success
  obtain ⟨_, _, success⟩ := bind_eq_ok success
  split at success
  · cases success
    rfl
  · unfold IncidentTable.update IncidentTable.flush at success
    split at success
    · cases success
      rw [Table.updateKey_rows, List.map_map]
      apply List.map_congr_left
      intro row _
      dsimp only [Function.comp]
      split <;> rfl
    · cases success

theorem keeps_resolve {i : ι} {incidentId : Uuid} {now : Instant} {incidents : IncidentTable}
    (holds : Invariant orgOf w)
    (success : resolveIncident incidentId none now w.shared.incidents = .ok incidents) :
    KeepsAll orgOf w i ({ w.shared with incidents := incidents }, w.locals i) := by
  have closes : Closes w.shared { w.shared with incidents := incidents } := by
    refine ⟨resolveIncident_rows success, fun id => ?_, rfl⟩
    rw [resolve_ids success]
  have own (j : ι) : PhaseHolds orgOf { w.shared with incidents := incidents } (w.locals j) :=
    (holds.own j).closes closes (fun _ listed => (holds.own j).uncommitted listed)
  exact ⟨holds.store.closes closes, own i, fun j _ => own j,
    fun j other => holds.pair i j other.symm⟩

theorem keeps_step (i : ι) (action : CreationAct) (holds : Invariant orgOf w)
    (quiet : Quiet w (i, action)) :
    KeepsAll orgOf w i (creationAct orgOf w.shared (w.locals i) action) := by
  cases action with
  | check dependencyId errorMessage newId =>
    simp only [creationAct]
    split
    · split
      · exact keeps_unheld holds rfl
      · exact keeps_unheld holds rfl
    · exact keeps_unmoved holds
  | insert now =>
    simp only [creationAct]
    split
    · next dependencyId errorMessage newId here =>
      split
      · exact keeps_unheld holds rfl
      split
      · exact keeps_unmoved holds
      · next free =>
        split
        · next incidents success => exact keeps_insert holds rfl rfl free success
        · exact keeps_unheld holds rfl
    · exact keeps_unmoved holds
  | listOpen =>
    simp only [creationAct]
    split
    · next incident here => exact keeps_listOpen holds here quiet
    · exact keeps_unmoved holds
  | commit =>
    simp only [creationAct]
    split
    · next incident others here =>
      split
      · next incidents success => exact keeps_commit holds here success
      · exact keeps_withdraw holds (here ▸ rfl)
    · exact keeps_unmoved holds
  | abort =>
    simp only [creationAct]
    split
    · next incident here => exact keeps_withdraw holds (here ▸ rfl)
    · next incident others here => exact keeps_withdraw holds (here ▸ rfl)
    · exact keeps_unheld holds rfl
  | resolve incidentId now =>
    simp only [creationAct]
    split
    · next incidents success => exact keeps_resolve holds success
    · exact keeps_unmoved holds

/-! ## Runs -/

variable [DecidableEq ι]

def beginning (dependencyId newId : Uuid) (now : Instant) : List CreationAct :=
  [.check dependencyId "timeout" newId, .insert now]

def creation (dependencyId newId : Uuid) (now : Instant) : List CreationAct :=
  beginning dependencyId newId now ++ [.listOpen, .commit]

def asParty (party : Bool) (actions : List CreationAct) : List (Bool × CreationAct) :=
  actions.map (fun action => (party, action))

def afterRun (run : List (Bool × CreationAct)) : CorrelationStore :=
  (Run.exec (World.move (creationStep (fun _ => 3))) opening run).shared

def sideBySide : List (Bool × CreationAct) :=
  asParty true (beginning 7 1 0) ++ asParty false (beginning 8 2 0) ++ asParty true [.listOpen] ++
    asParty false [.listOpen, .commit] ++ asParty true [.commit]

/-- The second dependency fails, recovers and fails again within the window. -/
def failingTwice : List (Bool × CreationAct) :=
  asParty true (creation 7 1 0) ++ asParty true (creation 8 2 (secondsToMicros 60)) ++
    asParty true [.resolve 2 (secondsToMicros 120)] ++
    asParty true (creation 8 3 (secondsToMicros 180))

end Reliastra.Guarantees.TemporalCorrelations
