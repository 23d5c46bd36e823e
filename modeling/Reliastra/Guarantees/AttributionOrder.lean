import Reliastra.Library.Run
import Reliastra.Guarantees.EvidenceReproducible
import Reliastra.Guarantees.IncidentStatus
import Reliastra.Source.Attribution.Resolution

/-!
# Attributions and the order of the outage

The engine reads what the outbox has been drained of, and which other incidents
are open, at the moment of the resolution. Two runs that are the same steps in two
orders attribute every incident alike when each resolution finds the events of the
other steps drained, the window without ties, and its temporal signal settled: no
overlapping incident was open to begin with, or one stays open.

The event of the check that resolves the incident itself is enqueued afterwards in
any order, so it is never read.
-/

namespace Reliastra.Guarantees.AttributionOrder

open Reliastra.Library Reliastra.Source Reliastra.Source.Attribution
open Reliastra.Source.Incidents Reliastra.Source.Evidence.Generation
open Reliastra.Guarantees.IncidentStatus Reliastra.Guarantees.EvidenceReproducible
open Api (Incident)

variable {φ : Type}

/-! ## The condition -/

/-- The incident a step resolves. -/
def resolvedId : OutageStep φ → Option Uuid
  | .resolve resolution => some resolution.incidentId
  | .enqueue _ => none
  | .drain _ => none

/-- The events a step puts into the outbox. -/
def enqueued : OutageStep φ → List (PendingObservation φ)
  | .resolve resolution => resolution.own.toList
  | .enqueue event => [event]
  | .drain _ => []

/-- The resolution closes this incident for the first time. -/
def Attributes (s : AttributionDatabase φ) (resolution : Resolution φ) (incident : Incident) :
    Prop :=
  s.incidents.table.get? resolution.incidentId = some incident ∧
    (∀ org ∈ resolution.orgId, incident.orgId = org) ∧
    ¬ (incident.status = .resolved ∧ incident.resolvedAt.isSome) ∧
    s.attributionResults.get? incident.id = none

/-- The window of observations of a resolution. -/
abbrev InWindow (resolution : Resolution φ) (incident : Incident) (observation : Observation φ) :
    Prop :=
  Selects incident.dependencyId "customer_check" incident.startedAt resolution.now observation

/-- Every event of the window is drained, but for the check's own. -/
def Drained (start : AttributionDatabase φ) (run : List (OutageStep φ)) (s : AttributionDatabase φ)
    (resolution : Resolution φ) (incident : Incident) : Prop :=
  (∀ event ∈ start.outbox, InWindow resolution incident event.observation →
      event.observation ∈ s.observations.rows) ∧
    ∀ step ∈ run, resolvedId step ≠ some resolution.incidentId → ∀ event ∈ enqueued step,
      InWindow resolution incident event.observation → event.observation ∈ s.observations.rows

/-- Observations of one time stamp come after a hundred later ones. -/
def Untied (s : AttributionDatabase φ) (resolution : Resolution φ) (incident : Incident) : Prop :=
  ∀ a ∈ s.observations.rows, ∀ b ∈ s.observations.rows,
    InWindow resolution incident a → InWindow resolution incident b →
    a ≠ b → a.timestamp = b.timestamp →
      100 ≤ (s.observations.rows.filter (fun o => InWindow resolution incident o)).countP
        (fun o => a.timestamp < o.timestamp)

/-- No overlapping incident is open, or one that the run does not resolve. -/
def Overlapped (start : AttributionDatabase φ) (run : List (OutageStep φ)) (incident : Incident) :
    Prop :=
  listOpenInWindow start.incidents incident = [] ∨
    ∃ other ∈ listOpenInWindow start.incidents incident,
      ∀ step ∈ run, resolvedId step ≠ some other.id

/-- A resolution is the only one of its incident, and its inputs are settled. -/
def Settled (start : AttributionDatabase φ) (run : List (OutageStep φ))
    (s : AttributionDatabase φ) : OutageStep φ → Prop
  | .resolve resolution =>
    (run.filterMap resolvedId).count resolution.incidentId = 1 ∧
      ∀ incident, Attributes start resolution incident →
        Drained start run s resolution incident ∧ Untied s resolution incident ∧
          Overlapped start run incident
  | .enqueue _ => True
  | .drain _ => True

/-! ## What a resolution does -/

variable {ops : FloatOps φ} {lib : EvidenceLibrary φ}
  {order : OrderBy (Observation.newestFirst (φ := φ))} {s t u : AttributionDatabase φ}
  {resolution : Resolution φ} {incident : Incident}

theorem get?_of_rewrites {before after : IncidentTable} {row : Incident}
    (rewrites : Rewrites before after incident row) (same : row.id = incident.id) {id : Uuid}
    (other : id ≠ incident.id) : after.table.get? id = before.table.get? id := by
  apply Option.ext
  intro r
  rw [Table.get?_eq_some_iff, Table.get?_eq_some_iff, rewrites r]
  constructor
  · rintro ⟨rfl | ⟨_, stored⟩, here⟩
    · exact absurd (here.symm.trans same) other
    · exact ⟨stored, here⟩
  · intro ⟨stored, here⟩
    refine ⟨.inr ⟨?_, stored⟩, here⟩
    rw [here]
    exact other

/-- The engine's row is stored where there was none, and nothing else changes. -/
theorem attributeIncident_effect (ops : FloatOps φ) (lib : EvidenceLibrary φ)
    (order : OrderBy (Observation.newestFirst (φ := φ))) (newId : Uuid) (incident : Incident)
    (now : Instant) (s : AttributionDatabase φ) :
    ∃ results, attributeIncident ops lib order newId incident now s =
        { s with attributionResults := results } ∧
      (∀ id, id ≠ incident.id → results.get? id = s.attributionResults.get? id) ∧
      results.get? incident.id = some ((s.attributionResults.get? incident.id).getD
        (computeAttribution ops lib incident (inputsOf ops order s incident now) newId)) := by
  unfold attributeIncident
  cases found : s.attributionResults.get? incident.id with
  | some row => exact ⟨s.attributionResults, rfl, fun _ _ => rfl, found⟩
  | none =>
    have fresh := (Table.get?_eq_none_iff _ _).mp found
    have absent : (computeAttribution ops lib incident (inputsOf ops order s incident now)
        newId).key ∉ s.attributionResults.rows.map StoredAttribution.key := by
      intro member
      obtain ⟨row, stored, same⟩ := List.mem_map.mp member
      exact fresh row stored same
    obtain ⟨results, inserted⟩ := (Table.insert_isSome_iff _ _).mpr absent
    refine ⟨results, ?_, ?_, ?_⟩
    · simp only [inserted]
    · intro id other
      rw [Table.get?_insert inserted]
      exact if_neg (Ne.symm other)
    · rw [Table.get?_insert inserted]
      exact if_pos rfl

/-- What the step of a resolution changes. -/
structure ResolveEffect (ops : FloatOps φ) (lib : EvidenceLibrary φ)
    (order : OrderBy (Observation.newestFirst (φ := φ))) (s : AttributionDatabase φ)
    (resolution : Resolution φ) (t : AttributionDatabase φ) : Prop where
  correlations : t.correlations = s.correlations
  observations : t.observations = s.observations
  outbox : t.outbox = s.outbox ∨ t.outbox = s.outbox ++ resolution.own.toList
  opened : ∀ row ∈ t.incidents.table.rows, row.status = .opened → row ∈ s.incidents.table.rows
  incident : ∀ id, id ≠ resolution.incidentId →
    t.incidents.table.get? id = s.incidents.table.get? id
  attribution : ∀ id, id ≠ resolution.incidentId →
    t.attributionResults.get? id = s.attributionResults.get? id
  attributed : ∀ row, s.attributionResults.get? resolution.incidentId = some row →
    t.attributionResults.get? resolution.incidentId = some row
  unattributed : (∀ incident, ¬ Attributes s resolution incident) →
    t.attributionResults.get? resolution.incidentId =
      s.attributionResults.get? resolution.incidentId
  computed : ∀ incident, Attributes s resolution incident → ∃ incidents,
    Rewrites s.incidents incidents incident (resolvedRow resolution.now incident) ∧
      t.attributionResults.get? resolution.incidentId =
        some (computeAttribution ops lib (resolvedRow resolution.now incident)
          (inputsOf ops order { s with incidents := incidents }
            (resolvedRow resolution.now incident) resolution.now) resolution.newId)

/-- A step that attributes nothing, and leaves the incidents as they are. -/
theorem ResolveEffect.of_idle (outbox : u.outbox = s.outbox ∨
      u.outbox = s.outbox ++ resolution.own.toList)
    (same : u = { s with outbox := u.outbox })
    (idle : ∀ incident, ¬ Attributes s resolution incident) :
    ResolveEffect ops lib order s resolution u := by
  rw [same]
  exact ⟨rfl, rfl, outbox, fun _ stored _ => stored, fun _ _ => rfl, fun _ _ => rfl,
    fun _ stored => stored, fun _ => rfl, fun incident attributes => absurd attributes (idle incident)⟩

theorem resolve_effect (ops : FloatOps φ) (lib : EvidenceLibrary φ)
    (order : OrderBy (Observation.newestFirst (φ := φ))) (s : AttributionDatabase φ)
    (resolution : Resolution φ) :
    ResolveEffect ops lib order s resolution (outageStep ops lib order s (.resolve resolution)) := by
  unfold outageStep resolveAndAttribute
  by_cases stored : ∃ i ∈ s.incidents.table.rows, i.id = resolution.incidentId ∧
      ∀ org ∈ resolution.orgId, i.orgId = org
  · obtain ⟨incident, place, here, owner⟩ := stored
    have found : s.incidents.table.get? resolution.incidentId = some incident :=
      (Table.get?_eq_some_iff _ _ _).mpr ⟨place, here⟩
    obtain ⟨incidents, success, rewrites⟩ := resolveIncident_stored resolution.now place owner
    rw [here] at success
    simp only [found, Api.require, success, bind, Except.bind, pure, Except.pure]
    split
    · next after done =>
      split at done
      · next closed =>
        cases done
        apply ResolveEffect.of_idle (.inr rfl) rfl
        rintro other ⟨there, _, opened, _⟩
        rw [found] at there
        cases there
        exact opened closed
      · next opened =>
        rw [if_neg opened] at rewrites
        cases done
        obtain ⟨results, equal, others, own⟩ := attributeIncident_effect ops lib order
          resolution.newId (resolvedRow resolution.now incident) resolution.now
          { s with incidents := incidents }
        have written : attributeIncident ops lib order resolution.newId
            { incident with status := .resolved, resolvedAt := some resolution.now } resolution.now
            { s with incidents := incidents } = _ := equal
        have sameId : (resolvedRow resolution.now incident).id = resolution.incidentId := here
        rw [sameId] at others own
        rw [written]
        refine ⟨rfl, rfl, .inr rfl, ?_, ?_, others, ?_, ?_, ?_⟩
        · intro row member isOpen
          rcases (rewrites row).mp member with rfl | ⟨_, old⟩
          · cases isOpen
          · exact old
        · intro id other
          apply get?_of_rewrites rewrites rfl
          rw [here]
          exact other
        · intro row before
          have before : { s with incidents := incidents }.attributionResults.get?
              resolution.incidentId = some row := before
          rw [own, before]
          rfl
        · intro none
          cases before : s.attributionResults.get? resolution.incidentId with
          | none =>
            refine absurd ⟨found, owner, opened, ?_⟩ (none incident)
            rw [here]
            exact before
          | some row =>
            have before : { s with incidents := incidents }.attributionResults.get?
              resolution.incidentId = some row := before
            rw [own, before]
            rfl
        · rintro other ⟨there, _, _, unattributed⟩
          rw [found] at there
          cases there
          rw [here] at unattributed
          refine ⟨incidents, rewrites, ?_⟩
          have before : { s with incidents := incidents }.attributionResults.get?
              resolution.incidentId = none := unattributed
          rw [own, before]
          rfl
    · next failed =>
      split at failed <;> cases failed
  · have missing : ∀ i ∈ s.incidents.table.rows, i.id = resolution.incidentId →
        ¬ ∀ org ∈ resolution.orgId, i.orgId = org :=
      fun i place here owner => stored ⟨i, place, here, owner⟩
    have idle : ∀ incident, ¬ Attributes s resolution incident := by
      rintro incident ⟨found, owner, _⟩
      obtain ⟨place, here⟩ := (Table.get?_eq_some_iff _ _ _).mp found
      exact missing incident place here owner
    obtain ⟨failure, failed⟩ := resolveIncident_missing resolution.now missing
    cases found : s.incidents.table.get? resolution.incidentId with
    | none =>
      simp only [found, Api.require, bind, Except.bind]
      exact .of_idle (.inl rfl) rfl idle
    | some incident =>
      simp only [found, Api.require, failed, bind, Except.bind]
      exact .of_idle (.inl rfl) rfl idle

/-! ## What a run leaves -/

/-- What a run of these steps leaves as it was. -/
structure Kept (s : AttributionDatabase φ) (steps : List (OutageStep φ))
    (t : AttributionDatabase φ) : Prop where
  correlations : t.correlations = s.correlations
  opened : ∀ row ∈ t.incidents.table.rows, row.status = .opened → row ∈ s.incidents.table.rows
  incident : ∀ id, (∀ step ∈ steps, resolvedId step ≠ some id) →
    t.incidents.table.get? id = s.incidents.table.get? id
  attribution : ∀ id, (∀ step ∈ steps, resolvedId step ≠ some id) →
    t.attributionResults.get? id = s.attributionResults.get? id
  attributed : ∀ id row, s.attributionResults.get? id = some row →
    t.attributionResults.get? id = some row
  earlier : ∀ o ∈ s.observations.rows, o ∈ t.observations.rows
  observed : ∀ o ∈ t.observations.rows, o ∈ s.observations.rows ∨
    ∃ event ∈ s.outbox ++ steps.flatMap enqueued, event.observation = o
  outbox : ∀ event ∈ t.outbox, event ∈ s.outbox ++ steps.flatMap enqueued

theorem Kept.refl (s : AttributionDatabase φ) : Kept s [] s where
  correlations := rfl
  opened _ stored _ := stored
  incident _ _ := rfl
  attribution _ _ := rfl
  attributed _ _ stored := stored
  earlier _ stored := stored
  observed _ stored := .inl stored
  outbox event pending := by simpa using pending

theorem Kept.trans {first second : List (OutageStep φ)} (here : Kept s first t)
    (there : Kept t second u) : Kept s (first ++ second) u where
  correlations := there.correlations.trans here.correlations
  opened row stored isOpen := here.opened row (there.opened row stored isOpen) isOpen
  incident id other := by
    have left := here.incident id (fun step member => other step (by simp [member]))
    have right := there.incident id (fun step member => other step (by simp [member]))
    exact right.trans left
  attribution id other := by
    have left := here.attribution id (fun step member => other step (by simp [member]))
    have right := there.attribution id (fun step member => other step (by simp [member]))
    exact right.trans left
  attributed id row stored := there.attributed id row (here.attributed id row stored)
  earlier o stored := there.earlier o (here.earlier o stored)
  observed o stored := by
    rw [List.flatMap_append, ← List.append_assoc]
    rcases there.observed o stored with early | ⟨event, pending, rfl⟩
    · rcases here.observed o early with earliest | ⟨event, pending, rfl⟩
      · exact .inl earliest
      · exact .inr ⟨event, List.mem_append_left _ pending, rfl⟩
    · rcases List.mem_append.mp pending with old | new
      · exact .inr ⟨event, List.mem_append_left _ (here.outbox event old), rfl⟩
      · exact .inr ⟨event, List.mem_append_right _ new, rfl⟩
  outbox event pending := by
    rw [List.flatMap_append, ← List.append_assoc]
    rcases List.mem_append.mp (there.outbox event pending) with old | new
    · exact List.mem_append_left _ (here.outbox event old)
    · exact List.mem_append_right _ new

/-- A step that leaves incidents, correlations and results alone. -/
theorem Kept.of_outbox {step : OutageStep φ} (incidents : t.incidents = s.incidents)
    (correlations : t.correlations = s.correlations)
    (results : t.attributionResults = s.attributionResults)
    (earlier : ∀ o ∈ s.observations.rows, o ∈ t.observations.rows)
    (observed : ∀ o ∈ t.observations.rows, o ∈ s.observations.rows ∨
      ∃ event ∈ s.outbox, event.observation = o)
    (outbox : ∀ event ∈ t.outbox, event ∈ s.outbox ++ enqueued step) : Kept s [step] t where
  correlations := correlations
  opened row stored _ := by
    rw [incidents] at stored
    exact stored
  incident _ _ := by rw [incidents]
  attribution _ _ := by rw [results]
  attributed _ _ stored := by
    rw [results]
    exact stored
  earlier := earlier
  observed o stored := by
    rcases observed o stored with early | ⟨event, pending, same⟩
    · exact .inl early
    · exact .inr ⟨event, List.mem_append_left _ pending, same⟩
  outbox event pending := by simpa using outbox event pending

theorem drain_kept (s : AttributionDatabase φ) (eventId : Uuid) :
    Kept s [.drain eventId] (drainEvent s eventId) := by
  have idle : Kept s [.drain eventId] s :=
    .of_outbox rfl rfl rfl (fun _ stored => stored) (fun _ stored => .inl stored)
      (fun _ pending => List.mem_append_left _ pending)
  unfold drainEvent
  cases found : s.outbox.find? (fun event => event.id = eventId) with
  | none => exact idle
  | some event =>
    cases inserted : s.observations.insert event.observation with
    | none =>
      simp only [inserted]
      exact idle
    | some rows =>
      obtain ⟨_, appended⟩ := Table.insert_eq_some inserted
      simp only [inserted]
      refine .of_outbox rfl rfl rfl ?_ ?_ ?_
      · intro o stored
        simp only [appended]
        exact List.mem_append_left _ stored
      · intro o stored
        simp only [appended] at stored
        rcases List.mem_append.mp stored with early | drained
        · exact .inl early
        · rw [List.mem_singleton] at drained
          exact .inr ⟨event, List.mem_of_find?_eq_some found, drained.symm⟩
      · intro other pending
        exact List.mem_append_left _ (List.mem_filter.mp pending).1

theorem resolve_kept (s : AttributionDatabase φ) (resolution : Resolution φ) :
    Kept s [.resolve resolution] (outageStep ops lib order s (.resolve resolution)) := by
  have effect := resolve_effect ops lib order s resolution
  refine ⟨effect.correlations, effect.opened, ?_, ?_, ?_, ?_, ?_, ?_⟩
  · intro id other
    apply effect.incident
    rintro rfl
    exact other _ List.mem_cons_self rfl
  · intro id other
    apply effect.attribution
    rintro rfl
    exact other _ List.mem_cons_self rfl
  · intro id row stored
    by_cases here : id = resolution.incidentId
    · rw [here] at stored ⊢
      exact effect.attributed row stored
    · rw [effect.attribution id here]
      exact stored
  · intro o stored
    rw [effect.observations]
    exact stored
  · intro o stored
    rw [effect.observations] at stored
    exact .inl stored
  · intro event pending
    rcases effect.outbox with same | appended
    · rw [same] at pending
      exact List.mem_append_left _ pending
    · rw [appended] at pending
      simpa [enqueued] using pending

theorem step_kept (s : AttributionDatabase φ) (step : OutageStep φ) :
    Kept s [step] (outageStep ops lib order s step) := by
  cases step with
  | enqueue event =>
    exact .of_outbox rfl rfl rfl (fun _ stored => stored) (fun _ stored => .inl stored)
      (fun _ pending => pending)
  | drain eventId => exact drain_kept s eventId
  | resolve resolution => exact resolve_kept s resolution

theorem run_kept (ops : FloatOps φ) (lib : EvidenceLibrary φ)
    (order : OrderBy (Observation.newestFirst (φ := φ))) (s : AttributionDatabase φ)
    (steps : List (OutageStep φ)) :
    Kept s steps (Run.exec (outageStep ops lib order) s steps) := by
  induction steps generalizing s with
  | nil => exact Kept.refl s
  | cons step rest ih => exact (step_kept s step).trans (ih _)

/-! ## The inputs of a resolution -/

theorem alone_split {run before after : List (OutageStep φ)}
    (once : (run.filterMap resolvedId).count resolution.incidentId = 1)
    (split : run = before ++ .resolve resolution :: after) :
    (∀ step ∈ before, resolvedId step ≠ some resolution.incidentId) ∧
      ∀ step ∈ after, resolvedId step ≠ some resolution.incidentId := by
  have here : resolvedId (.resolve resolution) = some resolution.incidentId := rfl
  rw [split, List.filterMap_append, List.filterMap_cons_some here, List.count_append,
    List.count_cons_self] at once
  have left : (before.filterMap resolvedId).count resolution.incidentId = 0 := by omega
  have right : (after.filterMap resolvedId).count resolution.incidentId = 0 := by omega
  rw [List.count_eq_zero] at left right
  constructor
  · intro step member resolves
    exact left (List.mem_filterMap.mpr ⟨step, member, resolves⟩)
  · intro step member resolves
    exact right (List.mem_filterMap.mpr ⟨step, member, resolves⟩)

theorem Kept.attributes_iff {before : List (OutageStep φ)} (kept : Kept s before t)
    (alone : ∀ step ∈ before, resolvedId step ≠ some resolution.incidentId) :
    Attributes t resolution incident ↔ Attributes s resolution incident := by
  unfold Attributes
  rw [kept.incident _ alone]
  apply and_congr_right
  intro found
  have here := ((Table.get?_eq_some_iff _ _ _).mp found).2
  rw [here, kept.attribution _ alone]

theorem mem_listOpenInWindow {table : IncidentTable} {other : Incident} :
    other ∈ listOpenInWindow table incident ↔ other ∈ table.table.rows ∧
      other.orgId = incident.orgId ∧ Near incident other ∧ other.status = .opened ∧
        other.id ≠ incident.id := by
  simp [listOpenInWindow]

/-- Whether an overlapping incident is open at the resolution was settled at the start. -/
theorem others_settled {run before : List (OutageStep φ)} (kept : Kept s before t)
    (inside : ∀ step ∈ before, step ∈ run) (overlapped : Overlapped s run incident)
    {incidents : IncidentTable} {now : Instant}
    (rewrites : Rewrites t.incidents incidents incident (resolvedRow now incident)) :
    listOpenInWindow incidents (resolvedRow now incident) = [] ↔
      listOpenInWindow s.incidents incident = [] := by
  have listed (other : Incident) :
      other ∈ listOpenInWindow incidents (resolvedRow now incident) ↔
        other ∈ listOpenInWindow t.incidents incident := by
    rw [mem_listOpenInWindow, mem_listOpenInWindow, rewrites other]
    constructor
    · rintro ⟨rfl | ⟨_, stored⟩, rest⟩
      · exact absurd rfl rest.2.2.2
      · exact ⟨stored, rest⟩
    · intro ⟨stored, rest⟩
      exact ⟨.inr ⟨rest.2.2.2, stored⟩, rest⟩
  constructor
  · intro none
    rcases overlapped with empty | ⟨other, open_, unresolved⟩
    · exact empty
    · exfalso
      obtain ⟨stored, rest⟩ := mem_listOpenInWindow.mp open_
      have same := kept.incident other.id (fun step member => unresolved step (inside step member))
      have found := (Table.get?_eq_some_iff _ _ _).mpr ⟨stored, rfl⟩
      rw [← same] at found
      have still := (Table.get?_eq_some_iff _ _ _).mp found
      have member := (listed other).mpr (mem_listOpenInWindow.mpr ⟨still.1, rest⟩)
      rw [none] at member
      cases member
  · intro none
    rw [List.eq_nil_iff_forall_not_mem]
    intro other member
    obtain ⟨stored, org, near, isOpen, different⟩ := mem_listOpenInWindow.mp ((listed other).mp member)
    have before := mem_listOpenInWindow.mpr
      ⟨kept.opened other stored isOpen, org, near, isOpen, different⟩
    rw [none] at before
    cases before

/-- What one order has put into the window, another has drained. -/
theorem window_subset {run before before' : List (OutageStep φ)} (kept : Kept s before t)
    (kept' : Kept s before' u) (inside : ∀ step ∈ before, step ∈ run)
    (alone : ∀ step ∈ before, resolvedId step ≠ some resolution.incidentId)
    (drained : Drained s run u resolution incident) {o : Observation φ}
    (stored : o ∈ t.observations.rows) (selected : InWindow resolution incident o) :
    o ∈ u.observations.rows := by
  rcases kept.observed o stored with early | ⟨event, pending, rfl⟩
  · exact kept'.earlier o early
  · rcases List.mem_append.mp pending with old | new
    · exact drained.1 event old selected
    · obtain ⟨step, member, put⟩ := List.mem_flatMap.mp new
      exact drained.2 step (inside step member) (alone step member) event put selected

/-- The engine only asks whether there are overlapping incidents. -/
theorem computeAttribution_eq {inputs inputs' : AttributionInputs φ} (newId : Uuid)
    (others : inputs.others = [] ↔ inputs'.others = [])
    (correlations : inputs.correlations = inputs'.correlations)
    (observations : inputs.observations = inputs'.observations)
    (infrastructure : inputs.infrastructureOk = inputs'.infrastructureOk) :
    computeAttribution ops lib incident inputs newId =
      computeAttribution ops lib incident inputs' newId := by
  have same : scores ops inputs = scores ops inputs' := by
    funext signal
    cases signal with
    | temporal => simp only [scores, signalTemporal, others]
    | endpointOverlap => simp only [scores, correlations]
    | latencyCorrelation => simp only [scores, observations]
    | errorPattern => simp only [scores, observations]
    | infrastructureBaseline => simp only [scores, infrastructure]
  simp only [computeAttribution, same, observations, infrastructure]

/-! ## Any two orders -/

/-- In the state a run reaches before the resolution, its step is settled. -/
theorem settled_at {run before after : List (OutageStep φ)}
    (split : run = before ++ .resolve resolution :: after)
    (settled : Run.AllSteps (outageStep ops lib order) (Settled s run) s run) :
    Settled s run (Run.exec (outageStep ops lib order) s before) (.resolve resolution) :=
  (Run.allSteps_iff_split s run).mp settled before (.resolve resolution) after split

/-- The attribution of a run is the one its only resolution leaves. -/
theorem attribution_of_split {run before after : List (OutageStep φ)}
    (split : run = before ++ .resolve resolution :: after)
    (alone : ∀ step ∈ after, resolvedId step ≠ some resolution.incidentId) :
    (Run.exec (outageStep ops lib order) s run).attributionResults.get? resolution.incidentId =
      (outageStep ops lib order (Run.exec (outageStep ops lib order) s before)
        (.resolve resolution)).attributionResults.get? resolution.incidentId := by
  rw [split, Run.exec_append, Run.exec_cons]
  exact (run_kept _ _ _ _ after).attribution _ alone

/-- One set of steps attributes every incident alike in any two orders in which
every resolution is settled, whatever order the database gives tied rows in. -/
theorem attribution_order_free (ops : FloatOps φ) (lib : EvidenceLibrary φ)
    (order order' : OrderBy (Observation.newestFirst (φ := φ))) (s : AttributionDatabase φ)
    (one two : List (OutageStep φ)) (perm : one.Perm two)
    (settled : Run.AllSteps (outageStep ops lib order) (Settled s one) s one)
    (settled' : Run.AllSteps (outageStep ops lib order') (Settled s two) s two) (id : Uuid) :
    (Run.exec (outageStep ops lib order) s one).attributionResults.get? id =
      (Run.exec (outageStep ops lib order') s two).attributionResults.get? id := by
  by_cases resolved : ∃ step ∈ one, resolvedId step = some id
  · obtain ⟨step, member, resolves⟩ := resolved
    obtain ⟨resolution, rfl, rfl⟩ : ∃ resolution : Resolution φ,
        step = .resolve resolution ∧ resolution.incidentId = id := by
      cases step with
      | resolve resolution => exact ⟨resolution, rfl, Option.some.inj resolves⟩
      | enqueue event => cases resolves
      | drain eventId => cases resolves
    obtain ⟨before, after, split⟩ := List.append_of_mem member
    obtain ⟨before', after', split'⟩ := List.append_of_mem (perm.mem_iff.mp member)
    obtain ⟨once, inputs⟩ := settled_at split settled
    obtain ⟨once', inputs'⟩ := settled_at split' settled'
    obtain ⟨alone, aloneAfter⟩ := alone_split once split
    obtain ⟨alone', aloneAfter'⟩ := alone_split once' split'
    rw [attribution_of_split split aloneAfter, attribution_of_split split' aloneAfter']
    have kept := run_kept ops lib order s before
    have kept' := run_kept ops lib order' s before'
    generalize Run.exec (outageStep ops lib order) s before = t at kept inputs ⊢
    generalize Run.exec (outageStep ops lib order') s before' = u at kept' inputs' ⊢
    have effect := resolve_effect ops lib order t resolution
    have effect' := resolve_effect ops lib order' u resolution
    by_cases attributes : ∃ incident, Attributes s resolution incident
    · obtain ⟨incident, attributes⟩ := attributes
      obtain ⟨drained, untied, overlapped⟩ := inputs incident attributes
      obtain ⟨drained', _, overlapped'⟩ := inputs' incident attributes
      obtain ⟨incidents, rewrites, left⟩ := effect.computed incident
        ((kept.attributes_iff alone).mpr attributes)
      obtain ⟨incidents', rewrites', right⟩ := effect'.computed incident
        ((kept'.attributes_iff alone').mpr attributes)
      rw [left, right]
      congr 1
      have inside : ∀ step ∈ before, step ∈ one := fun step here => by simp [split, here]
      have inside' : ∀ step ∈ before', step ∈ two := fun step here => by simp [split', here]
      apply computeAttribution_eq
      · have settledOthers := others_settled kept inside overlapped rewrites
        exact settledOthers.trans (others_settled kept' inside' overlapped' rewrites').symm
      · simp only [inputsOf, getCorrelations, kept.correlations, kept'.correlations]
      · apply listForSource_eq
        · apply (List.perm_ext_iff_of_nodup (t.observations.unique.of_map.filter _)
            (u.observations.unique.of_map.filter _)).mpr
          intro o
          rw [List.mem_filter, List.mem_filter, decide_eq_true_iff]
          constructor
          · intro ⟨stored, selected⟩
            exact ⟨window_subset kept kept' (fun step here => perm.mem_iff.mp (inside step here))
              alone drained' stored selected, selected⟩
          · intro ⟨stored, selected⟩
            exact ⟨window_subset kept' kept (fun step here => perm.mem_iff.mpr (inside' step here))
              alone' drained stored selected, selected⟩
        · exact untied
      · rfl
    · have idle : ∀ incident, ¬ Attributes s resolution incident :=
        fun incident closes => attributes ⟨incident, closes⟩
      rw [effect.unattributed (fun incident closes =>
          idle incident ((kept.attributes_iff alone).mp closes)),
        effect'.unattributed (fun incident closes =>
          idle incident ((kept'.attributes_iff alone').mp closes)),
        kept.attribution _ alone, kept'.attribution _ alone']
  · have left := (run_kept ops lib order s one).attribution id
      (fun step member resolves => resolved ⟨step, member, resolves⟩)
    have right := (run_kept ops lib order' s two).attribution id
      (fun step member resolves => resolved ⟨step, perm.mem_iff.mpr member, resolves⟩)
    exact left.trans right.symm

/-! ## Orders that differ -/

/-- Floats in ten-thousandths, which the numbers below are. -/
def tenThousandths : FloatOps Nat where
  literal text :=
    match text with
    | "1.0" => 10000
    | "0.5" => 5000
    | "0.20" => 2000
    | "0.25" => 2500
    | "0.15" => 1500
    | _ => 0
  ratio a b := a * 10000 / b
  sub a b := a - b
  add a b := a + b
  mul a b := a * b / 10000
  div a b := a * 10000 / b
  square a := a * a / 10000
  sqrt a := Nat.sqrt (a * 10000)
  sum values := values.sum
  le a b := decide (a ≤ b)
  lt a b := decide (a < b)
  round value digits := (value + 10 ^ (4 - digits) / 2) / 10 ^ (4 - digits) * 10 ^ (4 - digits)

def sampleOutage (id orgId dependencyId : Uuid) (seconds : Int) : Incident :=
  ⟨id, orgId, dependencyId, secondsToMicros seconds, none, "major", .opened, "unknown", none⟩

/-- The check of the first outage times out after two minutes. -/
def lateObservation : PendingObservation Nat :=
  ⟨8, ⟨9, secondsToMicros 120, "customer_check", some 3, "us-east", "https://example.org", 300000,
    none, some "timeout", some "timed out", none⟩⟩

/-- The outages of two organizations, or of one. -/
def outages (otherOrg : Uuid) : AttributionDatabase Nat where
  incidents := ⟨⟨[sampleOutage 1 2 3 0, sampleOutage 4 otherOrg 5 60], by simp [sampleOutage]⟩, by
    intro i stored j stored' _ _ _ same
    simp only [List.mem_cons, List.not_mem_nil, or_false] at stored stored'
    rcases stored with rfl | rfl <;> rcases stored' with rfl | rfl
    · rfl
    · cases same
    · cases same
    · rfl⟩
  dependencies := .empty
  correlations := []
  attributionResults := .empty
  observations := .empty
  outbox := [lateObservation]

def recovery (incidentId orgId : Uuid) (seconds : Int) (newId : Uuid) : OutageStep Nat :=
  .resolve ⟨incidentId, some orgId, secondsToMicros seconds, newId, none⟩

def after (s : AttributionDatabase Nat) (run : List (OutageStep Nat)) : AttributionDatabase Nat :=
  Run.exec (outageStep tenThousandths EvidenceHash.sampleLibrary (OrderBy.stable _)) s run

/-- The recovery of an outage that has no overlap, once nothing of its window is pending. -/
theorem recovery_settled {run : List (OutageStep Nat)} {s : AttributionDatabase Nat}
    (incident : Incident) (orgId : Uuid) (seconds : Int) (newId : Uuid)
    (stored : (outages 7).incidents.table.get? incident.id = some incident)
    (once : (run.filterMap resolvedId).count incident.id = 1)
    (silent : ∀ step ∈ run, enqueued step = [])
    (drained : incident.dependencyId = 3 → lateObservation.observation ∈ s.observations.rows)
    (few : s.observations.rows.length ≤ 1)
    (apart : listOpenInWindow (outages 7).incidents incident = []) :
    Settled (outages 7) run s (recovery incident.id orgId seconds newId) := by
  refine ⟨once, ?_⟩
  intro other ⟨found, _⟩
  have same : other = incident := Option.some.inj (found.symm.trans stored)
  subst same
  refine ⟨⟨?_, ?_⟩, ?_, .inl apart⟩
  · intro event pending selected
    have here : event = lateObservation := List.mem_singleton.mp pending
    subst here
    exact drained (Option.some.inj selected.1).symm
  · intro step member _ event put
    rw [silent step member] at put
    cases put
  · intro a member b member' _ _ different
    match rows : s.observations.rows, few with
    | [], _ =>
      rw [rows] at member
      cases member
    | [row], _ =>
      rw [rows, List.mem_singleton] at member member'
      exact absurd (member.trans member'.symm) different

def drainedFirst : List (OutageStep Nat) :=
  [.drain 8, recovery 1 2 300 11, recovery 4 7 310 12]

def drainedBetween : List (OutageStep Nat) :=
  [recovery 4 7 310 12, .drain 8, recovery 1 2 300 11]

theorem attribution_order_free_sample :
    (after (outages 7) drainedFirst).attributionResults.get? 1 =
      (after (outages 7) drainedBetween).attributionResults.get? 1 := by
  have perm : drainedFirst.Perm drainedBetween := by
    change ([.drain 8, recovery 1 2 300 11] ++ [recovery 4 7 310 12]).Perm
      ([recovery 4 7 310 12] ++ [.drain 8, recovery 1 2 300 11])
    exact List.perm_append_comm
  have silent : ∀ step ∈ drainedFirst, enqueued step = [] := by
    simp [drainedFirst, recovery, enqueued]
  have silent' : ∀ step ∈ drainedBetween, enqueued step = [] := by
    simp [drainedBetween, recovery, enqueued]
  have elsewhere : (sampleOutage 4 7 5 60).dependencyId ≠ 3 := by decide
  apply attribution_order_free _ _ _ _ _ _ _ perm
  · refine ⟨trivial, ?_, ?_, trivial⟩
    · exact recovery_settled (sampleOutage 1 2 3 0) 2 300 11 rfl rfl silent
        (fun _ => List.mem_singleton_self _) (by decide) (by decide)
    · exact recovery_settled (sampleOutage 4 7 5 60) 7 310 12 rfl rfl silent
        (fun other => absurd other elsewhere) (by decide) (by decide)
  · refine ⟨?_, trivial, ?_, trivial⟩
    · exact recovery_settled (sampleOutage 4 7 5 60) 7 310 12 rfl rfl silent'
        (fun other => absurd other elsewhere) (by decide) (by decide)
    · exact recovery_settled (sampleOutage 1 2 3 0) 2 300 11 rfl rfl silent'
        (fun _ => List.mem_singleton_self _) (by decide) (by decide)

/-- The confidence of the first outage depends on which outage is resolved first,
and on whether its check has been drained. -/
theorem orders_disagree :
    ((after (outages 2) [recovery 1 2 300 11, recovery 4 2 310 12]).attributionResults.get? 1).map
        (·.confidenceScore) = some 350000 ∧
      ((after (outages 2) [recovery 4 2 310 12, recovery 1 2 300 11]).attributionResults.get? 1).map
        (·.confidenceScore) = some 150000 ∧
      ((after (outages 7) [.drain 8, recovery 1 2 300 11]).attributionResults.get? 1).map
        (·.confidenceScore) = some 300000 ∧
      ((after (outages 7) [recovery 1 2 300 11, .drain 8]).attributionResults.get? 1).map
        (·.confidenceScore) = some 150000 := by
  decide

end Reliastra.Guarantees.AttributionOrder
