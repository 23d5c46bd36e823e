import Reliastra.Library.Interleaving
import Reliastra.Source.Incidents.Lifecycle

/-!
# Resolutions of one incident side by side

`resolve_incident` of `app/modules/incidents/service.py`, statement by statement,
as the recovery branch of `execute_check` and `update_incident` reach it, each in
a READ COMMITTED transaction of its own. A recovery locks the row of its
dependency before it looks for the open incident. The object a session has read is
not read again, so the test for an earlier resolution is made on that read; an
`UPDATE` waits while another transaction has written the row.
-/

namespace Reliastra.Source.Incidents

open Reliastra.Library

/-- Who resolves: the recovery branch of a check, or a PATCH request. -/
inductive Resolver where
  | recovery
  | patch
  deriving DecidableEq, Repr

/-- What is committed, the row locks, and the tasks sent. `resolutions` are the
transitions committed, newest first, and `answered` counts the transactions that
ended with the incident resolved; no step reads the two. -/
structure ResolutionStore where
  incident : Api.Incident
  dependencyLocked : Bool
  rowLocked : Bool
  resolutions : List Instant
  attributions : Nat
  tasks : Nat
  answered : Nat

inductive ResolutionPhase where
  | idle
  /-- A recovery holds the row of the dependency. -/
  | locked
  /-- The recovery has found no open incident. -/
  | passed
  /-- The incident was read open; `edited` is whether other columns of the request
  are flushed. -/
  | seenOpen (resolver : Resolver) (edited : Bool)
  | updated (resolver : Resolver) (resolvedAt : Instant)
  | attributed (resolver : Resolver) (resolvedAt : Instant) (computed : Bool)
  | dispatched (resolver : Resolver) (resolvedAt : Instant) (computed : Bool)

inductive ResolutionAct where
  | lockDependency
  | readOpen
  | readIncident
  | editColumns
  | update (now : Instant)
  /-- Attribution, and whether it raises. -/
  | computeAttribution (raises : Bool)
  /-- `apply_async`, and whether it raises. -/
  | dispatch (raises : Bool)
  | commit
  | abort

namespace ResolutionPhase

/-- The transaction holds the row of the dependency. -/
def holdsDependency : ResolutionPhase → Bool
  | .locked | .passed | .seenOpen .recovery _ | .updated .recovery _
  | .attributed .recovery _ _ | .dispatched .recovery _ _ => true
  | _ => false

/-- The transaction has written the row of the incident. -/
def holdsRow : ResolutionPhase → Bool
  | .seenOpen _ edited => edited
  | .updated _ _ | .attributed _ _ _ | .dispatched _ _ _ => true
  | _ => false

/-- The transaction has read the incident open and has not ended. -/
def resolver : ResolutionPhase → Option Resolver
  | .seenOpen resolver _ | .updated resolver _ | .attributed resolver _ _
  | .dispatched resolver _ _ => some resolver
  | _ => none

end ResolutionPhase

/-- The locks of a transaction go when it ends. -/
def ResolutionStore.release (s : ResolutionStore) (phase : ResolutionPhase) : ResolutionStore :=
  { s with
    dependencyLocked := if phase.holdsDependency then false else s.dependencyLocked
    rowLocked := if phase.holdsRow then false else s.rowLocked }

/-- The first test of `resolve_incident`. -/
def AlreadyResolved (incident : Api.Incident) : Prop :=
  incident.status = .resolved ∧ incident.resolvedAt.isSome

instance (incident : Api.Incident) : Decidable (AlreadyResolved incident) :=
  inferInstanceAs (Decidable (_ ∧ _))

/-- One statement of a transaction; one that is not its next leaves everything
alone. -/
def resolutionAct {ι : Type} (_ : ι) (s : ResolutionStore) (phase : ResolutionPhase) :
    ResolutionAct → ResolutionStore × ResolutionPhase
  | .lockDependency =>
    match phase with
    | .idle =>
      if s.dependencyLocked then (s, .idle) else ({ s with dependencyLocked := true }, .locked)
    | _ => (s, phase)
  | .readOpen =>
    match phase with
    | .locked =>
      if s.incident.status = .opened then (s, .seenOpen .recovery false) else (s, .passed)
    | _ => (s, phase)
  | .readIncident =>
    match phase with
    | .idle =>
      if AlreadyResolved s.incident then ({ s with answered := s.answered + 1 }, .idle)
      else (s, .seenOpen .patch false)
    | _ => (s, phase)
  | .editColumns =>
    match phase with
    | .seenOpen .patch false =>
      if s.rowLocked then (s, phase) else ({ s with rowLocked := true }, .seenOpen .patch true)
    | _ => (s, phase)
  | .update now =>
    match phase with
    | .seenOpen resolver edited =>
      if edited = false ∧ s.rowLocked = true then (s, phase)
      else ({ s with rowLocked := true }, .updated resolver now)
    | _ => (s, phase)
  | .computeAttribution raises =>
    match phase with
    | .updated resolver resolvedAt =>
      (s, .attributed resolver resolvedAt (raises = false ∧ s.attributions = 0))
    | _ => (s, phase)
  | .dispatch raises =>
    match phase with
    | .attributed resolver resolvedAt computed =>
      ({ s with tasks := if raises then s.tasks else s.tasks + 1 },
        .dispatched resolver resolvedAt computed)
    | _ => (s, phase)
  | .commit =>
    match phase with
    | .passed => (s.release phase, .idle)
    | .dispatched _ resolvedAt computed =>
      ({ s.release phase with
          incident := { s.incident with status := .resolved, resolvedAt := some resolvedAt }
          resolutions := resolvedAt :: s.resolutions
          attributions := if computed then s.attributions + 1 else s.attributions
          answered := s.answered + 1 }, .idle)
    | _ => (s, phase)
  | .abort => (s.release phase, .idle)

/-- The statements of a resolution after its read, none of which fails. -/
def finishing (now : Instant) : List ResolutionAct :=
  [.update now, .computeAttribution false, .dispatch false, .commit]

/-! ## A transaction that nothing disturbs -/

/-- It does what `resolve_incident` does in one piece. -/
theorem undisturbed_resolves {s : ResolutionStore} {table after : IncidentTable} {orgId : Option Uuid}
    {now : Instant} (stored : table.table.get? s.incident.id = some s.incident)
    (free : s.rowLocked = false)
    (success : resolveIncident s.incident.id orgId now table = .ok after) :
    after.table.get? s.incident.id = some (Run.exec (fun s a => resolutionAct () s.1 s.2 a) (s, .idle)
      (.readIncident :: finishing now)).1.incident := by
  unfold resolveIncident at success
  obtain ⟨incident, found, success⟩ := Api.bind_eq_ok success
  obtain ⟨_, _, success⟩ := Api.bind_eq_ok success
  rw [Api.require_eq_ok, stored] at found
  obtain rfl := Option.some.inj found
  by_cases already : AlreadyResolved s.incident
  · have kept : table = after := by
      have resolved := already
      unfold AlreadyResolved at resolved
      rw [if_pos resolved] at success
      exact Except.ok.inj success
    rw [← kept, stored]
    simp [finishing, resolutionAct, already]
  · have unresolved := already
    unfold AlreadyResolved at unresolved
    rw [if_neg unresolved] at success
    unfold IncidentTable.update IncidentTable.flush at success
    split at success
    · cases success
      rw [Table.get?_updateKey, stored]
      simp [finishing, resolutionAct, already, free]
    · cases success

end Reliastra.Source.Incidents
