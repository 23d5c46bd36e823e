import Reliastra.Library.Run
import Reliastra.Source.Incidents.Lifecycle

/-!
# Do the status and the end of an incident agree?

`IncidentRepository.update` skips `None`, so a resolved incident that is opened
again keeps its `resolved_at`; and an incident opened beside another one of its
dependency meets the unique index outside any `try`. `consistent_iff` says which
operations keep the incidents consistent.
-/

namespace Reliastra.Guarantees.IncidentStatus

open Reliastra.Library Reliastra.Source Reliastra.Source.Incidents
open Reliastra.Source.Api hiding resolveIncident updateIncident

/-! ## The property -/

structure RowConsistent (i : Incident) : Prop where
  opened : i.status = .opened → i.resolvedAt = none
  resolved : i.status = .resolved → ∃ resolvedAt, i.resolvedAt = some resolvedAt ∧
    i.startedAt ≤ resolvedAt

/-- Every row is, and no dependency has two open incidents. -/
structure Consistent (s : IncidentTable) : Prop where
  rows : ∀ i ∈ s.table.rows, RowConsistent i
  one : ∀ i ∈ s.table.rows, ∀ j ∈ s.table.rows, i.status = .opened → j.status = .opened →
    i.dependencyId = j.dependencyId → i = j

/-- The row as the request asks for it. -/
def requested (request : IncidentUpdateRequest) (now : Instant) (i : Incident) : Incident :=
  if request.status = some .resolved ∧ ¬ (i.status = .resolved ∧ i.resolvedAt.isSome) then
    { updatedIncident request i with status := .resolved, resolvedAt := some now }
  else updatedIncident request i

/-- Granting the request would leave an inconsistent row, or a second open
incident of the dependency. -/
def WouldBreak (s : IncidentTable) (orgId incId : Uuid) (request : IncidentUpdateRequest)
    (now : Instant) : Prop :=
  ∃ i ∈ s.table.rows, i.id = incId ∧ i.orgId = orgId ∧
    (¬ RowConsistent (requested request now i) ∨
      (requested request now i).status = .opened ∧ ∃ other ∈ s.table.rows, other.id ≠ i.id ∧
        other.status = .opened ∧ other.dependencyId = i.dependencyId)

def ClientError : Except Failure IncidentTable → Prop
  | .error (.app exception) => 400 ≤ exception.statusCode ∧ exception.statusCode < 500
  | _ => False

/-- The operation leaves the incidents consistent, and an update that would break
this is answered with a client error. -/
structure Keeps (orgOf : Uuid → Uuid) (s : IncidentTable) (op : IncidentOp) : Prop where
  consistent : Consistent (incidentStep orgOf s op)
  rejects : ∀ orgId incId request now, op = .update orgId incId request now →
    WouldBreak s orgId incId request now → ClientError (op.run orgOf s)

/-! ## The condition -/

/-- An incident that gets the status `open` has no end and is the only open one of
its dependency. -/
def MayOpen (s : IncidentTable) (i : Incident) : Prop :=
  i.resolvedAt = none ∧ ∀ other ∈ s.table.rows, other.id ≠ i.id → other.status = .opened →
    other.dependencyId ≠ i.dependencyId

/-- An incident that is resolved did not start in the future. -/
def MayResolve (now : Instant) (i : Incident) : Prop :=
  ¬ (i.status = .resolved ∧ i.resolvedAt.isSome) → i.startedAt ≤ now

def Orderly (s : IncidentTable) : IncidentOp → Prop
  | .checkAndCreate .. => True
  | .update orgId incId request now => ∀ i ∈ s.table.rows, i.id = incId → i.orgId = orgId →
    (request.status = some .opened → MayOpen s i) ∧
      (request.status = some .resolved → MayResolve now i)
  | .resolve incidentId orgId now => ∀ i ∈ s.table.rows, i.id = incidentId →
    (∀ org ∈ orgId, i.orgId = org) → MayResolve now i

/-- The incidents of a dependency are its organization's. -/
def Owned (orgOf : Uuid → Uuid) (s : IncidentTable) : Prop :=
  ∀ i ∈ s.table.rows, i.orgId = orgOf i.dependencyId

/-! ## Writes -/

variable {orgOf : Uuid → Uuid} {s after : IncidentTable} {incident : Incident}
  {f : Incident → Incident}

theorem flush_eq_ok {table : Table Incident.id} :
    IncidentTable.flush table = .ok after ↔ after.table = table := by
  unfold IncidentTable.flush
  constructor
  · intro success
    split at success
    · cases success
      rfl
    · cases success
  · rintro rfl
    rw [dif_pos after.oneOpen]

theorem update_eq_ok {keeps : ∀ row, (f row).id = row.id} :
    s.update incident f keeps = .ok after ↔
      after.table = s.table.updateKey incident.id f keeps := flush_eq_ok

/-- Consistency of one-open tables needs the rows only. -/
theorem consistent_of_rows (owned : Owned orgOf s)
    (rows : ∀ i ∈ s.table.rows, RowConsistent i) : Consistent s := by
  refine ⟨rows, ?_⟩
  intro i stored j stored' opened opened' same
  apply Table.eq_of_key stored stored'
  apply s.oneOpen i stored j stored' opened opened' ?_ same
  rw [owned i stored, owned j stored', same]

/-- The table has this row now for the incident. -/
def Rewrites (s after : IncidentTable) (incident row : Incident) : Prop :=
  ∀ r, r ∈ after.table.rows ↔ r = row ∨ r.id ≠ incident.id ∧ r ∈ s.table.rows

theorem rewrites_of_update {keeps : ∀ row, (f row).id = row.id} (place : incident ∈ s.table.rows)
    (written : after.table = s.table.updateKey incident.id f keeps) :
    Rewrites s after incident (f incident) := by
  intro r
  rw [written, Table.updateKey_rows, List.mem_map]
  constructor
  · rintro ⟨row, stored, rfl⟩
    split
    · next here => exact .inl (congrArg f (Table.eq_of_key stored place here))
    · next elsewhere => exact .inr ⟨elsewhere, stored⟩
  · rintro (rfl | ⟨elsewhere, stored⟩)
    · exact ⟨incident, place, if_pos rfl⟩
    · exact ⟨r, stored, if_neg elsewhere⟩

theorem rewrites_self (place : incident ∈ s.table.rows) : Rewrites s s incident incident := by
  intro r
  constructor
  · intro stored
    by_cases here : r.id = incident.id
    · exact .inl (Table.eq_of_key stored place here)
    · exact .inr ⟨here, stored⟩
  · rintro (rfl | ⟨_, stored⟩)
    · exact place
    · exact stored

theorem Rewrites.trans {middle : IncidentTable} {row last : Incident}
    (first : Rewrites s middle incident row) (second : Rewrites middle after row last)
    (same : row.id = incident.id) : Rewrites s after incident last := by
  intro r
  rw [second r, first r, same]
  constructor
  · rintro (last | ⟨elsewhere, rfl | ⟨_, stored⟩⟩)
    · exact .inl last
    · exact absurd same elsewhere
    · exact .inr ⟨elsewhere, stored⟩
  · rintro (last | ⟨elsewhere, stored⟩)
    · exact .inl last
    · exact .inr ⟨elsewhere, .inr ⟨elsewhere, stored⟩⟩

theorem Rewrites.owned {row : Incident} (rewrites : Rewrites s after incident row)
    (owned : Owned orgOf s) (place : incident ∈ s.table.rows) (org : row.orgId = incident.orgId)
    (dependency : row.dependencyId = incident.dependencyId) : Owned orgOf after := by
  intro r stored
  rcases (rewrites r).mp stored with rfl | ⟨_, old⟩
  · rw [org, dependency]
    exact owned incident place
  · exact owned r old

/-- The new row decides whether the table is consistent. -/
theorem Rewrites.rows_iff {row : Incident} (rewrites : Rewrites s after incident row)
    (owned : Owned orgOf after) (consistent : Consistent s) :
    Consistent after ↔ RowConsistent row := by
  constructor
  · exact fun holds => holds.rows _ ((rewrites row).mpr (.inl rfl))
  · intro new
    apply consistent_of_rows owned
    intro r stored
    rcases (rewrites r).mp stored with rfl | ⟨_, old⟩
    · exact new
    · exact consistent.rows r old

/-- The index has nothing against closing an incident. -/
theorem close_succeeds (place : incident ∈ s.table.rows)
    (closed : (f incident).status ≠ .opened) (keeps : ∀ row, (f row).id = row.id) :
    ∃ after, s.update incident f keeps = .ok after := by
  have others {i : Incident} (stored : i ∈ (s.table.updateKey incident.id f keeps).rows)
      (opened : i.status = .opened) : i ∈ s.table.rows := by
    rw [Table.updateKey_rows, List.mem_map] at stored
    obtain ⟨row, old, rfl⟩ := stored
    split at opened
    · next here =>
      rw [Table.eq_of_key old place here] at opened
      exact absurd opened closed
    · next elsewhere =>
      rw [if_neg elsewhere]
      exact old
  have oneOpen : OneOpen (s.table.updateKey incident.id f keeps).rows := by
    intro i stored j stored' opened opened' org dependency
    exact s.oneOpen i (others stored opened) j (others stored' opened') opened opened' org
      dependency
  exact ⟨⟨_, oneOpen⟩, update_eq_ok.mpr rfl⟩

/-! ## Resolving -/

def resolvedRow (now : Instant) (i : Incident) : Incident :=
  { i with status := .resolved, resolvedAt := some now }

variable {now : Instant} {orgId incId : Uuid} {request : IncidentUpdateRequest}

/-- What a resolution does to a stored incident. -/
theorem resolveIncident_stored (now : Instant) {org : Option Uuid} (place : incident ∈ s.table.rows)
    (owner : ∀ o ∈ org, incident.orgId = o) :
    ∃ after, resolveIncident incident.id org now s = .ok after ∧
      Rewrites s after incident (if incident.status = .resolved ∧ incident.resolvedAt.isSome then
        incident else resolvedRow now incident) := by
  have found : s.table.get? incident.id = some incident :=
    (Table.get?_eq_some_iff _ _ _).mpr ⟨place, rfl⟩
  have allowed : ¬ ∃ o ∈ org, incident.orgId ≠ o := by
    rintro ⟨o, given, other⟩
    exact other (owner o given)
  unfold resolveIncident
  by_cases done : incident.status = .resolved ∧ incident.resolvedAt.isSome
  · refine ⟨s, ?_, ?_⟩
    · simp only [found, require, refuseIf, if_neg allowed, if_pos done, bind, Except.bind, pure,
        Except.pure]
    · rw [if_pos done]
      exact rewrites_self place
  · obtain ⟨after, success⟩ := close_succeeds (s := s) (f := resolvedRow now) place
      (by simp [resolvedRow]) (fun _ => rfl)
    refine ⟨after, ?_, ?_⟩
    · simp only [found, require, refuseIf, if_neg allowed, if_neg done, bind, Except.bind]
      exact success
    · rw [if_neg done]
      exact rewrites_of_update place (update_eq_ok.mp success)

/-! ## Requests -/

theorem requested_frame (request : IncidentUpdateRequest) (now : Instant) (i : Incident) :
    (requested request now i).id = i.id ∧ (requested request now i).orgId = i.orgId ∧
      (requested request now i).dependencyId = i.dependencyId := by
  unfold requested
  split <;> exact ⟨rfl, rfl, rfl⟩

/-- `None` and `resolved` leave the status to the rest of the update. -/
theorem updatedIncident_status (request : IncidentUpdateRequest) (i : Incident) :
    (updatedIncident request i).status = match request.status with
      | none | some .resolved => i.status
      | some status => status := by
  unfold updatedIncident
  rcases request.status with _ | _ | _ | _ <;> rfl

theorem RowConsistent.of_same {i j : Incident} (consistent : RowConsistent i)
    (status : j.status = i.status) (resolved : j.resolvedAt = i.resolvedAt)
    (started : j.startedAt = i.startedAt) : RowConsistent j := by
  constructor
  · rw [status, resolved]
    exact consistent.opened
  · rw [status, resolved, started]
    exact consistent.resolved

/-- A request about a stored incident is granted, or fails in the database. -/
theorem updateIncident_stored (request : IncidentUpdateRequest) (now : Instant)
    (place : incident ∈ s.table.rows) (owner : incident.orgId = orgId) :
    (∃ reason, updateIncident orgId incident.id request now s = .error (.flush reason)) ∨
      ∃ after, updateIncident orgId incident.id request now s = .ok after ∧
        Rewrites s after incident (requested request now incident) := by
  have found : requireOwned (s.table.get? incident.id) (·.orgId) orgId "Incident not found" =
      .ok incident :=
    requireOwned_eq_ok.mpr ⟨(Table.get?_eq_some_iff _ _ _).mpr ⟨place, rfl⟩, owner⟩
  unfold updateIncident
  rw [found]
  by_cases nul : ∃ text ∈ request.description, '\x00' ∈ text.toList
  · left
    exact ⟨"DataError", by simp only [refuseIf, if_pos nul, bind, Except.bind]⟩
  · simp only [refuseIf, if_neg nul, bind, Except.bind]
    cases flushed : s.update incident (updatedIncident request) (fun _ => rfl) with
    | error failure =>
      left
      unfold IncidentTable.update IncidentTable.flush at flushed
      split at flushed
      · cases flushed
      · cases flushed
        exact ⟨_, rfl⟩
    | ok middle =>
      right
      have first := rewrites_of_update place (update_eq_ok.mp flushed)
      dsimp only
      by_cases resolving : request.status = some .resolved
      · rw [if_pos resolving]
        have owned (o : Uuid) (same : incident.orgId = o) :
            ∀ p ∈ some o, (updatedIncident request incident).orgId = p := by
          rintro p ⟨⟩
          exact same
        obtain ⟨after, success, second⟩ := resolveIncident_stored now
          ((first _).mpr (.inl rfl)) (owned orgId owner)
        refine ⟨after, success, ?_⟩
        have whole := first.trans second rfl
        have kept : (updatedIncident request incident).status = incident.status := by
          rw [updatedIncident_status, resolving]
        have asked : requested request now incident =
            if (updatedIncident request incident).status = .resolved ∧
                (updatedIncident request incident).resolvedAt.isSome then
              updatedIncident request incident
            else resolvedRow now (updatedIncident request incident) := by
          unfold requested
          by_cases done : incident.status = .resolved ∧ incident.resolvedAt.isSome
          · rw [if_neg (fun both => both.2 done), if_pos ⟨kept.trans done.1, done.2⟩]
          · rw [if_pos ⟨resolving, done⟩,
              if_neg (fun both => done ⟨kept.symm.trans both.1, both.2⟩)]
            rfl
        rw [asked]
        exact whole
      · rw [if_neg resolving]
        refine ⟨middle, rfl, ?_⟩
        unfold requested
        rw [if_neg (fun both => resolving both.1)]
        exact first

/-- A granted request leaves a consistent row exactly when it opens no incident
that has an end and resolves none before its start. -/
theorem requested_consistent_iff (consistent : RowConsistent incident) :
    RowConsistent (requested request now incident) ↔
      (request.status = some .opened → incident.resolvedAt = none) ∧
        (request.status = some .resolved → MayResolve now incident) := by
  unfold requested MayResolve
  by_cases resolving : request.status = some .resolved ∧
      ¬ (incident.status = .resolved ∧ incident.resolvedAt.isSome)
  · rw [if_pos resolving]
    constructor
    · rintro ⟨_, ended⟩
      obtain ⟨stamp, same, later⟩ := ended rfl
      cases same
      refine ⟨fun opening => ?_, fun _ _ => later⟩
      rw [resolving.1] at opening
      cases opening
    · rintro ⟨_, later⟩
      constructor
      · intro opened
        cases opened
      · exact fun _ => ⟨now, rfl, later resolving.1 resolving.2⟩
  · rw [if_neg resolving]
    have status := updatedIncident_status request incident
    cases asked : request.status with
    | none =>
      rw [asked] at status
      have kept : RowConsistent (updatedIncident request incident) :=
        consistent.of_same status rfl rfl
      refine iff_of_true kept ⟨fun wrong => ?_, fun wrong => ?_⟩
      · cases wrong
      · cases wrong
    | some asked' =>
      rw [asked] at status
      cases asked' with
      | opened =>
        constructor
        · exact fun row => ⟨fun _ => row.opened status, fun wrong => nomatch wrong⟩
        · rintro ⟨none, _⟩
          constructor
          · exact fun _ => none rfl
          · intro wrong
            rw [status] at wrong
            cases wrong
      | resolved =>
        have done : incident.status = .resolved ∧ incident.resolvedAt.isSome := by
          by_contra live
          exact resolving ⟨asked, live⟩
        have kept : RowConsistent (updatedIncident request incident) :=
          consistent.of_same status rfl rfl
        refine iff_of_true kept ⟨fun wrong => ?_, fun _ live => absurd done live⟩
        cases wrong
      | falsePositive =>
        refine iff_of_true ⟨fun wrong => ?_, fun wrong => ?_⟩
          ⟨fun wrong => ?_, fun wrong => ?_⟩
        · rw [status] at wrong
          cases wrong
        · rw [status] at wrong
          cases wrong
        · cases wrong
        · cases wrong

/-- A row is open after the request if it is asked to be, or was and stays. -/
theorem requested_opened (row : (requested request now incident).status = .opened) :
    request.status = some .opened ∨ incident.status = .opened := by
  unfold requested at row
  split at row
  · cases row
  · rw [updatedIncident_status] at row
    split at row
    · exact .inr row
    · exact .inr row
    · next status _ _ asked =>
      rw [row] at asked
      exact .inl asked

theorem requested_opens (opening : request.status = some .opened) :
    (requested request now incident).status = .opened := by
  unfold requested
  rw [if_neg]
  · rw [updatedIncident_status, opening]
  · rintro ⟨resolving, _⟩
    rw [opening] at resolving
    cases resolving

/-- A request that would break the consistency is a disorderly one. -/
theorem wouldBreak_iff (consistent : Consistent s) (orgId incId : Uuid) :
    WouldBreak s orgId incId request now ↔ ¬ Orderly s (.update orgId incId request now) := by
  constructor
  · rintro ⟨i, stored, here, owner, breaks⟩ orderly
    obtain ⟨mayOpen, mayResolve⟩ := orderly i stored here owner
    rcases breaks with row | ⟨opened, other, stored', different, opened', same⟩
    · apply row
      rw [requested_consistent_iff (consistent.rows i stored)]
      exact ⟨fun opening => (mayOpen opening).1, mayResolve⟩
    · rcases requested_opened opened with opening | open'
      · exact (mayOpen opening).2 other stored' different opened' same
      · exact different (congrArg Incident.id
          (consistent.one other stored' i stored opened' open' same))
  · intro disorderly
    by_contra keeps
    apply disorderly
    intro i stored here owner
    have row : RowConsistent (requested request now i) := by
      by_contra broken
      exact keeps ⟨i, stored, here, owner, .inl broken⟩
    rw [requested_consistent_iff (consistent.rows i stored)] at row
    refine ⟨fun opening => ⟨row.1 opening, ?_⟩, row.2⟩
    intro other stored' different opened' same
    exact keeps ⟨i, stored, here, owner,
      .inr ⟨requested_opens opening, other, stored', different, opened', same⟩⟩

/-! ## One operation -/

theorem created_consistent {dependencyId newId : Uuid} {errorMessage : String}
    (owned : Owned orgOf s) (consistent : Consistent s)
    (success : checkAndCreateIncident (orgOf dependencyId) dependencyId errorMessage newId now s =
      .ok after) : Owned orgOf after ∧ Consistent after := by
  unfold checkAndCreateIncident at success
  split at success
  · cases success
    exact ⟨owned, consistent⟩
  · obtain ⟨_, _, success⟩ := bind_eq_ok success
    split at success
    · next inserted =>
      cases success
      obtain ⟨table, flushed, written⟩ := bind_eq_ok inserted
      obtain ⟨_, rows⟩ := Table.insert_eq_some (flushNew_eq_ok.mp flushed)
      have all {i : Incident} (stored : i ∈ after.table.rows) : i ∈ s.table.rows ∨
          i = openIncident (orgOf dependencyId) dependencyId errorMessage newId now := by
        rw [flush_eq_ok.mp written, rows] at stored
        simpa using stored
      have ownedAfter : Owned orgOf after := by
        intro i stored
        rcases all stored with old | rfl
        · exact owned i old
        · rfl
      refine ⟨ownedAfter, consistent_of_rows ownedAfter ?_⟩
      intro i stored
      rcases all stored with old | rfl
      · exact consistent.rows i old
      · exact ⟨fun _ => rfl, fun wrong => nomatch wrong⟩
    · split at success
      · cases success
        exact ⟨owned, consistent⟩
      · cases success

/-- Without the incident a request is refused. -/
theorem updateIncident_missing (request : IncidentUpdateRequest) (now : Instant)
    (missing : ∀ i ∈ s.table.rows, i.id = incId → i.orgId ≠ orgId) :
    ∃ failure, updateIncident orgId incId request now s = .error failure := by
  unfold updateIncident
  cases found : requireOwned (s.table.get? incId) (·.orgId) orgId "Incident not found" with
  | error failure => exact ⟨failure, rfl⟩
  | ok incident =>
    obtain ⟨row, owner⟩ := requireOwned_eq_ok.mp found
    obtain ⟨stored, here⟩ := (Table.get?_eq_some_iff _ _ _).mp row
    exact absurd owner (missing incident stored here)

theorem resolveIncident_missing (now : Instant) {org : Option Uuid}
    (missing : ∀ i ∈ s.table.rows, i.id = incId → ¬ ∀ o ∈ org, i.orgId = o) :
    ∃ failure, resolveIncident incId org now s = .error failure := by
  unfold resolveIncident
  cases found : s.table.get? incId with
  | none => exact ⟨_, rfl⟩
  | some incident =>
    obtain ⟨stored, here⟩ := (Table.get?_eq_some_iff _ _ _).mp found
    have foreign : ∃ o ∈ org, incident.orgId ≠ o := by
      by_contra all
      apply missing incident stored here
      intro o given
      by_contra other
      exact all ⟨o, given, other⟩
    refine ⟨notFound "Incident not found", ?_⟩
    simp only [require, refuseIf, if_pos foreign, bind, Except.bind]

theorem step_of_error (op : IncidentOp) {failure : Failure}
    (failed : op.run orgOf s = .error failure) : incidentStep orgOf s op = s := by
  unfold incidentStep
  rw [failed]

theorem step_of_ok (op : IncidentOp) (success : op.run orgOf s = .ok after) :
    incidentStep orgOf s op = after := by
  unfold incidentStep
  rw [success]

/-- An update changes nothing, or the row it is about into the requested one. -/
theorem update_effect (orgOf : Uuid → Uuid) (s : IncidentTable) (orgId incId : Uuid)
    (request : IncidentUpdateRequest) (now : Instant) :
    incidentStep orgOf s (.update orgId incId request now) = s ∨
      ∃ i ∈ s.table.rows, i.id = incId ∧ i.orgId = orgId ∧
        Rewrites s (incidentStep orgOf s (.update orgId incId request now)) i
          (requested request now i) := by
  by_cases stored : ∃ i ∈ s.table.rows, i.id = incId ∧ i.orgId = orgId
  · obtain ⟨i, place, rfl, owner⟩ := stored
    rcases updateIncident_stored request now place owner with
      ⟨reason, failed⟩ | ⟨after, success, rewrites⟩
    · exact .inl (step_of_error (.update orgId i.id request now) failed)
    · right
      refine ⟨i, place, rfl, owner, ?_⟩
      rw [step_of_ok (.update orgId i.id request now) success]
      exact rewrites
  · left
    have missing : ∀ i ∈ s.table.rows, i.id = incId → i.orgId ≠ orgId :=
      fun i place here owner => stored ⟨i, place, here, owner⟩
    obtain ⟨failure, failed⟩ := updateIncident_missing request now missing
    exact step_of_error (.update orgId incId request now) failed

theorem update_keeps_iff (owned : Owned orgOf s) (consistent : Consistent s) :
    Keeps orgOf s (.update orgId incId request now) ↔
      Orderly s (.update orgId incId request now) := by
  constructor
  · intro keeps
    by_contra disorderly
    have breaks := (wouldBreak_iff consistent orgId incId).mpr disorderly
    have rejected := keeps.rejects orgId incId request now rfl breaks
    obtain ⟨i, place, rfl, owner, _⟩ := breaks
    change ClientError (updateIncident orgId i.id request now s) at rejected
    rcases updateIncident_stored request now place owner with
      ⟨reason, failed⟩ | ⟨after, success, _⟩
    · rw [failed] at rejected
      exact rejected
    · rw [success] at rejected
      exact rejected
  · intro orderly
    constructor
    · rcases update_effect orgOf s orgId incId request now with
        same | ⟨i, place, here, owner, rewrites⟩
      · rw [same]
        exact consistent
      · obtain ⟨_, org, dependency⟩ := requested_frame request now i
        have ownedAfter := rewrites.owned owned place org dependency
        rw [rewrites.rows_iff ownedAfter consistent,
          requested_consistent_iff (consistent.rows i place)]
        obtain ⟨mayOpen, mayResolve⟩ := orderly i place here owner
        exact ⟨fun opening => (mayOpen opening).1, mayResolve⟩
    · intro orgId' incId' request' now' same breaks
      cases same
      exact absurd orderly ((wouldBreak_iff consistent orgId incId).mp breaks)

theorem resolve_effect (orgOf : Uuid → Uuid) (s : IncidentTable) (incId : Uuid)
    (org : Option Uuid) (now : Instant) :
    incidentStep orgOf s (.resolve incId org now) = s ∧
        (∀ i ∈ s.table.rows, i.id = incId → ¬ ∀ o ∈ org, i.orgId = o) ∨
      ∃ i ∈ s.table.rows, i.id = incId ∧ (∀ o ∈ org, i.orgId = o) ∧
        Rewrites s (incidentStep orgOf s (.resolve incId org now)) i
          (if i.status = .resolved ∧ i.resolvedAt.isSome then i else resolvedRow now i) := by
  by_cases stored : ∃ i ∈ s.table.rows, i.id = incId ∧ ∀ o ∈ org, i.orgId = o
  · obtain ⟨i, place, rfl, owner⟩ := stored
    obtain ⟨after, success, rewrites⟩ := resolveIncident_stored now place owner
    right
    refine ⟨i, place, rfl, owner, ?_⟩
    rw [step_of_ok (.resolve i.id org now) success]
    exact rewrites
  · left
    have missing : ∀ i ∈ s.table.rows, i.id = incId → ¬ ∀ o ∈ org, i.orgId = o :=
      fun i place here owner => stored ⟨i, place, here, owner⟩
    obtain ⟨failure, failed⟩ := resolveIncident_missing now missing
    exact ⟨step_of_error (.resolve incId org now) failed, missing⟩

theorem resolvedRow_consistent_iff (consistent : RowConsistent incident) :
    RowConsistent (if incident.status = .resolved ∧ incident.resolvedAt.isSome then incident
      else resolvedRow now incident) ↔ MayResolve now incident := by
  unfold MayResolve
  by_cases done : incident.status = .resolved ∧ incident.resolvedAt.isSome
  · rw [if_pos done]
    exact iff_of_true consistent (fun live => absurd done live)
  · rw [if_neg done]
    constructor
    · intro row _
      obtain ⟨stamp, same, later⟩ := row.resolved rfl
      cases same
      exact later
    · intro later
      constructor
      · intro opened
        cases opened
      · exact fun _ => ⟨now, rfl, later done⟩

theorem resolve_keeps_iff {org : Option Uuid} (owned : Owned orgOf s)
    (consistent : Consistent s) :
    Keeps orgOf s (.resolve incId org now) ↔ Orderly s (.resolve incId org now) := by
  have rejects : ∀ orgId' incId' request' now',
      IncidentOp.resolve incId org now = .update orgId' incId' request' now' →
      WouldBreak s orgId' incId' request' now' →
      ClientError (IncidentOp.run orgOf s (.resolve incId org now)) := by
    intro _ _ _ _ same
    cases same
  rcases resolve_effect orgOf s incId org now with
    ⟨same, missing⟩ | ⟨i, place, here, owner, rewrites⟩
  · refine iff_of_true ⟨?_, rejects⟩ ?_
    · rw [same]
      exact consistent
    · intro i place here owner
      exact absurd owner (missing i place here)
  · have rowFrame (p : Prop) [Decidable p] :
        (if p then i else resolvedRow now i).orgId = i.orgId ∧
          (if p then i else resolvedRow now i).dependencyId = i.dependencyId := by
      split <;> exact ⟨rfl, rfl⟩
    have ownedAfter := rewrites.owned owned place (rowFrame _).1 (rowFrame _).2
    have exact' := (rewrites.rows_iff ownedAfter consistent).trans
      (resolvedRow_consistent_iff (consistent.rows i place))
    constructor
    · intro keeps j place' here' _
      rw [Table.eq_of_key place' place (here'.trans here.symm)]
      exact exact'.mp keeps.consistent
    · intro orderly
      exact ⟨exact'.mpr (orderly i place here owner), rejects⟩

theorem create_keeps {dependencyId newId : Uuid} {errorMessage : String}
    (owned : Owned orgOf s) (consistent : Consistent s) :
    Keeps orgOf s (.checkAndCreate dependencyId errorMessage newId now) := by
  constructor
  · cases result : checkAndCreateIncident (orgOf dependencyId) dependencyId errorMessage newId
        now s with
    | error failure =>
      rw [step_of_error (.checkAndCreate dependencyId errorMessage newId now) result]
      exact consistent
    | ok after =>
      rw [step_of_ok (.checkAndCreate dependencyId errorMessage newId now) result]
      exact (created_consistent owned consistent result).2
  · intro _ _ _ _ same
    cases same

theorem keeps_iff (owned : Owned orgOf s) (consistent : Consistent s) (op : IncidentOp) :
    Keeps orgOf s op ↔ Orderly s op := by
  cases op with
  | checkAndCreate => exact iff_of_true (create_keeps owned consistent) trivial
  | update => exact update_keeps_iff owned consistent
  | resolve => exact resolve_keeps_iff owned consistent

theorem owned_step (owned : Owned orgOf s) (consistent : Consistent s) (op : IncidentOp) :
    Owned orgOf (incidentStep orgOf s op) := by
  cases op with
  | checkAndCreate dependencyId errorMessage newId now =>
    cases result : checkAndCreateIncident (orgOf dependencyId) dependencyId errorMessage newId
        now s with
    | error failure =>
      rw [step_of_error (.checkAndCreate dependencyId errorMessage newId now) result]
      exact owned
    | ok after =>
      rw [step_of_ok (.checkAndCreate dependencyId errorMessage newId now) result]
      exact (created_consistent owned consistent result).1
  | update orgId incId request now =>
    rcases update_effect orgOf s orgId incId request now with
      same | ⟨i, place, _, _, rewrites⟩
    · rw [same]
      exact owned
    · obtain ⟨_, org, dependency⟩ := requested_frame request now i
      exact rewrites.owned owned place org dependency
  | resolve incId org now =>
    rcases resolve_effect orgOf s incId org now with
      ⟨same, _⟩ | ⟨i, place, _, _, rewrites⟩
    · rw [same]
      exact owned
    · apply rewrites.owned owned place
      · split <;> rfl
      · split <;> rfl

/-! ## Every run -/

theorem empty_consistent : Consistent IncidentTable.empty :=
  ⟨fun _ member => absurd member List.not_mem_nil, fun _ member => absurd member List.not_mem_nil⟩

/-- Along a run the incidents stay consistent, and what would break this is
refused, exactly when every operation is orderly. -/
theorem consistent_iff (orgOf : Uuid → Uuid) (run : List IncidentOp) :
    Run.AllSteps (incidentStep orgOf) (Keeps orgOf) IncidentTable.empty run ↔
      Run.AllSteps (incidentStep orgOf) Orderly IncidentTable.empty run := by
  have keeps (s : IncidentTable) (op : IncidentOp) (both : Owned orgOf s ∧ Consistent s)
      (kept : Keeps orgOf s op) :
      Owned orgOf (incidentStep orgOf s op) ∧ Consistent (incidentStep orgOf s op) :=
    ⟨owned_step both.1 both.2 op, kept.consistent⟩
  have initial : Owned orgOf IncidentTable.empty ∧ Consistent IncidentTable.empty :=
    ⟨fun _ member => absurd member List.not_mem_nil, empty_consistent⟩
  exact Run.allSteps_congr keeps (fun s op both => keeps_iff both.1 both.2 op) _ run initial

/-- Opened, resolved, opened again with `PATCH`. -/
def reopening : List IncidentOp :=
  [.checkAndCreate 7 "timeout" 1 100, .resolve 1 none 200,
    .update 3 1 ⟨some .opened, none, none, none⟩ 300]

/-- The open incident has an end. -/
theorem reopened_with_end :
    ¬ Run.AllSteps (incidentStep (fun _ => 3)) (Keeps (fun _ => 3)) IncidentTable.empty reopening ∧
      (Run.exec (incidentStep (fun _ => 3)) IncidentTable.empty reopening).table.rows.map
        (fun i => (i.status, i.resolvedAt)) = [(.opened, some 200)] := by
  refine ⟨?_, by decide⟩
  intro all
  have consistent := all.2.2.1.consistent
  have stored : (⟨1, 3, 7, 100, some 200, "major", .opened, "unknown", some "timeout"⟩ : Incident) ∈
      (Run.exec (incidentStep (fun _ => 3)) IncidentTable.empty reopening).table.rows := by
    decide
  have ended := (consistent.rows _ stored).opened rfl
  cases ended

end Reliastra.Guarantees.IncidentStatus
