import Reliastra.Source.Api.Monitoring
import Reliastra.Source.Observations.Schema
import Reliastra.Library.Paging
import Reliastra.Source.Core.Basics

/-!
# Listings

Source: the list routes of `app/modules/dependencies/router.py` and
`app/modules/incidents/router.py`, `list_members` of
`app/modules/organizations/service.py`, and the queries behind them in the
repositories of `dependencies`, `incidents`, `checks`, `organizations` and
`vendors`. A row is listed as it is stored; how it is rendered is left out.
-/

/-!
## Pages

Source: `app/core/pagination.py`. The legacy fields of the envelope (`items`,
`total`, `page`) repeat the others or stay empty here and are left out.
-/

namespace Reliastra.Source

open Reliastra.Library

/-- `PaginatedResponse` with its `PaginationMeta`. -/
structure PaginatedResponse (ρ : Type) where
  data : List ρ
  nextCursor : Option Uuid
  hasMore : Bool
  limit : Nat
  deriving DecidableEq, Repr

/-- `slice_page` of the rows of a query that asked for one more than the page
takes. -/
def slicePage {ρ : Type} (id : ρ → Uuid) (rows : List ρ) (limit : Nat) : PaginatedResponse ρ where
  data := rows.take limit
  nextCursor := if limit < rows.length then (rows.take limit).getLast?.map id else none
  hasMore := limit < rows.length
  limit := limit

/-- The part of a response a reader follows. -/
def PaginatedResponse.page {ρ : Type} (response : PaginatedResponse ρ) : Paging.Page ρ Uuid :=
  (response.data, response.nextCursor)

/-- The extra row only tells whether there are others. -/
theorem slicePage_page {ρ : Type} (id : ρ → Uuid) (rows : List ρ) (limit : Nat) :
    (slicePage id (rows.take (limit + 1)) limit).page = Paging.cutAt id limit rows := by
  have first : (rows.take (limit + 1)).take limit = rows.take limit := by
    rw [List.take_take, Nat.min_eq_left (Nat.le_succ limit)]
  have more : limit < (rows.take (limit + 1)).length ↔ limit < rows.length := by
    rw [List.length_take]
    omega
  simp only [slicePage, PaginatedResponse.page, Paging.cutAt, first, more]

end Reliastra.Source

namespace Reliastra.Source.Api

open Reliastra.Library Organizations Paging

/-! ## Cursors compared with one column -/

/-- A dependency with the column its listing is sorted by. -/
structure ListedDependency extends Dependency where
  createdAt : Instant

/-- `ORDER BY created_at DESC`. -/
def newestCreated (dep : ListedDependency) : Int := -dep.createdAt

/-- The scalar subquery for the cursor's `created_at`. -/
def createdAtOf (dependencies : Table (fun d : ListedDependency => d.id)) (cursor : Uuid) :
    Option Instant :=
  (dependencies.get? cursor).map (·.createdAt)

/-- `DependencyRepository.list_for_org`. A comparison with the `NULL` of a cursor
that is not there selects nothing. -/
def listDependenciesForOrg (order : OrderBy newestCreated)
    (dependencies : Table (fun d : ListedDependency => d.id)) (orgId : Uuid) (limit : Nat)
    (cursor : Option Uuid) : List ListedDependency :=
  (order.arrange (dependencies.rows.filter (fun d => (d.orgId = orgId ∧ d.isDeleted = false) ∧
    ∀ id ∈ cursor, ∃ created ∈ createdAtOf dependencies id, d.createdAt < created))).take limit

/-- `GET /v1/dependencies`. -/
def listDependencies (order : OrderBy newestCreated)
    (dependencies : Table (fun d : ListedDependency => d.id)) (orgId : Uuid) (limit : Nat)
    (cursor : Option Uuid) : PaginatedResponse ListedDependency :=
  slicePage (·.id) (listDependenciesForOrg order dependencies orgId (limit + 1) cursor) limit

/-! ## Cursors nobody reads -/

/-- `ORDER BY started_at DESC`. -/
def newestStarted (incident : Incident) : Int := -incident.startedAt

/-- `IncidentRepository.list_for_org`. -/
def listIncidentsForOrg (order : OrderBy newestStarted) (incidents : Table Incident.id)
    (orgId : Uuid) (limit : Nat) (status : Option Checks.IncidentStatus)
    (severity : Option String) : List Incident :=
  (order.arrange (incidents.rows.filter (fun i => i.orgId = orgId ∧
    (∀ wanted ∈ status, i.status = wanted) ∧ ∀ wanted ∈ severity, i.severity = wanted))).take limit

/-- `GET /v1/incidents`. -/
def listIncidents (order : OrderBy newestStarted) (incidents : Table Incident.id) (orgId : Uuid)
    (status : Option Checks.IncidentStatus) (severity : Option String) (limit : Nat)
    (_cursor : Option Uuid) : PaginatedResponse Incident :=
  slicePage (·.id) (listIncidentsForOrg order incidents orgId (limit + 1) status severity) limit

/-- `ORDER BY executed_at DESC`. -/
def newestExecuted (result : Observations.CheckResult) : Int := -result.executedAt

/-- `CheckRepository.list_for_dependency` without a time range. -/
def listResultsForDependency (order : OrderBy newestExecuted)
    (dependencies : Table (fun d : ListedDependency => d.id))
    (results : Table Observations.CheckResult.id) (depId : Uuid) (limit : Nat) :
    List Observations.CheckResult :=
  (order.arrange (results.rows.filter (fun r => r.dependencyId = depId ∧
    ∃ dep ∈ dependencies.rows, dep.id = r.dependencyId ∧ dep.isDeleted = false))).take limit

/-- `DependencyService.get_dependency`. -/
def getDependency (dependencies : Table (fun d : ListedDependency => d.id)) (orgId depId : Uuid) :
    Except Failure ListedDependency :=
  requireOwned ((dependencies.get? depId).filter (fun dep => dep.isDeleted = false)) (·.orgId) orgId
    "Dependency not found"

/-- `GET /v1/dependencies/{dep_id}/results`. -/
def getDependencyCheckResults (order : OrderBy newestExecuted)
    (dependencies : Table (fun d : ListedDependency => d.id))
    (results : Table Observations.CheckResult.id) (orgId depId : Uuid) (limit : Nat)
    (_cursor : Option Uuid) : Except Failure (PaginatedResponse Observations.CheckResult) := do
  let _ ← getDependency dependencies orgId depId
  return slicePage (·.id) (listResultsForDependency order dependencies results depId (limit + 1)) limit

/-! ## Cursors compared with a column and the primary key -/

/-- `LIMIT`, where there is one. -/
def limited {ρ : Type} (limit : Option Nat) (rows : List ρ) : List ρ :=
  match limit with
  | some limit => rows.take limit
  | none => rows

/-- `OrganizationRepository.list_members`. A cursor that names no member is as
good as none. -/
def listMembersFrom (members : Table OrganizationMember.id) (orgId : Uuid) (limit : Option Nat)
    (cursor : Option Uuid) : List OrganizationMember :=
  limited limit ((members.rows.filter (fun m => (m.orgId = orgId ∧ m.isDeleted = false) ∧
    ∀ last ∈ cursor.bind members.get?, last.joinedAt < m.joinedAt ∨
      m.joinedAt = last.joinedAt ∧ last.id < m.id)).insertionSort joinedBefore)

/-- `OrganizationService.list_members`. -/
def listMembersPage (members : Table OrganizationMember.id) (orgId : Uuid) (limit : Nat)
    (cursor : Option Uuid) : PaginatedResponse OrganizationMember :=
  slicePage (·.id) (listMembersFrom members orgId (some (limit + 1)) cursor) limit

/-- `ORDER BY started_at DESC, id DESC`. -/
def startedAfter : Incident → Incident → Prop :=
  ColumnThenKey (fun i => OrderDual.toDual i.startedAt) (fun i => OrderDual.toDual i.id)

instance : DecidableRel startedAfter := fun first second =>
  inferInstanceAs (Decidable (ColumnThenKey (fun i : Incident => OrderDual.toDual i.startedAt)
    (fun i => OrderDual.toDual i.id) first second))

/-- `list_with_correlations_for_org`. The correlations of all incidents of the
page come from one query, by confidence, whose ties the database arranges. -/
def listWithCorrelationsForOrg {confidence : IncidentCorrelation → Int}
    (order : OrderBy confidence) (incidents : Table Incident.id)
    (correlations : Table IncidentCorrelation.id) (orgId : Uuid) (limit : Nat)
    (cursor : Option Uuid) : List (Incident × List IncidentCorrelation) :=
  let page := ((incidents.rows.filter (fun i => i.orgId = orgId ∧
    ∀ last ∈ cursor.bind incidents.get?, i.startedAt < last.startedAt ∨
      i.startedAt = last.startedAt ∧ i.id < last.id)).insertionSort startedAfter).take limit
  let all := order.arrange (correlations.rows.filter (fun c => c.incidentId ∈ page.map (·.id)))
  page.map (fun i => (i, all.filter (fun c => c.incidentId = i.id)))

/-- A deterministic collation: the sort key of a text tells it from any other. -/
structure Collation (α : Type) where
  sortKey : String → α
  injective : Function.Injective sortKey

/-- `ORDER BY display_name, id`. -/
def displayedBefore {α : Type} [LinearOrder α] (collation : Collation α) :
    VendorTracking → VendorTracking → Prop :=
  ColumnThenKey (fun v => collation.sortKey v.displayName) (·.id)

instance {α : Type} [LinearOrder α] (collation : Collation α) :
    DecidableRel (displayedBefore collation) := fun first second =>
  inferInstanceAs (Decidable (ColumnThenKey (fun v : VendorTracking =>
    collation.sortKey v.displayName) (·.id) first second))

/-- `VendorRepository.list_public`. -/
def listPublic {α : Type} [LinearOrder α] (collation : Collation α)
    (vendors : Table VendorTracking.id) (limit : Option Nat) (cursor : Option Uuid) :
    List VendorTracking :=
  limited limit ((vendors.rows.filter (fun v => v.isPublic = true ∧
    ∀ last ∈ cursor.bind vendors.get?,
      collation.sortKey last.displayName < collation.sortKey v.displayName ∨
        v.displayName = last.displayName ∧ last.id < v.id)).insertionSort
          (displayedBefore collation))

end Reliastra.Source.Api
