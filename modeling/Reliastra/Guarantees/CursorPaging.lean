import Reliastra.Source.Api.Listings

/-!
# Does following `next_cursor` show every row once?

Three endpoints hand out the id of the last row of a page as the cursor of the
next. Dependencies compare `created_at` alone with it: the rows created at the
same time as the last row of a page are lost when they would come after it, and
nothing else is. Incidents and check results never look at the cursor: whoever
follows it reads the first page for ever, unless that page holds everything.
-/

namespace Reliastra.Guarantees.CursorPaging

open Reliastra.Library Source Source.Api Paging

/-! ## The three listings, followed -/

section Endpoints
variable (dependencies : Table (fun d : ListedDependency => d.id)) (incidents : Table Incident.id)
  (results : Table Observations.CheckResult.id) (orgId depId : Uuid) (limit : Nat)

def dependencyPage (order : OrderBy newestCreated) (cursor : Option Uuid) :
    Option (Page ListedDependency Uuid) :=
  some (listDependencies order dependencies orgId limit cursor).page

def incidentPage (order : OrderBy newestStarted) (status : Option Checks.IncidentStatus)
    (severity : Option String) (cursor : Option Uuid) : Option (Page Incident Uuid) :=
  some (listIncidents order incidents orgId status severity limit cursor).page

def resultPage (order : OrderBy newestExecuted) (cursor : Option Uuid) :
    Option (Page Observations.CheckResult Uuid) :=
  (getDependencyCheckResults order dependencies results orgId depId limit cursor).toOption.map
    (·.page)

/-- The rows a reader is to see. -/
def dependenciesOf : List ListedDependency :=
  dependencies.rows.filter (fun d => d.orgId = orgId ∧ d.isDeleted = false)

def incidentsOf (status : Option Checks.IncidentStatus) (severity : Option String) :
    List Incident :=
  incidents.rows.filter (fun i => i.orgId = orgId ∧
    (∀ wanted ∈ status, i.status = wanted) ∧ ∀ wanted ∈ severity, i.severity = wanted)

def resultsOf : List Observations.CheckResult :=
  results.rows.filter (fun r => r.dependencyId = depId)

end Endpoints

variable {dependencies : Table (fun d : ListedDependency => d.id)} {incidents : Table Incident.id}
  {results : Table Observations.CheckResult.id} {orgId depId : Uuid} {limit : Nat}

/-! ## Dependencies -/

theorem dependencies_byColumn (order : OrderBy newestCreated) :
    ByColumn (dependencyPage dependencies orgId limit order) (·.id) limit order none
      (dependenciesOf dependencies orgId) where
  here := by
    unfold dependencyPage listDependencies listDependenciesForOrg dependenciesOf
    rw [slicePage_page]
    simp
  later row member := by
    have found : createdAtOf dependencies row.id = some row.createdAt := by
      unfold createdAtOf
      rw [(dependencies.get?_eq_some_iff row.id row).mpr ⟨(List.mem_filter.mp member).1, rfl⟩, Option.map_some]
    unfold dependencyPage listDependencies listDependenciesForOrg dependenciesOf
    rw [slicePage_page, List.filter_filter]
    congr 3
    refine List.filter_congr (fun d _ => ?_)
    by_cases past : d.createdAt < row.createdAt <;> simp [found, newestCreated, past]

/-! ## Incidents and check results -/

theorem incidentPage_eq (order : OrderBy newestStarted) (status : Option Checks.IncidentStatus)
    (severity : Option String) (cursor : Option Uuid) :
    incidentPage incidents orgId limit order status severity cursor =
      some (cutAt (·.id) limit (order.arrange (incidentsOf incidents orgId status severity))) := by
  rw [incidentPage, listIncidents, listIncidentsForOrg, slicePage_page]
  rfl

theorem resultPage_of_found (order : OrderBy newestExecuted) {dep : ListedDependency}
    (found : getDependency dependencies orgId depId = .ok dep) (cursor : Option Uuid) :
    resultPage dependencies results orgId depId limit order cursor =
      some (cutAt (·.id) limit (order.arrange (resultsOf results depId))) := by
  have owned := (requireOwned_eq_ok.mp found).1
  obtain ⟨there, live⟩ := Option.filter_eq_some_iff.mp owned
  obtain ⟨member, rfl⟩ := (dependencies.get?_eq_some_iff _ _).mp there
  have selected : results.rows.filter (fun r => r.dependencyId = dep.id ∧
      ∃ d ∈ dependencies.rows, d.id = r.dependencyId ∧ d.isDeleted = false) =
        resultsOf results dep.id := by
    refine List.filter_congr (fun r _ => decide_eq_decide.mpr ?_)
    refine and_iff_left_of_imp (fun same => ?_)
    exact ⟨dep, member, same.symm, of_decide_eq_true live⟩
  unfold resultPage getDependencyCheckResults listResultsForDependency
  rw [found, selected]
  simp only [Except.bind, bind, pure, Except.pure, Except.toOption, Option.map_some, slicePage_page]

/-- Following `next_cursor` shows each row once just if: for dependencies, no page
ends between two created at one time; for incidents and for the results of a
dependency of the organization, one page holds them all. -/
theorem eachOnce_iff (byCreated : OrderBy newestCreated) (byStarted : OrderBy newestStarted)
    (byExecuted : OrderBy newestExecuted)
    (dependencies : Table (fun d : ListedDependency => d.id)) (incidents : Table Incident.id)
    (results : Table Observations.CheckResult.id) (orgId depId : Uuid)
    (status : Option Checks.IncidentStatus) (severity : Option String) (limit : Nat)
    (positive : 0 < limit) :
    (EachOnce (dependencyPage dependencies orgId limit byCreated)
      (dependenciesOf dependencies orgId) ↔
        NoTieAtPageEnd newestCreated limit (dependenciesOf dependencies orgId)) ∧
    (EachOnce (incidentPage incidents orgId limit byStarted status severity)
      (incidentsOf incidents orgId status severity) ↔
        (incidentsOf incidents orgId status severity).length ≤ limit) ∧
    ∀ dep, getDependency dependencies orgId depId = .ok dep →
      (EachOnce (resultPage dependencies results orgId depId limit byExecuted)
        (resultsOf results depId) ↔ (resultsOf results depId).length ≤ limit) := by
  refine ⟨((dependencies_byColumn byCreated).visits positive).2, ?_, ?_⟩
  · exact eachOnce_iff_of_ignored positive (byStarted.perm _)
      (incidentPage_eq byStarted status severity)
  · intro dep found
    exact eachOnce_iff_of_ignored positive (byExecuted.perm _)
      (resultPage_of_found byExecuted found)

/-! ## Two rows, one row a page -/

def twoDependencies : Table (fun d : ListedDependency => d.id) where
  rows := [1, 2].map (fun id =>
    { id, orgId := 1, applicationId := none, name := "api", endpointUrl := "https://a.example",
      method := "GET", headers := none, expectedStatusCodes := [200], timeoutSeconds := 10,
      checkIntervalSeconds := 60, nextCheckAt := none, regions := ["us-east"],
      alertThresholdMs := none, isActive := true, isDeleted := false, createdAt := 100 })
  unique := by decide

def twoIncidents : Table Incident.id where
  rows := [1, 2].map (fun id =>
    { id, orgId := 1, dependencyId := 1, startedAt := 100 + id, resolvedAt := none,
      severity := "critical", status := .opened, rootCause := "unknown", description := none })
  unique := by decide

def oneResult : Table Observations.CheckResult.id where
  rows := [{ id := 1, dependencyId := 1, orgId := 1, region := "us-east", executedAt := 100,
             isUp := true, errorMessage := none, quorumConfirmed := false, latencyMs := 20,
             statusCode := some 200 }]
  unique := by decide

theorem eachOnce_iff_two :
    (EachOnce (dependencyPage twoDependencies 1 1 (OrderBy.stable newestCreated))
      (dependenciesOf twoDependencies 1) ↔
        NoTieAtPageEnd newestCreated 1 (dependenciesOf twoDependencies 1)) ∧
    (EachOnce (incidentPage twoIncidents 1 1 (OrderBy.stable newestStarted) none none)
      (incidentsOf twoIncidents 1 none none) ↔
        (incidentsOf twoIncidents 1 none none).length ≤ 1) ∧
    (EachOnce (resultPage twoDependencies oneResult 1 1 1 (OrderBy.stable newestExecuted))
      (resultsOf oneResult 1) ↔ (resultsOf oneResult 1).length ≤ 1) :=
  have all := eachOnce_iff (OrderBy.stable newestCreated) (OrderBy.stable newestStarted)
    (OrderBy.stable newestExecuted) twoDependencies twoIncidents oneResult 1 1 none none 1
    (by decide)
  ⟨all.1, all.2.1, all.2.2 _ rfl⟩

/-- One row a page: the second dependency is never shown, and the first page of
incidents is shown for ever. -/
theorem second_row_missing :
    ¬ EachOnce (dependencyPage twoDependencies 1 1 (OrderBy.stable newestCreated))
      (dependenciesOf twoDependencies 1) ∧
    ¬ EachOnce (incidentPage twoIncidents 1 1 (OrderBy.stable newestStarted) none none)
      (incidentsOf twoIncidents 1 none none) := by
  constructor
  · intro once
    have free := ((dependencies_byColumn _).visits (by decide)).2.mp once
    exact free 1 (-100) (by decide)
  · intro once
    have short := (eachOnce_iff_of_ignored (by decide) (OrderBy.perm _ _)
      (incidentPage_eq _ none none)).mp once
    exact absurd short (by decide)

end Reliastra.Guarantees.CursorPaging
