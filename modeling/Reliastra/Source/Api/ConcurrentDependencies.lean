import Reliastra.Library.Interleaving
import Reliastra.Source.Api.Monitoring

/-!
# Dependency requests side by side

`create_dependency` and `delete_dependency` of
`app/modules/dependencies/service.py` statement by statement. Each request runs in
a READ COMMITTED transaction of its own and takes no lock before it writes: a
count sees the rows committed at that moment, and a new row counts from the commit
of its request on. `request_eq_statements` says that a request alone is the
request of the service.
-/

namespace Reliastra.Source.Api

open Reliastra.Library

inductive DependencyRequest where
  | create (env : ServiceEnvironment) (orgId : Uuid) (request : DependencyCreateRequest)
  | delete (orgId depId : Uuid)

/-- Where a request stands, with what it has read. -/
inductive DependencyPhase where
  | idle
  /-- The interval is allowed; `count_for_org` comes next. -/
  | counting (env : ServiceEnvironment) (org : Organization) (request : DependencyCreateRequest)
  /-- The count was below the limit. -/
  | choosing (env : ServiceEnvironment) (orgId : Uuid) (request : DependencyCreateRequest)
  /-- No application: a default one is inserted as well. -/
  | inserting (env : ServiceEnvironment) (orgId : Uuid) (request : DependencyCreateRequest)
      (application : Option Uuid)
  | deleting (depId : Uuid)

inductive DependencyAct where
  | start (request : DependencyRequest)
  | advance
  /-- The request or its worker ends without a commit. -/
  | abort

/-! ## Statements -/

def startDependency (s : Platform) : DependencyRequest → Except Failure DependencyPhase
  | .create env orgId request => do
    let org ← require (s.organizations.get? orgId) (notFound "Organization not found")
    refuseIf (request.checkIntervalSeconds < org.plan.checkInterval) (minimumInterval org.plan)
    return .counting env org request
  | .delete orgId depId => do
    let dep ← requireOwned (dependencyById s depId) (·.orgId) orgId "Dependency not found"
    return .deleting dep.id

def limitReached (plan : Plan) : Failure :=
  conflict ("Dependency limit reached for plan '" ++ plan.value ++ "' (" ++
    toString plan.dependencyLimit ++ ").")

/-- The application of a new dependency, if there is one. -/
def chooseApplication (s : Platform) (orgId : Uuid) (named : Option Uuid) :
    Except Failure (Option Uuid) :=
  match named with
  | some applicationId => (requireApplication s orgId applicationId).map (fun a => some a.id)
  | none => .ok ((getDefaultApplication s orgId).map (·.id))

def applicationsFor (env : ServiceEnvironment) (orgId : Uuid) (s : Platform) :
    Option Uuid → Except Failure (Table Application.id)
  | some _ => .ok s.workspace.applications
  | none => flushNew s.workspace.applications (defaultApplication env (env.newId 1) orgId)

def insertDependency (env : ServiceEnvironment) (orgId : Uuid) (request : DependencyCreateRequest)
    (application : Option Uuid) (s : Platform) : Except Failure Platform := do
  let applications ← applicationsFor env orgId s application
  let dependencies ← flushNew s.workspace.dependencies
    (newDependency env orgId (application.getD (env.newId 1)) request)
  return { s with workspace := { s.workspace with
    applications := applications
    dependencies := dependencies } }

theorem softDeleted_keeps (dep : Dependency) :
    ({ dep with isDeleted := true, isActive := false } : Dependency).id = dep.id := rfl

def softDelete (depId : Uuid) (s : Platform) : Platform :=
  { s with workspace := { s.workspace with
    dependencies := s.workspace.dependencies.updateKey depId
      (fun dep => { dep with isDeleted := true, isActive := false }) softDeleted_keeps } }

/-- The next statement of a request; the last one is its commit. -/
def advanceDependency (s : Platform) : DependencyPhase → Except Failure (Platform × DependencyPhase)
  | .idle => .ok (s, .idle)
  | .counting env org request => do
    refuseIf (org.plan.dependencyLimit ≤ dependencyCount s org.id) (limitReached org.plan)
    return (s, .choosing env org.id request)
  | .choosing env orgId request => do
    let application ← chooseApplication s orgId request.applicationId
    return (s, .inserting env orgId request application)
  | .inserting env orgId request application => do
    let committed ← insertDependency env orgId request application s
    return (committed, .idle)
  | .deleting depId => .ok (softDelete depId s, .idle)

def dependencyAct (s : Platform) (phase : DependencyPhase) :
    DependencyAct → Platform × DependencyPhase
  | .start request =>
    match phase with
    | .idle =>
      match startDependency s request with
      | .ok next => (s, next)
      | .error _ => (s, .idle)
    | _ => (s, phase)
  | .advance =>
    match advanceDependency s phase with
    | .ok next => next
    | .error _ => (s, .idle)
  | .abort => (s, .idle)

/-! ## What an act can do -/

inductive DependencyMoves (s : Platform) :
    DependencyPhase → DependencyAct → Platform → DependencyPhase → Prop
  | stays (phase : DependencyPhase) (act : DependencyAct) : DependencyMoves s phase act s phase
  | ends (phase : DependencyPhase) (act : DependencyAct) : DependencyMoves s phase act s .idle
  | creates {env : ServiceEnvironment} {org : Organization} {request : DependencyCreateRequest}
      (found : s.organizations.get? org.id = some org) :
      DependencyMoves s .idle (.start (.create env org.id request)) s (.counting env org request)
  | deletes {orgId depId : Uuid} :
      DependencyMoves s .idle (.start (.delete orgId depId)) s (.deleting depId)
  | counts {env : ServiceEnvironment} {org : Organization} {request : DependencyCreateRequest}
      (below : dependencyCount s org.id < org.plan.dependencyLimit) :
      DependencyMoves s (.counting env org request) .advance s (.choosing env org.id request)
  | chooses {env : ServiceEnvironment} {orgId : Uuid} {request : DependencyCreateRequest}
      {application : Option Uuid} :
      DependencyMoves s (.choosing env orgId request) .advance s
        (.inserting env orgId request application)
  | inserts {env : ServiceEnvironment} {orgId : Uuid} {request : DependencyCreateRequest}
      {application : Option Uuid} {t : Platform}
      (inserted : insertDependency env orgId request application s = .ok t) :
      DependencyMoves s (.inserting env orgId request application) .advance t .idle
  | softDeletes {depId : Uuid} :
      DependencyMoves s (.deleting depId) .advance (softDelete depId s) .idle

theorem startDependency_moves {s : Platform} {request : DependencyRequest} {next : DependencyPhase}
    (started : startDependency s request = .ok next) :
    DependencyMoves s .idle (.start request) s next := by
  unfold startDependency at started
  cases request with
  | create env orgId request =>
    obtain ⟨org, found, allowed⟩ := bind_eq_ok started
    obtain ⟨_, _, done⟩ := bind_eq_ok allowed
    have stored := require_eq_ok.mp found
    obtain rfl := ((s.organizations.get?_eq_some_iff orgId org).mp stored).2
    cases done
    exact .creates stored
  | delete orgId depId =>
    obtain ⟨dep, found, done⟩ := bind_eq_ok started
    obtain ⟨stored, _⟩ := Option.filter_eq_some_iff.mp (requireOwned_eq_ok.mp found).1
    obtain rfl := ((Table.get?_eq_some_iff _ depId dep).mp stored).2
    cases done
    exact .deletes

theorem advanceDependency_moves {s t : Platform} {phase next : DependencyPhase}
    (advanced : advanceDependency s phase = .ok (t, next)) :
    DependencyMoves s phase .advance t next := by
  cases phase with
  | idle =>
    cases advanced
    exact .stays _ _
  | counting env org request =>
    obtain ⟨_, below, advanced⟩ := bind_eq_ok advanced
    cases advanced
    exact .counts (Nat.lt_of_not_le (refuseIf_eq_ok.mp below))
  | choosing env orgId request =>
    obtain ⟨application, _, advanced⟩ := bind_eq_ok advanced
    cases advanced
    exact .chooses
  | inserting env orgId request application =>
    obtain ⟨committed, inserted, advanced⟩ := bind_eq_ok advanced
    cases advanced
    exact .inserts inserted
  | deleting depId =>
    cases advanced
    exact .softDeletes

theorem dependencyAct_moves (s : Platform) (phase : DependencyPhase) (act : DependencyAct) :
    DependencyMoves s phase act (dependencyAct s phase act).1 (dependencyAct s phase act).2 := by
  cases act with
  | start request =>
    cases phase with
    | idle =>
      simp only [dependencyAct]
      cases started : startDependency s request with
      | ok next => exact startDependency_moves started
      | error failure => exact .ends _ _
    | counting | choosing | inserting | deleting => exact .stays _ _
  | advance =>
    simp only [dependencyAct]
    cases advanced : advanceDependency s phase with
    | ok next => exact advanceDependency_moves advanced
    | error failure => exact .ends _ _
  | abort => exact .ends _ _

/-! ## What a commit leaves -/

/-- The ids of the new rows are new. -/
def FreshIds (env : ServiceEnvironment) (application : Option Uuid) (s : Platform) : Prop :=
  env.newId 0 ∉ s.workspace.dependencies.rows.map (·.id) ∧
    (application = none → env.newId 1 ∉ s.workspace.applications.rows.map (·.id))

theorem applicationsFor_isOk_iff (env : ServiceEnvironment) (orgId : Uuid) (s : Platform)
    (application : Option Uuid) :
    (∃ applications, applicationsFor env orgId s application = .ok applications) ↔
      (application = none → env.newId 1 ∉ s.workspace.applications.rows.map (·.id)) := by
  cases application with
  | some applicationId => simp [applicationsFor]
  | none =>
    simp only [applicationsFor, flushNew_isOk_iff, forall_const]
    rfl

theorem insertDependency_isOk_iff (env : ServiceEnvironment) (orgId : Uuid)
    (request : DependencyCreateRequest) (application : Option Uuid) (s : Platform) :
    (∃ t, insertDependency env orgId request application s = .ok t) ↔
      FreshIds env application s := by
  have added := flushNew_isOk_iff s.workspace.dependencies
    (newDependency env orgId (application.getD (env.newId 1)) request)
  unfold FreshIds insertDependency
  rw [← applicationsFor_isOk_iff env orgId]
  cases applicationsFor env orgId s application with
  | error failure => simp [bind, Except.bind]
  | ok applications =>
    cases flushed : flushNew s.workspace.dependencies
        (newDependency env orgId (application.getD (env.newId 1)) request) with
    | error failure =>
      rw [flushed] at added
      simpa [bind, Except.bind, newDependency] using added
    | ok dependencies =>
      rw [flushed] at added
      simpa [bind, Except.bind, pure, Except.pure, newDependency] using added

theorem insertDependency_ok {env : ServiceEnvironment} {orgId : Uuid}
    {request : DependencyCreateRequest} {application : Option Uuid} {s t : Platform}
    (inserted : insertDependency env orgId request application s = .ok t) :
    t.organizations = s.organizations ∧ ∀ X, dependencyCount t X =
      dependencyCount s X + if orgId = X then 1 else 0 := by
  obtain ⟨applications, _, inserted⟩ := bind_eq_ok inserted
  obtain ⟨dependencies, flushed, inserted⟩ := bind_eq_ok inserted
  cases inserted
  refine ⟨rfl, fun X => ?_⟩
  have rows := (Table.insert_eq_some (flushNew_eq_ok.mp flushed)).2
  unfold dependencyCount
  rw [rows, List.countP_append, List.countP_singleton]
  simp [newDependency]

theorem dependencyCount_softDelete_le (depId : Uuid) (s : Platform) (X : Uuid) :
    dependencyCount (softDelete depId s) X ≤ dependencyCount s X := by
  unfold dependencyCount softDelete
  rw [Table.updateKey_rows, List.countP_map]
  refine List.countP_mono_left (fun dep _ counted => ?_)
  simp only [Function.comp_apply, decide_eq_true_eq] at counted ⊢
  split at counted
  · cases counted.2
  · exact counted

/-! ## One request alone -/

/-- The rest of a creation on the state it was read in. -/
def completeDependency (s : Platform) (phase : DependencyPhase) : Except Failure Platform := do
  let (s₁, phase₁) ← advanceDependency s phase
  let (s₂, phase₂) ← advanceDependency s₁ phase₁
  let (s₃, _) ← advanceDependency s₂ phase₂
  return s₃

/-- The application is chosen and the row added as `create_dependency` does it. -/
theorem insert_chosen (env : ServiceEnvironment) (orgId : Uuid)
    (request : DependencyCreateRequest) (s : Platform) :
    (do
      let application ← chooseApplication s orgId request.applicationId
      insertDependency env orgId request application s) =
    (do
      let (applicationId, applications) ← applicationFor env s orgId request.applicationId
      let dependencies ← flushNew s.workspace.dependencies
        (newDependency env orgId applicationId request)
      return { s with workspace := { s.workspace with
        applications := applications
        dependencies := dependencies } }) := by
  unfold chooseApplication applicationFor insertDependency
  cases request.applicationId with
  | some applicationId =>
    dsimp only
    cases requireApplication s orgId applicationId with
    | error failure => rfl
    | ok application => rfl
  | none =>
    dsimp only
    cases getDefaultApplication s orgId with
    | some application => rfl
    | none =>
      simp only [Option.map_none, bind, Except.bind, pure, Except.pure, applicationsFor]
      cases flushNew s.workspace.applications (defaultApplication env (env.newId 1) orgId) with
      | error failure => rfl
      | ok applications => rfl

theorem createDependency_eq_statements (env : ServiceEnvironment) (orgId : Uuid)
    (request : DependencyCreateRequest) (s : Platform) :
    createDependency env orgId request s =
      startDependency s (.create env orgId request) >>= completeDependency s := by
  unfold createDependency
  simp only [startDependency]
  cases found : require (s.organizations.get? orgId) (notFound "Organization not found") with
  | error failure => rfl
  | ok org =>
    have own := ((s.organizations.get?_eq_some_iff orgId org).mp (require_eq_ok.mp found)).2
    simp only [bind, Except.bind]
    cases refuseIf (request.checkIntervalSeconds < org.plan.checkInterval)
        (minimumInterval org.plan) with
    | error failure => rfl
    | ok _ =>
      simp only [pure, Except.pure, completeDependency, advanceDependency, own, limitReached, bind,
        Except.bind]
      cases refuseIf (org.plan.dependencyLimit ≤ dependencyCount s orgId) (conflict
          ("Dependency limit reached for plan '" ++ org.plan.value ++ "' (" ++
            toString org.plan.dependencyLimit ++ ").")) with
      | error failure => rfl
      | ok _ =>
        have inserted := insert_chosen env orgId request s
        simp only [bind, Except.bind, pure, Except.pure] at inserted
        dsimp only
        rw [← inserted]
        cases chooseApplication s orgId request.applicationId with
        | error failure => rfl
        | ok application =>
          dsimp only
          cases insertDependency env orgId request application s with
          | error failure => rfl
          | ok committed => rfl

theorem deleteDependency_eq_statements (orgId depId : Uuid) (s : Platform) :
    deleteDependency orgId depId s =
      startDependency s (.delete orgId depId) >>= completeDependency s := by
  unfold deleteDependency
  simp only [startDependency]
  cases requireOwned (dependencyById s depId) (·.orgId) orgId "Dependency not found" with
  | error failure => rfl
  | ok dep => rfl

end Reliastra.Source.Api
