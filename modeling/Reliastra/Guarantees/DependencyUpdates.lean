import Reliastra.Source.Api.DependencySchemas

/-!
# What an update of a dependency changes

The request, the service and the repository each list the fields of an update. The
repository's list lacks the application and the alert threshold, and it skips `None`,
which is what the service makes of an empty header dictionary. So an update does what
it is told unless it names one of these three with something new.
-/

namespace Reliastra.Guarantees

open Reliastra.Library Reliastra.Source Api

section Update

variable (env : ServiceEnvironment) (decryptJsonb : String → Json)

/-- The headers a row stands for. -/
def headersOf (dep : Dependency) : Json := probeHeaders env.credentials.host decryptJsonb dep

/-- Each field given has the value given, the headers after decryption; each other field
is unchanged. -/
structure UpdatedAsTold (request : DependencyUpdateRequest) (before after : Dependency) : Prop where
  name : after.name = request.name.getD before.name
  applicationId : after.applicationId = request.applicationId.or before.applicationId
  endpointUrl : after.endpointUrl = request.endpointUrl.getD before.endpointUrl
  method : after.method = request.method.getD before.method
  headersGiven : ∀ headers ∈ request.headers, headersOf env decryptJsonb after = headers
  headersKept : request.headers = none → after.headers = before.headers
  expectedStatusCodes :
    after.expectedStatusCodes = request.expectedStatusCodes.getD before.expectedStatusCodes
  timeoutSeconds : after.timeoutSeconds = request.timeoutSeconds.getD before.timeoutSeconds
  checkIntervalSeconds :
    after.checkIntervalSeconds = request.checkIntervalSeconds.getD before.checkIntervalSeconds
  regions : after.regions = request.regions.getD before.regions
  alertThresholdMs : after.alertThresholdMs = request.alertThresholdMs.or before.alertThresholdMs
  isActive : after.isActive = request.isActive.getD before.isActive
  others : after.id = before.id ∧ after.orgId = before.orgId ∧
    after.nextCheckAt = before.nextCheckAt ∧ after.isDeleted = before.isDeleted

/-- The platform once the request has ended: an exception rolls the session back. -/
def afterUpdate (orgId depId : Uuid) (request : DependencyUpdateRequest) (s : Platform) : Platform :=
  match updateDependency env orgId depId request s with
  | .ok after => after
  | .error _ => s

/-- An update that passes the checks leaves the row as told; one that is rejected
leaves everything as it was. -/
def UpdateDoesAsTold (orgId depId : Uuid) (request : DependencyUpdateRequest) (s : Platform) : Prop :=
  (∀ dep, dependencyById s depId = some dep → dep.orgId = orgId →
    checkDependencyUpdate orgId request s = .ok () →
      ∃ updated, (afterUpdate env orgId depId request s).workspace.dependencies.get? depId =
        some updated ∧ UpdatedAsTold env decryptJsonb request dep updated) ∧
  ∀ failure, updateDependency env orgId depId request s = .error failure →
    afterUpdate env orgId depId request s = s

variable {env decryptJsonb} {orgId depId : Uuid} {request : DependencyUpdateRequest} {s : Platform}

/-- The row an update leaves where it passes the checks. -/
theorem afterUpdate_row {dep : Dependency} (found : dependencyById s depId = some dep)
    (owned : dep.orgId = orgId) (passes : checkDependencyUpdate orgId request s = .ok ()) :
    (afterUpdate env orgId depId request s).workspace.dependencies.get? depId =
      some (updatedDependency env request dep) := by
  have stored : s.workspace.dependencies.get? depId = some dep :=
    (Option.filter_eq_some_iff.mp found).1
  have id : dep.id = depId := ((Table.get?_eq_some_iff _ _ _).mp stored).2
  have here : requireOwned (dependencyById s depId) (·.orgId) orgId "Dependency not found" = .ok dep :=
    requireOwned_eq_ok.mpr ⟨found, owned⟩
  obtain ⟨after, done, dependencies⟩ : ∃ after,
      updateDependency env orgId depId request s = .ok after ∧
        after.workspace.dependencies = s.workspace.dependencies.updateKey dep.id
          (updatedDependency env request) (fun _ => rfl) := by
    unfold updateDependency
    rw [here]
    simp only [bind, Except.bind, passes]
    exact ⟨_, rfl, rfl⟩
  unfold afterUpdate
  rw [done]
  calc after.workspace.dependencies.get? depId
      = (s.workspace.dependencies.get? depId).map
          (fun row => if depId = dep.id then updatedDependency env request row else row) := by
        rw [dependencies]
        exact Table.get?_updateKey _ _ _ _ _
    _ = some (updatedDependency env request dep) := by
        rw [stored, Option.map_some, if_pos id.symm]

theorem encodeHeaders_empty : encodeHeaders env (some (.obj [])) = none := rfl

/-- Headers that were encrypted are read back. -/
theorem headersOf_encoded {dep : Dependency} {headers : Json} (present : headers.truthy = true)
    (roundTrip : decryptJsonb (env.encryptJsonb headers) = headers)
    (stored : dep.headers = encodeHeaders env (some headers)) :
    headersOf env decryptJsonb dep = headers := by
  unfold encodeHeaders at stored
  rw [Option.filter_some_pos present, Option.map_some] at stored
  have decoded : decodeHeaders env.credentials.host decryptJsonb dep.headers = some headers := by
    rw [stored]
    exact congrArg some roundTrip
  unfold headersOf probeHeaders
  rw [decoded, Option.filter_some_pos present, Option.getD_some]

/-- The headers of the row an update leaves. -/
theorem updated_headers_iff {mapping : CaseMapping} (accepted : request.Accepted mapping)
    (roundTrip : ∀ headers ∈ request.headers, decryptJsonb (env.encryptJsonb headers) = headers)
    (dep : Dependency) :
    (∀ headers ∈ request.headers,
      headersOf env decryptJsonb (updatedDependency env request dep) = headers) ↔
      (request.headers = some (.obj []) → headersOf env decryptJsonb dep = .obj []) := by
  cases given : request.headers with
  | none => simp
  | some headers =>
    obtain ⟨members, rfl, _⟩ := accepted.headers headers given
    simp only [Option.mem_def, Option.some.injEq, forall_eq']
    cases members with
    | nil =>
      have kept : (updatedDependency env request dep).headers = dep.headers := by
        simp only [updatedDependency, given, encodeHeaders_empty, Option.orElse_none]
      simp only [headersOf, probeHeaders, kept, true_implies]
    | cons entry rest =>
      have stored : (updatedDependency env request dep).headers =
          encodeHeaders env (some (.obj (entry :: rest))) := by
        simp only [updatedDependency, given]
        rfl
      have read : headersOf env decryptJsonb (updatedDependency env request dep) =
          .obj (entry :: rest) :=
        headersOf_encoded rfl (roundTrip _ (Option.mem_def.mpr given)) stored
      simp [read]

end Update

def probeToken : Json := .obj [("X-Probe", .str "1")]

/-- A server that has encrypted one header dictionary. -/
def fernetServer : ServiceEnvironment :=
  { plainServer oneTokenCredentials with encryptJsonb := fun _ => "gAAAAABl" }

def fernetDecrypt (text : String) : Json := if text = "gAAAAABl" then probeToken else .obj []

def probedApi : Dependency where
  id := 21
  orgId := 1
  applicationId := some 5
  name := "api"
  endpointUrl := "https://a.example"
  method := "GET"
  headers := some (.obj [("_encrypted_data", .str "gAAAAABl")])
  expectedStatusCodes := [200]
  timeoutSeconds := 10
  checkIntervalSeconds := 300
  nextCheckAt := none
  regions := ["us-east"]
  alertThresholdMs := none
  isActive := true
  isDeleted := false

/-- An organization with two applications and one dependency. -/
def probedPlatform : Platform where
  users := .empty
  organizations := ⟨[⟨1, "Acme", "acme", .free, false, 0⟩], by decide⟩
  members := .empty
  apiKeys := .empty
  workspace := ⟨.empty, ⟨[⟨5, 1, none, "Default", none, 0⟩, ⟨6, 1, none, "Shop", none, 1⟩], by decide⟩,
    ⟨[probedApi], by decide⟩, .empty, .empty, .empty, .empty, .empty, .empty, .empty,
    .empty, .empty, .empty, .empty, .empty, .empty⟩
  community := ⟨.empty, .empty, .empty, .empty, .empty, .empty, .empty⟩
  partners := ⟨.empty, .empty, .empty, .empty⟩

def unchanged : DependencyUpdateRequest :=
  ⟨none, none, none, none, none, none, none, none, none, none, none⟩

/-- New headers, and the dependency switched off. -/
def pausing : DependencyUpdateRequest :=
  { unchanged with headers := some probeToken, isActive := some false }

def moving : DependencyUpdateRequest := { unchanged with applicationId := some 6 }

def alerting : DependencyUpdateRequest := { unchanged with alertThresholdMs := some 500 }

def clearing : DependencyUpdateRequest := { unchanged with headers := some (.obj []) }

def plainMapping : CaseMapping := .plain

theorem pausing_accepted : pausing.Accepted plainMapping where
  name := by decide
  endpointUrl := by decide
  method := by decide
  headers := by
    intro headers given
    cases given
    exact ⟨_, rfl, validateHeaderDict_eq_ok_iff.mpr (by decide)⟩
  timeoutSeconds := by decide
  checkIntervalSeconds := by decide
  regions := by
    intro regions given
    cases given
  alertThresholdMs := by decide

end Reliastra.Guarantees
