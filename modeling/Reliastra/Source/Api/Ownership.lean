import Reliastra.Source.Api.Routes
import Reliastra.Source.Billing.Effects

/-!
# Whose rows a handler writes

`OnlyOf` says that a change is confined to the data of one organization: its own
row, the rows that name it, and the rows that name one of its incidents. Users,
the partner program and what the community shares belong to no organization.

Every handler that takes the organization from the route's dependency stays
within it, because it looks its rows up with the organization's check. The
exceptions are `generate_for_incident`, which follows the incident, and the
handlers of payments and submissions, which take what they write elsewhere.
-/

namespace Reliastra.Source.Api

open Reliastra.Library Auth Organizations

/-! ## Confinement -/

def Workspace.IncidentOf (w : Workspace) (orgId incidentId : Uuid) : Prop :=
  ∃ incident ∈ w.incidents.rows, incident.id = incidentId ∧ incident.orgId = orgId

structure WorkspaceOnlyOf (X : Uuid) (before after : Workspace) : Prop where
  clients : SameOutside (fun row => row.orgId = X) before.clients.rows after.clients.rows
  applications :
    SameOutside (fun row => row.orgId = X) before.applications.rows after.applications.rows
  dependencies :
    SameOutside (fun row => row.orgId = X) before.dependencies.rows after.dependencies.rows
  incidents : SameOutside (fun row => row.orgId = X) before.incidents.rows after.incidents.rows
  correlations : SameOutside (fun row => before.IncidentOf X row.incidentId)
    before.correlations.rows after.correlations.rows
  attributionResults : SameOutside (fun row => row.orgId = X)
    before.attributionResults.rows after.attributionResults.rows
  evidenceReports :
    SameOutside (fun row => row.orgId = X) before.evidenceReports.rows after.evidenceReports.rows
  evidenceSnapshots : SameOutside (fun row => row.orgId = X)
    before.evidenceSnapshots.rows after.evidenceSnapshots.rows
  publicReports : SameOutside (fun row => before.IncidentOf X row.incidentId)
    before.publicReports.rows after.publicReports.rows
  alertConfigs :
    SameOutside (fun row => row.orgId = X) before.alertConfigs.rows after.alertConfigs.rows
  aiProviders :
    SameOutside (fun row => row.organizationId = X) before.aiProviders.rows after.aiProviders.rows
  webhooks : SameOutside (fun row => row.orgId = X) before.webhooks.rows after.webhooks.rows
  statusPages :
    SameOutside (fun row => row.orgId = X) before.statusPages.rows after.statusPages.rows
  subscriptions : SameOutside (fun row => row.organizationId = X)
    before.subscriptions.rows after.subscriptions.rows
  planOverrides :
    SameOutside (fun row => row.orgId = X) before.planOverrides.rows after.planOverrides.rows
  auditLogs :
    SameOutside (fun row => row.orgId = some X) before.auditLogs.rows after.auditLogs.rows

/-- The database differs at most in data that belongs to the organization. -/
structure OnlyOf (X : Uuid) (before after : Platform) : Prop where
  users : after.users = before.users
  organizations :
    SameOutside (fun row => row.id = X) before.organizations.rows after.organizations.rows
  members : SameOutside (fun row => row.orgId = X) before.members.rows after.members.rows
  apiKeys : SameOutside (fun row => row.orgId = X) before.apiKeys.rows after.apiKeys.rows
  workspace : WorkspaceOnlyOf X before.workspace after.workspace
  community : after.community = before.community
  partners : after.partners = before.partners

theorem WorkspaceOnlyOf.refl (X : Uuid) (w : Workspace) : WorkspaceOnlyOf X w w where
  clients := SameOutside.refl _ _
  applications := SameOutside.refl _ _
  dependencies := SameOutside.refl _ _
  incidents := SameOutside.refl _ _
  correlations := SameOutside.refl _ _
  attributionResults := SameOutside.refl _ _
  evidenceReports := SameOutside.refl _ _
  evidenceSnapshots := SameOutside.refl _ _
  publicReports := SameOutside.refl _ _
  alertConfigs := SameOutside.refl _ _
  aiProviders := SameOutside.refl _ _
  webhooks := SameOutside.refl _ _
  statusPages := SameOutside.refl _ _
  subscriptions := SameOutside.refl _ _
  planOverrides := SameOutside.refl _ _
  auditLogs := SameOutside.refl _ _

theorem OnlyOf.refl (X : Uuid) (s : Platform) : OnlyOf X s s where
  users := rfl
  organizations := SameOutside.refl _ _
  members := SameOutside.refl _ _
  apiKeys := SameOutside.refl _ _
  workspace := WorkspaceOnlyOf.refl X s.workspace
  community := rfl
  partners := rfl

/-- A change inside the workspace. -/
theorem OnlyOf.of_workspace {X : Uuid} {s : Platform} {w : Workspace}
    (only : WorkspaceOnlyOf X s.workspace w) : OnlyOf X s { s with workspace := w } :=
  { OnlyOf.refl X s with workspace := only }

/-! ## Lookups and statements -/

section Statements

variable {ρ : Type} {key : ρ → Uuid} {mine : ρ → Prop} {t u : Table key}

theorem mem_of_require {id : Uuid} {missing : Failure} {row : ρ}
    (success : require (t.get? id) missing = .ok row) : row ∈ t.rows ∧ key row = id :=
  (Table.get?_eq_some_iff _ _ _).mp (require_eq_ok.mp success)

theorem mem_of_requireOwned {id X : Uuid} {orgOf : ρ → Uuid} {message : String} {row : ρ}
    (success : requireOwned (t.get? id) orgOf X message = .ok row) :
    row ∈ t.rows ∧ key row = id ∧ orgOf row = X := by
  obtain ⟨found, owned⟩ := requireOwned_eq_ok.mp success
  obtain ⟨place, here⟩ := (Table.get?_eq_some_iff _ _ _).mp found
  exact ⟨place, here, owned⟩

theorem mem_of_requireOwned_filter {id X : Uuid} {p : ρ → Bool} {orgOf : ρ → Uuid}
    {message : String} {row : ρ}
    (success : requireOwned ((t.get? id).filter p) orgOf X message = .ok row) :
    row ∈ t.rows ∧ orgOf row = X := by
  obtain ⟨found, owned⟩ := requireOwned_eq_ok.mp success
  obtain ⟨found, _⟩ := Option.filter_eq_some_iff.mp found
  exact ⟨((Table.get?_eq_some_iff _ _ _).mp found).1, owned⟩

theorem sameOutside_flushNew {row : ρ} (success : flushNew t row = .ok u) (owned : mine row) :
    SameOutside mine t.rows u.rows :=
  Table.sameOutside_insert (flushNew_eq_ok.mp success) owned

end Statements

variable {env : ServiceEnvironment} {X : Uuid} {s after : Platform}

/-! ## Organizations, clients, keys -/

theorem updateOrg_only {request : OrganizationUpdateRequest}
    (success : updateOrg X request s = .ok after) : OnlyOf X s after := by
  unfold updateOrg at success
  obtain ⟨org, found, success⟩ := bind_eq_ok success
  obtain ⟨place, here⟩ := mem_of_require found
  obtain rfl := Except.ok.inj success
  exact { OnlyOf.refl X s with
    organizations := Table.sameOutside_updateFound place here here }

theorem mem_of_membership {userId : Uuid} {member : OrganizationMember}
    (success : membership s X userId = .ok (some member)) :
    member ∈ s.members.rows ∧ member.orgId = X := by
  unfold membership at success
  have selected := mem_of_oneOrNone success
  have conditions := List.mem_filter.mp selected
  exact ⟨conditions.1, (of_decide_eq_true conditions.2).1⟩

theorem inviteMember_only {request : OrganizationMemberInviteRequest}
    (success : inviteMember env X request s = .ok after) : OnlyOf X s after := by
  unfold inviteMember at success
  obtain ⟨user, _, success⟩ := bind_eq_ok success
  obtain ⟨existing, queried, success⟩ := bind_eq_ok success
  cases existing with
  | some member =>
    obtain ⟨_, _, success⟩ := bind_eq_ok success
    obtain ⟨place, owned⟩ := mem_of_membership queried
    obtain rfl := Except.ok.inj success
    exact { OnlyOf.refl X s with
      members := Table.sameOutside_updateFound place owned owned }
  | none =>
    obtain ⟨members, flushed, success⟩ := bind_eq_ok success
    obtain rfl := Except.ok.inj success
    exact { OnlyOf.refl X s with members := sameOutside_flushNew flushed rfl }

theorem changeMemberRole_only {memberId : Uuid} {role : Role}
    (success : changeMemberRole X memberId role s = .ok after) : OnlyOf X s after := by
  unfold changeMemberRole at success
  obtain ⟨member, found, success⟩ := bind_eq_ok success
  obtain ⟨place, owned⟩ := mem_of_requireOwned_filter found
  obtain rfl := Except.ok.inj success
  exact { OnlyOf.refl X s with
    members := Table.sameOutside_updateFound place owned owned }

theorem removeMember_only {memberId : Uuid}
    (success : removeMember X memberId s = .ok after) : OnlyOf X s after := by
  unfold removeMember at success
  obtain ⟨member, found, success⟩ := bind_eq_ok success
  obtain ⟨place, owned⟩ := mem_of_requireOwned_filter found
  obtain ⟨_, _, success⟩ := bind_eq_ok success
  obtain rfl := Except.ok.inj success
  exact { OnlyOf.refl X s with
    members := Table.sameOutside_updateFound place owned owned }

theorem createClient_only {request : ClientCreateRequest}
    (success : createClient env X request s = .ok after) : OnlyOf X s after := by
  unfold createClient at success
  obtain ⟨org, found, success⟩ := bind_eq_ok success
  obtain ⟨place, here⟩ := mem_of_require found
  obtain ⟨clients, flushed, success⟩ := bind_eq_ok success
  obtain rfl := Except.ok.inj success
  exact { OnlyOf.refl X s with
    organizations := Table.sameOutside_updateFound place here here
    workspace := { WorkspaceOnlyOf.refl X s.workspace with
      clients := sameOutside_flushNew flushed rfl } }

theorem createApplication_only {clientId : Uuid} {request : ApplicationCreateRequest}
    (success : createApplication env X clientId request s = .ok after) : OnlyOf X s after := by
  unfold createApplication at success
  obtain ⟨client, _, success⟩ := bind_eq_ok success
  obtain ⟨applications, flushed, success⟩ := bind_eq_ok success
  obtain rfl := Except.ok.inj success
  exact OnlyOf.of_workspace { WorkspaceOnlyOf.refl X s.workspace with
    applications := sameOutside_flushNew flushed rfl }

theorem createKey_only {request : ApiKeyCreateRequest}
    (success : createKey env X request s = .ok after) : OnlyOf X s after := by
  unfold createKey at success
  obtain ⟨apiKeys, flushed, success⟩ := bind_eq_ok success
  obtain rfl := Except.ok.inj success
  exact { OnlyOf.refl X s with apiKeys := sameOutside_flushNew flushed rfl }

theorem revokeKey_only {keyId : Uuid} (success : revokeKey X keyId s = .ok after) :
    OnlyOf X s after := by
  unfold revokeKey at success
  obtain ⟨key, found, success⟩ := bind_eq_ok success
  obtain ⟨place, owned⟩ := mem_of_requireOwned_filter found
  obtain rfl := Except.ok.inj success
  exact { OnlyOf.refl X s with
    apiKeys := Table.sameOutside_updateFound place owned owned }

theorem createOrgStatusPage_only {request : StatusPageConfigRequest}
    (success : createOrgStatusPage env X request s = .ok after) : OnlyOf X s after := by
  unfold createOrgStatusPage at success
  obtain ⟨_, _, success⟩ := bind_eq_ok success
  obtain ⟨_, _, success⟩ := bind_eq_ok success
  obtain ⟨statusPages, flushed, success⟩ := bind_eq_ok success
  obtain rfl := Except.ok.inj success
  exact OnlyOf.of_workspace { WorkspaceOnlyOf.refl X s.workspace with
    statusPages := sameOutside_flushNew flushed rfl }

/-! ## Dependencies -/

theorem applicationFor_only {named : Option Uuid} {applicationId : Uuid}
    {applications : Table Application.id}
    (success : applicationFor env s X named = .ok (applicationId, applications)) :
    SameOutside (fun row => row.orgId = X) s.workspace.applications.rows applications.rows := by
  unfold applicationFor at success
  split at success
  · obtain ⟨_, _, success⟩ := bind_eq_ok success
    cases success
    exact SameOutside.refl _ _
  · split at success
    · cases success
      exact SameOutside.refl _ _
    · obtain ⟨_, flushed, success⟩ := bind_eq_ok success
      cases success
      exact sameOutside_flushNew flushed rfl

theorem createDependency_only {request : DependencyCreateRequest}
    (success : createDependency env X request s = .ok after) : OnlyOf X s after := by
  unfold createDependency at success
  obtain ⟨_, _, success⟩ := bind_eq_ok success
  obtain ⟨_, _, success⟩ := bind_eq_ok success
  obtain ⟨_, _, success⟩ := bind_eq_ok success
  obtain ⟨⟨applicationId, applications⟩, chosen, success⟩ := bind_eq_ok success
  obtain ⟨dependencies, flushed, success⟩ := bind_eq_ok success
  obtain rfl := Except.ok.inj success
  exact OnlyOf.of_workspace { WorkspaceOnlyOf.refl X s.workspace with
    applications := applicationFor_only chosen
    dependencies := sameOutside_flushNew flushed rfl }

theorem updateDependency_only {depId : Uuid} {request : DependencyUpdateRequest}
    (success : updateDependency env X depId request s = .ok after) : OnlyOf X s after := by
  unfold updateDependency at success
  obtain ⟨dep, found, success⟩ := bind_eq_ok success
  obtain ⟨place, owned⟩ := mem_of_requireOwned_filter found
  obtain ⟨_, _, success⟩ := bind_eq_ok success
  obtain rfl := Except.ok.inj success
  exact OnlyOf.of_workspace { WorkspaceOnlyOf.refl X s.workspace with
    dependencies := Table.sameOutside_updateFound place owned owned }

theorem deleteDependency_only {depId : Uuid}
    (success : deleteDependency X depId s = .ok after) : OnlyOf X s after := by
  unfold deleteDependency at success
  obtain ⟨dep, found, success⟩ := bind_eq_ok success
  obtain ⟨place, owned⟩ := mem_of_requireOwned_filter found
  obtain rfl := Except.ok.inj success
  exact OnlyOf.of_workspace { WorkspaceOnlyOf.refl X s.workspace with
    dependencies := Table.sameOutside_updateFound place owned owned }

/-! ## Incidents -/

theorem storeAttribution_only (env : ServiceEnvironment) {incident : Incident} (w : Workspace)
    (owned : incident.orgId = X) :
    ∃ results, storeAttribution env incident w = { w with attributionResults := results } ∧
      SameOutside (fun row => row.orgId = X) w.attributionResults.rows results.rows := by
  unfold storeAttribution
  split
  · exact ⟨w.attributionResults, rfl, SameOutside.refl _ _⟩
  · split
    · exact ⟨w.attributionResults, rfl, SameOutside.refl _ _⟩
    · split
      · exact ⟨w.attributionResults, rfl, SameOutside.refl _ _⟩
      · next results inserted => exact ⟨results, rfl, Table.sameOutside_insert inserted owned⟩

/-- Resolving sets columns of one incident and may store its attribution. -/
theorem resolveIncident_only {incId : Uuid} {w resolved : Workspace}
    (success : resolveIncident env X incId w = .ok resolved) :
    ∃ incidents results,
      resolved = { w with incidents := incidents, attributionResults := results } ∧
      SameOutside (fun row => row.orgId = X) w.incidents.rows incidents.rows ∧
      SameOutside (fun row => row.orgId = X) w.attributionResults.rows results.rows := by
  unfold resolveIncident at success
  obtain ⟨incident, found, success⟩ := bind_eq_ok success
  obtain ⟨place, _, owned⟩ := mem_of_requireOwned found
  split at success
  · obtain rfl := Except.ok.inj success
    exact ⟨w.incidents, w.attributionResults, rfl, SameOutside.refl _ _, SameOutside.refl _ _⟩
  · obtain rfl := Except.ok.inj success
    let incidents := w.incidents.updateKey incident.id
      (fun i => { i with status := .resolved, resolvedAt := some env.now }) (fun _ => rfl)
    have written : SameOutside (fun row => row.orgId = X) w.incidents.rows incidents.rows :=
      Table.sameOutside_updateFound place owned owned
    obtain ⟨results, same, attributed⟩ := storeAttribution_only env
      { w with incidents := incidents }
      (show { incident with status := .resolved, resolvedAt := some env.now }.orgId = X from owned)
    exact ⟨incidents, results, same, written, attributed⟩

/-- What a handler writes to the row of an incident of the organization. -/
theorem updateIncident_only {incId : Uuid} {request : IncidentUpdateRequest}
    (success : updateIncident env X incId request s = .ok after) : OnlyOf X s after := by
  unfold updateIncident at success
  obtain ⟨incident, found, success⟩ := bind_eq_ok success
  obtain ⟨place, _, owned⟩ := mem_of_requireOwned found
  let incidents := s.workspace.incidents.updateKey incident.id (updatedIncident request)
    (fun _ => rfl)
  have written : SameOutside (fun row => row.orgId = X) s.workspace.incidents.rows
      incidents.rows := Table.sameOutside_updateFound place owned owned
  dsimp only at success
  split at success
  · obtain ⟨workspace, resolved, success⟩ := bind_eq_ok success
    obtain rfl := Except.ok.inj success
    obtain ⟨resolvedRows, results, rfl, changed, attributed⟩ := resolveIncident_only resolved
    exact OnlyOf.of_workspace { WorkspaceOnlyOf.refl X s.workspace with
      incidents := written.trans changed
      attributionResults := attributed }
  · obtain rfl := Except.ok.inj success
    exact OnlyOf.of_workspace { WorkspaceOnlyOf.refl X s.workspace with incidents := written }

theorem manuallyCorrelate_only {incId : Uuid} {request : IncidentCorrelateRequest}
    (success : manuallyCorrelate env X incId request s = .ok after) : OnlyOf X s after := by
  unfold manuallyCorrelate at success
  obtain ⟨incident, found, success⟩ := bind_eq_ok success
  obtain ⟨place, _, owned⟩ := mem_of_requireOwned found
  obtain ⟨correlations, flushed, success⟩ := bind_eq_ok success
  obtain rfl := Except.ok.inj success
  exact OnlyOf.of_workspace { WorkspaceOnlyOf.refl X s.workspace with
    correlations := sameOutside_flushNew flushed ⟨incident, place, rfl, owned⟩ }

/-! ## Evidence -/

/-- The rows follow the incident, whoever asked, and one of them is new. -/
theorem generateForIncident_only {incidentId : Uuid}
    (success : generateForIncident env incidentId s = .ok after) :
    ∃ incident ∈ s.workspace.incidents.rows, incident.id = incidentId ∧
      OnlyOf incident.orgId s after ∧
      ∃ report ∈ after.workspace.evidenceReports.rows,
        report ∉ s.workspace.evidenceReports.rows ∧ report.orgId = incident.orgId := by
  unfold generateForIncident at success
  obtain ⟨incident, found, success⟩ := bind_eq_ok success
  obtain ⟨place, here⟩ := mem_of_require found
  obtain ⟨dependency, _, success⟩ := bind_eq_ok success
  obtain ⟨rendering, _, success⟩ := bind_eq_ok success
  obtain ⟨reports, reported, success⟩ := bind_eq_ok success
  obtain ⟨snapshots, taken, success⟩ := bind_eq_ok success
  obtain ⟨auditLogs, logged, success⟩ := bind_eq_ok success
  obtain rfl := Except.ok.inj success
  refine ⟨incident, place, here, ?_, newReport env incident rendering, ?_, ?_, rfl⟩
  · exact OnlyOf.of_workspace { WorkspaceOnlyOf.refl incident.orgId s.workspace with
      evidenceReports := sameOutside_flushNew reported rfl
      evidenceSnapshots := sameOutside_flushNew taken rfl
      auditLogs := sameOutside_flushNew logged rfl }
  · have rows := (Table.insert_eq_some (flushNew_eq_ok.mp reported)).2
    dsimp only
    rw [rows]
    exact List.mem_append_right _ (List.mem_singleton_self _)
  · intro old
    exact (Table.insert_eq_some (flushNew_eq_ok.mp reported)).1 (List.mem_map_of_mem old)

theorem getOrTriggerEvidence_only {incId : Uuid}
    (success : getOrTriggerEvidence env X incId s = .ok after) : OnlyOf X s after := by
  unfold getOrTriggerEvidence at success
  obtain ⟨incident, found, success⟩ := bind_eq_ok success
  obtain ⟨place, _, owned⟩ := mem_of_requireOwned found
  split at success
  · obtain rfl := Except.ok.inj success
    exact OnlyOf.refl X s
  · obtain ⟨other, place', same, only, _⟩ := generateForIncident_only success
    rw [Table.eq_of_key place' place same, owned] at only
    exact only

theorem publicizeEvidence_only {request : PublicizeEvidenceRequest}
    (success : publicizeEvidence env X request s = .ok after) : OnlyOf X s after := by
  unfold publicizeEvidence at success
  obtain ⟨incident, found, success⟩ := bind_eq_ok success
  obtain ⟨place, _, owned⟩ := mem_of_requireOwned found
  obtain ⟨report, _, success⟩ := bind_eq_ok success
  split at success
  · next existing newest =>
    have selected := List.mem_of_mem_head? newest
    have selected := (List.mem_insertionSort _).mp selected
    have conditions := List.mem_filter.mp selected
    have ours : s.workspace.IncidentOf X existing.incidentId :=
      ⟨incident, place, (of_decide_eq_true conditions.2).symm, owned⟩
    obtain rfl := Except.ok.inj success
    exact OnlyOf.of_workspace { WorkspaceOnlyOf.refl X s.workspace with
      publicReports := Table.sameOutside_updateFound conditions.1 ours ours }
  · obtain ⟨_, _, success⟩ := bind_eq_ok success
    obtain ⟨publicReports, flushed, success⟩ := bind_eq_ok success
    obtain rfl := Except.ok.inj success
    exact OnlyOf.of_workspace { WorkspaceOnlyOf.refl X s.workspace with
      publicReports := sameOutside_flushNew flushed ⟨incident, place, rfl, owned⟩ }

/-! ## Alert channels, webhooks, AI providers -/

theorem createConfig_only {request : AlertConfigCreateRequest}
    (success : createConfig env X request s = .ok after) : OnlyOf X s after := by
  unfold createConfig at success
  obtain ⟨alertConfigs, flushed, success⟩ := bind_eq_ok success
  obtain rfl := Except.ok.inj success
  exact OnlyOf.of_workspace { WorkspaceOnlyOf.refl X s.workspace with
    alertConfigs := sameOutside_flushNew flushed rfl }

theorem updateConfig_only {configId : Uuid} {request : AlertConfigUpdateRequest}
    (success : updateConfig X configId request s = .ok after) : OnlyOf X s after := by
  unfold updateConfig at success
  obtain ⟨cfg, found, success⟩ := bind_eq_ok success
  obtain ⟨place, _, owned⟩ := mem_of_requireOwned found
  obtain rfl := Except.ok.inj success
  exact OnlyOf.of_workspace { WorkspaceOnlyOf.refl X s.workspace with
    alertConfigs := Table.sameOutside_updateFound place owned owned }

theorem deleteConfig_only {configId : Uuid}
    (success : deleteConfig X configId s = .ok after) : OnlyOf X s after := by
  unfold deleteConfig at success
  obtain ⟨cfg, found, success⟩ := bind_eq_ok success
  obtain ⟨place, _, owned⟩ := mem_of_requireOwned found
  obtain rfl := Except.ok.inj success
  exact OnlyOf.of_workspace { WorkspaceOnlyOf.refl X s.workspace with
    alertConfigs := Table.sameOutside_deleteFound place owned }

theorem createWebhook_only {userId : Uuid} {request : WebhookCreateRequest}
    (success : createWebhook env X userId request s = .ok after) : OnlyOf X s after := by
  unfold createWebhook at success
  obtain ⟨_, _, success⟩ := bind_eq_ok success
  obtain ⟨webhooks, flushed, success⟩ := bind_eq_ok success
  obtain rfl := Except.ok.inj success
  exact OnlyOf.of_workspace { WorkspaceOnlyOf.refl X s.workspace with
    webhooks := sameOutside_flushNew flushed rfl }

theorem updateWebhook_only {webhookId : Uuid} {request : WebhookUpdateRequest}
    (success : updateWebhook env X webhookId request s = .ok after) : OnlyOf X s after := by
  unfold updateWebhook at success
  obtain ⟨webhook, found, success⟩ := bind_eq_ok success
  obtain ⟨place, owned⟩ := mem_of_requireOwned_filter found
  obtain ⟨_, _, success⟩ := bind_eq_ok success
  obtain rfl := Except.ok.inj success
  exact OnlyOf.of_workspace { WorkspaceOnlyOf.refl X s.workspace with
    webhooks := Table.sameOutside_updateFound place owned owned }

theorem deleteWebhook_only {webhookId : Uuid}
    (success : deleteWebhook X webhookId s = .ok after) : OnlyOf X s after := by
  unfold deleteWebhook at success
  obtain ⟨webhook, found, success⟩ := bind_eq_ok success
  obtain ⟨place, owned⟩ := mem_of_requireOwned_filter found
  obtain rfl := Except.ok.inj success
  exact OnlyOf.of_workspace { WorkspaceOnlyOf.refl X s.workspace with
    webhooks := Table.sameOutside_updateFound place owned owned }

theorem clearDefaults_only (providers : Table AIProvider.id) (exclude : Option Uuid) :
    SameOutside (fun row => row.organizationId = X) providers.rows
      (clearDefaults providers X exclude).rows := by
  refine SameOutside.map (fun provider _ => ?_)
  split
  · next selected => exact Or.inr ⟨selected.1, selected.1⟩
  · exact Or.inl rfl

theorem owner_of_clearDefaults {providers : Table AIProvider.id} {exclude : Option Uuid}
    {row : AIProvider} (place : row ∈ (clearDefaults providers X exclude).rows) :
    ∃ old ∈ providers.rows, old.id = row.id ∧ old.organizationId = row.organizationId := by
  obtain ⟨old, there, same⟩ := List.mem_map.mp place
  refine ⟨old, there, ?_⟩
  rw [← same]
  split <;> exact ⟨rfl, rfl⟩

theorem createProvider_only {request : AIProviderCreateRequest}
    (success : createProvider env X request s = .ok after) : OnlyOf X s after := by
  unfold createProvider at success
  obtain ⟨_, _, success⟩ := bind_eq_ok success
  obtain ⟨aiProviders, flushed, success⟩ := bind_eq_ok success
  obtain ⟨auditLogs, logged, success⟩ := bind_eq_ok success
  obtain rfl := Except.ok.inj success
  have inserted : SameOutside (fun row => row.organizationId = X) _ aiProviders.rows :=
    sameOutside_flushNew flushed rfl
  have cleared : SameOutside (fun row => row.organizationId = X) s.workspace.aiProviders.rows
      aiProviders.rows := by
    split at inserted
    · exact (clearDefaults_only _ _).trans inserted
    · exact inserted
  exact OnlyOf.of_workspace { WorkspaceOnlyOf.refl X s.workspace with
    aiProviders := cleared
    auditLogs := sameOutside_flushNew logged rfl }

theorem updateProvider_only {providerId : Uuid} {request : AIProviderUpdateRequest}
    (success : updateProvider env X providerId request s = .ok after) : OnlyOf X s after := by
  unfold updateProvider at success
  obtain ⟨provider, found, success⟩ := bind_eq_ok success
  obtain ⟨place, _, owned⟩ := mem_of_requireOwned found
  obtain ⟨_, _, success⟩ := bind_eq_ok success
  obtain ⟨auditLogs, logged, success⟩ := bind_eq_ok success
  obtain rfl := Except.ok.inj success
  have written (cleared : Table AIProvider.id)
      (kept : ∀ row ∈ cleared.rows, row.id = provider.id → row.organizationId = X) :
      SameOutside (fun row => row.organizationId = X) cleared.rows
        (cleared.updateKey provider.id (updatedProvider env request) (fun _ => rfl)).rows :=
    Table.sameOutside_updateKey cleared _
      (fun row there same => ⟨kept row there same, kept row there same⟩)
  refine OnlyOf.of_workspace { WorkspaceOnlyOf.refl X s.workspace with
    aiProviders := ?_
    auditLogs := sameOutside_flushNew logged rfl }
  have ours (row : AIProvider) (there : row ∈ s.workspace.aiProviders.rows)
      (same : row.id = provider.id) : row.organizationId = X := by
    rw [Table.eq_of_key there place same]
    exact owned
  split
  · refine (clearDefaults_only _ _).trans (written _ (fun row there same => ?_))
    obtain ⟨old, place', id, organization⟩ := owner_of_clearDefaults there
    rw [← organization]
    exact ours old place' (id.trans same)
  · exact written _ ours

theorem deleteProvider_only {providerId : Uuid}
    (success : deleteProvider env X providerId s = .ok after) : OnlyOf X s after := by
  unfold deleteProvider at success
  obtain ⟨provider, found, success⟩ := bind_eq_ok success
  obtain ⟨place, _, owned⟩ := mem_of_requireOwned found
  obtain ⟨auditLogs, logged, success⟩ := bind_eq_ok success
  obtain rfl := Except.ok.inj success
  exact OnlyOf.of_workspace { WorkspaceOnlyOf.refl X s.workspace with
    aiProviders := Table.sameOutside_deleteFound place owned
    auditLogs := sameOutside_flushNew logged rfl }

/-! ## Payments -/

/-- Writing back what the billing service was shown changes nothing. -/
theorem withBilling_billing (s : Platform) : s.withBilling s.billing = s := by
  have plans (org : Organization) (place : org ∈ s.organizations.rows) :
      { org with plan := planIn s.billing org } = org := by
    have found : s.organizations.get? org.id = some org :=
      (Table.get?_eq_some_iff _ _ _).mpr ⟨place, rfl⟩
    have shown : s.billing.organizations.get? org.id = some ⟨org.id, org.plan⟩ := by
      rw [Platform.billing, Table.get?_project, found, Option.map_some]
    rw [planIn, shown]
    rfl
  have organizations : s.organizations.mapRows
      (fun org => { org with plan := planIn s.billing org }) (fun _ => rfl) = s.organizations :=
    Table.ext ((List.map_congr_left plans).trans (List.map_id _))
  unfold Platform.withBilling
  rw [organizations]
  rfl

/-- A payment whose organization already has the plan and the subscription it
buys. -/
def AlreadyProvisioned (env : ServiceEnvironment) (s : Platform) (orgId : Uuid) (data : Json)
    (reference : String) : Prop :=
  (∀ org ∈ s.organizations.rows, org.id = orgId →
    org.plan = Billing.normalizedPlan env.credentials.host data) ∧
  s.workspace.subscriptions.get? orgId = some (Billing.writtenRow orgId
    (Billing.paymentValues env.credentials.host data reference)
    (s.workspace.subscriptions.get? orgId))

/-- The billing database after a verification. -/
def verified (env : ServiceEnvironment) (s : Platform) (reference : String) : Billing.Database :=
  Billing.finish s.billing (Billing.verifyTransaction env.credentials.host env.billing
    (env.paystack reference) reference env.now (env.newId 0) s.billing)

abbrev Provisions (env : ServiceEnvironment) (s : Platform) (reference : String) (orgId : Uuid)
    (data : Json) : Prop :=
  Billing.Provisions env.credentials.host env.billing s.billing reference (env.paystack reference)
    env.now (env.newId 0) orgId data

/-- The partner tables after the commission of a payment was recorded. -/
def commissioned (env : ServiceEnvironment) (s : Platform) (reference : String) (orgId : Uuid)
    (data : Json) : PartnerTables :=
  partnerTables (Billing.recordPartnerCommission env.credentials.host env.billing orgId data
    reference env.now (env.newId 0) s.ledger).1

theorem plan_verified {reference : String} {orgId : Uuid} {data : Json}
    (provisions : Provisions env s reference orgId data) {org : Organization}
    (place : org ∈ s.organizations.rows) :
    planIn (verified env s reference) org =
      if org.id = orgId then Billing.normalizedPlan env.credentials.host data else org.plan := by
  have rows : (verified env s reference).organizations.rows = s.billing.organizations.rows.map
      (fun org => if org.id = orgId then
        { org with plan := Billing.normalizedPlan env.credentials.host data } else org) :=
    (Billing.verify_provisions provisions).organizations
  have written : (verified env s reference).organizations = s.billing.organizations.updateKey orgId
      (fun org => { org with plan := Billing.normalizedPlan env.credentials.host data })
      (fun _ => rfl) := by
    apply Table.ext
    rw [rows, Table.updateKey_rows]
  have found : s.organizations.get? org.id = some org :=
    (Table.get?_eq_some_iff _ _ _).mpr ⟨place, rfl⟩
  have shown : s.billing.organizations.get? org.id = some ⟨org.id, org.plan⟩ := by
    rw [Platform.billing, Table.get?_project, found, Option.map_some]
  rw [planIn, written, Table.get?_updateKey, shown, Option.map_some, Option.map_some,
    Option.getD_some, apply_ite Billing.Organization.plan]

/-- Outside the organization that paid, plans and subscriptions stay; a replayed
payment leaves that organization's as well. -/
theorem verified_outside {reference : String} {orgId : Uuid} {data : Json}
    (provisions : Provisions env s reference orgId data)
    (ours : orgId = X ∨ AlreadyProvisioned env s orgId data reference) :
    SameOutside (fun row => row.id = X) s.organizations.rows
        (s.withBilling (verified env s reference)).organizations.rows ∧
      SameOutside (fun row => row.organizationId = X) s.workspace.subscriptions.rows
        (s.withBilling (verified env s reference)).workspace.subscriptions.rows := by
  obtain ⟨written, subscriptions, effect⟩ := (Billing.verify_provisions provisions).subscription
  constructor
  · refine SameOutside.map (fun org place => ?_)
    rw [plan_verified provisions place]
    split
    · next here =>
      rcases ours with same | already
      · exact Or.inr ⟨here.trans same, here.trans same⟩
      · rw [← already.1 org place here]
        exact Or.inl rfl
    · exact Or.inl rfl
  · have others (other : Uuid) (foreign : other ≠ X) :
        (verified env s reference).subscriptions.get? other =
          s.workspace.subscriptions.get? other := by
      rw [verified, subscriptions]
      by_cases here : other = orgId
      · subst here
        rw [effect.row]
        exact (ours.resolve_left foreign).2.symm
      · exact effect.others other here
    exact (Table.sameOutside_key_iff X).mpr others

/-- Who finds both unchanged outside `X` has paid with `X`, or replayed. -/
theorem ours_of_verified_outside {reference : String} {orgId : Uuid} {data : Json}
    (provisions : Provisions env s reference orgId data)
    (organizations : SameOutside (fun row => row.id = X) s.organizations.rows
      (s.withBilling (verified env s reference)).organizations.rows)
    (subscriptions : SameOutside (fun row => row.organizationId = X) s.workspace.subscriptions.rows
      (s.withBilling (verified env s reference)).workspace.subscriptions.rows) :
    orgId = X ∨ AlreadyProvisioned env s orgId data reference := by
  obtain ⟨written, stored, effect⟩ := (Billing.verify_provisions provisions).subscription
  refine or_iff_not_imp_left.mpr (fun other => ⟨?_, ?_⟩)
  · intro org place here
    have foreign : { org with plan := planIn (verified env s reference) org }.id ≠ X :=
      fun same => other (here.symm.trans same)
    have moved : { org with plan := planIn (verified env s reference) org } ∈
        s.organizations.rows :=
      (organizations _ foreign).mp (List.mem_map_of_mem place)
    have plan := congrArg Organization.plan (Table.eq_of_key moved place rfl)
    rw [← plan, plan_verified provisions place, if_pos here]
  · have untouched := (Table.sameOutside_key_iff X).mp subscriptions orgId other
    have row : (verified env s reference).subscriptions.get? orgId =
        s.workspace.subscriptions.get? orgId := untouched
    refine row.symm.trans ?_
    rw [verified, stored]
    exact effect.row

theorem recorded_verified {reference : String} {orgId : Uuid} {data : Json}
    (provisions : Provisions env s reference orgId data) :
    (s.withBilling (verified env s reference)).partners =
      commissioned env s reference orgId data :=
  congrArg partnerTables (Billing.verify_ledger provisions)

theorem only_verified_iff {reference : String} {orgId : Uuid} {data : Json}
    (provisions : Provisions env s reference orgId data) :
    OnlyOf X s (s.withBilling (verified env s reference)) ↔
      commissioned env s reference orgId data = s.partners ∧
        (orgId = X ∨ AlreadyProvisioned env s orgId data reference) := by
  have recorded := recorded_verified provisions
  constructor
  · intro only
    exact ⟨recorded.symm.trans only.partners,
      ours_of_verified_outside provisions only.organizations only.workspace.subscriptions⟩
  · intro ⟨unpaid, ours⟩
    obtain ⟨organizations, subscriptions⟩ := verified_outside provisions ours
    exact { OnlyOf.refl X s with
      organizations := organizations
      workspace := { WorkspaceOnlyOf.refl X s.workspace with subscriptions := subscriptions }
      partners := recorded.trans unpaid }

/-- What a verification leaves, put back into the platform's tables. -/
theorem verifyPayment_eq_ok {reference : String}
    (success : verifyPayment env reference s = .ok after) :
    after = s.withBilling (verified env s reference) := by
  unfold verifyPayment at success
  unfold verified Billing.finish
  split at success
  · next answer work done =>
    rw [done]
    dsimp only
    split at success
    · next active =>
      rw [if_pos active]
      exact (Except.ok.inj success).symm
    · next idle =>
      rw [if_neg idle, withBilling_billing]
      exact (Except.ok.inj success).symm
  · cases success

theorem verified_of_error {reference : String} {failure : Failure}
    (refused : verifyPayment env reference s = .error failure) :
    verified env s reference = s.billing := by
  unfold verifyPayment at refused
  unfold verified Billing.finish
  split at refused
  · split at refused <;> cases refused
  · next cause done => rw [done]

end Reliastra.Source.Api
