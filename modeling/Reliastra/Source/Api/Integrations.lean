import Reliastra.Source.Api.Schema

/-!
# Alert channels, webhooks and AI providers

Source: the services of `app/modules/notifications`, `app/modules/webhooks` and
`app/modules/ai_integration`, with their repositories. The `test` handlers call
another server and write nothing; they are among the reading routes.
-/

namespace Reliastra.Source.Api

open Reliastra.Library

/-! ## Alert configurations -/

structure AlertConfigCreateRequest where
  channelType : String
  config : Json
  isActive : Bool

structure AlertConfigUpdateRequest where
  channelType : Option String
  config : Option Json
  isActive : Option Bool

def requireAlertConfig (s : Platform) (orgId configId : Uuid) : Except Failure AlertConfig :=
  requireOwned (s.workspace.alertConfigs.get? configId) (·.orgId) orgId
    "Alert configuration not found"

def createConfig (env : ServiceEnvironment) (orgId : Uuid) (request : AlertConfigCreateRequest)
    (s : Platform) : Except Failure Platform := do
  let alertConfigs ← flushNew s.workspace.alertConfigs
    ⟨env.newId 0, orgId, request.channelType, request.config, request.isActive⟩
  return { s with workspace := { s.workspace with alertConfigs := alertConfigs } }

def updatedConfig (request : AlertConfigUpdateRequest) (cfg : AlertConfig) : AlertConfig :=
  { cfg with
    channelType := request.channelType.getD cfg.channelType
    config := request.config.getD cfg.config
    isActive := request.isActive.getD cfg.isActive }

def updateConfig (orgId configId : Uuid) (request : AlertConfigUpdateRequest) (s : Platform) :
    Except Failure Platform := do
  let cfg ← requireAlertConfig s orgId configId
  let alertConfigs := s.workspace.alertConfigs.updateKey cfg.id (updatedConfig request)
    (fun _ => rfl)
  return { s with workspace := { s.workspace with alertConfigs := alertConfigs } }

def deleteConfig (orgId configId : Uuid) (s : Platform) : Except Failure Platform := do
  let cfg ← requireAlertConfig s orgId configId
  let alertConfigs := s.workspace.alertConfigs.deleteKey cfg.id
  return { s with workspace := { s.workspace with alertConfigs := alertConfigs } }

/-! ## Webhooks -/

structure WebhookCreateRequest where
  name : String
  url : String
  events : List String
  headers : Option Json
  secret : Option String
  isActive : Bool

structure WebhookUpdateRequest where
  name : Option String
  url : Option String
  events : Option (List String)
  headers : Option Json
  secret : Option String
  isActive : Option Bool

/-- `validate_outbound_url`, whose `ValueError` the webhook service lets through. -/
def requireOutboundUrl (env : ServiceEnvironment) (url : String) : Except Failure Unit :=
  match env.validateOutboundUrl url with
  | .ok () => .ok ()
  | .error _ => .error (.python "ValueError")

def createWebhook (env : ServiceEnvironment) (orgId userId : Uuid)
    (request : WebhookCreateRequest) (s : Platform) : Except Failure Platform := do
  requireOutboundUrl env request.url
  let secret := (request.secret.filter (· ≠ "")).getD env.generatedSecret
  let webhooks ← flushNew s.workspace.webhooks
    { id := env.newId 0
      orgId := orgId
      name := request.name
      url := request.url
      events := request.events
      secretHash := some (env.encryptSecret secret)
      customHeaders := request.headers
      isActive := request.isActive
      createdBy := userId
      isDeleted := false }
  return { s with workspace := { s.workspace with webhooks := webhooks } }

/-- `get_by_id(..., org_id=org_id)`: the query itself asks for the organization. -/
def requireWebhook (s : Platform) (orgId webhookId : Uuid) : Except Failure Webhook :=
  requireOwned ((s.workspace.webhooks.get? webhookId).filter (fun w => w.isDeleted = false))
    (·.orgId) orgId "Webhook not found"

def deleteWebhook (orgId webhookId : Uuid) (s : Platform) : Except Failure Platform := do
  let webhook ← requireWebhook s orgId webhookId
  let webhooks := s.workspace.webhooks.updateKey webhook.id
    (fun w => { w with isDeleted := true }) (fun _ => rfl)
  return { s with workspace := { s.workspace with webhooks := webhooks } }

def updatedWebhook (env : ServiceEnvironment) (request : WebhookUpdateRequest)
    (webhook : Webhook) : Webhook :=
  { webhook with
    name := request.name.getD webhook.name
    url := request.url.getD webhook.url
    events := request.events.getD webhook.events
    customHeaders := request.headers.orElse (fun _ => webhook.customHeaders)
    secretHash := (request.secret.map env.encryptSecret).orElse (fun _ => webhook.secretHash)
    isActive := request.isActive.getD webhook.isActive }

def updateWebhook (env : ServiceEnvironment) (orgId webhookId : Uuid)
    (request : WebhookUpdateRequest) (s : Platform) : Except Failure Platform := do
  let webhook ← requireWebhook s orgId webhookId
  whenGiven request.url (requireOutboundUrl env)
  let webhooks := s.workspace.webhooks.updateKey webhook.id (updatedWebhook env request)
    (fun _ => rfl)
  return { s with workspace := { s.workspace with webhooks := webhooks } }

/-! ## AI providers -/

structure AIProviderCreateRequest where
  name : String
  providerType : String
  endpointUrl : String
  apiKey : Option String
  modelName : String
  isDefault : Bool
  maxTokens : Int
  temperature : Json
  enabled : Bool

/-- The fields a request sets; `api_key` may be set to nothing. -/
structure AIProviderUpdateRequest where
  name : Option String
  providerType : Option String
  endpointUrl : Option String
  apiKey : Option (Option String)
  modelName : Option String
  isDefault : Option Bool
  maxTokens : Option Int
  temperature : Option Json
  enabled : Option Bool

/-- `validate_outbound_url`, answered with its text. -/
def requireEndpoint (env : ServiceEnvironment) (url : String) : Except Failure Unit :=
  match env.validateOutboundUrl url with
  | .ok () => .ok ()
  | .error text => .error (invalid text)

/-- `encrypt_jsonb({"api_key": ...})`. -/
def encryptApiKey (env : ServiceEnvironment) (apiKey : Option String) : Option String :=
  (apiKey.filter (· ≠ "")).map (fun apiKey => env.encryptJsonb (.obj [("api_key", .str apiKey)]))

/-- `clear_defaults` of an organization, but for one provider. -/
def clearDefaults (providers : Table AIProvider.id) (orgId : Uuid) (exclude : Option Uuid) :
    Table AIProvider.id :=
  providers.mapRows
    (fun p => if p.organizationId = orgId ∧ p.isDefault = true ∧ some p.id ≠ exclude
      then { p with isDefault := false } else p)
    (fun p => by split <;> rfl)

/-- The audit entry of a provider's change. A flush that fails here is swallowed
and leaves a session that commits nothing, which is an error as far as the
database goes. -/
def logProvider (env : ServiceEnvironment) (orgId providerId : Uuid) (eventType : String)
    (s : Platform) : Except Failure (Table AuditLog.id) :=
  flushNew s.workspace.auditLogs
    ⟨env.newId 1, some orgId, none, eventType, "ai_provider", providerId⟩

def createProvider (env : ServiceEnvironment) (orgId : Uuid) (request : AIProviderCreateRequest)
    (s : Platform) : Except Failure Platform := do
  requireEndpoint env request.endpointUrl
  let cleared :=
    if request.isDefault then clearDefaults s.workspace.aiProviders orgId none
    else s.workspace.aiProviders
  let aiProviders ← flushNew cleared
    { id := env.newId 0
      organizationId := orgId
      name := request.name
      providerType := request.providerType
      endpointUrl := request.endpointUrl
      encryptedApiKey := encryptApiKey env request.apiKey
      modelName := request.modelName
      isDefault := request.isDefault
      maxTokens := request.maxTokens
      temperature := request.temperature
      enabled := request.enabled }
  let auditLogs ← logProvider env orgId (env.newId 0) "AI_PROVIDER_CREATED" s
  return { s with workspace := { s.workspace with
    aiProviders := aiProviders
    auditLogs := auditLogs } }

def requireProvider (s : Platform) (orgId providerId : Uuid) : Except Failure AIProvider :=
  requireOwned (s.workspace.aiProviders.get? providerId) (·.organizationId) orgId
    "AI provider not found"

def updatedProvider (env : ServiceEnvironment) (request : AIProviderUpdateRequest)
    (provider : AIProvider) : AIProvider :=
  { provider with
    name := request.name.getD provider.name
    providerType := request.providerType.getD provider.providerType
    endpointUrl := request.endpointUrl.getD provider.endpointUrl
    encryptedApiKey := (request.apiKey.map (encryptApiKey env)).getD provider.encryptedApiKey
    modelName := request.modelName.getD provider.modelName
    isDefault := request.isDefault.getD provider.isDefault
    maxTokens := request.maxTokens.getD provider.maxTokens
    temperature := request.temperature.getD provider.temperature
    enabled := request.enabled.getD provider.enabled }

def updateProvider (env : ServiceEnvironment) (orgId providerId : Uuid)
    (request : AIProviderUpdateRequest) (s : Platform) : Except Failure Platform := do
  let provider ← requireProvider s orgId providerId
  whenGiven request.endpointUrl (requireEndpoint env)
  let cleared :=
    if request.isDefault = some true then
      clearDefaults s.workspace.aiProviders orgId (some provider.id)
    else s.workspace.aiProviders
  let aiProviders := cleared.updateKey provider.id (updatedProvider env request) (fun _ => rfl)
  let auditLogs ← logProvider env orgId provider.id "AI_PROVIDER_UPDATED" s
  return { s with workspace := { s.workspace with
    aiProviders := aiProviders
    auditLogs := auditLogs } }

def deleteProvider (env : ServiceEnvironment) (orgId providerId : Uuid) (s : Platform) :
    Except Failure Platform := do
  let provider ← requireProvider s orgId providerId
  let aiProviders := s.workspace.aiProviders.deleteKey provider.id
  let auditLogs ← logProvider env orgId provider.id "AI_PROVIDER_DELETED" s
  return { s with workspace := { s.workspace with
    aiProviders := aiProviders
    auditLogs := auditLogs } }

end Reliastra.Source.Api
