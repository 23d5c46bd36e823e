import Reliastra.Source.Api.Schema
import Reliastra.Source.Core.SsrfProtection

/-!
# Requests to URLs of tenants

Source: `deliver_webhook`, `_deliver_single`, `retry_pending_deliveries` and
`test_webhook` of `app/modules/webhooks/service.py`, `_validate_url` and its calls
in `submit_vendor` of `app/modules/vendor_submissions/service.py`, `SlackChannel`
and `WebhookChannel` of `app/modules/notifications/service.py`,
`validate_outbound_url` of `app/core/ssrf_protection.py`.

A sender is the requests it makes, and a request leaves a trace: what the guard
accepted and where the client connected. The client resolves the host itself at
every hop, or reuses a connection it has; where that leads is an input. Headers,
bodies and the bookkeeping of deliveries are left out.
-/

namespace Reliastra.Source.Outbound

open SsrfProtection
open Api (Webhook)

/-! ## One request -/

/-- What the network does to one request. -/
structure RequestWorld where
  /-- The answers to the guard. -/
  guard : Resolver
  /-- The addresses the client connects to at a hop. -/
  connects : Nat → List String
  /-- The URL the response of a hop redirects to. -/
  redirect : Nat → Option String
  /-- The request ends in an exception the sender does not handle. -/
  escapes : Bool

structure OutboundRequest where
  /-- `validate_outbound_url` is called right before. -/
  guarded : Bool
  /-- How many redirects the client follows. -/
  redirects : Nat
  url : String
  world : RequestWorld

inductive Event where
  /-- The guard accepted the URL, and these addresses of its host. -/
  | accepted (hop : Nat) (url : String) (addresses : List String)
  | connected (hop : Nat) (url : String) (address : String)
  deriving DecidableEq, Repr

/-- `validate_outbound_url`. -/
def validateOutboundUrl (lib : UrlLibrary) (resolve : Resolver) (url : String) :
    Except Refusal Unit :=
  match isUrlSafe lib resolve url with
  | .error error => .error (.valueError error)
  | .ok (some cause) => .error (.unsafeUrl cause)
  | .ok none => .ok ()

/-- The addresses the guard looks at. -/
def guardAddresses (lib : UrlLibrary) (resolve : Resolver) (url : String) : List String :=
  match lib.urlparse url with
  | .error _ => []
  | .ok parsed =>
    match resolve (parsed.hostname.getD "") with
    | .error _ => []
    | .ok addresses => addresses

/-- The hops of a client that follows redirects. -/
def visited (world : RequestWorld) : Nat → Nat → String → List (Nat × String)
  | 0, hop, url => [(hop, url)]
  | redirects + 1, hop, url => (hop, url) :: match world.redirect hop with
    | none => []
    | some next => visited world redirects (hop + 1) next

def OutboundRequest.hops (request : OutboundRequest) : List (Nat × String) :=
  visited request.world request.redirects 0 request.url

def OutboundRequest.connections (request : OutboundRequest) : List Event :=
  request.hops.flatMap fun hop => (request.world.connects hop.1).map (.connected hop.1 hop.2)

def OutboundRequest.trace (lib : UrlLibrary) (request : OutboundRequest) : List Event :=
  if request.guarded then
    match validateOutboundUrl lib request.world.guard request.url with
    | .error _ => []
    | .ok () =>
      .accepted 0 request.url (guardAddresses lib request.world.guard request.url) ::
        request.connections
  else request.connections

/-! ## Webhooks -/

/-- `httpx.AsyncClient` without `follow_redirects`, nothing asked before. -/
def deliverSingle (world : RequestWorld) (webhook : Webhook) : OutboundRequest :=
  ⟨false, 0, webhook.url, world⟩

/-- The loop over the webhooks; an exception ends it. -/
def deliverEach (worlds : Nat → RequestWorld) : Nat → List Webhook → List OutboundRequest
  | _, [] => []
  | i, webhook :: rest =>
    deliverSingle (worlds i) webhook ::
      if (worlds i).escapes then [] else deliverEach worlds (i + 1) rest

/-- `list_active_for_org_and_event`. -/
def listActiveForOrgAndEvent (webhooks : List Webhook) (orgId : Uuid) (eventType : String) :
    List Webhook :=
  webhooks.filter fun w =>
    w.orgId = orgId ∧ w.isActive = true ∧ w.isDeleted = false ∧ eventType ∈ w.events

def deliverWebhook (worlds : Nat → RequestWorld) (webhooks : List Webhook) (orgId : Uuid)
    (eventType : String) : List OutboundRequest :=
  deliverEach worlds 0 (listActiveForOrgAndEvent webhooks orgId eventType)

/-- The columns of `webhook_deliveries` a retry reads. -/
structure WebhookDelivery where
  webhookId : Uuid
  status : String
  nextRetryAt : Option Instant
  attemptCount : Int
  deriving DecidableEq, Repr

def maxRetries : Int := 5

/-- The deliveries a retry takes up, in the order the database gives them. -/
def pendingDeliveries (deliveries : List WebhookDelivery) (now : Instant) : List WebhookDelivery :=
  (deliveries.filter fun d =>
    d.status = "retrying" ∧ (∃ due ∈ d.nextRetryAt, due ≤ now) ∧ d.attemptCount < maxRetries).take
      100

/-- The loop over the deliveries; one whose webhook is gone or inactive sends nothing. -/
def retryEach (worlds : Nat → RequestWorld) (webhooks : List Webhook) :
    Nat → List WebhookDelivery → List OutboundRequest
  | _, [] => []
  | i, delivery :: rest =>
    match webhooks.find? (fun w => w.id = delivery.webhookId ∧ w.isDeleted = false) with
    | none => retryEach worlds webhooks (i + 1) rest
    | some webhook =>
      if webhook.isActive = false then retryEach worlds webhooks (i + 1) rest
      else
        ⟨false, 0, webhook.url, worlds i⟩ ::
          if (worlds i).escapes then [] else retryEach worlds webhooks (i + 1) rest

def retryPendingDeliveries (worlds : Nat → RequestWorld) (webhooks : List Webhook)
    (deliveries : List WebhookDelivery) (now : Instant) : List OutboundRequest :=
  retryEach worlds webhooks 0 (pendingDeliveries deliveries now)

def testWebhook (world : RequestWorld) (webhooks : List Webhook) (orgId webhookId : Uuid) :
    List OutboundRequest :=
  match webhooks.find? (fun w => w.id = webhookId ∧ w.orgId = orgId ∧ w.isDeleted = false) with
  | none => []
  | some webhook => [⟨true, 0, webhook.url, world⟩]

/-! ## Vendor submissions -/

/-- `DEFAULT_MAX_REDIRECTS` of the client. -/
def defaultMaxRedirects : Nat := 20

/-- `_validate_url`: what goes wrong after the guard is logged only. -/
def validateUrl (world : RequestWorld) (url : String) : OutboundRequest :=
  ⟨true, defaultMaxRedirects, url, world⟩

/-- The URLs of a submission one after the other; a refused one ends it. -/
def validateEach (lib : UrlLibrary) (worlds : Nat → RequestWorld) :
    Nat → List String → List OutboundRequest
  | _, [] => []
  | i, url :: rest =>
    validateUrl (worlds i) url ::
      match validateOutboundUrl lib (worlds i).guard url with
      | .error _ => []
      | .ok () => validateEach lib worlds (i + 1) rest

/-- The probes of `submit_vendor` that gets to them: the website, where there is one,
and the endpoints. -/
def submitVendor (lib : UrlLibrary) (worlds : Nat → RequestWorld) (websiteUrl : Option String)
    (endpoints : List String) : List OutboundRequest :=
  validateEach lib worlds 0 ((websiteUrl.filter (· ≠ "")).toList ++ endpoints)

/-! ## Notification channels -/

/-- The guard and one request with the shared client, for a text under a key of the
configuration; what is no text does not parse as a URL. -/
def sendToConfigured (world : RequestWorld) (config : Json) (key : String) :
    List OutboundRequest :=
  match config.get key with
  | .str url => if url = "" then [] else [⟨true, 0, url, world⟩]
  | _ => []

/-- `SlackChannel.send`. -/
def slackChannel (world : RequestWorld) (config : Json) : List OutboundRequest :=
  sendToConfigured world config "webhook_url"

/-- `WebhookChannel.send`. -/
def webhookChannel (world : RequestWorld) (config : Json) : List OutboundRequest :=
  sendToConfigured world config "url"

/-! ## The six senders -/

inductive Sender where
  | delivery (worlds : Nat → RequestWorld) (webhooks : List Webhook) (orgId : Uuid)
      (eventType : String)
  | retry (worlds : Nat → RequestWorld) (webhooks : List Webhook)
      (deliveries : List WebhookDelivery) (now : Instant)
  | test (world : RequestWorld) (webhooks : List Webhook) (orgId webhookId : Uuid)
  | submission (worlds : Nat → RequestWorld) (websiteUrl : Option String) (endpoints : List String)
  | slack (world : RequestWorld) (config : Json)
  | webhook (world : RequestWorld) (config : Json)

def Sender.requests (lib : UrlLibrary) : Sender → List OutboundRequest
  | .delivery worlds webhooks orgId eventType => deliverWebhook worlds webhooks orgId eventType
  | .retry worlds webhooks deliveries now => retryPendingDeliveries worlds webhooks deliveries now
  | .test world webhooks orgId webhookId => testWebhook world webhooks orgId webhookId
  | .submission worlds websiteUrl endpoints => submitVendor lib worlds websiteUrl endpoints
  | .slack world config => slackChannel world config
  | .webhook world config => webhookChannel world config

end Reliastra.Source.Outbound
