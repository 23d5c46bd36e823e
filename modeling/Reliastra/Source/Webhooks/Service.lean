import Reliastra.Library.Loops
import Reliastra.Library.Table
import Reliastra.Source.Core.Json
import Reliastra.Source.Core.Text

/-!
# Outgoing webhooks

Source: the delivery engine of `app/modules/webhooks/service.py`,
`app/modules/webhooks/repository.py`, `app/modules/webhooks/models.py`. Nothing
under the source calls the engine; it gets a session, and every session of the
application commits at the end and rolls back after an exception. A request that
was sent stays sent, so `posts` outlives a rollback.

What a request comes to is a function of the request, given anew for every
transaction. `uuid4` does not repeat itself: an id that any row or request had
before is answered like a duplicate key. `failure_count` fits its column.
-/

namespace Reliastra.Source.Webhooks

open Reliastra.Library

/-! ## Rows -/

structure Webhook where
  id : Uuid
  orgId : Uuid
  url : String
  events : List String
  secretHash : Option String
  customHeaders : Option (List (String × String))
  isActive : Bool
  isDeleted : Bool
  lastDeliveryAt : Option Instant
  failureCount : Nat
  createdAt : Instant
  deriving DecidableEq

/-- The values of the column `status`. -/
inductive DeliveryStatus where
  | pending
  | success
  | failed
  | retrying
  | failedPermanently
  deriving DecidableEq, Repr

structure WebhookDelivery where
  id : Uuid
  webhookId : Uuid
  eventType : String
  payload : Json
  status : DeliveryStatus
  responseStatusCode : Option Nat
  responseBody : Option String
  attemptCount : Nat
  nextRetryAt : Option Instant
  createdAt : Instant
  deliveredAt : Option Instant

/-! ## Requests -/

/-- A call of `client.post`, with the delivery it is made for. -/
structure Post where
  deliveryId : Uuid
  url : String
  content : String
  headers : List (String × String)
  deriving DecidableEq

/-- What a call of `client.post` comes to. Anything but an `httpx.HTTPError` is
kept by its class: a URL `httpx` does not take, a header it cannot encode. -/
inductive PostResult where
  | response (status : Fin 1000) (text : String)
  | httpError (message : String)
  | raises (exceptionClass : String)
  deriving DecidableEq

/-- The clock is read again afterwards. -/
structure Exchange where
  result : PostResult
  now : Instant

structure WebhookLibrary where
  /-- `json.dumps(payload, default=str)`. -/
  dumps : Json → String
  /-- `fernet.decrypt`; `none` is `InvalidToken`. -/
  decrypt : String → Option String
  /-- `hmac.new(secret, body, hashlib.sha256).hexdigest()`. -/
  hmacSha256Hex : String → String → String
  /-- `str()` of a row's id. -/
  uuidText : Uuid → String

/-! ## The database -/

structure WebhookStore where
  webhooks : Table Webhook.id
  deliveries : Table WebhookDelivery.id
  /-- The requests made so far. -/
  posts : List Post

/-- What a step of the service has flushed, and whether it raised. -/
abbrev Flushed := WebhookStore × Except Failure Unit

/-- The end of the session. -/
def endSession (before : WebhookStore) (flushed : Flushed) : WebhookStore :=
  match flushed.2 with
  | .ok () => flushed.1
  | .error _ => { before with posts := flushed.1.posts }

def WebhookStore.updateWebhook (s : WebhookStore) (id : Uuid) (f : Webhook → Webhook)
    (keeps : ∀ row, (f row).id = row.id) : WebhookStore :=
  { s with webhooks := s.webhooks.updateKey id f keeps }

def WebhookStore.updateDelivery (s : WebhookStore) (id : Uuid)
    (f : WebhookDelivery → WebhookDelivery) (keeps : ∀ row, (f row).id = row.id) : WebhookStore :=
  { s with deliveries := s.deliveries.updateKey id f keeps }

/-- A `Text` column takes the text. -/
def FitsColumn (text : Option String) : Prop := ∀ value ∈ text, '\x00' ∉ value.toList

instance (text : Option String) : Decidable (FitsColumn text) :=
  inferInstanceAs (Decidable (∀ value ∈ text, '\x00' ∉ value.toList))

/-! ## Signing -/

/-- `_recover_signing_secret`. -/
def recoverSigningSecret (lib : WebhookLibrary) (webhook : Webhook) :
    Except Failure (Option String) :=
  match webhook.secretHash.filter (· ≠ "") with
  | none => .ok none
  | some secretHash =>
    if Text.startsWith secretHash "gAAAAA" then
      match lib.decrypt secretHash with
      | some secret => .ok (some secret)
      | none => .error (.python "InvalidToken")
    -- a legacy hash is the key itself
    else .ok (some secretHash)

/-- `headers[name] = value`. -/
def setHeader (headers : List (String × String)) (entry : String × String) :
    List (String × String) :=
  if headers.any (fun h => h.1 = entry.1) then
    headers.map (fun h => if h.1 = entry.1 then entry else h)
  else headers ++ [entry]

def postOf (lib : WebhookLibrary) (webhook : Webhook) (delivery : WebhookDelivery)
    (signingSecret : Option String) : Post :=
  let body := lib.dumps delivery.payload
  let headers := [("Content-Type", "application/json"), ("X-Reliastra-Event", delivery.eventType),
    ("X-Reliastra-Delivery", lib.uuidText delivery.id)]
  let headers := match signingSecret.filter (· ≠ "") with
    | none => headers
    | some secret =>
      setHeader headers ("X-Reliastra-Signature", "sha256=" ++ lib.hmacSha256Hex secret body)
  ⟨delivery.id, webhook.url, body, (webhook.customHeaders.getD []).foldl setHeader headers⟩

/-- The request for a delivery, signed where there is a secret. -/
def requestOf (lib : WebhookLibrary) (webhook : Webhook) (delivery : WebhookDelivery) :
    Except Failure Post :=
  (recoverSigningSecret lib webhook).map (postOf lib webhook delivery)

/-! ## Recording -/

/-- `_RETRY_DELAYS`. -/
def retryDelays : List Int :=
  [secondsToMicros 60, secondsToMicros 300, secondsToMicros 900, secondsToMicros 3600,
    secondsToMicros 10800]

/-- `_MAX_RETRIES`. -/
def maxRetries : Nat := 5

/-- `delivery.attempt_count or 1`. -/
def WebhookDelivery.currentAttempt (delivery : WebhookDelivery) : Nat :=
  if delivery.attemptCount = 0 then 1 else delivery.attemptCount

def markSuccess (s : WebhookStore) (deliveryId : Uuid) (statusCode : Nat)
    (responseBody : Option String) (now : Instant) : Flushed :=
  if FitsColumn responseBody then
    (s.updateDelivery deliveryId
      (fun row => { row with
        status := .success
        responseStatusCode := some statusCode
        responseBody := responseBody
        deliveredAt := some now }) (fun _ => rfl), .ok ())
  else (s, .error (.flush "DataError"))

def markFailed (s : WebhookStore) (delivery : WebhookDelivery) (statusCode : Option Nat)
    (responseBody : Option String) (nextRetryAt : Instant) : Flushed :=
  if FitsColumn responseBody then
    (s.updateDelivery delivery.id
      (fun row => { row with
        status := .retrying
        responseStatusCode := statusCode
        responseBody := responseBody
        attemptCount := delivery.currentAttempt + 1
        nextRetryAt := some nextRetryAt }) (fun _ => rfl), .ok ())
  else (s, .error (.flush "DataError"))

def markPermanentlyFailed (s : WebhookStore) (deliveryId : Uuid) : WebhookStore :=
  s.updateDelivery deliveryId (fun row => { row with status := .failedPermanently }) (fun _ => rfl)

def incrementFailureCount (s : WebhookStore) (webhookId : Uuid) : WebhookStore :=
  s.updateWebhook webhookId (fun row => { row with failureCount := row.failureCount + 1 })
    (fun _ => rfl)

/-- `reset_failure_count` and `update_last_delivery`. -/
def recordDelivered (s : WebhookStore) (webhookId : Uuid) (deliveredAt : Instant) : WebhookStore :=
  s.updateWebhook webhookId
    (fun row => { row with failureCount := 0, lastDeliveryAt := some deliveredAt }) (fun _ => rfl)

/-- `_handle_delivery_failure`. -/
def handleDeliveryFailure (s : WebhookStore) (webhook : Webhook) (delivery : WebhookDelivery)
    (statusCode : Option Nat) (responseBody : Option String) (now : Instant) : Flushed :=
  let s := incrementFailureCount s webhook.id
  if maxRetries ≤ delivery.currentAttempt then (markPermanentlyFailed s delivery.id, .ok ())
  else
    let retryIndex := min (delivery.currentAttempt - 1) (retryDelays.length - 1)
    markFailed s delivery statusCode responseBody (now + retryDelays.getD retryIndex 0)

/-- `text[:5000] if text else None`. -/
def bodyOf (text : String) : Option String := if text = "" then none else some (Text.slice text 5000)

/-- The part the two loops share, from the body on. -/
def send (lib : WebhookLibrary) (net : Post → Exchange) (s : WebhookStore) (webhook : Webhook)
    (delivery : WebhookDelivery) : Flushed :=
  match requestOf lib webhook delivery with
  | .error failure => (s, .error failure)
  | .ok post =>
    let s := { s with posts := s.posts ++ [post] }
    match (net post).result with
    | .response status text =>
      if 200 ≤ status.val ∧ status.val < 300 then
        match markSuccess s delivery.id status.val (bodyOf text) (net post).now with
        | (s, .ok ()) => (recordDelivered s webhook.id (net post).now, .ok ())
        | raised => raised
      else handleDeliveryFailure s webhook delivery (some status.val) (bodyOf text) (net post).now
    | .httpError message =>
      handleDeliveryFailure s webhook delivery none (some (Text.slice message 5000)) (net post).now
    | .raises exceptionClass => (s, .error (.python exceptionClass))

/-! ## Delivering an event -/

/-- What a transaction draws for a new row. -/
structure Draw where
  id : Uuid
  now : Instant

def newDelivery (webhook : Webhook) (eventType : String) (payload : Json) (draw : Draw) :
    WebhookDelivery where
  id := draw.id
  webhookId := webhook.id
  eventType := eventType
  payload := payload
  status := .pending
  responseStatusCode := none
  responseBody := none
  attemptCount := 1
  nextRetryAt := none
  createdAt := draw.now
  deliveredAt := none

/-- `_deliver_single`. -/
def deliverSingle (lib : WebhookLibrary) (net : Post → Exchange) (draw : Uuid → Draw)
    (eventType : String) (payload : Json) (s : WebhookStore) (webhook : Webhook) : Flushed :=
  let delivery := newDelivery webhook eventType payload (draw webhook.id)
  if ∃ post ∈ s.posts, post.deliveryId = delivery.id then (s, .error (.flush "IntegrityError"))
  else match s.deliveries.insert delivery with
  | none => (s, .error (.flush "IntegrityError"))
  | some deliveries => send lib net { s with deliveries := deliveries } webhook delivery

/-- `list_active_for_org_and_event`. -/
def listActiveForOrgAndEvent (order : OrderBy Webhook.createdAt) (s : WebhookStore) (orgId : Uuid)
    (eventType : String) : List Webhook :=
  (order.arrange (s.webhooks.rows.filter
    (fun w => w.orgId = orgId ∧ w.isActive = true ∧ w.isDeleted = false))).filter
      (fun w => eventType ∈ w.events)

def deliverWebhook (lib : WebhookLibrary) (order : OrderBy Webhook.createdAt)
    (net : Post → Exchange) (draw : Uuid → Draw) (s : WebhookStore) (orgId : Uuid)
    (eventType : String) (payload : Json) : Flushed :=
  Loops.untilRaised (deliverSingle lib net draw eventType payload) s
    (listActiveForOrgAndEvent order s orgId eventType)

/-! ## Retrying -/

/-- The `where` clauses of `retry_pending_deliveries`. -/
def Due (now : Instant) (delivery : WebhookDelivery) : Prop :=
  delivery.status = .retrying ∧ (∃ retryAt ∈ delivery.nextRetryAt, retryAt ≤ now) ∧
    delivery.attemptCount < maxRetries

instance (now : Instant) : DecidablePred (Due now) := fun delivery =>
  inferInstanceAs (Decidable (delivery.status = .retrying ∧
    (∃ retryAt ∈ delivery.nextRetryAt, retryAt ≤ now) ∧ delivery.attemptCount < maxRetries))

/-- The query answers with these rows: at most a hundred of those that are due,
in any order. -/
structure DueAnswer (s : WebhookStore) (now : Instant) (ids : List Uuid) : Prop where
  due : ∀ id ∈ ids, ∃ delivery ∈ s.deliveries.get? id, Due now delivery
  distinct : ids.Nodup
  limited : ids.length = min 100 (s.deliveries.rows.filter (fun d => Due now d)).length

instance (s : WebhookStore) (now : Instant) (ids : List Uuid) : Decidable (DueAnswer s now ids) :=
  decidable_of_iff
    ((∀ id ∈ ids, ∃ delivery ∈ s.deliveries.get? id, Due now delivery) ∧ ids.Nodup ∧
      ids.length = min 100 (s.deliveries.rows.filter (fun d => Due now d)).length)
    ⟨fun ⟨a, b, c⟩ => ⟨a, b, c⟩, fun ⟨a, b, c⟩ => ⟨a, b, c⟩⟩

def dueBatch (s : WebhookStore) (ids : List Uuid) : List WebhookDelivery :=
  ids.filterMap s.deliveries.get?

/-- The webhook of a delivery, unless it is deleted or not active. -/
def liveWebhook (s : WebhookStore) (delivery : WebhookDelivery) : Option Webhook :=
  (s.webhooks.get? delivery.webhookId).filter (fun w => w.isDeleted = false ∧ w.isActive = true)

/-- The body of the loop. -/
def retryDelivery (lib : WebhookLibrary) (net : Post → Exchange) (s : WebhookStore)
    (delivery : WebhookDelivery) : Flushed :=
  match liveWebhook s delivery with
  | none => (markPermanentlyFailed s delivery.id, .ok ())
  | some webhook => send lib net s webhook delivery

/-- `retry_pending_deliveries`, which returns the length of the batch. -/
def retryPendingDeliveries (lib : WebhookLibrary) (net : Post → Exchange) (s : WebhookStore)
    (batch : List WebhookDelivery) : Flushed :=
  Loops.untilRaised (retryDelivery lib net) s batch

/-! ## Transactions -/

inductive WebhookStep where
  /-- A webhook is created, changed or soft-deleted. -/
  | writeWebhook (webhook : Webhook)
  | deliver (orgId : Uuid) (eventType : String) (payload : Json) (draw : Uuid → Draw)
      (net : Post → Exchange)
  | retry (now : Instant) (ids : List Uuid) (net : Post → Exchange)

def writeWebhook (s : WebhookStore) (webhook : Webhook) : WebhookStore :=
  match s.webhooks.insert webhook with
  | some webhooks => { s with webhooks := webhooks }
  | none => s.updateWebhook webhook.id (fun row => { webhook with id := row.id }) (fun _ => rfl)

def webhookStep (lib : WebhookLibrary) (order : OrderBy Webhook.createdAt) (s : WebhookStore) :
    WebhookStep → WebhookStore
  | .writeWebhook webhook => writeWebhook s webhook
  | .deliver orgId eventType payload draw net =>
    endSession s (deliverWebhook lib order net draw s orgId eventType payload)
  | .retry now ids net =>
    if DueAnswer s now ids then
      endSession s (retryPendingDeliveries lib net s (dueBatch s ids))
    else s

end Reliastra.Source.Webhooks
