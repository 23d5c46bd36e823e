import Reliastra.Source.Api.Integrations
import Reliastra.Source.Webhooks.Attempts

/-!
# The three senders

Source: `_deliver_single`, `retry_pending_deliveries` and `test_webhook` of
`app/modules/webhooks/service.py`, for a webhook that `create_webhook` and
`update_webhook` of the same file have stored. The two halves of the service see one
table: the engine reads the column `custom_headers` as a dictionary of texts.
-/

namespace Reliastra.Source.Webhooks

open Reliastra.Library

/-! ## The test request -/

/-- What a test draws: the clock as `isoformat()` writes it, and two values of `uuid4`. -/
structure TestDraw where
  timestamp : String
  dataId : Uuid
  deliveryId : Uuid

def testPayload (lib : WebhookLibrary) (event : String) (draw : TestDraw) : Json :=
  .obj [("event", .str event), ("timestamp", .str draw.timestamp),
    ("data", .obj [("id", .str (lib.uuidText draw.dataId)), ("test", .bool true),
      ("message", .str "Webhook test from Reliastra")])]

def testPost (lib : WebhookLibrary) (webhook : Webhook) (event : String) (draw : TestDraw)
    (signingSecret : Option String) : Post :=
  let body := lib.dumps (testPayload lib event draw)
  let headers := [("Content-Type", "application/json"), ("X-Reliastra-Event", event),
    ("X-Reliastra-Delivery", lib.uuidText draw.deliveryId)]
  let headers := match signingSecret.filter (· ≠ "") with
    | none => headers
    | some secret =>
      setHeader headers ("X-Reliastra-Signature", "sha256=" ++ lib.hmacSha256Hex secret body)
  ⟨draw.deliveryId, webhook.url, body, (webhook.customHeaders.getD []).foldl setHeader headers⟩

structure WebhookTestResponse where
  success : Bool
  statusCode : Option Nat
  responseBody : Option String
  deriving DecidableEq

def testResponse : PostResult → Except Failure WebhookTestResponse
  | .response status text =>
    .ok ⟨decide (200 ≤ status.val ∧ status.val < 300), some status.val,
      if text = "" then none else some (Text.slice text 2000)⟩
  | .httpError message => .ok ⟨false, none, some (Text.slice message 2000)⟩
  | .raises exceptionClass => .error (.python exceptionClass)

/-- `test_webhook`, without the latency it reports. -/
def testWebhook (lib : WebhookLibrary) (validateOutboundUrl : String → Except String Unit)
    (net : Post → Exchange) (draw : TestDraw) (s : WebhookStore) (orgId webhookId : Uuid)
    (event : String) : WebhookStore × Except Failure WebhookTestResponse :=
  match Api.requireOwned ((s.webhooks.get? webhookId).filter (fun w => w.isDeleted = false))
      (·.orgId) orgId "Webhook not found" with
  | .error failure => (s, .error failure)
  | .ok webhook =>
    match validateOutboundUrl webhook.url with
    | .error _ => (s, .error (.python "ValueError"))
    | .ok () =>
      match recoverSigningSecret lib webhook with
      | .error failure => (s, .error failure)
      | .ok signingSecret =>
        let post := testPost lib webhook event draw signingSecret
        ({ s with posts := s.posts ++ [post] }, testResponse (net post).result)

/-! ## What a sender hands to the client -/

/-- What an attempt is about. -/
structure Message where
  eventType : String
  deliveryId : Uuid
  payload : Json

def messageOf (delivery : WebhookDelivery) : Message :=
  ⟨delivery.eventType, delivery.id, delivery.payload⟩

/-- A turn of one of the senders makes the request `post` for the message. -/
inductive Sends (lib : WebhookLibrary) (webhook : Webhook) : Message → Post → Prop where
  | first {net : Post → Exchange} {draw : Uuid → Draw} {eventType : String} {payload : Json}
      {s : WebhookStore} {post : Post} :
    (deliverSingle lib net draw eventType payload s webhook).1.posts = s.posts ++ [post] →
      Sends lib webhook ⟨eventType, (draw webhook.id).id, payload⟩ post
  | retry {net : Post → Exchange} {s : WebhookStore} {delivery : WebhookDelivery} {post : Post} :
    liveWebhook s delivery = some webhook →
      (retryDelivery lib net s delivery).1.posts = s.posts ++ [post] →
      Sends lib webhook (messageOf delivery) post
  | test {validateOutboundUrl : String → Except String Unit} {net : Post → Exchange}
      {draw : TestDraw} {s : WebhookStore} {orgId webhookId : Uuid} {event : String} {post : Post} :
    s.webhooks.get? webhookId = some webhook →
      (testWebhook lib validateOutboundUrl net draw s orgId webhookId event).1.posts =
        s.posts ++ [post] →
      Sends lib webhook ⟨event, draw.deliveryId, testPayload lib event draw⟩ post

/-! ## What the senders read of a stored row -/

/-- `dict[str, str]` as a JSON column holds it. -/
def headerColumn (headers : List (String × String)) : Json :=
  .obj (headers.map (fun entry => (entry.1, .str entry.2)))

/-- The row the engine reads, its counters apart. -/
structure StoredAs (row : Api.Webhook) (webhook : Webhook) : Prop where
  id : webhook.id = row.id
  orgId : webhook.orgId = row.orgId
  url : webhook.url = row.url
  events : webhook.events = row.events
  secretHash : webhook.secretHash = row.secretHash
  customHeaders : webhook.customHeaders.map headerColumn = row.customHeaders
  /-- The column is read as a dictionary. -/
  distinct : ((webhook.customHeaders.getD []).map Prod.fst).Nodup
  isActive : webhook.isActive = row.isActive
  isDeleted : webhook.isDeleted = row.isDeleted

/-- Fernet under the key both halves are given: a token of this century starts with
the same six characters, and decrypts to what was encrypted. -/
structure FernetKey (lib : WebhookLibrary) (encryptSecret : String → String) : Prop where
  token : ∀ secret, Text.startsWith (encryptSecret secret) "gAAAAA" = true
  decrypts : ∀ secret, lib.decrypt (encryptSecret secret) = some secret

/-- The row as a create or an update request leaves it, and the secret the webhook is
configured with by then. -/
inductive Configured (lib : WebhookLibrary) : Api.Webhook → String → Prop where
  | created {env : Api.ServiceEnvironment} {orgId userId : Uuid}
      {request : Api.WebhookCreateRequest} {s after : Api.Platform} {row : Api.Webhook} :
    FernetKey lib env.encryptSecret →
      Api.createWebhook env orgId userId request s = .ok after →
      after.workspace.webhooks.get? (env.newId 0) = some row →
      Configured lib row ((request.secret.filter (· ≠ "")).getD env.generatedSecret)
  /-- Whatever row is found, one of an old hash among them. -/
  | renewed {env : Api.ServiceEnvironment} {orgId webhookId : Uuid}
      {request : Api.WebhookUpdateRequest} {s after : Api.Platform} {row : Api.Webhook}
      {secret : String} :
    FernetKey lib env.encryptSecret →
      Api.updateWebhook env orgId webhookId request s = .ok after →
      request.secret = some secret →
      after.workspace.webhooks.get? webhookId = some row → Configured lib row secret
  | kept {env : Api.ServiceEnvironment} {orgId webhookId : Uuid}
      {request : Api.WebhookUpdateRequest} {s after : Api.Platform} {old row : Api.Webhook}
      {secret : String} :
    Configured lib old secret → s.workspace.webhooks.get? webhookId = some old →
      Api.updateWebhook env orgId webhookId request s = .ok after → request.secret = none →
      after.workspace.webhooks.get? webhookId = some row → Configured lib row secret

/-! ## The stored secret -/

section Secrets
variable {lib : WebhookLibrary}

theorem createWebhook_row {env : Api.ServiceEnvironment} {orgId userId : Uuid}
    {request : Api.WebhookCreateRequest} {s after : Api.Platform} {row : Api.Webhook}
    (success : Api.createWebhook env orgId userId request s = .ok after)
    (stored : after.workspace.webhooks.get? (env.newId 0) = some row) :
    row.secretHash = some (env.encryptSecret
      ((request.secret.filter (· ≠ "")).getD env.generatedSecret)) := by
  unfold Api.createWebhook at success
  obtain ⟨_, _, success⟩ := Api.bind_eq_ok success
  obtain ⟨webhooks, flushed, success⟩ := Api.bind_eq_ok success
  obtain rfl := Except.ok.inj success
  rw [Api.flushNew_eq_ok] at flushed
  have found := Table.get?_insert flushed (env.newId 0)
  rw [if_pos rfl] at found
  obtain rfl := Option.some.inj (found.symm.trans stored)
  rfl

theorem updateWebhook_row {env : Api.ServiceEnvironment} {orgId webhookId : Uuid}
    {request : Api.WebhookUpdateRequest} {s after : Api.Platform} {row : Api.Webhook}
    (success : Api.updateWebhook env orgId webhookId request s = .ok after)
    (stored : after.workspace.webhooks.get? webhookId = some row) :
    ∃ old, s.workspace.webhooks.get? webhookId = some old ∧
      row = Api.updatedWebhook env request old := by
  unfold Api.updateWebhook at success
  obtain ⟨old, found, success⟩ := Api.bind_eq_ok success
  obtain ⟨_, _, success⟩ := Api.bind_eq_ok success
  obtain rfl := Except.ok.inj success
  have present : s.workspace.webhooks.get? webhookId = some old := by
    obtain ⟨found, _⟩ := Api.requireOwned_eq_ok.mp found
    exact (Option.filter_eq_some_iff.mp found).1
  have key : old.id = webhookId := ((Table.get?_eq_some_iff _ _ _).mp present).2
  have written := Table.get?_updateKey s.workspace.webhooks old.id (Api.updatedWebhook env request)
    (fun _ => rfl) webhookId
  rw [present, Option.map_some, if_pos key.symm] at written
  exact ⟨old, present, Option.some.inj (stored.symm.trans written)⟩

/-- What is stored decrypts to the secret the webhook is configured with. -/
theorem Configured.decrypts {row : Api.Webhook} {secret : String}
    (configured : Configured lib row secret) :
    ∃ token, row.secretHash = some token ∧ Text.startsWith token "gAAAAA" = true ∧
      lib.decrypt token = some secret := by
  induction configured with
  | created fernet success stored =>
    exact ⟨_, createWebhook_row success stored, fernet.token _, fernet.decrypts _⟩
  | renewed fernet success given stored =>
    obtain ⟨old, _, rfl⟩ := updateWebhook_row success stored
    refine ⟨_, ?_, fernet.token _, fernet.decrypts _⟩
    simp [Api.updatedWebhook, given]
  | kept _ before success given stored ih =>
    obtain ⟨old, found, rfl⟩ := updateWebhook_row success stored
    obtain rfl := Option.some.inj (before.symm.trans found)
    obtain ⟨token, hash, shape, plain⟩ := ih
    refine ⟨token, ?_, shape, plain⟩
    simpa [Api.updatedWebhook, given] using hash

theorem recoverSigningSecret_configured {row : Api.Webhook} {secret : String} {webhook : Webhook}
    (configured : Configured lib row secret) (stored : StoredAs row webhook) :
    recoverSigningSecret lib webhook = .ok (some secret) := by
  obtain ⟨token, hash, shape, plain⟩ := configured.decrypts
  have present : token ≠ "" := by
    intro empty
    rw [empty] at shape
    exact absurd shape (by decide)
  unfold recoverSigningSecret
  rw [stored.secretHash, hash, Option.filter_some, if_pos (by simpa using present)]
  simp only [shape, if_true, plain]

end Secrets

/-! ## One turn, and whole loops -/

section Turns
variable {lib : WebhookLibrary}

/-- A turn makes no request, or that of the delivery it records. -/
theorem deliverSingle_requests (lib : WebhookLibrary) (net : Post → Exchange) (draw : Uuid → Draw)
    (eventType : String) (payload : Json) (s : WebhookStore) (webhook : Webhook) :
    (deliverSingle lib net draw eventType payload s webhook).1.posts = s.posts ∨
      (deliverSingle lib net draw eventType payload s webhook).1.posts = s.posts ++
        (requestOf lib webhook
          (newDelivery webhook eventType payload (draw webhook.id))).toOption.toList := by
  unfold deliverSingle
  dsimp only
  split
  · exact .inl rfl
  · split
    · exact .inl rfl
    · exact .inr (send_requests lib net _ webhook _)

theorem retryDelivery_requests (lib : WebhookLibrary) (net : Post → Exchange) (s : WebhookStore)
    (delivery : WebhookDelivery) :
    (retryDelivery lib net s delivery).1.posts = s.posts ∨
      ∃ webhook, liveWebhook s delivery = some webhook ∧
        (retryDelivery lib net s delivery).1.posts =
          s.posts ++ (requestOf lib webhook delivery).toOption.toList := by
  unfold retryDelivery
  cases live : liveWebhook s delivery with
  | none => exact .inl rfl
  | some webhook => exact .inr ⟨webhook, rfl, send_requests lib net s webhook delivery⟩

theorem testWebhook_requests (lib : WebhookLibrary)
    (validateOutboundUrl : String → Except String Unit) (net : Post → Exchange) (draw : TestDraw)
    (s : WebhookStore) (orgId webhookId : Uuid) (event : String) :
    (testWebhook lib validateOutboundUrl net draw s orgId webhookId event).1.posts = s.posts ∨
      ∃ webhook signingSecret, s.webhooks.get? webhookId = some webhook ∧
        recoverSigningSecret lib webhook = .ok signingSecret ∧
        (testWebhook lib validateOutboundUrl net draw s orgId webhookId event).1.posts =
          s.posts ++ [testPost lib webhook event draw signingSecret] := by
  unfold testWebhook
  split
  · exact .inl rfl
  · next webhook found =>
    obtain ⟨found, _⟩ := Api.requireOwned_eq_ok.mp found
    have stored := (Option.filter_eq_some_iff.mp found).1
    split
    · exact .inl rfl
    · cases recovered : recoverSigningSecret lib webhook with
      | error failure => exact .inl rfl
      | ok signingSecret => exact .inr ⟨webhook, signingSecret, stored, recovered, rfl⟩

/-- A delivery that is not recorded yet is sent when its secret can be read. -/
theorem sends_first (net : Post → Exchange) (draw : Uuid → Draw) {s : WebhookStore}
    {webhook : Webhook} {signingSecret : Option String} (eventType : String) (payload : Json)
    (fresh : Fresh s (draw webhook.id).id)
    (recovered : recoverSigningSecret lib webhook = .ok signingSecret) :
    Sends lib webhook ⟨eventType, (draw webhook.id).id, payload⟩
      (postOf lib webhook (newDelivery webhook eventType payload (draw webhook.id))
        signingSecret) := by
  obtain ⟨deliveries, _, equal⟩ := deliverSingle_fresh lib net eventType payload fresh
  have turn : (deliverSingle lib net draw eventType payload s webhook).1.posts = s.posts ++
      [postOf lib webhook (newDelivery webhook eventType payload (draw webhook.id))
        signingSecret] := by
    rw [equal, send_requests, requestOf, recovered]
    rfl
  exact .first turn

/-- What was made of an attempt is no more than one request. -/
theorem at_most_one {posts : List Post} {after : List Post} {made : Option Post}
    (written : after = posts ++ made.toList) :
    after = posts ∨ ∃ post, after = posts ++ [post] := by
  cases made with
  | none => exact .inl (written.trans (List.append_nil _))
  | some post => exact .inr ⟨post, written⟩

/-- Every request of a delivered event is the first one for a webhook of the list. -/
theorem deliverWebhook_sends (order : OrderBy Webhook.createdAt) (net : Post → Exchange)
    (draw : Uuid → Draw) (s : WebhookStore) (orgId : Uuid) (eventType : String) (payload : Json) :
    ∃ made, (deliverWebhook lib order net draw s orgId eventType payload).1.posts =
        s.posts ++ made ∧
      ∀ post ∈ made, ∃ webhook ∈ listActiveForOrgAndEvent order s orgId eventType,
        Sends lib webhook ⟨eventType, (draw webhook.id).id, payload⟩ post := by
  have turns (t : WebhookStore) (webhook : Webhook) :=
    (deliverSingle_requests lib net draw eventType payload t webhook).elim
      Or.inl at_most_one
  obtain ⟨made, written, each⟩ := Loops.untilRaised_log turns s
    (listActiveForOrgAndEvent order s orgId eventType)
  refine ⟨made, written, ?_⟩
  intro post member
  obtain ⟨t, webhook, listed, turn⟩ := each post member
  exact ⟨webhook, listed, .first turn⟩

/-- Every request of a batch of retries is that of a delivery in the batch, for the
webhook as it is stored by then. -/
theorem retryPendingDeliveries_sends (net : Post → Exchange) (s : WebhookStore)
    (batch : List WebhookDelivery) :
    ∃ made, (retryPendingDeliveries lib net s batch).1.posts = s.posts ++ made ∧
      ∀ post ∈ made, ∃ delivery ∈ batch, ∃ webhook,
        Sends lib webhook (messageOf delivery) post := by
  have turns (t : WebhookStore) (delivery : WebhookDelivery) :
      (retryDelivery lib net t delivery).1.posts = t.posts ∨
        ∃ post, (retryDelivery lib net t delivery).1.posts = t.posts ++ [post] := by
    cases retryDelivery_requests lib net t delivery with
    | inl same => exact .inl same
    | inr sent =>
      obtain ⟨webhook, _, written⟩ := sent
      exact at_most_one written
  obtain ⟨made, written, each⟩ := Loops.untilRaised_log turns s batch
  refine ⟨made, written, ?_⟩
  intro post member
  obtain ⟨t, delivery, listed, turn⟩ := each post member
  cases retryDelivery_requests lib net t delivery with
  | inl same =>
    rw [same] at turn
    simp at turn
  | inr sent =>
    obtain ⟨webhook, live, _⟩ := sent
    exact ⟨delivery, listed, webhook, .retry live turn⟩

end Turns

end Reliastra.Source.Webhooks
