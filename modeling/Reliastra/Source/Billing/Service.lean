import Reliastra.Source.Billing.Schema
import Reliastra.Source.Core.Redis
import Reliastra.Source.Partners.Commissions

/-!
# The billing service

Source: `app/modules/billing/service.py`, with the parts of
`app/modules/billing/router.py` and `get_db` (`app/db/session.py`) that decide
what a request commits. What Paystack answers is an input of the operation that
asks. Log lines are left out.
-/

namespace Reliastra.Source.Billing

open Reliastra.Library Organizations

structure BillingSettings where
  paystackSecretKey : String
  partner : Partners.PartnerSettings

/-- How a call of the Paystack API ends. -/
inductive PaystackReply where
  /-- `httpx.HTTPError`, a refused status included. -/
  | httpError
  /-- Any other exception, as for a body that is not JSON. -/
  | raises (exceptionClass : String)
  | json (body : Json)

/-- `_parse_datetime`. -/
def parseDatetime (host : Runtime) : Json → Option Instant
  | .str value =>
    if value = "" then none else host.fromisoformat (Text.replaceChar value 'Z' "+00:00")
  | _ => none

/-- `_normalized_plan`. -/
def normalizedPlan (host : Runtime) (data : Json) : Plan :=
  let candidate := (data.get "metadata").asDict.get "plan"
  let candidate :=
    if candidate.truthy then candidate
    else match data.get "plan" with
      | .obj members => ((Json.obj members).get "name").orElse ((Json.obj members).get "plan_code")
      | .str value => .str value
      | _ => candidate
  let candidate := Text.lower (Text.strip ((candidate.orElse (.str "starter")).text host))
  (Plan.ofValue? candidate).getD .starter

/-! ## Checkout -/

structure InitializePaymentRequest where
  plan : String
  email : Option String
  deriving DecidableEq, Repr

structure InitializePaymentResponse where
  authorizationUrl : String
  reference : String
  accessCode : String
  deriving DecidableEq, Repr

/-- What `initialize_transaction` posts; the metadata is the organization and
the plan. -/
structure TransactionRequest where
  email : String
  amount : Int
  plan : Plan
  orgId : Uuid
  deriving DecidableEq, Repr

/-- The recipient of a checkout that names none: the owner's address. -/
def Database.ownerEmail (db : Database) (orgId : Uuid) : Option String :=
  match (listMembers db.ledger.members orgId).find? (fun m => m.role = .owner) with
  | none => none
  | some owner => (db.users.get? owner.userId).map (·.email)

/-- A required text of `InitializePaymentResponse`. -/
def requiredText (data : Json) (key : String) : Except Failure String :=
  match data with
  | .obj members =>
    match members.lookup key with
    | none => .error (.app (validationException "Paystack returned an incomplete response"))
    | some (.str value) => .ok value
    | some _ => .error (.python "ValidationError")
  | _ => .error (.app (validationException "Paystack returned an incomplete response"))

/-- The transaction `initialize_payment` asks Paystack for. -/
def checkoutRequest (orgId : Uuid) (request : InitializePaymentRequest) (db : Database) :
    Except Failure TransactionRequest :=
  match db.organizations.get? orgId with
  | none => .error (.app (resourceNotFoundException "Organization not found"))
  | some _ =>
    let plan := Text.lower request.plan
    if ¬ isPaidPlan plan then
      .error (.app (validationException ("Invalid paid plan: '" ++ plan ++
        "'. Must be one of: starter, standard, professional.")))
    else match (Plan.ofValue? plan).bind (fun p => p.amount?.map (fun amount => (p, amount))) with
    | none => .error (.app (validationException ("Plan '" ++ plan ++
        "' is not available for self-serve checkout. Please contact sales for agency plans.")))
    | some (p, baseAmount) =>
      match (request.email.filter (· ≠ "")).orElse (fun _ => db.ownerEmail orgId) with
      | none => .error (.app (validationException "No email is available for payment initialization"))
      | some email => .ok ⟨email, baseAmount, p, orgId⟩

def initializePayment (settings : BillingSettings) (paystack : TransactionRequest → PaystackReply)
    (orgId : Uuid) (request : InitializePaymentRequest) (db : Database) :
    Except Failure InitializePaymentResponse := do
  let transaction ← checkoutRequest orgId request db
  if settings.paystackSecretKey = "" then
    throw (.app (validationException "Paystack is not configured"))
  match paystack transaction with
  | .httpError => throw (.app (validationException "Paystack transaction initialization failed"))
  | .raises exceptionClass => throw (.python exceptionClass)
  | .json (.obj members) =>
    let data := ((Json.obj members).get "data").asDict
    if ¬ ((Json.obj members).get "status").truthy ∨ ¬ data.truthy then
      throw (.app (validationException "Paystack transaction initialization failed"))
    return {
      authorizationUrl := ← requiredText data "authorization_url"
      reference := ← requiredText data "reference"
      accessCode := ← requiredText data "access_code" }
  | .json _ => throw (.python "AttributeError")

/-! ## Verification -/

structure VerifyTransactionResponse where
  verified : Bool
  plan : Plan
  reference : String
  deriving DecidableEq, Repr

/-- What a handler leaves in its session. A failed flush that the handler
swallowed deactivates the session, and `get_db` then commits nothing. -/
structure Work where
  database : Database
  active : Bool

/-- The transaction's data in a successful answer to `transaction/verify`. -/
def successData (result : Json) : Option Json :=
  let data := (result.get "data").asDict
  if ¬ (result.get "status").truthy then none
  else match data.get "status" with
  | .str status => if status = "success" then some data else none
  | _ => none

/-- The `values` a verified payment writes to the subscription. -/
def paymentValues (host : Runtime) (data : Json) (reference : String) : SubscriptionValues :=
  { plan := normalizedPlan host data
    status := "active"
    providerCustomerId := (data.get "customer").asDict.get "customer_code"
    providerSubscriptionId :=
      .str (((data.get "subscription_code").orElse (.str reference)).text host)
    currentPeriodStart := parseDatetime host (data.get "paid_at")
    currentPeriodEnd := parseDatetime host (data.get "next_payment_date") }

/-- `_record_partner_commission`, with whether the session is still active. -/
def recordPartnerCommission (host : Runtime) (settings : BillingSettings) (orgId : Uuid)
    (data : Json) (reference : String) (now : Instant) (newId : Uuid) (ledger : Partners.Ledger) :
    Partners.Ledger × Bool :=
  let collected := data.get "amount"
  if ¬ collected.truthy then (ledger, true)
  else match collected.toInt host with
  -- `except Exception`: logged, and the payment goes on
  | .error _ => (ledger, true)
  | .ok collectedMinor =>
    let payment : Partners.Payment :=
      { organizationId := orgId
        collectedMinor := collectedMinor
        currency := Text.slice (Text.upper (((data.get "currency").orElse (.str "USD")).text host)) 3
        paymentReference := reference
        paidAt := parseDatetime host (data.get "paid_at") }
    match Partners.recordPayment settings.partner payment now newId ledger with
    | .ok ledger => (ledger, true)
    | .error (.flush _) => (ledger, false)
    | .error _ => (ledger, true)

def verifyTransaction (host : Runtime) (settings : BillingSettings) (reply : PaystackReply)
    (reference : String) (now : Instant) (newId : Uuid) (db : Database) :
    Except Failure (VerifyTransactionResponse × Work) :=
  let unverified : VerifyTransactionResponse := ⟨false, .free, reference⟩
  if settings.paystackSecretKey = "" then
    .error (.app (validationException "Paystack is not configured"))
  else match reply with
  | .httpError => .error (.app (validationException "Unable to verify Paystack transaction"))
  | .raises exceptionClass => .error (.python exceptionClass)
  | .json (.obj members) =>
    match successData (.obj members) with
    | none => .ok (unverified, ⟨db, true⟩)
    | some data =>
      let orgIdRaw := (data.get "metadata").asDict.get "org_id"
      if ¬ orgIdRaw.truthy then .ok (unverified, ⟨db, true⟩)
      else match host.uuidOfText (orgIdRaw.text host) with
      | none => .error (.app (validationException "Invalid organization metadata from Paystack"))
      | some orgId =>
        match db.organizations.get? orgId with
        | none => .error (.app (resourceNotFoundException "Organization not found"))
        | some org =>
          match db.writeSubscription orgId (paymentValues host data reference) with
          | .error failure => .error failure
          | .ok db =>
            let db := db.setPlan org.id (normalizedPlan host data)
            let (ledger, active) :=
              recordPartnerCommission host settings orgId data reference now newId db.ledger
            .ok (⟨true, normalizedPlan host data, reference⟩, ⟨{ db with ledger := ledger }, active⟩)
  | .json _ => .error (.python "AttributeError")

/-! ## Webhooks -/

/-- One delivery, with what happens to the calls it makes. -/
structure WebhookCall where
  event : String
  data : Json
  signature : Option String
  rawBody : String
  /-- Paystack's answer, should the event lead to a verification. -/
  reply : PaystackReply
  claim : CallOutcome
  now : Instant
  newId : Uuid

structure PaystackWebhookResponse where
  received : Bool
  eventType : String
  deriving DecidableEq, Repr

/-- `_webhook_event_id`. -/
def webhookEventId (host : Runtime) (event : String) (data : Json) : Option String :=
  let eventId := (((data.get "id").orElse (data.get "event_id")).orElse
    (data.get "reference")).orElse (data.get "subscription_code")
  if event = "" ∨ ¬ eventId.truthy then none else some (event ++ ":" ++ eventId.text host)

/-- `_claim_webhook_event`. `safe_redis_set_nx` raises nothing, so the
fail-open branch is never reached. -/
def claimWebhookEvent (eventId : String) (claim : CallOutcome) (now : Instant) (redis : Redis String) :
    Redis String × Bool :=
  redis.safeSetNx ("paystack:event:" ++ eventId) "1" (24 * 3600) now claim

/-- `_reverse_partner_commissions`. -/
def reversePartnerCommissions (host : Runtime) (data : Json) (reason : String) (db : Database) :
    Work :=
  let reference := ((data.get "transaction_reference").orElse (data.get "reference")).orElse
    ((data.get "transaction").asDict.get "reference")
  if ¬ reference.truthy then ⟨db, true⟩
  else match Partners.reverseByReference (reference.text host) reason db.ledger with
  | .ok (ledger, _) => ⟨{ db with ledger := ledger }, true⟩
  | .error (.flush _) => ⟨db, false⟩
  | .error _ => ⟨db, true⟩

/-- The customer code of an event, if it has one. -/
def customerCode (host : Runtime) (data : Json) : Option String :=
  let code := (data.get "customer").asDict.get "customer_code"
  if code.truthy then some (code.text host) else none

/-- `_handle_partner_churn`. -/
def handlePartnerChurn (host : Runtime) (data : Json) (db : Database) : Database :=
  match customerCode host data with
  | none => db
  | some code =>
    match db.orgByProviderCustomer code with
    | .ok (some org) => { db with ledger := Partners.handleChurn org.id db.ledger }
    | _ => db

/-- The `values` a `subscription.create` event writes. -/
def eventValues (host : Runtime) (data : Json) : SubscriptionValues :=
  { plan := normalizedPlan host data
    status := ((data.get "status").orElse (.str "active")).text host
    providerCustomerId := (data.get "customer").asDict.get "customer_code"
    providerSubscriptionId := data.get "subscription_code"
    currentPeriodStart := parseDatetime host (data.get "createdAt")
    currentPeriodEnd := parseDatetime host (data.get "next_payment_date") }

/-- `_upsert_webhook_subscription`. -/
def upsertWebhookSubscription (host : Runtime) (data : Json) (db : Database) :
    Except Failure Database :=
  let orgIdRaw := (data.get "metadata").asDict.get "org_id"
  if ¬ orgIdRaw.truthy then .ok db
  else match host.uuidOfText (orgIdRaw.text host) with
  | none => .ok db
  | some orgId =>
    match db.organizations.get? orgId with
    | none => .ok db
    | some org =>
      match db.writeSubscription orgId (eventValues host data) with
      | .error failure => .error failure
      | .ok db => .ok (db.setPlan org.id (normalizedPlan host data))

/-- `_disable_webhook_subscription`. -/
def disableWebhookSubscription (host : Runtime) (data : Json) (db : Database) :
    Except Failure Database :=
  match customerCode host data with
  | none => .ok db
  | some code =>
    match db.orgByProviderCustomer code with
    | .error failure => .error failure
    | .ok none => .ok db
    | .ok (some org) =>
      let subscriptions :=
        db.subscriptions.updateKey org.id (fun s => { s with status := "inactive" }) (fun _ => rfl)
      .ok ({ db with subscriptions := subscriptions }.setPlan org.id .free)

/-- The signature check of `handle_webhook`. -/
def checkSignature (host : Runtime) (settings : BillingSettings) (call : WebhookCall) :
    Except Failure Unit :=
  match call.signature.filter (· ≠ "") with
  | none => .error (.app (unauthorizedException "Missing Paystack webhook signature"))
  | some signature =>
    if call.rawBody = "" then .error (.app (unauthorizedException "Missing raw request body"))
    else if settings.paystackSecretKey = "" then
      .error (.app (unauthorizedException "Paystack webhook secret is not configured"))
    -- `compare_digest` takes ASCII texts only
    else if signature.toList.any (fun c => 128 ≤ c.toNat) then .error (.python "TypeError")
    else if host.hmacSha512Hex settings.paystackSecretKey call.rawBody ≠ signature then
      .error (.app (unauthorizedException "Invalid Paystack webhook signature"))
    else .ok ()

/-- The branches of `handle_webhook` on the event's type. -/
def dispatchEvent (host : Runtime) (settings : BillingSettings) (call : WebhookCall)
    (db : Database) : Except Failure Work :=
  let data := call.data.asDict
  if call.event = "charge.success" ∧ (data.get "reference").truthy then
    (verifyTransaction host settings call.reply ((data.get "reference").text host) call.now
      call.newId db).map Prod.snd
  else if call.event = "subscription.create" then
    (upsertWebhookSubscription host data db).map (fun db => ⟨db, true⟩)
  else if call.event ∈ ["subscription.disable", "subscription.not_renew"] then
    (disableWebhookSubscription host data db).map
      (fun db => ⟨handlePartnerChurn host data db, true⟩)
  else if call.event ∈ ["refund.processed", "charge.refunded"] then
    .ok (reversePartnerCommissions host data "refund" db)
  else if call.event ∈ ["charge.dispute.create", "charge.dispute.remind"] then
    .ok (reversePartnerCommissions host data "chargeback" db)
  else .ok ⟨db, true⟩

/-- `handle_webhook`: what it leaves in Redis, and its result. -/
def handleWebhook (host : Runtime) (settings : BillingSettings) (call : WebhookCall) (db : Database)
    (redis : Redis String) : Redis String × Except Failure (PaystackWebhookResponse × Work) :=
  match checkSignature host settings call with
  | .error failure => (redis, .error failure)
  | .ok () =>
    let response : PaystackWebhookResponse := ⟨true, call.event⟩
    let (redis, claimed) := match webhookEventId host call.event call.data.asDict with
      | none => (redis, true)
      | some eventId => claimWebhookEvent eventId call.claim call.now redis
    if ¬ claimed then (redis, .ok (response, ⟨db, true⟩))
    else (redis, (dispatchEvent host settings call db).map (fun work => (response, work)))

/-! ## Requests -/

/-- `get_db` around a handler: an exception and an inactive session leave the
database as it was. -/
def finish {α : Type} (db : Database) (result : Except Failure (α × Work)) : Database :=
  match result with
  | .ok (_, work) => if work.active then work.database else db
  | .error _ => db

structure World where
  database : Database
  redis : Redis String

/-- A request that reaches the billing service. -/
inductive BillingOp where
  | initializePayment (orgId : Uuid) (request : InitializePaymentRequest)
      (paystack : TransactionRequest → PaystackReply)
  | verifyTransaction (reference : String) (reply : PaystackReply) (now : Instant) (newId : Uuid)
  | webhook (call : WebhookCall)

/-- What is committed after a request. -/
def billingStep (host : Runtime) (settings : BillingSettings) (w : World) : BillingOp → World
  | .initializePayment _ _ _ => w
  | .verifyTransaction reference reply now newId =>
    let result := Billing.verifyTransaction host settings reply reference now newId w.database
    { w with database := finish w.database result }
  | .webhook call =>
    let (redis, result) := handleWebhook host settings call w.database w.redis
    { database := finish w.database result, redis := redis }

end Reliastra.Source.Billing
