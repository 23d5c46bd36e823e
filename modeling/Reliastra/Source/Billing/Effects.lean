import Reliastra.Library.Run
import Reliastra.Source.Billing.Service
import Reliastra.Source.Partners.LedgerEffects

/-!
# What one billing request commits

A verification either provisions an organization (`Provisions`: the answer is a
successful transaction of a known organization, and the database takes the
values) or commits nothing. A webhook event is refused, verifies a payment,
writes a subscription (`Upserts`), takes an organization back to the free plan,
or leaves plans and subscriptions alone.
-/

namespace Reliastra.Source.Billing

open Reliastra.Library

/-- The organization and the data of a successful transaction in an answer. -/
def paymentIn (host : Runtime) : PaystackReply → Option (Uuid × Json)
  | .json (.obj members) =>
    (successData (.obj members)).bind (fun data =>
      let orgIdRaw := (data.get "metadata").asDict.get "org_id"
      if orgIdRaw.truthy then
        (host.uuidOfText (orgIdRaw.text host)).map (fun orgId => (orgId, data))
      else none)
  | _ => none

/-- The columns of the subscription take the values. -/
structure SubscriptionValues.Fits (values : SubscriptionValues) : Prop where
  customerId : ∃ column, textColumn 200 values.providerCustomerId = .ok column
  subscriptionId : ∃ column, textColumn 200 values.providerSubscriptionId = .ok column
  status : FitsText 30 values.status

/-- The column values of a document value, `none` for what does not fit. -/
def columnOf (limit : Nat) (value : Json) : Option String :=
  match textColumn limit value with
  | .ok column => column
  | .error _ => none

/-- The row of the organization after the write. -/
def writtenRow (orgId : Uuid) (values : SubscriptionValues) : Option Subscription → Subscription
  | some s => s.update values (columnOf 200 values.providerCustomerId)
      (columnOf 200 values.providerSubscriptionId)
  | none => newSubscription orgId values (columnOf 200 values.providerCustomerId)
      (columnOf 200 values.providerSubscriptionId)

/-- The effect of writing a subscription: one row is rewritten or added. -/
structure SubscriptionWritten (db : Database) (orgId : Uuid) (values : SubscriptionValues)
    (after : Database) : Prop where
  organizations : after.organizations = db.organizations
  ledger : after.ledger = db.ledger
  others : ∀ other ≠ orgId, after.subscriptions.get? other = db.subscriptions.get? other
  row : after.subscriptions.get? orgId = some (writtenRow orgId values (db.subscriptions.get? orgId))
  same : (∃ s, db.subscriptions.get? orgId = some s ∧ writtenRow orgId values (some s) = s) →
    after.subscriptions = db.subscriptions

theorem writeSubscription_ok (db : Database) (orgId : Uuid) (values : SubscriptionValues)
    (fits : values.Fits) :
    ∃ after, db.writeSubscription orgId values = .ok after ∧
      SubscriptionWritten db orgId values after := by
  obtain ⟨customerId, customer⟩ := fits.customerId
  obtain ⟨subscriptionId, subscription⟩ := fits.subscriptionId
  have updated (s : Subscription) : writtenRow orgId values (some s) =
      s.update values customerId subscriptionId := by
    simp only [writtenRow, columnOf, customer, subscription]
  have created : writtenRow orgId values none =
      newSubscription orgId values customerId subscriptionId := by
    simp only [writtenRow, columnOf, customer, subscription]
  unfold Database.writeSubscription
  rw [customer, subscription]
  simp only [fits.status, not_true_eq_false, if_false]
  cases found : db.subscriptions.get? orgId with
  | some s =>
    obtain ⟨member, rfl⟩ := (Table.get?_eq_some_iff _ _ _).mp found
    refine ⟨_, rfl, rfl, rfl, ?_, ?_, ?_⟩
    · intro other different
      rw [Table.get?_updateKey]
      simp only [if_neg different, Option.map_id']
    · rw [Table.get?_updateKey, found, updated]
      simp only [Option.map_some, if_true]
    · rintro ⟨s', same, fixed⟩
      obtain rfl : s = s' := Option.some.inj (found.symm.trans same)
      rw [updated] at fixed
      refine Table.updateKey_eq_self
        (Subscription.update_organizationId values customerId subscriptionId)
        (fun row place here => ?_)
      rw [Table.eq_of_key place member here]
      exact fixed
  | none =>
    have fresh : (newSubscription orgId values customerId subscriptionId).organizationId ∉
        db.subscriptions.rows.map (·.organizationId) := by
      intro taken
      obtain ⟨row, place, here⟩ := List.mem_map.mp taken
      exact (Table.get?_eq_none_iff _ _).mp found row place here
    obtain ⟨subscriptions, inserted⟩ := (Table.insert_isSome_iff db.subscriptions _).mpr fresh
    simp only [inserted]
    refine ⟨_, rfl, rfl, rfl, ?_, ?_, ?_⟩
    · intro other different
      rw [Table.get?_insert inserted, if_neg (fun here => different here.symm)]
    · rw [Table.get?_insert inserted, found, created]
      exact if_pos rfl
    · rintro ⟨s, same, _⟩
      rw [found] at same
      cases same

theorem fits_of_writeSubscription {db after : Database} {orgId : Uuid} {values : SubscriptionValues}
    (success : db.writeSubscription orgId values = .ok after) : values.Fits := by
  unfold Database.writeSubscription at success
  split at success
  · next customerId subscriptionId customer subscription =>
    split at success
    · cases success
    · next status => exact ⟨⟨_, customer⟩, ⟨_, subscription⟩, not_not.mp status⟩
  · cases success
  · cases success

theorem paymentValues_plan (host : Runtime) (data : Json) (reference : String) :
    (paymentValues host data reference).plan = normalizedPlan host data := by
  simp only [paymentValues]

theorem eventValues_plan (host : Runtime) (data : Json) :
    (eventValues host data).plan = normalizedPlan host data := by
  simp only [eventValues]

/-- A plan and a subscription were written to an organization. -/
structure Wrote (db : Database) (orgId : Uuid) (values : SubscriptionValues) (after : Database) :
    Prop where
  organizations : after.organizations.rows = db.organizations.rows.map
    (fun org => if org.id = orgId then { org with plan := values.plan } else org)
  others : ∀ other ≠ orgId, after.subscriptions.get? other = db.subscriptions.get? other
  row : after.subscriptions.get? orgId = some (writtenRow orgId values (db.subscriptions.get? orgId))

/-- Whatever the row was, it has the plan and the status that were written. -/
theorem writtenRow_entitles (orgId : Uuid) (values : SubscriptionValues) (s : Option Subscription) :
    (writtenRow orgId values s).plan = values.plan ∧
      (writtenRow orgId values s).status = values.status := by
  cases s <;> exact ⟨rfl, rfl⟩

/-! ## Verification -/

/-- A verification that goes through: `data` is what Paystack reports. -/
structure Provisions (host : Runtime) (settings : BillingSettings) (db : Database)
    (reference : String) (reply : PaystackReply) (now : Instant) (newId orgId : Uuid)
    (data : Json) : Prop where
  configured : settings.paystackSecretKey ≠ ""
  payment : paymentIn host reply = some (orgId, data)
  known : ∃ org ∈ db.organizations.rows, org.id = orgId
  fits : (paymentValues host data reference).Fits
  recorded :
    (recordPartnerCommission host settings orgId data reference now newId db.ledger).2 = true

/-- What a verification that goes through commits. -/
structure Provisioned (host : Runtime) (db : Database) (reference : String) (orgId : Uuid)
    (data : Json) (after : Database) : Prop where
  organizations : after.organizations.rows = db.organizations.rows.map
    (fun org => if org.id = orgId then { org with plan := normalizedPlan host data } else org)
  subscription : ∃ written, after.subscriptions = written.subscriptions ∧
    SubscriptionWritten db orgId (paymentValues host data reference) written

/-- The part of `verify_transaction` after Paystack reported a payment. -/
def provision (host : Runtime) (settings : BillingSettings) (reference : String) (now : Instant)
    (newId orgId : Uuid) (data : Json) (db : Database) :
    Except Failure (VerifyTransactionResponse × Work) :=
  match db.organizations.get? orgId with
  | none => .error (.app (resourceNotFoundException "Organization not found"))
  | some org =>
    match db.writeSubscription orgId (paymentValues host data reference) with
    | .error failure => .error failure
    | .ok db =>
      let db := db.setPlan org.id (normalizedPlan host data)
      let (ledger, active) :=
        recordPartnerCommission host settings orgId data reference now newId db.ledger
      .ok (⟨true, normalizedPlan host data, reference⟩, ⟨{ db with ledger := ledger }, active⟩)

theorem verifyTransaction_payment {host : Runtime} {settings : BillingSettings}
    {reply : PaystackReply} {orgId : Uuid} {data : Json}
    (configured : settings.paystackSecretKey ≠ "")
    (payment : paymentIn host reply = some (orgId, data))
    (reference : String) (now : Instant) (newId : Uuid) (db : Database) :
    verifyTransaction host settings reply reference now newId db =
      provision host settings reference now newId orgId data db := by
  unfold paymentIn at payment
  split at payment
  · next members =>
    obtain ⟨data', success, payment⟩ := Option.bind_eq_some_iff.mp payment
    dsimp only at payment
    split at payment
    · next given =>
      obtain ⟨orgId', parsed, same⟩ := Option.map_eq_some_iff.mp payment
      cases same
      unfold verifyTransaction
      simp only [if_neg configured, success, given, not_true_eq_false, if_false, parsed]
      rfl
    · cases payment
  · cases payment

/-- Without a payment in the answer a verification commits nothing. -/
theorem verifyTransaction_idle {host : Runtime} {settings : BillingSettings}
    {reply : PaystackReply} (none : paymentIn host reply = none ∨ settings.paystackSecretKey = "")
    (reference : String) (now : Instant) (newId : Uuid) (db : Database) :
    finish db (verifyTransaction host settings reply reference now newId db) = db := by
  unfold verifyTransaction
  split
  · rfl
  · next configured =>
    have none := none.resolve_right configured
    split
    · rfl
    · rfl
    · next members =>
      simp only [paymentIn] at none
      split
      · rfl
      · next data success =>
        rw [success, Option.bind_some] at none
        dsimp only at none ⊢
        split
        · rfl
        · next given =>
          rw [if_pos (by simpa using given)] at none
          rw [Option.map_eq_none_iff.mp none]
          rfl
    · rfl

theorem verify_provisions {host : Runtime} {settings : BillingSettings} {db : Database}
    {reference : String} {reply : PaystackReply} {now : Instant} {newId orgId : Uuid} {data : Json}
    (provisions : Provisions host settings db reference reply now newId orgId data) :
    Provisioned host db reference orgId data
      (finish db (verifyTransaction host settings reply reference now newId db)) := by
  obtain ⟨configured, payment, ⟨org, member, rfl⟩, fits, recorded⟩ := provisions
  obtain ⟨written, wrote, effect⟩ := writeSubscription_ok db org.id _ fits
  have found : db.organizations.get? org.id = some org :=
    (Table.get?_eq_some_iff _ _ _).mpr ⟨member, rfl⟩
  rw [verifyTransaction_payment configured payment]
  have active : (recordPartnerCommission host settings org.id data reference now newId
      (written.setPlan org.id (normalizedPlan host data)).ledger).2 = true := by
    rw [← recorded, ← effect.ledger]
    rfl
  simp only [provision, found, wrote, finish, active, if_true]
  refine ⟨?_, written, rfl, effect⟩
  simp only [Database.setPlan, Table.updateKey_rows, effect.organizations]

theorem verify_wrote {host : Runtime} {settings : BillingSettings} {db : Database}
    {reference : String} {reply : PaystackReply} {now : Instant} {newId orgId : Uuid} {data : Json}
    (provisions : Provisions host settings db reference reply now newId orgId data) :
    Wrote db orgId (paymentValues host data reference)
      (finish db (verifyTransaction host settings reply reference now newId db)) := by
  obtain ⟨organizations, written, subscriptions, effect⟩ := verify_provisions provisions
  refine ⟨?_, ?_, ?_⟩
  · rw [paymentValues_plan]
    exact organizations
  · intro other elsewhere
    rw [subscriptions]
    exact effect.others other elsewhere
  · rw [subscriptions]
    exact effect.row

/-- The commission of a payment is the only thing a verification records in the
ledger. -/
theorem verify_ledger {host : Runtime} {settings : BillingSettings} {db : Database}
    {reference : String} {reply : PaystackReply} {now : Instant} {newId orgId : Uuid} {data : Json}
    (provisions : Provisions host settings db reference reply now newId orgId data) :
    (finish db (verifyTransaction host settings reply reference now newId db)).ledger =
      (recordPartnerCommission host settings orgId data reference now newId db.ledger).1 := by
  obtain ⟨configured, payment, ⟨org, member, rfl⟩, fits, recorded⟩ := provisions
  obtain ⟨written, wrote, effect⟩ := writeSubscription_ok db org.id _ fits
  have found : db.organizations.get? org.id = some org :=
    (Table.get?_eq_some_iff _ _ _).mpr ⟨member, rfl⟩
  have ledger : (written.setPlan org.id (normalizedPlan host data)).ledger = db.ledger :=
    effect.ledger
  rw [verifyTransaction_payment configured payment]
  simp only [provision, found, wrote, finish, ledger, recorded, if_true]

theorem verify_idle {host : Runtime} {settings : BillingSettings} {db : Database}
    {reference : String} {reply : PaystackReply} {now : Instant} {newId : Uuid}
    (idle : ∀ orgId data, ¬ Provisions host settings db reference reply now newId orgId data) :
    finish db (verifyTransaction host settings reply reference now newId db) = db := by
  by_cases configured : settings.paystackSecretKey = ""
  · exact verifyTransaction_idle (Or.inr configured) reference now newId db
  cases payment : paymentIn host reply with
  | none => exact verifyTransaction_idle (Or.inl payment) reference now newId db
  | some pair =>
    obtain ⟨orgId, data⟩ := pair
    rw [verifyTransaction_payment configured payment]
    unfold provision
    split
    · rfl
    · next org found =>
      obtain ⟨member, rfl⟩ := (Table.get?_eq_some_iff _ _ _).mp found
      split
      · rfl
      · next written wrote =>
        have fits := fits_of_writeSubscription wrote
        obtain ⟨written', wrote', effect⟩ := writeSubscription_ok db org.id _ fits
        obtain rfl : written' = written := Except.ok.inj (wrote'.symm.trans wrote)
        have unrecorded : (recordPartnerCommission host settings org.id data reference now newId
            (written'.setPlan org.id (normalizedPlan host data)).ledger).2 ≠ true := by
          intro recorded
          refine idle org.id data ⟨configured, payment, ⟨org, member, rfl⟩, fits, ?_⟩
          rw [← effect.ledger]
          exact recorded
        simp only [finish, if_neg unrecorded]

/-! ## The commission of a payment -/

/-- The payment `_record_partner_commission` passes on. -/
def collectedPayment (host : Runtime) (orgId : Uuid) (data : Json) (reference : String) :
    Option Partners.Payment :=
  let collected := data.get "amount"
  if ¬ collected.truthy then none
  else match collected.toInt host with
  | .error _ => none
  | .ok collectedMinor => some
    { organizationId := orgId
      collectedMinor := collectedMinor
      currency := Text.slice (Text.upper (((data.get "currency").orElse (.str "USD")).text host)) 3
      paymentReference := reference
      paidAt := parseDatetime host (data.get "paid_at") }

/-- A payment somebody earns a commission on. -/
def PaysCommission (host : Runtime) (settings : BillingSettings) (orgId : Uuid) (data : Json)
    (reference : String) (ledger : Partners.Ledger) : Prop :=
  ∃ payment ∈ collectedPayment host orgId data reference, ∃ referral partner,
    Partners.EarnsCommission settings.partner payment ledger referral partner

theorem recordPartnerCommission_idle {host : Runtime} {settings : BillingSettings} {orgId : Uuid}
    {data : Json} {reference : String} {ledger : Partners.Ledger}
    (idle : ¬ PaysCommission host settings orgId data reference ledger) (now : Instant)
    (newId : Uuid) :
    recordPartnerCommission host settings orgId data reference now newId ledger =
      (ledger, true) := by
  unfold recordPartnerCommission
  dsimp only
  split
  · rfl
  next given =>
  split
  · rfl
  next collectedMinor parsed =>
  have passed : collectedPayment host orgId data reference = some
      { organizationId := orgId
        collectedMinor := collectedMinor
        currency := Text.slice (Text.upper (((data.get "currency").orElse (.str "USD")).text host)) 3
        paymentReference := reference
        paidAt := parseDatetime host (data.get "paid_at") } := by
    simp only [collectedPayment, if_neg given, parsed]
  rw [Partners.recordPayment_idle (fun referral partner earns =>
    idle ⟨_, passed, referral, partner, earns⟩)]

theorem recordPartnerCommission_paid {host : Runtime} {settings : BillingSettings} {orgId : Uuid}
    {data : Json} {reference : String} {ledger : Partners.Ledger} {now : Instant} {newId : Uuid}
    (pays : PaysCommission host settings orgId data reference ledger)
    (recorded :
      (recordPartnerCommission host settings orgId data reference now newId ledger).2 = true) :
    ∃ commission, commission.billingEventId = reference ∧
      (recordPartnerCommission host settings orgId data reference now newId
        ledger).1.commissions.rows = ledger.commissions.rows ++ [commission] := by
  obtain ⟨payment, passed, referral, partner, earns⟩ := pays
  unfold collectedPayment at passed
  dsimp only at passed
  split at passed
  · cases passed
  next given =>
  split at passed
  · cases passed
  next collectedMinor parsed =>
  cases passed
  unfold recordPartnerCommission at recorded ⊢
  simp only [if_neg given, parsed] at recorded ⊢
  split
  · next after success => exact ⟨_, rfl, Partners.recordPayment_earned earns success⟩
  · next cause refused =>
    rw [refused] at recorded
    cases recorded
  · next failure refused other =>
    obtain ⟨cause, same⟩ := Partners.recordPayment_error other
    exact absurd same (refused cause)

/-! ## Webhook events -/

/-- The delivery passes the signature check and claims its event. -/
def admitted (host : Runtime) (settings : BillingSettings) (call : WebhookCall) (redis : Redis String) :
    Bool :=
  match checkSignature host settings call with
  | .error _ => false
  | .ok () => match webhookEventId host call.event call.data.asDict with
    | none => true
    | some eventId => (claimWebhookEvent eventId call.claim call.now redis).2

theorem webhook_database (host : Runtime) (settings : BillingSettings) (w : World)
    (call : WebhookCall) :
    (billingStep host settings w (.webhook call)).database =
      if admitted host settings call w.redis then
        finish w.database ((dispatchEvent host settings call w.database).map (fun work => ((), work)))
      else w.database := by
  cases signed : checkSignature host settings call with
  | error failure =>
    simp only [billingStep, handleWebhook, admitted, signed, Bool.false_eq_true, if_false]
    rfl
  | ok _ =>
    cases event : webhookEventId host call.event call.data.asDict with
    | none =>
      simp only [billingStep, handleWebhook, admitted, signed, event, not_true_eq_false, if_true,
        if_false]
      cases dispatchEvent host settings call w.database <;> rfl
    | some eventId =>
      cases claimed : (claimWebhookEvent eventId call.claim call.now w.redis).2 with
      | false =>
        simp only [billingStep, handleWebhook, admitted, signed, event, claimed, Bool.false_eq_true,
          not_false_eq_true, if_true, if_false]
        rfl
      | true =>
        simp only [billingStep, handleWebhook, admitted, signed, event, claimed, not_true_eq_false,
          if_true, if_false]
        cases dispatchEvent host settings call w.database <;> rfl

/-- A verification with the inputs it runs on. -/
structure Verification where
  reference : String
  reply : PaystackReply
  now : Instant
  newId : Uuid

/-- The verification a request comes to: its own, or that of a
`charge.success` event. -/
def verificationOf (host : Runtime) (settings : BillingSettings) (w : World) :
    BillingOp → Option Verification
  | .initializePayment _ _ _ => none
  | .verifyTransaction reference reply now newId => some ⟨reference, reply, now, newId⟩
  | .webhook call =>
    let reference := call.data.asDict.get "reference"
    if admitted host settings call w.redis ∧ call.event = "charge.success" ∧ reference.truthy then
      some ⟨reference.text host, call.reply, call.now, call.newId⟩
    else none

theorem verification_database {host : Runtime} {settings : BillingSettings} {w : World}
    {op : BillingOp} {v : Verification} (verifies : verificationOf host settings w op = some v) :
    (billingStep host settings w op).database = finish w.database
      (verifyTransaction host settings v.reply v.reference v.now v.newId w.database) := by
  cases op with
  | initializePayment orgId request paystack => cases verifies
  | verifyTransaction reference reply now newId =>
    cases verifies
    rfl
  | webhook call =>
    unfold verificationOf at verifies
    dsimp only at verifies
    split at verifies
    · next conditions =>
      obtain ⟨claimed, event, given⟩ := conditions
      cases verifies
      rw [webhook_database, if_pos claimed]
      simp only [dispatchEvent, event, given, true_and, if_true]
      cases verifyTransaction host settings call.reply
        ((call.data.asDict.get "reference").text host) call.now call.newId w.database <;> rfl
    · cases verifies

/-- A `subscription.create` event that goes through. -/
structure Upserts (host : Runtime) (db : Database) (data : Json) (orgId : Uuid) : Prop where
  given : ((data.get "metadata").asDict.get "org_id").truthy
  parsed : host.uuidOfText (((data.get "metadata").asDict.get "org_id").text host) = some orgId
  known : ∃ org ∈ db.organizations.rows, org.id = orgId
  fits : (eventValues host data).Fits

theorem upsert_ok {host : Runtime} {db : Database} {data : Json} {orgId : Uuid}
    (upserts : Upserts host db data orgId) :
    ∃ after, upsertWebhookSubscription host data db = .ok after ∧
      Wrote db orgId (eventValues host data) after := by
  obtain ⟨given, parsed, ⟨org, member, rfl⟩, fits⟩ := upserts
  obtain ⟨written, wrote, effect⟩ := writeSubscription_ok db org.id _ fits
  have found : db.organizations.get? org.id = some org :=
    (Table.get?_eq_some_iff _ _ _).mpr ⟨member, rfl⟩
  refine ⟨written.setPlan org.id (normalizedPlan host data), ?_, ?_, effect.others, effect.row⟩
  · simp only [upsertWebhookSubscription, given, not_true_eq_false, if_false, parsed, found, wrote]
  · rw [eventValues_plan]
    simp only [Database.setPlan, Table.updateKey_rows, effect.organizations]

theorem upsert_idle {host : Runtime} {db after : Database} {data : Json}
    (idle : ∀ orgId, ¬ Upserts host db data orgId)
    (success : upsertWebhookSubscription host data db = .ok after) : after = db := by
  unfold upsertWebhookSubscription at success
  dsimp only at success
  split at success
  · cases success
    rfl
  · next given =>
    split at success
    · cases success
      rfl
    · next orgId parsed =>
      split at success
      · cases success
        rfl
      · next org found =>
        obtain ⟨member, rfl⟩ := (Table.get?_eq_some_iff _ _ _).mp found
        split at success
        · cases success
        · next written wrote =>
          exact absurd ⟨not_not.mp given, parsed, ⟨org, member, rfl⟩, fits_of_writeSubscription wrote⟩
            (idle org.id)

theorem subscription_wrote {host : Runtime} {settings : BillingSettings} {w : World}
    {call : WebhookCall} {orgId : Uuid} (claimed : admitted host settings call w.redis)
    (event : call.event = "subscription.create")
    (upserts : Upserts host w.database call.data.asDict orgId) :
    Wrote w.database orgId (eventValues host call.data.asDict)
      (billingStep host settings w (.webhook call)).database := by
  obtain ⟨after, done, wrote⟩ := upsert_ok upserts
  rw [webhook_database, if_pos claimed]
  simp only [dispatchEvent, event, String.reduceEq, false_and, if_false, if_true, done]
  exact wrote

theorem inactive_keeps (s : Subscription) :
    ({ s with status := "inactive" } : Subscription).organizationId = s.organizationId := rfl

/-- The database after `_disable_webhook_subscription` found the organization. -/
def Database.deactivated (db : Database) (orgId : Uuid) : Database :=
  let subscriptions :=
    db.subscriptions.updateKey orgId (fun s => { s with status := "inactive" }) inactive_keeps
  { db with subscriptions := subscriptions }.setPlan orgId .free

theorem disable_effect {host : Runtime} {db after : Database} {data : Json}
    (success : disableWebhookSubscription host data db = .ok after) :
    after = db ∨ ∃ orgId, after = db.deactivated orgId := by
  unfold disableWebhookSubscription at success
  split at success
  · cases success
    exact Or.inl rfl
  split at success
  · cases success
  · cases success
    exact Or.inl rfl
  · next org found =>
    cases success
    exact Or.inr ⟨org.id, rfl⟩

theorem churn_tables (host : Runtime) (data : Json) (db : Database) :
    (handlePartnerChurn host data db).organizations = db.organizations ∧
      (handlePartnerChurn host data db).subscriptions = db.subscriptions := by
  unfold handlePartnerChurn
  split
  · exact ⟨rfl, rfl⟩
  split <;> exact ⟨rfl, rfl⟩

theorem reversal_tables (host : Runtime) (data : Json) (reason : String) (db : Database) :
    (finish db (.ok ((), reversePartnerCommissions host data reason db))).organizations =
        db.organizations ∧
      (finish db (.ok ((), reversePartnerCommissions host data reason db))).subscriptions =
        db.subscriptions := by
  have kept : (reversePartnerCommissions host data reason db).database.organizations =
        db.organizations ∧
      (reversePartnerCommissions host data reason db).database.subscriptions =
        db.subscriptions := by
    unfold reversePartnerCommissions
    dsimp only
    split
    · exact ⟨rfl, rfl⟩
    split <;> exact ⟨rfl, rfl⟩
  unfold finish
  dsimp only
  split
  · exact kept
  · exact ⟨rfl, rfl⟩

/-- Every way a request changes plans and subscriptions. -/
inductive TablesEffect (host : Runtime) (settings : BillingSettings) (w : World) (op : BillingOp)
    (after : Database) : Prop where
  | unchanged (organizations : after.organizations = w.database.organizations)
      (subscriptions : after.subscriptions = w.database.subscriptions)
  | verified (v : Verification) (orgId : Uuid) (data : Json)
      (verifies : verificationOf host settings w op = some v)
      (provisions : Provisions host settings w.database v.reference v.reply v.now v.newId orgId data)
      (wrote : Wrote w.database orgId (paymentValues host data v.reference) after)
  | subscribed (call : WebhookCall) (orgId : Uuid) (same : op = .webhook call)
      (claimed : admitted host settings call w.redis) (event : call.event = "subscription.create")
      (upserts : Upserts host w.database call.data.asDict orgId)
      (wrote : Wrote w.database orgId (eventValues host call.data.asDict) after)
  | disabled (orgId : Uuid)
      (organizations : after.organizations = (w.database.deactivated orgId).organizations)
      (subscriptions : after.subscriptions = (w.database.deactivated orgId).subscriptions)

theorem billingStep_tables (host : Runtime) (settings : BillingSettings) (w : World)
    (op : BillingOp) :
    TablesEffect host settings w op (billingStep host settings w op).database := by
  cases verifies : verificationOf host settings w op with
  | some v =>
    rw [verification_database verifies]
    by_cases goes : ∃ orgId data,
        Provisions host settings w.database v.reference v.reply v.now v.newId orgId data
    · obtain ⟨orgId, data, provisions⟩ := goes
      exact .verified v orgId data verifies provisions (verify_wrote provisions)
    · rw [verify_idle (fun orgId data provisions => goes ⟨orgId, data, provisions⟩)]
      exact .unchanged rfl rfl
  | none =>
    cases op with
    | initializePayment orgId request paystack => exact .unchanged rfl rfl
    | verifyTransaction reference reply now newId => cases verifies
    | webhook call =>
      by_cases subscribes : admitted host settings call w.redis = true ∧
          call.event = "subscription.create" ∧ ∃ orgId, Upserts host w.database call.data.asDict orgId
      · obtain ⟨claimed, event, orgId, upserts⟩ := subscribes
        exact .subscribed call orgId rfl claimed event upserts
          (subscription_wrote claimed event upserts)
      rw [webhook_database]
      split
      · next claimed =>
        unfold verificationOf at verifies
        dsimp only at verifies
        split at verifies
        · cases verifies
        · next unverified =>
          have other : ¬ (call.event = "charge.success" ∧
              (call.data.asDict.get "reference").truthy) := fun both => unverified ⟨claimed, both⟩
          unfold dispatchEvent
          dsimp only
          rw [if_neg other]
          split
          · next event =>
            cases done : upsertWebhookSubscription host call.data.asDict w.database with
            | error failure => exact .unchanged rfl rfl
            | ok after =>
              rw [upsert_idle (fun orgId upserts => subscribes ⟨claimed, event, orgId, upserts⟩) done]
              exact .unchanged rfl rfl
          split
          · cases done : disableWebhookSubscription host call.data.asDict w.database with
            | error failure => exact .unchanged rfl rfl
            | ok after =>
              obtain ⟨organizations, subscriptions⟩ := churn_tables host call.data.asDict after
              rcases disable_effect done with rfl | ⟨orgId, rfl⟩
              · exact .unchanged organizations subscriptions
              · exact .disabled orgId organizations subscriptions
          split
          · obtain ⟨organizations, subscriptions⟩ :=
              reversal_tables host call.data.asDict "refund" w.database
            exact .unchanged organizations subscriptions
          split
          · obtain ⟨organizations, subscriptions⟩ :=
              reversal_tables host call.data.asDict "chargeback" w.database
            exact .unchanged organizations subscriptions
          · exact .unchanged rfl rfl
      · exact .unchanged rfl rfl

/-- Every way a request changes the plans of organizations. -/
inductive PlanEffect (host : Runtime) (settings : BillingSettings) (w : World) (op : BillingOp)
    (after : Database) : Prop where
  | unchanged (same : after.organizations = w.database.organizations)
  | verified (v : Verification) (orgId : Uuid) (data : Json)
      (verifies : verificationOf host settings w op = some v)
      (provisions : Provisions host settings w.database v.reference v.reply v.now v.newId orgId data)
      (rows : after.organizations.rows = w.database.organizations.rows.map (fun org =>
        if org.id = orgId then { org with plan := normalizedPlan host data } else org))
  | subscribed (call : WebhookCall) (orgId : Uuid) (same : op = .webhook call)
      (claimed : admitted host settings call w.redis) (event : call.event = "subscription.create")
      (upserts : Upserts host w.database call.data.asDict orgId)
      (rows : after.organizations.rows = w.database.organizations.rows.map (fun org =>
        if org.id = orgId then { org with plan := normalizedPlan host call.data.asDict } else org))
  | disabled (orgId : Uuid)
      (rows : after.organizations.rows = w.database.organizations.rows.map (fun org =>
        if org.id = orgId then { org with plan := .free } else org))

theorem billingStep_effect (host : Runtime) (settings : BillingSettings) (w : World)
    (op : BillingOp) :
    PlanEffect host settings w op (billingStep host settings w op).database := by
  cases billingStep_tables host settings w op with
  | unchanged organizations subscriptions => exact .unchanged organizations
  | verified v orgId data verifies provisions wrote =>
    have rows := wrote.organizations
    rw [paymentValues_plan] at rows
    exact .verified v orgId data verifies provisions rows
  | subscribed call orgId same claimed event upserts wrote =>
    have rows := wrote.organizations
    rw [eventValues_plan] at rows
    exact .subscribed call orgId same claimed event upserts rows
  | disabled orgId organizations subscriptions =>
    exact .disabled orgId (congrArg Table.rows organizations)

/-! ## One organization on the free plan -/

def oneOrgText : String := "00000000-0000-0000-0000-000000000001"

/-- The library functions on the texts of this organization's documents. -/
def oneOrgHost : Runtime where
  containerText _ := "{}"
  uuidOfText text := if text = oneOrgText then some 1 else none
  intOfText _ := none
  fromisoformat _ := none
  hmacSha512Hex _ _ := "a1b2"

def oneOrgSettings : BillingSettings := ⟨"sk_live", {}⟩

def oneOrg : World where
  database :=
    { organizations := ⟨[⟨1, .free⟩], by decide⟩
      subscriptions := .empty
      users := .empty
      ledger := .empty [] .empty .empty }
  redis := []

/-- Paystack's report of a successful transaction. -/
def paidReply (plan : String) (amount : Int) : PaystackReply :=
  .json (.obj [("status", .bool true), ("data", .obj [("status", .str "success"),
    ("amount", .int amount), ("customer", .obj [("customer_code", .str "CUS_1")]),
    ("metadata", .obj [("org_id", .str oneOrgText), ("plan", .str plan)])])])

end Reliastra.Source.Billing
