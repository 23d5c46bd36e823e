import Reliastra.Source.Billing.Effects

/-!
# Deliveries of webhook events

`handle_webhook` claims an event in Redis, processes it, and only then does
`get_db` commit. Paystack delivers an event again until it gets a 2xx answer,
so deliveries of one event follow each other while other requests write to the
database.

`Completes` is what the processing of an event asks of its data, of Paystack's
answer and of the database. The logs of committed events and of 2xx answers are
ghosts: no step reads them.
-/

namespace Reliastra.Source.Billing

open Reliastra.Library

/-! ## Events whose processing completes -/

/-- A handler's result that `get_db` commits. -/
def Commits {α : Type} (result : Except Failure (α × Work)) : Prop :=
  ∃ answer work, result = .ok (answer, work) ∧ work.active = true

/-- The verification of a `charge.success` event raises nothing and leaves its
session usable. -/
def PaymentCompletes (host : Runtime) (settings : BillingSettings) (reply : PaystackReply)
    (reference : String) (now : Instant) (newId : Uuid) (db : Database) : Prop :=
  ∃ members, reply = .json (.obj members) ∧
    ∀ data, successData (.obj members) = some data →
      ((data.get "metadata").asDict.get "org_id").truthy →
      ∃ orgId, host.uuidOfText (((data.get "metadata").asDict.get "org_id").text host) = some orgId ∧
        (∃ org ∈ db.organizations.rows, org.id = orgId) ∧
        (paymentValues host data reference).Fits ∧
        ∀ payment ∈ collectedPayment host orgId data reference,
          Partners.CommissionFits settings.partner payment now newId db.ledger

/-- The columns take a `subscription.create` event of a known organization. -/
def SubscriptionFits (host : Runtime) (data : Json) (db : Database) : Prop :=
  ∀ orgId, ((data.get "metadata").asDict.get "org_id").truthy →
    host.uuidOfText (((data.get "metadata").asDict.get "org_id").text host) = some orgId →
    (∃ org ∈ db.organizations.rows, org.id = orgId) → (eventValues host data).Fits

/-- The organization has a Paystack subscription under this customer code. -/
def Database.IsCustomer (db : Database) (code : String) (org : Organization) : Prop :=
  ∃ s ∈ db.subscriptions.rows, s.organizationId = org.id ∧ s.providerCustomerId = some code ∧
    s.provider = "paystack"

/-- The customer of the event is at most one organization. -/
def OneCustomer (host : Runtime) (data : Json) (db : Database) : Prop :=
  ∀ code, customerCode host data = some code →
    ∀ a ∈ db.organizations.rows, ∀ b ∈ db.organizations.rows,
      db.IsCustomer code a → db.IsCustomer code b → a = b

structure Completes (host : Runtime) (settings : BillingSettings) (call : WebhookCall)
    (db : Database) : Prop where
  payment : call.event = "charge.success" → (call.data.asDict.get "reference").truthy →
    PaymentCompletes host settings call.reply ((call.data.asDict.get "reference").text host)
      call.now call.newId db
  subscription : call.event = "subscription.create" → SubscriptionFits host call.data.asDict db
  customer : call.event ∈ ["subscription.disable", "subscription.not_renew"] →
    OneCustomer host call.data.asDict db

theorem recordPartnerCommission_none {host : Runtime} {settings : BillingSettings} {orgId : Uuid}
    {data : Json} {reference : String}
    (nothing : collectedPayment host orgId data reference = none) (now : Instant) (newId : Uuid)
    (ledger : Partners.Ledger) :
    recordPartnerCommission host settings orgId data reference now newId ledger = (ledger, true) := by
  apply recordPartnerCommission_idle
  intro ⟨payment, passed, _⟩
  rw [nothing] at passed
  cases passed

theorem recordPartnerCommission_some {host : Runtime} {settings : BillingSettings} {orgId : Uuid}
    {data : Json} {reference : String} {payment : Partners.Payment}
    (passed : collectedPayment host orgId data reference = some payment) (now : Instant)
    (newId : Uuid) (ledger : Partners.Ledger) :
    (recordPartnerCommission host settings orgId data reference now newId ledger).2 = true ↔
      ∃ after, Partners.recordPayment settings.partner payment now newId ledger = .ok after := by
  unfold collectedPayment at passed
  dsimp only at passed
  split at passed
  · cases passed
  next given =>
  split at passed
  · cases passed
  next collectedMinor parsed =>
  cases passed
  simp only [recordPartnerCommission, if_neg given, parsed]
  split
  · next after success =>
    rw [success]
    simp
  · next cause refused =>
    rw [refused]
    simp
  · next failure refused other =>
    obtain ⟨cause, same⟩ := Partners.recordPayment_error other
    exact absurd same (refused cause)

theorem recorded_iff {host : Runtime} {settings : BillingSettings} {orgId : Uuid} {data : Json}
    {reference : String} {now : Instant} {newId : Uuid} {ledger : Partners.Ledger} :
    (recordPartnerCommission host settings orgId data reference now newId ledger).2 = true ↔
      ∀ payment ∈ collectedPayment host orgId data reference,
        Partners.CommissionFits settings.partner payment now newId ledger := by
  cases passed : collectedPayment host orgId data reference with
  | none =>
    rw [recordPartnerCommission_none passed]
    simp
  | some payment =>
    rw [recordPartnerCommission_some passed, Partners.recordPayment_isOk_iff]
    simp

theorem provision_commits_iff {host : Runtime} {settings : BillingSettings} {reference : String}
    (now : Instant) (newId : Uuid) {orgId : Uuid} {data : Json} {db : Database} :
    Commits (provision host settings reference now newId orgId data db) ↔
      (∃ org ∈ db.organizations.rows, org.id = orgId) ∧ (paymentValues host data reference).Fits ∧
        ∀ payment ∈ collectedPayment host orgId data reference,
          Partners.CommissionFits settings.partner payment now newId db.ledger := by
  unfold provision Commits
  constructor
  · intro ⟨answer, work, success, active⟩
    split at success
    · cases success
    next org found =>
    obtain ⟨member, here⟩ := (Table.get?_eq_some_iff _ _ _).mp found
    split at success
    · cases success
    next written wrote =>
    have fits := fits_of_writeSubscription wrote
    obtain ⟨written', wrote', effect⟩ := writeSubscription_ok db orgId _ fits
    obtain rfl : written' = written := Except.ok.inj (wrote'.symm.trans wrote)
    refine ⟨⟨org, member, here⟩, fits, ?_⟩
    cases success
    rw [← effect.ledger]
    exact recorded_iff.mp active
  · intro ⟨⟨org, member, here⟩, fits, commission⟩
    obtain ⟨written, wrote, effect⟩ := writeSubscription_ok db orgId _ fits
    have found : db.organizations.get? orgId = some org :=
      (Table.get?_eq_some_iff _ _ _).mpr ⟨member, here⟩
    rw [← effect.ledger] at commission
    rw [found]
    dsimp only
    rw [wrote]
    exact ⟨_, _, rfl, recorded_iff.mpr commission⟩

theorem verify_commits_iff {host : Runtime} {settings : BillingSettings} {reply : PaystackReply}
    {reference : String} {now : Instant} {newId : Uuid} {db : Database}
    (configured : settings.paystackSecretKey ≠ "") :
    Commits (verifyTransaction host settings reply reference now newId db) ↔
      PaymentCompletes host settings reply reference now newId db := by
  have fails {failure : Failure} :
      ¬ Commits (.error failure : Except Failure (VerifyTransactionResponse × Work)) := by
    intro ⟨answer, work, success, _⟩
    cases success
  cases reply with
  | httpError =>
    simp only [verifyTransaction, if_neg configured, PaymentCompletes, iff_false_left fails,
      reduceCtorEq, false_and, exists_false, not_false_eq_true]
  | raises exceptionClass =>
    simp only [verifyTransaction, if_neg configured, PaymentCompletes, iff_false_left fails,
      reduceCtorEq, false_and, exists_false, not_false_eq_true]
  | json body =>
    cases body with
    | obj members =>
      simp only [verifyTransaction, if_neg configured, PaymentCompletes, PaystackReply.json.injEq,
        Json.obj.injEq, exists_eq_left']
      cases reported : successData (.obj members) with
      | none =>
        simp only [reduceCtorEq, false_imp_iff, implies_true, iff_true]
        exact ⟨_, _, rfl, rfl⟩
      | some data =>
        simp only [Option.some.injEq, forall_eq']
        split
        · next missing =>
          exact iff_of_true ⟨_, _, rfl, rfl⟩ (fun given => absurd given missing)
        next given =>
        rw [not_not] at given
        cases parsed : host.uuidOfText (((data.get "metadata").asDict.get "org_id").text host) with
        | none =>
          simp only [given, true_imp_iff, reduceCtorEq, false_and, exists_false, iff_false]
          exact fails
        | some orgId =>
          simp only [given, true_imp_iff, Option.some.injEq, exists_eq_left']
          exact provision_commits_iff now newId
    | _ =>
      simp only [verifyTransaction, if_neg configured, PaymentCompletes, iff_false_left fails,
        reduceCtorEq, PaystackReply.json.injEq, false_and, exists_false, not_false_eq_true]

theorem upsert_isOk_iff {host : Runtime} {data : Json} {db : Database} :
    (∃ after, upsertWebhookSubscription host data db = .ok after) ↔ SubscriptionFits host data db := by
  constructor
  · intro ⟨after, success⟩ orgId given parsed ⟨org, member, here⟩
    have found : db.organizations.get? orgId = some org :=
      (Table.get?_eq_some_iff _ _ _).mpr ⟨member, here⟩
    simp only [upsertWebhookSubscription, given, not_true_eq_false, if_false, parsed, found] at success
    cases wrote : db.writeSubscription orgId (eventValues host data) with
    | ok written => exact fits_of_writeSubscription wrote
    | error failure =>
      rw [wrote] at success
      cases success
  · intro fits
    by_cases upserts : ∃ orgId, Upserts host db data orgId
    · obtain ⟨orgId, upserts⟩ := upserts
      obtain ⟨after, success, _⟩ := upsert_ok upserts
      exact ⟨after, success⟩
    · refine ⟨db, ?_⟩
      unfold upsertWebhookSubscription
      dsimp only
      split
      · rfl
      next given =>
      split
      · rfl
      next orgId parsed =>
      split
      · rfl
      next org found =>
      have known := (Table.get?_eq_some_iff _ _ _).mp found
      exact absurd ⟨orgId, not_not.mp given, parsed, ⟨org, known⟩,
        fits orgId (not_not.mp given) parsed ⟨org, known⟩⟩ upserts

/-- The organizations the query selects. -/
theorem orgByProviderCustomer_eq_ok_iff {db : Database} {code : String}
    {found : Option Organization} :
    db.orgByProviderCustomer code = .ok found ↔
      ∀ org, (org ∈ db.organizations.rows ∧ db.IsCustomer code org) ↔ found = some org := by
  have selected (org : Organization) : (org ∈ db.organizations.rows ∧ db.IsCustomer code org) ↔
      org ∈ db.organizations.rows.filter (fun org =>
        db.subscriptions.rows.any (fun s => s.organizationId = org.id ∧
          s.providerCustomerId = some code ∧ s.provider = "paystack")) := by
    simp only [List.mem_filter, List.any_eq_true, decide_eq_true_eq, Database.IsCustomer]
  have distinct := (List.Nodup.of_map _ db.organizations.unique).filter (fun org : Organization =>
    db.subscriptions.rows.any (fun s => s.organizationId = org.id ∧
      s.providerCustomerId = some code ∧ s.provider = "paystack"))
  simp only [selected]
  unfold Database.orgByProviderCustomer
  generalize db.organizations.rows.filter _ = customers at distinct ⊢
  match customers with
  | [] =>
    simp only [Except.ok.injEq, List.not_mem_nil, false_iff]
    cases found <;> simp
  | [org] =>
    simp only [Except.ok.injEq, List.mem_singleton]
    constructor
    · rintro rfl other
      simp only [Option.some.injEq]
      exact eq_comm
    · exact fun same => ((same org).mp rfl).symm
  | first :: second :: rest =>
    refine iff_of_false (fun success => by cases success) (fun same => ?_)
    have here := (same first).mp List.mem_cons_self
    have there := (same second).mp (List.mem_cons_of_mem _ List.mem_cons_self)
    obtain rfl := Option.some.inj (here.symm.trans there)
    exact (List.nodup_cons.mp distinct).1 List.mem_cons_self

theorem orgByProviderCustomer_isOk_iff {db : Database} {code : String} :
    (∃ org, db.orgByProviderCustomer code = .ok org) ↔
      ∀ a ∈ db.organizations.rows, ∀ b ∈ db.organizations.rows,
        db.IsCustomer code a → db.IsCustomer code b → a = b := by
  simp only [orgByProviderCustomer_eq_ok_iff]
  constructor
  · intro ⟨found, same⟩ a here b there customer other
    have first := (same a).mp ⟨here, customer⟩
    have second := (same b).mp ⟨there, other⟩
    exact Option.some.inj (first.symm.trans second)
  · intro one
    by_cases customer : ∃ org, org ∈ db.organizations.rows ∧ db.IsCustomer code org
    · obtain ⟨org, here, pays⟩ := customer
      refine ⟨some org, fun other => ⟨?_, ?_⟩⟩
      · intro ⟨there, theirs⟩
        exact congrArg some (one org here other there pays theirs)
      · intro same
        cases same
        exact ⟨here, pays⟩
    · refine ⟨none, fun org => ⟨fun pays => absurd ⟨org, pays⟩ customer, ?_⟩⟩
      intro same
      cases same

theorem disable_isOk_iff {host : Runtime} {data : Json} {db : Database} :
    (∃ after, disableWebhookSubscription host data db = .ok after) ↔ OneCustomer host data db := by
  unfold disableWebhookSubscription OneCustomer
  cases named : customerCode host data with
  | none => exact iff_of_true ⟨db, rfl⟩ (fun code named => by cases named)
  | some code =>
    simp only [Option.some.injEq, forall_eq', ← orgByProviderCustomer_isOk_iff]
    cases db.orgByProviderCustomer code with
    | error failure => simp
    | ok org => cases org <;> simp

theorem reversal_active (host : Runtime) (data : Json) (db : Database) {reason : String}
    (fits : FitsText 100 reason) :
    (reversePartnerCommissions host data reason db).active = true := by
  unfold reversePartnerCommissions
  dsimp only
  split
  · rfl
  split
  · rfl
  · next cause refused =>
    unfold Partners.reverseByReference at refused
    dsimp only at refused
    split at refused
    · cases refused
    split at refused
    · next misfit => exact absurd fits misfit.2
    · cases refused
  · rfl

theorem commits_map_iff {result : Except Failure Database} :
    Commits ((result.map (fun db => (⟨db, true⟩ : Work))).map (fun work => ((), work))) ↔
      ∃ db, result = .ok db := by
  cases result with
  | error failure =>
    refine iff_of_false ?_ ?_
    · intro ⟨answer, work, success, _⟩
      cases success
    · intro ⟨db, success⟩
      cases success
  | ok db => exact iff_of_true ⟨(), ⟨db, true⟩, rfl, rfl⟩ ⟨db, rfl⟩

theorem dispatch_commits_iff {host : Runtime} {settings : BillingSettings} {call : WebhookCall}
    {db : Database} (configured : settings.paystackSecretKey ≠ "") :
    Commits ((dispatchEvent host settings call db).map (fun work => ((), work))) ↔
      Completes host settings call db := by
  unfold dispatchEvent
  dsimp only
  split
  · next verifies =>
    obtain ⟨event, given⟩ := verifies
    have fields : Completes host settings call db ↔ PaymentCompletes host settings call.reply
        ((call.data.asDict.get "reference").text host) call.now call.newId db := by
      constructor
      · exact fun completes => completes.payment event given
      · intro completes
        refine ⟨fun _ _ => completes, ?_, ?_⟩ <;> simp [event]
    rw [fields, ← verify_commits_iff configured]
    unfold Commits
    cases verifyTransaction host settings call.reply
      ((call.data.asDict.get "reference").text host) call.now call.newId db with
    | error failure => simp [Except.map]
    | ok answer =>
      obtain ⟨response, work⟩ := answer
      simp [Except.map]
  next unverified =>
  have payment : call.event = "charge.success" → (call.data.asDict.get "reference").truthy →
      PaymentCompletes host settings call.reply
        ((call.data.asDict.get "reference").text host) call.now call.newId db :=
    fun event given => absurd ⟨event, given⟩ unverified
  split
  · next event =>
    rw [commits_map_iff, upsert_isOk_iff]
    constructor
    · intro fits
      refine ⟨payment, fun _ => fits, ?_⟩
      simp [event]
    · exact fun completes => completes.subscription event
  next notCreated =>
  split
  · next event =>
    have shape (result : Except Failure Database) :
        result.map (fun db => (⟨handlePartnerChurn host call.data.asDict db, true⟩ : Work)) =
          (result.map (handlePartnerChurn host call.data.asDict)).map
            (fun db => (⟨db, true⟩ : Work)) := by
      cases result <;> rfl
    rw [shape, commits_map_iff]
    constructor
    · intro ⟨after, success⟩
      refine ⟨payment, fun created => absurd created notCreated, fun _ => ?_⟩
      apply disable_isOk_iff.mp
      cases done : disableWebhookSubscription host call.data.asDict db with
      | error failure =>
        rw [done] at success
        cases success
      | ok disabled => exact ⟨disabled, rfl⟩
    · intro completes
      obtain ⟨disabled, done⟩ := disable_isOk_iff.mpr (completes.customer event)
      rw [done]
      exact ⟨_, rfl⟩
  next notDisabled =>
  have completes : Completes host settings call db :=
    ⟨payment, fun created => absurd created notCreated, fun disabled => absurd disabled notDisabled⟩
  have commits (work : Work) (active : work.active = true) :
      Commits ((Except.ok work : Except Failure Work).map (fun work => ((), work))) ↔
        Completes host settings call db :=
    iff_of_true ⟨(), work, rfl, active⟩ completes
  split
  · exact commits _ (reversal_active host _ db (by decide))
  split
  · exact commits _ (reversal_active host _ db (by decide))
  · exact commits _ rfl

/-! ## Deliveries -/

/-- What identifies an event: the identifier `_webhook_event_id` finds, else
only its content. -/
inductive EventKey where
  | identified (eventId : String)
  | content (event : String) (data : Json)

def WebhookCall.key (host : Runtime) (call : WebhookCall) : EventKey :=
  match webhookEventId host call.event call.data.asDict with
  | some eventId => .identified eventId
  | none => .content call.event call.data

/-- A database error or a crash during the processing, or a failing commit:
nothing is committed. Paystack may get its 2xx answer all the same, as where the
commit comes after the response. -/
structure Rollback where
  answered : Bool

structure Deliveries where
  world : World
  /-- The events whose effects were committed, newest first. -/
  applied : List (EventKey × Instant)
  /-- The deliveries that got a 2xx answer. -/
  acknowledged : List (EventKey × Instant)

/-- Every claim's time to live. -/
def claimTtl : Int := secondsToMicros (24 * 3600)

theorem lt_add_claimTtl (now : Instant) : now < now + claimTtl :=
  lt_add_of_pos_right now (by decide : 0 < claimTtl)

/-- The event's effects were committed within the time to live of its claim. -/
def Deliveries.Recent (s : Deliveries) (key : EventKey) (now : Instant) : Prop :=
  ∃ applied, (key, applied) ∈ s.applied ∧ now < applied + claimTtl

inductive DeliveryStep where
  | delivery (call : WebhookCall) (rollback : Option Rollback)
  /-- Other requests leave this database. -/
  | elsewhere (database : Database)

def deliver (host : Runtime) (settings : BillingSettings) (s : Deliveries) :
    DeliveryStep → Deliveries
  | .elsewhere database => { s with world := { s.world with database := database } }
  | .delivery call rollback =>
    let entry := (call.key host, call.now)
    let (redis, result) := handleWebhook host settings call s.world.database s.world.redis
    match result, rollback with
    | .error _, _ => { s with world := ⟨s.world.database, redis⟩ }
    | .ok _, some rollback =>
      { s with
        world := ⟨s.world.database, redis⟩
        acknowledged := if rollback.answered then entry :: s.acknowledged else s.acknowledged }
    | .ok (_, work), none =>
      { world := ⟨if work.active then work.database else s.world.database, redis⟩
        applied :=
          if admitted host settings call s.world.redis ∧ work.active then entry :: s.applied
          else s.applied
        acknowledged := entry :: s.acknowledged }

/-- An undisturbed delivery is the request of the billing service. -/
theorem deliver_world (host : Runtime) (settings : BillingSettings) (s : Deliveries)
    (call : WebhookCall) :
    (deliver host settings s (.delivery call none)).world =
      billingStep host settings s.world (.webhook call) := by
  simp only [deliver, billingStep]
  cases (handleWebhook host settings call s.world.database s.world.redis).2 <;> rfl

/-! ## What a delivery does -/

/-- The event's claim is in Redis. -/
def Claimed (redis : Redis String) (eventId : String) (now : Instant) : Prop :=
  (redis.live ("paystack:event:" ++ eventId) now).isSome

instance (redis : Redis String) (eventId : String) (now : Instant) :
    Decidable (Claimed redis eventId now) :=
  inferInstanceAs (Decidable ((redis.live ("paystack:event:" ++ eventId) now).isSome = true))

/-- Redis after the event was claimed at `now`. -/
def claimAt (redis : Redis String) (eventId : String) (now : Instant) : Redis String :=
  redis.set ("paystack:event:" ++ eventId) "1" (24 * 3600) now

theorem claimed_claimAt (redis : Redis String) (eventId other : String) (now later : Instant) :
    Claimed (claimAt redis eventId now) other later ↔
      other = eventId ∧ later < now + claimTtl ∨ other ≠ eventId ∧ Claimed redis other later := by
  simp only [Claimed, claimAt, Redis.live_isSome_iff, Redis.mem_set]
  constructor
  · rintro ⟨entry, rfl | ⟨old, different⟩, key, alive⟩
    · exact Or.inl ⟨((String.append_right_inj _).mp key).symm, alive⟩
    · refine Or.inr ⟨fun same => different ?_, entry, old, key, alive⟩
      rw [key, same]
  · rintro (⟨rfl, alive⟩ | ⟨different, entry, old, key, alive⟩)
    · exact ⟨_, Or.inl rfl, rfl, alive⟩
    · refine ⟨entry, Or.inr ⟨old, fun same => different ?_⟩, key, alive⟩
      exact (String.append_right_inj _).mp (key.symm.trans same)

theorem claim_claimed {redis : Redis String} {eventId : String} {now : Instant}
    (claimed : Claimed redis eventId now) (claim : CallOutcome) :
    claimWebhookEvent eventId claim now redis = (redis, false) := by
  have alive : (redis.live ("paystack:event:" ++ eventId) now).isSome = true := claimed
  cases claim <;> simp only [claimWebhookEvent, Redis.safeSetNx, alive, if_true]

theorem claim_free {redis : Redis String} {eventId : String} {now : Instant}
    (free : ¬ Claimed redis eventId now) (claim : CallOutcome) :
    claimWebhookEvent eventId claim now redis =
      (if claim = .requestLost then redis else claimAt redis eventId now,
        decide (claim = .delivered)) := by
  have alive : ¬ (redis.live ("paystack:event:" ++ eventId) now).isSome = true := free
  cases claim with
  | requestLost => rfl
  | delivered => simp [claimWebhookEvent, Redis.safeSetNx, alive, claimAt]
  | answerLost => simp [claimWebhookEvent, Redis.safeSetNx, alive, claimAt]

section Delivery
variable {host : Runtime} {settings : BillingSettings} {call : WebhookCall}

theorem deliver_refused {failure : Failure}
    (refused : checkSignature host settings call = .error failure) (s : Deliveries)
    (rollback : Option Rollback) : deliver host settings s (.delivery call rollback) = s := by
  simp only [deliver, handleWebhook, refused]

theorem configured_of_signed (signed : checkSignature host settings call = .ok ()) :
    settings.paystackSecretKey ≠ "" := by
  intro missing
  unfold checkSignature at signed
  split at signed
  · cases signed
  split at signed
  · cases signed
  · cases signed

/-- The delivery was answered, as far as `rollback` has a say. -/
def Answered (rollback : Option Rollback) : Prop := ∀ lost ∈ rollback, lost.answered = true

instance (rollback : Option Rollback) : Decidable (Answered rollback) :=
  inferInstanceAs (Decidable (∀ lost ∈ rollback, lost.answered = true))

/-- An event somebody claimed is acknowledged and otherwise left alone. -/
theorem deliver_skipped {eventId : String} {s : Deliveries}
    (signed : checkSignature host settings call = .ok ())
    (event : webhookEventId host call.event call.data.asDict = some eventId)
    (taken : (claimWebhookEvent eventId call.claim call.now s.world.redis).2 = false)
    (rollback : Option Rollback) :
    deliver host settings s (.delivery call rollback) =
      { world := ⟨s.world.database, (claimWebhookEvent eventId call.claim call.now s.world.redis).1⟩
        applied := s.applied
        acknowledged := if Answered rollback then (.identified eventId, call.now) :: s.acknowledged
          else s.acknowledged } := by
  cases rollback with
  | none => simp [deliver, handleWebhook, signed, event, taken, admitted, Answered, WebhookCall.key]
  | some lost =>
    simp [deliver, handleWebhook, signed, event, taken, Answered, WebhookCall.key]

/-- The delivery goes on to the processing. -/
def redisAfter (host : Runtime) (call : WebhookCall) (redis : Redis String) : Redis String :=
  match webhookEventId host call.event call.data.asDict with
  | none => redis
  | some eventId => (claimWebhookEvent eventId call.claim call.now redis).1

theorem handleWebhook_admitted {redis : Redis String}
    (processed : admitted host settings call redis = true) (db : Database) :
    handleWebhook host settings call db redis = (redisAfter host call redis,
      (dispatchEvent host settings call db).map (fun work => (⟨true, call.event⟩, work))) := by
  cases signed : checkSignature host settings call with
  | error failure => simp [admitted, signed] at processed
  | ok done =>
    cases event : webhookEventId host call.event call.data.asDict with
    | none => simp [handleWebhook, redisAfter, signed, event]
    | some eventId =>
      simp only [admitted, signed, event] at processed
      simp [handleWebhook, redisAfter, signed, event, processed]

theorem deliver_committed {s : Deliveries} (signed : checkSignature host settings call = .ok ())
    (processed : admitted host settings call s.world.redis = true)
    (completes : Completes host settings call s.world.database) :
    ∃ database, deliver host settings s (.delivery call none) =
      { world := ⟨database, redisAfter host call s.world.redis⟩
        applied := (call.key host, call.now) :: s.applied
        acknowledged := (call.key host, call.now) :: s.acknowledged } := by
  obtain ⟨answer, work, committed, active⟩ :=
    (dispatch_commits_iff (configured_of_signed signed)).mpr completes
  cases done : dispatchEvent host settings call s.world.database with
  | error failure =>
    rw [done] at committed
    cases committed
  | ok left =>
    rw [done] at committed
    cases committed
    refine ⟨work.database, ?_⟩
    simp only [deliver, handleWebhook_admitted processed, done, Except.map, processed, active,
      and_self, if_true]

/-- A processing that is not committed leaves its claim behind. -/
theorem deliver_lost {s : Deliveries} (signed : checkSignature host settings call = .ok ())
    (processed : admitted host settings call s.world.redis = true) (rollback : Option Rollback)
    (lost : ¬ (Completes host settings call s.world.database ∧ rollback = none)) :
    (deliver host settings s (.delivery call rollback)).applied = s.applied ∧
      (deliver host settings s (.delivery call rollback)).world =
        ⟨s.world.database, redisAfter host call s.world.redis⟩ := by
  simp only [deliver, handleWebhook_admitted processed]
  cases done : dispatchEvent host settings call s.world.database with
  | error failure => exact ⟨rfl, rfl⟩
  | ok work =>
    cases rollback with
    | some rollback => exact ⟨rfl, rfl⟩
    | none =>
      have inactive : ¬ work.active = true := by
        intro active
        refine lost ⟨(dispatch_commits_iff (configured_of_signed signed)).mp ?_, rfl⟩
        rw [done]
        exact ⟨(), work, rfl, active⟩
      simp only [Except.map, inactive, Bool.false_eq_true, and_false, if_false, and_self]

theorem orElse_truthy (first second : Json) :
    (first.orElse second).truthy = (first.truthy || second.truthy) := by
  unfold Json.orElse
  cases given : first.truthy with
  | true => simp [given]
  | false => simp

/-- An event without an identifier verifies no payment. -/
theorem not_verifies_of_unidentified
    (event : webhookEventId host call.event call.data.asDict = none) :
    ¬ (call.event = "charge.success" ∧ (call.data.asDict.get "reference").truthy) := by
  intro ⟨name, given⟩
  unfold webhookEventId at event
  dsimp only at event
  rw [if_neg] at event
  · cases event
  · rw [orElse_truthy, orElse_truthy, given, name]
    simp

/-- Only the commission of a payment leaves a session behind that cannot commit. -/
theorem dispatch_active {db : Database} {work : Work}
    (unverified : ¬ (call.event = "charge.success" ∧ (call.data.asDict.get "reference").truthy))
    (done : dispatchEvent host settings call db = .ok work) : work.active = true := by
  unfold dispatchEvent at done
  dsimp only at done
  rw [if_neg unverified] at done
  split at done
  · cases upserted : upsertWebhookSubscription host call.data.asDict db with
    | error failure =>
      rw [upserted] at done
      cases done
    | ok after =>
      rw [upserted] at done
      cases done
      rfl
  split at done
  · cases disabled : disableWebhookSubscription host call.data.asDict db with
    | error failure =>
      rw [disabled] at done
      cases done
    | ok after =>
      rw [disabled] at done
      cases done
      rfl
  split at done
  · cases done
    exact reversal_active host _ db (by decide)
  split at done
  · cases done
    exact reversal_active host _ db (by decide)
  · cases done
    rfl

/-- An event without an identifier whose processing raises leaves no trace. -/
theorem deliver_raised {s : Deliveries} (signed : checkSignature host settings call = .ok ())
    (event : webhookEventId host call.event call.data.asDict = none)
    (raises : ¬ Completes host settings call s.world.database) (rollback : Option Rollback) :
    deliver host settings s (.delivery call rollback) = s := by
  have processed : admitted host settings call s.world.redis = true := by
    simp only [admitted, signed, event]
  simp only [deliver, handleWebhook_admitted processed, redisAfter, event]
  cases done : dispatchEvent host settings call s.world.database with
  | error failure => rfl
  | ok work =>
    refine absurd ((dispatch_commits_iff (configured_of_signed signed)).mp ?_) raises
    rw [done]
    exact ⟨(), work, rfl, dispatch_active (not_verifies_of_unidentified event) done⟩

/-- One whose transaction is rolled back leaves at most its answer. -/
theorem deliver_rolledBack {s : Deliveries} (signed : checkSignature host settings call = .ok ())
    (event : webhookEventId host call.event call.data.asDict = none)
    (completes : Completes host settings call s.world.database) (rollback : Rollback) :
    deliver host settings s (.delivery call (some rollback)) =
      { s with acknowledged :=
          if rollback.answered then (call.key host, call.now) :: s.acknowledged
          else s.acknowledged } := by
  have processed : admitted host settings call s.world.redis = true := by
    simp only [admitted, signed, event]
  obtain ⟨answer, work, committed, active⟩ :=
    (dispatch_commits_iff (configured_of_signed signed)).mpr completes
  simp only [deliver, handleWebhook_admitted processed, redisAfter, event]
  cases done : dispatchEvent host settings call s.world.database with
  | error failure =>
    rw [done] at committed
    cases committed
  | ok work => rfl

end Delivery

end Reliastra.Source.Billing

/-!
## The webhook endpoint

Source: `paystack_webhook` in `app/modules/billing/router.py` and
`PaystackWebhookPayload`. The endpoint reads the payload off the body whose
signature is checked, so deliveries with one body are one event. The log of the
deliveries that were let through is a ghost: no step reads it.
-/

namespace Reliastra.Source.Billing

open Reliastra.Library

/-- `PaystackWebhookPayload.model_validate`. -/
def webhookPayload : Json → Option (String × Json)
  | .obj members =>
    match members.lookup "event", members.lookup "data" with
    | some (.str event), some (.obj data) => some (event, .obj data)
    | _, _ => none
  | _ => none

/-- A request of the endpoint, with the database it finds and what happens to
the calls it makes. -/
structure PostedWebhook where
  rawBody : String
  signature : String
  database : Database
  reply : PaystackReply
  claim : CallOutcome
  now : Instant
  newId : Uuid

/-- `loads` is `json.loads`, `none` where it raises. -/
def PostedWebhook.call (loads : String → Option Json) (post : PostedWebhook) : Option WebhookCall :=
  ((loads post.rawBody).bind webhookPayload).map (fun (event, data) =>
    { event := event
      data := data
      signature := some post.signature
      rawBody := post.rawBody
      reply := post.reply
      claim := post.claim
      now := post.now
      newId := post.newId })

/-- `paystack_webhook`. -/
def paystackWebhook (host : Runtime) (settings : BillingSettings) (loads : String → Option Json)
    (post : PostedWebhook) (redis : Redis String) :
    Redis String × Except Failure (PaystackWebhookResponse × Work) :=
  match post.call loads with
  | none => (redis, .error (.app (validationException "Invalid Paystack webhook body")))
  | some call => handleWebhook host settings call post.database redis

structure Intake where
  redis : Redis String
  /-- The deliveries that went on to the processing, newest first. -/
  accepted : List PostedWebhook

/-- The delivery passes the signature check and claims its event. -/
def Accepts (host : Runtime) (settings : BillingSettings) (loads : String → Option Json)
    (redis : Redis String) (post : PostedWebhook) : Prop :=
  ∃ call, post.call loads = some call ∧ admitted host settings call redis = true

instance (host : Runtime) (settings : BillingSettings) (loads : String → Option Json)
    (redis : Redis String) (post : PostedWebhook) :
    Decidable (Accepts host settings loads redis post) :=
  match called : post.call loads with
  | none => .isFalse (fun ⟨_, other, _⟩ => by rw [called] at other; cases other)
  | some call =>
    if passes : admitted host settings call redis = true then .isTrue ⟨call, called, passes⟩
    else .isFalse (fun ⟨_, other, passed⟩ => by
      rw [called] at other
      cases other
      exact passes passed)

def receive (host : Runtime) (settings : BillingSettings) (loads : String → Option Json)
    (s : Intake) (post : PostedWebhook) : Intake where
  redis := (paystackWebhook host settings loads post s.redis).1
  accepted := if Accepts host settings loads s.redis post then post :: s.accepted else s.accepted

/-! ## What a delivery leaves in Redis -/

/-- The identifier under which the event of the body is claimed. -/
def PostedWebhook.eventId (host : Runtime) (loads : String → Option Json) (post : PostedWebhook) :
    Option String :=
  (post.call loads).bind (fun call => webhookEventId host call.event call.data.asDict)

variable {host : Runtime} {settings : BillingSettings}

/-- The signature check passes the digest of a body. -/
theorem checkSignature_ok {call : WebhookCall} {signature : String}
    (given : call.signature = some signature) (signs : signature ≠ "") (body : call.rawBody ≠ "")
    (configured : settings.paystackSecretKey ≠ "")
    (ascii : signature.toList.any (fun c => 128 ≤ c.toNat) = false)
    (digest : host.hmacSha512Hex settings.paystackSecretKey call.rawBody = signature) :
    checkSignature host settings call = .ok () := by
  have header : call.signature.filter (· ≠ "") = some signature := by simp [given, signs]
  unfold checkSignature
  rw [header]
  dsimp only
  rw [if_neg body, if_neg configured, if_neg (by simp [ascii]), if_neg (not_not.mpr digest)]

theorem handleWebhook_redis {call : WebhookCall}
    (signed : checkSignature host settings call = .ok ()) (db : Database) (redis : Redis String) :
    (handleWebhook host settings call db redis).1 = redisAfter host call redis := by
  unfold handleWebhook redisAfter
  rw [signed]
  dsimp only
  cases webhookEventId host call.event call.data.asDict with
  | none => rfl
  | some eventId =>
    dsimp only
    split <;> rfl

theorem handleWebhook_refused {call : WebhookCall} {failure : Failure}
    (refused : checkSignature host settings call = .error failure) (db : Database)
    (redis : Redis String) : handleWebhook host settings call db redis = (redis, .error failure) := by
  simp only [handleWebhook, refused]

end Reliastra.Source.Billing
