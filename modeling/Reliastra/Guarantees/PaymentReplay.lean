import Reliastra.Source.Billing.Effects

/-!
# Replayed payments

Nothing records which references were processed: verifying one again writes its
plan and its subscription values again. That changes nothing as long as the
organization still holds them (`AlreadyApplied`), which it does right after the
payment, and undoes whatever happened since otherwise.
-/

namespace Reliastra.Guarantees.PaymentReplay

open Reliastra.Library Source Source.Billing

/-- The subscription has the values; a value of `None` asks for nothing. -/
structure Holds (s : Subscription) (values : SubscriptionValues) : Prop where
  plan : s.plan = values.plan
  status : s.status = values.status
  customerId : ∀ code, columnOf 200 values.providerCustomerId = some code →
    s.providerCustomerId = some code
  subscriptionId : ∀ code, columnOf 200 values.providerSubscriptionId = some code →
    s.providerSubscriptionId = some code
  periodStart : ∀ start, values.currentPeriodStart = some start → s.currentPeriodStart = some start
  periodEnd : ∀ finish, values.currentPeriodEnd = some finish → s.currentPeriodEnd = some finish

/-- The organization's plan and subscription are what the payment writes. -/
structure AlreadyApplied (host : Runtime) (db : Database) (reference : String) (orgId : Uuid)
    (data : Json) : Prop where
  plan : ∀ org ∈ db.organizations.rows, org.id = orgId → org.plan = normalizedPlan host data
  subscription : ∃ s, db.subscriptions.get? orgId = some s ∧
    Holds s (paymentValues host data reference)

private theorem orElse_eq_old {α : Type} {new old : Option α}
    (same : new.orElse (fun _ => old) = old) (value : α) (given : new = some value) :
    old = some value := by
  rw [given] at same
  exact same.symm

private theorem orElse_of_held {α : Type} {new old : Option α}
    (held : ∀ value, new = some value → old = some value) : new.orElse (fun _ => old) = old := by
  cases new with
  | none => rfl
  | some value => exact (held value rfl).symm

private theorem orElse_given {α : Type} {new old : Option α} {value : α} (given : new = some value) :
    new.orElse (fun _ => old) = some value := by
  rw [given]
  rfl

theorem writtenRow_eq_self_iff (orgId : Uuid) (s : Subscription) (values : SubscriptionValues) :
    writtenRow orgId values (some s) = s ↔ Holds s values := by
  cases s with
  | mk organizationId provider customerId subscriptionId plan status periodStart periodEnd =>
    simp only [writtenRow, Subscription.update, Subscription.mk.injEq, true_and]
    constructor
    · rintro ⟨customer, subscription, plans, statuses, start, finish⟩
      exact ⟨plans.symm, statuses.symm, orElse_eq_old customer, orElse_eq_old subscription,
        orElse_eq_old start, orElse_eq_old finish⟩
    · rintro ⟨plans, statuses, customer, subscription, start, finish⟩
      exact ⟨orElse_of_held customer, orElse_of_held subscription, plans.symm, statuses.symm,
        orElse_of_held start, orElse_of_held finish⟩

theorem holds_writtenRow (orgId : Uuid) (s : Option Subscription) (values : SubscriptionValues) :
    Holds (writtenRow orgId values s) values := by
  cases s with
  | none => exact ⟨rfl, rfl, fun _ given => given, fun _ given => given, fun _ given => given,
      fun _ given => given⟩
  | some s => exact ⟨rfl, rfl, fun _ given => orElse_given given, fun _ given => orElse_given given,
      fun _ given => orElse_given given, fun _ given => orElse_given given⟩

/-- Plans and subscriptions are the same in both. -/
def KeepsPlans (before after : Database) : Prop :=
  after.organizations = before.organizations ∧ after.subscriptions = before.subscriptions

theorem keepsPlans_iff {host : Runtime} {db after : Database} {reference : String} {orgId : Uuid}
    {data : Json} (provisioned : Provisioned host db reference orgId data after) :
    KeepsPlans db after ↔ AlreadyApplied host db reference orgId data := by
  obtain ⟨rows, written, subscriptions, effect⟩ := provisioned
  constructor
  · intro ⟨sameOrganizations, sameSubscriptions⟩
    refine ⟨?_, ?_⟩
    · intro org member here
      rw [sameOrganizations] at rows
      have place : { org with plan := normalizedPlan host data } ∈ db.organizations.rows := by
        rw [rows]
        exact List.mem_map.mpr ⟨org, member, if_pos here⟩
      have same := Table.eq_of_key member place rfl
      rw [same]
    · have row := effect.row
      rw [← subscriptions, sameSubscriptions] at row
      cases found : db.subscriptions.get? orgId with
      | none =>
        rw [found] at row
        cases row
      | some s =>
        rw [found] at row
        exact ⟨s, rfl, (writtenRow_eq_self_iff orgId s _).mp (Option.some.inj row).symm⟩
  · intro ⟨plan, s, found, holds⟩
    refine ⟨?_, ?_⟩
    · apply Table.ext
      rw [rows]
      conv_rhs => rw [← List.map_id db.organizations.rows]
      refine List.map_congr_left (fun org member => ?_)
      split
      · next here => rw [← plan org member here, id]
      · rfl
    · rw [subscriptions]
      exact effect.same ⟨s, found, (writtenRow_eq_self_iff orgId s _).mpr holds⟩

/-- Right after a payment its values are there. -/
theorem alreadyApplied_of_provisioned {host : Runtime} {db after : Database} {reference : String}
    {orgId : Uuid} {data : Json} (provisioned : Provisioned host db reference orgId data after) :
    AlreadyApplied host after reference orgId data := by
  obtain ⟨rows, written, subscriptions, effect⟩ := provisioned
  refine ⟨?_, ?_⟩
  · rw [rows]
    refine List.forall_mem_map.mpr (fun org member here => ?_)
    split at here
    · next inside => rw [if_pos inside]
    · next outside => exact absurd here outside
  · exact ⟨_, by rw [subscriptions]; exact effect.row, holds_writtenRow orgId _ _⟩

/-! ## Histories -/

variable (host : Runtime) (settings : BillingSettings)

/-- The request processed the payment of this reference. -/
def Processes (w : World) (op : BillingOp) (reference : String) : Prop :=
  ∃ v orgId data, verificationOf host settings w op = some v ∧ v.reference = reference ∧
    Provisions host settings w.database v.reference v.reply v.now v.newId orgId data

/-- After the history `before`, the request verifies a reference that the
history had processed. -/
def Replays (w : World) (before : List BillingOp) (op : BillingOp) (v : Verification) : Prop :=
  verificationOf host settings (Run.exec (billingStep host settings) w before) op = some v ∧
    ∃ earlier first middle, before = earlier ++ first :: middle ∧
      Processes host settings (Run.exec (billingStep host settings) w earlier) first v.reference

/-- Verifying processed references again changes no plan and no subscription,
in a whole run of billing requests, exactly when each time the organization
still holds what the payment writes. -/
theorem payment_replay_iff (w : World) (run : List BillingOp) :
    (∀ before op rest v, run = before ++ op :: rest → Replays host settings w before op v →
      KeepsPlans (Run.exec (billingStep host settings) w before).database
        (Run.exec (billingStep host settings) w (before ++ [op])).database) ↔
      ∀ before op rest v, run = before ++ op :: rest → Replays host settings w before op v →
        ∀ orgId data, Provisions host settings
            (Run.exec (billingStep host settings) w before).database v.reference v.reply v.now
            v.newId orgId data →
          AlreadyApplied host (Run.exec (billingStep host settings) w before).database v.reference
            orgId data := by
  constructor
  · intro kept before op rest v split replays orgId data provisions
    have keeps := kept before op rest v split replays
    rw [Run.exec_concat, verification_database replays.1] at keeps
    exact (keepsPlans_iff (verify_provisions provisions)).mp keeps
  · intro applied before op rest v split replays
    rw [Run.exec_concat, verification_database replays.1]
    by_cases goes : ∃ orgId data, Provisions host settings
        (Run.exec (billingStep host settings) w before).database v.reference v.reply v.now v.newId
        orgId data
    · obtain ⟨orgId, data, provisions⟩ := goes
      exact (keepsPlans_iff (verify_provisions provisions)).mpr
        (applied before op rest v split replays orgId data provisions)
    · rw [verify_idle (fun orgId data provisions => goes ⟨orgId, data, provisions⟩)]
      exact ⟨rfl, rfl⟩

/-! ## Histories that a replay undoes -/

def verifyRequest (reference plan : String) (amount : Int) : BillingOp :=
  .verifyTransaction reference (paidReply plan amount) 0 100

def disableEvent : BillingOp :=
  .webhook
    { event := "subscription.disable"
      data := .obj [("customer", .obj [("customer_code", .str "CUS_1")])]
      signature := some "a1b2"
      rawBody := "\x7b\x7d"
      reply := .httpError
      claim := .delivered
      now := 0
      newId := 101 }

private theorem starter_processed :
    Processes oneOrgHost oneOrgSettings oneOrg (verifyRequest "ref-1" "starter" 1900) "ref-1" := by
  refine ⟨_, 1, _, rfl, rfl, by decide, rfl, ⟨⟨1, .free⟩, by decide, rfl⟩, ?_, by decide⟩
  exact ⟨⟨some "CUS_1", by decide⟩, ⟨some "ref-1", by decide⟩, by decide⟩

/-- Verifying `ref-1` again brings a disabled plan back, and takes an upgraded
organization down to the plan it had paid for first. -/
theorem payment_replayed :
    (Replays oneOrgHost oneOrgSettings oneOrg [verifyRequest "ref-1" "starter" 1900, disableEvent]
        (verifyRequest "ref-1" "starter" 1900) ⟨"ref-1", paidReply "starter" 1900, 0, 100⟩ ∧
      ¬ KeepsPlans
        (Run.exec (billingStep oneOrgHost oneOrgSettings) oneOrg
          [verifyRequest "ref-1" "starter" 1900, disableEvent]).database
        (Run.exec (billingStep oneOrgHost oneOrgSettings) oneOrg
          ([verifyRequest "ref-1" "starter" 1900, disableEvent] ++
            [verifyRequest "ref-1" "starter" 1900])).database) ∧
    (Replays oneOrgHost oneOrgSettings oneOrg
        [verifyRequest "ref-1" "starter" 1900, verifyRequest "ref-2" "professional" 9900]
        (verifyRequest "ref-1" "starter" 1900) ⟨"ref-1", paidReply "starter" 1900, 0, 100⟩ ∧
      ¬ KeepsPlans
        (Run.exec (billingStep oneOrgHost oneOrgSettings) oneOrg
          [verifyRequest "ref-1" "starter" 1900,
            verifyRequest "ref-2" "professional" 9900]).database
        (Run.exec (billingStep oneOrgHost oneOrgSettings) oneOrg
          ([verifyRequest "ref-1" "starter" 1900, verifyRequest "ref-2" "professional" 9900] ++
            [verifyRequest "ref-1" "starter" 1900])).database) := by
  refine ⟨⟨⟨rfl, [], _, _, rfl, starter_processed⟩, fun keeps => ?_⟩,
    ⟨⟨rfl, [], _, _, rfl, starter_processed⟩, fun keeps => ?_⟩⟩
  · exact absurd (congrArg Table.rows keeps.1) (by decide)
  · exact absurd (congrArg Table.rows keeps.1) (by decide +kernel)

end Reliastra.Guarantees.PaymentReplay
