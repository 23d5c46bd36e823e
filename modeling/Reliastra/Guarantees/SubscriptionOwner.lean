import Reliastra.Source.Billing.Disabling

/-!
# Which organization does a disabled subscription hit?

The event names a subscription and its customer, and the handler looks at the
customer alone. `hits_owner_iff` says which events find the subscription's
organization and no other.
-/

namespace Reliastra.Guarantees.SubscriptionOwner

open Reliastra.Library Source Source.Billing

/-- The organization's current subscription is the one the event names. -/
def Named (db : Database) (data : Json) (orgId : Uuid) : Prop :=
  ∃ code, data.get "subscription_code" = .str code ∧
    ∃ s ∈ db.subscriptions.rows, s.organizationId = orgId ∧ s.providerSubscriptionId = some code

/-- Nothing of the organization changed: plan, subscription and referral. -/
structure SameTenant (db after : Database) (orgId : Uuid) : Prop where
  organization : after.organizations.get? orgId = db.organizations.get? orgId
  subscription : after.subscriptions.get? orgId = db.subscriptions.get? orgId
  referral : after.ledger.referralOf orgId = db.ledger.referralOf orgId

/-- The event is handled without an error, the organization it names is on the
free plan afterwards, and the others are as they were. -/
def HitsOwner (data : Json) (db : Database) (result : Except Failure Work) : Prop :=
  ∃ work, result = .ok work ∧ work.active = true ∧
    (∀ org ∈ db.organizations.rows, Named db data org.id →
      work.database.organizations.get? org.id = some { org with plan := .free }) ∧
    ∀ org ∈ db.organizations.rows, ¬ Named db data org.id → SameTenant db work.database org.id

/-- A disabling event that gets to its processing hits its owner only. -/
def DisableHitsOwner (host : Runtime) (settings : BillingSettings) (w : World) : BillingOp → Prop
  | .webhook call => admitted host settings call w.redis = true →
    call.event ∈ ["subscription.disable", "subscription.not_renew"] →
    HitsOwner call.data.asDict w.database (dispatchEvent host settings call w.database)
  | _ => True

/-- The customer of the event is this organization. -/
def EventCustomer (host : Runtime) (data : Json) (db : Database) (org : Organization) : Prop :=
  ∃ code, customerCode host data = some code ∧ db.IsCustomer code org

/-- The customer code of the event leads to the organization its subscription
code names, to nobody else, and the organization shares its referral with no
other; where it does not, there is nothing left to change. -/
structure LeadsToOwner (host : Runtime) (data : Json) (db : Database) : Prop where
  one : OneCustomer host data db
  found : ∀ org ∈ db.organizations.rows, Named db data org.id →
    EventCustomer host data db org ∨ org.plan = .free
  others : ∀ org ∈ db.organizations.rows, EventCustomer host data db org → ¬ Named db data org.id →
    org.plan = .free ∧ ∀ s, db.subscriptions.get? org.id = some s → s.status = "inactive"
  referrals : ∀ org ∈ db.organizations.rows, EventCustomer host data db org →
    ∀ other ∈ db.organizations.rows, ¬ Named db data other.id → ∀ referral,
      db.ledger.referralOf org.id = some referral → db.ledger.referralOf other.id = some referral →
      referral.status = .churned

def LeadsOnlyToOwner (host : Runtime) (settings : BillingSettings) (w : World) : BillingOp → Prop
  | .webhook call => admitted host settings call w.redis = true →
    call.event ∈ ["subscription.disable", "subscription.not_renew"] →
    LeadsToOwner host call.data.asDict w.database
  | _ => True

/-! ## One event -/

variable {host : Runtime} {settings : BillingSettings} {data : Json} {db : Database}

theorem get?_of_mem {org : Organization} (member : org ∈ db.organizations.rows) :
    db.organizations.get? org.id = some org := (Table.get?_eq_some_iff _ _ _).mpr ⟨member, rfl⟩

/-- An event that finds nobody. -/
theorem hits_idle_iff (nobody : ∀ org ∈ db.organizations.rows, ¬ EventCustomer host data db org) :
    HitsOwner data db (.ok ⟨db, true⟩) ↔ LeadsToOwner host data db := by
  constructor
  · intro ⟨work, same, _, owners, _⟩
    cases same
    refine ⟨?_, ?_, ?_, ?_⟩
    · intro code named a here _ _ customer _
      exact absurd ⟨code, named, customer⟩ (nobody a here)
    · intro org member named
      have freed := (get?_of_mem member).symm.trans (owners org member named)
      exact .inr (congrArg Organization.plan (Option.some.inj freed))
    · exact fun org member customer => absurd customer (nobody org member)
    · exact fun org member customer => absurd customer (nobody org member)
  · intro leads
    refine ⟨⟨db, true⟩, rfl, rfl, ?_, fun _ _ _ => ⟨rfl, rfl, rfl⟩⟩
    intro org member named
    have free := (leads.found org member named).resolve_left (nobody org member)
    rw [get?_of_mem member, ← free]

theorem disabled_plan {org : Organization} (orgId : Uuid) (member : org ∈ db.organizations.rows) :
    (db.disabled orgId).organizations.get? org.id =
      some (if org.id = orgId then { org with plan := .free } else org) := by
  have plans := (db.get?_deactivated orgId org.id).1
  rw [get?_of_mem member] at plans
  exact plans

/-- What the hit organization and the others see of it. -/
theorem sameTenant_disabled_iff {other : Organization} (orgId : Uuid)
    (place : other ∈ db.organizations.rows) :
    SameTenant db (db.disabled orgId) other.id ↔
      (other.id = orgId → other.plan = .free ∧
        ∀ s, db.subscriptions.get? other.id = some s → s.status = "inactive") ∧
      ∀ referral, db.ledger.referralOf orgId = some referral →
        db.ledger.referralOf other.id = some referral → referral.status = .churned := by
  have plans := disabled_plan orgId place
  have subscriptions : (db.disabled orgId).subscriptions.get? other.id =
      (db.subscriptions.get? other.id).map (fun s =>
        if other.id = orgId then { s with status := "inactive" } else s) :=
    (db.get?_deactivated orgId other.id).2
  have referrals := Partners.referralOf_handleChurn_eq_iff db.ledger orgId other.id
  constructor
  · intro same
    refine ⟨fun here => ⟨?_, ?_⟩, referrals.mp same.referral⟩
    · have kept := plans.symm.trans (same.organization.trans (get?_of_mem place))
      rw [if_pos here] at kept
      exact (congrArg Organization.plan (Option.some.inj kept)).symm
    · intro s stored
      have kept := subscriptions.symm.trans same.subscription
      rw [stored, Option.map_some, if_pos here] at kept
      exact (congrArg Subscription.status (Option.some.inj kept)).symm
  · intro ⟨own, shared⟩
    refine ⟨?_, ?_, referrals.mpr shared⟩
    · rw [plans, get?_of_mem place]
      split
      · next here => rw [← (own here).1]
      · rfl
    · rw [subscriptions]
      cases stored : db.subscriptions.get? other.id with
      | none => rfl
      | some s =>
        rw [Option.map_some]
        split
        · next here => rw [← (own here).2 s stored]
        · rfl

/-- An event that finds one organization. -/
theorem hits_found_iff {org : Organization} (member : org ∈ db.organizations.rows)
    (customer : EventCustomer host data db org)
    (only : ∀ other ∈ db.organizations.rows, EventCustomer host data db other → other = org) :
    HitsOwner data db (.ok ⟨db.disabled org.id, true⟩) ↔ LeadsToOwner host data db := by
  constructor
  · intro ⟨work, success, _, owners, others⟩
    cases success
    refine ⟨?_, ?_, ?_, ?_⟩
    · intro code named a here b there customerA customerB
      have first := only a here ⟨code, named, customerA⟩
      have second := only b there ⟨code, named, customerB⟩
      exact first.trans second.symm
    · intro other place named
      by_cases same : other.id = org.id
      · have equal := Table.eq_of_key place member same
        exact .inl (equal ▸ customer)
      · have freed := (disabled_plan org.id place).symm.trans (owners other place named)
        rw [if_neg same] at freed
        exact .inr (congrArg Organization.plan (Option.some.inj freed))
    · intro other place theirs unnamed
      obtain rfl := only other place theirs
      have kept := (sameTenant_disabled_iff other.id place).mp (others other place unnamed)
      exact kept.1 rfl
    · intro payer place theirs other there unnamed
      obtain rfl := only payer place theirs
      have kept := (sameTenant_disabled_iff payer.id there).mp (others other there unnamed)
      exact kept.2
  · intro leads
    refine ⟨⟨db.disabled org.id, true⟩, rfl, rfl, ?_, ?_⟩
    · intro other place named
      rw [disabled_plan org.id place]
      split
      · rfl
      · next elsewhere =>
        have free : other.plan = .free := by
          apply (leads.found other place named).resolve_left
          intro theirs
          exact elsewhere (congrArg Organization.id (only other place theirs))
        rw [← free]
    · intro other place unnamed
      apply (sameTenant_disabled_iff org.id place).mpr
      refine ⟨?_, leads.referrals org member customer other place unnamed⟩
      intro here
      have equal := Table.eq_of_key place member here
      exact leads.others other place (equal ▸ customer) unnamed

theorem hits_owner_iff {call : WebhookCall}
    (event : call.event ∈ ["subscription.disable", "subscription.not_renew"]) :
    HitsOwner call.data.asDict db (dispatchEvent host settings call db) ↔
      LeadsToOwner host call.data.asDict db := by
  cases named : customerCode host call.data.asDict with
  | none =>
    rw [dispatch_disable_unnamed event named]
    apply hits_idle_iff
    intro org _ ⟨code, given, _⟩
    rw [named] at given
    cases given
  | some code =>
    have customers (org : Organization) :
        EventCustomer host call.data.asDict db org ↔ db.IsCustomer code org := by
      simp [EventCustomer, named]
    cases found : db.orgByProviderCustomer code with
    | error failure =>
      have several : ¬ OneCustomer host call.data.asDict db := by
        intro one
        obtain ⟨org, success⟩ := orgByProviderCustomer_isOk_iff.mpr (one code named)
        rw [found] at success
        cases success
      refine iff_of_false ?_ (fun leads => several leads.one)
      intro ⟨work, success, _⟩
      rw [dispatch_disable event] at success
      simp only [disableWebhookSubscription, named, found, Except.map] at success
      cases success
    | ok answer =>
      have selected := orgByProviderCustomer_eq_ok_iff.mp found
      cases answer with
      | none =>
        rw [dispatch_disable_unknown event named found]
        apply hits_idle_iff
        intro org member customer
        have none := (selected org).mp ⟨member, (customers org).mp customer⟩
        cases none
      | some org =>
        rw [dispatch_disable_found event named found]
        obtain ⟨member, customer⟩ := (selected org).mpr rfl
        apply hits_found_iff member ((customers org).mpr customer)
        intro other place theirs
        have same := (selected other).mp ⟨place, (customers other).mp theirs⟩
        exact (Option.some.inj same).symm

/-! ## Runs -/

/-- Over every run of billing requests from any state, every disabling event
hits its owner only exactly when all of them lead to their owner only. -/
theorem disables_hit_owner_iff (host : Runtime) (settings : BillingSettings) (w : World)
    (run : List BillingOp) :
    Run.AllSteps (billingStep host settings) (DisableHitsOwner host settings) w run ↔
      Run.AllSteps (billingStep host settings) (LeadsOnlyToOwner host settings) w run := by
  have agree : DisableHitsOwner host settings = LeadsOnlyToOwner host settings := by
    funext w op
    cases op with
    | webhook call =>
      exact propext (imp_congr_right (fun _ => imp_congr_right (fun event => hits_owner_iff event)))
    | _ => rfl
  rw [agree]

/-! ## A subscription that was replaced -/

def subscriptionEvent (event subscriptionCode plan : String) (now : Instant) : BillingOp :=
  .webhook
    { event := event
      data := .obj [("subscription_code", .str subscriptionCode),
        ("customer", .obj [("customer_code", .str "CUS_1")]),
        ("metadata", .obj [("org_id", .str oneOrgText), ("plan", .str plan)])]
      signature := some "a1b2"
      rawBody := "\x7b\x7d"
      reply := .httpError
      claim := .delivered
      now := now
      newId := 100 }

/-- The organization changes from a starter to a professional subscription, and
Paystack reports that the old one ended. -/
def replaced : List BillingOp :=
  [subscriptionEvent "subscription.create" "SUB_OLD" "starter" 0,
    subscriptionEvent "subscription.create" "SUB_NEW" "professional" 1,
    subscriptionEvent "subscription.disable" "SUB_OLD" "starter" 2]

/-- The organization loses the plan it pays for. -/
theorem replaced_subscription_downgrades :
    ¬ Run.AllSteps (billingStep oneOrgHost oneOrgSettings)
      (DisableHitsOwner oneOrgHost oneOrgSettings) oneOrg replaced := by
  intro all
  have paying : (Run.exec (billingStep oneOrgHost oneOrgSettings) oneOrg
      (replaced.take 2)).database.organizations.rows = [⟨1, .professional⟩] := by decide +kernel
  have current : (Run.exec (billingStep oneOrgHost oneOrgSettings) oneOrg
      (replaced.take 2)).database.subscriptions.rows = [⟨1, "paystack", some "CUS_1",
        some "SUB_NEW", .professional, "active", none, none⟩] := by decide +kernel
  have hits := all.2.2.1 (by decide) (by decide)
  have leads := (hits_owner_iff (by decide)).mp hits
  have kept := leads.others ⟨1, .professional⟩ (paying ▸ List.mem_singleton_self _)
    ⟨"CUS_1", by decide, _, current ▸ List.mem_singleton_self _, rfl, rfl, rfl⟩ (by
      intro ⟨code, named, s, stored, _, same⟩
      cases named
      have newest : s = _ := List.mem_singleton.mp (current ▸ stored)
      rw [newest] at same
      exact absurd same (by decide))
  exact absurd kept.1 (by decide)

end Reliastra.Guarantees.SubscriptionOwner
