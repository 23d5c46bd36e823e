import Reliastra.Source.Core.Json
import Reliastra.Source.Core.Permissions
import Reliastra.Source.Partners.Schema

/-!
# Organizations, subscriptions and the billing database

Source: `app/modules/organizations/models.py`, `app/modules/billing/models.py`,
`app/modules/billing/repository.py`, `OrganizationRepository.update`. The
subscription table is keyed by its organization (`uq_subscriptions_organization_id`).
Names, slugs and surrogate ids are left out: no billing operation reads them.
-/

namespace Reliastra.Source.Billing

open Reliastra.Library

structure Organization where
  id : Uuid
  plan : Plan
  deriving DecidableEq, Repr

structure Subscription where
  organizationId : Uuid
  provider : String
  providerCustomerId : Option String
  providerSubscriptionId : Option String
  plan : Plan
  status : String
  currentPeriodStart : Option Instant
  currentPeriodEnd : Option Instant
  deriving DecidableEq, Repr

structure User where
  id : Uuid
  email : String
  deriving DecidableEq, Repr

structure Database where
  organizations : Table Organization.id
  subscriptions : Table Subscription.organizationId
  users : Table User.id
  ledger : Partners.Ledger

/-- The keyword arguments both subscription helpers get; the provider's ids are
whatever the document holds. -/
structure SubscriptionValues where
  plan : Plan
  status : String
  providerCustomerId : Json
  providerSubscriptionId : Json
  currentPeriodStart : Option Instant
  currentPeriodEnd : Option Instant

/-- A `String(limit)` column takes `None` and texts that fit. -/
def textColumn (limit : Nat) : Json → Except Failure (Option String)
  | .null => .ok none
  | .str value => if FitsText limit value then .ok (some value) else .error (.flush "DataError")
  | _ => .error (.flush "DataError")

/-- Sets the values that are not `None`. -/
def Subscription.update (s : Subscription) (values : SubscriptionValues)
    (customerId subscriptionId : Option String) : Subscription :=
  { s with
    plan := values.plan
    status := values.status
    providerCustomerId := customerId.orElse (fun _ => s.providerCustomerId)
    providerSubscriptionId := subscriptionId.orElse (fun _ => s.providerSubscriptionId)
    currentPeriodStart := values.currentPeriodStart.orElse (fun _ => s.currentPeriodStart)
    currentPeriodEnd := values.currentPeriodEnd.orElse (fun _ => s.currentPeriodEnd) }

theorem Subscription.update_organizationId (values : SubscriptionValues)
    (customerId subscriptionId : Option String) (s : Subscription) :
    (s.update values customerId subscriptionId).organizationId = s.organizationId := rfl

/-- The row `create_subscription` adds. -/
def newSubscription (orgId : Uuid) (values : SubscriptionValues)
    (customerId subscriptionId : Option String) : Subscription :=
  { organizationId := orgId
    provider := "paystack"
    providerCustomerId := customerId
    providerSubscriptionId := subscriptionId
    plan := values.plan
    status := values.status
    currentPeriodStart := values.currentPeriodStart
    currentPeriodEnd := values.currentPeriodEnd }

/-- `update_subscription` where the organization has one, else
`create_subscription`. -/
def Database.writeSubscription (db : Database) (orgId : Uuid) (values : SubscriptionValues) :
    Except Failure Database :=
  match textColumn 200 values.providerCustomerId, textColumn 200 values.providerSubscriptionId with
  | .ok customerId, .ok subscriptionId =>
    if ¬ FitsText 30 values.status then .error (.flush "DataError")
    else match db.subscriptions.get? orgId with
    | some subscription =>
      let subscriptions := db.subscriptions.updateKey subscription.organizationId
        (·.update values customerId subscriptionId)
        (Subscription.update_organizationId values customerId subscriptionId)
      .ok { db with subscriptions := subscriptions }
    | none =>
      match db.subscriptions.insert (newSubscription orgId values customerId subscriptionId) with
      | some subscriptions => .ok { db with subscriptions := subscriptions }
      | none => .error (.flush "uq_subscriptions_organization_id")
  | .error failure, _ => .error failure
  | _, .error failure => .error failure

/-- `OrganizationRepository.update(session, org, plan=plan)`. -/
def Database.setPlan (db : Database) (orgId : Uuid) (plan : Plan) : Database :=
  let organizations :=
    db.organizations.updateKey orgId (fun org => { org with plan := plan }) (fun _ => rfl)
  { db with organizations := organizations }

/-- `get_org_by_provider_customer`: `scalar_one_or_none` raises on a second
row. -/
def Database.orgByProviderCustomer (db : Database) (customerId : String) :
    Except Failure (Option Organization) :=
  match db.organizations.rows.filter (fun org =>
    db.subscriptions.rows.any (fun s => s.organizationId = org.id ∧
      s.providerCustomerId = some customerId ∧ s.provider = "paystack")) with
  | [] => .ok none
  | [org] => .ok (some org)
  | _ => .error (.python "MultipleResultsFound")

end Reliastra.Source.Billing
