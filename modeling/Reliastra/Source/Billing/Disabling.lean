import Reliastra.Source.Billing.Deliveries

/-!
# What disabling a subscription changes

A `subscription.disable` or `subscription.not_renew` event finds its
organization by the customer code. `Database.disabled` is what it leaves where
one organization is found; the lemmas say whose plan, subscription and referral
differ from before.
-/

namespace Reliastra.Source.Partners

open Reliastra.Library

/-- The referral an organization's payments count for, that of its owner. -/
def Ledger.referralOf (s : Ledger) (organizationId : Uuid) : Option PartnerReferral :=
  (s.orgOwner organizationId).bind s.referralOfUser

theorem referralOfUser_mem {s : Ledger} {userId : Uuid} {referral : PartnerReferral}
    (found : s.referralOfUser userId = some referral) : referral ∈ s.referrals.rows :=
  List.mem_of_find?_eq_some found

theorem referralOf_mem {s : Ledger} {organizationId : Uuid} {referral : PartnerReferral}
    (found : s.referralOf organizationId = some referral) : referral ∈ s.referrals.rows := by
  obtain ⟨owner, _, found⟩ := Option.bind_eq_some_iff.mp found
  exact referralOfUser_mem found

theorem churned_keeps (referral : PartnerReferral) :
    (referral.update [.status (some .churned)]).id = referral.id := referral.update_id _

/-- The ledger after the referral was marked. -/
def Ledger.markChurned (s : Ledger) (referralId : Uuid) : Ledger :=
  let referrals := s.referrals.updateKey referralId
    (·.update [.status (some .churned)]) churned_keeps
  { s with referrals := referrals }

theorem handleChurn_eq (s : Ledger) (organizationId : Uuid) :
    handleChurn organizationId s =
      match s.referralOf organizationId with
      | none => s
      | some referral => if referral.status = .churned then s else s.markChurned referral.id := by
  unfold handleChurn Ledger.referralOf
  cases s.orgOwner organizationId with
  | none => rfl
  | some owner =>
    dsimp only [Option.bind_some]
    cases s.referralOfUser owner <;> rfl

/-- A referral keeps its user. -/
theorem referralOf_markChurned (s : Ledger) (referralId organizationId : Uuid) :
    (s.markChurned referralId).referralOf organizationId =
      (s.referralOf organizationId).map (fun r =>
        if r.id = referralId then r.update [.status (some .churned)] else r) := by
  have users (userId : Uuid) : (fun r : PartnerReferral => decide (r.referredUserId = userId)) ∘
      (fun r => if r.id = referralId then r.update [.status (some .churned)] else r) =
      fun r => decide (r.referredUserId = userId) := by
    funext r
    simp only [Function.comp_apply]
    split <;> rfl
  have owner : (s.markChurned referralId).orgOwner organizationId = s.orgOwner organizationId := rfl
  unfold Ledger.referralOf
  rw [owner]
  cases s.orgOwner organizationId with
  | none => rfl
  | some user =>
    simp only [Option.bind_some, Ledger.referralOfUser, Ledger.markChurned, Table.updateKey_rows,
      List.find?_map, users]

/-- Churn reaches the referrals of another organization with the same owner. -/
theorem referralOf_handleChurn_eq_iff (s : Ledger) (organizationId other : Uuid) :
    (handleChurn organizationId s).referralOf other = s.referralOf other ↔
      ∀ referral, s.referralOf organizationId = some referral →
        s.referralOf other = some referral → referral.status = .churned := by
  rw [handleChurn_eq]
  cases found : s.referralOf organizationId with
  | none => simp
  | some referral =>
    simp only [Option.some.injEq, forall_eq']
    by_cases churned : referral.status = .churned
    · simp [churned]
    · rw [if_neg churned]
      rw [referralOf_markChurned]
      cases theirs : s.referralOf other with
      | none => simp
      | some their =>
        simp only [Option.map_some, Option.some.injEq]
        constructor
        · rintro same rfl
          rw [if_pos rfl] at same
          exact (congrArg PartnerReferral.status same).symm
        · intro distinct
          split
          · next here =>
            have equal := Table.eq_of_key (referralOf_mem theirs) (referralOf_mem found) here
            exact absurd (distinct equal) churned
          · rfl

end Reliastra.Source.Partners

namespace Reliastra.Source.Billing

open Reliastra.Library

/-- The database after the event found the organization, its churn included. -/
def Database.disabled (db : Database) (orgId : Uuid) : Database :=
  { db.deactivated orgId with ledger := Partners.handleChurn orgId db.ledger }

theorem Database.get?_deactivated (db : Database) (orgId other : Uuid) :
    (db.deactivated orgId).organizations.get? other = (db.organizations.get? other).map (fun org =>
        if other = orgId then { org with plan := .free } else org) ∧
      (db.deactivated orgId).subscriptions.get? other = (db.subscriptions.get? other).map (fun s =>
        if other = orgId then { s with status := "inactive" } else s) := by
  constructor
  · exact Table.get?_updateKey db.organizations orgId (fun org => { org with plan := .free })
      (fun _ => rfl) other
  · exact Table.get?_updateKey db.subscriptions orgId (fun s => { s with status := "inactive" })
      (fun _ => rfl) other

theorem Database.isCustomer_deactivated (db : Database) (orgId : Uuid) (code : String)
    (org : Organization) : (db.deactivated orgId).IsCustomer code org ↔ db.IsCustomer code org := by
  unfold Database.IsCustomer Database.deactivated Database.setPlan
  simp only [Table.updateKey_rows, List.mem_map, exists_exists_and_eq_and]
  refine exists_congr (fun s => and_congr_right (fun _ => ?_))
  split <;> rfl

section Dispatch
variable {host : Runtime} {settings : BillingSettings} {call : WebhookCall} {db : Database}

theorem dispatch_disable (event : call.event ∈ ["subscription.disable", "subscription.not_renew"]) :
    dispatchEvent host settings call db =
      (disableWebhookSubscription host call.data.asDict db).map
        (fun db => ⟨handlePartnerChurn host call.data.asDict db, true⟩) := by
  have unpaid : call.event ≠ "charge.success" := by
    intro same
    rw [same] at event
    exact absurd event (by decide)
  have other : call.event ≠ "subscription.create" := by
    intro same
    rw [same] at event
    exact absurd event (by decide)
  unfold dispatchEvent
  dsimp only
  rw [if_neg (fun both => unpaid both.1), if_neg other, if_pos event]

theorem dispatch_disable_unnamed
    (event : call.event ∈ ["subscription.disable", "subscription.not_renew"])
    (unnamed : customerCode host call.data.asDict = none) :
    dispatchEvent host settings call db = .ok ⟨db, true⟩ := by
  rw [dispatch_disable event]
  simp only [disableWebhookSubscription, unnamed, Except.map, handlePartnerChurn]

theorem dispatch_disable_unknown {code : String}
    (event : call.event ∈ ["subscription.disable", "subscription.not_renew"])
    (named : customerCode host call.data.asDict = some code)
    (unknown : db.orgByProviderCustomer code = .ok none) :
    dispatchEvent host settings call db = .ok ⟨db, true⟩ := by
  rw [dispatch_disable event]
  simp only [disableWebhookSubscription, named, unknown, Except.map, handlePartnerChurn]

/-- Churn looks the organization up once more, and finds it again. -/
theorem orgByProviderCustomer_again {code : String} {org : Organization}
    (found : db.orgByProviderCustomer code = .ok (some org)) :
    (db.deactivated org.id).orgByProviderCustomer code = .ok (some { org with plan := .free }) := by
  have only := orgByProviderCustomer_eq_ok_iff.mp found
  obtain ⟨member, customer⟩ := (only org).mpr rfl
  apply orgByProviderCustomer_eq_ok_iff.mpr
  intro other
  rw [Database.isCustomer_deactivated]
  constructor
  · intro ⟨place, theirs⟩
    obtain ⟨row, here, rfl⟩ := List.mem_map.mp place
    have sameId : (if row.id = org.id then { row with plan := .free } else row).id = row.id := by
      split <;> rfl
    have same : some org = some row := by
      apply (only row).mp
      refine ⟨here, ?_⟩
      unfold Database.IsCustomer at theirs ⊢
      rw [sameId] at theirs
      exact theirs
    cases same
    rw [if_pos rfl]
  · intro same
    cases same
    refine ⟨List.mem_map.mpr ⟨org, member, if_pos rfl⟩, customer⟩

theorem dispatch_disable_found {code : String} {org : Organization}
    (event : call.event ∈ ["subscription.disable", "subscription.not_renew"])
    (named : customerCode host call.data.asDict = some code)
    (found : db.orgByProviderCustomer code = .ok (some org)) :
    dispatchEvent host settings call db = .ok ⟨db.disabled org.id, true⟩ := by
  have done : disableWebhookSubscription host call.data.asDict db = .ok (db.deactivated org.id) := by
    simp only [disableWebhookSubscription, named, found]
    rfl
  rw [dispatch_disable event, done]
  simp only [Except.map, handlePartnerChurn, named, orgByProviderCustomer_again found]
  rfl

end Dispatch

end Reliastra.Source.Billing
