import Reliastra.Source.Billing.Effects

/-!
# Paid plans and what was collected for them

A verification takes the plan from the transaction's metadata (or plan object)
and never compares it with the amount Paystack collected, and a
`subscription.create` event sets a plan with no payment at all. The conditions
below are on the request and the state it meets: which payments are at price,
and which subscription events upgrade nobody.
-/

namespace Reliastra.Guarantees.PaidPlans

open Reliastra.Library Source Source.Billing

variable (host : Runtime) (settings : BillingSettings)

/-- The amount Paystack reports as collected, in minor units. -/
def collectedMinor (reply : PaystackReply) : Option Int :=
  (paymentIn host reply).bind (fun payment => ((payment.2.get "amount").toInt host).toOption)

/-- The collected amount is at least the price of the plan. -/
def PaysFor (reply : PaystackReply) (plan : Plan) : Prop :=
  ∃ amount, collectedMinor host reply = some amount ∧ 100 * plan.priceUsd ≤ amount

/-- The request moves some organization to the plan. -/
def MovesTo (w : World) (op : BillingOp) (plan : Plan) : Prop :=
  ∃ org ∈ w.database.organizations.rows,
    ∃ org' ∈ (billingStep host settings w op).database.organizations.rows,
      org'.id = org.id ∧ org'.plan ≠ org.plan ∧ org'.plan = plan

/-- A verification moves an organization to a paid plan only for its price. -/
def VerificationsPaid (w : World) (op : BillingOp) : Prop :=
  ∀ v plan, verificationOf host settings w op = some v → MovesTo host settings w op plan →
    plan.Paid → PaysFor host v.reply plan

/-- Only a verification at price moves an organization to a paid plan. -/
def UpgradesPaid (w : World) (op : BillingOp) : Prop :=
  ∀ plan, MovesTo host settings w op plan → plan.Paid →
    ∃ v, verificationOf host settings w op = some v ∧ PaysFor host v.reply plan

/-- The payment a verification goes through with covers the plan it names,
should that be a paid plan other than the organization's. -/
def AtPrice (w : World) (op : BillingOp) : Prop :=
  ∀ v orgId data, verificationOf host settings w op = some v →
    Provisions host settings w.database v.reference v.reply v.now v.newId orgId data →
    (∃ org ∈ w.database.organizations.rows, org.id = orgId ∧ org.plan ≠ normalizedPlan host data) →
    (normalizedPlan host data).Paid → PaysFor host v.reply (normalizedPlan host data)

/-- A `subscription.create` event that goes through names no paid plan but the
one the organization is on. -/
def NoFreeUpgrade (w : World) (op : BillingOp) : Prop :=
  ∀ call orgId, op = .webhook call → admitted host settings call w.redis →
    call.event = "subscription.create" → Upserts host w.database call.data.asDict orgId →
    (normalizedPlan host call.data.asDict).Paid →
    ∀ org ∈ w.database.organizations.rows, org.id = orgId →
      org.plan = normalizedPlan host call.data.asDict

variable {host settings}

private theorem movesTo_of_rows {w : World} {op : BillingOp} {orgId : Uuid} {target plan : Plan}
    (rows : (billingStep host settings w op).database.organizations.rows =
      w.database.organizations.rows.map
        (fun org => if org.id = orgId then { org with plan := target } else org)) :
    MovesTo host settings w op plan ↔
      plan = target ∧ ∃ org ∈ w.database.organizations.rows, org.id = orgId ∧ org.plan ≠ target := by
  unfold MovesTo
  rw [rows]
  constructor
  · intro ⟨org, member, org', member', same, moved, arrived⟩
    obtain ⟨before, place, rfl⟩ := List.mem_map.mp member'
    split at same
    · next here =>
      obtain rfl : before = org := Table.eq_of_key place member same
      rw [if_pos here] at moved arrived
      exact ⟨arrived.symm, before, member, here, fun stays => moved stays.symm⟩
    · next elsewhere =>
      obtain rfl : before = org := Table.eq_of_key place member same
      rw [if_neg elsewhere] at moved
      exact absurd rfl moved
  · rintro ⟨rfl, org, member, here, moves⟩
    refine ⟨org, member, { org with plan := plan }, ?_, rfl, fun stays => moves stays.symm, rfl⟩
    exact List.mem_map.mpr ⟨org, member, if_pos here⟩

private theorem not_movesTo_of_same {w : World} {op : BillingOp} {plan : Plan}
    (same : (billingStep host settings w op).database.organizations = w.database.organizations) :
    ¬ MovesTo host settings w op plan := by
  intro ⟨org, member, org', member', id, moved, _⟩
  rw [same] at member'
  rw [Table.eq_of_key member' member id] at moved
  exact moved rfl

/-- What a verification that goes through does to the plans. -/
private theorem movesTo_verified {w : World} {op : BillingOp} {v : Verification} {orgId : Uuid}
    {data : Json} {plan : Plan} (verifies : verificationOf host settings w op = some v)
    (provisions : Provisions host settings w.database v.reference v.reply v.now v.newId orgId data) :
    MovesTo host settings w op plan ↔ plan = normalizedPlan host data ∧
      ∃ org ∈ w.database.organizations.rows, org.id = orgId ∧
        org.plan ≠ normalizedPlan host data := by
  apply movesTo_of_rows
  rw [verification_database verifies]
  exact (verify_provisions provisions).organizations

theorem verificationsPaid_iff (w : World) (op : BillingOp) :
    VerificationsPaid host settings w op ↔ AtPrice host settings w op := by
  constructor
  · intro paid v orgId data verifies provisions moves priced
    exact paid v _ verifies ((movesTo_verified verifies provisions).mpr ⟨rfl, moves⟩) priced
  · intro price v plan verifies moves priced
    by_cases goes : ∃ orgId data,
        Provisions host settings w.database v.reference v.reply v.now v.newId orgId data
    · obtain ⟨orgId, data, provisions⟩ := goes
      obtain ⟨same, other⟩ := (movesTo_verified verifies provisions).mp moves
      rw [same] at priced ⊢
      exact price v orgId data verifies provisions other priced
    · refine absurd moves (not_movesTo_of_same ?_)
      rw [verification_database verifies,
        verify_idle (fun orgId data provisions => goes ⟨orgId, data, provisions⟩)]

theorem upgradesPaid_iff (w : World) (op : BillingOp) :
    UpgradesPaid host settings w op ↔
      AtPrice host settings w op ∧ NoFreeUpgrade host settings w op := by
  constructor
  · intro paid
    refine ⟨(verificationsPaid_iff w op).mp ?_, ?_⟩
    · intro v plan verifies moves priced
      obtain ⟨v', verifies', pays⟩ := paid plan moves priced
      rw [verifies] at verifies'
      cases verifies'
      exact pays
    · rintro call orgId rfl claimed event upserts priced org member here
      by_contra other
      have rows := (subscription_wrote claimed event upserts).organizations
      rw [eventValues_plan] at rows
      have moves := (movesTo_of_rows rows).mpr
        ⟨rfl, org, member, here, other⟩
      obtain ⟨v, verifies, _⟩ := paid _ moves priced
      simp [verificationOf, event] at verifies
  · intro ⟨price, grants⟩ plan moves priced
    cases billingStep_effect host settings w op with
    | unchanged same => exact absurd moves (not_movesTo_of_same same)
    | verified v orgId data verifies provisions rows =>
      exact ⟨v, verifies, (verificationsPaid_iff w op).mpr price v plan verifies moves priced⟩
    | subscribed call orgId same claimed event upserts rows =>
      obtain ⟨named, org, member, here, other⟩ := (movesTo_of_rows rows).mp moves
      rw [named] at priced
      exact absurd (grants call orgId same claimed event upserts priced org member here) other
    | disabled orgId rows =>
      rw [((movesTo_of_rows rows).mp moves).1] at priced
      exact absurd priced (by decide)

/-- Over every run of billing requests: verifications move organizations to
paid plans only for the price exactly when every payment is at price, and
nothing else moves one there exactly when, besides, no subscription event
upgrades an organization. -/
theorem paid_plans_iff (host : Runtime) (settings : BillingSettings) (w : World)
    (run : List BillingOp) :
    ((∀ before op after, run = before ++ op :: after →
        VerificationsPaid host settings (Run.exec (billingStep host settings) w before) op) ↔
      Run.AllSteps (billingStep host settings) (AtPrice host settings) w run) ∧
    ((∀ before op after, run = before ++ op :: after →
        UpgradesPaid host settings (Run.exec (billingStep host settings) w before) op) ↔
      Run.AllSteps (billingStep host settings)
        (fun w op => AtPrice host settings w op ∧ NoFreeUpgrade host settings w op) w run) := by
  refine ⟨?_, ?_⟩
  · rw [Run.allSteps_iff_split]
    simp only [verificationsPaid_iff]
  · rw [Run.allSteps_iff_split]
    simp only [upgradesPaid_iff]

/-- A payment of 19.00 that names the professional plan, and a checkout of the
agency plan, which asks for nothing. -/
theorem paid_plans_underpaid :
    ¬ VerificationsPaid oneOrgHost oneOrgSettings oneOrg
        (.verifyTransaction "ref-1" (paidReply "professional" 1900) 0 100) ∧
      (checkoutRequest 1 ⟨"agency", some "owner@example.com"⟩ oneOrg.database =
          .ok ⟨"owner@example.com", 0, .agency, 1⟩ ∧
        ¬ VerificationsPaid oneOrgHost oneOrgSettings oneOrg
          (.verifyTransaction "ref-2" (paidReply "agency" 0) 0 100)) := by
  refine ⟨?_, by decide, ?_⟩
  · intro paid
    obtain ⟨amount, collected, enough⟩ := paid _ .professional rfl
      ⟨⟨1, .free⟩, by decide, ⟨1, .professional⟩, by decide, rfl, by decide, rfl⟩ (by decide)
    have known : collectedMinor oneOrgHost (paidReply "professional" 1900) = some 1900 := by
      decide
    rw [known] at collected
    cases collected
    exact absurd enough (by decide)
  · intro paid
    obtain ⟨amount, collected, enough⟩ := paid _ .agency rfl
      ⟨⟨1, .free⟩, by decide, ⟨1, .agency⟩, by decide, rfl, by decide, rfl⟩ (by decide)
    have known : collectedMinor oneOrgHost (paidReply "agency" 0) = some 0 := by decide
    rw [known] at collected
    cases collected
    exact absurd enough (by decide)

end Reliastra.Guarantees.PaidPlans
