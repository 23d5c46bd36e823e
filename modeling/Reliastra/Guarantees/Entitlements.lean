import Reliastra.Source.Billing.Effects

/-!
# Does the plan match the subscription?

A verified payment writes an active subscription and a disabling event an
inactive one. A `subscription.create` event writes the status it carries next to
the plan it names, whatever the status is.
-/

namespace Reliastra.Guarantees.Entitlements

open Reliastra.Library Source Source.Billing

/-- A paid plan comes with an active subscription to it, the free one with no
active paid subscription. -/
structure Entitled (db : Database) (org : Organization) : Prop where
  paid : org.plan.Paid → ∃ s, db.subscriptions.get? org.id = some s ∧ s.status = "active" ∧
    s.plan = org.plan
  free : org.plan = .free → ∀ s, db.subscriptions.get? org.id = some s →
    ¬ (s.status = "active" ∧ s.plan.Paid)

def Matches (w : World) : Prop := ∀ org ∈ w.database.organizations.rows, Entitled w.database org

/-- A `subscription.create` event that goes through with a paid plan is of an
active subscription. -/
def CreatesActive (host : Runtime) (settings : BillingSettings) (w : World) (op : BillingOp) : Prop :=
  ∀ call orgId, op = .webhook call → admitted host settings call w.redis →
    call.event = "subscription.create" → Upserts host w.database call.data.asDict orgId →
    (normalizedPlan host call.data.asDict).Paid →
    (eventValues host call.data.asDict).status = "active"

/-! ## Writes -/

variable {host : Runtime} {settings : BillingSettings} {db after : Database} {orgId : Uuid}
  {values : SubscriptionValues}

theorem Entitled.congr {org : Organization} (entitled : Entitled db org)
    (same : after.subscriptions.get? org.id = db.subscriptions.get? org.id) : Entitled after org := by
  obtain ⟨paid, free⟩ := entitled
  rw [← same] at paid free
  exact ⟨paid, free⟩

/-- What was written to the organization is what it is entitled to, if a paid
plan was written as active. -/
theorem entitled_written (wrote : Wrote db orgId values after) {org : Organization}
    (here : org.id = orgId) (plan : org.plan = values.plan) :
    Entitled after org ↔ (values.plan.Paid → values.status = "active") := by
  obtain ⟨rowPlan, rowStatus⟩ := writtenRow_entitles orgId values (db.subscriptions.get? orgId)
  have row := wrote.row
  rw [← here] at row rowPlan rowStatus
  constructor
  · intro ⟨paid, _⟩ priced
    rw [plan] at paid
    obtain ⟨s, stored, active, _⟩ := paid priced
    rw [row] at stored
    cases stored
    exact rowStatus.symm.trans active
  · intro active
    refine ⟨fun priced => ⟨_, row, ?_, ?_⟩, ?_⟩
    · rw [rowStatus]
      exact active (plan ▸ priced)
    · rw [rowPlan, plan]
    · intro free s stored ⟨_, priced⟩
      rw [row] at stored
      cases stored
      rw [rowPlan, ← plan, free] at priced
      exact absurd priced (by decide)

theorem matches_written (before : ∀ org ∈ db.organizations.rows, Entitled db org)
    (wrote : Wrote db orgId values after) (active : values.plan.Paid → values.status = "active") :
    ∀ org ∈ after.organizations.rows, Entitled after org := by
  intro org place
  rw [wrote.organizations] at place
  obtain ⟨row, member, rfl⟩ := List.mem_map.mp place
  split
  · next here =>
    have known : ({ row with plan := values.plan } : Organization).id = orgId := here
    exact (entitled_written wrote known rfl).mpr active
  · next elsewhere => exact (before row member).congr (wrote.others row.id elsewhere)

theorem not_matches_written (wrote : Wrote db orgId values after)
    (known : ∃ org ∈ db.organizations.rows, org.id = orgId) (priced : values.plan.Paid)
    (inactive : values.status ≠ "active") : ∃ org ∈ after.organizations.rows, ¬ Entitled after org := by
  obtain ⟨org, member, here⟩ := known
  have written : ({ org with plan := values.plan } : Organization).id = orgId := here
  refine ⟨{ org with plan := values.plan }, ?_, ?_⟩
  · rw [wrote.organizations]
    exact List.mem_map.mpr ⟨org, member, if_pos here⟩
  · intro entitled
    exact inactive ((entitled_written wrote written rfl).mp entitled priced)

theorem matches_disabled (before : ∀ org ∈ db.organizations.rows, Entitled db org) (orgId : Uuid)
    (organizations : after.organizations = (db.deactivated orgId).organizations)
    (subscriptions : after.subscriptions = (db.deactivated orgId).subscriptions) :
    ∀ org ∈ after.organizations.rows, Entitled after org := by
  have stored (other : Uuid) : after.subscriptions.get? other =
      (db.subscriptions.get? other).map (fun s =>
        if other = orgId then { s with status := "inactive" } else s) := by
    rw [subscriptions]
    exact Table.get?_updateKey db.subscriptions orgId (fun s => { s with status := "inactive" })
      (fun _ => rfl) other
  intro org place
  rw [organizations] at place
  obtain ⟨row, member, rfl⟩ := List.mem_map.mp place
  split
  · next here =>
    refine ⟨fun priced => absurd priced (by decide : ¬ Plan.free.Paid), fun _ s found => ?_⟩
    intro ⟨active, _⟩
    have inactive := stored row.id
    simp only [here, if_true] at inactive found
    rw [inactive] at found
    obtain ⟨old, _, rfl⟩ := Option.map_eq_some_iff.mp found
    exact absurd active (by decide : "inactive" ≠ "active")
  · next elsewhere =>
    apply (before row member).congr
    rw [stored]
    simp only [elsewhere, if_false, Option.map_id']

/-! ## Requests -/

theorem step_keeps (w : World) (op : BillingOp) (fits : Matches w)
    (active : CreatesActive host settings w op) : Matches (billingStep host settings w op) := by
  unfold Matches
  cases billingStep_tables host settings w op with
  | unchanged organizations subscriptions =>
    intro org place
    rw [organizations] at place
    apply (fits org place).congr
    rw [subscriptions]
  | verified v orgId data verifies provisions wrote =>
    exact matches_written fits wrote (fun _ => rfl)
  | subscribed call orgId same claimed event upserts wrote =>
    apply matches_written fits wrote
    intro priced
    rw [eventValues_plan] at priced
    exact active call orgId same claimed event upserts priced
  | disabled orgId organizations subscriptions =>
    exact matches_disabled fits orgId organizations subscriptions

theorem step_breaks (w : World) (op : BillingOp) (_ : Matches w)
    (inactive : ¬ CreatesActive host settings w op) : ¬ Matches (billingStep host settings w op) := by
  intro fits
  apply inactive
  rintro call orgId rfl claimed event upserts priced
  by_contra other
  rw [← eventValues_plan] at priced
  obtain ⟨org, place, unentitled⟩ := not_matches_written
    (subscription_wrote claimed event upserts) upserts.known priced other
  exact unentitled (fits org place)

/-- Over every run of billing requests from a state where plans and
subscriptions match, they match all along exactly when no subscription to a
paid plan is created in another state than active. -/
theorem matches_iff (host : Runtime) (settings : BillingSettings) (w : World)
    (run : List BillingOp) :
    (Matches w → ∀ before rest, run = before ++ rest →
      Matches (Run.exec (billingStep host settings) w before)) ↔
      (Matches w → Run.AllSteps (billingStep host settings) (CreatesActive host settings) w run) :=
  imp_congr_right (fun initial =>
    Run.forall_states_iff_allSteps (fun _ fits => fits) step_keeps step_breaks w run initial)

/-! ## A subscription that was created unpaid -/

/-- A `subscription.create` event of a subscription whose payment failed. -/
def attentionEvent : BillingOp :=
  .webhook
    { event := "subscription.create"
      data := .obj [("subscription_code", .str "SUB_1"), ("status", .str "attention"),
        ("customer", .obj [("customer_code", .str "CUS_1")]),
        ("metadata", .obj [("org_id", .str oneOrgText), ("plan", .str "professional")])]
      signature := some "a1b2"
      rawBody := "\x7b\x7d"
      reply := .httpError
      claim := .delivered
      now := 0
      newId := 100 }

/-- The organization is on the professional plan without an active
subscription. -/
theorem attention_unmatched :
    Matches oneOrg ∧ ¬ Matches (Run.exec (billingStep oneOrgHost oneOrgSettings) oneOrg
      [attentionEvent]) := by
  constructor
  · intro org member
    rw [List.mem_singleton.mp member]
    refine ⟨fun priced => absurd priced (by decide), fun _ s found => ?_⟩
    cases found
  · intro fits
    have moved : (Run.exec (billingStep oneOrgHost oneOrgSettings) oneOrg
        [attentionEvent]).database.organizations.rows = [⟨1, .professional⟩] := by decide
    have written : (Run.exec (billingStep oneOrgHost oneOrgSettings) oneOrg
        [attentionEvent]).database.subscriptions.get? 1 = some ⟨1, "paystack", some "CUS_1",
          some "SUB_1", .professional, "attention", none, none⟩ := by decide
    have entitled := fits ⟨1, .professional⟩ (by rw [moved]; exact List.mem_singleton_self _)
    obtain ⟨s, stored, active, _⟩ := entitled.paid (by decide)
    rw [written] at stored
    cases stored
    exact absurd active (by decide)

end Reliastra.Guarantees.Entitlements
