import Reliastra.Source.Api.Escapes

/-!
# Whose rows does the verification of a payment write?

The route takes the current organization and leaves it unused: the rows written
are those of the organization in the metadata of the transaction, whoever asks.
-/

namespace Reliastra.Guarantees.PaymentFrame

open Reliastra.Library Reliastra.Source Reliastra.Source.Auth Reliastra.Source.Api
open Reliastra.Source.Organizations

/-- The commission is recorded for a payment of the organization. -/
def EarnedFrom (env : ServiceEnvironment) (X : Uuid) (c : Partners.PartnerCommission) : Prop :=
  ∃ data, Billing.paymentIn env.credentials.host (env.paystack c.billingEventId) = some (X, data)

/-- Plans, subscriptions and commissions of the other organizations are as they
were. -/
structure Framed (env : ServiceEnvironment) (X : Uuid) (before after : Platform) : Prop where
  organizations :
    SameOutside (fun row => row.id = X) before.organizations.rows after.organizations.rows
  subscriptions : SameOutside (fun row => row.organizationId = X)
    before.workspace.subscriptions.rows after.workspace.subscriptions.rows
  commissions :
    SameOutside (EarnedFrom env X) before.partners.commissions.rows after.partners.commissions.rows

/-- `POST /billing/verify`; a reference outside the bounds of the query is
refused. -/
def postVerify (env : ServiceEnvironment) (s : Platform) (request : Request) (reference : String) :
    Platform :=
  if 1 ≤ reference.length ∧ reference.length ≤ 200 then
    serve env s ⟨request, .byOrganization (.verifyTransaction reference)⟩
  else s

/-- The request passes the guards of the route as one of a member of `X`. -/
def CalledBy (env : ServiceEnvironment) (s : Platform) (request : Request) (X : Uuid) : Prop :=
  ∃ user org role, ActsAs env s request user org role ∧ requireRole role (some .member) = .ok () ∧
    org.id = X

/-- The reference is that of a payment of another organization, which earns a
partner a commission or buys something the other organization does not have
yet. -/
def PaysForAnother (env : ServiceEnvironment) (X : Uuid) (s : Platform) (reference : String) : Prop :=
  (1 ≤ reference.length ∧ reference.length ≤ 200) ∧ env.accepts = true ∧
    ∃ orgId data, orgId ≠ X ∧ Provisions env s reference orgId data ∧
      (Billing.PaysCommission env.credentials.host env.billing orgId data reference s.ledger ∨
        ¬ AlreadyProvisioned env s orgId data reference)

variable {env : ServiceEnvironment} {X : Uuid} {s after : Platform} {reference : String}
  {request : Request} {orgId : Uuid} {data : Json}

theorem Framed.refl (env : ServiceEnvironment) (X : Uuid) (s : Platform) : Framed env X s s :=
  ⟨SameOutside.refl _ _, SameOutside.refl _ _, SameOutside.refl _ _⟩

/-- The commission a payment adds, if it adds one, is recorded for it. -/
theorem commissioned_rows (provisions : Provisions env s reference orgId data) :
    commissioned env s reference orgId data = s.partners ∨
      ∃ commission, commission.billingEventId = reference ∧
        (commissioned env s reference orgId data).commissions.rows =
          s.partners.commissions.rows ++ [commission] := by
  by_cases pays : Billing.PaysCommission env.credentials.host env.billing orgId data reference
      s.ledger
  · exact .inr (Billing.recordPartnerCommission_paid pays provisions.recorded)
  · exact .inl ((commissioned_eq_iff provisions).mpr pays)

/-- A payment is of one organization. -/
theorem earnedFrom_iff (provisions : Provisions env s reference orgId data)
    {c : Partners.PartnerCommission} (recorded : c.billingEventId = reference) :
    EarnedFrom env X c ↔ X = orgId := by
  unfold EarnedFrom
  rw [recorded, provisions.payment]
  constructor
  · intro ⟨other, same⟩
    cases same
    rfl
  · rintro rfl
    exact ⟨data, rfl⟩

theorem framed_own (provisions : Provisions env s reference X data) :
    Framed env X s (s.withBilling (verified env s reference)) := by
  obtain ⟨organizations, subscriptions⟩ := verified_outside (X := X) provisions (.inl rfl)
  refine ⟨organizations, subscriptions, ?_⟩
  rw [recorded_verified provisions]
  rcases commissioned_rows provisions with same | ⟨commission, recorded, rows⟩
  · rw [same]
    exact SameOutside.refl _ _
  · rw [rows]
    exact SameOutside.append ((earnedFrom_iff provisions recorded).mpr rfl)

theorem framed_foreign_iff (provisions : Provisions env s reference orgId data) (other : orgId ≠ X) :
    Framed env X s (s.withBilling (verified env s reference)) ↔
      ¬ (Billing.PaysCommission env.credentials.host env.billing orgId data reference s.ledger ∨
        ¬ AlreadyProvisioned env s orgId data reference) := by
  rw [not_or, not_not, ← commissioned_eq_iff provisions]
  constructor
  · intro framed
    refine ⟨?_, ?_⟩
    · rcases commissioned_rows provisions with same | ⟨commission, recorded, rows⟩
      · exact same
      · have foreign : ¬ EarnedFrom env X commission :=
          fun earned => other ((earnedFrom_iff provisions recorded).mp earned).symm
        have kept := framed.commissions commission foreign
        rw [recorded_verified provisions, rows] at kept
        have stored := kept.mp (List.mem_append_right _ List.mem_cons_self)
        have distinct := (commissioned env s reference orgId data).commissions.unique
        rw [rows, List.map_append] at distinct
        exact absurd rfl ((List.nodup_append.mp distinct).2.2 _ (List.mem_map_of_mem stored) _
          List.mem_cons_self)
    · exact (ours_of_verified_outside provisions framed.organizations
        framed.subscriptions).resolve_left other
  · intro ⟨unpaid, already⟩
    obtain ⟨organizations, subscriptions⟩ := verified_outside (X := X) provisions (.inr already)
    refine ⟨organizations, subscriptions, ?_⟩
    rw [recorded_verified provisions, unpaid]
    exact SameOutside.refl _ _

theorem framed_verified_iff (env : ServiceEnvironment) (X : Uuid) (s : Platform)
    (reference : String) :
    Framed env X s (s.withBilling (verified env s reference)) ↔
      ¬ ∃ orgId data, orgId ≠ X ∧ Provisions env s reference orgId data ∧
        (Billing.PaysCommission env.credentials.host env.billing orgId data reference s.ledger ∨
          ¬ AlreadyProvisioned env s orgId data reference) := by
  by_cases goes : ∃ orgId data, Provisions env s reference orgId data
  · obtain ⟨orgId, data, provisions⟩ := goes
    have single {otherId : Uuid} {otherData : Json}
        (another : Provisions env s reference otherId otherData) :
        otherId = orgId ∧ otherData = data := by
      have same := another.payment.symm.trans provisions.payment
      cases same
      exact ⟨rfl, rfl⟩
    by_cases own : orgId = X
    · subst own
      refine iff_of_true (framed_own provisions) ?_
      intro ⟨otherId, otherData, other, another, _⟩
      exact other (single another).1
    · rw [framed_foreign_iff provisions own]
      constructor
      · intro kept ⟨otherId, otherData, _, another, writes⟩
        obtain ⟨rfl, rfl⟩ := single another
        exact kept writes
      · exact fun none writes => none ⟨orgId, data, own, provisions, writes⟩
  · have idle : verified env s reference = s.billing :=
      Billing.verify_idle (fun orgId data provisions => goes ⟨orgId, data, provisions⟩)
    rw [idle, withBilling_billing]
    refine iff_of_true (Framed.refl env X s) ?_
    intro ⟨orgId, data, _, provisions, _⟩
    exact goes ⟨orgId, data, provisions⟩

/-- A call that passes the guards comes to the verification. -/
theorem serve_verify (called : CalledBy env s request X) (reference : String) :
    serve env s ⟨request, .byOrganization (.verifyTransaction reference)⟩ =
      if env.accepts then s.withBilling (verified env s reference) else s := by
  obtain ⟨user, org, role, acts, permitted, _⟩ := called
  rw [serve_byOrganization (.verifyTransaction reference) acts permitted]
  have run : OrgEndpoint.run env user.id org.id s (.verifyTransaction reference) =
      verifyPayment env reference s := rfl
  rw [run]
  unfold committed
  cases result : verifyPayment env reference s with
  | ok after => rw [verifyPayment_eq_ok result]
  | error failure =>
    rw [verified_of_error result, withBilling_billing]
    exact (ite_self s).symm

/-- Over all states and calls, a verification leaves the other organizations
alone exactly when it does not verify a payment of one of them. -/
theorem framed_iff (env : ServiceEnvironment) (s : Platform) (request : Request)
    (reference : String) :
    (∀ X, CalledBy env s request X → Framed env X s (postVerify env s request reference)) ↔
      ∀ X, CalledBy env s request X → ¬ PaysForAnother env X s reference := by
  refine forall_congr' (fun X => imp_congr_right (fun called => ?_))
  unfold postVerify PaysForAnother
  by_cases bounds : 1 ≤ reference.length ∧ reference.length ≤ 200
  · rw [if_pos bounds, serve_verify called]
    cases accepts : env.accepts with
    | false => simp [Framed.refl]
    | true =>
      simp only [if_true, bounds, true_and, and_self]
      exact framed_verified_iff env X s reference
  · rw [if_neg bounds]
    exact iff_of_true (Framed.refl env X s) (fun pays => bounds pays.1)

/-! ## A member who knows the reference of another organization -/

/-- Paystack's report of a transaction that Beta initialized and paid. -/
def betaPayment : Json :=
  .obj [("status", .bool true), ("data", .obj [("status", .str "success"), ("amount", .int 1900),
    ("customer", .obj [("customer_code", .str "CUS_2")]),
    ("metadata", .obj [("org_id", .str betaIdText), ("plan", .str "starter")])])]

def paymentServer : ServiceEnvironment :=
  { plainServer oneTokenCredentials with
    billing := ⟨"sk_live", {}⟩
    paystack := fun reference =>
      if reference = "beta-ref" then .json betaPayment else .httpError }

/-- A member of Acme, and Beta on the free plan. -/
def acmeAndBeta : Platform where
  users := ⟨[⟨11, "m@acme.example", "M", "hash", true, false, false, 0⟩], by decide⟩
  organizations := ⟨[⟨1, "Acme", "acme", .free, false, 0⟩, ⟨2, "Beta", "beta", .free, false, 0⟩],
    by decide⟩
  members := ⟨[⟨31, 1, 11, .member, 0, false⟩], by decide⟩
  apiKeys := .empty
  workspace := ⟨.empty, .empty, .empty, .empty, .empty, .empty, .empty, .empty, .empty, .empty,
    .empty, .empty, .empty, .empty, .empty, .empty⟩
  community := ⟨.empty, .empty, .empty, .empty, .empty, .empty, .empty⟩
  partners := ⟨.empty, .empty, .empty, .empty⟩

def verifyRequest : Request where
  method := "POST"
  path := "/v1/billing/verify"
  authorization := some "Bearer eyJ.access"
  apiKey := none
  organizationId := some acmeIdText
  reliastraOrganization := none
  idempotencyKey := none
  clientHost := some "203.0.113.5"

/-- The member of Acme moves Beta to the plan Beta paid for. -/
theorem foreign_payment_verified :
    CalledBy paymentServer acmeAndBeta verifyRequest 1 ∧
      ¬ Framed paymentServer 1 acmeAndBeta
        (postVerify paymentServer acmeAndBeta verifyRequest "beta-ref") := by
  constructor
  · exact ⟨⟨11, "m@acme.example", "M", "hash", true, false, false, 0⟩,
      ⟨1, "Acme", "acme", .free, false, 0⟩, .member,
      ⟨some 1, .jwt 11, by decide, by decide, by decide⟩,
      by decide, rfl⟩
  · intro framed
    have beta : (⟨2, "Beta", "beta", .free, false, 0⟩ : Organization) ∈
        (postVerify paymentServer acmeAndBeta verifyRequest "beta-ref").organizations.rows :=
      (framed.organizations _ (by decide)).mpr (by decide)
    exact absurd beta (by decide)

end Reliastra.Guarantees.PaymentFrame
