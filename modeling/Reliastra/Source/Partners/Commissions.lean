import Reliastra.Source.Partners.Schema
import Reliastra.Source.Core.Text

/-!
# The commission service

Source: `app/modules/partners/commissions.py`, `apply_rate` of
`app/modules/partners/service.py` and the queries of
`app/modules/partners/repository.py` it calls. An operation answers with the
ledger its session would commit, or with the failure that rolls it back. Audit
log rows and log lines are left out: nothing reads them back.
-/

namespace Reliastra.Source.Partners

open Reliastra.Library Organizations

/-- Half-up rounding on integers; `//` floors, and so does division by 100. -/
def applyRate (amountMinor ratePct : Int) : Int := (amountMinor * ratePct + 50) / 100

/-- `_org_owner`: the first member with the owner's role. -/
def Ledger.orgOwner (s : Ledger) (organizationId : Uuid) : Option Uuid :=
  ((listMembers s.members organizationId).find? (fun m => m.role = .owner)).map (·.userId)

def Ledger.referralOfUser (s : Ledger) (referredUserId : Uuid) : Option PartnerReferral :=
  s.referrals.rows.find? (fun r => r.referredUserId = referredUserId)

/-- `get_by_billing_event`. -/
def Ledger.commissionOfEvent (s : Ledger) (billingEventId : String) (partnerId : Uuid) :
    Option PartnerCommission :=
  s.commissions.rows.find? (fun c => c.billingEventId = billingEventId ∧ c.partnerId = partnerId)

/-- `PartnerCommissionRepository.create`: the insert meets the column types, the
primary key and `uq_partner_commissions_idempotency`. -/
def Ledger.createCommission (s : Ledger) (row : PartnerCommission) : Except Failure Ledger :=
  if ¬ (FitsText 200 row.billingEventId ∧ FitsText 3 row.currency ∧
      FitsBigint row.subscriptionAmountMinor) then .error (.flush "DataError")
  else if (s.commissionOfEvent row.billingEventId row.partnerId).isSome then
    .error (.flush "uq_partner_commissions_idempotency")
  else match s.commissions.insert row with
    | none => .error (.flush "partner_commissions_pkey")
    | some commissions => .ok { s with commissions := commissions }

/-- `PartnerCommissionRepository.update` on each of the given objects. -/
def Ledger.updateCommissions (s : Ledger) (objects : List PartnerCommission)
    (kwargs : List CommissionKwarg) : Ledger :=
  { s with commissions :=
      s.commissions.updateEach objects (·.update kwargs) (fun c => c.update_id kwargs) }

/-- The arguments of `record_payment`; the provider's name only reaches the
audit log. -/
structure Payment where
  organizationId : Uuid
  collectedMinor : Int
  currency : String
  paymentReference : String
  paidAt : Option Instant
  deriving DecidableEq, Repr

/-- The row `record_payment` adds for a referred payment. -/
def commissionOf (settings : PartnerSettings) (payment : Payment) (partner : PartnerProfile)
    (referral : PartnerReferral) (now : Instant) (newId : Uuid) : PartnerCommission :=
  let eventAt := payment.paidAt.getD now
  let currency := Text.upper (Text.slice payment.currency 3)
  { id := newId
    partnerId := partner.id
    referralId := some referral.id
    billingEventId := payment.paymentReference
    period := periodMonth eventAt
    subscriptionAmountMinor := payment.collectedMinor
    commissionAmountMinor := applyRate payment.collectedMinor settings.commissionRate
    currency := if currency = "" then settings.defaultCurrency else currency
    rate := settings.commissionRate
    status := .pending
    payableAt := some (eventAt + daysToMicros settings.commissionHoldDays)
    paidAt := none
    reversalReason := none
    payoutId := none
    createdAt := now }

def recordPayment (settings : PartnerSettings) (payment : Payment) (now : Instant) (newId : Uuid)
    (s : Ledger) : Except Failure Ledger :=
  if payment.paymentReference = "" ∨ payment.collectedMinor ≤ 0 then .ok s
  else match s.orgOwner payment.organizationId with
  | none => .ok s
  | some owner =>
    match s.referralOfUser owner with
    | none => .ok s
    | some referral =>
      if referral.status = .churned then .ok s
      else match s.profiles.get? referral.partnerId with
      | none => .ok s
      | some partner =>
        if partner.status ∉ earningStatuses then .ok s
        else if (s.commissionOfEvent payment.paymentReference partner.id).isSome then .ok s
        else if applyRate payment.collectedMinor settings.commissionRate ≤ 0 then .ok s
        else
          -- the first confirmed payment makes the referral a paying customer
          let referrals :=
            if referral.status = .signedUp then
              s.referrals.updateKey referral.id
                (·.update [.status (some .paid), .subscribedAt (some (payment.paidAt.getD now))])
                (fun r => r.update_id _)
            else s.referrals
          { s with referrals := referrals }.createCommission
            (commissionOf settings payment partner referral now newId)

/-- The arguments both reversals pass to `update`; `payout_id=None` is among
them. -/
def reversalKwargs (reason : String) : List CommissionKwarg :=
  [.status (some .reversed), .reversalReason (some reason), .payoutId none]

/-- A commission `reverse_by_reference` selects. -/
def ReversibleByReference (paymentReference : String) (c : PartnerCommission) : Prop :=
  c.billingEventId = paymentReference ∧ c.status ≠ .reversed

instance (paymentReference : String) : DecidablePred (ReversibleByReference paymentReference) :=
  fun c => inferInstanceAs (Decidable (c.billingEventId = paymentReference ∧ c.status ≠ .reversed))

/-- `reverse_by_reference`, with the number of commissions it reversed. -/
def reverseByReference (paymentReference reason : String) (s : Ledger) :
    Except Failure (Ledger × Nat) :=
  if paymentReference = "" then .ok (s, 0)
  else
    let commissions :=
      s.commissions.rows.filter (fun c => decide (ReversibleByReference paymentReference c))
    if commissions ≠ [] ∧ ¬ FitsText 100 reason then .error (.flush "DataError")
    else .ok (s.updateCommissions commissions (reversalKwargs reason), commissions.length)

def reverseCommission (commissionId : Uuid) (reason : String) (s : Ledger) :
    Except Failure Ledger :=
  match s.commissions.get? commissionId with
  | none => .error (.app (resourceNotFoundException "Commission not found"))
  | some commission =>
    if commission.status = .reversed then .ok s
    else
      let reason := if reason = "" then "admin" else reason
      if ¬ FitsText 100 reason then .error (.flush "DataError")
      else .ok (s.updateCommissions [commission] (reversalKwargs reason))

/-- `pending_past_hold`. -/
def PendingPastHold (now : Instant) (c : PartnerCommission) : Prop :=
  c.status = .pending ∧ ∃ payableAt ∈ c.payableAt, payableAt ≤ now

instance (now : Instant) : DecidablePred (PendingPastHold now) := fun c =>
  inferInstanceAs (Decidable (c.status = .pending ∧ ∃ payableAt ∈ c.payableAt, payableAt ≤ now))

/-- `release_payable`, with the number of commissions it promoted. -/
def releasePayable (now : Instant) (s : Ledger) : Ledger × Nat :=
  let pending := s.commissions.rows.filter (fun c => decide (PendingPastHold now c))
  (s.updateCommissions pending [.status (some .payable)], pending.length)

/-- `handle_churn`: future accrual stops, recorded commissions stay. -/
def handleChurn (organizationId : Uuid) (s : Ledger) : Ledger :=
  match s.orgOwner organizationId with
  | none => s
  | some owner =>
    match s.referralOfUser owner with
    | none => s
    | some referral =>
      if referral.status = .churned then s
      else
        let referrals := s.referrals.updateKey referral.id
          (·.update [.status (some .churned)]) (fun r => r.update_id _)
        { s with referrals := referrals }

end Reliastra.Source.Partners
