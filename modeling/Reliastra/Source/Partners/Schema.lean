import Reliastra.Library.Table
import Reliastra.Source.Core.Permissions

/-!
# Partner program: constants, rows and the ledger

Source: `app/modules/partners/constants.py`, `app/modules/partners/models.py`,
the `PARTNER_*` settings of `app/config.py`, and the `update` helpers of
`app/modules/partners/repository.py`. Each `update` helper loops over its
keyword arguments and skips a value of `None`; the model keeps that loop, so
passing `None` changes nothing here either.
-/

namespace Reliastra.Source.Partners

open Reliastra.Library

inductive PartnerStatus where
  | active | suspended | banned
  deriving DecidableEq, Repr

/-- `EARNING_STATUSES`. -/
def earningStatuses : List PartnerStatus := [.active]

inductive ReferralStatus where
  | referred | signedUp | paid | churned
  deriving DecidableEq, Repr

inductive CommissionStatus where
  | pending | payable | paid | reversed
  deriving DecidableEq, Repr

inductive PayoutStatus where
  | pending | processing | paid | failed
  deriving DecidableEq, Repr

theorem defaultRate_inRange : (0 : Int) ≤ 30 ∧ (30 : Int) ≤ 100 := by decide

theorem defaultHold_inRange : (0 : Int) ≤ 30 ∧ (30 : Int) ≤ 365 := by decide

theorem defaultMinimum_nonneg : (0 : Int) ≤ 5000 := by decide

/-- The settings with the bounds their fields validate. -/
structure PartnerSettings where
  commissionRate : Int := 30
  commissionHoldDays : Int := 30
  minimumPayoutMinor : Int := 5000
  defaultCurrency : String := "USD"
  rateInRange : 0 ≤ commissionRate ∧ commissionRate ≤ 100 := by
    first | exact Reliastra.Source.Partners.defaultRate_inRange | decide
  holdInRange : 0 ≤ commissionHoldDays ∧ commissionHoldDays ≤ 365 := by
    first | exact Reliastra.Source.Partners.defaultHold_inRange | decide
  minimumNonneg : 0 ≤ minimumPayoutMinor := by
    first | exact Reliastra.Source.Partners.defaultMinimum_nonneg | decide

structure PartnerProfile where
  id : Uuid
  userId : Uuid
  status : PartnerStatus
  deriving DecidableEq, Repr

structure PartnerReferral where
  id : Uuid
  partnerId : Uuid
  referredUserId : Uuid
  status : ReferralStatus
  subscribedAt : Option Instant
  deriving DecidableEq, Repr

structure PartnerCommission where
  id : Uuid
  partnerId : Uuid
  referralId : Option Uuid
  billingEventId : String
  period : String
  subscriptionAmountMinor : Int
  commissionAmountMinor : Int
  currency : String
  rate : Int
  status : CommissionStatus
  payableAt : Option Instant
  paidAt : Option Instant
  reversalReason : Option String
  payoutId : Option Uuid
  createdAt : Instant
  deriving DecidableEq, Repr

structure PartnerPayout where
  id : Uuid
  partnerId : Uuid
  amountMinor : Int
  currency : String
  status : PayoutStatus
  period : Option String
  transactionReference : Option String
  paidAt : Option Instant
  deriving DecidableEq, Repr

/-! ## The update helpers -/

/-- A keyword argument of `PartnerCommissionRepository.update`. -/
inductive CommissionKwarg where
  | status (value : Option CommissionStatus)
  | paidAt (value : Option Instant)
  | reversalReason (value : Option String)
  | payoutId (value : Option Uuid)

def PartnerCommission.setattr (c : PartnerCommission) : CommissionKwarg → PartnerCommission
  | .status (some value) => { c with status := value }
  | .paidAt (some value) => { c with paidAt := some value }
  | .reversalReason (some value) => { c with reversalReason := some value }
  | .payoutId (some value) => { c with payoutId := some value }
  -- `if value is not None`
  | _ => c

def PartnerCommission.update (c : PartnerCommission) (kwargs : List CommissionKwarg) :
    PartnerCommission :=
  kwargs.foldl PartnerCommission.setattr c

/-- A keyword argument of `PartnerPayoutRepository.update`. -/
inductive PayoutKwarg where
  | status (value : Option PayoutStatus)
  | transactionReference (value : Option String)
  | paidAt (value : Option Instant)

def PartnerPayout.setattr (p : PartnerPayout) : PayoutKwarg → PartnerPayout
  | .status (some value) => { p with status := value }
  | .transactionReference (some value) => { p with transactionReference := some value }
  | .paidAt (some value) => { p with paidAt := some value }
  | _ => p

def PartnerPayout.update (p : PartnerPayout) (kwargs : List PayoutKwarg) : PartnerPayout :=
  kwargs.foldl PartnerPayout.setattr p

/-- A keyword argument of `PartnerReferralRepository.update`. -/
inductive ReferralKwarg where
  | status (value : Option ReferralStatus)
  | subscribedAt (value : Option Instant)

def PartnerReferral.setattr (r : PartnerReferral) : ReferralKwarg → PartnerReferral
  | .status (some value) => { r with status := value }
  | .subscribedAt (some value) => { r with subscribedAt := some value }
  | _ => r

def PartnerReferral.update (r : PartnerReferral) (kwargs : List ReferralKwarg) : PartnerReferral :=
  kwargs.foldl PartnerReferral.setattr r

section UpdateFrame
variable (c : PartnerCommission) (k : CommissionKwarg) (kwargs : List CommissionKwarg)

/-- No keyword argument reaches the identity, the owner, the payment or the
amount of a commission. -/
theorem PartnerCommission.setattr_frame :
    (c.setattr k).id = c.id ∧ (c.setattr k).partnerId = c.partnerId ∧
      (c.setattr k).billingEventId = c.billingEventId ∧
      (c.setattr k).commissionAmountMinor = c.commissionAmountMinor := by
  cases k with
  | status value => cases value <;> exact ⟨rfl, rfl, rfl, rfl⟩
  | paidAt value => cases value <;> exact ⟨rfl, rfl, rfl, rfl⟩
  | reversalReason value => cases value <;> exact ⟨rfl, rfl, rfl, rfl⟩
  | payoutId value => cases value <;> exact ⟨rfl, rfl, rfl, rfl⟩

theorem PartnerCommission.update_frame :
    (c.update kwargs).id = c.id ∧ (c.update kwargs).partnerId = c.partnerId ∧
      (c.update kwargs).billingEventId = c.billingEventId ∧
      (c.update kwargs).commissionAmountMinor = c.commissionAmountMinor := by
  unfold PartnerCommission.update
  induction kwargs generalizing c with
  | nil => exact ⟨rfl, rfl, rfl, rfl⟩
  | cons k rest ih =>
    have tail := ih (c.setattr k)
    have head := c.setattr_frame k
    simp only [List.foldl_cons]
    exact ⟨tail.1.trans head.1, tail.2.1.trans head.2.1, tail.2.2.1.trans head.2.2.1,
      tail.2.2.2.trans head.2.2.2⟩

@[simp] theorem PartnerCommission.update_id : (c.update kwargs).id = c.id :=
  (c.update_frame kwargs).1

@[simp] theorem PartnerCommission.update_partnerId : (c.update kwargs).partnerId = c.partnerId :=
  (c.update_frame kwargs).2.1

@[simp] theorem PartnerCommission.update_billingEventId :
    (c.update kwargs).billingEventId = c.billingEventId :=
  (c.update_frame kwargs).2.2.1

@[simp] theorem PartnerCommission.update_amount :
    (c.update kwargs).commissionAmountMinor = c.commissionAmountMinor :=
  (c.update_frame kwargs).2.2.2

end UpdateFrame

@[simp] theorem PartnerPayout.update_id (p : PartnerPayout) (kwargs : List PayoutKwarg) :
    (p.update kwargs).id = p.id := by
  unfold PartnerPayout.update
  induction kwargs generalizing p with
  | nil => rfl
  | cons k rest ih =>
    rw [List.foldl_cons, ih]
    cases k with
    | status value => cases value <;> rfl
    | transactionReference value => cases value <;> rfl
    | paidAt value => cases value <;> rfl

@[simp] theorem PartnerReferral.update_id (r : PartnerReferral) (kwargs : List ReferralKwarg) :
    (r.update kwargs).id = r.id := by
  unfold PartnerReferral.update
  induction kwargs generalizing r with
  | nil => rfl
  | cons k rest ih =>
    rw [List.foldl_cons, ih]
    cases k with
    | status value => cases value <;> rfl
    | subscribedAt value => cases value <;> rfl

/-! ## The ledger -/

/-- The tables the partner services read and write. Users, codes and click
counts are left out: no operation of the ledger reads them. -/
structure Ledger where
  members : List Organizations.OrganizationMember
  profiles : Table PartnerProfile.id
  referrals : Table PartnerReferral.id
  commissions : Table PartnerCommission.id
  payouts : Table PartnerPayout.id

/-- A ledger of no commission and no payout over the given partners and their
referred customers. -/
def Ledger.empty (members : List Organizations.OrganizationMember)
    (profiles : Table PartnerProfile.id) (referrals : Table PartnerReferral.id) : Ledger :=
  ⟨members, profiles, referrals, .empty, .empty⟩

end Reliastra.Source.Partners
