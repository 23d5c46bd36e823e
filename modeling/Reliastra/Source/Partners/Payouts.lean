import Reliastra.Source.Partners.Commissions

/-!
# The payout service

Source: `app/modules/partners/payouts.py` with `payable_by_partner` and
`commissions_for_payout` of `app/modules/partners/repository.py`.
-/

namespace Reliastra.Source.Partners

open Reliastra.Library

/-- The filter of `payable_by_partner`. -/
def PayableOf (partnerId : Uuid) (c : PartnerCommission) : Prop :=
  c.partnerId = partnerId ∧ c.status = .payable ∧ c.payoutId = none

instance (partnerId : Uuid) : DecidablePred (PayableOf partnerId) := fun c =>
  inferInstanceAs (Decidable (c.partnerId = partnerId ∧ c.status = .payable ∧ c.payoutId = none))

/-- `payable_by_partner`: oldest first, in an order the database chooses among
commissions created at the same instant. -/
def Ledger.payableByPartner (s : Ledger) (order : OrderBy PartnerCommission.createdAt)
    (partnerId : Uuid) : List PartnerCommission :=
  order.arrange (s.commissions.rows.filter (fun c => decide (PayableOf partnerId c)))

/-- `sum(c.commission_amount_minor for c in commissions)`. -/
def totalMinor (commissions : List PartnerCommission) : Int :=
  (commissions.map (·.commissionAmountMinor)).sum

/-- `payable_balance`. -/
def Ledger.payableBalance (s : Ledger) (order : OrderBy PartnerCommission.createdAt)
    (partnerId : Uuid) : Int :=
  totalMinor (s.payableByPartner order partnerId)

/-- The loop of `create_payout` that reserves commissions until the amount is
covered. -/
def reserveLoop (payoutId : Uuid) : Int → List PartnerCommission → Ledger → Ledger
  | _, [], s => s
  | remaining, commission :: rest, s =>
    if remaining ≤ 0 then s
    else
      let take := min commission.commissionAmountMinor remaining
      reserveLoop payoutId (remaining - take) rest
        (s.updateCommissions [commission] [.payoutId (some payoutId)])

/-- The row `create_payout` adds. -/
def payoutOf (settings : PartnerSettings) (partnerId : Uuid) (amount : Int) (now : Instant)
    (newId : Uuid) : PartnerPayout :=
  { id := newId
    partnerId := partnerId
    amountMinor := amount
    currency := settings.defaultCurrency
    status := .pending
    period := some (periodMonth now)
    transactionReference := none
    paidAt := none }

def createPayout (settings : PartnerSettings) (partnerId : Uuid) (amountMinor : Option Int)
    (order : OrderBy PartnerCommission.createdAt) (now : Instant) (newId : Uuid) (s : Ledger) :
    Except Failure Ledger :=
  match s.profiles.get? partnerId with
  | none => .error (.app (resourceNotFoundException "Partner not found"))
  | some _ =>
    let payable := s.payableByPartner order partnerId
    let available := totalMinor payable
    let amount := amountMinor.getD available
    if amount ≤ 0 ∨ available < amount then
      .error (.app (validationException
        ("Payout amount must be between 1 and the payable balance (" ++ toString available ++ ")")))
    else if amountMinor = none ∧ available < settings.minimumPayoutMinor then
      .error (.app (validationException
        "Partner's payable balance is below the minimum payout threshold"))
    else match s.payouts.insert (payoutOf settings partnerId amount now newId) with
      | none => .error (.flush "partner_payouts_pkey")
      | some payouts => .ok (reserveLoop newId amount payable { s with payouts := payouts })

/-- `commissions_for_payout`: every commission that carries the payout's id,
whatever its status. -/
def Ledger.commissionsForPayout (s : Ledger) (payoutId : Uuid) : List PartnerCommission :=
  s.commissions.rows.filter (fun c => decide (c.payoutId = some payoutId))

/-- `PartnerPayoutRepository.update`. -/
def Ledger.updatePayout (s : Ledger) (payoutId : Uuid) (kwargs : List PayoutKwarg) : Ledger :=
  { s with payouts :=
      s.payouts.updateKey payoutId (·.update kwargs) (fun p => p.update_id kwargs) }

def processPayout (payoutId : Uuid) (action : String) (transactionReference : Option String)
    (now : Instant) (s : Ledger) : Except Failure Ledger :=
  match s.payouts.get? payoutId with
  | none => .error (.app (resourceNotFoundException "Payout not found"))
  | some payout =>
    if action = "mark_paid" then
      if transactionReference.getD "" = "" then
        .error (.app (validationException
          "transaction_reference is required to mark a payout paid"))
      else if ¬ FitsText 200 (transactionReference.getD "") then .error (.flush "DataError")
      else
        let s := s.updatePayout payout.id
          [.status (some .paid), .transactionReference transactionReference, .paidAt (some now)]
        .ok (s.updateCommissions (s.commissionsForPayout payout.id)
          [.status (some .paid), .paidAt (some now)])
    else if action = "mark_failed" then
      let s := s.updatePayout payout.id [.status (some .failed)]
      -- meant to return the reserved commissions to the payable pool
      .ok (s.updateCommissions (s.commissionsForPayout payout.id) [.payoutId none])
    else .error (.app (validationException ("Unsupported payout action: " ++ action)))

/-! ## The operations of the ledger -/

/-- One call of a ledger operation, with the clock reading, the new row id and
the result order its session happens to get. -/
inductive LedgerOp where
  | recordPayment (payment : Payment) (now : Instant) (newId : Uuid)
  | releasePayable (now : Instant)
  | reverseByReference (paymentReference reason : String)
  | reverseCommission (commissionId : Uuid) (reason : String)
  | handleChurn (organizationId : Uuid)
  | createPayout (partnerId : Uuid) (amountMinor : Option Int)
      (order : OrderBy PartnerCommission.createdAt) (now : Instant) (newId : Uuid)
  | processPayout (payoutId : Uuid) (action : String) (transactionReference : Option String)
      (now : Instant)

/-- What the session of an operation leaves to commit. -/
def LedgerOp.run (settings : PartnerSettings) (s : Ledger) : LedgerOp → Except Failure Ledger
  | .recordPayment payment now newId => Partners.recordPayment settings payment now newId s
  | .releasePayable now => .ok (Partners.releasePayable now s).1
  | .reverseByReference paymentReference reason =>
    (Partners.reverseByReference paymentReference reason s).map Prod.fst
  | .reverseCommission commissionId reason => Partners.reverseCommission commissionId reason s
  | .handleChurn organizationId => .ok (Partners.handleChurn organizationId s)
  | .createPayout partnerId amountMinor order now newId =>
    Partners.createPayout settings partnerId amountMinor order now newId s
  | .processPayout payoutId action transactionReference now =>
    Partners.processPayout payoutId action transactionReference now s

/-- The committed ledger after an operation: a failure rolls its session back. -/
def ledgerStep (settings : PartnerSettings) (s : Ledger) (op : LedgerOp) : Ledger :=
  match op.run settings s with
  | .ok after => after
  | .error _ => s

end Reliastra.Source.Partners

/-!
## The partner's dashboard

Source: `get_dashboard` of `app/modules/partners/service.py` with
`sum_amount_by_partner` and `count_by_partner` of
`app/modules/partners/repository.py`. The link and the clicks are left out: they
come from tables the ledger does not have.
-/

namespace Reliastra.Source.Partners

open Reliastra.Library

/-- The filters of `sum_amount_by_partner`; an empty list of statuses is no filter. -/
structure AmountFilter where
  statuses : List CommissionStatus
  excludeReversed : Bool := true
  excludeReserved : Bool := false
  period : Option String := none

def AmountFilter.Selects (filter : AmountFilter) (partnerId : Uuid) (c : PartnerCommission) : Prop :=
  c.partnerId = partnerId ∧ (filter.statuses ≠ [] → c.status ∈ filter.statuses) ∧
    (filter.excludeReversed = true → c.status ≠ .reversed) ∧
    (filter.excludeReserved = true → c.payoutId = none) ∧
    ∀ period ∈ filter.period, c.period = period

instance (filter : AmountFilter) (partnerId : Uuid) : DecidablePred (filter.Selects partnerId) :=
  fun c => inferInstanceAs (Decidable
    (c.partnerId = partnerId ∧ (filter.statuses ≠ [] → c.status ∈ filter.statuses) ∧
      (filter.excludeReversed = true → c.status ≠ .reversed) ∧
      (filter.excludeReserved = true → c.payoutId = none) ∧
      ∀ period ∈ filter.period, c.period = period))

def Ledger.sumAmountByPartner (s : Ledger) (partnerId : Uuid) (filter : AmountFilter) : Int :=
  sumWhere (filter.Selects partnerId) PartnerCommission.commissionAmountMinor s.commissions.rows

def Ledger.countByPartner (s : Ledger) (partnerId : Uuid) (status : Option ReferralStatus) : Nat :=
  s.referrals.rows.countP (fun r => r.partnerId = partnerId ∧ ∀ wanted ∈ status, r.status = wanted)

/-- `PartnerDashboardResponse`. -/
structure PartnerDashboard where
  signups : Nat
  activePaidCustomers : Nat
  monthlyCommissionMinor : Int
  pendingCommissionMinor : Int
  totalEarnedMinor : Int
  totalPaidMinor : Int
  currency : String
  deriving DecidableEq, Repr

def monthlyFilter (now : Instant) : AmountFilter := { statuses := [], period := some (periodMonth now) }

def pendingFilter : AmountFilter := { statuses := [.pending, .payable] }

def earnedFilter : AmountFilter := { statuses := [] }

def paidFilter : AmountFilter := { statuses := [.paid] }

/-- `get_dashboard` for a profile that was found. -/
def dashboardOf (settings : PartnerSettings) (profile : PartnerProfile) (now : Instant) (s : Ledger) :
    PartnerDashboard where
  signups := s.countByPartner profile.id none
  activePaidCustomers := s.countByPartner profile.id (some .paid)
  monthlyCommissionMinor := s.sumAmountByPartner profile.id (monthlyFilter now)
  pendingCommissionMinor := s.sumAmountByPartner profile.id pendingFilter
  totalEarnedMinor := s.sumAmountByPartner profile.id earnedFilter
  totalPaidMinor := s.sumAmountByPartner profile.id paidFilter
  currency := settings.defaultCurrency

def getDashboard (settings : PartnerSettings) (userId : Uuid) (now : Instant) (s : Ledger) :
    Except Failure PartnerDashboard :=
  match s.profiles.rows.find? (fun p => p.userId = userId) with
  | none => .error (.app (resourceNotFoundException
      "Partner profile not found — activate the referral program first"))
  | some profile => .ok (dashboardOf settings profile now s)

end Reliastra.Source.Partners
