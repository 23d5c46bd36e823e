import Mathlib.Algebra.BigOperators.Group.List.Basic
import Reliastra.Guarantees.PayoutConservation
import Reliastra.Source.Partners.Payouts
import Reliastra.Source.Partners.Program

/-!
# One currency or several

A commission has the currency of its payment, a payout and a dashboard the default
of the settings, and no sum asks for the currency. So the books stay unmixed
exactly as long as every commission is recorded, and every payout created, in the
currency the totals are shown in.
-/

namespace Reliastra.Guarantees.CurrencyMixing

open Reliastra.Library Reliastra.Source Reliastra.Source.Partners PayoutConservation

/-! ## The law -/

/-- What the rows a filter selects add up to in one currency. -/
def amountInCurrency (s : Ledger) (partnerId : Uuid) (filter : AmountFilter) (currency : String) :
    Int :=
  sumWhere (fun c => filter.Selects partnerId c ∧ c.currency = currency)
    PartnerCommission.commissionAmountMinor s.commissions.rows

/-- The totals of a dashboard add nothing of another currency. -/
structure DashboardUnmixed (s : Ledger) (partnerId : Uuid) (now : Instant)
    (dashboard : PartnerDashboard) : Prop where
  monthly : dashboard.monthlyCommissionMinor =
    amountInCurrency s partnerId (monthlyFilter now) dashboard.currency
  pending : dashboard.pendingCommissionMinor =
    amountInCurrency s partnerId pendingFilter dashboard.currency
  earned : dashboard.totalEarnedMinor =
    amountInCurrency s partnerId earnedFilter dashboard.currency
  paid : dashboard.totalPaidMinor = amountInCurrency s partnerId paidFilter dashboard.currency

/-- The amount of a payout is made up of parts of what it holds in its currency. -/
def PaidInCurrency (s : Ledger) (p : PartnerPayout) : Prop :=
  ∃ part : PartnerCommission → Int,
    (∀ c ∈ s.commissions.rows, 0 ≤ part c ∧ part c ≤ c.commissionAmountMinor) ∧
      p.amountMinor =
        sumWhere (fun c => c.payoutId = some p.id ∧ c.currency = p.currency) part s.commissions.rows

structure Unmixed (settings : PartnerSettings) (s : Ledger) : Prop where
  reserved : ∀ c ∈ s.commissions.rows, ∀ p ∈ s.payouts.rows, c.payoutId = some p.id →
    c.currency = p.currency
  payout : ∀ p ∈ s.payouts.rows, PaidInCurrency s p
  balance : ∀ partnerId order, s.payableBalance order partnerId =
    sumWhere (fun c => PayableOf partnerId c ∧ c.currency = settings.defaultCurrency)
      PartnerCommission.commissionAmountMinor s.commissions.rows
  dashboard : ∀ profile ∈ s.profiles.rows, ∀ now,
    DashboardUnmixed s profile.id now (dashboardOf settings profile now s)

/-- A commission is recorded, and a payout created, in the currency of the totals. -/
def InCurrency (settings : PartnerSettings) (s : Ledger) : ProgramOp → Prop
  | .ledger used (.recordPayment payment now newId) => ∀ referral partner,
      EarnsCommission used payment s referral partner → CommissionFits used payment now newId s →
        (commissionOf used payment partner referral now newId).currency = settings.defaultCurrency
  | .ledger used (.createPayout partnerId amountMinor order _ newId) =>
    PayoutAccepted used s partnerId amountMinor order newId →
      used.defaultCurrency = settings.defaultCurrency
  | _ => True

/-! ## The invariant -/

structure OneCurrency (currency : String) (s : Ledger) : Prop where
  wellFormed : WellFormed s
  commission : ∀ c ∈ s.commissions.rows, c.currency = currency
  payout : ∀ p ∈ s.payouts.rows, p.currency = currency
  covered : ∀ p ∈ s.payouts.rows, p.amountMinor ≤
    sumWhere (fun c => c.payoutId = some p.id) PartnerCommission.commissionAmountMinor
      s.commissions.rows

variable {settings used : PartnerSettings} {s after : Ledger}

theorem OneCurrency.sum_eq (one : OneCurrency settings.defaultCurrency s)
    (p : PartnerCommission → Prop) [DecidablePred p] :
    sumWhere p PartnerCommission.commissionAmountMinor s.commissions.rows =
      sumWhere (fun c => p c ∧ c.currency = settings.defaultCurrency)
        PartnerCommission.commissionAmountMinor s.commissions.rows :=
  sumWhere_congr _ (fun c member =>
    ⟨⟨fun holds => ⟨holds, one.commission c member⟩, And.left⟩, fun _ => rfl⟩)

theorem OneCurrency.unmixed (one : OneCurrency settings.defaultCurrency s) :
    Unmixed settings s := by
  refine ⟨?_, ?_, ?_, ?_⟩
  · intro c member p place _
    rw [one.commission c member, one.payout p place]
  · intro p place
    apply sumWhere_exists_parts p.amountMinor s.commissions.rows s.commissions.unique.of_map
      (one.wellFormed.payout p place).positive.le
    · exact fun c member => (one.wellFormed.commission c member).positive.le
    · rw [one.payout p place, ← one.sum_eq]
      exact one.covered p place
  · intro partnerId order
    rw [payableBalance_eq]
    exact one.sum_eq _
  · intro profile _ now
    exact ⟨one.sum_eq _, one.sum_eq _, one.sum_eq _, one.sum_eq _⟩

/-! ## One step -/

/-- A commission that was recorded met the columns of its table. -/
theorem fits_of_recorded {payment : Payment} {now : Instant} {newId : Uuid}
    {referral : PartnerReferral} {partner : PartnerProfile}
    (recorded : commissionOf used payment partner referral now newId ∈
      (ledgerStep used s (.recordPayment payment now newId)).commissions.rows)
    (absent : commissionOf used payment partner referral now newId ∉ s.commissions.rows) :
    CommissionFits used payment now newId s := by
  rw [← recordPayment_isOk_iff]
  cases result : recordPayment used payment now newId s with
  | ok after => exact ⟨after, rfl⟩
  | error failure =>
    have refused : LedgerOp.run used s (.recordPayment payment now newId) = .error failure := result
    rw [ledgerStep_of_error refused] at recorded
    exact absurd recorded absent

theorem oneCurrency_ledger (one : OneCurrency settings.defaultCurrency s) (op : LedgerOp)
    (ok : InCurrency settings s (.ledger used op)) :
    OneCurrency settings.defaultCurrency (ledgerStep used s op) := by
  refine ⟨wellFormed_ledgerStep used s op one.wellFormed, ?_, ?_, ?_⟩
  · intro d stored
    rcases (entriesKept_step s (.ledger used op)).origin d stored with ⟨c, old, same⟩ | recorded
    · rw [same.currency]
      exact one.commission c old
    · obtain ⟨used', payment, now, newId, referral, partner, here, earns, rfl⟩ := recorded
      cases here
      apply ok referral partner earns
      apply fits_of_recorded stored
      intro already
      apply earns.first
      unfold Ledger.commissionOfEvent
      rw [List.find?_isSome]
      exact ⟨_, already, decide_eq_true ⟨rfl, rfl⟩⟩
  · intro r place
    rcases payouts_step op place with ⟨p, old, _, _, same⟩ | created
    · rw [same]
      exact one.payout p old
    · obtain ⟨partnerId, amountMinor, order, now, newId, rfl, accepted, rfl⟩ := created
      exact ok accepted
  · intro r place
    rcases payouts_step op place with ⟨p, old, id, amount, _⟩ | created
    · rw [amount, id, held_step used op old]
      exact one.covered p old
    · obtain ⟨partnerId, amountMinor, order, now, newId, rfl, accepted, rfl⟩ := created
      rw [(step_createPayout_accepted now accepted).2]
      exact (reservedPrefix_covers _ _ accepted.covered).trans
        (sum_stamped one.wellFormed accepted.fresh).ge

theorem oneCurrency_step (s : Ledger) (op : ProgramOp)
    (one : OneCurrency settings.defaultCurrency s) (ok : InCurrency settings s op) :
    OneCurrency settings.defaultCurrency (programStep s op) := by
  rcases programStep_cases s op with ⟨used, ledgerOp, rfl⟩ | same
  · exact oneCurrency_ledger one ledgerOp ok
  · refine ⟨⟨?_, ?_⟩, ?_, ?_, ?_⟩
    · rw [same.commissions, same.payouts]
      exact one.wellFormed.commission
    · rw [same.payouts]
      exact one.wellFormed.payout
    · rw [same.commissions]
      exact one.commission
    · rw [same.payouts]
      exact one.payout
    · rw [same.payouts, same.commissions]
      exact one.covered

/-! ## A step in another currency -/

theorem recordPayment_profiles {payment : Payment} {now : Instant} {newId : Uuid}
    {referral : PartnerReferral} {partner : PartnerProfile}
    (earns : EarnsCommission used payment s referral partner)
    (success : recordPayment used payment now newId s = .ok after) :
    after.profiles = s.profiles := by
  obtain ⟨referrals, same⟩ := recordPayment_earns earns now newId
  rw [same] at success
  unfold Ledger.createCommission at success
  split at success
  · cases success
  split at success
  · cases success
  split at success
  · cases success
  · cases success
    rfl

/-- The total the partner has earned adds a commission of another currency. -/
theorem mixed_of_recording (wf : WellFormed s) {payment : Payment} {now : Instant} {newId : Uuid}
    {referral : PartnerReferral} {partner : PartnerProfile}
    (earns : EarnsCommission used payment s referral partner)
    (fits : CommissionFits used payment now newId s)
    (foreign : (commissionOf used payment partner referral now newId).currency ≠
      settings.defaultCurrency) :
    ¬ Unmixed settings (ledgerStep used s (.recordPayment payment now newId)) := by
  obtain ⟨after, success⟩ := (recordPayment_isOk_iff used payment now newId s).mpr fits
  have done : LedgerOp.run used s (.recordPayment payment now newId) = .ok after := success
  have wf' := wellFormed_ledgerStep used s (.recordPayment payment now newId) wf
  rw [ledgerStep_of_ok done] at wf' ⊢
  intro unmixed
  have rows := recordPayment_earned earns success
  have enrolled : partner ∈ after.profiles.rows := by
    rw [recordPayment_profiles earns success]
    exact ((Table.get?_eq_some_iff _ _ _).mp earns.enrolled).1
  have earned := (unmixed.dashboard partner enrolled now).earned
  have less : amountInCurrency after partner.id earnedFilter settings.defaultCurrency <
      after.sumAmountByPartner partner.id earnedFilter := by
    apply sumWhere_lt_of_drop
    · exact fun c _ both => both.1
    · exact fun c member _ => (wf'.commission c member).positive
    · refine ⟨commissionOf used payment partner referral now newId, ?_, ?_, fun both =>
        foreign both.2⟩
      · rw [rows]
        exact List.mem_append_right _ List.mem_cons_self
      · exact ⟨rfl, fun some => absurd rfl some, nofun, nofun, nofun⟩
  exact less.ne earned.symm

/-- The first commission a payout reserves has another currency. -/
theorem mixed_of_payout (one : OneCurrency settings.defaultCurrency s) {partnerId newId : Uuid}
    {amountMinor : Option Int} {order : OrderBy PartnerCommission.createdAt} {now : Instant}
    (accepted : PayoutAccepted used s partnerId amountMinor order newId)
    (foreign : used.defaultCurrency ≠ settings.defaultCurrency) :
    ¬ Unmixed settings (ledgerStep used s (.createPayout partnerId amountMinor order now newId)) := by
  obtain ⟨payouts, commissions⟩ := step_createPayout_accepted now accepted
  intro unmixed
  have nonempty : s.reservedBy partnerId amountMinor order ≠ [] := by
    intro none
    have covers := reservedPrefix_covers _ _ accepted.covered
    have reserved : reservedPrefix (s.requestedAmount partnerId amountMinor order)
      (s.payableByPartner order partnerId) = [] := none
    rw [reserved] at covers
    have positive := accepted.positive
    simp only [totalMinor, List.map_nil, List.sum_nil] at covers
    omega
  obtain ⟨c, reserved⟩ := List.exists_mem_of_ne_nil _ nonempty
  have stored := (mem_of_mem_reservedBy reserved).1
  have stamped := unmixed.reserved { c with payoutId := some newId } (by
    rw [commissions, List.mem_map]
    exact ⟨c, stored, if_pos (List.mem_map_of_mem reserved)⟩)
    (payoutOf used partnerId (s.requestedAmount partnerId amountMinor order) now newId) (by
    rw [payouts]
    exact List.mem_append_right _ List.mem_cons_self) rfl
  exact foreign (stamped.symm.trans (one.commission c stored))

theorem mixed_step (s : Ledger) (op : ProgramOp) (one : OneCurrency settings.defaultCurrency s)
    (missed : ¬ InCurrency settings s op) : ¬ Unmixed settings (programStep s op) := by
  intro unmixed
  apply missed
  unfold InCurrency
  split
  · intro referral partner earns fits
    by_contra foreign
    exact mixed_of_recording one.wellFormed earns fits foreign unmixed
  · intro accepted
    by_contra foreign
    exact mixed_of_payout one accepted foreign unmixed
  · trivial

/-! ## Every reachable ledger -/

/-- The books of a program that began without commissions are unmixed in all its
states if and only if every commission is recorded and every payout created in the
currency the totals are shown in. -/
theorem unmixed_iff (settings : PartnerSettings) (members : List Organizations.OrganizationMember)
    (profiles : Table PartnerProfile.id) (referrals : Table PartnerReferral.id)
    (run : List ProgramOp) :
    (∀ before after, run = before ++ after →
        Unmixed settings (Run.exec programStep (.empty members profiles referrals) before)) ↔
      Run.AllSteps programStep (InCurrency settings) (.empty members profiles referrals) run := by
  have initial : OneCurrency settings.defaultCurrency (.empty members profiles referrals) :=
    ⟨wellFormed_empty members profiles referrals, fun _ member => absurd member List.not_mem_nil,
      fun _ member => absurd member List.not_mem_nil,
      fun _ member => absurd member List.not_mem_nil⟩
  exact Run.forall_states_iff_allSteps (fun _ => OneCurrency.unmixed) oneCurrency_step mixed_step _
    run initial

/-- A payment in naira: the payout and the dashboard count its kobo as cents. -/
theorem naira_paid_in_dollars :
    ¬ Unmixed {} (Run.exec programStep oneCustomer
      [.ledger {} (.recordPayment ⟨1, 4900, "NGN", "ref-1", none⟩ 0 100)]) := by
  intro unmixed
  have earned := (unmixed.dashboard ⟨5, 50, .active⟩ (by decide) 0).earned
  revert earned
  decide

end Reliastra.Guarantees.CurrencyMixing
