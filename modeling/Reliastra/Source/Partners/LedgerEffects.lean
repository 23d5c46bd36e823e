import Mathlib.Algebra.BigOperators.Group.List.Basic
import Reliastra.Source.Partners.Payouts

/-!
# What one ledger operation does to the tables

One specification for each operation, read off its definition: which requests
take effect, and how the rows of the commission and payout tables change. The
invariants and the guarantees are derived from these and unfold no operation.
-/

namespace Reliastra.Source.Partners

open Reliastra.Library

/-! ## The updates the operations make -/

/-- `payout_id=None` is skipped, so the commission keeps its reservation. -/
theorem update_detach_skipped (c : PartnerCommission) : c.update [.payoutId none] = c := rfl

theorem updateCommissions_rows (s : Ledger) (objects : List PartnerCommission)
    (kwargs : List CommissionKwarg)
    (settles : ∀ c : PartnerCommission, (c.update kwargs).update kwargs = c.update kwargs) :
    (s.updateCommissions objects kwargs).commissions.rows =
      s.commissions.rows.map
        (fun c => if c.id ∈ objects.map (·.id) then c.update kwargs else c) :=
  Table.updateEach_rows _ _ _ _ settles

theorem updateCommissions_filter_rows (s : Ledger) (p : PartnerCommission → Prop) [DecidablePred p]
    (kwargs : List CommissionKwarg)
    (settles : ∀ c : PartnerCommission, (c.update kwargs).update kwargs = c.update kwargs) :
    (s.updateCommissions (s.commissions.rows.filter (fun c => decide (p c)))
        kwargs).commissions.rows =
      s.commissions.rows.map (fun c => if p c then c.update kwargs else c) :=
  Table.updateEach_filter_rows _ _ _ _ settles

theorem ledgerStep_of_ok {settings : PartnerSettings} {s after : Ledger} {op : LedgerOp}
    (success : op.run settings s = .ok after) : ledgerStep settings s op = after := by
  rw [ledgerStep, success]

theorem ledgerStep_of_error {settings : PartnerSettings} {s : Ledger} {op : LedgerOp}
    {failure : Failure} (refused : op.run settings s = .error failure) :
    ledgerStep settings s op = s := by
  rw [ledgerStep, refused]

/-! ## Recording, releasing, reversing -/

/-- What `record_payment` adds, if it adds a commission. -/
structure FreshCommission (s : Ledger) (c : PartnerCommission) : Prop where
  idFresh : c.id ∉ s.commissions.rows.map (·.id)
  eventFresh : ∀ other ∈ s.commissions.rows,
    ¬ (other.billingEventId = c.billingEventId ∧ other.partnerId = c.partnerId)
  positive : 0 < c.commissionAmountMinor
  pending : c.status = .pending
  unreserved : c.payoutId = none

private theorem createCommission_ok {s after : Ledger} {row : PartnerCommission}
    (success : s.createCommission row = .ok after) :
    row.id ∉ s.commissions.rows.map (·.id) ∧
      (∀ other ∈ s.commissions.rows,
        ¬ (other.billingEventId = row.billingEventId ∧ other.partnerId = row.partnerId)) ∧
      after.commissions.rows = s.commissions.rows ++ [row] ∧ after.payouts = s.payouts := by
  unfold Ledger.createCommission at success
  split at success
  · cases success
  split at success
  · cases success
  · next unique =>
    split at success
    · cases success
    · next commissions inserted =>
      cases success
      obtain ⟨fresh, rows⟩ := Table.insert_eq_some inserted
      refine ⟨fresh, fun other member same => ?_, rows, rfl⟩
      apply unique
      unfold Ledger.commissionOfEvent
      rw [List.find?_isSome]
      exact ⟨other, member, decide_eq_true same⟩

private theorem createCommission_error {s : Ledger} {row : PartnerCommission} {failure : Failure}
    (refused : s.createCommission row = .error failure) : ∃ cause, failure = .flush cause := by
  unfold Ledger.createCommission at refused
  split at refused
  · cases refused
    exact ⟨_, rfl⟩
  split at refused
  · cases refused
    exact ⟨_, rfl⟩
  split at refused
  · cases refused
    exact ⟨_, rfl⟩
  · cases refused

private theorem createCommission_fits {s : Ledger} {row : PartnerCommission}
    (columns : FitsText 200 row.billingEventId ∧ FitsText 3 row.currency ∧
      FitsBigint row.subscriptionAmountMinor)
    (first : ¬ (s.commissionOfEvent row.billingEventId row.partnerId).isSome)
    (fresh : row.id ∉ s.commissions.rows.map (·.id)) :
    ∃ after, s.createCommission row = .ok after := by
  obtain ⟨commissions, inserted⟩ := (Table.insert_isSome_iff s.commissions row).mpr fresh
  unfold Ledger.createCommission
  rw [if_neg (not_not.mpr columns), if_neg first, inserted]
  exact ⟨_, rfl⟩

theorem recordPayment_ok {settings : PartnerSettings} {payment : Payment} {now : Instant}
    {newId : Uuid} {s after : Ledger} (success : recordPayment settings payment now newId s = .ok after) :
    after.payouts = s.payouts ∧
      (after.commissions = s.commissions ∨
        ∃ c, FreshCommission s c ∧ after.commissions.rows = s.commissions.rows ++ [c]) := by
  have idle (same : (.ok s : Except Failure Ledger) = .ok after) : after.payouts = s.payouts ∧
      (after.commissions = s.commissions ∨
        ∃ c, FreshCommission s c ∧ after.commissions.rows = s.commissions.rows ++ [c]) := by
    cases same
    exact ⟨rfl, Or.inl rfl⟩
  unfold recordPayment at success
  split at success
  · exact idle success
  split at success
  · exact idle success
  split at success
  · exact idle success
  split at success
  · exact idle success
  split at success
  · exact idle success
  split at success
  · exact idle success
  split at success
  · exact idle success
  split at success
  · exact idle success
  · next positive =>
    obtain ⟨idFresh, eventFresh, rows, payouts⟩ := createCommission_ok success
    exact ⟨payouts, Or.inr ⟨_, ⟨idFresh, eventFresh, by simpa [commissionOf] using positive,
      rfl, rfl⟩, rows⟩⟩

/-- A payment `record_payment` adds a commission for: its organization's owner
was referred by a partner who still earns. -/
structure EarnsCommission (settings : PartnerSettings) (payment : Payment) (s : Ledger)
    (referral : PartnerReferral) (partner : PartnerProfile) : Prop where
  named : payment.paymentReference ≠ ""
  collected : 0 < payment.collectedMinor
  referred : ∃ owner, s.orgOwner payment.organizationId = some owner ∧
    s.referralOfUser owner = some referral
  kept : referral.status ≠ .churned
  enrolled : s.profiles.get? referral.partnerId = some partner
  earning : partner.status ∈ earningStatuses
  first : ¬ (s.commissionOfEvent payment.paymentReference partner.id).isSome
  positive : 0 < applyRate payment.collectedMinor settings.commissionRate

theorem recordPayment_idle {settings : PartnerSettings} {payment : Payment} {s : Ledger}
    (idle : ∀ referral partner, ¬ EarnsCommission settings payment s referral partner)
    (now : Instant) (newId : Uuid) : recordPayment settings payment now newId s = .ok s := by
  unfold recordPayment
  split
  · rfl
  next collects =>
  split
  · rfl
  next owner owned =>
  split
  · rfl
  next referral referred =>
  split
  · rfl
  next kept =>
  split
  · rfl
  next partner found =>
  split
  · rfl
  next earning =>
  split
  · rfl
  next first =>
  split
  · rfl
  next positive =>
  rw [not_or, not_le] at collects
  exact absurd ⟨collects.1, collects.2, ⟨owner, owned, referred⟩, kept, found,
    not_not.mp earning, first, not_le.mp positive⟩ (idle referral partner)

theorem recordPayment_earns {settings : PartnerSettings} {payment : Payment} {s : Ledger}
    {referral : PartnerReferral} {partner : PartnerProfile}
    (earns : EarnsCommission settings payment s referral partner) (now : Instant) (newId : Uuid) :
    ∃ referrals, recordPayment settings payment now newId s =
      { s with referrals := referrals }.createCommission
        (commissionOf settings payment partner referral now newId) := by
  obtain ⟨named, collected, ⟨owner, owned, referred⟩, kept, found, earning, first, positive⟩ := earns
  have collects : ¬ (payment.paymentReference = "" ∨ payment.collectedMinor ≤ 0) :=
    not_or.mpr ⟨named, not_le.mpr collected⟩
  simp only [recordPayment, if_neg collects, owned, referred, if_neg kept, found,
    if_neg (not_not.mpr earning), if_neg first, if_neg (not_le.mpr positive)]
  exact ⟨_, rfl⟩

theorem recordPayment_earned {settings : PartnerSettings} {payment : Payment} {s after : Ledger}
    {referral : PartnerReferral} {partner : PartnerProfile}
    (earns : EarnsCommission settings payment s referral partner) {now : Instant} {newId : Uuid}
    (success : recordPayment settings payment now newId s = .ok after) :
    after.commissions.rows =
      s.commissions.rows ++ [commissionOf settings payment partner referral now newId] := by
  obtain ⟨referrals, same⟩ := recordPayment_earns earns now newId
  rw [same] at success
  exact (createCommission_ok success).2.2.1

/-- Only the flush of the new commission stops `record_payment`. -/
theorem recordPayment_error {settings : PartnerSettings} {payment : Payment} {s : Ledger}
    {now : Instant} {newId : Uuid} {failure : Failure}
    (refused : recordPayment settings payment now newId s = .error failure) :
    ∃ cause, failure = .flush cause := by
  by_cases earns : ∃ referral partner, EarnsCommission settings payment s referral partner
  · obtain ⟨referral, partner, earns⟩ := earns
    obtain ⟨referrals, same⟩ := recordPayment_earns earns now newId
    rw [same] at refused
    exact createCommission_error refused
  · rw [recordPayment_idle (fun referral partner paid => earns ⟨referral, partner, paid⟩)] at refused
    cases refused

/-- The commission table takes the commission of a payment, if it earns one. -/
def CommissionFits (settings : PartnerSettings) (payment : Payment) (now : Instant) (newId : Uuid)
    (s : Ledger) : Prop :=
  ∀ referral partner, EarnsCommission settings payment s referral partner →
    (FitsText 200 payment.paymentReference ∧
        FitsText 3 (commissionOf settings payment partner referral now newId).currency ∧
        FitsBigint payment.collectedMinor) ∧
      newId ∉ s.commissions.rows.map (·.id)

theorem recordPayment_isOk_iff (settings : PartnerSettings) (payment : Payment) (now : Instant)
    (newId : Uuid) (s : Ledger) :
    (∃ after, recordPayment settings payment now newId s = .ok after) ↔
      CommissionFits settings payment now newId s := by
  constructor
  · intro ⟨after, success⟩ referral partner earns
    obtain ⟨referrals, same⟩ := recordPayment_earns earns now newId
    rw [same] at success
    have fresh := (createCommission_ok success).1
    unfold Ledger.createCommission at success
    split at success
    · cases success
    · next fits => exact ⟨not_not.mp fits, fresh⟩
  · intro fits
    by_cases earns : ∃ referral partner, EarnsCommission settings payment s referral partner
    · obtain ⟨referral, partner, earns⟩ := earns
      obtain ⟨columns, fresh⟩ := fits referral partner earns
      obtain ⟨referrals, same⟩ := recordPayment_earns earns now newId
      rw [same]
      exact createCommission_fits columns earns.first fresh
    · exact ⟨s, recordPayment_idle (fun referral partner paid =>
        earns ⟨referral, partner, paid⟩) now newId⟩

theorem step_recordPayment (settings : PartnerSettings) (s : Ledger) (payment : Payment)
    (now : Instant) (newId : Uuid) :
    (ledgerStep settings s (.recordPayment payment now newId)).payouts = s.payouts ∧
      ((ledgerStep settings s (.recordPayment payment now newId)).commissions = s.commissions ∨
        ∃ c, FreshCommission s c ∧
          (ledgerStep settings s (.recordPayment payment now newId)).commissions.rows =
            s.commissions.rows ++ [c]) := by
  cases result : recordPayment settings payment now newId s with
  | error failure =>
    have refused : LedgerOp.run settings s (.recordPayment payment now newId) = .error failure :=
      result
    rw [ledgerStep_of_error refused]
    exact ⟨rfl, Or.inl rfl⟩
  | ok after =>
    have done : LedgerOp.run settings s (.recordPayment payment now newId) = .ok after := result
    rw [ledgerStep_of_ok done]
    exact recordPayment_ok result

theorem step_releasePayable (settings : PartnerSettings) (s : Ledger) (now : Instant) :
    (ledgerStep settings s (.releasePayable now)).payouts = s.payouts ∧
      (ledgerStep settings s (.releasePayable now)).commissions.rows =
        s.commissions.rows.map
          (fun c => if PendingPastHold now c then { c with status := .payable } else c) :=
  ⟨rfl, updateCommissions_filter_rows s (PendingPastHold now) _ (fun _ => rfl)⟩

/-- The commissions an operation reverses. -/
def Reverses : LedgerOp → PartnerCommission → Prop
  | .reverseByReference paymentReference reason, c =>
    paymentReference ≠ "" ∧ FitsText 100 reason ∧ ReversibleByReference paymentReference c
  | .reverseCommission commissionId reason, c =>
    c.id = commissionId ∧ FitsText 100 (if reason = "" then "admin" else reason) ∧
      c.status ≠ .reversed
  | _, _ => False

instance (op : LedgerOp) : DecidablePred (Reverses op) := fun c => by
  cases op <;> unfold Reverses <;> infer_instance

/-- Both reversals set status and reason of the commissions they select and
touch nothing else; in particular the reservation stays. -/
def ReversalEffect (s after : Ledger) (op : LedgerOp) : Prop :=
  after.payouts = s.payouts ∧ ∃ reason : String, after.commissions.rows =
    s.commissions.rows.map (fun c =>
      if Reverses op c then { c with status := .reversed, reversalReason := some reason } else c)

/-- An operation that reverses no commission has the effect of a reversal. -/
private theorem reversalEffect_idle {s : Ledger} {op : LedgerOp}
    (none : ∀ c ∈ s.commissions.rows, ¬ Reverses op c) : ReversalEffect s s op := by
  refine ⟨rfl, "", ?_⟩
  conv_lhs => rw [← List.map_id s.commissions.rows]
  exact List.map_congr_left (fun c member => by rw [if_neg (none c member), id])

theorem step_reverseByReference (settings : PartnerSettings) (s : Ledger)
    (paymentReference reason : String) :
    ReversalEffect s (ledgerStep settings s (.reverseByReference paymentReference reason))
      (.reverseByReference paymentReference reason) := by
  simp only [ledgerStep, LedgerOp.run, reverseByReference]
  split
  · next after done =>
    split at done
    · next blank =>
      cases done
      exact reversalEffect_idle (fun c _ selected => selected.1 blank)
    split at done
    · cases done
    · next given accepted =>
      cases done
      refine ⟨rfl, reason, ?_⟩
      refine (updateCommissions_filter_rows s _ _ (fun _ => rfl)).trans ?_
      refine List.map_congr_left (fun c member => if_congr ?_ rfl rfl)
      constructor
      · intro selected
        refine ⟨given, not_not.mp (fun long => accepted ⟨?_, long⟩), selected⟩
        exact List.ne_nil_of_mem (List.mem_filter.mpr ⟨member, decide_eq_true selected⟩)
      · exact fun selected => selected.2.2
  · next failure refused =>
    refine reversalEffect_idle (fun c _ selected => ?_)
    rw [if_neg selected.1, if_neg (fun long => long.2 selected.2.1)] at refused
    cases refused

theorem step_reverseCommission (settings : PartnerSettings) (s : Ledger) (commissionId : Uuid)
    (reason : String) :
    ReversalEffect s (ledgerStep settings s (.reverseCommission commissionId reason))
      (.reverseCommission commissionId reason) := by
  simp only [ledgerStep, LedgerOp.run, reverseCommission]
  split
  · next after done =>
    split at done
    · cases done
    · next commission found =>
      obtain ⟨member, rfl⟩ := (Table.get?_eq_some_iff _ _ _).mp found
      split at done
      · next already =>
        cases done
        refine reversalEffect_idle (fun c place selected => selected.2.2 ?_)
        rw [Table.eq_of_key place member selected.1, already]
      · next working =>
        by_cases accepted : FitsText 100 (if reason = "" then "admin" else reason)
        · rw [if_neg (not_not.mpr accepted)] at done
          cases done
          refine ⟨rfl, if reason = "" then "admin" else reason, ?_⟩
          refine (updateCommissions_rows s _ _ (fun _ => rfl)).trans ?_
          refine List.map_congr_left (fun c place => if_congr ?_ rfl rfl)
          simp only [List.map_cons, List.map_nil, List.mem_singleton, Reverses]
          constructor
          · intro same
            refine ⟨same, accepted, ?_⟩
            rw [Table.eq_of_key place member same]
            exact working
          · exact fun selected => selected.1
        · rw [if_pos accepted] at done
          cases done
  · next failure refused =>
    refine reversalEffect_idle (fun c place selected => ?_)
    have found : s.commissions.get? commissionId = some c :=
      (Table.get?_eq_some_iff _ _ _).mpr ⟨place, selected.1⟩
    simp only [found, if_neg selected.2.2, selected.2.1, not_true_eq_false, if_false] at refused
    cases refused

theorem step_reverses (settings : PartnerSettings) (s : Ledger) {op : LedgerOp}
    {c : PartnerCommission} (selected : Reverses op c) :
    ReversalEffect s (ledgerStep settings s op) op := by
  cases op with
  | reverseByReference paymentReference reason =>
    exact step_reverseByReference settings s paymentReference reason
  | reverseCommission commissionId reason =>
    exact step_reverseCommission settings s commissionId reason
  | _ => exact selected.elim

theorem step_handleChurn (settings : PartnerSettings) (s : Ledger) (organizationId : Uuid) :
    (ledgerStep settings s (.handleChurn organizationId)).payouts = s.payouts ∧
      (ledgerStep settings s (.handleChurn organizationId)).commissions = s.commissions := by
  simp only [ledgerStep, LedgerOp.run, handleChurn]
  split
  · exact ⟨rfl, rfl⟩
  split
  · exact ⟨rfl, rfl⟩
  split <;> exact ⟨rfl, rfl⟩

/-! ## Creating a payout -/

/-- The commissions the reservation loop reaches. -/
def reservedPrefix : Int → List PartnerCommission → List PartnerCommission
  | _, [] => []
  | remaining, commission :: rest =>
    if remaining ≤ 0 then []
    else commission ::
      reservedPrefix (remaining - min commission.commissionAmountMinor remaining) rest

theorem reservedPrefix_sublist (amount : Int) (payable : List PartnerCommission) :
    (reservedPrefix amount payable).Sublist payable := by
  induction payable generalizing amount with
  | nil => exact List.Sublist.slnil
  | cons commission rest ih =>
    unfold reservedPrefix
    split
    · exact List.nil_sublist _
    · exact (ih _).cons_cons commission

theorem reserveLoop_eq (payoutId : Uuid) (amount : Int) (payable : List PartnerCommission)
    (s : Ledger) :
    reserveLoop payoutId amount payable s =
      s.updateCommissions (reservedPrefix amount payable) [.payoutId (some payoutId)] := by
  induction payable generalizing amount s with
  | nil => rfl
  | cons commission rest ih =>
    unfold reserveLoop reservedPrefix
    split
    · rfl
    · rw [ih]
      rfl

theorem totalMinor_nonneg (commissions : List PartnerCommission)
    (positive : ∀ c ∈ commissions, 0 < c.commissionAmountMinor) : 0 ≤ totalMinor commissions := by
  induction commissions with
  | nil => exact le_refl 0
  | cons commission rest ih =>
    have head := positive commission (by simp)
    have tail := ih (fun c member => positive c (by simp [member]))
    simp only [totalMinor, List.map_cons, List.sum_cons] at tail ⊢
    omega

theorem reservedPrefix_eq_take (amount : Int) (payable : List PartnerCommission) :
    ∃ count, reservedPrefix amount payable = payable.take count := by
  induction payable generalizing amount with
  | nil => exact ⟨0, rfl⟩
  | cons commission rest ih =>
    unfold reservedPrefix
    split
    · exact ⟨0, rfl⟩
    · obtain ⟨count, equal⟩ := ih (amount - min commission.commissionAmountMinor amount)
      exact ⟨count + 1, by rw [equal, List.take_succ_cons]⟩

/-- The loop takes whole commissions, so it reserves exactly the requested
amount if and only if the oldest commissions can add up to it. -/
theorem total_reservedPrefix_eq_iff (amount : Int) (payable : List PartnerCommission)
    (positive : ∀ c ∈ payable, 0 < c.commissionAmountMinor) :
    totalMinor (reservedPrefix amount payable) = amount ↔
      ∃ count, totalMinor (payable.take count) = amount := by
  constructor
  · intro covered
    obtain ⟨count, equal⟩ := reservedPrefix_eq_take amount payable
    exact ⟨count, by rw [← equal, covered]⟩
  · intro ⟨count, sum⟩
    induction payable generalizing amount count with
    | nil => simpa [reservedPrefix] using sum
    | cons commission rest ih =>
      cases count with
      | zero =>
        have none : amount ≤ 0 := by rw [← sum]; exact le_refl 0
        unfold reservedPrefix
        rw [if_pos none]
        exact sum
      | succ count =>
        have head := positive commission (by simp)
        have later : ∀ c ∈ rest, 0 < c.commissionAmountMinor :=
          fun c member => positive c (by simp [member])
        have nonneg := totalMinor_nonneg (rest.take count)
          (fun c member => later c (List.mem_of_mem_take member))
        have split : commission.commissionAmountMinor + totalMinor (rest.take count) = amount := sum
        have tail := ih (amount - min commission.commissionAmountMinor amount) later count (by omega)
        unfold reservedPrefix
        rw [if_neg (by omega)]
        simp only [totalMinor, List.map_cons, List.sum_cons] at tail ⊢
        omega

/-- The reserved commissions cover the amount. -/
theorem reservedPrefix_covers (amount : Int) (payable : List PartnerCommission)
    (covered : amount ≤ totalMinor payable) :
    amount ≤ totalMinor (reservedPrefix amount payable) := by
  induction payable generalizing amount with
  | nil => exact covered
  | cons first rest ih =>
    unfold reservedPrefix
    split
    · next none => exact none
    · next some =>
      simp only [totalMinor, List.map_cons, List.sum_cons] at covered ⊢
      have tail := ih (amount - min first.commissionAmountMinor amount)
      unfold totalMinor at tail
      by_cases enough : amount ≤ first.commissionAmountMinor
      · have empty : reservedPrefix (amount - min first.commissionAmountMinor amount) rest = [] := by
          have zero : amount - min first.commissionAmountMinor amount ≤ 0 := by omega
          cases rest with
          | nil => rfl
          | cons next later => simp [reservedPrefix, zero]
        rw [empty, List.map_nil, List.sum_nil]
        omega
      · have most := tail (by omega)
        omega

/-- The amount a `create_payout` call asks for: the balance, if it names none. -/
def Ledger.requestedAmount (s : Ledger) (partnerId : Uuid) (amountMinor : Option Int)
    (order : OrderBy PartnerCommission.createdAt) : Int :=
  amountMinor.getD (s.payableBalance order partnerId)

/-- The calls of `create_payout` that take effect. -/
structure PayoutAccepted (settings : PartnerSettings) (s : Ledger) (partnerId : Uuid)
    (amountMinor : Option Int) (order : OrderBy PartnerCommission.createdAt) (newId : Uuid) :
    Prop where
  partner : (s.profiles.get? partnerId).isSome
  positive : 0 < s.requestedAmount partnerId amountMinor order
  covered : s.requestedAmount partnerId amountMinor order ≤ s.payableBalance order partnerId
  minimum : amountMinor = none → settings.minimumPayoutMinor ≤ s.payableBalance order partnerId
  fresh : newId ∉ s.payouts.rows.map (·.id)

/-- The commissions an accepted call reserves. -/
def Ledger.reservedBy (s : Ledger) (partnerId : Uuid) (amountMinor : Option Int)
    (order : OrderBy PartnerCommission.createdAt) : List PartnerCommission :=
  reservedPrefix (s.requestedAmount partnerId amountMinor order)
    (s.payableByPartner order partnerId)

theorem mem_payableByPartner (s : Ledger) (order : OrderBy PartnerCommission.createdAt)
    (partnerId : Uuid) (c : PartnerCommission) :
    c ∈ s.payableByPartner order partnerId ↔ c ∈ s.commissions.rows ∧ PayableOf partnerId c := by
  unfold Ledger.payableByPartner
  rw [OrderBy.mem_arrange, List.mem_filter, decide_eq_true_iff]

theorem payableBalance_eq (s : Ledger) (order : OrderBy PartnerCommission.createdAt)
    (partnerId : Uuid) : s.payableBalance order partnerId =
      sumWhere (PayableOf partnerId) PartnerCommission.commissionAmountMinor s.commissions.rows := by
  rw [← sumWhere_filter]
  exact ((order.perm _).map _).sum_eq

theorem mem_of_mem_reservedBy {s : Ledger} {partnerId : Uuid} {amountMinor : Option Int}
    {order : OrderBy PartnerCommission.createdAt} {c : PartnerCommission}
    (reserved : c ∈ s.reservedBy partnerId amountMinor order) :
    c ∈ s.commissions.rows ∧ PayableOf partnerId c :=
  (mem_payableByPartner s order partnerId c).mp ((reservedPrefix_sublist _ _).subset reserved)

theorem reservedBy_nodup (s : Ledger) (partnerId : Uuid) (amountMinor : Option Int)
    (order : OrderBy PartnerCommission.createdAt) :
    (s.reservedBy partnerId amountMinor order).Nodup := by
  have rows : s.commissions.rows.Nodup := List.Nodup.of_map _ s.commissions.unique
  have arranged := (order.perm (s.commissions.rows.filter
    (fun c => decide (PayableOf partnerId c)))).nodup_iff.mpr (rows.filter _)
  exact arranged.sublist (reservedPrefix_sublist _ _)

theorem createPayout_ok {settings : PartnerSettings} {s after : Ledger} {partnerId : Uuid}
    {amountMinor : Option Int} {order : OrderBy PartnerCommission.createdAt} {now : Instant}
    {newId : Uuid} (success : createPayout settings partnerId amountMinor order now newId s = .ok after) :
    PayoutAccepted settings s partnerId amountMinor order newId := by
  unfold createPayout at success
  split at success
  · cases success
  · next partner found =>
    simp only at success
    split at success
    · cases success
    · next inRange =>
      split at success
      · cases success
      · next large =>
        split at success
        · cases success
        · next payouts inserted =>
          have range := not_or.mp inRange
          refine ⟨by rw [found]; rfl, not_le.mp range.1, not_lt.mp range.2, ?_,
            (Table.insert_eq_some inserted).1⟩
          intro unnamed
          exact not_lt.mp (fun low => large ⟨unnamed, low⟩)

theorem step_createPayout_refused {settings : PartnerSettings} {s : Ledger} {partnerId : Uuid}
    {amountMinor : Option Int} {order : OrderBy PartnerCommission.createdAt} {now : Instant}
    {newId : Uuid} (refused : ¬ PayoutAccepted settings s partnerId amountMinor order newId) :
    ledgerStep settings s (.createPayout partnerId amountMinor order now newId) = s := by
  cases result : LedgerOp.run settings s (.createPayout partnerId amountMinor order now newId) with
  | error failure => exact ledgerStep_of_error result
  | ok after => exact absurd (createPayout_ok result) refused

/-- An accepted call adds one pending payout and stamps its id on the reserved
commissions. -/
theorem step_createPayout_accepted {settings : PartnerSettings} {s : Ledger} {partnerId : Uuid}
    {amountMinor : Option Int} {order : OrderBy PartnerCommission.createdAt} (now : Instant)
    {newId : Uuid} (accepted : PayoutAccepted settings s partnerId amountMinor order newId) :
    (ledgerStep settings s (.createPayout partnerId amountMinor order now newId)).payouts.rows =
        s.payouts.rows ++ [payoutOf settings partnerId
          (s.requestedAmount partnerId amountMinor order) now newId] ∧
      (ledgerStep settings s (.createPayout partnerId amountMinor order now newId)).commissions.rows
        = s.commissions.rows.map (fun c =>
          if c.id ∈ (s.reservedBy partnerId amountMinor order).map (·.id) then
            { c with payoutId := some newId } else c) := by
  obtain ⟨partner, found⟩ := Option.isSome_iff_exists.mp accepted.partner
  obtain ⟨payouts, inserted⟩ := (Table.insert_isSome_iff s.payouts (payoutOf settings partnerId
    (s.requestedAmount partnerId amountMinor order) now newId)).mpr accepted.fresh
  have inRange : ¬ (s.requestedAmount partnerId amountMinor order ≤ 0 ∨
      s.payableBalance order partnerId < s.requestedAmount partnerId amountMinor order) :=
    not_or.mpr ⟨not_le.mpr accepted.positive, not_lt.mpr accepted.covered⟩
  have large : ¬ (amountMinor = none ∧
      s.payableBalance order partnerId < settings.minimumPayoutMinor) :=
    fun low => absurd low.2 (not_lt.mpr (accepted.minimum low.1))
  have done : LedgerOp.run settings s (.createPayout partnerId amountMinor order now newId) =
      .ok (reserveLoop newId (s.requestedAmount partnerId amountMinor order)
        (s.payableByPartner order partnerId) { s with payouts := payouts }) := by
    unfold Ledger.requestedAmount Ledger.payableBalance at inRange inserted
    unfold Ledger.payableBalance at large
    simp only [LedgerOp.run, createPayout, found, if_neg inRange, if_neg large, inserted]
    rfl
  rw [ledgerStep_of_ok done, reserveLoop_eq]
  exact ⟨(Table.insert_eq_some inserted).2, updateCommissions_rows _ _ _ (fun _ => rfl)⟩

/-! ## Processing a payout -/

/-- A reference `mark_paid` takes. -/
def AcceptedReference (transactionReference : Option String) : Prop :=
  transactionReference.getD "" ≠ "" ∧ FitsText 200 (transactionReference.getD "")

instance (transactionReference : Option String) : Decidable (AcceptedReference transactionReference) :=
  inferInstanceAs (Decidable (transactionReference.getD "" ≠ "" ∧
    FitsText 200 (transactionReference.getD "")))

/-- The operation marks this payout paid. -/
def MarksPaid : LedgerOp → PartnerPayout → Prop
  | .processPayout payoutId action transactionReference _, p =>
    p.id = payoutId ∧ action = "mark_paid" ∧ AcceptedReference transactionReference
  | _, _ => False

/-- The operation marks this payout failed. -/
def MarksFailed : LedgerOp → PartnerPayout → Prop
  | .processPayout payoutId action _ _, p => p.id = payoutId ∧ action = "mark_failed"
  | _, _ => False

instance (op : LedgerOp) : DecidablePred (MarksPaid op) := fun p => by
  cases op <;> unfold MarksPaid <;> infer_instance

instance (op : LedgerOp) : DecidablePred (MarksFailed op) := fun p => by
  cases op <;> unfold MarksFailed <;> infer_instance

theorem step_markPaid (settings : PartnerSettings) {s : Ledger} {p : PartnerPayout}
    (member : p ∈ s.payouts.rows) {transactionReference : Option String} (now : Instant)
    (given : AcceptedReference transactionReference) :
    (ledgerStep settings s (.processPayout p.id "mark_paid" transactionReference now)).payouts.rows
        = s.payouts.rows.map (fun r => if r.id = p.id then
          { r with status := .paid, transactionReference := transactionReference, paidAt := some now }
          else r) ∧
      (ledgerStep settings s
          (.processPayout p.id "mark_paid" transactionReference now)).commissions.rows =
        s.commissions.rows.map (fun c => if c.payoutId = some p.id then
          { c with status := .paid, paidAt := some now } else c) := by
  have found : s.payouts.get? p.id = some p := (Table.get?_eq_some_iff _ _ _).mpr ⟨member, rfl⟩
  have done : LedgerOp.run settings s (.processPayout p.id "mark_paid" transactionReference now) =
      .ok ((s.updatePayout p.id [.status (some .paid), .transactionReference transactionReference,
          .paidAt (some now)]).updateCommissions (s.commissionsForPayout p.id)
        [.status (some .paid), .paidAt (some now)]) := by
    simp only [LedgerOp.run, processPayout, found, if_true, if_neg given.1, given.2,
      not_true_eq_false, if_false]
    rfl
  rw [ledgerStep_of_ok done]
  cases transactionReference with
  | none => exact absurd rfl given.1
  | some reference =>
    exact ⟨rfl, updateCommissions_filter_rows (s.updatePayout p.id _)
      (fun c => c.payoutId = some p.id) _ (fun _ => rfl)⟩

/-- Marking a payout failed leaves every commission as it is. -/
theorem step_markFailed (settings : PartnerSettings) {s : Ledger} {p : PartnerPayout}
    (member : p ∈ s.payouts.rows) (transactionReference : Option String) (now : Instant) :
    (ledgerStep settings s
          (.processPayout p.id "mark_failed" transactionReference now)).payouts.rows =
        s.payouts.rows.map (fun r => if r.id = p.id then { r with status := .failed } else r) ∧
      (ledgerStep settings s
          (.processPayout p.id "mark_failed" transactionReference now)).commissions =
        s.commissions := by
  have found : s.payouts.get? p.id = some p := (Table.get?_eq_some_iff _ _ _).mpr ⟨member, rfl⟩
  have done : LedgerOp.run settings s (.processPayout p.id "mark_failed" transactionReference now) =
      .ok ((s.updatePayout p.id [.status (some .failed)]).updateCommissions
        (s.commissionsForPayout p.id) [.payoutId none]) := by
    simp only [LedgerOp.run, processPayout, found, String.reduceEq, if_true, if_false]
    rfl
  rw [ledgerStep_of_ok done]
  refine ⟨rfl, Table.ext ?_⟩
  have rows := updateCommissions_filter_rows (s.updatePayout p.id [.status (some .failed)])
    (fun c => c.payoutId = some p.id) [.payoutId none] (fun _ => rfl)
  refine rows.trans ?_
  conv_rhs => rw [← List.map_id s.commissions.rows]
  refine List.map_congr_left (fun c _ => ?_)
  rw [update_detach_skipped, ite_self, id]

theorem step_processPayout_idle (settings : PartnerSettings) {s : Ledger} {payoutId : Uuid}
    {action : String} {transactionReference : Option String} {now : Instant}
    (idle : ∀ p ∈ s.payouts.rows,
      ¬ MarksPaid (.processPayout payoutId action transactionReference now) p ∧
        ¬ MarksFailed (.processPayout payoutId action transactionReference now) p) :
    ledgerStep settings s (.processPayout payoutId action transactionReference now) = s := by
  cases found : s.payouts.get? payoutId with
  | none =>
    have refused : LedgerOp.run settings s
        (.processPayout payoutId action transactionReference now) =
        .error (.app (resourceNotFoundException "Payout not found")) := by
      simp only [LedgerOp.run, processPayout, found]
    exact ledgerStep_of_error refused
  | some payout =>
    obtain ⟨member, same⟩ := (Table.get?_eq_some_iff _ _ _).mp found
    obtain ⟨unpaid, unfailed⟩ := idle payout member
    cases result : LedgerOp.run settings s
      (.processPayout payoutId action transactionReference now) with
    | error failure => exact ledgerStep_of_error result
    | ok after =>
      exfalso
      simp only [LedgerOp.run, processPayout, found] at result
      split at result
      · next paid =>
        split at result
        · cases result
        split at result
        · cases result
        · next given fits => exact unpaid ⟨same, paid, given, not_not.mp fits⟩
      · split at result
        · next failed => exact unfailed ⟨same, failed⟩
        · cases result

/-! ## What a step can do -/

/-- Every way an operation changes the commission and payout tables. -/
inductive LedgerEffect (settings : PartnerSettings) (s : Ledger) (op : LedgerOp) (after : Ledger) :
    Prop where
  | unchanged (payouts : after.payouts = s.payouts) (commissions : after.commissions = s.commissions)
  | recorded (payment : Payment) (now : Instant) (newId : Uuid)
      (same : op = .recordPayment payment now newId)
      (c : PartnerCommission) (fresh : FreshCommission s c)
      (payouts : after.payouts = s.payouts)
      (commissions : after.commissions.rows = s.commissions.rows ++ [c])
  | released (now : Instant) (same : op = .releasePayable now) (payouts : after.payouts = s.payouts)
      (commissions : after.commissions.rows = s.commissions.rows.map
        (fun c => if PendingPastHold now c then { c with status := .payable } else c))
  | reversed (kind : (∃ reference reason, op = .reverseByReference reference reason) ∨
        ∃ commissionId reason, op = .reverseCommission commissionId reason)
      (payouts : after.payouts = s.payouts) (reason : String)
      (commissions : after.commissions.rows = s.commissions.rows.map
        (fun c => if Reverses op c then
          { c with status := .reversed, reversalReason := some reason } else c))
  | reserved (partnerId : Uuid) (amountMinor : Option Int)
      (order : OrderBy PartnerCommission.createdAt) (now : Instant) (newId : Uuid)
      (same : op = .createPayout partnerId amountMinor order now newId)
      (accepted : PayoutAccepted settings s partnerId amountMinor order newId)
      (payouts : after.payouts.rows = s.payouts.rows ++ [payoutOf settings partnerId
        (s.requestedAmount partnerId amountMinor order) now newId])
      (commissions : after.commissions.rows = s.commissions.rows.map
        (fun c => if c.id ∈ (s.reservedBy partnerId amountMinor order).map (·.id) then
          { c with payoutId := some newId } else c))
  | settled (p : PartnerPayout) (transactionReference : Option String) (now : Instant)
      (same : op = .processPayout p.id "mark_paid" transactionReference now)
      (member : p ∈ s.payouts.rows) (given : AcceptedReference transactionReference)
      (payouts : after.payouts.rows = s.payouts.rows.map (fun r => if r.id = p.id then
        { r with status := .paid, transactionReference := transactionReference, paidAt := some now }
        else r))
      (commissions : after.commissions.rows = s.commissions.rows.map
        (fun c => if c.payoutId = some p.id then { c with status := .paid, paidAt := some now }
          else c))
  | failed (p : PartnerPayout) (transactionReference : Option String) (now : Instant)
      (same : op = .processPayout p.id "mark_failed" transactionReference now)
      (member : p ∈ s.payouts.rows)
      (payouts : after.payouts.rows = s.payouts.rows.map
        (fun r => if r.id = p.id then { r with status := .failed } else r))
      (commissions : after.commissions = s.commissions)

theorem ledgerStep_effect (settings : PartnerSettings) (s : Ledger) (op : LedgerOp) :
    LedgerEffect settings s op (ledgerStep settings s op) := by
  cases op with
  | recordPayment payment now newId =>
    obtain ⟨payouts, same | ⟨c, fresh, rows⟩⟩ := step_recordPayment settings s payment now newId
    · exact .unchanged payouts same
    · exact .recorded payment now newId rfl c fresh payouts rows
  | releasePayable now =>
    obtain ⟨payouts, rows⟩ := step_releasePayable settings s now
    exact .released now rfl payouts rows
  | reverseByReference paymentReference reason =>
    obtain ⟨payouts, reason, rows⟩ := step_reverseByReference settings s paymentReference reason
    exact .reversed (Or.inl ⟨_, _, rfl⟩) payouts reason rows
  | reverseCommission commissionId reason =>
    obtain ⟨payouts, reason, rows⟩ := step_reverseCommission settings s commissionId reason
    exact .reversed (Or.inr ⟨_, _, rfl⟩) payouts reason rows
  | handleChurn organizationId =>
    obtain ⟨payouts, commissions⟩ := step_handleChurn settings s organizationId
    exact .unchanged payouts commissions
  | createPayout partnerId amountMinor order now newId =>
    by_cases accepted : PayoutAccepted settings s partnerId amountMinor order newId
    · obtain ⟨payouts, rows⟩ := step_createPayout_accepted now accepted
      exact .reserved partnerId amountMinor order now newId rfl accepted payouts rows
    · rw [step_createPayout_refused accepted]
      exact .unchanged rfl rfl
  | processPayout payoutId action transactionReference now =>
    by_cases busy : ∃ p ∈ s.payouts.rows,
        MarksPaid (.processPayout payoutId action transactionReference now) p ∨
          MarksFailed (.processPayout payoutId action transactionReference now) p
    · obtain ⟨p, member, ⟨rfl, rfl, given⟩ | ⟨rfl, rfl⟩⟩ := busy
      · obtain ⟨payouts, rows⟩ := step_markPaid settings member now given
        exact .settled p transactionReference now rfl member given payouts rows
      · obtain ⟨payouts, same⟩ := step_markFailed settings member transactionReference now
        exact .failed p transactionReference now rfl member payouts same
    · rw [step_processPayout_idle settings (fun p member =>
        not_or.mp (fun marks => busy ⟨p, member, marks⟩))]
      exact .unchanged rfl rfl

/-- A payout of the next state is an old one, or the one that was created. -/
theorem payouts_step {settings : PartnerSettings} {s : Ledger} (op : LedgerOp) {r : PartnerPayout}
    (place : r ∈ (ledgerStep settings s op).payouts.rows) :
    (∃ p ∈ s.payouts.rows, r.id = p.id ∧ r.amountMinor = p.amountMinor ∧ r.currency = p.currency) ∨
      ∃ partnerId amountMinor order now newId, op = .createPayout partnerId amountMinor order now newId ∧
        PayoutAccepted settings s partnerId amountMinor order newId ∧
        r = payoutOf settings partnerId (s.requestedAmount partnerId amountMinor order) now newId := by
  cases ledgerStep_effect settings s op with
  | unchanged payouts commissions =>
    rw [payouts] at place
    exact .inl ⟨r, place, rfl, rfl, rfl⟩
  | recorded payment now newId same c fresh payouts commissions =>
    rw [payouts] at place
    exact .inl ⟨r, place, rfl, rfl, rfl⟩
  | released now same payouts commissions =>
    rw [payouts] at place
    exact .inl ⟨r, place, rfl, rfl, rfl⟩
  | reversed kind payouts reason commissions =>
    rw [payouts] at place
    exact .inl ⟨r, place, rfl, rfl, rfl⟩
  | reserved partnerId amountMinor order now newId same accepted payouts commissions =>
    rw [payouts] at place
    rcases List.mem_append.mp place with old | new
    · exact .inl ⟨r, old, rfl, rfl, rfl⟩
    · exact .inr ⟨partnerId, amountMinor, order, now, newId, same, accepted,
        List.mem_singleton.mp new⟩
  | settled p reference now same member given payouts commissions =>
    rw [payouts] at place
    obtain ⟨old, stored, rfl⟩ := List.mem_map.mp place
    refine .inl ⟨old, stored, ?_⟩
    split <;> exact ⟨rfl, rfl, rfl⟩
  | failed p reference now same member payouts commissions =>
    rw [payouts] at place
    obtain ⟨old, stored, rfl⟩ := List.mem_map.mp place
    refine .inl ⟨old, stored, ?_⟩
    split <;> exact ⟨rfl, rfl, rfl⟩

end Reliastra.Source.Partners
