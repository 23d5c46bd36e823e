import Reliastra.Source.Partners.LedgerInvariant

/-!
# A failed payout

Marking a payout failed is meant to return its commissions to the payable pool.
The update drops `payout_id=None`, so they stay reserved for the failed payout:
no accepted withdrawal is given back, whatever the ledger, and the balance stays
lower by what the withdrawal had reserved.
-/

namespace Reliastra.Guarantees.FailedPayouts

open Reliastra.Library Reliastra.Source Reliastra.Source.Partners

/-- The pool and the balance of a partner are what they were. -/
structure GivenBack (before after : Ledger) (partnerId : Uuid)
    (order : OrderBy PartnerCommission.createdAt) : Prop where
  pool : after.payableByPartner order partnerId = before.payableByPartner order partnerId
  balance : after.payableBalance order partnerId = before.payableBalance order partnerId

variable {settings : PartnerSettings} {s created : Ledger} {partnerId : Uuid}
  {amountMinor : Option Int} {order : OrderBy PartnerCommission.createdAt} {now : Instant}
  {newId : Uuid}

/-! ## What stays reserved -/

/-- The ledger after the payout has failed: one more payout, and the withdrawn
commissions still with it. -/
theorem markFailed_after (accepted : PayoutAccepted settings s partnerId amountMinor order newId)
    (success : createPayout settings partnerId amountMinor order now newId s = .ok created)
    (transactionReference : Option String) (later : Instant) :
    ∃ after, processPayout newId "mark_failed" transactionReference later created = .ok after ∧
      after.commissions.rows = s.commissions.rows.map (fun c =>
        if c.id ∈ (s.reservedBy partnerId amountMinor order).map (·.id) then
          { c with payoutId := some newId } else c) := by
  have stepped : ledgerStep settings s (.createPayout partnerId amountMinor order now newId) =
      created := ledgerStep_of_ok success
  obtain ⟨payouts, commissions⟩ := step_createPayout_accepted now accepted
  rw [stepped] at payouts commissions
  have row : payoutOf settings partnerId (s.requestedAmount partnerId amountMinor order) now newId ∈
      created.payouts.rows := by
    rw [payouts]
    exact List.mem_append_right _ (List.mem_singleton.mpr rfl)
  have failed := (step_markFailed settings row transactionReference later).2
  have found : created.payouts.get? newId = some (payoutOf settings partnerId
      (s.requestedAmount partnerId amountMinor order) now newId) :=
    (Table.get?_eq_some_iff _ _ _).mpr ⟨row, rfl⟩
  obtain ⟨after, ran⟩ : ∃ after,
      processPayout newId "mark_failed" transactionReference later created = .ok after := by
    unfold processPayout
    simp only [found, String.reduceEq, if_true, if_false]
    exact ⟨_, rfl⟩
  have same : ledgerStep settings created
      (.processPayout newId "mark_failed" transactionReference later) = after :=
    ledgerStep_of_ok ran
  refine ⟨after, ran, ?_⟩
  rw [← same, ← commissions]
  exact congrArg Table.rows failed

/-- A withdrawal reserves at least one commission. -/
theorem reservedBy_ne_nil (accepted : PayoutAccepted settings s partnerId amountMinor order newId) :
    s.reservedBy partnerId amountMinor order ≠ [] := by
  have covers := reservedPrefix_covers _ _ accepted.covered
  intro empty
  unfold Ledger.reservedBy at empty
  rw [empty] at covers
  exact absurd accepted.positive (not_lt.mpr covers)

/-- A commission is payable after the stamp if it was and is not reserved. -/
private theorem payable_stamped_iff {c : PartnerCommission} {reserved : Prop} [Decidable reserved] :
    PayableOf partnerId (if reserved then { c with payoutId := some newId } else c) ↔
      PayableOf partnerId c ∧ ¬ reserved := by
  split
  · next held =>
    exact ⟨fun payable => absurd payable.2.2 nofun, fun both => absurd held both.2⟩
  · next free => exact ⟨fun payable => ⟨payable, free⟩, And.left⟩

variable {after : Ledger}
  (commissions : after.commissions.rows = s.commissions.rows.map (fun c =>
    if c.id ∈ (s.reservedBy partnerId amountMinor order).map (·.id) then
      { c with payoutId := some newId } else c))

include commissions

/-- The balance is lower by what the withdrawal reserved. -/
theorem payableBalance_stamped (order' : OrderBy PartnerCommission.createdAt) :
    after.payableBalance order' partnerId + totalMinor (s.reservedBy partnerId amountMinor order) =
      s.payableBalance order' partnerId := by
  have reserved : totalMinor (s.reservedBy partnerId amountMinor order) =
      sumWhere (fun c => c.id ∈ (s.reservedBy partnerId amountMinor order).map (·.id))
        PartnerCommission.commissionAmountMinor s.commissions.rows :=
    (sumWhere_mem_keys _ s.commissions.unique _ (reservedBy_nodup s partnerId amountMinor order)
      (fun c held => (mem_of_mem_reservedBy held).1)).symm
  rw [payableBalance_eq, payableBalance_eq, commissions, sumWhere_map, reserved]
  have kept : sumWhere (fun c => PayableOf partnerId (if c.id ∈
          (s.reservedBy partnerId amountMinor order).map (·.id) then
          { c with payoutId := some newId } else c))
        (fun c => (if c.id ∈ (s.reservedBy partnerId amountMinor order).map (·.id) then
          { c with payoutId := some newId } else c).commissionAmountMinor) s.commissions.rows =
      sumWhere (fun c => PayableOf partnerId c ∧
          c.id ∉ (s.reservedBy partnerId amountMinor order).map (·.id))
        PartnerCommission.commissionAmountMinor s.commissions.rows := by
    refine sumWhere_congr _ (fun c _ => ⟨payable_stamped_iff, fun _ => ?_⟩)
    split <;> rfl
  rw [kept, ← sumWhere_or _ (fun c _ free held => free.2 held)]
  refine sumWhere_congr _ (fun c member => ⟨?_, fun _ => rfl⟩)
  constructor
  · rintro (⟨payable, _⟩ | held)
    · exact payable
    · obtain ⟨reserved, place, same⟩ := List.mem_map.mp held
      obtain ⟨row, payable⟩ := mem_of_mem_reservedBy place
      exact Table.eq_of_key row member same ▸ payable
  · intro payable
    by_cases held : c.id ∈ (s.reservedBy partnerId amountMinor order).map (·.id)
    · exact .inr held
    · exact .inl ⟨payable, held⟩

/-- A reserved commission is no longer in the pool. -/
theorem not_givenBack (some : s.reservedBy partnerId amountMinor order ≠ [])
    (order' : OrderBy PartnerCommission.createdAt) : ¬ GivenBack s after partnerId order' := by
  intro back
  obtain ⟨c, held⟩ := List.exists_mem_of_ne_nil _ some
  obtain ⟨row, payable⟩ := mem_of_mem_reservedBy held
  have still : c ∈ after.payableByPartner order' partnerId := by
    rw [back.pool]
    exact (mem_payableByPartner s order' partnerId c).mpr ⟨row, payable⟩
  obtain ⟨place, unreserved⟩ := (mem_payableByPartner after order' partnerId c).mp still
  rw [commissions] at place
  obtain ⟨old, member, rfl⟩ := List.mem_map.mp place
  have id : ((if old.id ∈ (s.reservedBy partnerId amountMinor order).map (·.id) then
      { old with payoutId := Option.some newId } else old)).id = old.id := by split <;> rfl
  refine (payable_stamped_iff.mp unreserved).2 ?_
  rw [← id]
  exact List.mem_map_of_mem held

omit commissions

/-! ## Withdrawing and failing -/

/-- Whatever the ledger and the accepted withdrawal, the failed payout keeps its
commissions: the pool is not what it was, and the balance is lower by all of them. -/
theorem failed_payout_keeps_commissions
    (success : createPayout settings partnerId amountMinor order now newId s = .ok created)
    (transactionReference : Option String) (later : Instant) :
    ∃ after, processPayout newId "mark_failed" transactionReference later created = .ok after ∧
      ∀ order', ¬ GivenBack s after partnerId order' ∧
        after.payableBalance order' partnerId =
          s.payableBalance order' partnerId - totalMinor (s.reservedBy partnerId amountMinor order) := by
  have accepted := createPayout_ok success
  obtain ⟨after, ran, commissions⟩ := markFailed_after accepted success transactionReference later
  refine ⟨after, ran, fun order' => ?_⟩
  refine ⟨not_givenBack commissions (reservedBy_ne_nil accepted) order', ?_⟩
  have sum := payableBalance_stamped commissions order'
  omega

/-- The partner is short of at least the amount of the failed payout. -/
theorem failed_payout_shortfall
    (success : createPayout settings partnerId amountMinor order now newId s = .ok created)
    (transactionReference : Option String) (later : Instant)
    (order' : OrderBy PartnerCommission.createdAt) :
    ∃ after, processPayout newId "mark_failed" transactionReference later created = .ok after ∧
      after.payableBalance order' partnerId + s.requestedAmount partnerId amountMinor order ≤
        s.payableBalance order' partnerId := by
  have accepted := createPayout_ok success
  obtain ⟨after, ran, commissions⟩ := markFailed_after accepted success transactionReference later
  have sum := payableBalance_stamped commissions order'
  have covers := reservedPrefix_covers _ _ accepted.covered
  refine ⟨after, ran, ?_⟩
  unfold Ledger.reservedBy at sum
  omega

/-! ## A partner with 14.70 -/

/-- The customer's commission is payable. -/
def earnedLedger : Ledger := Run.exec (ledgerStep {}) oneCustomer earned

/-- The ledger with a pending payout of the whole balance. -/
def withdrawnLedger : Ledger :=
  ledgerStep {} earnedLedger (.createPayout 5 (some 1470) (.stable _) (daysToMicros 31) 200)

theorem withdrawn : createPayout {} 5 (some 1470) (.stable _) (daysToMicros 31) 200 earnedLedger =
    .ok withdrawnLedger := rfl

theorem failed_payout_keeps_commissions_sample :
    ∃ after, processPayout 200 "mark_failed" none (daysToMicros 32) withdrawnLedger = .ok after ∧
      ∀ order', ¬ GivenBack earnedLedger after 5 order' ∧
        after.payableBalance order' 5 = earnedLedger.payableBalance order' 5 -
          totalMinor (earnedLedger.reservedBy 5 (some 1470) (.stable _)) :=
  failed_payout_keeps_commissions withdrawn none (daysToMicros 32)

/-- The payout of 14.70 fails, and nothing is left to withdraw. -/
theorem failed_payout_not_given_back :
    ∃ after, processPayout 200 "mark_failed" none (daysToMicros 32) withdrawnLedger = .ok after ∧
      ¬ GivenBack earnedLedger after 5 (.stable _) ∧
      earnedLedger.payableBalance (.stable _) 5 = 1470 ∧ after.payableBalance (.stable _) 5 = 0 ∧
      ∃ failure, createPayout {} 5 (some 1470) (.stable _) (daysToMicros 33) 201 after =
        .error failure := by
  refine ⟨_, rfl, fun back => absurd back.balance (by decide), by decide, by decide, _, rfl⟩

end Reliastra.Guarantees.FailedPayouts
