import Reliastra.Source.Partners.LedgerInvariant

/-!
# Conservation of the partner ledger

A pending payout is worth the commissions it holds, and what a partner was paid
is the sum of its paid commissions. The operations break this in three ways,
each with an exact condition on the step (`LedgerStepOk`):

* a withdrawal of part of a commission reserves the whole commission;
* a reversal leaves the commission in the payout that had reserved it;
* marking a paid payout failed leaves its commissions paid.

A run conserves the ledger exactly when none of its steps does one of these.
-/

namespace Reliastra.Guarantees.PayoutConservation

open Reliastra.Library Source Source.Partners

/-- The conservation law, as sums over the two tables. -/
structure Conserved (s : Ledger) : Prop where
  pending : ∀ p ∈ s.payouts.rows, p.status = .pending →
    p.amountMinor = sumWhere (fun c => c.payoutId = some p.id ∧ c.status ≠ .reversed)
      PartnerCommission.commissionAmountMinor s.commissions.rows
  paid : ∀ partnerId, sumWhere (fun p => p.partnerId = partnerId ∧ p.status = .paid)
      PartnerPayout.amountMinor s.payouts.rows =
    sumWhere (fun c => c.partnerId = partnerId ∧ c.status = .paid)
      PartnerCommission.commissionAmountMinor s.commissions.rows

/-- The steps that conserve the ledger. -/
structure LedgerStepOk (settings : PartnerSettings) (s : Ledger) (op : LedgerOp) : Prop where
  /-- An accepted withdrawal is what the oldest payable commissions add up to. -/
  wholeCommissions : ∀ partnerId amountMinor order now newId,
    op = .createPayout partnerId amountMinor order now newId →
    PayoutAccepted settings s partnerId amountMinor order newId →
    ∃ count, totalMinor ((s.payableByPartner order partnerId).take count) =
      s.requestedAmount partnerId amountMinor order
  /-- A reversed commission is in no payout, or in one that failed. -/
  unreserved : ∀ c ∈ s.commissions.rows, Reverses op c →
    ∀ p ∈ s.payouts.rows, c.payoutId = some p.id → p.status = .failed
  unsettled : ∀ p ∈ s.payouts.rows, MarksFailed op p → p.status ≠ .paid

/-! ## The invariant of conserving runs -/

/-- The statuses a payout's commissions may have. -/
def Matches : PayoutStatus → CommissionStatus → Prop
  | .paid, status => status = .paid
  | .failed, status => status = .payable ∨ status = .reversed
  | _, status => status = .payable

structure Balanced (s : Ledger) : Prop where
  wellFormed : WellFormed s
  covered : ∀ p ∈ s.payouts.rows, p.amountMinor =
    sumWhere (fun c => c.payoutId = some p.id) PartnerCommission.commissionAmountMinor
      s.commissions.rows
  matched : ∀ c ∈ s.commissions.rows, ∀ p ∈ s.payouts.rows, c.payoutId = some p.id →
    Matches p.status c.status

theorem balanced_empty (members : List Organizations.OrganizationMember)
    (profiles : Table PartnerProfile.id) (referrals : Table PartnerReferral.id) :
    Balanced (.empty members profiles referrals) :=
  ⟨wellFormed_empty members profiles referrals, fun _ member => absurd member List.not_mem_nil,
    fun _ member => absurd member List.not_mem_nil⟩

/-- A paid commission of a partner is one held by a paid payout of that partner. -/
private theorem paid_iff_held {s : Ledger} (balanced : Balanced s) {c : PartnerCommission}
    (member : c ∈ s.commissions.rows) (partnerId : Uuid) :
    (∃ p ∈ s.payouts.rows, (p.partnerId = partnerId ∧ p.status = .paid) ∧
        c.payoutId = some p.id) ↔
      c.partnerId = partnerId ∧ c.status = .paid := by
  have ok := balanced.wellFormed.commission c member
  constructor
  · intro ⟨p, place, ⟨owner, paid⟩, held⟩
    obtain ⟨p', place', id, owner'⟩ := ok.reservation p.id held
    obtain rfl : p' = p := Table.eq_of_key place' place id
    have status := balanced.matched c member p' place held
    rw [paid] at status
    exact ⟨owner'.symm.trans owner, status⟩
  · intro ⟨owner, paid⟩
    obtain ⟨payoutId, held⟩ := Option.ne_none_iff_exists'.mp (ok.paidHeld paid)
    obtain ⟨p, place, rfl, owner'⟩ := ok.reservation payoutId held
    have status := balanced.matched c member p place held
    rw [paid] at status
    refine ⟨p, place, ⟨owner'.trans owner, ?_⟩, held⟩
    cases known : p.status <;> simp [known, Matches] at status ⊢

theorem Balanced.conserved {s : Ledger} (balanced : Balanced s) : Conserved s := by
  refine ⟨?_, ?_⟩
  · intro p place pending
    rw [balanced.covered p place]
    refine sumWhere_congr _ (fun c member => ⟨⟨fun held => ⟨held, ?_⟩, And.left⟩, fun _ => rfl⟩)
    have status := balanced.matched c member p place held
    rw [pending] at status
    rw [show c.status = .payable from status]
    decide
  · intro partnerId
    have covered : sumWhere (fun p => p.partnerId = partnerId ∧ p.status = .paid)
          PartnerPayout.amountMinor s.payouts.rows =
        sumWhere (fun p => p.partnerId = partnerId ∧ p.status = .paid)
          (fun p => sumWhere (fun c => c.payoutId = some p.id)
            PartnerCommission.commissionAmountMinor s.commissions.rows) s.payouts.rows :=
      sumWhere_congr _ (fun p place => ⟨Iff.rfl, fun _ => balanced.covered p place⟩)
    rw [covered, sumWhere_children s.payouts.rows s.payouts.unique]
    exact sumWhere_congr _ (fun c member => ⟨paid_iff_held balanced member partnerId, fun _ => rfl⟩)

/-! ## A conserving step keeps the invariant -/

/-- Rewriting commissions without touching amounts and reservations leaves
every payout covered. -/
theorem held_map (f : PartnerCommission → PartnerCommission) (payoutId : Uuid)
    (rows : List PartnerCommission)
    (frame : ∀ c ∈ rows, ((f c).payoutId = some payoutId ↔ c.payoutId = some payoutId) ∧
      (f c).commissionAmountMinor = c.commissionAmountMinor) :
    sumWhere (fun c => c.payoutId = some payoutId) PartnerCommission.commissionAmountMinor
        (rows.map f) =
      sumWhere (fun c => c.payoutId = some payoutId) PartnerCommission.commissionAmountMinor
        rows := by
  rw [sumWhere_map]
  exact sumWhere_congr _ (fun c member => ⟨(frame c member).1, fun _ => (frame c member).2⟩)

/-- The commissions stamped with a fresh payout id are the reserved ones. -/
theorem stamped_iff {s : Ledger} (wf : WellFormed s) {partnerId newId : Uuid}
    {amountMinor : Option Int} {order : OrderBy PartnerCommission.createdAt}
    (fresh : newId ∉ s.payouts.rows.map (·.id)) {c : PartnerCommission}
    (member : c ∈ s.commissions.rows) :
    (if c.id ∈ (s.reservedBy partnerId amountMinor order).map (·.id) then
        { c with payoutId := some newId } else c).payoutId = some newId ↔
      c.id ∈ (s.reservedBy partnerId amountMinor order).map (·.id) := by
  split
  · next chosen => exact ⟨fun _ => chosen, fun _ => rfl⟩
  · next other =>
    refine ⟨fun held => absurd ?_ fresh, fun chosen => absurd chosen other⟩
    obtain ⟨p, place, id, _⟩ := (wf.commission c member).reservation newId held
    exact id ▸ List.mem_map_of_mem place

/-- What an accepted withdrawal reserves is the sum of whole commissions. -/
theorem sum_stamped {s : Ledger} (wf : WellFormed s) {partnerId newId : Uuid}
    {amountMinor : Option Int} {order : OrderBy PartnerCommission.createdAt}
    (fresh : newId ∉ s.payouts.rows.map (·.id)) :
    sumWhere (fun c => c.payoutId = some newId) PartnerCommission.commissionAmountMinor
        (s.commissions.rows.map (fun c =>
          if c.id ∈ (s.reservedBy partnerId amountMinor order).map (·.id) then
            { c with payoutId := some newId } else c)) =
      totalMinor (s.reservedBy partnerId amountMinor order) := by
  rw [sumWhere_map]
  refine Eq.trans (sumWhere_congr _ (fun c member => ⟨stamped_iff wf fresh member, fun _ => ?_⟩))
    (sumWhere_mem_keys _ s.commissions.unique _ (reservedBy_nodup s partnerId amountMinor order)
      (fun c reserved => (mem_of_mem_reservedBy reserved).1))
  split <;> rfl

/-- What a payout holds is worth the same after any operation. -/
theorem held_step (settings : PartnerSettings) {s : Ledger} (op : LedgerOp)
    {p : PartnerPayout} (place : p ∈ s.payouts.rows) :
    sumWhere (fun c => c.payoutId = some p.id) PartnerCommission.commissionAmountMinor
        (ledgerStep settings s op).commissions.rows =
      sumWhere (fun c => c.payoutId = some p.id) PartnerCommission.commissionAmountMinor
        s.commissions.rows := by
  cases ledgerStep_effect settings s op with
  | unchanged payouts commissions => rw [commissions]
  | recorded payment now newId same c fresh payouts commissions =>
    rw [commissions, sumWhere_append, sumWhere_cons, if_neg (by simp [fresh.unreserved]),
      sumWhere_nil]
    omega
  | released now same payouts commissions =>
    rw [commissions]
    exact held_map _ _ _ (fun c _ => by split <;> exact ⟨Iff.rfl, rfl⟩)
  | reversed kind payouts reason commissions =>
    rw [commissions]
    exact held_map _ _ _ (fun c _ => by split <;> exact ⟨Iff.rfl, rfl⟩)
  | reserved partnerId amountMinor order now newId same accepted payouts commissions =>
    rw [commissions]
    apply held_map
    intro c member
    split
    · next chosen =>
      obtain ⟨c', reserved, id⟩ := List.mem_map.mp chosen
      obtain ⟨member', _, _, unreserved⟩ := mem_of_mem_reservedBy reserved
      obtain rfl : c' = c := Table.eq_of_key member' member id
      refine ⟨⟨?_, ?_⟩, rfl⟩
      · intro held
        exact absurd (Option.some.inj held ▸ List.mem_map_of_mem place) accepted.fresh
      · intro held
        rw [unreserved] at held
        cases held
    · exact ⟨Iff.rfl, rfl⟩
  | settled r transactionReference now same member given payouts commissions =>
    rw [commissions]
    exact held_map _ _ _ (fun c _ => by split <;> exact ⟨Iff.rfl, rfl⟩)
  | failed r transactionReference now same member payouts commissions => rw [commissions]

/-- Every payout is worth the commissions it holds, an old one because neither
changes and a new one because its amount is a sum of whole commissions. -/
theorem covered_step {settings : PartnerSettings} {s : Ledger} {op : LedgerOp}
    (balanced : Balanced s) (ok : LedgerStepOk settings s op) :
    ∀ p ∈ (ledgerStep settings s op).payouts.rows, p.amountMinor =
      sumWhere (fun c => c.payoutId = some p.id) PartnerCommission.commissionAmountMinor
        (ledgerStep settings s op).commissions.rows := by
  intro r place
  rcases payouts_step op place with ⟨p, old, id, amount, _⟩ | created
  · rw [amount, id, held_step settings op old]
    exact balanced.covered p old
  · obtain ⟨partnerId, amountMinor, order, now, newId, rfl, accepted, rfl⟩ := created
    rw [(step_createPayout_accepted now accepted).2]
    refine Eq.trans ?_ (sum_stamped balanced.wellFormed accepted.fresh).symm
    have positive : ∀ c ∈ s.payableByPartner order partnerId, 0 < c.commissionAmountMinor :=
      fun c payable => (balanced.wellFormed.commission c
        ((mem_payableByPartner s order partnerId c).mp payable).1).positive
    exact ((total_reservedPrefix_eq_iff _ _ positive).mpr
      (ok.wholeCommissions partnerId amountMinor order now newId rfl accepted)).symm

/-- A step that moves a payout moves the commissions it holds along. -/
theorem matched_step {settings : PartnerSettings} {s : Ledger} {op : LedgerOp}
    (balanced : Balanced s) (ok : LedgerStepOk settings s op) :
    ∀ c ∈ (ledgerStep settings s op).commissions.rows,
      ∀ p ∈ (ledgerStep settings s op).payouts.rows, c.payoutId = some p.id →
        Matches p.status c.status := by
  cases ledgerStep_effect settings s op with
  | unchanged payouts commissions =>
    rw [payouts, commissions]
    exact balanced.matched
  | recorded payment now newId same c fresh payouts commissions =>
    rw [payouts, commissions]
    intro other place p member held
    rcases List.mem_append.mp place with old | new
    · exact balanced.matched other old p member held
    · rw [List.mem_singleton.mp new, fresh.unreserved] at held
      cases held
  | released now same payouts commissions =>
    rw [payouts, commissions]
    refine List.forall_mem_map.mpr (fun c member p place => ?_)
    split
    · next past =>
      intro held
      rw [(balanced.wellFormed.commission c member).pendingFree past.1] at held
      cases held
    · exact balanced.matched c member p place
  | reversed kind payouts reason commissions =>
    rw [payouts, commissions]
    refine List.forall_mem_map.mpr (fun c member p place => ?_)
    split
    · next selected =>
      intro held
      rw [ok.unreserved c member selected p place held]
      exact Or.inr rfl
    · exact balanced.matched c member p place
  | reserved partnerId amountMinor order now newId same accepted payouts commissions =>
    rw [payouts, commissions]
    refine List.forall_mem_map.mpr (fun c member p place held => ?_)
    rcases List.mem_append.mp place with old | new
    · split at held
      · have taken : newId = p.id := Option.some.inj held
        exact absurd (taken ▸ List.mem_map_of_mem old) accepted.fresh
      · next other =>
        rw [if_neg other]
        exact balanced.matched c member p old held
    · rw [List.mem_singleton.mp new] at held ⊢
      have chosen := (stamped_iff balanced.wellFormed accepted.fresh member).mp held
      obtain ⟨c', reserved, id⟩ := List.mem_map.mp chosen
      obtain ⟨member', _, payable, _⟩ := mem_of_mem_reservedBy reserved
      obtain rfl : c' = c := Table.eq_of_key member' member id
      rw [if_pos chosen]
      exact payable
  | settled p transactionReference now same member given payouts commissions =>
    rw [payouts, commissions]
    refine List.forall_mem_map.mpr (fun c place => List.forall_mem_map.mpr (fun r row held => ?_))
    have before : c.payoutId = some r.id := by
      split at held <;> split at held <;> exact held
    by_cases here : r.id = p.id
    · rw [if_pos here, if_pos (here ▸ before)]
      exact rfl
    · have elsewhere : ¬ c.payoutId = some p.id :=
        fun other => here (Option.some.inj (before.symm.trans other))
      rw [if_neg here, if_neg elsewhere]
      exact balanced.matched c place r row before
  | failed p transactionReference now same member payouts commissions =>
    have unpaid := ok.unsettled p member (by rw [same]; exact ⟨rfl, rfl⟩)
    rw [payouts, commissions]
    intro c place
    refine List.forall_mem_map.mpr (fun r row held => ?_)
    split at held
    · next here =>
      obtain rfl : r = p := Table.eq_of_key row member here
      have status := balanced.matched c place r row held
      rw [if_pos rfl]
      -- a payout that was not paid holds payable commissions, or failed before
      cases known : r.status with
      | paid => exact absurd known unpaid
      | failed => rw [known] at status; exact status
      | pending => rw [known] at status; exact Or.inl status
      | processing => rw [known] at status; exact Or.inl status
    · next elsewhere =>
      rw [if_neg elsewhere]
      exact balanced.matched c place r row held

theorem balanced_ledgerStep (settings : PartnerSettings) (s : Ledger) (op : LedgerOp)
    (balanced : Balanced s) (ok : LedgerStepOk settings s op) :
    Balanced (ledgerStep settings s op) :=
  ⟨wellFormed_ledgerStep settings s op balanced.wellFormed, covered_step balanced ok,
    matched_step balanced ok⟩

/-! ## Any other step breaks the law -/

/-- A withdrawal of an amount the oldest commissions do not add up to leaves a
pending payout that is not worth the commissions it holds. -/
private theorem breaks_partial {settings : PartnerSettings} {s : Ledger} (wf : WellFormed s)
    {partnerId newId : Uuid} {amountMinor : Option Int} {order : OrderBy PartnerCommission.createdAt}
    (now : Instant) (accepted : PayoutAccepted settings s partnerId amountMinor order newId)
    (inexact : ¬ ∃ count, totalMinor ((s.payableByPartner order partnerId).take count) =
      s.requestedAmount partnerId amountMinor order) :
    ¬ Conserved (ledgerStep settings s (.createPayout partnerId amountMinor order now newId)) := by
  obtain ⟨payouts, commissions⟩ := step_createPayout_accepted now accepted
  intro conserved
  have worth := conserved.pending (payoutOf settings partnerId
    (s.requestedAmount partnerId amountMinor order) now newId)
    (by rw [payouts]; exact List.mem_append_right _ (List.mem_singleton.mpr rfl)) rfl
  rw [commissions] at worth
  have positive : ∀ c ∈ s.payableByPartner order partnerId, 0 < c.commissionAmountMinor :=
    fun c payable => (wf.commission c
      ((mem_payableByPartner s order partnerId c).mp payable).1).positive
  apply inexact
  refine (total_reservedPrefix_eq_iff _ _ positive).mp ?_
  refine Eq.trans (sum_stamped wf accepted.fresh).symm (Eq.trans ?_ worth.symm)
  refine sumWhere_congr _ (List.forall_mem_map.mpr (fun c member =>
    ⟨⟨fun held => ⟨held, ?_⟩, And.left⟩, fun _ => rfl⟩))
  have chosen := (stamped_iff wf accepted.fresh member).mp held
  obtain ⟨c', reserved, id⟩ := List.mem_map.mp chosen
  obtain ⟨member', _, payable, _⟩ := mem_of_mem_reservedBy reserved
  obtain rfl : c' = c := Table.eq_of_key member' member id
  rw [if_pos chosen, show c'.status = .payable from payable]
  decide

/-- Reversing a commission that a pending or paid payout holds takes its amount
from the commissions, not from the payout. -/
private theorem breaks_reversal {settings : PartnerSettings} {s : Ledger} {op : LedgerOp}
    (balanced : Balanced s) {c : PartnerCommission} (member : c ∈ s.commissions.rows)
    (selected : Reverses op c) {p : PartnerPayout} (place : p ∈ s.payouts.rows)
    (held : c.payoutId = some p.id) (working : p.status ≠ .failed) :
    ¬ Conserved (ledgerStep settings s op) := by
  obtain ⟨payouts, reason, commissions⟩ := step_reverses settings s selected
  have before := balanced.conserved
  have status := balanced.matched c member p place held
  have positive : ∀ c ∈ s.commissions.rows, 0 < c.commissionAmountMinor :=
    fun c row => (balanced.wellFormed.commission c row).positive
  have frame (p : PartnerCommission → Prop) [DecidablePred p] :
      sumWhere p PartnerCommission.commissionAmountMinor
          (ledgerStep settings s op).commissions.rows =
        sumWhere (fun c => p (if Reverses op c then
            { c with status := .reversed, reversalReason := some reason } else c))
          PartnerCommission.commissionAmountMinor s.commissions.rows := by
    rw [commissions, sumWhere_map]
    exact sumWhere_congr _ (fun c _ => ⟨Iff.rfl, fun _ => by split <;> rfl⟩)
  intro conserved
  cases known : p.status with
  | failed => exact working known
  | processing => exact (balanced.wellFormed.payout p place).status known
  | pending =>
    rw [known] at status
    have after := conserved.pending p (payouts ▸ place) known
    rw [before.pending p place known, frame] at after
    refine absurd after (ne_of_gt (sumWhere_lt_of_drop _ ?_ (fun c row _ => positive c row) ?_))
    · intro c' _ kept
      split at kept
      · exact absurd rfl kept.2
      · exact kept
    · refine ⟨c, member, ⟨held, ?_⟩, ?_⟩
      · rw [show c.status = .payable from status]
        decide
      · rw [if_pos selected]
        exact fun kept => kept.2 rfl
  | paid =>
    rw [known] at status
    have after := conserved.paid c.partnerId
    rw [payouts, before.paid c.partnerId, frame] at after
    refine absurd after (ne_of_gt (sumWhere_lt_of_drop _ ?_ (fun c row _ => positive c row) ?_))
    · intro c' _ kept
      split at kept
      · exact absurd kept.2 nofun
      · exact kept
    · refine ⟨c, member, ⟨rfl, status⟩, ?_⟩
      rw [if_pos selected]
      exact fun kept => absurd kept.2 nofun

/-- Marking a paid payout failed takes it from what the partner was paid and
leaves its commissions paid. -/
private theorem breaks_unsettling {settings : PartnerSettings} {s : Ledger} {op : LedgerOp}
    (balanced : Balanced s) {p : PartnerPayout} (place : p ∈ s.payouts.rows)
    (fails : MarksFailed op p) (paid : p.status = .paid) :
    ¬ Conserved (ledgerStep settings s op) := by
  cases op with
  | processPayout payoutId action transactionReference now =>
    obtain ⟨rfl, rfl⟩ := fails
    obtain ⟨payouts, commissions⟩ := step_markFailed settings place transactionReference now
    intro conserved
    have after := conserved.paid p.partnerId
    rw [commissions, ← balanced.conserved.paid p.partnerId, payouts, sumWhere_map] at after
    have same : sumWhere (fun r => (if r.id = p.id then { r with status := .failed } else
            r).partnerId = p.partnerId ∧
          (if r.id = p.id then { r with status := .failed } else r).status = .paid)
        (fun r => (if r.id = p.id then { r with status := .failed } else r).amountMinor)
        s.payouts.rows =
      sumWhere (fun r => (r.partnerId = p.partnerId ∧ r.status = .paid) ∧ r.id ≠ p.id)
        PartnerPayout.amountMinor s.payouts.rows := by
      refine sumWhere_congr _ (fun r _ => ?_)
      split
      · next here =>
        exact ⟨⟨fun both => absurd both.2 nofun, fun both => absurd here both.2⟩, fun _ => rfl⟩
      · next elsewhere => exact ⟨⟨fun both => ⟨both, elsewhere⟩, And.left⟩, fun _ => rfl⟩
    rw [same] at after
    refine absurd after (ne_of_lt (sumWhere_lt_of_drop _ (fun r _ both => both.1)
      (fun r row _ => (balanced.wellFormed.payout r row).positive) ?_))
    exact ⟨p, place, ⟨rfl, paid⟩, fun both => both.2 rfl⟩
  | _ => exact fails.elim

theorem breaks_conservation (settings : PartnerSettings) (s : Ledger) (op : LedgerOp)
    (balanced : Balanced s) (missed : ¬ LedgerStepOk settings s op) :
    ¬ Conserved (ledgerStep settings s op) := by
  intro conserved
  apply missed
  refine ⟨?_, ?_, ?_⟩
  · rintro partnerId amountMinor order now newId rfl accepted
    by_contra inexact
    exact breaks_partial balanced.wellFormed now accepted inexact conserved
  · intro c member selected p place held
    by_contra working
    exact breaks_reversal balanced member selected place held working conserved
  · intro p place fails paid
    exact breaks_unsettling balanced place fails paid conserved

/-- Every state of a run from the empty ledger is conserved exactly when no
step of the run withdraws part of a commission, reverses a commission out of a
pending or paid payout, or marks a paid payout failed. -/
theorem ledger_conserved_iff (settings : PartnerSettings)
    (members : List Organizations.OrganizationMember) (profiles : Table PartnerProfile.id)
    (referrals : Table PartnerReferral.id) (run : List LedgerOp) :
    (∀ before after, run = before ++ after →
        Conserved (Run.exec (ledgerStep settings) (.empty members profiles referrals) before)) ↔
      Run.AllSteps (ledgerStep settings) (LedgerStepOk settings)
        (.empty members profiles referrals) run :=
  Run.forall_states_iff_allSteps (fun _ => Balanced.conserved) (balanced_ledgerStep settings)
    (breaks_conservation settings) _ run (balanced_empty members profiles referrals)

/-! ## Runs that lose money -/

/-- Withdrawing one cent, and a chargeback after the withdrawal. -/
theorem ledger_not_conserved :
    ¬ Conserved (Run.exec (ledgerStep {}) oneCustomer (earned ++
        [.createPayout 5 (some 1) (.stable _) (daysToMicros 31) 200])) ∧
      ¬ Conserved (Run.exec (ledgerStep { minimumPayoutMinor := 0 }) oneCustomer (earned ++
        [.createPayout 5 none (.stable _) (daysToMicros 31) 200,
          .reverseByReference "ref-1" "refund"])) := by
  constructor
  · intro conserved
    exact absurd (conserved.pending (payoutOf {} 5 1 (daysToMicros 31) 200) (by decide) rfl)
      (by decide)
  · intro conserved
    exact absurd (conserved.pending (payoutOf {} 5 1470 (daysToMicros 31) 200)
      (by decide) rfl) (by decide)

end Reliastra.Guarantees.PayoutConservation
