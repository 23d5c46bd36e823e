import Reliastra.Source.Partners.LedgerInvariant

/-!
# Finality of settlements and reversals

`process_payout` looks at no status: it settles again what is settled, and it
settles every commission that still carries the payout's id, reversed or not.
Both results name the steps that do so and show that a run without them, and
only such a run, keeps its settlements and its reversals.
-/

namespace Reliastra.Guarantees.PayoutSettlement

open Reliastra.Library Source Source.Partners

/-! ## Settled payouts -/

def Settled (p : PartnerPayout) : Prop := p.status = .paid ∨ p.status = .failed

/-- The operation is a `process_payout` of this payout. -/
def Targets : LedgerOp → PartnerPayout → Prop
  | .processPayout payoutId _ _ _, p => p.id = payoutId
  | _, _ => False

/-- What a settlement fixes about the commissions. -/
def claims (s : Ledger) : List (Uuid × CommissionStatus × Option Uuid) :=
  s.commissions.rows.map (fun c => (c.id, c.status, c.payoutId))

/-- The steps that respect settled payouts. Repeating a settlement in every
detail, the clock reading included, is one of them. -/
structure RespectsSettled (s : Ledger) (op : LedgerOp) : Prop where
  paid : ∀ p ∈ s.payouts.rows, Settled p → ∀ transactionReference now,
    op = .processPayout p.id "mark_paid" transactionReference now →
    AcceptedReference transactionReference →
    p.status = .paid ∧ p.transactionReference = transactionReference ∧ p.paidAt = some now ∧
      ∀ c ∈ s.commissions.rows, c.payoutId = some p.id → c.status = .paid
  failed : ∀ p ∈ s.payouts.rows, Settled p → MarksFailed op p → p.status = .failed

/-- A settled payout keeps its row, and processing it leaves status and
reservation of every commission. -/
def KeepsSettled (s : Ledger) (op : LedgerOp) (after : Ledger) : Prop :=
  ∀ p ∈ s.payouts.rows, Settled p →
    p ∈ after.payouts.rows ∧ (Targets op p → claims after = claims s)

theorem keepsSettled_of_respects (settings : PartnerSettings) (s : Ledger) (op : LedgerOp)
    (ok : RespectsSettled s op) : KeepsSettled s op (ledgerStep settings s op) := by
  have step := ledgerStep_effect settings s op
  generalize ledgerStep settings s op = after at step ⊢
  intro p place settled
  cases step with
  | unchanged payouts commissions =>
    exact ⟨payouts ▸ place, fun _ => by rw [claims, claims, commissions]⟩
  | recorded payment now newId same c fresh payouts commissions =>
    exact ⟨payouts ▸ place, fun target => by rw [same] at target; exact target.elim⟩
  | released now same payouts commissions =>
    exact ⟨payouts ▸ place, fun target => by rw [same] at target; exact target.elim⟩
  | reversed kind payouts reason commissions =>
    refine ⟨payouts ▸ place, fun target => ?_⟩
    rcases kind with ⟨reference, reason, same⟩ | ⟨commissionId, reason, same⟩
    · rw [same] at target
      exact target.elim
    · rw [same] at target
      exact target.elim
  | reserved partnerId amountMinor order now newId same accepted payouts commissions =>
    exact ⟨payouts ▸ List.mem_append_left _ place, fun target => by
      rw [same] at target; exact target.elim⟩
  | settled q transactionReference now same member given payouts commissions =>
    by_cases here : p.id = q.id
    · obtain rfl : p = q := Table.eq_of_key place member here
      obtain ⟨paid, reference, clock, held⟩ :=
        ok.paid p place settled transactionReference now same given
      refine ⟨payouts ▸ List.mem_map.mpr ⟨p, place, ?_⟩, fun _ => ?_⟩
      · rw [if_pos rfl, ← paid, ← reference, ← clock]
      · rw [claims, commissions, List.map_map]
        refine List.map_congr_left (fun c row => ?_)
        simp only [Function.comp_apply]
        split
        · next holds => rw [held c row holds]
        · rfl
    · refine ⟨payouts ▸ List.mem_map.mpr ⟨p, place, if_neg here⟩, fun target => ?_⟩
      rw [same] at target
      exact absurd target here
  | failed q transactionReference now same member payouts commissions =>
    refine ⟨payouts ▸ List.mem_map.mpr ⟨p, place, ?_⟩, fun _ => by rw [claims, claims, commissions]⟩
    split
    · next here =>
      rw [← ok.failed p place settled (by rw [same]; exact ⟨here, rfl⟩)]
    · rfl

theorem respects_of_keepsSettled (settings : PartnerSettings) (s : Ledger) (op : LedgerOp)
    (kept : KeepsSettled s op (ledgerStep settings s op)) : RespectsSettled s op := by
  refine ⟨?_, ?_⟩
  · rintro p place settled transactionReference now rfl given
    obtain ⟨payouts, commissions⟩ := step_markPaid settings place now given
    obtain ⟨stays, same⟩ := kept p place settled
    have unchanged := same rfl
    have row : { p with status := .paid, transactionReference := transactionReference,
                        paidAt := some now } ∈
        (ledgerStep settings s
          (.processPayout p.id "mark_paid" transactionReference now)).payouts.rows := by
      rw [payouts]
      exact List.mem_map.mpr ⟨p, place, if_pos rfl⟩
    have written := Table.eq_of_key row stays rfl
    refine ⟨by rw [← written], by rw [← written], by rw [← written], ?_⟩
    intro c row held
    rw [claims, claims, commissions, List.map_map] at unchanged
    have fixed := List.map_inj_left.mp unchanged c row
    simp only [Function.comp_apply, if_pos held, Prod.mk.injEq, and_true, true_and] at fixed
    exact fixed.symm
  · intro p place settled fails
    cases op with
    | processPayout payoutId action transactionReference now =>
      obtain ⟨rfl, rfl⟩ := fails
      obtain ⟨payouts, _⟩ := step_markFailed settings place transactionReference now
      obtain ⟨stays, _⟩ := kept p place settled
      have row : { p with status := .failed } ∈
          (ledgerStep settings s
            (.processPayout p.id "mark_failed" transactionReference now)).payouts.rows := by
        rw [payouts]
        exact List.mem_map.mpr ⟨p, place, if_pos rfl⟩
      have written := Table.eq_of_key row stays rfl
      rw [← written]
    | _ => exact fails.elim

def KeepsRows (s later : Ledger) : Prop :=
  ∀ p ∈ s.payouts.rows, Settled p → p ∈ later.payouts.rows

theorem keepsRows_exec (settings : PartnerSettings) (s : Ledger) (run : List LedgerOp)
    (all : Run.AllSteps (ledgerStep settings) RespectsSettled s run) :
    KeepsRows s (Run.exec (ledgerStep settings) s run) := by
  have refl (s : Ledger) : KeepsRows s s := fun _ row _ => row
  have trans (s t u : Ledger) (first : KeepsRows s t) (second : KeepsRows t u) : KeepsRows s u :=
    fun p row final => second p (first p row final) final
  have moves (s : Ledger) (op : LedgerOp) (ok : RespectsSettled s op) :
      KeepsRows s (ledgerStep settings s op) :=
    fun p row final => (keepsSettled_of_respects settings s op ok p row final).1
  exact Run.exec_rel_of_allSteps refl trans moves s run all

/-- Once a payout is settled, no later operation of a run changes its row and
no later processing of it changes status or reservation of a commission,
exactly when every step of the run respects the payouts settled before it. -/
theorem settlement_terminal_iff (settings : PartnerSettings)
    (members : List Organizations.OrganizationMember) (profiles : Table PartnerProfile.id)
    (referrals : Table PartnerReferral.id) (run : List LedgerOp) :
    (∀ before middle op rest, run = before ++ middle ++ op :: rest →
      ∀ p ∈ (Run.exec (ledgerStep settings) (.empty members profiles referrals)
          before).payouts.rows, Settled p →
        p ∈ (Run.exec (ledgerStep settings) (.empty members profiles referrals)
          (before ++ middle ++ [op])).payouts.rows ∧
        (Targets op p →
          claims (Run.exec (ledgerStep settings) (.empty members profiles referrals)
              (before ++ middle ++ [op])) =
            claims (Run.exec (ledgerStep settings) (.empty members profiles referrals)
              (before ++ middle)))) ↔
      Run.AllSteps (ledgerStep settings) RespectsSettled (.empty members profiles referrals)
        run := by
  constructor
  · intro kept
    rw [Run.allSteps_iff_split]
    intro before op rest split
    apply respects_of_keepsSettled settings
    intro p place settled
    have now := kept before [] op rest (by rw [List.append_nil]; exact split) p place settled
    rw [List.append_nil, Run.exec_concat] at now
    exact now
  · intro all before middle op rest split p place settled
    rw [split, Run.allSteps_append, Run.allSteps_append] at all
    obtain ⟨⟨_, quiet⟩, ok, _⟩ := all
    rw [Run.exec_concat]
    refine keepsSettled_of_respects settings _ op ok p ?_ settled
    rw [Run.exec_append]
    exact keepsRows_exec settings _ middle quiet p place settled

/-- The commission of `earned` withdrawn in full. -/
def withdrawn : List LedgerOp :=
  earned ++ [.createPayout 5 none (.stable _) (daysToMicros 31) 200]

def freeOfMinimum : PartnerSettings := { minimumPayoutMinor := 0 }

/-- A paid payout is marked failed, and a failed one is marked paid. -/
theorem settlement_reopened :
    (∃ p ∈ (Run.exec (ledgerStep freeOfMinimum) oneCustomer
          (withdrawn ++ [.processPayout 200 "mark_paid" (some "TXN-1") 0])).payouts.rows,
        p.status = .paid ∧
        p ∉ (Run.exec (ledgerStep freeOfMinimum) oneCustomer
          (withdrawn ++ [.processPayout 200 "mark_paid" (some "TXN-1") 0,
            .processPayout 200 "mark_failed" none 1])).payouts.rows) ∧
      ∃ p ∈ (Run.exec (ledgerStep freeOfMinimum) oneCustomer
          (withdrawn ++ [.processPayout 200 "mark_failed" none 0])).payouts.rows,
        p.status = .failed ∧
        p ∉ (Run.exec (ledgerStep freeOfMinimum) oneCustomer
          (withdrawn ++ [.processPayout 200 "mark_failed" none 0,
            .processPayout 200 "mark_paid" (some "TXN-1") 1])).payouts.rows := by
  constructor
  · refine ⟨{ payoutOf freeOfMinimum 5 1470 (daysToMicros 31) 200 with
      status := .paid, transactionReference := some "TXN-1", paidAt := some 0 }, ?_, rfl, ?_⟩
    · decide
    · decide +kernel
  · refine ⟨{ payoutOf freeOfMinimum 5 1470 (daysToMicros 31) 200 with status := .failed }, ?_, rfl, ?_⟩
    · decide
    · decide

/-! ## Reversed commissions -/

/-- The step marks no payout paid that holds a reversed commission. -/
def PaysNoReversed (s : Ledger) (op : LedgerOp) : Prop :=
  ∀ p ∈ s.payouts.rows, MarksPaid op p →
    ∀ c ∈ s.commissions.rows, c.payoutId = some p.id → c.status ≠ .reversed

/-- A reversed commission is still reversed, and a payout that was not paid when
it held the commission is not paid. -/
structure StaysReversed (s later : Ledger) (c : PartnerCommission) : Prop where
  reversed : ∃ c' ∈ later.commissions.rows, c'.id = c.id ∧ c'.status = .reversed ∧
    c'.payoutId = c.payoutId
  unpaid : ∀ p ∈ s.payouts.rows, c.payoutId = some p.id → p.status ≠ .paid →
    ∃ p' ∈ later.payouts.rows, p'.id = p.id ∧ p'.status ≠ .paid

def KeepsReversed (s later : Ledger) : Prop :=
  ∀ c ∈ s.commissions.rows, c.status = .reversed → StaysReversed s later c

theorem keepsReversed_refl (s : Ledger) : KeepsReversed s s :=
  fun c member reversed => ⟨⟨c, member, rfl, reversed, rfl⟩, fun p place _ unpaid =>
    ⟨p, place, rfl, unpaid⟩⟩

theorem keepsReversed_trans (s t u : Ledger) (first : KeepsReversed s t)
    (second : KeepsReversed t u) : KeepsReversed s u := by
  intro c member reversed
  obtain ⟨⟨c', member', id', reversed', held'⟩, unpaid'⟩ := first c member reversed
  obtain ⟨⟨c'', member'', id'', reversed'', held''⟩, unpaid''⟩ := second c' member' reversed'
  refine ⟨⟨c'', member'', id''.trans id', reversed'', held''.trans held'⟩, ?_⟩
  intro p place held unpaid
  obtain ⟨p', place', same', status'⟩ := unpaid' p place held unpaid
  obtain ⟨p'', place'', same'', status''⟩ :=
    unpaid'' p' place' (by rw [held', held, same']) status'
  exact ⟨p'', place'', same''.trans same', status''⟩

/-- A commission row that a step leaves alone, next to payouts none of which
the step marks paid while it holds the commission. -/
private theorem staysReversed_of_fixed {s after : Ledger} {c : PartnerCommission}
    (reversed : c.status = .reversed) (fixed : c ∈ after.commissions.rows)
    (unpaid : ∀ p ∈ s.payouts.rows, c.payoutId = some p.id → p.status ≠ .paid →
      ∃ p' ∈ after.payouts.rows, p'.id = p.id ∧ p'.status ≠ .paid) : StaysReversed s after c :=
  ⟨⟨c, fixed, rfl, reversed, rfl⟩, unpaid⟩

theorem keepsReversed_ledgerStep (settings : PartnerSettings) (s : Ledger) (op : LedgerOp)
    (ok : PaysNoReversed s op) : KeepsReversed s (ledgerStep settings s op) := by
  have step := ledgerStep_effect settings s op
  generalize ledgerStep settings s op = after at step ⊢
  intro c member reversed
  cases step with
  | unchanged payouts commissions =>
    refine staysReversed_of_fixed reversed (commissions ▸ member) ?_
    exact fun p place _ unpaid => ⟨p, payouts ▸ place, rfl, unpaid⟩
  | recorded payment now newId same c' fresh payouts commissions =>
    refine staysReversed_of_fixed reversed (commissions ▸ List.mem_append_left _ member) ?_
    exact fun p place _ unpaid => ⟨p, payouts ▸ place, rfl, unpaid⟩
  | released now same payouts commissions =>
    refine staysReversed_of_fixed reversed ?_ ?_
    · rw [commissions]
      refine List.mem_map.mpr ⟨c, member, if_neg (fun past => ?_)⟩
      exact absurd (reversed.symm.trans past.1) nofun
    · exact fun p place _ unpaid => ⟨p, payouts ▸ place, rfl, unpaid⟩
  | reversed kind payouts reason commissions =>
    refine staysReversed_of_fixed reversed ?_ ?_
    · rw [commissions]
      refine List.mem_map.mpr ⟨c, member, if_neg (fun again => ?_)⟩
      rcases kind with ⟨reference, reason, rfl⟩ | ⟨commissionId, reason, rfl⟩
      · exact again.2.2.2 reversed
      · exact again.2.2 reversed
    · exact fun p place _ unpaid => ⟨p, payouts ▸ place, rfl, unpaid⟩
  | reserved partnerId amountMinor order now newId same accepted payouts commissions =>
    refine staysReversed_of_fixed reversed ?_ ?_
    · rw [commissions]
      refine List.mem_map.mpr ⟨c, member, if_neg (fun chosen => ?_)⟩
      obtain ⟨c', reserved, id⟩ := List.mem_map.mp chosen
      obtain ⟨member', _, payable, _⟩ := mem_of_mem_reservedBy reserved
      obtain rfl : c' = c := Table.eq_of_key member' member id
      rw [reversed] at payable
      cases payable
    · exact fun p place _ unpaid => ⟨p, payouts ▸ List.mem_append_left _ place, rfl, unpaid⟩
  | settled q transactionReference now same place given payouts commissions =>
    have elsewhere : c.payoutId ≠ some q.id :=
      fun held => ok q place (by rw [same]; exact ⟨rfl, rfl, given⟩) c member held reversed
    refine staysReversed_of_fixed reversed ?_ ?_
    · rw [commissions]
      exact List.mem_map.mpr ⟨c, member, if_neg elsewhere⟩
    · intro p row held unpaid
      rw [payouts]
      refine ⟨p, List.mem_map.mpr ⟨p, row, if_neg (fun here => ?_)⟩, rfl, unpaid⟩
      exact elsewhere (here ▸ held)
  | failed q transactionReference now same place payouts commissions =>
    refine staysReversed_of_fixed reversed (commissions ▸ member) ?_
    intro p row held unpaid
    rw [payouts]
    refine ⟨_, List.mem_map_of_mem row, ?_, ?_⟩
    · split <;> rfl
    · split
      · nofun
      · exact unpaid

theorem paysNoReversed_of_keeps (settings : PartnerSettings) (s : Ledger) (op : LedgerOp)
    (kept : KeepsReversed s (ledgerStep settings s op)) : PaysNoReversed s op := by
  intro p place pays c member held reversed
  cases op with
  | processPayout payoutId action transactionReference now =>
    obtain ⟨rfl, rfl, given⟩ := pays
    obtain ⟨_, commissions⟩ := step_markPaid settings place now given
    obtain ⟨c', member', same, still, _⟩ := (kept c member reversed).reversed
    have row : { c with status := .paid, paidAt := some now } ∈
        (ledgerStep settings s
          (.processPayout p.id "mark_paid" transactionReference now)).commissions.rows := by
      rw [commissions]
      exact List.mem_map.mpr ⟨c, member, if_pos held⟩
    rw [Table.eq_of_key member' row same] at still
    cases still
  | _ => exact pays.elim

/-- Along a run, every commission reversed at some point stays reversed and is
not paid out later, exactly when no step marks a payout paid that holds a
reversed commission. -/
theorem reversal_final_iff (settings : PartnerSettings) (s : Ledger) (run : List LedgerOp) :
    (∀ before middle rest, run = before ++ middle ++ rest →
      KeepsReversed (Run.exec (ledgerStep settings) s before)
        (Run.exec (ledgerStep settings) s (before ++ middle))) ↔
      Run.AllSteps (ledgerStep settings) PaysNoReversed s run := by
  constructor
  · intro kept
    rw [Run.allSteps_iff_split]
    intro before op rest split
    have now := kept before [op] rest (by rw [split]; simp)
    rw [Run.exec_concat] at now
    exact paysNoReversed_of_keeps settings _ op now
  · intro all before middle rest split
    rw [split, List.append_assoc, Run.allSteps_append, Run.allSteps_append] at all
    rw [Run.exec_append]
    exact Run.exec_rel_of_allSteps keepsReversed_refl keepsReversed_trans
      (keepsReversed_ledgerStep settings) _ middle all.2.1

/-- A commission reversed while a payout holds it is paid with the payout. -/
theorem reversal_undone :
    ¬ KeepsReversed
      (Run.exec (ledgerStep freeOfMinimum) oneCustomer
        (withdrawn ++ [.reverseByReference "ref-1" "refund"]))
      (Run.exec (ledgerStep freeOfMinimum) oneCustomer
        (withdrawn ++ [.reverseByReference "ref-1" "refund"] ++
          [.processPayout 200 "mark_paid" (some "TXN-1") 0])) := by
  intro kept
  have entered : ∃ c ∈ (Run.exec (ledgerStep freeOfMinimum) oneCustomer
      (withdrawn ++ [.reverseByReference "ref-1" "refund"])).commissions.rows,
      c.status = .reversed := by decide
  have left : ∀ c ∈ (Run.exec (ledgerStep freeOfMinimum) oneCustomer
      (withdrawn ++ [.reverseByReference "ref-1" "refund"] ++
        [.processPayout 200 "mark_paid" (some "TXN-1") 0])).commissions.rows,
      c.status = .paid := by decide
  obtain ⟨c, member, reversed⟩ := entered
  obtain ⟨c', member', _, still, _⟩ := (kept c member reversed).reversed
  rw [left c' member'] at still
  cases still

end Reliastra.Guarantees.PayoutSettlement
