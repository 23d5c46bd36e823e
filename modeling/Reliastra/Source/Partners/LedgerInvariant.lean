import Reliastra.Library.Run
import Reliastra.Source.Partners.LedgerEffects

/-!
# What holds of every ledger

`WellFormed` is kept by every operation, so it holds of every ledger a run
reaches, whatever the operations are and whoever calls them.
-/

namespace Reliastra.Source.Partners

open Reliastra.Library

/-- A commission row against the payouts of its ledger. -/
structure CommissionOk (payouts : List PartnerPayout) (c : PartnerCommission) : Prop where
  positive : 0 < c.commissionAmountMinor
  reservation : ∀ payoutId, c.payoutId = some payoutId →
    ∃ p ∈ payouts, p.id = payoutId ∧ p.partnerId = c.partnerId
  pendingFree : c.status = .pending → c.payoutId = none
  paidHeld : c.status = .paid → c.payoutId ≠ none

/-- A payout row; no operation writes `PayoutStatus.PROCESSING`. -/
structure PayoutOk (p : PartnerPayout) : Prop where
  positive : 0 < p.amountMinor
  status : p.status ≠ .processing

structure WellFormed (s : Ledger) : Prop where
  commission : ∀ c ∈ s.commissions.rows, CommissionOk s.payouts.rows c
  payout : ∀ p ∈ s.payouts.rows, PayoutOk p

theorem wellFormed_empty (members : List Organizations.OrganizationMember)
    (profiles : Table PartnerProfile.id) (referrals : Table PartnerReferral.id) :
    WellFormed (.empty members profiles referrals) :=
  ⟨fun _ member => absurd member List.not_mem_nil, fun _ member => absurd member List.not_mem_nil⟩

/-- A commission stays well formed while no payout is deleted. -/
theorem CommissionOk.mono {payouts payouts' : List PartnerPayout} {c : PartnerCommission}
    (ok : CommissionOk payouts c)
    (kept : ∀ p ∈ payouts, ∃ p' ∈ payouts', p'.id = p.id ∧ p'.partnerId = p.partnerId) :
    CommissionOk payouts' c := by
  refine ⟨ok.positive, ?_, ok.pendingFree, ok.paidHeld⟩
  intro payoutId held
  obtain ⟨p, member, id, owner⟩ := ok.reservation payoutId held
  obtain ⟨p', member', id', owner'⟩ := kept p member
  exact ⟨p', member', id'.trans id, owner'.trans owner⟩

theorem CommissionOk.map {payouts : List PartnerPayout} {c : PartnerCommission}
    (ok : CommissionOk payouts c) (f : PartnerPayout → PartnerPayout)
    (frame : ∀ p, (f p).id = p.id ∧ (f p).partnerId = p.partnerId) :
    CommissionOk (payouts.map f) c :=
  ok.mono (fun p member => ⟨f p, List.mem_map_of_mem member, frame p⟩)

theorem wellFormed_ledgerStep (settings : PartnerSettings) (s : Ledger) (op : LedgerOp)
    (wf : WellFormed s) : WellFormed (ledgerStep settings s op) := by
  have step := ledgerStep_effect settings s op
  generalize ledgerStep settings s op = after at step ⊢
  cases step with
  | unchanged payouts commissions =>
    refine ⟨?_, ?_⟩
    · rw [commissions, payouts]
      exact wf.commission
    · rw [payouts]
      exact wf.payout
  | recorded payment now newId same c fresh payouts commissions =>
    refine ⟨?_, ?_⟩
    · rw [commissions, payouts]
      intro other place
      rcases List.mem_append.mp place with old | new
      · exact wf.commission other old
      · rw [List.mem_singleton.mp new]
        exact ⟨fresh.positive, fun payoutId held => by simp [fresh.unreserved] at held,
          fun _ => fresh.unreserved, fun paid => by simp [fresh.pending] at paid⟩
    · rw [payouts]
      exact wf.payout
  | released now same payouts commissions =>
    refine ⟨?_, ?_⟩
    · rw [commissions, payouts]
      refine List.forall_mem_map.mpr (fun c member => ?_)
      have ok := wf.commission c member
      split
      · exact ⟨ok.positive, ok.reservation, nofun, nofun⟩
      · exact ok
    · rw [payouts]
      exact wf.payout
  | reversed kind payouts reason commissions =>
    refine ⟨?_, ?_⟩
    · rw [commissions, payouts]
      refine List.forall_mem_map.mpr (fun c member => ?_)
      have ok := wf.commission c member
      split
      · exact ⟨ok.positive, ok.reservation, nofun, nofun⟩
      · exact ok
    · rw [payouts]
      exact wf.payout
  | reserved partnerId amountMinor order now newId same accepted payouts commissions =>
    refine ⟨?_, ?_⟩
    · rw [commissions, payouts]
      refine List.forall_mem_map.mpr (fun c member => ?_)
      have ok := wf.commission c member
      split
      · next chosen =>
        obtain ⟨c', reserved, id⟩ := List.mem_map.mp chosen
        obtain ⟨member', owner, payable, _⟩ := mem_of_mem_reservedBy reserved
        obtain rfl : c' = c := Table.eq_of_key member' member id
        refine ⟨ok.positive, ?_, fun pending => by simp [payable] at pending, nofun⟩
        intro payoutId held
        exact ⟨_, List.mem_append_right _ (List.mem_singleton.mpr rfl), Option.some.inj held,
          owner.symm⟩
      · exact ok.mono (fun p place => ⟨p, List.mem_append_left _ place, rfl, rfl⟩)
    · rw [payouts]
      intro p place
      rcases List.mem_append.mp place with old | new
      · exact wf.payout p old
      · rw [List.mem_singleton.mp new]
        exact ⟨accepted.positive, nofun⟩
  | settled p transactionReference now same member given payouts commissions =>
    refine ⟨?_, ?_⟩
    · rw [commissions, payouts]
      refine List.forall_mem_map.mpr (fun c member => ?_)
      have ok := (wf.commission c member).map (fun r => if r.id = p.id then
        { r with status := .paid, transactionReference := transactionReference, paidAt := some now }
        else r) (fun r => by split <;> exact ⟨rfl, rfl⟩)
      split
      · next held => exact ⟨ok.positive, ok.reservation, nofun, fun _ => by simp [held]⟩
      · exact ok
    · rw [payouts]
      refine List.forall_mem_map.mpr (fun r place => ?_)
      have ok := wf.payout r place
      split
      · exact ⟨ok.positive, nofun⟩
      · exact ok
  | failed p transactionReference now same member payouts commissions =>
    refine ⟨?_, ?_⟩
    · rw [commissions, payouts]
      intro c place
      exact (wf.commission c place).map _ (fun r => by split <;> exact ⟨rfl, rfl⟩)
    · rw [payouts]
      refine List.forall_mem_map.mpr (fun r place => ?_)
      have ok := wf.payout r place
      split
      · exact ⟨ok.positive, nofun⟩
      · exact ok

theorem wellFormed_exec (settings : PartnerSettings) (s : Ledger) (run : List LedgerOp)
    (wf : WellFormed s) : WellFormed (Run.exec (ledgerStep settings) s run) :=
  Run.exec_invariant (wellFormed_ledgerStep settings) s run wf

/-! ## A short history -/

/-- A partner with one referred customer. -/
def oneCustomer : Ledger :=
  .empty [⟨1, 1, 10, .owner, 0, false⟩] ⟨[⟨5, 50, .active⟩], by decide⟩
    ⟨[⟨7, 5, 10, .signedUp, none⟩], by decide⟩

/-- The customer pays 49.00 and the hold elapses: a payable commission of 14.70. -/
def earned : List LedgerOp :=
  [.recordPayment ⟨1, 4900, "USD", "ref-1", none⟩ 0 100, .releasePayable (daysToMicros 30)]

end Reliastra.Source.Partners
