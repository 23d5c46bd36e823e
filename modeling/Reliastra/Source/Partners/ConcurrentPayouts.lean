import Reliastra.Library.Interleaving
import Reliastra.Source.Partners.LedgerInvariant

/-!
# Payout requests side by side

`create_payout` of `app/modules/partners/payouts.py` statement by statement.
Each request runs in a READ COMMITTED transaction of its own: it reads the
payable pool that is committed at that moment, and its payout and reservations
are seen by others from its commit on. A reservation updates the commission by
its key and sets one column; where it has to wait for another transaction's
update of the row, it then overwrites what that one committed.

Next to the committed ledger two records are kept: which commissions made up the
amount of which payout, and which commissions have been payable.
-/

namespace Reliastra.Source.Partners

open Reliastra.Library

structure PayoutRequest where
  partnerId : Uuid
  amountMinor : Option Int
  order : OrderBy PartnerCommission.createdAt
  now : Instant
  newId : Uuid

/-- The statements a request with an accepted amount has run. -/
inductive PayoutProgress where
  | read | inserted | reserved
  deriving DecidableEq, Repr

inductive PayoutPhase where
  | idle
  | accepted (progress : PayoutProgress) (request : PayoutRequest)
      (payable : List PartnerCommission) (amount : Int)

def LedgerOp.CreatesPayout : LedgerOp → Prop
  | .createPayout _ _ _ _ _ => True
  | _ => False

inductive PayoutAct where
  | readPool (request : PayoutRequest)
  | insertPayout
  | reserveCommissions
  | commit
  /-- The request or its worker ends without a commit. -/
  | abort
  /-- `process_payout`, or an operation of another service, in one transaction. -/
  | other (op : LedgerOp) (elsewhere : ¬ op.CreatesPayout)

/-- A commission that made up part of a payout's amount. -/
structure Counted where
  payoutId : Uuid
  commissionId : Uuid
  deriving DecidableEq, Repr

structure PayoutStore where
  ledger : Ledger
  counted : List Counted
  released : List Uuid

/-! ## Statements -/

/-- Up to the tests of the requested amount. -/
def readPool (settings : PartnerSettings) (request : PayoutRequest) (s : Ledger) :
    Except Failure (List PartnerCommission × Int) :=
  match s.profiles.get? request.partnerId with
  | none => .error (.app (resourceNotFoundException "Partner not found"))
  | some _ =>
    let payable := s.payableByPartner request.order request.partnerId
    let available := totalMinor payable
    let amount := request.amountMinor.getD available
    if amount ≤ 0 ∨ available < amount then
      .error (.app (validationException
        ("Payout amount must be between 1 and the payable balance (" ++ toString available ++ ")")))
    else if request.amountMinor = none ∧ available < settings.minimumPayoutMinor then
      .error (.app (validationException
        "Partner's payable balance is below the minimum payout threshold"))
    else .ok (payable, amount)

/-- The insert and the updates of a request, as its commit makes them visible. -/
def settlePayout (settings : PartnerSettings) (request : PayoutRequest)
    (payable : List PartnerCommission) (amount : Int) (s : Ledger) : Except Failure Ledger :=
  match s.payouts.insert (payoutOf settings request.partnerId amount request.now
      request.newId) with
  | none => .error (.flush "partner_payouts_pkey")
  | some payouts => .ok (reserveLoop request.newId amount payable { s with payouts := payouts })

/-- The commissions that are payable in a ledger. -/
def Ledger.payableIds (s : Ledger) : List Uuid :=
  (s.commissions.rows.filter (fun c => c.status = .payable)).map (·.id)

def payoutAct (settings : PartnerSettings) (shared : PayoutStore) (phase : PayoutPhase) :
    PayoutAct → PayoutStore × PayoutPhase
  | .readPool request =>
    match phase with
    | .idle =>
      match readPool settings request shared.ledger with
      | .ok (payable, amount) => (shared, .accepted .read request payable amount)
      | .error _ => (shared, .idle)
    | _ => (shared, phase)
  | .insertPayout =>
    match phase with
    | .accepted .read request payable amount =>
      match settlePayout settings request payable amount shared.ledger with
      | .ok _ => (shared, .accepted .inserted request payable amount)
      | .error _ => (shared, .idle)
    | _ => (shared, phase)
  | .reserveCommissions =>
    match phase with
    | .accepted .inserted request payable amount =>
      (shared, .accepted .reserved request payable amount)
    | _ => (shared, phase)
  | .commit =>
    match phase with
    | .accepted .reserved request payable amount =>
      match settlePayout settings request payable amount shared.ledger with
      | .ok after =>
        let counted := (reservedPrefix amount payable).map (fun c => ⟨request.newId, c.id⟩)
        ({ shared with ledger := after, counted := shared.counted ++ counted }, .idle)
      | .error _ => (shared, .idle)
    | _ => (shared, phase)
  | .abort => (shared, .idle)
  | .other op _ =>
    let after := ledgerStep settings shared.ledger op
    ({ shared with ledger := after, released := shared.released ++ after.payableIds }, phase)

/-! ## One request alone -/

/-- `create_payout` as the sequence of its statements. -/
theorem createPayout_eq_statements (settings : PartnerSettings) (request : PayoutRequest)
    (s : Ledger) :
    createPayout settings request.partnerId request.amountMinor request.order request.now
        request.newId s =
      readPool settings request s >>= fun read => settlePayout settings request read.1 read.2 s := by
  unfold createPayout readPool
  cases s.profiles.get? request.partnerId with
  | none => rfl
  | some partner =>
    dsimp only
    split
    · rfl
    split
    · rfl
    · rfl

/-- The statements of a request with nothing in between commit what
`create_payout` does. -/
theorem payoutAct_alone (settings : PartnerSettings) (request : PayoutRequest)
    (shared : PayoutStore) :
    (Run.exec (fun state action => payoutAct settings state.1 state.2 action) (shared, .idle)
      [.readPool request, .insertPayout, .reserveCommissions, .commit]).1.ledger =
      ledgerStep settings shared.ledger (.createPayout request.partnerId request.amountMinor
        request.order request.now request.newId) := by
  unfold ledgerStep
  simp only [LedgerOp.run, createPayout_eq_statements, Run.exec_cons, Run.exec_nil, payoutAct]
  cases read : readPool settings request shared.ledger with
  | error failure => rfl
  | ok found =>
    simp only [bind, Except.bind]
    cases settled : settlePayout settings request found.1 found.2 shared.ledger with
    | error failure => rfl
    | ok after => simp [settled]

/-! ## What the other operations leave alone -/

/-- Reservations, amounts and owners stay; new commissions are unreserved. -/
structure KeepsReservations (s after : Ledger) : Prop where
  commissions : ∃ (f : PartnerCommission → PartnerCommission) (new : List PartnerCommission),
    after.commissions.rows = s.commissions.rows.map f ++ new ∧
      (∀ c, (f c).id = c.id ∧ (f c).partnerId = c.partnerId ∧
        (f c).commissionAmountMinor = c.commissionAmountMinor ∧ (f c).payoutId = c.payoutId) ∧
      ∀ c ∈ new, 0 < c.commissionAmountMinor ∧ c.payoutId = none
  payouts : ∃ g : PartnerPayout → PartnerPayout, after.payouts.rows = s.payouts.rows.map g ∧
    ∀ p, (g p).id = p.id ∧ (g p).partnerId = p.partnerId ∧ (g p).amountMinor = p.amountMinor

theorem keepsReservations_of_map {s after : Ledger} (f : PartnerCommission → PartnerCommission)
    (g : PartnerPayout → PartnerPayout)
    (commissions : after.commissions.rows = s.commissions.rows.map f)
    (payouts : after.payouts.rows = s.payouts.rows.map g)
    (frame : ∀ c, (f c).id = c.id ∧ (f c).partnerId = c.partnerId ∧
      (f c).commissionAmountMinor = c.commissionAmountMinor ∧ (f c).payoutId = c.payoutId)
    (frame' : ∀ p, (g p).id = p.id ∧ (g p).partnerId = p.partnerId ∧
      (g p).amountMinor = p.amountMinor) : KeepsReservations s after :=
  ⟨⟨f, [], by rw [commissions, List.append_nil], frame, fun c member => by cases member⟩,
    ⟨g, payouts, frame'⟩⟩

theorem other_keeps (settings : PartnerSettings) (s : Ledger) (op : LedgerOp)
    (elsewhere : ¬ op.CreatesPayout) : KeepsReservations s (ledgerStep settings s op) := by
  have step := ledgerStep_effect settings s op
  generalize ledgerStep settings s op = after at step ⊢
  cases step with
  | unchanged payouts commissions =>
    exact keepsReservations_of_map id id (by rw [commissions, List.map_id])
      (by rw [payouts, List.map_id]) (fun _ => ⟨rfl, rfl, rfl, rfl⟩) (fun _ => ⟨rfl, rfl, rfl⟩)
  | recorded payment now newId same c fresh payouts commissions =>
    refine ⟨⟨id, [c], by rw [commissions, List.map_id], fun _ => ⟨rfl, rfl, rfl, rfl⟩, ?_⟩,
      ⟨id, by rw [payouts, List.map_id], fun _ => ⟨rfl, rfl, rfl⟩⟩⟩
    intro other member
    rw [List.mem_singleton.mp member]
    exact ⟨fresh.positive, fresh.unreserved⟩
  | released now same payouts commissions =>
    exact keepsReservations_of_map _ id commissions (by rw [payouts, List.map_id])
      (fun c => by split <;> exact ⟨rfl, rfl, rfl, rfl⟩) (fun _ => ⟨rfl, rfl, rfl⟩)
  | reversed kind payouts reason commissions =>
    exact keepsReservations_of_map _ id commissions (by rw [payouts, List.map_id])
      (fun c => by split <;> exact ⟨rfl, rfl, rfl, rfl⟩) (fun _ => ⟨rfl, rfl, rfl⟩)
  | reserved partnerId amountMinor order now newId same accepted payouts commissions =>
    rw [same] at elsewhere
    exact absurd trivial elsewhere
  | settled p transactionReference now same member given payouts commissions =>
    exact keepsReservations_of_map _ _ commissions payouts
      (fun c => by split <;> exact ⟨rfl, rfl, rfl, rfl⟩) (fun r => by split <;> exact ⟨rfl, rfl, rfl⟩)
  | failed p transactionReference now same member payouts commissions =>
    exact keepsReservations_of_map id _ (by rw [commissions, List.map_id]) payouts
      (fun _ => ⟨rfl, rfl, rfl, rfl⟩) (fun r => by split <;> exact ⟨rfl, rfl, rfl⟩)

/-! ## What a payout request commits -/

theorem settlePayout_ok {settings : PartnerSettings} {request : PayoutRequest}
    {payable : List PartnerCommission} {amount : Int} {s after : Ledger}
    (success : settlePayout settings request payable amount s = .ok after) :
    request.newId ∉ s.payouts.rows.map (·.id) ∧
      after.payouts.rows = s.payouts.rows ++
        [payoutOf settings request.partnerId amount request.now request.newId] ∧
      after.commissions.rows = s.commissions.rows.map (fun c =>
        if c.id ∈ (reservedPrefix amount payable).map (·.id) then
          { c with payoutId := some request.newId } else c) := by
  unfold settlePayout at success
  split at success
  · cases success
  · next payouts inserted =>
    obtain ⟨fresh, rows⟩ := Table.insert_eq_some inserted
    cases success
    rw [reserveLoop_eq]
    exact ⟨fresh, rows, updateCommissions_rows _ _ _ (fun _ => rfl)⟩

/-- The loop reserves commissions worth the amount, where the pool is worth it. -/
theorem le_total_reservedPrefix (amount : Int) (payable : List PartnerCommission)
    (covered : amount ≤ totalMinor payable) :
    amount ≤ totalMinor (reservedPrefix amount payable) := by
  induction payable generalizing amount with
  | nil => exact covered
  | cons commission rest ih =>
    unfold reservedPrefix
    split
    · next none => exact none
    · have split (later : List PartnerCommission) : totalMinor (commission :: later) =
          commission.commissionAmountMinor + totalMinor later := rfl
      rw [split] at covered ⊢
      by_cases whole : commission.commissionAmountMinor ≤ amount
      · have tail := ih (amount - min commission.commissionAmountMinor amount) (by omega)
        omega
      · have none : reservedPrefix (amount - min commission.commissionAmountMinor amount) rest =
            [] := by
          cases rest with
          | nil => rfl
          | cons next later =>
            unfold reservedPrefix
            rw [if_pos (by omega)]
        rw [none]
        have empty : totalMinor [] = 0 := rfl
        omega

end Reliastra.Source.Partners
