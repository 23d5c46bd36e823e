import Reliastra.Source.Partners.ConcurrentPayouts

/-!
# Is a commission paid out twice?

`create_payout` reads the payable pool, and reserves what it read, without a lock
or a condition on the update. Two requests that read the pool of one partner
before either commits create two payouts out of the same commissions.
`paid_out_once` says that this overlap is the only way.
-/

namespace Reliastra.Guarantees.DoublePayouts

open Reliastra.Library Source Source.Partners

variable {ι : Type}

abbrev Sessions (ι : Type) := World PayoutStore ι PayoutPhase

def sessionAct (settings : PartnerSettings) (_ : ι) (shared : PayoutStore) (phase : PayoutPhase)
    (action : PayoutAct) : PayoutStore × PayoutPhase := payoutAct settings shared phase action

/-- No commission and no payout yet, and no request under way. -/
def opening (members : List Organizations.OrganizationMember)
    (profiles : Table PartnerProfile.id) (referrals : Table PartnerReferral.id) : Sessions ι :=
  ⟨⟨.empty members profiles referrals, [], []⟩, fun _ => .idle⟩

/-- A payout that is pending or paid. -/
def Outstanding (s : Ledger) (payoutId : Uuid) : Prop :=
  ∃ p ∈ s.payouts.rows, p.id = payoutId ∧ (p.status = .pending ∨ p.status = .paid)

structure PaidOutOnce (shared : PayoutStore) : Prop where
  /-- No commission makes up part of two payouts that are pending or paid. -/
  distinct : ∀ a ∈ shared.counted, ∀ b ∈ shared.counted, a.commissionId = b.commissionId →
    a.payoutId ≠ b.payoutId →
      ¬ (Outstanding shared.ledger a.payoutId ∧ Outstanding shared.ledger b.payoutId)
  /-- The payouts that have not failed are worth at most what was ever payable. -/
  bounded : ∀ partnerId, sumWhere (fun p => p.partnerId = partnerId ∧ p.status ≠ .failed)
      PartnerPayout.amountMinor shared.ledger.payouts.rows ≤
    sumWhere (fun c => c.partnerId = partnerId ∧ c.id ∈ shared.released)
      PartnerCommission.commissionAmountMinor shared.ledger.commissions.rows

/-- The partner a request under way is for. -/
def payoutFor : PayoutPhase → Option Uuid
  | .idle => none
  | .accepted _ request _ _ => some request.partnerId

/-- A request reads the pool of a partner with no other request of the partner
under way. -/
def Unshared (w : Sessions ι) (move : ι × PayoutAct) : Prop :=
  match move.2 with
  | .readPool request => ∀ j, j ≠ move.1 → payoutFor (w.locals j) ≠ some request.partnerId
  | _ => True

/-! ## The invariant of runs without overlap -/

structure Reservations (shared : PayoutStore) : Prop where
  positive : ∀ c ∈ shared.ledger.commissions.rows, 0 < c.commissionAmountMinor
  holder : ∀ c ∈ shared.ledger.commissions.rows, ∀ payoutId, c.payoutId = some payoutId →
    ∃ p ∈ shared.ledger.payouts.rows, p.id = payoutId ∧ p.partnerId = c.partnerId
  covered : ∀ p ∈ shared.ledger.payouts.rows, p.amountMinor ≤
    sumWhere (fun c => c.payoutId = some p.id) PartnerCommission.commissionAmountMinor
      shared.ledger.commissions.rows
  counted : ∀ a ∈ shared.counted, ∃ c ∈ shared.ledger.commissions.rows,
    c.id = a.commissionId ∧ c.payoutId = some a.payoutId
  released : ∀ c ∈ shared.ledger.commissions.rows, c.status = .payable ∨ c.payoutId ≠ none →
    c.id ∈ shared.released

/-- A commission a request has read is still free. -/
def Free (shared : PayoutStore) (partnerId : Uuid) (c : PartnerCommission) : Prop :=
  ∃ row ∈ shared.ledger.commissions.rows, row.id = c.id ∧
    row.commissionAmountMinor = c.commissionAmountMinor ∧ row.partnerId = partnerId ∧
    row.payoutId = none ∧ row.id ∈ shared.released

def PhaseHolds (shared : PayoutStore) : PayoutPhase → Prop
  | .idle => True
  | .accepted _ request payable amount =>
    (payable.map (·.id)).Nodup ∧ (∀ c ∈ payable, Free shared request.partnerId c) ∧
      amount ≤ totalMinor payable

def Apart (a b : PayoutPhase) : Prop :=
  ∀ partnerId, payoutFor a = some partnerId → payoutFor b ≠ some partnerId

abbrev Invariant (w : Sessions ι) : Prop :=
  World.Holds Reservations (fun _ shared phase => PhaseHolds shared phase) Apart w

abbrev KeepsAll (w : Sessions ι) (i : ι) (after : PayoutStore × PayoutPhase) : Prop :=
  World.Keeps Reservations (fun _ shared phase => PhaseHolds shared phase) Apart w i after

theorem Reservations.paidOutOnce {shared : PayoutStore} (holds : Reservations shared) :
    PaidOutOnce shared := by
  constructor
  · intro a first b second same different _
    obtain ⟨c, member, here, held⟩ := holds.counted a first
    obtain ⟨c', member', here', held'⟩ := holds.counted b second
    have equal : c = c' := Table.eq_of_key member member' (by rw [here, here', same])
    rw [equal] at held
    exact different (Option.some.inj (held.symm.trans held'))
  · intro partnerId
    have children : ∀ p : PartnerPayout, 0 ≤ sumWhere (fun c => c.payoutId = some p.id)
        PartnerCommission.commissionAmountMinor shared.ledger.commissions.rows :=
      fun p => sumWhere_nonneg _ (fun c member _ => (holds.positive c member).le)
    calc sumWhere (fun p => p.partnerId = partnerId ∧ p.status ≠ .failed)
          PartnerPayout.amountMinor shared.ledger.payouts.rows
        ≤ sumWhere (fun p => p.partnerId = partnerId ∧ p.status ≠ .failed)
          (fun p => sumWhere (fun c => c.payoutId = some p.id)
            PartnerCommission.commissionAmountMinor shared.ledger.commissions.rows)
          shared.ledger.payouts.rows :=
          sumWhere_mono _ (fun p member outstanding => ⟨outstanding, holds.covered p member⟩)
            (fun p _ _ => children p)
      _ = sumWhere (fun c => ∃ p ∈ shared.ledger.payouts.rows,
            (p.partnerId = partnerId ∧ p.status ≠ .failed) ∧ c.payoutId = some p.id)
          PartnerCommission.commissionAmountMinor shared.ledger.commissions.rows :=
          sumWhere_children _ shared.ledger.payouts.unique _
      _ ≤ sumWhere (fun c => c.partnerId = partnerId ∧ c.id ∈ shared.released)
          PartnerCommission.commissionAmountMinor shared.ledger.commissions.rows := by
          refine sumWhere_mono _ (fun c member => ?_)
            (fun c member _ => (holds.positive c member).le)
          rintro ⟨p, place, ⟨owner, _⟩, held⟩
          obtain ⟨p', place', same, owner'⟩ := holds.holder c member p.id held
          have equal : p' = p := Table.eq_of_key place' place same
          rw [equal] at owner'
          exact ⟨⟨owner'.symm.trans owner, holds.released c member (Or.inr (by simp [held]))⟩,
            le_refl _⟩

/-! ## Other operations -/

theorem mem_payableIds {s : Ledger} {c : PartnerCommission} (member : c ∈ s.commissions.rows)
    (payable : c.status = .payable) : c.id ∈ s.payableIds :=
  List.mem_map_of_mem (List.mem_filter.mpr ⟨member, decide_eq_true payable⟩)

variable {shared : PayoutStore} {after : Ledger}

theorem Reservations.other (holds : Reservations shared)
    (keeps : KeepsReservations shared.ledger after) :
    Reservations { shared with
      ledger := after, released := shared.released ++ after.payableIds } := by
  obtain ⟨⟨f, new, rows, frame, fresh⟩, g, payouts, frame'⟩ := keeps
  have origin {c : PartnerCommission} (member : c ∈ after.commissions.rows) :
      (∃ a ∈ shared.ledger.commissions.rows, c = f a) ∨ c ∈ new := by
    rw [rows] at member
    rcases List.mem_append.mp member with old | added
    · obtain ⟨a, place, rfl⟩ := List.mem_map.mp old
      exact Or.inl ⟨a, place, rfl⟩
    · exact Or.inr added
  have sums (payoutId : Uuid) : sumWhere (fun c => c.payoutId = some payoutId)
        PartnerCommission.commissionAmountMinor after.commissions.rows =
      sumWhere (fun c => c.payoutId = some payoutId) PartnerCommission.commissionAmountMinor
        shared.ledger.commissions.rows := by
    rw [rows, sumWhere_append, sumWhere_map, sumWhere_eq_zero new
      (fun c member held => by simp [(fresh c member).2] at held), add_zero]
    exact sumWhere_congr _ (fun c _ => ⟨by rw [(frame c).2.2.2], fun _ => (frame c).2.2.1⟩)
  refine ⟨?_, ?_, ?_, ?_, ?_⟩
  · intro c member
    rcases origin member with ⟨a, place, rfl⟩ | added
    · rw [(frame a).2.2.1]
      exact holds.positive a place
    · exact (fresh c added).1
  · intro c member payoutId held
    rcases origin member with ⟨a, place, rfl⟩ | added
    · rw [(frame a).2.2.2] at held
      obtain ⟨p, there, id, owner⟩ := holds.holder a place payoutId held
      refine ⟨g p, ?_, (frame' p).1.trans id, ?_⟩
      · rw [payouts]
        exact List.mem_map_of_mem there
      · rw [(frame' p).2.1, (frame a).2.1, owner]
    · simp [(fresh c added).2] at held
  · intro p member
    rw [payouts] at member
    obtain ⟨q, place, rfl⟩ := List.mem_map.mp member
    rw [(frame' q).1, (frame' q).2.2, sums]
    exact holds.covered q place
  · intro a member
    obtain ⟨c, place, id, held⟩ := holds.counted a member
    refine ⟨f c, ?_, (frame c).1.trans id, (frame c).2.2.2.trans held⟩
    rw [rows]
    exact List.mem_append_left _ (List.mem_map_of_mem place)
  · intro c member kind
    refine List.mem_append.mpr ?_
    rcases kind with payable | held
    · exact Or.inr (mem_payableIds member payable)
    · rcases origin member with ⟨a, place, rfl⟩ | added
      · rw [(frame a).2.2.2] at held
        rw [(frame a).1]
        exact Or.inl (holds.released a place (Or.inr held))
      · exact absurd (fresh c added).2 held

theorem Free.other {partnerId : Uuid} {c : PartnerCommission} (free : Free shared partnerId c)
    (keeps : KeepsReservations shared.ledger after) :
    Free { shared with ledger := after, released := shared.released ++ after.payableIds }
      partnerId c := by
  obtain ⟨⟨f, new, rows, frame, _⟩, _⟩ := keeps
  obtain ⟨row, member, id, amount, owner, none, released⟩ := free
  refine ⟨f row, ?_, (frame row).1.trans id, (frame row).2.2.1.trans amount,
    (frame row).2.1.trans owner, (frame row).2.2.2.trans none, ?_⟩
  · rw [rows]
    exact List.mem_append_left _ (List.mem_map_of_mem member)
  · rw [(frame row).1]
    exact List.mem_append_left _ released

theorem PhaseHolds.other {phase : PayoutPhase} (holds : PhaseHolds shared phase)
    (keeps : KeepsReservations shared.ledger after) :
    PhaseHolds { shared with ledger := after, released := shared.released ++ after.payableIds }
      phase := by
  cases phase with
  | idle => trivial
  | accepted progress request payable amount =>
    exact ⟨holds.1, fun c member => (holds.2.1 c member).other keeps, holds.2.2⟩

/-! ## A request -/

theorem readPool_ok {settings : PartnerSettings} {request : PayoutRequest} {s : Ledger}
    {payable : List PartnerCommission} {amount : Int}
    (success : readPool settings request s = .ok (payable, amount)) :
    payable = s.payableByPartner request.order request.partnerId ∧ amount ≤ totalMinor payable := by
  unfold readPool at success
  split at success
  · cases success
  · dsimp only at success
    split at success
    · cases success
    · next inRange =>
      split at success
      · cases success
      · cases success
        exact ⟨rfl, by omega⟩

/-- What a request finds when it reads the pool. -/
theorem phaseHolds_read {settings : PartnerSettings} {request : PayoutRequest}
    {payable : List PartnerCommission} {amount : Int} (progress : PayoutProgress)
    (holds : Reservations shared)
    (success : readPool settings request shared.ledger = .ok (payable, amount)) :
    PhaseHolds shared (.accepted progress request payable amount) := by
  obtain ⟨rfl, covered⟩ := readPool_ok success
  refine ⟨?_, ?_, covered⟩
  · have filtered : ((shared.ledger.commissions.rows.filter
        (fun c => decide (PayableOf request.partnerId c))).map (·.id)).Nodup :=
      shared.ledger.commissions.unique.sublist (List.filter_sublist.map _)
    exact ((request.order.perm _).map _).nodup_iff.mpr filtered
  · intro c member
    obtain ⟨place, owner, payable, none⟩ := (mem_payableByPartner _ _ _ c).mp member
    exact ⟨c, place, rfl, rfl, owner, none, holds.released c place (Or.inl payable)⟩

/-- What a commission becomes when a payout reserves the commissions with these ids. -/
def reserving (ids : List Uuid) (payoutId : Uuid) (c : PartnerCommission) : PartnerCommission :=
  if c.id ∈ ids then { c with payoutId := some payoutId } else c

theorem reserving_frame (ids : List Uuid) (payoutId : Uuid) (c : PartnerCommission) :
    (reserving ids payoutId c).id = c.id ∧ (reserving ids payoutId c).partnerId = c.partnerId ∧
      (reserving ids payoutId c).commissionAmountMinor = c.commissionAmountMinor ∧
      (reserving ids payoutId c).status = c.status := by
  unfold reserving
  split <;> exact ⟨rfl, rfl, rfl, rfl⟩

theorem reserving_chosen {ids : List Uuid} {c : PartnerCommission} (chosen : c.id ∈ ids)
    (payoutId : Uuid) : (reserving ids payoutId c).payoutId = some payoutId := by
  unfold reserving
  rw [if_pos chosen]

theorem reserving_spared {ids : List Uuid} {c : PartnerCommission} (spared : c.id ∉ ids)
    (payoutId : Uuid) : reserving ids payoutId c = c := if_neg spared

/-- A reservation of free commissions takes nothing from another payout. -/
theorem sumWhere_reserving_other {ids : List Uuid} {payoutId other : Uuid}
    {rows : List PartnerCommission} (different : payoutId ≠ other)
    (free : ∀ c ∈ rows, c.id ∈ ids → c.payoutId = none) :
    sumWhere (fun c => c.payoutId = some other) PartnerCommission.commissionAmountMinor
        (rows.map (reserving ids payoutId)) =
      sumWhere (fun c => c.payoutId = some other) PartnerCommission.commissionAmountMinor rows := by
  rw [sumWhere_map]
  apply sumWhere_congr
  intro c place
  refine ⟨?_, fun _ => (reserving_frame ids payoutId c).2.2.1⟩
  by_cases chosen : c.id ∈ ids
  · rw [reserving_chosen chosen, free c place chosen]
    simp [different]
  · rw [reserving_spared chosen]

/-- A payout that held nothing holds what it reserves. -/
theorem sumWhere_reserving_self {ids : List Uuid} {payoutId : Uuid}
    {rows : List PartnerCommission} (unheld : ∀ c ∈ rows, c.payoutId ≠ some payoutId) :
    sumWhere (fun c => c.payoutId = some payoutId) PartnerCommission.commissionAmountMinor
        (rows.map (reserving ids payoutId)) =
      sumWhere (fun c => c.id ∈ ids) PartnerCommission.commissionAmountMinor rows := by
  rw [sumWhere_map]
  apply sumWhere_congr
  intro c place
  refine ⟨?_, fun _ => (reserving_frame ids payoutId c).2.2.1⟩
  by_cases chosen : c.id ∈ ids
  · exact iff_of_true (reserving_chosen chosen payoutId) chosen
  · rw [reserving_spared chosen]
    exact iff_of_false (unheld c place) chosen

/-- The rows a request reserves are free ones of its partner. -/
theorem free_of_chosen {request : PayoutRequest} {payable : List PartnerCommission} {amount : Int}
    (free : ∀ c ∈ payable, Free shared request.partnerId c) {c : PartnerCommission}
    (member : c ∈ shared.ledger.commissions.rows)
    (chosen : c.id ∈ (reservedPrefix amount payable).map (·.id)) :
    c.payoutId = none ∧ c.partnerId = request.partnerId ∧ c.id ∈ shared.released := by
  obtain ⟨x, reserved, same⟩ := List.mem_map.mp chosen
  obtain ⟨row, place, id, _, owner, none, released⟩ :=
    free x ((reservedPrefix_sublist _ _).subset reserved)
  have equal : row = c := Table.eq_of_key place member (id.trans same)
  rw [equal] at owner none released
  exact ⟨none, owner, released⟩

theorem Reservations.settle {settings : PartnerSettings} {progress : PayoutProgress}
    {request : PayoutRequest} {payable : List PartnerCommission} {amount : Int}
    (holds : Reservations shared)
    (phase : PhaseHolds shared (.accepted progress request payable amount))
    (success : settlePayout settings request payable amount shared.ledger = .ok after) :
    Reservations { shared with
      ledger := after
      counted := shared.counted ++
        (reservedPrefix amount payable).map (fun c => ⟨request.newId, c.id⟩) } := by
  obtain ⟨distinct, free, total⟩ := phase
  obtain ⟨fresh, payouts, rows⟩ := settlePayout_ok success
  set ids := (reservedPrefix amount payable).map (·.id) with idsDef
  have rows : after.commissions.rows =
      shared.ledger.commissions.rows.map (reserving ids request.newId) := rows
  have frame := reserving_frame ids request.newId
  have unheld : ∀ c ∈ shared.ledger.commissions.rows, c.payoutId ≠ some request.newId := by
    intro c member held
    obtain ⟨p, place, id, _⟩ := holds.holder c member _ held
    exact fresh (id ▸ List.mem_map_of_mem place)
  have covers : ∀ p ∈ after.payouts.rows, p.amountMinor ≤ sumWhere (fun c => c.payoutId = some p.id)
      PartnerCommission.commissionAmountMinor after.commissions.rows := by
    intro p member
    rw [payouts] at member
    rw [rows]
    rcases List.mem_append.mp member with old | added
    · have other : request.newId ≠ p.id := fun equal =>
        fresh (equal ▸ List.mem_map_of_mem old)
      rw [sumWhere_reserving_other other
        (fun c place chosen => (free_of_chosen free place chosen).1)]
      exact holds.covered p old
    · rw [List.mem_singleton.mp added]
      have reserved : sumWhere (fun c => c.id ∈ ids) PartnerCommission.commissionAmountMinor
          shared.ledger.commissions.rows = totalMinor (reservedPrefix amount payable) := by
        apply sumWhere_copies shared.ledger.commissions.rows shared.ledger.commissions.unique
          (reservedPrefix amount payable) (distinct.sublist ((reservedPrefix_sublist _ _).map _))
        intro x chosen
        obtain ⟨row, place, id, value, _⟩ := free x ((reservedPrefix_sublist _ _).subset chosen)
        exact ⟨row, place, id, value⟩
      have held : sumWhere (fun c => c.payoutId = some request.newId)
          PartnerCommission.commissionAmountMinor
          (shared.ledger.commissions.rows.map (reserving ids request.newId)) =
            totalMinor (reservedPrefix amount payable) :=
        (sumWhere_reserving_self unheld).trans reserved
      exact (le_total_reservedPrefix amount payable total).trans (le_of_eq held.symm)
  refine ⟨?_, ?_, covers, ?_, ?_⟩
  · rw [rows]
    refine List.forall_mem_map.mpr (fun c member => ?_)
    rw [(frame c).2.2.1]
    exact holds.positive c member
  · rw [rows, payouts]
    refine List.forall_mem_map.mpr (fun c member payoutId held => ?_)
    rw [(frame c).2.1]
    by_cases chosen : c.id ∈ ids
    · rw [reserving_chosen chosen] at held
      exact ⟨_, List.mem_append_right _ (List.mem_singleton.mpr rfl), Option.some.inj held,
        (free_of_chosen free member chosen).2.1.symm⟩
    · rw [reserving_spared chosen] at held
      obtain ⟨p, place, id, owner⟩ := holds.holder c member payoutId held
      exact ⟨p, List.mem_append_left _ place, id, owner⟩
  · intro a listed
    rw [rows]
    rcases List.mem_append.mp listed with old | new
    · obtain ⟨c, member, id, held⟩ := holds.counted a old
      have spared : c.id ∉ ids := by
        intro chosen
        rw [(free_of_chosen free member chosen).1] at held
        cases held
      exact ⟨_, List.mem_map_of_mem member, (frame c).1.trans id,
        by rw [reserving_spared spared, held]⟩
    · obtain ⟨x, chosen, rfl⟩ := List.mem_map.mp new
      obtain ⟨row, place, id, _⟩ := free x ((reservedPrefix_sublist _ _).subset chosen)
      have here : row.id ∈ ids := by
        rw [id, idsDef]
        exact List.mem_map_of_mem chosen
      exact ⟨_, List.mem_map_of_mem place, (frame row).1.trans id, reserving_chosen here _⟩
  · rw [rows]
    refine List.forall_mem_map.mpr (fun c member kind => ?_)
    rw [(frame c).1]
    by_cases chosen : c.id ∈ ids
    · exact (free_of_chosen free member chosen).2.2
    · rw [reserving_spared chosen] at kind
      exact holds.released c member kind

/-- The requests of other partners still find their commissions free. -/
theorem PhaseHolds.settle {settings : PartnerSettings} {progress : PayoutProgress}
    {request : PayoutRequest} {payable : List PartnerCommission} {amount : Int}
    {phase : PayoutPhase} (holds : PhaseHolds shared phase)
    (mine : PhaseHolds shared (.accepted progress request payable amount))
    (apart : payoutFor phase ≠ some request.partnerId)
    (success : settlePayout settings request payable amount shared.ledger = .ok after)
    (counted : List Counted) :
    PhaseHolds { shared with ledger := after, counted := counted } phase := by
  cases phase with
  | idle => trivial
  | accepted progress' request' payable' amount' =>
    refine ⟨holds.1, fun c member => ?_, holds.2.2⟩
    obtain ⟨row, place, id, value, owner, none, released⟩ := holds.2.1 c member
    have spared : row.id ∉ (reservedPrefix amount payable).map (·.id) := by
      intro chosen
      have theirs := (free_of_chosen mine.2.1 place chosen).2.1
      exact apart (congrArg some (owner.symm.trans theirs))
    refine ⟨row, ?_, id, value, owner, none, released⟩
    rw [(settlePayout_ok success).2.2]
    exact List.mem_map.mpr ⟨row, place, if_neg spared⟩

/-! ## One step -/

variable {settings : PartnerSettings} {w : Sessions ι}

theorem apart_symm (a b : PayoutPhase) (apart : Apart a b) : Apart b a :=
  fun partnerId second first => apart partnerId first second

theorem keeps_of_read {i : ι} {phase : PayoutPhase} (holds : Invariant w)
    (mine : PhaseHolds w.shared phase) (apart : ∀ j, j ≠ i → Apart phase (w.locals j)) :
    KeepsAll w i (w.shared, phase) :=
  ⟨holds.store, mine, fun j _ => holds.own j, apart⟩

theorem keeps_idle {i : ι} (holds : Invariant w) : KeepsAll w i (w.shared, .idle) :=
  keeps_of_read holds trivial (fun _ _ => nofun)

theorem keeps_unmoved {i : ι} (holds : Invariant w) : KeepsAll w i (w.shared, w.locals i) :=
  keeps_of_read holds (holds.own i) (fun j other => holds.pair i j other.symm)

/-- A request stays apart from the others while it writes. -/
theorem apart_of_accepted {i : ι} {progress : PayoutProgress} {request : PayoutRequest}
    {payable : List PartnerCommission} {amount : Int} (holds : Invariant w)
    (phase : w.locals i = .accepted progress request payable amount) (j : ι) (other : j ≠ i) :
    payoutFor (w.locals j) ≠ some request.partnerId :=
  holds.pair i j other.symm request.partnerId (by rw [phase]; rfl)

theorem keeps_step (i : ι) (action : PayoutAct) (holds : Invariant w)
    (unshared : Unshared w (i, action)) :
    KeepsAll w i (payoutAct settings w.shared (w.locals i) action) := by
  have own := holds.own i
  cases action with
  | readPool request =>
    simp only [payoutAct]
    split
    · split
      · next payable amount success =>
        refine keeps_of_read holds (phaseHolds_read .read holds.store success) ?_
        rintro j other partnerId ⟨⟩
        exact unshared j other
      · exact keeps_idle holds
    · exact keeps_unmoved holds
  | insertPayout =>
    simp only [payoutAct]
    split
    · next request payable amount phase =>
      rw [phase] at own
      split
      · refine keeps_of_read holds own ?_
        rintro j other partnerId ⟨⟩
        exact apart_of_accepted holds phase j other
      · exact keeps_idle holds
    · exact keeps_unmoved holds
  | reserveCommissions =>
    simp only [payoutAct]
    split
    · next request payable amount phase =>
      rw [phase] at own
      refine keeps_of_read holds own ?_
      rintro j other partnerId ⟨⟩
      exact apart_of_accepted holds phase j other
    · exact keeps_unmoved holds
  | commit =>
    simp only [payoutAct]
    split
    · next request payable amount phase =>
      rw [phase] at own
      split
      · next after success =>
        refine ⟨holds.store.settle own success, trivial, ?_, fun _ _ _ held => by cases held⟩
        intro j other
        exact (holds.own j).settle own (apart_of_accepted holds phase j other) success _
      · exact keeps_idle holds
    · exact keeps_unmoved holds
  | abort => exact keeps_idle holds
  | other op elsewhere =>
    have keeps := other_keeps settings w.shared.ledger op elsewhere
    exact ⟨holds.store.other keeps, (holds.own i).other keeps, fun j _ => (holds.own j).other keeps,
      fun j other => holds.pair i j other.symm⟩

/-! ## Runs -/

variable [DecidableEq ι]

theorem invariant_exec (members : List Organizations.OrganizationMember)
    (profiles : Table PartnerProfile.id) (referrals : Table PartnerReferral.id)
    (run : List (ι × PayoutAct))
    (unshared : Run.AllSteps (World.move (sessionAct settings)) Unshared
      (opening members profiles referrals) run) :
    Invariant (Run.exec (World.move (sessionAct settings)) (opening members profiles referrals)
      run) := by
  have initial : Invariant (opening members profiles referrals : Sessions ι) := by
    refine ⟨⟨?_, ?_, ?_, ?_, ?_⟩, fun i => trivial, fun i j _ => nofun⟩
    · exact fun c member => absurd member List.not_mem_nil
    · exact fun c member => absurd member List.not_mem_nil
    · exact fun p member => absurd member List.not_mem_nil
    · exact fun a member => absurd member List.not_mem_nil
    · exact fun c member => absurd member List.not_mem_nil
  exact World.Holds.exec_of_allSteps apart_symm (fun _ => keeps_step)
    (opening members profiles referrals) run initial unshared

/-- Where no request reads the pool of a partner with another request of the
partner under way, no commission is paid out twice. -/
theorem paid_out_once (settings : PartnerSettings)
    (members : List Organizations.OrganizationMember) (profiles : Table PartnerProfile.id)
    (referrals : Table PartnerReferral.id) (run : List (ι × PayoutAct))
    (unshared : Run.AllSteps (World.move (sessionAct settings)) Unshared
      (opening members profiles referrals) run) :
    PaidOutOnce (Run.exec (World.move (sessionAct settings))
      (opening members profiles referrals) run).shared :=
  (invariant_exec members profiles referrals run unshared).store.paidOutOnce

/-! ## Two administrators -/

/-- A partner's only referred customer, with no payment so far. -/
def oneCustomerSessions : Sessions Bool :=
  opening oneCustomer.members oneCustomer.profiles oneCustomer.referrals

/-- A payable commission of 14.70. -/
def earnings : List (Bool × PayoutAct) :=
  [(true, .other (.recordPayment ⟨1, 4900, "USD", "ref-1", none⟩ 0 100) id),
    (true, .other (.releasePayable (daysToMicros 30)) id)]

def firstPayout : PayoutRequest := ⟨5, some 1470, OrderBy.stable _, daysToMicros 31, 200⟩

def secondPayout : PayoutRequest := ⟨5, some 1470, OrderBy.stable _, daysToMicros 31, 201⟩

/-- The second request comes when the first payout is there. -/
def oneRequestAtATime : List (Bool × PayoutAct) :=
  earnings ++ [(true, .readPool firstPayout), (true, .insertPayout), (true, .reserveCommissions),
    (true, .commit), (false, .readPool secondPayout),
    (true, .other (.processPayout 200 "mark_paid" (some "wire-1") (daysToMicros 32)) id)]

theorem paid_out_once_sample :
    PaidOutOnce (Run.exec (World.move (sessionAct {})) oneCustomerSessions
      oneRequestAtATime).shared := by
  refine paid_out_once {} oneCustomer.members oneCustomer.profiles oneCustomer.referrals
    oneRequestAtATime ⟨trivial, trivial, ?_, trivial, trivial, trivial, ?_, trivial, trivial⟩
  · rintro (_ | _) other
    · nofun
    · exact absurd rfl other
  · rintro (_ | _) other
    · exact absurd rfl other
    · decide

/-- Both requests read the pool before either commits. -/
def bothRequestsAtOnce : List (Bool × PayoutAct) :=
  earnings ++ [(true, .readPool firstPayout), (false, .readPool secondPayout),
    (true, .insertPayout), (false, .insertPayout), (true, .reserveCommissions), (true, .commit),
    (false, .reserveCommissions), (false, .commit)]

/-- 29.40 are about to be paid out of a commission of 14.70. -/
theorem commission_paid_out_twice :
    ¬ PaidOutOnce (Run.exec (World.move (sessionAct {})) oneCustomerSessions
      bothRequestsAtOnce).shared := by
  have pending : sumWhere (fun p : PartnerPayout => p.partnerId = 5 ∧ p.status ≠ .failed)
      PartnerPayout.amountMinor (Run.exec (World.move (sessionAct {})) oneCustomerSessions
        bothRequestsAtOnce).shared.ledger.payouts.rows = 2940 := by decide
  have released : sumWhere (fun c : PartnerCommission => c.partnerId = 5 ∧
        c.id ∈ (Run.exec (World.move (sessionAct {})) oneCustomerSessions
          bothRequestsAtOnce).shared.released)
      PartnerCommission.commissionAmountMinor (Run.exec (World.move (sessionAct {}))
        oneCustomerSessions bothRequestsAtOnce).shared.ledger.commissions.rows = 1470 := by
    decide
  intro once
  have bound := once.bounded 5
  omega

end Reliastra.Guarantees.DoublePayouts
