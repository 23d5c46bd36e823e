import Reliastra.Library.Run
import Reliastra.Source.Billing.PaymentEvents
import Reliastra.Source.Partners.LedgerInvariant

/-!
# Commissions and the order of webhooks

Paystack delivers the events of a payment in any order. What its commissions come
to depends on which events get through, and on their order exactly where a charge
that earns a commission meets a reversal: the reversal acts on what is recorded,
and the charge asks nobody whether the payment was given back.
-/

namespace Reliastra.Guarantees.DeliveryOrder

open Reliastra.Library Reliastra.Source Reliastra.Source.Billing Reliastra.Source.Partners

/-! ## The commissions of a payment, event by event -/

/-- The live commissions of a payment, and the one a charge would record. -/
structure Standing where
  live : List CommissionEntry
  due : Option CommissionEntry

def Standing.after (s : Standing) : PaymentEvent → Standing
  | .charge => ⟨s.live ++ s.due.toList, none⟩
  | .reversal => ⟨[], s.due⟩

theorem after_nothing_due (live : List CommissionEntry) (events : List PaymentEvent) :
    events.foldl Standing.after ⟨live, none⟩ =
      ⟨if .reversal ∈ events then [] else live, none⟩ := by
  induction events generalizing live with
  | nil => rfl
  | cons event rest ih =>
    rw [List.foldl_cons]
    cases event with
    | charge =>
      have first : Standing.after ⟨live, none⟩ .charge = ⟨live, none⟩ := by
        simp [Standing.after]
      rw [first, ih]
      simp
    | reversal =>
      have first : Standing.after ⟨live, none⟩ .reversal = ⟨[], none⟩ := rfl
      rw [first, ih]
      simp

theorem after_charges (s : Standing) (events : List PaymentEvent)
    (charges : ∀ event ∈ events, event = .charge) :
    (events.foldl Standing.after s).live =
      if events = [] then s.live else s.live ++ s.due.toList := by
  cases events with
  | nil => rfl
  | cons event rest =>
    obtain rfl := charges event List.mem_cons_self
    have kept : .reversal ∉ rest := by
      intro member
      have other := charges _ (List.mem_cons_of_mem _ member)
      cases other
    have first : s.after .charge = ⟨s.live ++ s.due.toList, none⟩ := rfl
    rw [List.foldl_cons, first, after_nothing_due, if_neg kept, if_neg (List.cons_ne_nil _ _)]

theorem after_reversals (s : Standing) (events : List PaymentEvent)
    (reversals : ∀ event ∈ events, event = .reversal) :
    events.foldl Standing.after s = ⟨if events = [] then s.live else [], s.due⟩ := by
  induction events generalizing s with
  | nil => rfl
  | cons event rest ih =>
    obtain rfl := reversals event List.mem_cons_self
    have later := ih (s.after .reversal) (fun other member =>
      reversals other (List.mem_cons_of_mem _ member))
    rw [List.foldl_cons, later]
    simp [Standing.after]

/-- Unless a charge that records meets a reversal, which events get through is all
that counts. -/
theorem after_congr (s : Standing) {events others : List PaymentEvent}
    (same : ∀ event, event ∈ events ↔ event ∈ others)
    (apart : s.due = none ∨ .charge ∉ events ∨ .reversal ∉ events) :
    (events.foldl Standing.after s).live = (others.foldl Standing.after s).live := by
  have empty : events = [] ↔ others = [] := by
    simp only [List.eq_nil_iff_forall_not_mem, same]
  rcases apart with nothing | uncharged | kept
  · obtain ⟨live, due⟩ := s
    obtain rfl : due = none := nothing
    rw [after_nothing_due, after_nothing_due]
    simp only [same]
  · have reversals (list : List PaymentEvent) (without : .charge ∉ list) :
        ∀ event ∈ list, event = .reversal := by
      intro event member
      cases event with
      | charge => exact absurd member without
      | reversal => rfl
    have uncharged' : .charge ∉ others := fun member => uncharged ((same _).mpr member)
    rw [after_reversals s _ (reversals _ uncharged), after_reversals s _ (reversals _ uncharged')]
    simp only [empty]
  · have charges (list : List PaymentEvent) (without : .reversal ∉ list) :
        ∀ event ∈ list, event = .charge := by
      intro event member
      cases event with
      | charge => rfl
      | reversal => exact absurd member without
    have kept' : .reversal ∉ others := fun member => kept ((same _).mpr member)
    rw [after_charges s _ (charges _ kept), after_charges s _ (charges _ kept')]
    simp only [empty]

/-! ## Which deliveries get through -/

variable {host : Runtime} {settings : BillingSettings} {reference : String}
variable {answer : PaystackReply} {call other : WebhookCall} {redis : Redis String}

theorem admitted_iff (signed : checkSignature host settings call = .ok ()) :
    admitted host settings call redis = true ↔
      ∀ eventId, webhookEventId host call.event call.data.asDict = some eventId →
        ¬ Claimed redis eventId call.now ∧ call.claim = .delivered := by
  unfold admitted
  rw [signed]
  cases event : webhookEventId host call.event call.data.asDict with
  | none => simp
  | some eventId =>
    simp only [Option.some.injEq, forall_eq']
    by_cases claimed : Claimed redis eventId call.now
    · rw [claim_claimed claimed]
      simp [claimed]
    · rw [claim_free claimed]
      simp [claimed]

/-- A delivery that does not get through leaves Redis alone. -/
theorem redisAfter_skipped (concerns : Concerns host settings reference answer call)
    (skipped : admitted host settings call redis = false) : redisAfter host call redis = redis := by
  have blocked : ¬ admitted host settings call redis = true := by simp [skipped]
  rw [admitted_iff concerns.signed] at blocked
  unfold redisAfter
  cases event : webhookEventId host call.event call.data.asDict with
  | none => rfl
  | some eventId =>
    dsimp only
    by_cases claimed : Claimed redis eventId call.now
    · rw [claim_claimed claimed]
    · have lost : call.claim = .requestLost := by
        cases outcome : call.claim with
        | delivered =>
          refine absurd ?_ blocked
          intro named same
          obtain rfl := Option.some.inj (event.symm.trans same)
          exact ⟨claimed, outcome⟩
        | requestLost => rfl
        | answerLost => exact absurd outcome concerns.claim
      rw [claim_free claimed, if_pos lost]

/-- Redis after a delivery that gets through. -/
theorem redisAfter_admitted (concerns : Concerns host settings reference answer call)
    (processed : admitted host settings call redis = true) :
    redisAfter host call redis = match webhookEventId host call.event call.data.asDict with
      | none => redis
      | some eventId => claimAt redis eventId call.now := by
  rw [admitted_iff concerns.signed] at processed
  unfold redisAfter
  cases event : webhookEventId host call.event call.data.asDict with
  | none => rfl
  | some eventId =>
    obtain ⟨free, delivered⟩ := processed eventId event
    dsimp only
    rw [claim_free free, delivered]
    rfl

def paymentEvents : List String := "charge.success" :: reversalEvents

theorem event_mem (concerns : Concerns host settings reference answer call) :
    call.event ∈ paymentEvents := by
  rcases concerns.event with ⟨event, _⟩ | ⟨event, _⟩
  · rw [event]
    exact List.mem_cons_self
  · exact List.mem_cons_of_mem _ event

/-- The identifier of an event begins with its name, and eight characters tell a
charge from a reversal. -/
theorem paymentEvent_of_eventId {eventId : String}
    (concerns : Concerns host settings reference answer call)
    (concerns' : Concerns host settings reference answer other)
    (event : webhookEventId host call.event call.data.asDict = some eventId)
    (event' : webhookEventId host other.event other.data.asDict = some eventId) :
    call.paymentEvent = other.paymentEvent := by
  have named {delivery : WebhookCall}
      (identified : webhookEventId host delivery.event delivery.data.asDict = some eventId)
      (long : 8 ≤ delivery.event.toList.length) :
      eventId.toList.take 8 = delivery.event.toList.take 8 := by
    unfold webhookEventId at identified
    dsimp only at identified
    split at identified
    · cases identified
    · cases identified
      rw [String.toList_append, String.toList_append, List.append_assoc,
        List.take_append_of_le_length long]
  have long : ∀ name ∈ paymentEvents, 8 ≤ name.toList.length := by decide
  have told : ∀ name ∈ paymentEvents, ∀ name' ∈ paymentEvents,
      name.toList.take 8 = name'.toList.take 8 →
        (name = "charge.success" ↔ name' = "charge.success") := by decide
  have first := named event (long _ (event_mem concerns))
  have second := named event' (long _ (event_mem concerns'))
  have same := told _ (event_mem concerns) _ (event_mem concerns') (first.symm.trans second)
  unfold WebhookCall.paymentEvent
  simp only [same]

/-- A claim keeps nothing alive that was not alive before it. -/
theorem admitted_before (concerns : Concerns host settings reference answer call)
    (processed : admitted host settings call redis = true)
    (concerns' : Concerns host settings reference answer other)
    (later : admitted host settings other (redisAfter host call redis) = true) :
    admitted host settings other redis = true := by
  rw [redisAfter_admitted concerns processed] at later
  rw [admitted_iff concerns.signed] at processed
  rw [admitted_iff concerns'.signed] at later ⊢
  intro otherId event'
  obtain ⟨free', delivered'⟩ := later otherId event'
  refine ⟨?_, delivered'⟩
  cases event : webhookEventId host call.event call.data.asDict with
  | none =>
    rw [event] at free'
    exact free'
  | some eventId =>
    rw [event] at free'
    dsimp only at free'
    rw [claimed_claimAt, not_or] at free'
    obtain ⟨recent, different⟩ := free'
    by_cases same : otherId = eventId
    · subst same
      have expired : call.now + claimTtl ≤ other.now := not_lt.mp (fun early => recent ⟨rfl, early⟩)
      have free := (processed otherId event).1
      unfold Claimed at free ⊢
      rw [Redis.live_isSome_iff] at free ⊢
      intro ⟨entry, stored, key, alive⟩
      refine free ⟨entry, stored, key, ?_⟩
      calc call.now < call.now + claimTtl := lt_add_claimTtl call.now
        _ ≤ other.now := expired
        _ < entry.expiresAt := alive
    · exact fun claimed => different ⟨same, claimed⟩

/-- A delivery is only kept out by one of its own kind. -/
theorem paymentEvent_of_kept_out (concerns : Concerns host settings reference answer call)
    (processed : admitted host settings call redis = true)
    (concerns' : Concerns host settings reference answer other)
    (before : admitted host settings other redis = true)
    (later : ¬ admitted host settings other (redisAfter host call redis) = true) :
    call.paymentEvent = other.paymentEvent := by
  rw [redisAfter_admitted concerns processed] at later
  cases event : webhookEventId host call.event call.data.asDict with
  | none =>
    rw [event] at later
    exact absurd before later
  | some eventId =>
    rw [event, admitted_iff concerns'.signed] at later
    rw [admitted_iff concerns'.signed] at before
    push Not at later
    obtain ⟨otherId, event', blocked⟩ := later
    obtain ⟨free, delivered⟩ := before otherId event'
    have claimed : Claimed (claimAt redis eventId call.now) otherId other.now := by
      by_contra still
      exact blocked still delivered
    rw [claimed_claimAt] at claimed
    rcases claimed with ⟨rfl, _⟩ | ⟨_, claimed⟩
    · exact paymentEvent_of_eventId concerns concerns' event event'
    · exact absurd claimed free

/-- The events of the deliveries that get through, in their order. -/
def processed (host : Runtime) (settings : BillingSettings) (redis : Redis String) :
    List WebhookCall → List PaymentEvent
  | [] => []
  | call :: rest =>
    let later := processed host settings (redisAfter host call redis) rest
    if admitted host settings call redis then call.paymentEvent :: later else later

/-- The order of the deliveries has no say in which kinds of event get through. -/
theorem mem_processed (redis : Redis String) (calls : List WebhookCall)
    (concern : ∀ call ∈ calls, Concerns host settings reference answer call)
    (event : PaymentEvent) :
    event ∈ processed host settings redis calls ↔
      ∃ call ∈ calls, call.paymentEvent = event ∧ admitted host settings call redis = true := by
  induction calls generalizing redis with
  | nil => simp [processed]
  | cons call rest ih =>
    have first := concern call List.mem_cons_self
    have others := fun c member => concern c (List.mem_cons_of_mem _ member)
    have later := ih (redisAfter host call redis) others
    unfold processed
    dsimp only
    cases through : admitted host settings call redis with
    | false =>
      rw [redisAfter_skipped first through] at later ⊢
      simp only [Bool.false_eq_true, if_false, later, List.exists_mem_cons_iff, through, and_false,
        false_or]
    | true =>
      rw [if_pos rfl, List.mem_cons, later, List.exists_mem_cons_iff]
      simp only [through, and_true]
      constructor
      · rintro (rfl | ⟨c, member, kind, passes⟩)
        · exact .inl rfl
        · exact .inr ⟨c, member, kind, admitted_before first through (others c member) passes⟩
      · rintro (rfl | ⟨c, member, kind, passes⟩)
        · exact .inl rfl
        · by_cases still : admitted host settings c (redisAfter host call redis) = true
          · exact .inr ⟨c, member, kind, still⟩
          · left
            rw [← kind]
            exact (paymentEvent_of_kept_out first through (others c member) passes still).symm

theorem processed_append (host : Runtime) (settings : BillingSettings) (redis : Redis String)
    (first second : List WebhookCall) :
    ∃ later, processed host settings redis (first ++ second) =
      processed host settings redis first ++ processed host settings later second := by
  induction first generalizing redis with
  | nil => exact ⟨redis, rfl⟩
  | cons call rest ih =>
    obtain ⟨later, same⟩ := ih (redisAfter host call redis)
    refine ⟨later, ?_⟩
    simp only [List.cons_append, processed, same]
    split <;> rfl

theorem kind_of_processed (host : Runtime) (settings : BillingSettings) (redis : Redis String)
    (calls : List WebhookCall) {event : PaymentEvent}
    (kind : ∀ call ∈ calls, call.paymentEvent = event) :
    ∀ other ∈ processed host settings redis calls, other = event := by
  induction calls generalizing redis with
  | nil => exact fun other member => absurd member List.not_mem_nil
  | cons call rest ih =>
    have later := ih (redisAfter host call redis)
      (fun c member => kind c (List.mem_cons_of_mem _ member))
    intro other member
    unfold processed at member
    dsimp only at member
    split at member
    · rcases List.mem_cons.mp member with rfl | member
      · exact kind call List.mem_cons_self
      · exact later other member
    · exact later other member

/-! ## Runs of deliveries -/

/-- The state after the deliveries. -/
def afterAll (host : Runtime) (settings : BillingSettings) (w : World) (calls : List WebhookCall) :
    World :=
  Run.exec (fun w call => billingStep host settings w (.webhook call)) w calls

/-- The database is where the standing says, and a charge among the deliveries
finds an identifier nobody has. -/
structure Stands (host : Runtime) (settings : BillingSettings) (reference : String)
    (answer : PaystackReply) (calls : List WebhookCall) (db : Database) (s : Standing) : Prop where
  live : db.ledger.liveEntries reference = s.live
  due : ∀ entry, s.due = some entry ↔ Due host settings reference answer db entry
  fresh : s.due.isSome → ∀ call ∈ calls, call.newId ∉ db.ledger.commissions.rows.map (·.id)

theorem exists_standing {calls : List WebhookCall} {db : Database}
    (fresh : ∀ call ∈ calls, call.newId ∉ db.ledger.commissions.rows.map (·.id)) :
    ∃ due, Stands host settings reference answer calls db
      ⟨db.ledger.liveEntries reference, due⟩ := by
  by_cases earns : ∃ entry, Due host settings reference answer db entry
  · obtain ⟨entry, due⟩ := earns
    refine ⟨some entry, rfl, fun other => ⟨?_, ?_⟩, fun _ => fresh⟩
    · intro same
      cases same
      exact due
    · exact fun due' => congrArg some (due_unique due due')
  · refine ⟨none, rfl, fun other => ⟨?_, ?_⟩, fun _ => fresh⟩
    · intro same
      cases same
    · exact fun due => absurd ⟨other, due⟩ earns

variable {w : World} {calls : List WebhookCall} {s : Standing}

theorem stands_processed (named : reference ≠ "")
    (concerns : Concerns host settings reference answer call) (among : call ∈ calls)
    (stands : Stands host settings reference answer calls w.database s)
    (passes : admitted host settings call w.redis = true) :
    Stands host settings reference answer calls
      (billingStep host settings w (.webhook call)).database (s.after call.paymentEvent) := by
  obtain ⟨live, due, fresh⟩ := stands
  obtain ⟨entries, owed⟩ := s
  cases kind : call.paymentEvent with
  | charge =>
    rw [charge_database concerns kind passes]
    cases owed with
    | some entry =>
      have records := charge_records (configured_of_signed concerns.signed) ((due entry).mp rfl)
        (fresh rfl call among) call.now
      refine ⟨?_, fun other => ⟨fun same => (nomatch same), ?_⟩, fun due => nomatch due⟩
      · rw [records.1, live]
        rfl
      · exact fun due => absurd due (records.2 other)
    | none =>
      have idle := charge_idle (fun entry owed => by cases (due entry).mpr owed) call.now call.newId
      refine ⟨?_, fun other => ⟨fun same => (nomatch same), ?_⟩, fun due => nomatch due⟩
      · rw [idle.1, live]
        exact (List.append_nil entries).symm
      · exact fun due => absurd due (idle.2 other)
  | reversal =>
    obtain ⟨organizations, reversed⟩ := reversal_database (w := w) named concerns kind passes
    refine ⟨reversed.liveEntries, fun other => ?_, fun owed => ?_⟩
    · rw [reversal_due reversed organizations]
      exact due other
    · rw [reversed.ids]
      exact fresh owed

theorem stands_afterAll (named : reference ≠ "") (order : List WebhookCall)
    (concern : ∀ call ∈ order, Concerns host settings reference answer call)
    (among : ∀ call ∈ order, call ∈ calls)
    (stands : Stands host settings reference answer calls w.database s) :
    Stands host settings reference answer calls (afterAll host settings w order).database
      ((processed host settings w.redis order).foldl Standing.after s) := by
  induction order generalizing w s with
  | nil => exact stands
  | cons call rest ih =>
    have first := concern call List.mem_cons_self
    have redis : (billingStep host settings w (.webhook call)).redis =
        redisAfter host call w.redis := handleWebhook_redis first.signed w.database w.redis
    have later := @ih (billingStep host settings w (.webhook call))
    rw [redis] at later
    have concern' := fun c member => concern c (List.mem_cons_of_mem _ member)
    have among' := fun c member => among c (List.mem_cons_of_mem _ member)
    unfold processed
    dsimp only
    cases passes : admitted host settings call w.redis with
    | true =>
      rw [if_pos rfl, List.foldl_cons]
      exact later concern' among'
        (stands_processed named first (among call List.mem_cons_self) stands passes)
    | false =>
      refine later concern' among' ?_
      rw [skipped_database passes]
      exact stands

/-! ## The order -/

/-- The commissions of the payment that are live after the deliveries do not
depend on their order. -/
def OrderFree (host : Runtime) (settings : BillingSettings) (reference : String) (w : World)
    (calls : List WebhookCall) : Prop :=
  ∀ order, order.Perm calls → ∀ entry,
    entry ∈ (afterAll host settings w order).database.ledger.liveEntries reference ↔
      entry ∈ (afterAll host settings w calls).database.ledger.liveEntries reference

/-- A charge that earns a commission and a reversal are both let through. -/
structure ChargeMeetsReversal (host : Runtime) (settings : BillingSettings) (reference : String)
    (answer : PaystackReply) (w : World) (calls : List WebhookCall) : Prop where
  due : ∃ entry, Due host settings reference answer w.database entry
  charge : ∃ call ∈ calls, call.paymentEvent = .charge ∧ admitted host settings call w.redis = true
  reversal : ∃ call ∈ calls, call.paymentEvent = .reversal ∧
    admitted host settings call w.redis = true

section Order
variable (named : reference ≠ "")
variable (concern : ∀ call ∈ calls, Concerns host settings reference answer call)
variable (stands : Stands host settings reference answer calls w.database s)
include named concern stands

theorem orderFree_of_apart
    (apart : ¬ ChargeMeetsReversal host settings reference answer w calls) :
    OrderFree host settings reference w calls := by
  intro order shuffled entry
  have concern' : ∀ call ∈ order, Concerns host settings reference answer call :=
    fun call member => concern call (shuffled.mem_iff.mp member)
  have there := stands_afterAll named order concern' (fun _ => shuffled.mem_iff.mp) stands
  have here := stands_afterAll named calls concern (fun _ member => member) stands
  have same (event : PaymentEvent) : event ∈ processed host settings w.redis order ↔
      event ∈ processed host settings w.redis calls := by
    simp only [mem_processed w.redis order concern', mem_processed w.redis calls concern,
      shuffled.mem_iff]
  rw [there.live, here.live, after_congr s same]
  simp only [mem_processed w.redis order concern', shuffled.mem_iff]
  by_contra meets
  rw [not_or, not_or, not_not, not_not] at meets
  obtain ⟨due, charge, reversal⟩ := meets
  obtain ⟨entry, owed⟩ := Option.ne_none_iff_exists'.mp due
  exact apart ⟨⟨entry, (stands.due entry).mp owed⟩, charge, reversal⟩

theorem not_orderFree_of_meets
    (meets : ChargeMeetsReversal host settings reference answer w calls) :
    ¬ OrderFree host settings reference w calls := by
  obtain ⟨⟨entry, due⟩, charge, reversal⟩ := meets
  have owed : s.due = some entry := (stands.due entry).mpr due
  let charges := calls.filter (fun call => decide (call.paymentEvent = .charge))
  let reversals := calls.filter (fun call => !decide (call.paymentEvent = .charge))
  have chargesFirst : (charges ++ reversals).Perm calls := List.filter_append_perm _ calls
  have reversalsFirst : (reversals ++ charges).Perm calls :=
    List.perm_append_comm.trans chargesFirst
  have charging : ∀ call ∈ charges, call.paymentEvent = .charge :=
    fun call member => of_decide_eq_true (List.mem_filter.mp member).2
  have reversing : ∀ call ∈ reversals, call.paymentEvent = .reversal := by
    intro call member
    have other : call.paymentEvent ≠ .charge := by simpa using (List.mem_filter.mp member).2
    cases kind : call.paymentEvent with
    | charge => exact absurd kind other
    | reversal => rfl
  have lands (order : List WebhookCall) (shuffled : order.Perm calls) :=
    stands_afterAll named order (fun call member => concern call (shuffled.mem_iff.mp member))
      (fun _ => shuffled.mem_iff.mp) stands
  have through (order : List WebhookCall) (shuffled : order.Perm calls) (event : PaymentEvent) :
      event ∈ processed host settings w.redis order ↔
        ∃ call ∈ calls, call.paymentEvent = event ∧
          admitted host settings call w.redis = true := by
    rw [mem_processed w.redis order (fun call member => concern call (shuffled.mem_iff.mp member))]
    simp only [shuffled.mem_iff]
  have gone : (afterAll host settings w (charges ++ reversals)).database.ledger.liveEntries
      reference = [] := by
    obtain ⟨later, split⟩ := processed_append host settings w.redis charges
      reversals
    have first := kind_of_processed host settings w.redis charges charging
    have second := kind_of_processed host settings later reversals reversing
    have reached := (through _ chargesFirst .reversal).mpr reversal
    rw [split, List.mem_append] at reached
    rw [(lands _ chargesFirst).live, split, List.foldl_append, after_reversals _ _ second]
    rcases reached with member | member
    · cases first _ member
    · exact if_neg (List.ne_nil_of_mem member)
  have left : entry ∈ (afterAll host settings w (reversals ++ charges)).database.ledger.liveEntries
      reference := by
    obtain ⟨later, split⟩ := processed_append host settings w.redis reversals
      charges
    have first := kind_of_processed host settings w.redis reversals reversing
    have second := kind_of_processed host settings later charges charging
    have reached := (through _ reversalsFirst .charge).mpr charge
    rw [split, List.mem_append] at reached
    rw [(lands _ reversalsFirst).live, split, List.foldl_append, after_reversals _ _ first,
      after_charges _ _ second]
    rcases reached with member | member
    · cases first _ member
    · rw [if_neg (List.ne_nil_of_mem member)]
      simp [owed]
  intro free
  have there := (free _ reversalsFirst entry).mp left
  have nothing := (free _ chargesFirst entry).mpr there
  rw [gone] at nothing
  cases nothing

end Order

/-- For any deliveries about a payment, its live commissions do not depend on the
order of the deliveries exactly when no charge that earns a commission meets a
reversal. The identifiers of new commissions are fresh. -/
theorem order_free_iff (host : Runtime) (settings : BillingSettings) (reference : String)
    (answer : PaystackReply) (w : World) (calls : List WebhookCall) (named : reference ≠ "")
    (concern : ∀ call ∈ calls, Concerns host settings reference answer call)
    (fresh : ∀ call ∈ calls, call.newId ∉ w.database.ledger.commissions.rows.map (·.id)) :
    OrderFree host settings reference w calls ↔
      ¬ ChargeMeetsReversal host settings reference answer w calls := by
  obtain ⟨due, stands⟩ : ∃ due, Stands host settings reference answer calls w.database
      ⟨w.database.ledger.liveEntries reference, due⟩ := exists_standing fresh
  constructor
  · exact fun free meets => not_orderFree_of_meets named concern stands meets free
  · exact orderFree_of_apart named concern stands

/-! ## A refund that arrives first -/

/-- The organization was referred, and its owner pays 49.00. -/
def referredOrg : World :=
  { oneOrg with database := { oneOrg.database with ledger := oneCustomer } }

def chargeCall : WebhookCall where
  event := "charge.success"
  data := .obj [("reference", .str "ref-1")]
  signature := some "a1b2"
  rawBody := "\x7b\x7d"
  reply := paidReply "starter" 4900
  claim := .delivered
  now := 0
  newId := 100

def refundCall : WebhookCall :=
  { chargeCall with
    event := "refund.processed"
    data := .obj [("transaction_reference", .str "ref-1")]
    now := secondsToMicros 60 }

theorem calls_concern : ∀ call ∈ [chargeCall, refundCall],
    Concerns oneOrgHost oneOrgSettings "ref-1" (paidReply "starter" 4900) call := by
  intro call member
  simp only [List.mem_cons, List.not_mem_nil, or_false] at member
  rcases member with rfl | rfl
  · exact ⟨rfl, by decide, .inl ⟨rfl, by decide, rfl, rfl⟩⟩
  · exact ⟨rfl, by decide, .inr ⟨by decide, by decide, rfl⟩⟩

theorem order_free_iff_sample :
    OrderFree oneOrgHost oneOrgSettings "ref-1" referredOrg [chargeCall, refundCall] ↔
      ¬ ChargeMeetsReversal oneOrgHost oneOrgSettings "ref-1" (paidReply "starter" 4900) referredOrg
        [chargeCall, refundCall] :=
  order_free_iff oneOrgHost oneOrgSettings "ref-1" (paidReply "starter" 4900) referredOrg
    [chargeCall, refundCall] (by decide) calls_concern
    (fun _ _ member => absurd member List.not_mem_nil)

/-- The payment was given back, and its commission stays where the refund is
delivered before the charge. -/
theorem refund_overtakes_charge :
    ¬ OrderFree oneOrgHost oneOrgSettings "ref-1" referredOrg [chargeCall, refundCall] := by
  intro free
  have swapped : [refundCall, chargeCall].Perm [chargeCall, refundCall] := List.Perm.swap _ _ _
  have entry := free _ swapped ⟨5, some 7, "ref-1", 4900, 1470, "USD", 30⟩
  have stays : (⟨5, some 7, "ref-1", 4900, 1470, "USD", 30⟩ : CommissionEntry) ∈
      (afterAll oneOrgHost oneOrgSettings referredOrg
        [refundCall, chargeCall]).database.ledger.liveEntries "ref-1" := by decide
  have reversed : (afterAll oneOrgHost oneOrgSettings referredOrg
      [chargeCall, refundCall]).database.ledger.liveEntries "ref-1" = [] := by decide
  rw [reversed] at entry
  exact List.not_mem_nil (entry.mp stays)

end Reliastra.Guarantees.DeliveryOrder
