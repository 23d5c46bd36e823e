import Reliastra.Source.Billing.Deliveries

/-!
# Webhook claims and their effects

A claim outlives the processing it stands for: it is set before the event is
processed and nobody takes it back. `claims_match_iff` says what every delivery
would have to do for the claims in Redis, the answers Paystack got and the
committed effects to agree. The first delivery of an event has to succeed.
-/

namespace Reliastra.Guarantees.WebhookClaims

open Reliastra.Library Source Source.Billing

/-- Claims, answers and effects agree: a claimed event has its effects
committed, so has an acknowledged one, and no event has them committed twice
within the time to live of a claim. -/
structure ClaimsMatch (s : Deliveries) : Prop where
  claimed : ∀ eventId now, Claimed s.world.redis eventId now → s.Recent (.identified eventId) now
  acknowledged : ∀ key now, (key, now) ∈ s.acknowledged → s.Recent key now
  once : s.applied.Pairwise (fun later earlier =>
    later.1 = earlier.1 → earlier.2 + claimTtl ≤ later.2)

/-- The delivery cannot separate the claim of its event from the effects. An
event with an identifier is claimed already, or Redis takes the claim and the
processing completes and is committed, or neither Redis nor Paystack learns of
the delivery. One without an identifier, if its processing completes, is
committed for the first time, or is answered only once it was. -/
def Undisturbed (host : Runtime) (settings : BillingSettings) (s : Deliveries) :
    DeliveryStep → Prop
  | .elsewhere _ => True
  | .delivery call rollback => checkSignature host settings call = .ok () →
    match webhookEventId host call.event call.data.asDict with
    | some eventId => ¬ Claimed s.world.redis eventId call.now →
      call.claim = .delivered ∧ Completes host settings call s.world.database ∧ rollback = none ∨
        call.claim = .requestLost ∧ ¬ Answered rollback
    | none => Completes host settings call s.world.database →
      match rollback with
      | none => ¬ s.Recent (.content call.event call.data) call.now
      | some rollback => rollback.answered = true → s.Recent (.content call.event call.data) call.now

/-! ## Steps -/

structure Invariant (s : Deliveries) : Prop extends ClaimsMatch s where
  kept : ∀ eventId now, s.Recent (.identified eventId) now → Claimed s.world.redis eventId now

variable {host : Runtime} {settings : BillingSettings} {s after : Deliveries} {call : WebhookCall}
  {rollback : Option Rollback}

theorem recent_cons {s after : Deliveries} {key : EventKey} {now : Instant}
    (applied : after.applied = (key, now) :: s.applied) (other : EventKey) (later : Instant) :
    after.Recent other later ↔ other = key ∧ later < now + claimTtl ∨ s.Recent other later := by
  unfold Deliveries.Recent
  rw [applied]
  constructor
  · intro ⟨moment, member, recent⟩
    rcases List.mem_cons.mp member with same | old
    · cases same
      exact Or.inl ⟨rfl, recent⟩
    · exact Or.inr ⟨moment, old, recent⟩
  · rintro (⟨rfl, recent⟩ | ⟨moment, old, recent⟩)
    · exact ⟨now, List.mem_cons_self, recent⟩
    · exact ⟨moment, List.mem_cons_of_mem _ old, recent⟩

/-- An answer to an event whose effects are there changes nothing that counts. -/
theorem keeps_acknowledged (inv : Invariant s) (key : EventKey) (now : Instant)
    (redis : after.world.redis = s.world.redis) (applied : after.applied = s.applied)
    (acknowledged : after.acknowledged = s.acknowledged ∨
      after.acknowledged = (key, now) :: s.acknowledged ∧ s.Recent key now) :
    Invariant after := by
  have recent (other : EventKey) (later : Instant) :
      after.Recent other later ↔ s.Recent other later := by
    unfold Deliveries.Recent
    rw [applied]
  refine ⟨⟨?_, ?_, ?_⟩, ?_⟩
  · intro eventId later claimed
    rw [redis] at claimed
    exact (recent _ _).mpr (inv.claimed eventId later claimed)
  · intro other later member
    rw [recent]
    rcases acknowledged with same | ⟨same, here⟩
    · rw [same] at member
      exact inv.acknowledged other later member
    · rw [same] at member
      rcases List.mem_cons.mp member with equal | old
      · cases equal
        exact here
      · exact inv.acknowledged other later old
  · rw [applied]
    exact inv.once
  · intro eventId later here
    rw [redis]
    exact inv.kept eventId later ((recent _ _).mp here)

/-- An event whose effects are committed for the first time within the time to
live, and whose claim, if it has an identifier, is set with them. -/
theorem keeps_applied (inv : Invariant s) {key : EventKey} {now : Instant}
    (applied : after.applied = (key, now) :: s.applied)
    (acknowledged : after.acknowledged = (key, now) :: s.acknowledged)
    (first : ¬ s.Recent key now)
    (claims : ∀ eventId later, Claimed after.world.redis eventId later ↔
      .identified eventId = key ∧ later < now + claimTtl ∨
        .identified eventId ≠ key ∧ Claimed s.world.redis eventId later) :
    Invariant after := by
  have older (moment : Instant) (member : (key, moment) ∈ s.applied) : moment + claimTtl ≤ now := by
    by_contra recent
    exact first ⟨moment, member, not_le.mp recent⟩
  refine ⟨⟨?_, ?_, ?_⟩, ?_⟩
  · intro eventId later claimed
    rw [recent_cons applied]
    rcases (claims eventId later).mp claimed with here | ⟨_, old⟩
    · exact Or.inl here
    · exact Or.inr (inv.claimed eventId later old)
  · intro other later member
    rw [recent_cons applied]
    rw [acknowledged] at member
    rcases List.mem_cons.mp member with same | old
    · cases same
      exact Or.inl ⟨rfl, lt_add_claimTtl now⟩
    · exact Or.inr (inv.acknowledged other later old)
  · rw [applied, List.pairwise_cons]
    refine ⟨?_, inv.once⟩
    rintro ⟨other, moment⟩ member rfl
    exact older moment member
  · intro eventId later recent
    apply (claims eventId later).mpr
    by_cases here : EventKey.identified eventId = key
    · refine Or.inl ⟨here, ?_⟩
      rcases (recent_cons applied _ _).mp recent with ⟨_, alive⟩ | ⟨moment, member, alive⟩
      · exact alive
      · have expired := older moment (here ▸ member)
        exact alive.trans_le (expired.trans (lt_add_claimTtl now).le)
    · refine Or.inr ⟨here, inv.kept eventId later ?_⟩
      rcases (recent_cons applied _ _).mp recent with ⟨same, _⟩ | old
      · exact absurd same here
      · exact old

theorem key_identified {eventId : String}
    (event : webhookEventId host call.event call.data.asDict = some eventId) :
    call.key host = .identified eventId := by
  unfold WebhookCall.key
  rw [event]

theorem key_unidentified (event : webhookEventId host call.event call.data.asDict = none) :
    call.key host = .content call.event call.data := by
  unfold WebhookCall.key
  rw [event]

/-- The delivery of a claimed event, whatever else happens to it. -/
theorem deliver_claimed {eventId : String} (signed : checkSignature host settings call = .ok ())
    (event : webhookEventId host call.event call.data.asDict = some eventId)
    (claimed : Claimed s.world.redis eventId call.now) (rollback : Option Rollback) :
    deliver host settings s (.delivery call rollback) =
      { s with acknowledged :=
          if Answered rollback then (.identified eventId, call.now) :: s.acknowledged
          else s.acknowledged } := by
  have outcome := claim_claimed claimed call.claim
  rw [deliver_skipped signed event (by rw [outcome]) rollback, outcome]

/-- The redis of a delivery that takes the claim. -/
theorem claim_delivered {eventId : String} (free : ¬ Claimed s.world.redis eventId call.now)
    (taken : call.claim = .delivered) :
    claimWebhookEvent eventId call.claim call.now s.world.redis =
      (claimAt s.world.redis eventId call.now, true) := by
  rw [claim_free free, taken]
  rfl

theorem processed_of_delivered {eventId : String}
    (signed : checkSignature host settings call = .ok ())
    (event : webhookEventId host call.event call.data.asDict = some eventId)
    (free : ¬ Claimed s.world.redis eventId call.now) (taken : call.claim = .delivered) :
    admitted host settings call s.world.redis = true ∧
      redisAfter host call s.world.redis = claimAt s.world.redis eventId call.now := by
  constructor
  · simp only [admitted, signed, event, claim_delivered free taken]
  · simp only [redisAfter, event, claim_delivered free taken]

theorem step_identified (inv : Invariant s) {eventId : String}
    (signed : checkSignature host settings call = .ok ())
    (event : webhookEventId host call.event call.data.asDict = some eventId)
    (condition : ¬ Claimed s.world.redis eventId call.now →
      call.claim = .delivered ∧ Completes host settings call s.world.database ∧ rollback = none ∨
        call.claim = .requestLost ∧ ¬ Answered rollback) :
    Invariant (deliver host settings s (.delivery call rollback)) := by
  by_cases claimed : Claimed s.world.redis eventId call.now
  · rw [deliver_claimed signed event claimed]
    refine keeps_acknowledged inv (.identified eventId) call.now rfl rfl ?_
    dsimp only
    split
    · exact Or.inr ⟨rfl, inv.claimed eventId call.now claimed⟩
    · exact Or.inl rfl
  rcases condition claimed with ⟨taken, completes, rfl⟩ | ⟨lost, unanswered⟩
  · obtain ⟨processed, redis⟩ := processed_of_delivered signed event claimed taken
    obtain ⟨database, same⟩ := deliver_committed signed processed completes
    rw [same, redis, key_identified event]
    refine keeps_applied inv rfl rfl ?_ ?_
    · exact fun recent => claimed (inv.kept eventId call.now recent)
    · intro other later
      rw [claimed_claimAt]
      simp only [EventKey.identified.injEq, ne_eq]
  · have outcome : claimWebhookEvent eventId call.claim call.now s.world.redis =
        (s.world.redis, false) := by
      rw [claim_free claimed, lost]
      rfl
    rw [deliver_skipped signed event (by rw [outcome]) rollback, outcome, if_neg unanswered]
    exact inv

theorem step_unidentified (inv : Invariant s)
    (signed : checkSignature host settings call = .ok ())
    (event : webhookEventId host call.event call.data.asDict = none)
    (condition : Completes host settings call s.world.database →
      match rollback with
      | none => ¬ s.Recent (.content call.event call.data) call.now
      | some rollback =>
        rollback.answered = true → s.Recent (.content call.event call.data) call.now) :
    Invariant (deliver host settings s (.delivery call rollback)) := by
  by_cases completes : Completes host settings call s.world.database
  · have condition := condition completes
    cases rollback with
    | none =>
      have processed : admitted host settings call s.world.redis = true := by
        simp only [admitted, signed, event]
      obtain ⟨database, same⟩ := deliver_committed signed processed completes
      rw [same, key_unidentified event]
      refine keeps_applied inv rfl rfl condition ?_
      intro other later
      simp only [redisAfter, event, reduceCtorEq, false_and, ne_eq, not_false_eq_true, true_and,
        false_or]
    | some rollback =>
      rw [deliver_rolledBack signed event completes, key_unidentified event]
      refine keeps_acknowledged inv (.content call.event call.data) call.now rfl rfl ?_
      dsimp only
      split
      · next answered => exact Or.inr ⟨rfl, condition answered⟩
      · exact Or.inl rfl
  · rw [deliver_raised signed event completes]
    exact inv

/-- A claim of an event whose effects were not committed. -/
theorem breaks_claimed {eventId : String} {now : Instant} (stale : ¬ s.Recent (.identified eventId) now)
    (applied : after.applied = s.applied)
    (redis : after.world.redis = claimAt s.world.redis eventId now) : ¬ ClaimsMatch after := by
  intro fits
  have claimed : Claimed after.world.redis eventId now := by
    rw [redis, claimed_claimAt]
    exact Or.inl ⟨rfl, lt_add_claimTtl now⟩
  have recent := fits.claimed eventId now claimed
  unfold Deliveries.Recent at recent
  rw [applied] at recent
  exact stale recent

/-- A 2xx answer to an event whose effects were not committed. -/
theorem breaks_acknowledged {key : EventKey} {now : Instant} (stale : ¬ s.Recent key now)
    (applied : after.applied = s.applied) (answered : (key, now) ∈ after.acknowledged) :
    ¬ ClaimsMatch after := by
  intro fits
  have recent := fits.acknowledged key now answered
  unfold Deliveries.Recent at recent
  rw [applied] at recent
  exact stale recent

theorem breaks_identified (inv : Invariant s) {eventId : String}
    (signed : checkSignature host settings call = .ok ())
    (event : webhookEventId host call.event call.data.asDict = some eventId)
    (disturbed : ¬ (¬ Claimed s.world.redis eventId call.now →
      call.claim = .delivered ∧ Completes host settings call s.world.database ∧ rollback = none ∨
        call.claim = .requestLost ∧ ¬ Answered rollback)) :
    ¬ ClaimsMatch (deliver host settings s (.delivery call rollback)) := by
  rw [Classical.not_imp, not_or] at disturbed
  obtain ⟨free, failed, told⟩ := disturbed
  have stale : ¬ s.Recent (.identified eventId) call.now :=
    fun recent => free (inv.kept eventId call.now recent)
  cases taken : call.claim with
  | delivered =>
    obtain ⟨processed, redis⟩ := processed_of_delivered signed event free taken
    obtain ⟨applied, world⟩ := deliver_lost signed processed rollback
      (fun both => failed ⟨taken, both⟩)
    refine breaks_claimed stale applied ?_
    rw [world, redis]
  | requestLost =>
    have answered : Answered rollback := not_not.mp (fun unanswered => told ⟨taken, unanswered⟩)
    have outcome : (claimWebhookEvent eventId call.claim call.now s.world.redis).2 = false := by
      rw [claim_free free, taken]
      rfl
    rw [deliver_skipped signed event outcome rollback, if_pos answered]
    exact breaks_acknowledged stale rfl List.mem_cons_self
  | answerLost =>
    have outcome : claimWebhookEvent eventId call.claim call.now s.world.redis =
        (claimAt s.world.redis eventId call.now, false) := by
      rw [claim_free free, taken]
      rfl
    rw [deliver_skipped signed event (by rw [outcome]) rollback, outcome]
    exact breaks_claimed stale rfl rfl

theorem breaks_unidentified {s : Deliveries}
    (signed : checkSignature host settings call = .ok ())
    (event : webhookEventId host call.event call.data.asDict = none)
    (disturbed : ¬ (Completes host settings call s.world.database →
      match rollback with
      | none => ¬ s.Recent (.content call.event call.data) call.now
      | some rollback =>
        rollback.answered = true → s.Recent (.content call.event call.data) call.now)) :
    ¬ ClaimsMatch (deliver host settings s (.delivery call rollback)) := by
  rw [Classical.not_imp] at disturbed
  obtain ⟨completes, disturbed⟩ := disturbed
  cases rollback with
  | none =>
    obtain ⟨moment, member, recent⟩ := not_not.mp disturbed
    have processed : admitted host settings call s.world.redis = true := by
      simp only [admitted, signed, event]
    obtain ⟨database, same⟩ := deliver_committed signed processed completes
    rw [same, key_unidentified event]
    intro fits
    have distinct := (List.pairwise_cons.mp fits.once).1 _ member rfl
    exact absurd distinct (not_le.mpr recent)
  | some rollback =>
    obtain ⟨answered, stale⟩ := Classical.not_imp.mp disturbed
    rw [deliver_rolledBack signed event completes, key_unidentified event, if_pos answered]
    exact breaks_acknowledged stale rfl List.mem_cons_self

theorem step_keeps (s : Deliveries) (step : DeliveryStep) (inv : Invariant s)
    (undisturbed : Undisturbed host settings s step) :
    Invariant (deliver host settings s step) := by
  cases step with
  | elsewhere database => exact ⟨⟨inv.claimed, inv.acknowledged, inv.once⟩, inv.kept⟩
  | delivery call rollback =>
    cases signed : checkSignature host settings call with
    | error failure =>
      rw [deliver_refused signed]
      exact inv
    | ok _ =>
      have condition := undisturbed signed
      cases event : webhookEventId host call.event call.data.asDict with
      | some eventId =>
        rw [event] at condition
        exact step_identified inv signed event condition
      | none =>
        rw [event] at condition
        exact step_unidentified inv signed event condition

theorem step_breaks (s : Deliveries) (step : DeliveryStep) (inv : Invariant s)
    (disturbed : ¬ Undisturbed host settings s step) :
    ¬ ClaimsMatch (deliver host settings s step) := by
  cases step with
  | elsewhere database => exact absurd trivial disturbed
  | delivery call rollback =>
    obtain ⟨signed, disturbed⟩ := Classical.not_imp.mp disturbed
    cases event : webhookEventId host call.event call.data.asDict with
    | some eventId =>
      rw [event] at disturbed
      exact breaks_identified inv signed event disturbed
    | none =>
      rw [event] at disturbed
      exact breaks_unidentified signed event disturbed

/-! ## Runs -/

/-- No event was delivered so far. -/
def noDeliveries (database : Database) : Deliveries := ⟨⟨database, []⟩, [], []⟩

theorem invariant_noDeliveries (database : Database) : Invariant (noDeliveries database) := by
  have nothing (key : EventKey) (now : Instant) : ¬ (noDeliveries database).Recent key now := by
    intro ⟨moment, member, _⟩
    cases member
  refine ⟨⟨?_, ?_, List.Pairwise.nil⟩, fun _ _ recent => absurd recent (nothing _ _)⟩
  · intro eventId now claimed
    cases claimed
  · intro key now member
    cases member

/-- Over any sequence of deliveries, claims, answers and effects agree all along
exactly when no delivery is disturbed between its claim and its commit. -/
theorem claims_match_iff (host : Runtime) (settings : BillingSettings) (database : Database)
    (run : List DeliveryStep) :
    (∀ before rest, run = before ++ rest →
      ClaimsMatch (Run.exec (deliver host settings) (noDeliveries database) before)) ↔
      Run.AllSteps (deliver host settings) (Undisturbed host settings) (noDeliveries database)
        run :=
  Run.forall_states_iff_allSteps (fun _ inv => inv.toClaimsMatch) step_keeps step_breaks
    (noDeliveries database) run (invariant_noDeliveries database)

/-! ## A payment that Paystack reports in vain -/

def chargeSuccess (reply : PaystackReply) (now : Instant) : DeliveryStep :=
  .delivery
    { event := "charge.success"
      data := .obj [("reference", .str "ref-1")]
      signature := some "a1b2"
      rawBody := "\x7b\x7d"
      reply := reply
      claim := .delivered
      now := now
      newId := 100 } none

/-- The event is delivered while Paystack's API is down, and again a minute
later. -/
def retried : List DeliveryStep :=
  [chargeSuccess .httpError 0, chargeSuccess (paidReply "starter" 1900) (secondsToMicros 60)]

/-- The failed delivery leaves the event claimed, so the second one is answered
and the organization stays on the free plan. -/
theorem retry_skipped :
    ¬ ClaimsMatch (Run.exec (deliver oneOrgHost oneOrgSettings) (noDeliveries oneOrg.database)
        (retried.take 1)) ∧
      (let final := Run.exec (deliver oneOrgHost oneOrgSettings) (noDeliveries oneOrg.database)
        retried
      final.acknowledged.length = 1 ∧ final.applied.length = 0 ∧
        final.world.database.organizations.rows.map (·.plan) = [.free]) := by
  constructor
  · intro fits
    have claimed : Claimed (Run.exec (deliver oneOrgHost oneOrgSettings)
        (noDeliveries oneOrg.database) (retried.take 1)).world.redis "charge.success:ref-1" 0 := by
      decide
    obtain ⟨moment, member, _⟩ := fits.claimed _ _ claimed
    have unapplied : (Run.exec (deliver oneOrgHost oneOrgSettings)
        (noDeliveries oneOrg.database) (retried.take 1)).applied.length = 0 := by decide
    rw [List.eq_nil_of_length_eq_zero unapplied] at member
    cases member
  · refine ⟨?_, ?_, ?_⟩ <;> decide

end Reliastra.Guarantees.WebhookClaims
