import Reliastra.Source.Billing.Deliveries

/-!
# Is a new event ever taken for a duplicate?

The claim of a delivery names the object its event is about. Two events of one
type about one object share it, and the second one is skipped unprocessed.
-/

namespace Reliastra.Guarantees.WebhookEvents

open Reliastra.Library Source Source.Billing

/-- A delivery with this body was accepted within the time to live. -/
def Seen (s : Intake) (post : PostedWebhook) : Prop :=
  ∃ earlier ∈ s.accepted, earlier.rawBody = post.rawBody ∧ post.now < earlier.now + claimTtl

/-- A signed delivery is skipped only if its body was seen. -/
def SkipsOnlySeen (host : Runtime) (settings : BillingSettings) (loads : String → Option Json)
    (s : Intake) (post : PostedWebhook) : Prop :=
  ∀ call, post.call loads = some call → checkSignature host settings call = .ok () →
    ¬ Accepts host settings loads s.redis post → Seen s post

/-- A signed delivery whose event has an identifier reaches Redis, and if an
event with the same identifier was accepted within the time to live, so was one
with the same body. -/
def Untwinned (host : Runtime) (settings : BillingSettings) (loads : String → Option Json)
    (s : Intake) (post : PostedWebhook) : Prop :=
  ∀ call eventId, post.call loads = some call → checkSignature host settings call = .ok () →
    post.eventId host loads = some eventId →
    (post.claim ≠ .delivered ∨ ∃ earlier ∈ s.accepted, earlier.eventId host loads = some eventId ∧
      post.now < earlier.now + claimTtl) → Seen s post

/-- The claims in Redis are those of the accepted deliveries. -/
def ClaimsAccepted (host : Runtime) (loads : String → Option Json) (s : Intake) : Prop :=
  ∀ eventId now, Claimed s.redis eventId now ↔
    ∃ earlier ∈ s.accepted, earlier.eventId host loads = some eventId ∧ now < earlier.now + claimTtl

variable {host : Runtime} {settings : BillingSettings} {loads : String → Option Json} {s : Intake}
  {post : PostedWebhook} {call : WebhookCall} {eventId : String}

/-! ## Steps -/

theorem call_fields (called : post.call loads = some call) :
    call.now = post.now ∧ call.claim = post.claim := by
  obtain ⟨pair, _, rfl⟩ := Option.map_eq_some_iff.mp called
  exact ⟨rfl, rfl⟩

/-- Equal bodies are equal events. -/
theorem eventId_congr {a b : PostedWebhook} (same : a.rawBody = b.rawBody) :
    a.eventId host loads = b.eventId host loads := by
  unfold PostedWebhook.eventId PostedWebhook.call
  rw [same]
  cases (loads b.rawBody).bind webhookPayload <;> rfl

theorem accepts_iff_admitted (called : post.call loads = some call) :
    Accepts host settings loads s.redis post ↔ admitted host settings call s.redis = true := by
  unfold Accepts
  rw [called]
  simp

/-- A signed delivery is refused as a duplicate when its event is claimed, or
Redis does not confirm the claim. -/
theorem not_accepts_iff (called : post.call loads = some call)
    (signed : checkSignature host settings call = .ok ()) :
    ¬ Accepts host settings loads s.redis post ↔
      ∃ eventId, post.eventId host loads = some eventId ∧
        (post.claim ≠ .delivered ∨ Claimed s.redis eventId post.now) := by
  obtain ⟨now, claim⟩ := call_fields called
  rw [accepts_iff_admitted called, ← now, ← claim]
  have named : post.eventId host loads = webhookEventId host call.event call.data.asDict := by
    simp only [PostedWebhook.eventId, called, Option.bind_some]
  rw [named]
  cases event : webhookEventId host call.event call.data.asDict with
  | none => simp [admitted, signed, event]
  | some eventId =>
    by_cases claimed : Claimed s.redis eventId call.now
    · simp [admitted, signed, event, claim_claimed claimed, claimed]
    · simp [admitted, signed, event, claim_free claimed, claimed]

theorem skips_iff_twinned (accepted : ClaimsAccepted host loads s) :
    SkipsOnlySeen host settings loads s post ↔ Untwinned host settings loads s post := by
  constructor
  · intro skips call eventId called signed named missed
    apply skips call called signed
    rw [not_accepts_iff called signed]
    exact ⟨eventId, named, missed.imp_right (accepted eventId post.now).mpr⟩
  · intro untwinned call called signed refused
    obtain ⟨eventId, named, missed⟩ := (not_accepts_iff called signed).mp refused
    exact untwinned call eventId called signed named
      (missed.imp_right (accepted eventId post.now).mp)

/-- A skip that is in order finds the event claimed and changes nothing. -/
theorem receive_skipped (accepted : ClaimsAccepted host loads s)
    (skips : SkipsOnlySeen host settings loads s post)
    (refused : ¬ Accepts host settings loads s.redis post) :
    receive host settings loads s post = s := by
  have redis : (paystackWebhook host settings loads post s.redis).1 = s.redis := by
    unfold paystackWebhook
    cases called : post.call loads with
    | none => rfl
    | some call =>
      dsimp only
      cases signed : checkSignature host settings call with
      | error failure => rw [handleWebhook_refused signed]
      | ok done =>
        obtain ⟨eventId, named, _⟩ := (not_accepts_iff called signed).mp refused
        obtain ⟨earlier, member, same, recent⟩ := skips call called signed refused
        have claimed : Claimed s.redis eventId post.now := by
          apply (accepted eventId post.now).mpr
          exact ⟨earlier, member, (eventId_congr same).trans named, recent⟩
        rw [← (call_fields called).1] at claimed
        have event : webhookEventId host call.event call.data.asDict = some eventId := by
          rw [← named]
          simp only [PostedWebhook.eventId, called, Option.bind_some]
        rw [handleWebhook_redis signed]
        simp only [redisAfter, event, claim_claimed claimed]
  simp only [receive, redis, if_neg refused]

/-- An accepted delivery claims its event, which nobody had claimed. -/
theorem receive_accepted (passes : Accepts host settings loads s.redis post) :
    (receive host settings loads s post).accepted = post :: s.accepted ∧
      match post.eventId host loads with
      | none => (receive host settings loads s post).redis = s.redis
      | some eventId => ¬ Claimed s.redis eventId post.now ∧
        (receive host settings loads s post).redis = claimAt s.redis eventId post.now := by
  refine ⟨if_pos passes, ?_⟩
  obtain ⟨call, called, admits⟩ := passes
  have redis : (receive host settings loads s post).redis = redisAfter host call s.redis := by
    simp only [receive, paystackWebhook, called, handleWebhook_admitted admits]
  have signed : checkSignature host settings call = .ok () := by
    cases signature : checkSignature host settings call with
    | error failure => simp [admitted, signature] at admits
    | ok done => rfl
  have event : post.eventId host loads = webhookEventId host call.event call.data.asDict := by
    simp only [PostedWebhook.eventId, called, Option.bind_some]
  rw [redis, event, ← (call_fields called).1]
  cases named : webhookEventId host call.event call.data.asDict with
  | none => simp only [redisAfter, named]
  | some eventId =>
    simp only [admitted, signed, named] at admits
    have free : ¬ Claimed s.redis eventId call.now := by
      intro claimed
      rw [claim_claimed claimed] at admits
      cases admits
    rw [claim_free free] at admits
    have delivered : call.claim = .delivered := of_decide_eq_true admits
    refine ⟨free, ?_⟩
    simp only [redisAfter, named, claim_free free, delivered, reduceCtorEq, if_false]

theorem receive_keeps (accepted : ClaimsAccepted host loads s)
    (skips : SkipsOnlySeen host settings loads s post) :
    ClaimsAccepted host loads (receive host settings loads s post) := by
  by_cases passes : Accepts host settings loads s.redis post
  · obtain ⟨logged, left⟩ := receive_accepted passes
    intro eventId now
    have before := accepted eventId now
    rw [logged]
    simp only [List.mem_cons, exists_eq_or_imp]
    rw [← before]
    cases named : post.eventId host loads with
    | none =>
      rw [named] at left
      dsimp only at left
      simp [left]
    | some own =>
      rw [named] at left
      obtain ⟨free, claims⟩ := left
      rw [claims, claimed_claimAt]
      by_cases same : eventId = own
      · subst same
        simp only [true_and, ne_eq, not_true_eq_false, false_and, or_false, iff_self_or]
        intro claimed
        -- the claim it replaced had expired
        obtain ⟨earlier, member, event, recent⟩ := before.mp claimed
        have expired : ¬ post.now < earlier.now + claimTtl :=
          fun alive => free ((accepted eventId post.now).mpr ⟨earlier, member, event, alive⟩)
        have later : post.now < post.now + claimTtl :=
          lt_add_of_pos_right post.now (by decide : 0 < claimTtl)
        exact (recent.trans_le (not_lt.mp expired)).trans later
      · simp [same, Ne.symm same]
  · rw [receive_skipped accepted skips passes]
    exact accepted

/-! ## Runs -/

/-- No event was delivered so far. -/
def noPosts : Intake := ⟨[], []⟩

theorem claimsAccepted_noPosts : ClaimsAccepted host loads noPosts := by
  intro eventId now
  simp [noPosts, Claimed, Redis.live]

/-- Over any sequence of deliveries, only events that were seen are skipped
exactly when no delivery shares its identifier with another event. -/
theorem skips_only_seen_iff (host : Runtime) (settings : BillingSettings)
    (loads : String → Option Json) (run : List PostedWebhook) :
    Run.AllSteps (receive host settings loads) (SkipsOnlySeen host settings loads) noPosts run ↔
      Run.AllSteps (receive host settings loads) (Untwinned host settings loads) noPosts run := by
  apply Run.allSteps_congr (fun s post (accepted : ClaimsAccepted host loads s) skips => ?_)
    (fun s post accepted => skips_iff_twinned accepted) noPosts run claimsAccepted_noPosts
  exact receive_keeps accepted skips

/-! ## A subscription that is disabled twice -/

/-- A `subscription.disable` event of one subscription. -/
def disableBody (createdAt : String) : String :=
  "\x7b\"event\":\"subscription.disable\",\"data\":\x7b\"subscription_code\":\"SUB_1\"," ++
    "\"created_at\":\"" ++ createdAt ++ "\"\x7d\x7d"

def disableDocument (createdAt : String) : Json :=
  .obj [("event", .str "subscription.disable"),
    ("data", .obj [("subscription_code", .str "SUB_1"), ("created_at", .str createdAt)])]

def disableLoads (body : String) : Option Json :=
  if body = disableBody "2026-01-01" then some (disableDocument "2026-01-01")
  else if body = disableBody "2026-01-02" then some (disableDocument "2026-01-02")
  else none

def disablePost (createdAt : String) (now : Instant) : PostedWebhook where
  rawBody := disableBody createdAt
  signature := "a1b2"
  database := oneOrg.database
  reply := .httpError
  claim := .delivered
  now := now
  newId := 100

/-- Disabled, activated again, and disabled again eight hours after the first
event. -/
def disabledTwice : List PostedWebhook :=
  [disablePost "2026-01-01" 0, disablePost "2026-01-02" (secondsToMicros (8 * 3600))]

theorem disablePost_signed {createdAt : String} (written : disableBody createdAt ≠ "")
    {now : Instant} {call : WebhookCall}
    (called : (disablePost createdAt now).call disableLoads = some call) :
    checkSignature oneOrgHost oneOrgSettings call = .ok () := by
  obtain ⟨pair, _, rfl⟩ := Option.map_eq_some_iff.mp called
  have signs : "a1b2" ≠ "" := by decide
  have ascii : "a1b2".toList.any (fun c => 128 ≤ c.toNat) = false := by decide
  exact checkSignature_ok rfl signs written (by decide) ascii rfl

/-- The second event is skipped although its body is new. -/
theorem second_disable_skipped :
    ¬ Run.AllSteps (receive oneOrgHost oneOrgSettings disableLoads)
      (SkipsOnlySeen oneOrgHost oneOrgSettings disableLoads) noPosts disabledTwice := by
  intro all
  have parsed : ((disablePost "2026-01-02" (secondsToMicros (8 * 3600))).call disableLoads).isSome =
      true := by decide
  obtain ⟨call, called⟩ := Option.isSome_iff_exists.mp parsed
  have refused : ¬ Accepts oneOrgHost oneOrgSettings disableLoads
      (receive oneOrgHost oneOrgSettings disableLoads noPosts (disablePost "2026-01-01" 0)).redis
      (disablePost "2026-01-02" (secondsToMicros (8 * 3600))) := by decide
  obtain ⟨earlier, member, same, _⟩ := all.2.1 call called
    (disablePost_signed (by decide) called) refused
  have accepted : (receive oneOrgHost oneOrgSettings disableLoads noPosts
      (disablePost "2026-01-01" 0)).accepted.map (·.rawBody) = [disableBody "2026-01-01"] := by
    decide
  have first := List.mem_map_of_mem (f := fun post : PostedWebhook => post.rawBody) member
  rw [accepted, List.mem_singleton, same] at first
  have differ : disableBody "2026-01-02" ≠ disableBody "2026-01-01" := by decide
  exact differ first

end Reliastra.Guarantees.WebhookEvents
