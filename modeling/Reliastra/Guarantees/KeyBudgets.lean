import Reliastra.Guarantees.SlidingWindow
import Reliastra.Source.Api.Schema
import Reliastra.Source.Auth.CurrentUser

/-!
# Which API keys share a rate limit

The limiter knows a key by its first eight characters, the prefix the key is looked
up by. Requests with one key have no influence on what another is refused exactly
when the two prefixes differ; with one prefix, a thousand requests of one key use up
the minute of the other.
-/

namespace Reliastra.Guarantees

open Reliastra.Library Windows Reliastra.Source Auth

/-! ## The set of one identifier -/

section Frame

variable (limiter : SlidingWindowRateLimiter) {identifier : String}

def chargedTo (identifier : String) (calls : List RateCall) : List RateCall :=
  calls.filter (fun call => call.identifier = identifier)

/-- The set of an identifier after some calls is what its own calls make of it. -/
theorem exec_chargedTo {sets other : SortedSets} (calls : List RateCall)
    (same : sets (limiter.key identifier) = other (limiter.key identifier)) :
    Run.exec limiter.record sets calls (limiter.key identifier) =
      Run.exec limiter.record other (chargedTo identifier calls) (limiter.key identifier) := by
  induction calls generalizing sets other with
  | nil => exact same
  | cons call rest ih =>
    unfold chargedTo at ih ⊢
    by_cases own : call.identifier = identifier
    · rw [List.filter_cons_of_pos (by simpa using own), Run.exec_cons, Run.exec_cons]
      apply ih
      subst own
      exact (limiter.check_congr same).2
    · rw [List.filter_cons_of_neg (by simpa using own), Run.exec_cons]
      apply ih
      have elsewhere : limiter.key identifier ≠ limiter.key call.identifier :=
        fun sameKey => own (limiter.key_injective sameKey).symm
      rw [limiter.record_frame elsewhere]
      exact same

/-- An answer depends on the earlier calls of the same identifier only. -/
theorem answer_congr {before other : List RateCall} {call : RateCall}
    (same : chargedTo call.identifier before = chargedTo call.identifier other) :
    limiter.answer before call = limiter.answer other call := by
  apply (limiter.check_congr _).1
  rw [exec_chargedTo limiter before rfl, exec_chargedTo limiter other rfl, same]

end Frame

/-! ## Two runs -/

section Keys

variable (env : CredentialEnvironment) {key other : String}

/-- The requests that do not present a key. -/
def withoutKey (key : String) (requests : List LimitedRequest) : List LimitedRequest :=
  requests.filter (fun limited => limited.presents env ≠ some key)

/-- Whatever requests present the other key, a request that presents `key` is refused
or not all the same. -/
def IndependentOf (key other : String) : Prop :=
  ∀ (before before' : List LimitedRequest) (limited : LimitedRequest),
    limited.presents env = some key →
      withoutKey env other before = withoutKey env other before' →
        (LimitRefused env before limited ↔ LimitRefused env before' limited)

theorem chargedTo_withoutKey {identifier : String} (differ : identifier ≠ Text.slice other 8)
    (requests : List LimitedRequest) :
    chargedTo identifier (charges env requests) =
      chargedTo identifier (charges env (withoutKey env other requests)) := by
  induction requests with
  | nil => rfl
  | cons limited rest ih =>
    unfold chargedTo charges withoutKey at ih ⊢
    by_cases presents : limited.presents env = some other
    · have charge : limited.charge env = some (limited.rateCall (Text.slice other 8)) := by
        rw [LimitedRequest.charge, presents]
        rfl
      have elsewhere : ¬ (limited.rateCall (Text.slice other 8)).identifier = identifier :=
        Ne.symm differ
      rw [List.filter_cons_of_neg (by simpa using presents), List.filterMap_cons_some charge,
        List.filter_cons_of_neg (by simpa using elsewhere)]
      exact ih
    · rw [List.filter_cons_of_pos (by simpa using presents)]
      cases charge : limited.charge env with
      | none =>
        rw [List.filterMap_cons_none charge, List.filterMap_cons_none charge]
        exact ih
      | some call =>
        rw [List.filterMap_cons_some charge, List.filterMap_cons_some charge, List.filter_cons,
          List.filter_cons, ih]

theorem independent_of_prefix (differ : Text.slice key 8 ≠ Text.slice other 8) :
    IndependentOf env key other := by
  intro before before' limited presents same
  have charge : limited.charge env = some (limited.rateCall (Text.slice key 8)) := by
    rw [LimitedRequest.charge, presents]
    rfl
  have answers : apiKeyLimiter.answer (charges env before) (limited.rateCall (Text.slice key 8)) =
      apiKeyLimiter.answer (charges env before') (limited.rateCall (Text.slice key 8)) := by
    apply answer_congr
    change chargedTo (Text.slice key 8) (charges env before) =
      chargedTo (Text.slice key 8) (charges env before')
    rw [chargedTo_withoutKey env differ, same, ← chargedTo_withoutKey env differ]
  unfold LimitRefused SlidingWindowRateLimiter.Refused
  rw [charge]
  simp only [Option.some.injEq, exists_eq_left', answers]

/-! ## One prefix -/

/-- The i-th of many copies of a request, all at one time. -/
def copy (limited : LimitedRequest) (i : Nat) : LimitedRequest :=
  { limited with time := 0, member := Nat.repr i, outcome := .delivered, nonneg := le_refl 0 }

def flood (limited : LimitedRequest) (n : Nat) : List LimitedRequest :=
  (List.range n).map (copy limited)

theorem repr_injective : Function.Injective Nat.repr := by
  intro i j same
  have digits := congrArg (fun text : String => Nat.ofDigitChars 10 text.toList 0) same
  simpa only [Nat.toList_repr, Nat.ofDigitChars_ten_toDigits] using digits

theorem charge_copy {limited : LimitedRequest} (presents : limited.presents env = some key) (i : Nat) :
    (copy limited i).charge env = some ((copy limited i).rateCall (Text.slice key 8)) := by
  have same : (copy limited i).presents env = some key := presents
  rw [LimitedRequest.charge, same]
  rfl

theorem charges_flood {limited : LimitedRequest} (presents : limited.presents env = some key)
    (n : Nat) :
    charges env (flood limited n) =
      (List.range n).map (fun i => (copy limited i).rateCall (Text.slice key 8)) := by
  unfold charges flood
  rw [List.filterMap_map]
  have charged : (fun limited => LimitedRequest.charge env limited) ∘ copy limited =
      fun i => some ((copy limited i).rateCall (Text.slice key 8)) :=
    funext (charge_copy env presents)
  rw [charged]
  exact congrFun List.filterMap_eq_map _

/-- The calls of the flood and one more, to one identifier. -/
theorem flood_orderly (limited last : LimitedRequest) (identifier : String) (n : Nat) :
    Orderly identifier ((List.range n).map (fun i => (copy limited i).rateCall identifier) ++
      [(copy last n).rateCall identifier]) where
  identifier := by
    intro call member
    simp only [List.mem_append, List.mem_map, List.mem_singleton] at member
    obtain ⟨_, _, rfl⟩ | rfl := member
    · rfl
    · rfl
  delivered := by
    intro call member
    simp only [List.mem_append, List.mem_map, List.mem_singleton] at member
    obtain ⟨_, _, rfl⟩ | rfl := member
    · rfl
    · rfl
  distinct := by
    have members : (((List.range n).map (fun i => (copy limited i).rateCall identifier) ++
        [(copy last n).rateCall identifier]).map (·.member)) = (List.range (n + 1)).map Nat.repr := by
      rw [List.map_append, List.map_map, List.range_succ, List.map_append]
      rfl
    rw [members]
    exact List.nodup_range.map repr_injective
  ordered := by
    have instant : ∀ call ∈ (List.range n).map (fun i => (copy limited i).rateCall identifier) ++
        [(copy last n).rateCall identifier], call.now = 0 := by
      intro call member
      simp only [List.mem_append, List.mem_map, List.mem_singleton] at member
      obtain ⟨_, _, rfl⟩ | rfl := member
      · rfl
      · rfl
    apply List.pairwise_of_forall_mem_list
    intro earlier inEarlier later inLater
    rw [instant earlier inEarlier, instant later inLater]

theorem dependent_of_prefix {first second : LimitedRequest} (presents : first.presents env = some key)
    (presents' : second.presents env = some other) (same : Text.slice key 8 = Text.slice other 8) :
    ¬ IndependentOf env key other := by
  intro independent
  obtain ⟨n, enough⟩ : ∃ n : Nat, apiKeyLimiter.limit = n := ⟨1000, rfl⟩
  have flooded : withoutKey env other (flood second n) = withoutKey env other [] := by
    unfold withoutKey flood
    rw [List.filter_nil, List.filter_eq_nil_iff]
    intro limited member
    obtain ⟨i, _, rfl⟩ := List.mem_map.mp member
    have copied : (copy second i).presents env = some other := presents'
    simp [copied]
  have iff := independent (flood second n) [] (copy first n) presents flooded
  have charge := charge_copy env presents n
  have whole := flood_orderly second first (Text.slice key 8) n
  -- after the flood one more call is refused
  have refused : LimitRefused env (flood second n) (copy first n) := by
    refine ⟨_, charge, ?_⟩
    unfold SlidingWindowRateLimiter.Refused
    have all : recent RateCall.now (apiKeyLimiter.windowSeconds : ℚ)
        ((copy first n).rateCall (Text.slice key 8)).now
        ((List.range n).map (fun i => (copy second i).rateCall (Text.slice key 8))) =
        (List.range n).map (fun i => (copy second i).rateCall (Text.slice key 8)) := by
      unfold recent
      rw [List.filter_eq_self]
      intro call member
      obtain ⟨i, _, rfl⟩ := List.mem_map.mp member
      simp [LimitedRequest.rateCall, copy, apiKeyLimiter]
    rw [charges_flood env presents', ← same, answer_eq apiKeyLimiter whole List.prefix_rfl, all,
      List.length_map, List.length_range, enough, if_pos (le_refl _)]
  -- without it, it is the first
  obtain ⟨call, charged, refuses⟩ := iff.mp refused
  rw [charge, Option.some.injEq] at charged
  subst charged
  have alone : apiKeyLimiter.answer (charges env [])
      ((copy first n).rateCall (Text.slice key 8)) = .ok true := by
    rw [SlidingWindowRateLimiter.answer, apiKeyLimiter.check_snd_of_delivered rfl]
    rfl
  rw [SlidingWindowRateLimiter.Refused, alone] at refuses
  cases refuses

end Keys

/-! ## Keys of a server -/

/-- A request with a key in `X-API-Key`. -/
def keyRequest (rawKey : String) : LimitedRequest where
  request :=
    { method := "GET", path := "/v1/vendors", authorization := none, apiKey := some rawKey
      organizationId := none, reliastraOrganization := none, idempotencyKey := none
      clientHost := none }
  time := 0
  member := "0.0:1"
  outcome := .delivered
  nonneg := le_refl 0

theorem keyRequest_presents (env : CredentialEnvironment) {rawKey : String}
    (stripped : Text.strip rawKey = rawKey) (present : rawKey ≠ "") :
    (keyRequest rawKey).presents env = some rawKey := by
  simp [LimitedRequest.presents, rawKey?, keyRequest, stripped, present]

end Reliastra.Guarantees
