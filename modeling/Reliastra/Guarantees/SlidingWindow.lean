import Mathlib.Tactic.Linarith
import Reliastra.Library.Histories
import Reliastra.Source.Core.RateLimit
import Reliastra.Source.Core.Http

/-!
# What the sliding-window limiter bounds

Between the calls for one identifier its sorted set holds the calls of the last
window, or has expired because there was none: the key outlives a window by another.
A call counts them all, those that were refused included. So an answer is a function
of the earlier calls of the window alone, and no window holds more allowed calls
than the limit.
-/

namespace Reliastra.Guarantees

open Reliastra.Library Windows Reliastra.Source

/-- The calls of one identifier while Redis answers: at times that do not decrease,
each with a member of its own. -/
structure Orderly (identifier : String) (calls : List RateCall) : Prop where
  identifier : ∀ call ∈ calls, call.identifier = identifier
  delivered : ∀ call ∈ calls, call.outcome = .delivered
  distinct : (calls.map (·.member)).Nodup
  ordered : calls.Pairwise (fun earlier later => earlier.now ≤ later.now)

section Invariant

variable (limiter : SlidingWindowRateLimiter) {identifier : String} {calls : List RateCall}

theorem Orderly.of_prefix {before : List RateCall} (orderly : Orderly identifier calls)
    (isPrefix : before <+: calls) : Orderly identifier before where
  identifier call member := orderly.identifier call (isPrefix.mem member)
  delivered call member := orderly.delivered call (isPrefix.mem member)
  distinct := orderly.distinct.sublist (isPrefix.sublist.map _)
  ordered := orderly.ordered.sublist isPrefix.sublist

def scored (call : RateCall) : ScoredMember := ⟨call.member, call.now⟩

def setsAfter (calls : List RateCall) : SortedSets :=
  Run.exec limiter.record (fun _ => none) calls

/-- What the limiter finds at a time is the calls of the window that ends there. -/
def FindsRecent (identifier : String) (calls : List RateCall) (now : ℚ) : Prop :=
  zremrangebyscore ((setsAfter limiter calls).live (limiter.key identifier) now) 0
      (now - limiter.windowSeconds) =
    (recent RateCall.now (limiter.windowSeconds : ℚ) now calls).map scored

theorem zremrangebyscore_scored (calls : List RateCall) (high : ℚ) :
    zremrangebyscore (calls.map scored) 0 high =
      (calls.filter (fun call => high < call.now)).map scored := by
  unfold zremrangebyscore
  rw [List.filter_map]
  congr 1
  apply List.filter_congr
  intro call _
  simp only [Function.comp_apply, scored, decide_eq_decide]
  simp [call.nonneg]

theorem recent_recent (calls : List RateCall) (width : ℚ) {earlier later : ℚ}
    (inOrder : earlier ≤ later) :
    recent RateCall.now width later (recent RateCall.now width earlier calls) =
      recent RateCall.now width later calls := by
  unfold recent
  rw [List.filter_filter]
  apply List.filter_congr
  intro call _
  rw [Bool.and_eq_decide, decide_eq_decide]
  simp only [decide_eq_true_eq]
  constructor
  · intro both
    exact both.1
  · intro holds
    exact ⟨holds, by linarith⟩

theorem recent_eq_nil {calls : List RateCall} {width now : ℚ}
    (old : ∀ call ∈ calls, call.now ≤ now - width) : recent RateCall.now width now calls = [] := by
  unfold recent
  rw [List.filter_eq_nil_iff]
  intro call member
  simpa using old call member

/-- What a call leaves in the set of its identifier, from what it found there. -/
theorem setsAfter_concat (before : List RateCall) {call : RateCall}
    (delivered : call.outcome = .delivered) :
    setsAfter limiter (before ++ [call]) (limiter.key call.identifier) =
      expire (zadd (limiter.kept (setsAfter limiter before) call) call.member call.now)
        (limiter.windowSeconds * 2) call.now := by
  have executed : call.outcome ≠ .requestLost := by
    rw [delivered]
    decide
  unfold setsAfter
  rw [Run.exec_concat, limiter.record_of_executed executed]
  exact Function.update_self _ _ _

/-- A member of its own is added behind the others. -/
theorem zadd_scored {before kept : List RateCall} {call : RateCall} (sub : kept.Sublist before)
    (distinct : ((before ++ [call]).map (·.member)).Nodup) :
    zadd (kept.map scored) call.member call.now = (kept ++ [call]).map scored := by
  have others : (kept.map scored).filter (fun entry => entry.member ≠ call.member) =
      kept.map scored := by
    rw [List.filter_eq_self]
    intro entry member
    obtain ⟨earlier, inKept, rfl⟩ := List.mem_map.mp member
    rw [List.map_append, List.nodup_append] at distinct
    have differ := distinct.2.2 earlier.member
      (List.mem_map.mpr ⟨earlier, sub.subset inKept, rfl⟩) call.member (by simp)
    exact decide_eq_true differ
  rw [zadd, others, List.map_append]
  rfl

/-- The invariant of the sorted set, carried from call to call. -/
theorem findsRecent (orderly : Orderly identifier calls) {now : ℚ}
    (latest : ∀ call ∈ calls, call.now ≤ now) :
    FindsRecent limiter identifier calls now := by
  induction calls using List.reverseRecOn generalizing now with
  | nil => rfl
  | append_singleton before call ih =>
    have before_le : ∀ earlier ∈ before, earlier.now ≤ call.now := by
      intro earlier member
      exact (List.pairwise_append.mp orderly.ordered).2.2 earlier member call (by simp)
    have all_le : ∀ earlier ∈ before ++ [call], earlier.now ≤ call.now := by
      intro earlier member
      cases List.mem_append.mp member with
      | inl inBefore => exact before_le earlier inBefore
      | inr last =>
        rw [List.mem_singleton.mp last]
    have call_le : call.now ≤ now := latest call (by simp)
    have found := ih (orderly.of_prefix (List.prefix_append before [call])) before_le
    have here : call.identifier = identifier := orderly.identifier call (by simp)
    have left := setsAfter_concat limiter before
      (orderly.delivered call (by simp))
    unfold FindsRecent at found
    unfold SlidingWindowRateLimiter.kept at left
    have sub : (recent RateCall.now (limiter.windowSeconds : ℚ) call.now before).Sublist before :=
      List.filter_sublist
    rw [here, found, zadd_scored sub orderly.distinct] at left
    unfold FindsRecent SortedSets.live
    rw [left, expire]
    by_cases short : limiter.windowSeconds * 2 ≤ 0
    · -- an empty window: the key is gone at once, and no call is recent
      rw [if_pos short, recent_eq_nil]
      · rfl
      · intro earlier member
        have width : (limiter.windowSeconds : ℚ) ≤ 0 := by
          exact_mod_cast (by omega : limiter.windowSeconds ≤ 0)
        linarith [all_le earlier member]
    · rw [if_neg short]
      by_cases alive : now < call.now + ((limiter.windowSeconds * 2 : Int) : ℚ)
      · simp only [if_pos alive]
        rw [zremrangebyscore_scored, List.filter_append]
        have kept := recent_recent before limiter.windowSeconds call_le
        unfold recent at kept ⊢
        rw [kept, List.filter_append]
      · -- the key expired, two windows after its last call
        simp only [if_neg alive]
        rw [recent_eq_nil]
        · rfl
        · intro earlier member
          have width : (0 : ℚ) ≤ limiter.windowSeconds := by
            exact_mod_cast (by omega : 0 ≤ limiter.windowSeconds)
          push_cast at alive
          linarith [all_le earlier member]

/-- A call is refused by the number of earlier calls in the window that ends with it. -/
theorem answer_eq (orderly : Orderly identifier calls) {before : List RateCall} {call : RateCall}
    (isPrefix : before ++ [call] <+: calls) :
    limiter.answer before call =
      if (recent RateCall.now (limiter.windowSeconds : ℚ) call.now before).length ≥ limiter.limit
      then .error limiter.exceeded else .ok true := by
  have history := orderly.of_prefix isPrefix
  have before_le : ∀ earlier ∈ before, earlier.now ≤ call.now := by
    intro earlier member
    exact (List.pairwise_append.mp history.ordered).2.2 earlier member call (by simp)
  have found := findsRecent limiter (history.of_prefix (List.prefix_append before [call])) before_le
  have here : call.identifier = identifier := history.identifier call (by simp)
  have counted : zcard (limiter.kept (setsAfter limiter before) call) =
      (recent RateCall.now (limiter.windowSeconds : ℚ) call.now before).length := by
    unfold FindsRecent at found
    rw [SlidingWindowRateLimiter.kept, here, found, zcard, List.length_map]
  unfold SlidingWindowRateLimiter.answer
  rw [limiter.check_snd_of_delivered (history.delivered call (by simp))]
  unfold setsAfter at counted
  rw [counted]

end Invariant

/-! ## The guarantees -/

theorem sliding_window_bound (limiter : SlidingWindowRateLimiter) (identifier : String)
    (calls : List RateCall) (orderly : Orderly identifier calls) :
    (∀ t, (inWindow RateCall.now (limiter.windowSeconds : ℚ) t
      (accepted limiter.Allowed calls)).length ≤ limiter.limit.toNat) ∧
    ∀ before call, before ++ [call] <+: calls →
      (limiter.Refused before call ↔
        limiter.limit ≤
          (recent RateCall.now (limiter.windowSeconds : ℚ) call.now before).length) ∧
      (limiter.Refused before call ∨ limiter.Allowed before call) ∧
      (1 ≤ limiter.limit →
        (∀ earlier ∈ before, earlier.now ≤ call.now - limiter.windowSeconds) →
          limiter.Allowed before call) := by
  constructor
  · intro t
    apply accepted_inWindow_le
    intro before call isPrefix allowed
    unfold SlidingWindowRateLimiter.Allowed at allowed
    rw [answer_eq limiter orderly isPrefix] at allowed
    split at allowed
    · cases allowed
    · omega
  · intro before call isPrefix
    have answer := answer_eq limiter orderly isPrefix
    unfold SlidingWindowRateLimiter.Refused SlidingWindowRateLimiter.Allowed
    rw [answer]
    refine ⟨?_, ?_, ?_⟩
    · split
      · next full => simp [full]
      · next free => simpa using free
    · split
      · exact .inl rfl
      · exact .inr rfl
    · intro positive silent
      rw [recent_eq_nil silent, if_neg]
      simp only [List.length_nil, Nat.cast_zero, ge_iff_le]
      omega

/-- The calls of one client at the limit of a window, and one when it has passed. -/
def callsOfClient : List RateCall :=
  [⟨"203.0.113.7", 100, "100.0:1", .delivered, by decide⟩,
    ⟨"203.0.113.7", 130, "130.0:2", .delivered, by decide⟩,
    ⟨"203.0.113.7", 150, "150.0:3", .delivered, by decide⟩,
    ⟨"203.0.113.7", 210, "210.0:4", .delivered, by decide⟩]

theorem callsOfClient_orderly : Orderly "203.0.113.7" callsOfClient where
  identifier := by decide
  delivered := by decide
  distinct := by decide
  ordered := by decide

theorem sliding_window_bound_of_client :
    Orderly "203.0.113.7" callsOfClient ∧
    (∀ t, (inWindow RateCall.now 60 t
      (accepted (SlidingWindowRateLimiter.Allowed ⟨2, 60, "rl_ip"⟩) callsOfClient)).length ≤ 2) :=
  ⟨callsOfClient_orderly, fun t => by
    simpa using (sliding_window_bound ⟨2, 60, "rl_ip"⟩ "203.0.113.7" callsOfClient
      callsOfClient_orderly).1 t⟩

end Reliastra.Guarantees

/-!
## Which entry of `X-Forwarded-For` is believed

The trusted proxies append one entry each behind whatever the client sent, so the
entry of the outermost is the `N`-th from the end. With more than `N` entries the code
takes it; with exactly `N` it takes the last one, that of the innermost proxy.
-/

namespace Reliastra.Guarantees

open Reliastra.Source

/-- A valid address as a proxy writes it. -/
structure IsEntry (isIpAddress : String → Bool) (entry : String) : Prop where
  valid : isIpAddress entry = true
  one : ',' ∉ entry.toList
  stripped : Text.strip entry = entry
  present : entry ≠ ""

/-- The header after the proxies, the outermost first, have appended their entries to
what the client sent. -/
def appendedBy (clientHeader : String) (entries : List String) : String :=
  entries.foldl (fun header entry => if header = "" then entry else header ++ "," ++ (" " ++ entry))
    clientHeader

theorem hopsOf_appendedBy {isIpAddress : String → Bool} {entries : List String}
    (areEntries : ∀ entry ∈ entries, IsEntry isIpAddress entry) (clientHeader : String) :
    hopsOf (appendedBy clientHeader entries) = hopsOf clientHeader ++ entries := by
  induction entries generalizing clientHeader with
  | nil => simp [appendedBy]
  | cons entry rest ih =>
    obtain ⟨first, later⟩ := List.forall_mem_cons.mp areEntries
    obtain ⟨alone, behind⟩ := hopsOf_entry first.one first.stripped first.present
    have appended : hopsOf (appendedBy clientHeader (entry :: rest)) =
        hopsOf (if clientHeader = "" then entry else clientHeader ++ "," ++ (" " ++ entry)) ++ rest :=
      ih later _
    rw [appended]
    split
    · next empty => rw [empty, hopsOf_empty, alone, List.nil_append, List.singleton_append]
    · rw [hopsOf_append_comma, behind, List.append_assoc, List.singleton_append]

/-- The candidate among the client's parts and the proxies' entries. -/
theorem candidateHop_append (parts : List String) {entries : List String} (some' : entries ≠ []) :
    candidateHop (parts ++ entries) entries.length =
      if parts = [] then entries.getLast? else entries.head? := by
  have positive : 0 < entries.length := List.length_pos_iff.mpr some'
  unfold candidateHop
  by_cases none : parts = []
  · subst none
    rw [List.nil_append, if_pos (le_refl _), if_pos rfl]
  · have more : 0 < parts.length := List.length_pos_iff.mpr none
    rw [List.length_append, if_neg (by omega), if_neg none, fromTheEnd, if_neg (by omega),
      List.length_append, Nat.add_sub_cancel, List.getElem?_append_right (le_refl _), Nat.sub_self,
      List.head?_eq_getElem?]

theorem client_address_iff (isIpAddress : String → Bool) (trustedProxyHops : Nat)
    (clientHeader : String) (outermost : String) (inner : List String)
    (clientHost : Option String)
    (areEntries : ∀ entry ∈ outermost :: inner, IsEntry isIpAddress entry)
    (onePerProxy : (outermost :: inner).length = trustedProxyHops) :
    clientIpFromRequest isIpAddress trustedProxyHops
        (some (appendedBy clientHeader (outermost :: inner))) clientHost = outermost ↔
      trustedProxyHops = 1 ∨ (∃ part ∈ splitComma clientHeader, Text.strip part ≠ "") ∨
        (outermost :: inner).getLast? = some outermost := by
  have parts : hopsOf clientHeader = [] ↔
      ¬ ∃ part ∈ splitComma clientHeader, Text.strip part ≠ "" := by
    simp [hopsOf, List.filter_eq_nil_iff]
  have candidate := candidateHop_append (hopsOf clientHeader) (List.cons_ne_nil outermost inner)
  rw [onePerProxy] at candidate
  unfold clientIpFromRequest
  rw [Option.getD_some, hopsOf_appendedBy areEntries, candidate]
  by_cases blank : hopsOf clientHeader = []
  · -- the client contributed nothing: the last entry is taken
    rw [if_pos blank, List.getLast?_eq_some_getLast (List.cons_ne_nil outermost inner)]
    have last := areEntries _ (List.getLast_mem (List.cons_ne_nil outermost inner))
    rw [Option.filter_some_pos (by simpa using last.valid)]
    simp only [Option.some.injEq, parts.mp blank, false_or]
    constructor
    · exact .inr
    · rintro (one | same)
      · have alone : inner = [] := by
          rw [← onePerProxy, List.length_cons] at one
          exact List.length_eq_zero_iff.mp (by omega)
        subst alone
        rfl
      · exact same
  · rw [if_neg blank, List.head?_cons, Option.filter_some_pos
      (by simpa using (areEntries outermost (by simp)).valid)]
    have part : ∃ part ∈ splitComma clientHeader, Text.strip part ≠ "" := by
      by_contra none
      exact blank (parts.mpr none)
    simp only [part, true_or, or_true]

/-- Two proxies, and a client that sends no header: the entry the inner proxy appended
is returned, the address of the outer one. -/
theorem client_address_not_outermost :
    (∀ entry ∈ ["203.0.113.9", "10.0.0.2"],
      IsEntry (fun text => text ∈ ["203.0.113.9", "10.0.0.2"]) entry) ∧
    appendedBy "" ["203.0.113.9", "10.0.0.2"] = "203.0.113.9, 10.0.0.2" ∧
    clientIpFromRequest (fun text => text ∈ ["203.0.113.9", "10.0.0.2"]) 2
      (some "203.0.113.9, 10.0.0.2") (some "10.0.0.2") = "10.0.0.2" := by
  refine ⟨?_, by decide, by decide⟩
  intro entry member
  simp only [List.mem_cons, List.not_mem_nil, or_false] at member
  obtain rfl | rfl := member
  · exact ⟨by decide, by decide, by decide, by decide⟩
  · exact ⟨by decide, by decide, by decide, by decide⟩

theorem client_address_iff_one_proxy :
    clientIpFromRequest (fun text => text = "70.41.3.18") 1
        (some (appendedBy "203.0.113.9" ["70.41.3.18"])) (some "10.0.0.5") = "70.41.3.18" ↔
      1 = 1 ∨ (∃ part ∈ splitComma "203.0.113.9", Text.strip part ≠ "") ∨
        ["70.41.3.18"].getLast? = some "70.41.3.18" :=
  client_address_iff (fun text => text = "70.41.3.18") 1 "203.0.113.9" "70.41.3.18" []
    (some "10.0.0.5") (by
      intro entry member
      rw [List.mem_singleton.mp member]
      exact ⟨by decide, by decide, by decide, by decide⟩) rfl

end Reliastra.Guarantees
