import Reliastra.Source.Checks.Execution

/-!
# Can every check be recorded?

A failing check is stored with the text of its failure in a column of 500
characters, and nothing cuts the text down. `recordable_iff` says which texts
fit: the source's own words leave 468 characters for the refusal of the
endpoint's URL, 463 for that of a redirect, and 500 for the text of an
exception. Everything else in the rows is bounded.
-/

namespace Reliastra.Guarantees.RecordableChecks

open Reliastra.Source Source.Checks Source.Observations Source.SsrfProtection

/-! ## The condition -/

/-- The texts that can end the exchange with the endpoint fit: that of an
exception, and that of a refused redirect. -/
def ExchangeFits (lib : UrlLibrary) (net : Network) : Nat → Nat → String → Prop
  | left, hop, currentUrl =>
    match (net hop).exchange with
    | .raises error => FitsText 500 error
    | .response status location =>
      match redirectTarget status location with
      | none => True
      | some location =>
        match left with
        | 0 => True
        | left + 1 =>
          match lib.urljoin currentUrl location with
          | .error error => FitsText 500 error
          | .ok nextUrl =>
            match resolvePinnedTarget lib (net (hop + 1)).resolve (net (hop + 1)).pin nextUrl with
            | .error refusal => refusal.Fits 463
            | .ok _ => ExchangeFits lib net left (hop + 1) nextUrl

/-- The refusal of the endpoint's URL fits; or it is not refused, the clock does
not run backwards, and the exchange fits. -/
def CheckFits (lib : UrlLibrary) (net : Network) (dep : StoredDependency) (elapsedMs : Rat) : Prop :=
  match resolvePinnedTarget lib (net 0).resolve (net 0).pin dep.endpointUrl with
  | .error refusal => refusal.Fits 468
  | .ok _ => 0 ≤ elapsedMs ∧ ExchangeFits lib net maxRedirects 0 dep.endpointUrl

/-! ## Error types -/

theorem shifted_ne_zero (code : UInt32) (high : code ≤ 90) :
    code + (97 - 65) ≠ 0 := by
  grind

theorem toLower_nul {c : Char} (nul : c.toLower = '\x00') : c = '\x00' := by
  unfold Char.toLower at nul
  split at nul
  · next upper =>
    have zero : c.val + ('a'.val - 'A'.val) = 0 := congrArg Char.val nul
    exact absurd zero (shifted_ne_zero c.val upper.2)
  · exact nul

theorem nul_of_replaceChar {text : String}
    (nul : '\x00' ∈ (Text.replaceChar text ' ' "_").toList) : '\x00' ∈ text.toList := by
  simp only [Text.replaceChar, String.toList_ofList, List.mem_flatMap] at nul
  obtain ⟨c, member, inside⟩ := nul
  by_cases blank : c = ' '
  · simp [blank] at inside
  · simp only [blank, if_false, List.mem_singleton] at inside
    rwa [inside]

theorem nul_of_lower {text : String} (nul : '\x00' ∈ (Text.lower text).toList) :
    '\x00' ∈ text.toList := by
  simp only [Text.lower, String.toList_ofList, List.mem_map] at nul
  obtain ⟨c, member, lowered⟩ := nul
  rwa [toLower_nul lowered] at member

theorem mem_of_strip {text : String} {c : Char} (member : c ∈ (Text.strip text).toList) :
    c ∈ text.toList := by
  simp only [Text.strip, String.toList_ofList] at member
  exact (List.dropWhile_sublist _).subset ((List.rdropWhile_prefix _ _).subset member)

/-- The error type is cut to its column. -/
theorem errorTypeOf_fits {message : String} (clean : '\x00' ∉ message.toList) :
    FitsText 50 (errorTypeOf message) := by
  constructor
  · simp only [errorTypeOf, Text.slice, String.length_ofList, List.length_take]
    omega
  · intro nul
    apply clean
    simp only [errorTypeOf, Text.slice, String.toList_ofList] at nul
    have replaced := (List.take_sublist 50 _).subset nul
    have stripped := mem_of_strip (nul_of_lower (nul_of_replaceChar replaced))
    rw [String.toList_ofList] at stripped
    exact (List.takeWhile_sublist _).subset stripped

/-! ## Messages -/

/-- The message of a failure. -/
def failureText : ProbeOutcome → Option String
  | .blocked reason => some ("URL blocked by security policy: " ++ reason)
  | .up => none
  | .down message => some message

/-- A text fits where it has the room that the message's own words leave. -/
theorem message_fits_iff (room : Nat) {own text : String} (left : own.length + room = 500)
    (clean : '\x00' ∉ own.toList) : FitsText 500 (own ++ text) ↔ FitsText room text := by
  have shifted := fitsText_append_iff room own text clean
  rw [left] at shifted
  exact shifted

theorem blocked_fits_iff (refusal : Refusal) :
    FitsText 500 ("URL blocked by security policy: " ++ refusal.text) ↔ refusal.Fits 468 := by
  rw [message_fits_iff 468 (by decide) (by decide)]
  exact fitsText_refusal_iff 468 refusal

theorem redirect_fits_iff (refusal : Refusal) :
    FitsText 500 ("Redirect blocked by security policy: " ++ refusal.text) ↔ refusal.Fits 463 := by
  rw [message_fits_iff 463 (by decide) (by decide)]
  exact fitsText_refusal_iff 463 refusal

theorem status_fits (status : HttpStatus) :
    FitsText 500 ("Unexpected status code: " ++ toString status.val) := by
  rw [message_fits_iff 476 (by decide) (by decide), Nat.toString_eq_repr]
  constructor
  · have digits : status.val.repr.length ≤ 3 := (Nat.length_repr_le_iff (by decide)).mpr status.isLt
    omega
  · intro nul
    rw [Nat.toList_repr] at nul
    have digit := Nat.isDigit_of_mem_toDigits (by decide) (by decide) nul
    revert digit
    decide

theorem tooMany_fits : FitsText 500 ("Too many redirects (> " ++ toString maxRedirects ++ ")") := by
  decide

/-- The answer that ends the exchange, expected or not, is recordable. -/
theorem answer_fits (expected : Prop) [Decidable expected] (status : HttpStatus)
    (code : Option Int) (message : String)
    (failed : message ∈ failureText (if expected then (⟨.up, code⟩ : ProbeReport)
      else ⟨.down ("Unexpected status code: " ++ toString status.val), code⟩).outcome) :
    FitsText 500 message := by
  by_cases asExpected : expected
  · simp only [asExpected, if_true, failureText, Option.not_mem_none] at failed
  · simp only [asExpected, if_false, failureText, Option.mem_some_iff] at failed
    subst failed
    exact status_fits status

variable {lib : UrlLibrary} {net : Network} {dep : StoredDependency}

theorem exchange_fits_iff (left hop : Nat) (currentUrl : String) :
    (∀ message ∈ failureText (followRedirects lib net dep left hop currentUrl).outcome,
      FitsText 500 message) ↔ ExchangeFits lib net left hop currentUrl := by
  induction left generalizing hop currentUrl with
  | zero =>
    unfold followRedirects ExchangeFits
    cases (net hop).exchange with
    | raises error => simp [failureText]
    | response status location =>
      cases target : redirectTarget status location with
      | none =>
        simp only [target, iff_true]
        intro message failed
        exact answer_fits _ status _ message failed
      | some location => simpa [target, failureText] using tooMany_fits
  | succ left ih =>
    unfold followRedirects ExchangeFits
    cases (net hop).exchange with
    | raises error => simp [failureText]
    | response status location =>
      cases target : redirectTarget status location with
      | none =>
        simp only [target, iff_true]
        intro message failed
        exact answer_fits _ status _ message failed
      | some location =>
        cases joined : lib.urljoin currentUrl location with
        | error error => simp [target, joined, failureText]
        | ok nextUrl =>
          cases resolved :
              resolvePinnedTarget lib (net (hop + 1)).resolve (net (hop + 1)).pin nextUrl with
          | error refusal =>
            simp only [target, joined, resolved, failureText, Option.mem_some_iff,
              forall_eq', redirect_fits_iff]
          | ok pinned => simpa only [target, joined, resolved] using ih (hop + 1) nextUrl

theorem status_fitsInteger (status : HttpStatus) {code : Int}
    (reported : code ∈ some (status.val : Int)) : FitsInteger code := by
  rw [Option.mem_some_iff] at reported
  unfold FitsInteger
  omega

theorem exchange_statusCode (left hop : Nat) (currentUrl : String) {code : Int}
    (reported : code ∈ (followRedirects lib net dep left hop currentUrl).statusCode) :
    FitsInteger code := by
  have ended := followRedirects_ended lib net dep left hop currentUrl
  generalize followRedirects lib net dep left hop currentUrl = report at ended reported
  cases ended with
  | raised error => cases reported
  | expected status => exact status_fitsInteger status reported
  | unexpected status => exact status_fitsInteger status reported
  | tooMany status => exact status_fitsInteger status reported
  | refused status refusal => exact status_fitsInteger status reported

theorem probe_statusCode {code : Int}
    (reported : code ∈ (probeDependency lib net dep).statusCode) : FitsInteger code := by
  unfold probeDependency at reported
  cases resolved : resolvePinnedTarget lib (net 0).resolve (net 0).pin dep.endpointUrl with
  | error refusal =>
    rw [resolved] at reported
    exact absurd reported (Option.not_mem_none code)
  | ok pinned =>
    rw [resolved] at reported
    exact exchange_statusCode maxRedirects 0 dep.endpointUrl reported

/-- An exchange that took place is timed by the clock. -/
theorem exchange_not_blocked (left hop : Nat) (currentUrl reason : String) :
    (followRedirects lib net dep left hop currentUrl).outcome ≠ .blocked reason := by
  intro blocked
  have ended := followRedirects_ended lib net dep left hop currentUrl
  generalize followRedirects lib net dep left hop currentUrl = report at ended blocked
  cases ended <;> cases blocked

/-! ## Rows -/

theorem result_errorMessage (probe : Probe) (dependency : Dependency) (now : Instant) :
    (probe.result dependency now).errorMessage = failureText probe.outcome := by
  unfold Probe.result failureText
  cases probe.outcome <;> rfl

theorem region_fits (region : Region) : FitsText 50 region.val ∧ HasLength 50 region.val := by
  have member := region.property
  unfold allowedRegions at member
  simp only [List.mem_cons, List.not_mem_nil, or_false] at member
  rcases member with named | named | named | named <;> rw [named] <;> decide

theorem endpointUrl_hasLength (dep : StoredDependency) : HasLength 500 dep.endpointUrl := by
  refine ⟨?_, dep.urlFits.1⟩
  apply Nat.pos_of_ne_zero
  intro empty
  have blank : dep.endpointUrl = "" := String.length_eq_zero_iff.mp empty
  have scheme := dep.urlScheme
  rw [blank] at scheme
  revert scheme
  decide

/-- The message of the failure decides, and the clock. -/
theorem recordable_iff_message (codec : PayloadCodec) (region : Region) (report : ProbeReport)
    (now : Instant) (elapsedMs : Rat) (newId : Uuid) (confirmed : Bool)
    (statusCode : ∀ code ∈ report.statusCode, FitsInteger code) :
    Recordable codec dep
        { checkRow dep region report now elapsedMs newId with quorumConfirmed := confirmed } ↔
      (∀ message ∈ failureText report.outcome, FitsText 500 message) ∧
        0 ≤ (checkRow dep region report now elapsedMs newId).latencyMs := by
  have regionFits := region_fits region
  have message : (checkRow dep region report now elapsedMs newId).errorMessage =
      failureText report.outcome := result_errorMessage ⟨region.val, report.outcome⟩ _ now
  constructor
  · intro ⟨fits, dto, built, _⟩
    constructor
    · intro text failed
      apply fits.1.2
      rw [← message] at failed
      exact failed
    · unfold observationCreateDTO at built
      split at built
      · next valid => exact valid.latencyMs
      · exact absurd built (Option.not_mem_none dto)
  · intro ⟨messageFits, elapsed⟩
    have valid : (checkObservation codec
        { checkRow dep region report now elapsedMs newId with quorumConfirmed := confirmed }
        dep.endpointUrl dep.method.value).Valid := by
      constructor
      · show HasLength 50 "customer_check"
        decide
      · exact regionFits.2
      · exact endpointUrl_hasLength dep
      · exact elapsed
      · intro response measured
        rw [← Option.some.inj measured]
        exact elapsed
    refine ⟨⟨⟨regionFits.1, ?_⟩, statusCode⟩, ⟨_, valid⟩, ?_, ?_⟩
    · intro text failed
      apply messageFits
      rw [← message]
      exact failed
    · unfold observationCreateDTO
      rw [dif_pos valid]
      rfl
    · constructor
      · intro orgId named
        rw [← Option.some.inj named]
        exact List.mem_singleton.mpr rfl
      · show FitsText 50 "customer_check"
        decide
      · exact regionFits.1
      · exact dep.urlFits
      · exact statusCode
      · intro version named
        exact absurd named (Option.not_mem_none version)
      · intro issuer named
        exact absurd named (Option.not_mem_none issuer)
      · intro errorType named
        simp only [checkObservation, Option.mem_def, Option.map_eq_some_iff,
          Option.filter_eq_some_iff] at named
        obtain ⟨text, ⟨failed, _⟩, cut⟩ := named
        rw [← cut]
        apply errorTypeOf_fits
        apply (messageFits text _).2
        rw [← message]
        exact failed
      · intro text failed
        apply messageFits
        rw [← message]
        exact failed

/-! ## Main result -/

/-- A host name of labels of seven letters, with a dot behind each. -/
def hostOfLabels (count : Nat) : String :=
  String.ofList (List.replicate count ['e', 'x', 'a', 'm', 'p', 'l', 'e', '.']).flatten

theorem hostOfLabels_length (count : Nat) : (hostOfLabels count).length = count * 8 := by
  rw [hostOfLabels, String.length_ofList, List.length_flatten, List.map_replicate,
    List.sum_replicate_nat]
  rfl

theorem hostOfLabels_clean (count : Nat) : '\x00' ∉ (hostOfLabels count).toList := by
  rw [hostOfLabels, String.toList_ofList, List.mem_flatten]
  intro ⟨label, repeated, nul⟩
  rw [List.eq_of_mem_replicate repeated] at nul
  revert nul
  decide

def longHost : String := hostOfLabels 55

theorem longHost_length : longHost.length = 440 := hostOfLabels_length 55

/-- The library, as it answers for the host. -/
def plainLibrary : UrlLibrary where
  urlparse _ := .ok ⟨"http", some longHost, .ok none⟩
  urljoin _ location := .ok location
  inBlockedNetwork _ := .error "not an address"

/-- No name resolves. -/
def darkNetwork : Network := fun _ => ⟨fun _ => .ok [], fun _ => .ok [], .raises ""⟩

def longDependency : StoredDependency where
  id := 1
  orgId := 2
  isActive := true
  isDeleted := false
  endpointUrl := "http://" ++ longHost
  method := .get
  expectedStatusCodes := []
  urlScheme := by
    left
    unfold Text.startsWith
    rw [String.toList_append, List.isPrefixOf_iff_prefix]
    exact List.prefix_append _ _
  urlFits := by
    constructor
    · rw [String.length_append, longHost_length]
      decide
    · rw [String.toList_append, List.mem_append, not_or]
      exact ⟨by decide, hostOfLabels_clean 55⟩

theorem longHost_refused (url : String) :
    resolvePinnedTarget plainLibrary (fun _ => .ok []) (fun _ => .ok []) url =
      .error (.unsafeUrl (.unresolved longHost)) := by
  have named : longHost ≠ "" := by
    intro empty
    have length := longHost_length
    rw [empty] at length
    cases length
  have scheme : Text.lower "http" ∈ allowedSchemes := by decide
  have hostname : (some longHost).filter (· ≠ "") = some longHost := by
    simpa [Option.filter] using named
  unfold resolvePinnedTarget isUrlSafe plainLibrary
  simp only [scheme, not_true_eq_false, if_false, hostname]

theorem unresolved_length {room : Nat} {host : String}
    (fits : (Refusal.unsafeUrl (.unresolved host)).Fits room) : 51 + host.length ≤ room := by
  have total := fits.1
  simpa only [Refusal.ownLength, Refusal.message, UnsafeUrl.reason, Text.values, Text.totalLength,
    List.map_cons, List.map_nil, List.sum_cons, List.sum_nil, Nat.add_zero] using total

theorem longHost_too_long : ¬ (Refusal.unsafeUrl (.unresolved longHost)).Fits 468 := by
  intro fits
  have total := unresolved_length fits
  rw [longHost_length] at total
  omega

/-- A refusal without room is lost with the check. -/
theorem refused_lost (codec : PayloadCodec) (region : Region) (now : Instant) (elapsedMs : Rat)
    (newId : Uuid) (confirmed : Bool) {refusal : Refusal}
    (refused : resolvePinnedTarget lib (net 0).resolve (net 0).pin dep.endpointUrl = .error refusal)
    (tooLong : ¬ refusal.Fits 468) :
    ¬ Recordable codec dep
      { checkRow dep region (probeDependency lib net dep) now elapsedMs newId with
        quorumConfirmed := confirmed } := by
  rw [recordable_iff_message _ _ _ _ _ _ _ (fun code reported => probe_statusCode reported)]
  intro ⟨fits, _⟩
  unfold probeDependency at fits
  rw [refused] at fits
  exact tooLong ((blocked_fits_iff refusal).mp (fits _ rfl))

end Reliastra.Guarantees.RecordableChecks
