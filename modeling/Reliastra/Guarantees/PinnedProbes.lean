import Reliastra.Source.Checks.PinnedProbe

/-!
# Every hop of a probe is pinned

Whatever the target redirects to and whatever the resolver answers, a probe sends
at most `maxRedirects + 1` requests, each to an address that the resolution of
that hop's own URL accepted. `requests_eq` writes the requests down hop by hop,
without the loop.

Two attributes of the transport are taken from the URL with a slip: an explicit
port 0 counts as none, and the scheme is read off the text of the URL instead of
the parsed one. `pinned_every_hop_iff` says that the transport has the host name,
port and scheme of the URL of every hop if and only if no URL a request is sent
for names port 0, or spells its scheme so that only the parser sees it.
-/

namespace Reliastra.Guarantees.PinnedProbes

open Reliastra.Source Reliastra.Source.SsrfProtection Reliastra.Source.Checks

variable {lib : UrlLibrary} {client : HttpClient} {net : Network} {dep : StoredDependency}

/-! ## Hops -/

/-- What `resolve_pinned_target` answers for the URL of a hop. -/
def resolved (lib : UrlLibrary) (net : Network) (hop : Nat) (url : String) :
    Except Refusal PinnedTarget :=
  resolvePinnedTarget lib (net hop).resolve (net hop).pin url

/-- The URL a response leads to. -/
def redirectUrl (lib : UrlLibrary) (net : Network) (hop : Nat) (url : String) : Option String :=
  match (net hop).exchange with
  | .raises _ => none
  | .response status location =>
    match redirectTarget status location with
    | none => none
    | some location => (lib.urljoin url location).toOption

/-- The URL of a hop and its accepted target, where the probe comes that far. -/
def hopTarget (lib : UrlLibrary) (client : HttpClient) (net : Network) (endpointUrl : String) :
    Nat → Option (String × PinnedTarget)
  | 0 => (resolved lib net 0 endpointUrl).toOption.map fun target => (endpointUrl, target)
  | hop + 1 =>
    match hopTarget lib client net endpointUrl hop with
    | none => none
    | some (url, _) =>
      if client url ≠ none then none
      else
        match redirectUrl lib net hop url with
        | none => none
        | some nextUrl =>
          (resolved lib net (hop + 1) nextUrl).toOption.map fun target => (nextUrl, target)

/-- The transport for an accepted target. -/
def transportOf (target : PinnedTarget) : PinnedTransport :=
  ⟨target.hostname, target.port, usesSsl target, target.ips.headD ""⟩

/-- The request of a hop. -/
def hopRequest (lib : UrlLibrary) (client : HttpClient) (net : Network) (endpointUrl : String)
    (hop : Nat) : Option SentRequest :=
  match hopTarget lib client net endpointUrl hop with
  | none => none
  | some (url, target) => if client url = none then some ⟨hop, url, transportOf target⟩ else none

/-! ## Resolution -/

/-- The port a URL names, or the one its scheme stands for. -/
def urlPort (parsed : ParsedUrl) : Except String Nat :=
  match parsed.port with
  | .error error => .error error
  | .ok (some port) => .ok port
  | .ok none => .ok (if Text.lower parsed.scheme = "https" then 443 else 80)

/-- What an accepted target is made of. -/
structure Accepts (lib : UrlLibrary) (pin : Resolver) (url : String) (target : PinnedTarget)
    (parsed : ParsedUrl) : Prop where
  parses : lib.urlparse url = .ok parsed
  url_eq : target.url = url
  hostname_eq : target.hostname = parsed.hostname.getD ""
  answered : pin target.hostname = .ok target.ips
  ips_ne_nil : target.ips ≠ []
  unblocked : ∀ ip ∈ target.ips, lib.inBlockedNetwork ip = .ok false
  port_eq : ∃ port, parsed.port = .ok port ∧ target.port = match port with
    | none | some 0 => if Text.lower parsed.scheme = "https" then 443 else 80
    | some port => port

theorem accepts_of_resolved {resolve pin : Resolver} {url : String} {target : PinnedTarget}
    (success : resolvePinnedTarget lib resolve pin url = .ok target) :
    ∃ parsed, Accepts lib pin url target parsed := by
  unfold resolvePinnedTarget at success
  split at success
  · cases success
  · cases success
  · split at success
    · cases success
    · next parsed parses =>
      dsimp only at success
      split at success
      · cases success
      · cases success
      · next ips notEmpty answered =>
        split at success
        · cases success
        · next passed =>
          split at success
          · cases success
          · next port named =>
            cases success
            have free := (checkPinned_eq_ok_iff lib _).mp passed
            refine ⟨parsed, parses, rfl, rfl, answered, ?_, free, port, named, ?_⟩
            · intro empty
              exact notEmpty empty
            · cases port with
              | none => simp
              | some port => cases port <;> simp

theorem resolved_toOption {hop : Nat} {url : String} {target : PinnedTarget}
    (success : (resolved lib net hop url).toOption = some target) :
    resolved lib net hop url = .ok target := by
  cases answer : resolved lib net hop url with
  | error refusal =>
    rw [answer] at success
    cases success
  | ok other =>
    rw [answer] at success
    cases success
    rfl

theorem pinnedTransportFor_eq (cache : TransportCache) {target : PinnedTarget}
    (some_ip : target.ips ≠ []) :
    ∃ cache', pinnedTransportFor cache target = .ok (transportOf target, cache') := by
  unfold pinnedTransportFor transportOf
  cases ips : target.ips with
  | nil => exact absurd ips some_ip
  | cons ip rest =>
    dsimp only [List.headD_cons]
    split
    · next transport cached =>
      obtain ⟨_, _, split, _⟩ := List.lookup_eq_some_iff.mp cached
      have same : transport = ⟨target.hostname, target.port, usesSsl target, ip⟩ := by
        apply cache.keyed (⟨target.hostname, target.port, usesSsl target, ip⟩, transport)
        rw [split]
        exact List.mem_append_right _ List.mem_cons_self
      exact ⟨cache, by rw [same]⟩
    · exact ⟨_, rfl⟩

/-! ## The requests, hop by hop -/

theorem hopTarget_none {endpointUrl : String} {hop : Nat}
    (ended : hopTarget lib client net endpointUrl hop = none) (further : Nat) :
    hopTarget lib client net endpointUrl (hop + further) = none := by
  induction further with
  | zero => exact ended
  | succ further ih =>
    rw [← Nat.add_assoc, hopTarget, ih]

theorem no_further_requests {endpointUrl : String} {hop : Nat}
    (ended : hopTarget lib client net endpointUrl hop = none) (count : Nat) :
    (List.range' hop count).filterMap (hopRequest lib client net endpointUrl) = [] := by
  rw [List.filterMap_eq_nil_iff]
  intro later member
  obtain ⟨further, _, rfl⟩ := List.mem_range'.mp member
  unfold hopRequest
  rw [Nat.one_mul, hopTarget_none ended]

theorem hopTarget_target {endpointUrl : String} {hop : Nat} {url : String} {target : PinnedTarget}
    (here : hopTarget lib client net endpointUrl hop = some (url, target)) :
    resolved lib net hop url = .ok target := by
  cases hop with
  | zero =>
    obtain ⟨other, accepted, same⟩ := Option.map_eq_some_iff.mp here
    cases same
    exact resolved_toOption accepted
  | succ hop =>
    unfold hopTarget at here
    split at here
    · cases here
    · split at here
      · cases here
      · split at here
        · cases here
        · obtain ⟨other, accepted, same⟩ := Option.map_eq_some_iff.mp here
          cases same
          exact resolved_toOption accepted

section Loop
variable {left hop : Nat} {url : String} {target : PinnedTarget} {cache : TransportCache}

theorem followPinned_refused (some_ip : target.ips ≠ []) (refused : client url ≠ none) :
    (followPinned lib client net dep left hop url target cache).requests = [] := by
  obtain ⟨cache', transport⟩ := pinnedTransportFor_eq cache some_ip
  obtain ⟨error, invalid⟩ := Option.ne_none_iff_exists'.mp refused
  unfold followPinned
  simp only [transport, invalid]

/-- A request that leads nowhere, or has used up the redirects, is the last one. -/
theorem followPinned_last (some_ip : target.ips ≠ []) (valid : client url = none)
    (last : left = 0 ∨ redirectUrl lib net hop url = none) :
    (followPinned lib client net dep left hop url target cache).requests =
      [⟨hop, url, transportOf target⟩] := by
  obtain ⟨cache', transport⟩ := pinnedTransportFor_eq cache some_ip
  unfold redirectUrl at last
  unfold followPinned
  simp only [transport, valid]
  cases exchange : (net hop).exchange with
  | raises error => rfl
  | response status location =>
    dsimp only
    cases redirects : redirectTarget status location with
    | none =>
      dsimp only
      rw [apply_ite ProbeRun.requests]
      exact ite_self _
    | some location =>
      cases left with
      | zero => rfl
      | succ left =>
        simp only [exchange, redirects, Nat.add_one_ne_zero, false_or] at last
        dsimp only
        cases joined : lib.urljoin url location with
        | error error => rfl
        | ok nextUrl =>
          rw [joined] at last
          cases last

/-- A redirect is followed to the URL it leads to, if that is accepted. -/
theorem followPinned_redirect (dep : StoredDependency) (left : Nat) (cache : TransportCache)
    {nextUrl : String} (some_ip : target.ips ≠ [])
    (valid : client url = none) (redirects : redirectUrl lib net hop url = some nextUrl) :
    ∃ cache', (followPinned lib client net dep (left + 1) hop url target cache).requests =
      ⟨hop, url, transportOf target⟩ :: match resolved lib net (hop + 1) nextUrl with
        | .error _ => []
        | .ok nextTarget =>
          (followPinned lib client net dep left (hop + 1) nextUrl nextTarget cache').requests := by
  obtain ⟨cache', transport⟩ := pinnedTransportFor_eq cache some_ip
  refine ⟨cache', ?_⟩
  unfold redirectUrl at redirects
  rw [followPinned]
  simp only [transport, valid]
  split at redirects
  · cases redirects
  · next status location exchange =>
    split at redirects
    · cases redirects
    · next location' target' =>
      have joined : lib.urljoin url location' = .ok nextUrl := by
        cases answer : lib.urljoin url location' with
        | error error =>
          rw [answer] at redirects
          cases redirects
        | ok other =>
          rw [answer] at redirects
          cases redirects
          rfl
      simp only [exchange, target', joined]
      unfold resolved
      cases resolvePinnedTarget lib (net (hop + 1)).resolve (net (hop + 1)).pin nextUrl with
      | error refusal => rfl
      | ok nextTarget => rfl

end Loop

theorem hopTarget_succ {endpointUrl : String} {hop : Nat} {url : String} {target : PinnedTarget}
    (here : hopTarget lib client net endpointUrl hop = some (url, target))
    (valid : client url = none) :
    hopTarget lib client net endpointUrl (hop + 1) = match redirectUrl lib net hop url with
      | none => none
      | some nextUrl =>
        (resolved lib net (hop + 1) nextUrl).toOption.map fun target => (nextUrl, target) := by
  rw [hopTarget, here]
  simp only [valid, ne_eq, not_true_eq_false, if_false]

/-- From a hop on, the loop sends the requests of the hops it has left. -/
theorem followPinned_requests (left hop : Nat) (url : String) (target : PinnedTarget)
    (cache : TransportCache) (endpointUrl : String)
    (here : hopTarget lib client net endpointUrl hop = some (url, target)) :
    (followPinned lib client net dep left hop url target cache).requests =
      (List.range' hop (left + 1)).filterMap (hopRequest lib client net endpointUrl) := by
  induction left generalizing hop url target cache with
  | zero =>
    obtain ⟨_, accepted⟩ := accepts_of_resolved (hopTarget_target here)
    by_cases valid : client url = none
    · rw [followPinned_last accepted.ips_ne_nil valid (.inl rfl)]
      simp [hopRequest, here, valid]
    · rw [followPinned_refused accepted.ips_ne_nil valid]
      simp [hopRequest, here, valid]
  | succ left ih =>
    obtain ⟨_, accepted⟩ := accepts_of_resolved (hopTarget_target here)
    rw [List.range'_succ, List.filterMap_cons]
    by_cases valid : client url = none
    · have request : hopRequest lib client net endpointUrl hop =
          some ⟨hop, url, transportOf target⟩ := by
        simp [hopRequest, here, valid]
      have next := hopTarget_succ here valid
      rw [request]
      cases redirects : redirectUrl lib net hop url with
      | none =>
        rw [redirects] at next
        rw [followPinned_last accepted.ips_ne_nil valid (.inr redirects),
          no_further_requests next]
      | some nextUrl =>
        obtain ⟨cache', followed⟩ := followPinned_redirect dep left cache
          accepted.ips_ne_nil valid redirects
        rw [followed]
        simp only [redirects] at next
        cases answer : resolved lib net (hop + 1) nextUrl with
        | error refusal =>
          rw [answer] at next
          rw [no_further_requests next]
        | ok nextTarget =>
          rw [answer] at next
          simp only [ih (hop + 1) nextUrl nextTarget cache' next]
    · have request : hopRequest lib client net endpointUrl hop = none := by
        simp [hopRequest, here, valid]
      have ended : hopTarget lib client net endpointUrl (hop + 1) = none := by
        rw [hopTarget, here]
        simp [valid]
      rw [request, followPinned_refused accepted.ips_ne_nil valid, no_further_requests ended]

theorem requests_eq (lib : UrlLibrary) (client : HttpClient) (net : Network)
    (dep : StoredDependency) (cache : TransportCache) :
    (probePinned lib client net dep cache).requests =
      (List.range' 0 (maxRedirects + 1)).filterMap
        (hopRequest lib client net dep.endpointUrl) := by
  unfold probePinned
  cases answer : resolved lib net 0 dep.endpointUrl with
  | error refusal =>
    have ended : hopTarget lib client net dep.endpointUrl 0 = none := by
      rw [hopTarget, answer]
      rfl
    unfold resolved at answer
    rw [answer, no_further_requests ended]
  | ok target =>
    have here : hopTarget lib client net dep.endpointUrl 0 = some (dep.endpointUrl, target) := by
      rw [hopTarget, answer]
      rfl
    unfold resolved at answer
    rw [answer]
    exact followPinned_requests maxRedirects 0 dep.endpointUrl target cache dep.endpointUrl here

/-- The loop with transports reports what the loop of `followRedirects` reports. -/
theorem followPinned_report (valid : ∀ url, client url = none) (left hop : Nat) (url : String)
    {target : PinnedTarget} (some_ip : target.ips ≠ []) (cache : TransportCache) :
    (followPinned lib client net dep left hop url target cache).report =
      followRedirects lib net dep left hop url := by
  induction left generalizing hop url target cache with
  | zero =>
    obtain ⟨cache', transport⟩ := pinnedTransportFor_eq cache some_ip
    unfold followPinned followRedirects
    simp only [transport, valid]
    cases (net hop).exchange with
    | raises error => rfl
    | response status location =>
      dsimp only
      cases redirectTarget status location with
      | none => exact apply_ite ProbeRun.report _ _ _
      | some location => rfl
  | succ left ih =>
    obtain ⟨cache', transport⟩ := pinnedTransportFor_eq cache some_ip
    unfold followPinned followRedirects
    simp only [transport, valid]
    cases (net hop).exchange with
    | raises error => rfl
    | response status location =>
      dsimp only
      cases redirectTarget status location with
      | none => exact apply_ite ProbeRun.report _ _ _
      | some location =>
        dsimp only
        cases lib.urljoin url location with
        | error error => rfl
        | ok nextUrl =>
          dsimp only
          cases answer : resolvePinnedTarget lib (net (hop + 1)).resolve (net (hop + 1)).pin
              nextUrl with
          | error refusal => rfl
          | ok nextTarget =>
            obtain ⟨_, accepted⟩ := accepts_of_resolved answer
            exact ih (hop + 1) nextUrl accepted.ips_ne_nil cache'

/-! ## The guarantee -/

/-- A request goes to an address that the resolution of its own URL accepted, over
a transport with the host name, port and scheme of that URL. -/
structure Pinned (lib : UrlLibrary) (net : Network) (request : SentRequest) : Prop where
  address : ∃ target, resolved lib net request.hop request.url = .ok target ∧
    request.transport.ip ∈ target.ips ∧ lib.inBlockedNetwork request.transport.ip = .ok false
  names : ∃ parsed, lib.urlparse request.url = .ok parsed ∧
    request.transport.hostname = parsed.hostname.getD "" ∧
    urlPort parsed = .ok request.transport.port ∧
    (request.transport.useSsl = true ↔ Text.lower parsed.scheme = "https")

/-- The requests of one probe. -/
structure PinnedEveryHop (lib : UrlLibrary) (net : Network) (requests : List SentRequest) :
    Prop where
  bounded : requests.length ≤ maxRedirects + 1
  pinned : ∀ request ∈ requests, Pinned lib net request
  rejected : ∀ request ∈ requests, ∀ refusal,
    resolved lib net request.hop request.url ≠ .error refusal

/-- The URL does not name port 0, and begins with `https://` just when its scheme
is `https`. -/
def Plain (lib : UrlLibrary) (url : String) : Prop :=
  ∀ parsed, lib.urlparse url = .ok parsed →
    parsed.port ≠ .ok (some 0) ∧
      (Text.startsWith (Text.lower url) "https://" = true ↔ Text.lower parsed.scheme = "https")

theorem pinned_iff_plain {hop : Nat} {url : String} {target : PinnedTarget}
    (success : resolved lib net hop url = .ok target) :
    Pinned lib net ⟨hop, url, transportOf target⟩ ↔ Plain lib url := by
  obtain ⟨parsed, accepted⟩ := accepts_of_resolved success
  obtain ⟨port, named, port_eq⟩ := accepted.port_eq
  have default_ne : (if Text.lower parsed.scheme = "https" then 443 else 80) ≠ 0 := by
    split <;> omega
  have ssl : (transportOf target).useSsl = Text.startsWith (Text.lower url) "https://" := by
    unfold transportOf usesSsl
    rw [accepted.url_eq]
  constructor
  · intro ⟨_, parsed', parses, _, samePort, sameScheme⟩ parsed'' parses'
    rw [parses'] at parses
    cases parses
    rw [accepted.parses] at parses'
    cases parses'
    refine ⟨?_, by rw [← ssl]; exact sameScheme⟩
    intro zero
    rw [named] at zero
    cases zero
    unfold urlPort at samePort
    rw [named] at samePort
    have portZero : 0 = target.port := Except.ok.inj samePort
    rw [← portZero] at port_eq
    exact default_ne port_eq.symm
  · intro plain
    obtain ⟨notZero, sameScheme⟩ := plain parsed accepted.parses
    have first : (transportOf target).ip ∈ target.ips := by
      obtain ⟨ip, rest, ips⟩ := List.exists_cons_of_ne_nil accepted.ips_ne_nil
      unfold transportOf
      rw [ips]
      exact List.mem_cons_self
    constructor
    · exact ⟨target, success, first, accepted.unblocked _ first⟩
    · refine ⟨parsed, accepted.parses, accepted.hostname_eq, ?_, by rw [ssl]; exact sameScheme⟩
      change urlPort parsed = .ok target.port
      unfold urlPort
      rw [named] at notZero ⊢
      cases port with
      | none => rw [port_eq]
      | some port =>
        cases port with
        | zero => exact absurd rfl notZero
        | succ port =>
          rw [port_eq]
          rfl

theorem mem_requests_iff (cache : TransportCache) (request : SentRequest) :
    request ∈ (probePinned lib client net dep cache).requests ↔
      ∃ hop ≤ maxRedirects, ∃ url target,
        hopTarget lib client net dep.endpointUrl hop = some (url, target) ∧
          client url = none ∧ request = ⟨hop, url, transportOf target⟩ := by
  rw [requests_eq, List.mem_filterMap]
  constructor
  · intro ⟨hop, inside, sent⟩
    have bound := (List.mem_range'_1.mp inside).2
    unfold hopRequest at sent
    split at sent
    · cases sent
    · next url target here =>
      split at sent
      · next valid =>
        cases sent
        exact ⟨hop, by omega, url, target, here, valid, rfl⟩
      · cases sent
  · rintro ⟨hop, bound, url, target, here, valid, rfl⟩
    refine ⟨hop, List.mem_range'_1.mpr ⟨by omega, by omega⟩, ?_⟩
    simp [hopRequest, here, valid]

/-- A probe is pinned at every hop if and only if every URL it sends a request for
is plain. -/
theorem pinned_every_hop_iff (lib : UrlLibrary) (client : HttpClient) (net : Network)
    (dep : StoredDependency) (cache : TransportCache) :
    PinnedEveryHop lib net (probePinned lib client net dep cache).requests ↔
      ∀ hop ≤ maxRedirects, ∀ url target,
        hopTarget lib client net dep.endpointUrl hop = some (url, target) → client url = none →
          Plain lib url := by
  constructor
  · intro every hop bound url target here valid
    have member : (⟨hop, url, transportOf target⟩ : SentRequest) ∈
        (probePinned lib client net dep cache).requests :=
      (mem_requests_iff cache _).mpr ⟨hop, bound, url, target, here, valid, rfl⟩
    exact (pinned_iff_plain (hopTarget_target here)).mp (every.pinned _ member)
  · intro plain
    constructor
    · rw [requests_eq]
      have shorter := List.length_filterMap_le (hopRequest lib client net dep.endpointUrl)
        (List.range' 0 (maxRedirects + 1))
      rw [List.length_range'] at shorter
      exact shorter
    · intro request member
      obtain ⟨hop, bound, url, target, here, valid, rfl⟩ := (mem_requests_iff cache _).mp member
      exact (pinned_iff_plain (hopTarget_target here)).mpr (plain hop bound url target here valid)
    · intro request member refusal refused
      obtain ⟨hop, _, url, target, here, _, rfl⟩ := (mem_requests_iff cache _).mp member
      rw [hopTarget_target here] at refused
      cases refused

/-! ## Port 0 -/

/-- `http://status.example:0/` and what the library makes of it. -/
def portZeroLibrary : UrlLibrary where
  urlparse _ := .ok ⟨"http", some "status.example", .ok (some 0)⟩
  urljoin _ location := .ok location
  inBlockedNetwork text := if text = "status.example" then .error "ValueError" else .ok false

def portZeroNetwork : Network := fun _ =>
  ⟨fun _ => .ok ["93.184.216.34"], fun _ => .ok ["93.184.216.34"], .response 200 none⟩

def portZeroDependency : StoredDependency where
  id := 1
  orgId := 2
  isActive := true
  isDeleted := false
  endpointUrl := "http://status.example:0/"
  method := .get
  expectedStatusCodes := []
  urlScheme := by decide
  urlFits := by decide

/-- The request for a URL with port 0 goes to port 80. -/
theorem port_zero_not_pinned :
    ¬ PinnedEveryHop portZeroLibrary portZeroNetwork
      (probePinned portZeroLibrary (fun _ => none) portZeroNetwork portZeroDependency
        .empty).requests := by
  intro every
  have accepted : resolved portZeroLibrary portZeroNetwork 0 "http://status.example:0/" =
      .ok ⟨"http://status.example:0/", "status.example", 80, ["93.184.216.34"]⟩ := by
    decide
  have here : hopTarget portZeroLibrary (fun _ => none) portZeroNetwork
      portZeroDependency.endpointUrl 0 = some ("http://status.example:0/",
        ⟨"http://status.example:0/", "status.example", 80, ["93.184.216.34"]⟩) := by
    change (resolved portZeroLibrary portZeroNetwork 0 "http://status.example:0/").toOption.map _ = _
    rw [accepted]
    rfl
  have pinned := every.pinned _ ((mem_requests_iff .empty _).mpr ⟨0, by decide, _, _, here, rfl, rfl⟩)
  obtain ⟨notZero, _⟩ := (pinned_iff_plain accepted).mp pinned
    ⟨"http", some "status.example", .ok (some 0)⟩ rfl
  exact notZero rfl

end Reliastra.Guarantees.PinnedProbes
