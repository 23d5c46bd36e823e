import Reliastra.Source.Checks.Execution

/-!
# The requests of a probe

Source: `pinned_transport_for` of `app/core/ssrf_protection.py` and the redirect
loop of `execute_check`, with the transports it sends its requests through. The
cache of transports outlives the check; what it holds under a key was built of
the key. A URL the HTTP client does not parse raises before anything is sent.
-/

namespace Reliastra.Source.Checks

open SsrfProtection

/-! ## Transports -/

/-- `_PinnedIPTransport`: where the connection goes, and the name on it. Its
fields are the key it is cached under. -/
structure PinnedTransport where
  hostname : String
  port : Nat
  useSsl : Bool
  ip : String
  deriving DecidableEq, Repr

/-- `_pinned_transport_cache`. -/
structure TransportCache where
  entries : List (PinnedTransport × PinnedTransport)
  keyed : ∀ entry ∈ entries, entry.2 = entry.1

def TransportCache.empty : TransportCache := ⟨[], fun _ member => absurd member List.not_mem_nil⟩

/-- `target.url.lower().startswith("https://")`. -/
def usesSsl (target : PinnedTarget) : Bool :=
  Text.startsWith (Text.lower target.url) "https://"

/-- `pinned_transport_for`. The error is the `IndexError` of an empty list. -/
def pinnedTransportFor (cache : TransportCache) (target : PinnedTarget) :
    Except String (PinnedTransport × TransportCache) :=
  match target.ips with
  | [] => .error "list index out of range"
  | ip :: _ =>
    let key : PinnedTransport := ⟨target.hostname, target.port, usesSsl target, ip⟩
    match cache.entries.lookup key with
    | some transport => .ok (transport, cache)
    | none => .ok (key, ⟨(key, key) :: cache.entries, by
        intro entry member
        rcases List.mem_cons.mp member with new | old
        · rw [new]
        · exact cache.keyed entry old⟩)

/-! ## The loop -/

/-- What the HTTP client makes of a URL: the text of an `InvalidURL`, or nothing. -/
abbrev HttpClient := String → Option String

/-- A request handed to a transport. -/
structure SentRequest where
  hop : Nat
  url : String
  transport : PinnedTransport
  deriving DecidableEq, Repr

structure ProbeRun where
  report : ProbeReport
  requests : List SentRequest
  cache : TransportCache

/-- The `while` loop, with the redirects it may still follow, the URL and the
target it holds, and the transports there are. -/
def followPinned (lib : UrlLibrary) (client : HttpClient) (net : Network) (dep : StoredDependency) :
    Nat → Nat → String → PinnedTarget → TransportCache → ProbeRun
  | left, hop, currentUrl, currentTarget, cache =>
    match pinnedTransportFor cache currentTarget with
    | .error error => ⟨⟨.down error, none⟩, [], cache⟩
    | .ok (transport, cache) =>
      match client currentUrl with
      | some error => ⟨⟨.down error, none⟩, [], cache⟩
      | none =>
        let request : SentRequest := ⟨hop, currentUrl, transport⟩
        match (net hop).exchange with
        | .raises error => ⟨⟨.down error, none⟩, [request], cache⟩
        | .response status location =>
          match redirectTarget status location with
          | none =>
            let expected :=
              if dep.expectedStatusCodes = [] then [200] else dep.expectedStatusCodes
            if (status.val : Int) ∈ expected then ⟨⟨.up, some status.val⟩, [request], cache⟩
            else
              ⟨⟨.down ("Unexpected status code: " ++ toString status.val), some status.val⟩,
                [request], cache⟩
          | some location =>
            match left with
            | 0 =>
              ⟨⟨.down ("Too many redirects (> " ++ toString maxRedirects ++ ")"), some status.val⟩,
                [request], cache⟩
            | left + 1 =>
              match lib.urljoin currentUrl location with
              | .error error => ⟨⟨.down error, none⟩, [request], cache⟩
              | .ok nextUrl =>
                match resolvePinnedTarget lib (net (hop + 1)).resolve (net (hop + 1)).pin nextUrl with
                | .error refusal =>
                  ⟨⟨.down ("Redirect blocked by security policy: " ++ refusal.text),
                    some status.val⟩, [request], cache⟩
                | .ok nextTarget =>
                  let later := followPinned lib client net dep left (hop + 1) nextUrl nextTarget cache
                  { later with requests := request :: later.requests }

/-- The probe of `execute_check`. -/
def probePinned (lib : UrlLibrary) (client : HttpClient) (net : Network) (dep : StoredDependency)
    (cache : TransportCache) : ProbeRun :=
  match resolvePinnedTarget lib (net 0).resolve (net 0).pin dep.endpointUrl with
  | .error refusal => ⟨⟨.blocked refusal.text, none⟩, [], cache⟩
  | .ok target => followPinned lib client net dep maxRedirects 0 dep.endpointUrl target cache

end Reliastra.Source.Checks
