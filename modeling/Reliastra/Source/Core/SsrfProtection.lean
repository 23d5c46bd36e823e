import Reliastra.Source.Core.Text
import Reliastra.Source.Core.Basics

/-!
# URLs a check may not reach

Source: `app/core/ssrf_protection.py` up to the pinned transport. `urllib.parse`
and `ipaddress` are functions of the model; the resolver may answer differently
each time it is asked. A refusal is kept by its parts, and `Refusal.text` is the
text of the `ValueError` that is raised.
-/

namespace Reliastra.Source.SsrfProtection

/-- The attributes of `urlparse(url)` that are read; `port` may raise. -/
structure ParsedUrl where
  scheme : String
  hostname : Option String
  port : Except String (Option Nat)

/-- Functions of the standard library. An error is the text of the exception. -/
structure UrlLibrary where
  urlparse : String → Except String ParsedUrl
  urljoin : String → String → Except String String
  /-- `ip_address`, and whether the address is in one of `_BLOCKED_NETWORKS`. -/
  inBlockedNetwork : String → Except String Bool

/-- `_resolve_hostname`: the addresses, none after a `gaierror`. A name that
cannot be encoded raises a `UnicodeError`, which is a `ValueError`. -/
abbrev Resolver := String → Except String (List String)

/-- The reasons of `is_url_safe`. -/
inductive UnsafeUrl where
  | unparsed (error : String)
  | scheme (name : String)
  | noHostname
  | blockedAddress (hostname : String)
  | unresolved (hostname : String)
  | resolvesTo (hostname address : String)
  deriving DecidableEq, Repr

def UnsafeUrl.reason : UnsafeUrl → List Text.Piece
  | .unparsed error => [.own "Cannot parse URL: ", .value error]
  | .scheme name => [.own "Scheme '", .value name, .own "' is not allowed"]
  | .noHostname => [.own "URL has no hostname"]
  | .blockedAddress hostname =>
    [.own "IP ", .value hostname, .own " points to a private/blocked network"]
  | .unresolved hostname => [.own "Cannot resolve hostname '", .value hostname, .own "'"]
  | .resolvesTo hostname address =>
    [.own "Hostname '", .value hostname, .own "' resolves to ", .value address,
      .own ", which is in a private/blocked network"]

/-- A `ValueError` out of `resolve_pinned_target`. -/
inductive Refusal where
  | unsafeUrl (cause : UnsafeUrl)
  | unresolved (hostname : String)
  | resolvesTo (hostname address : String)
  /-- Raised by the library. -/
  | valueError (error : String)
  deriving DecidableEq, Repr

def Refusal.message : Refusal → List Text.Piece
  | .unsafeUrl cause => .own "URL safety check failed: " :: cause.reason
  | .unresolved hostname => [.own "Cannot resolve hostname '", .value hostname, .own "'"]
  | .resolvesTo hostname address =>
    [.own "Hostname '", .value hostname, .own "' resolves to ", .value address,
      .own ", which is in a private/blocked network"]
  | .valueError error => [.value error]

def Refusal.text (refusal : Refusal) : String := Text.render refusal.message

structure PinnedTarget where
  url : String
  hostname : String
  port : Nat
  ips : List String
  deriving DecidableEq, Repr

def allowedSchemes : List String := ["http", "https"]

/-- The first resolved address in a blocked network; texts that are no address
are passed over. -/
def firstBlocked (lib : UrlLibrary) (addresses : List String) : Option String :=
  addresses.find? (fun address =>
    match lib.inBlockedNetwork address with
    | .ok blocked => blocked
    | .error _ => false)

/-- `is_url_safe`, with the reason why not; the error is what the resolver raised. -/
def isUrlSafe (lib : UrlLibrary) (resolve : Resolver) (url : String) :
    Except String (Option UnsafeUrl) :=
  match lib.urlparse url with
  | .error error => .ok (some (.unparsed error))
  | .ok parsed =>
    if Text.lower parsed.scheme ∉ allowedSchemes then .ok (some (.scheme parsed.scheme))
    else match parsed.hostname.filter (· ≠ "") with
    | none => .ok (some .noHostname)
    | some hostname =>
      match lib.inBlockedNetwork hostname with
      | .ok true => .ok (some (.blockedAddress hostname))
      | _ =>
        match resolve hostname with
        | .error error => .error error
        | .ok [] => .ok (some (.unresolved hostname))
        | .ok addresses =>
          .ok ((firstBlocked lib addresses).map (fun address => .resolvesTo hostname address))

/-- The loop over the addresses that are to be pinned. -/
def checkPinned (lib : UrlLibrary) (hostname : String) : List String → Except Refusal Unit
  | [] => .ok ()
  | address :: rest =>
    match lib.inBlockedNetwork address with
    | .error error => .error (.valueError error)
    | .ok true => .error (.resolvesTo hostname address)
    | .ok false => checkPinned lib hostname rest

/-- `resolve_pinned_target`; `pin` is the resolver when it is asked again. -/
def resolvePinnedTarget (lib : UrlLibrary) (resolve pin : Resolver) (url : String) :
    Except Refusal PinnedTarget :=
  match isUrlSafe lib resolve url with
  | .error error => .error (.valueError error)
  | .ok (some cause) => .error (.unsafeUrl cause)
  | .ok none =>
    match lib.urlparse url with
    | .error error => .error (.valueError error)
    | .ok parsed =>
      let hostname := parsed.hostname.getD ""
      match pin hostname with
      | .error error => .error (.valueError error)
      | .ok [] => .error (.unresolved hostname)
      | .ok ips =>
        match checkPinned lib hostname ips with
        | .error refusal => .error refusal
        | .ok () =>
          let useSsl : Bool := Text.lower parsed.scheme = "https"
          match parsed.port with
          | .error error => .error (.valueError error)
          | .ok port =>
            let port := match port with
              | none | some 0 => if useSsl then 443 else 80
              | some port => port
            .ok ⟨url, hostname, port, ips⟩

/-! ## How long a refusal is -/

/-- The characters of the refusal that the source writes itself. -/
def Refusal.ownLength : Refusal → Nat
  | .unsafeUrl (.unparsed _) => 43
  | .unsafeUrl (.scheme _) => 49
  | .unsafeUrl .noHostname => 44
  | .unsafeUrl (.blockedAddress _) => 64
  | .unsafeUrl (.unresolved _) => 51
  | .unsafeUrl (.resolvesTo _ _) => 88
  | .unresolved _ => 26
  | .resolvesTo _ _ => 63
  | .valueError _ => 0

/-- There is room for the refusal: the names, addresses and error texts in it
are short enough, and without a NUL. -/
def Refusal.Fits (room : Nat) (refusal : Refusal) : Prop :=
  refusal.ownLength + Text.totalLength (Text.values refusal.message) ≤ room ∧
    ∀ value ∈ Text.values refusal.message, '\x00' ∉ value.toList

theorem Refusal.totalLength_own (refusal : Refusal) :
    Text.totalLength (Text.ownTexts refusal.message) = refusal.ownLength := by
  cases refusal with
  | unsafeUrl cause =>
    cases cause <;> simp only [Refusal.message, UnsafeUrl.reason, Text.ownTexts, ownLength] <;>
      decide +kernel
  | _ =>
    simp only [Refusal.message, Text.ownTexts, ownLength]
    decide

/-- The source's own words hold no NUL. -/
theorem Refusal.own_clean (refusal : Refusal) :
    ∀ text ∈ Text.ownTexts refusal.message, '\x00' ∉ text.toList := by
  cases refusal with
  | unsafeUrl cause =>
    cases cause <;> simp only [Refusal.message, UnsafeUrl.reason, Text.ownTexts] <;> decide
  | _ =>
    simp only [Refusal.message, Text.ownTexts]
    decide

theorem fitsText_refusal_iff (room : Nat) (refusal : Refusal) :
    FitsText room refusal.text ↔ refusal.Fits room := by
  unfold FitsText Refusal.Fits Refusal.text
  rw [Text.render_length, Refusal.totalLength_own, Text.mem_render]
  refine and_congr_right (fun _ => ?_)
  rw [not_or]
  constructor
  · intro ⟨_, clean⟩ value member nul
    exact clean ⟨value, member, nul⟩
  · intro clean
    refine ⟨?_, ?_⟩
    · intro ⟨text, member, nul⟩
      exact refusal.own_clean text member nul
    · intro ⟨value, member, nul⟩
      exact clean value member nul

/-- A text behind a prefix of the source's own needs as much more room. -/
theorem fitsText_append_iff (room : Nat) (own text : String) (clean : '\x00' ∉ own.toList) :
    FitsText (own.length + room) (own ++ text) ↔ FitsText room text := by
  unfold FitsText
  rw [String.length_append, String.toList_append, List.mem_append, not_or]
  simp only [clean, not_false_eq_true, true_and, Nat.add_le_add_iff_left]

/-! ## The addresses that are pinned -/

theorem checkPinned_eq_ok_iff (lib : UrlLibrary) (hostname : String) {ips : List String} :
    checkPinned lib hostname ips = .ok () ↔ ∀ ip ∈ ips, lib.inBlockedNetwork ip = .ok false := by
  induction ips with
  | nil => simp [checkPinned]
  | cons ip rest ih =>
    rw [List.forall_mem_cons, ← ih, checkPinned]
    split
    · next error failed => simp [failed]
    · next inside => simp [inside]
    · next free => simp [free]

end Reliastra.Source.SsrfProtection
