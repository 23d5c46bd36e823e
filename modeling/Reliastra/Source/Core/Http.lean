import Reliastra.Source.Core.Json
import Reliastra.Source.Core.Basics
import Reliastra.Source.Core.Text

/-!
# Requests and their credentials

What the middleware and the dependencies read of a request, and the libraries
they call to make sense of its credentials. A header is a text of Latin-1 code
points; the server may hand it over with blanks around it.
-/

namespace Reliastra.Source

structure Request where
  method : String
  path : String
  authorization : Option String
  apiKey : Option String
  /-- `X-Organization-ID`, and `Reliastra-Organization`. -/
  organizationId : Option String
  reliastraOrganization : Option String
  idempotencyKey : Option String
  clientHost : Option String
  deriving DecidableEq, Repr

/-- `HTTPAuthorizationCredentials`. -/
structure BearerCredentials where
  scheme : String
  credentials : String
  deriving DecidableEq, Repr

structure CredentialEnvironment where
  host : Runtime
  /-- `decode_token` at an instant; it raises for an expired or invalid token. -/
  decodeToken : String → Instant → Except Failure Json
  /-- `hashlib.sha256(text.encode("utf-8")).hexdigest()`. -/
  sha256Hex : String → String
  /-- `HTTPBearer(auto_error=False)` on the `Authorization` header. -/
  httpBearer : Option String → Option BearerCredentials
  /-- `verify_api_key(raw_key, stored_hash)`. -/
  verifyApiKey : String → String → Bool
  /-- `enforce_rate_limit` of the API key limiter for an identifier. -/
  enforceRateLimit : String → Except Failure Unit

end Reliastra.Source

/-!
## Headers of a response

A response encodes the values of its headers as ISO-8859-1 when it is made, and raises
for a character that has no place there.
-/

namespace Reliastra.Source

def IsLatin1 (text : String) : Prop := ∀ c ∈ text.toList, c.toNat ≤ 255

instance (text : String) : Decidable (IsLatin1 text) := List.decidableBAll _ _

/-- `init_headers` of a response. -/
def initHeaders (headers : List (String × String)) :
    Except Failure (List (String × String)) :=
  if ∀ header ∈ headers, IsLatin1 header.2 then .ok headers
  else .error (.python "UnicodeEncodeError")

theorem initHeaders_eq_ok {headers encoded : List (String × String)} :
    initHeaders headers = .ok encoded ↔
      (∀ header ∈ headers, IsLatin1 header.2) ∧ encoded = headers := by
  unfold initHeaders
  by_cases latin : ∀ header ∈ headers, IsLatin1 header.2
  · rw [if_pos latin]
    exact ⟨fun same => ⟨latin, (Except.ok.inj same).symm⟩, fun ⟨_, same⟩ => congrArg _ same.symm⟩
  · rw [if_neg latin]
    exact ⟨fun raised => (by cases raised), fun ⟨encodable, _⟩ => absurd encodable latin⟩

end Reliastra.Source

/-!
## The address of the client behind the proxies

`client_ip_from_request` of `app/core/rate_limit.py`. `isIpAddress` says whether
`ipaddress.ip_address` accepts a text; `trustedProxyHops` is the setting.
-/

namespace Reliastra.Source

/-- `s.split(",")`. -/
def splitComma (s : String) : List String := (s.toList.splitOn ',').map String.ofList

/-- The parts of the header that are not blank. -/
def hopsOf (forwarded : String) : List String :=
  ((splitComma forwarded).map Text.strip).filter (fun part => part ≠ "")

/-- `hops[-count]`, for a list with more than `count` members. -/
def fromTheEnd (hops : List String) (count : Nat) : Option String :=
  if count = 0 then hops.head? else hops[hops.length - count]?

def candidateHop (hops : List String) (trustedProxyHops : Nat) : Option String :=
  if hops.length ≤ trustedProxyHops then hops.getLast? else fromTheEnd hops trustedProxyHops

section Request
variable (isIpAddress : String → Bool) (trustedProxyHops : Nat)

/-- The header is that of `X-Forwarded-For`, the host that of the socket's peer. -/
def clientIpFromRequest (forwarded : Option String) (clientHost : Option String) : String :=
  match (candidateHop (hopsOf (forwarded.getD "")) trustedProxyHops).filter
      (fun candidate => isIpAddress candidate) with
  | some candidate => candidate
  | none => clientHost.getD "unknown_ip"

end Request

/-! ## Parts of a header -/

theorem hopsOf_empty : hopsOf "" = [] := by decide

/-- What stands behind a comma is a part of its own. -/
theorem hopsOf_append_comma (before after : String) :
    hopsOf (before ++ "," ++ after) = hopsOf before ++ hopsOf after := by
  unfold hopsOf splitComma
  have lists : (before ++ "," ++ after).toList = before.toList ++ ',' :: after.toList := by
    simp [String.toList_append]
  rw [lists, List.splitOn_append_cons_self, List.map_append, List.map_append, List.filter_append]

theorem strip_blank_append (text : String) : Text.strip (" " ++ text) = Text.strip text := by
  unfold Text.strip
  have lists : (" " ++ text).toList = ' ' :: text.toList := by simp [String.toList_append]
  rw [lists, List.dropWhile_cons_of_pos (by decide)]

/-- One entry, with the blank the proxies put in front of it. -/
theorem hopsOf_entry {entry : String} (one : ',' ∉ entry.toList)
    (stripped : Text.strip entry = entry) (present : entry ≠ "") :
    hopsOf entry = [entry] ∧ hopsOf (" " ++ entry) = [entry] := by
  have lists : (" " ++ entry).toList = ' ' :: entry.toList := by simp [String.toList_append]
  constructor
  · unfold hopsOf splitComma
    rw [List.splitOn_eq_singleton one]
    simp [stripped, present]
  · unfold hopsOf splitComma
    rw [lists, List.splitOn_eq_singleton (by simp [one]), ← lists]
    simp [strip_blank_append, stripped, present]

end Reliastra.Source
