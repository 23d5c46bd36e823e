import Reliastra.Library.Dictionaries
import Reliastra.Library.JsonText
import Reliastra.Source.Core.Json

/-!
# Making and reading access tokens

Source: `_base_token_payload`, `create_access_token` and `decode_token` of
`app/core/security.py`. The library that signs tokens is a parameter. What is relied
on is what it documents for a payload of plain claims: the time claims are whole
seconds, a token is refused before `iat` and `nbf` and from `exp` on, and is read back
as it was written in between.
-/

namespace Reliastra.Source.Auth

open Reliastra.Library Dictionaries

abbrev Claims := List (String × Json)

/-- A claim that is a text, a number or a truth value. -/
inductive Scalar : Json → Prop
  | str (value : String) : Scalar (.str value)
  | int (value : Int) : Scalar (.int value)
  | bool (value : Bool) : Scalar (.bool value)

/-- A payload that the library takes as it stands. -/
structure PlainClaims (claims : Claims) (iat nbf exp : Int) : Prop where
  distinct : (claims.map Prod.fst).Nodup
  scalar : ∀ claim ∈ claims, Scalar claim.2
  texts : ∀ claim ∈ claims, claim.1 ∈ ["sub", "jti"] → ∃ value, claim.2 = .str value
  noAudience : "aud" ∉ claims.map Prod.fst
  iat : ("iat", .int iat) ∈ claims
  nbf : ("nbf", .int nbf) ∈ claims
  exp : ("exp", .int exp) ∈ claims

/-- `ExpiredSignatureError`, and any other `InvalidTokenError`. -/
inductive JwtError where
  | expired
  | invalid
  deriving DecidableEq, Repr

/-- `jwt.encode` and `jwt.decode` with the secret key and `HS256`. -/
structure JwtLibrary where
  encode : Claims → String
  decode : String → Instant → Except JwtError Claims
  decode_encode : ∀ {claims : Claims} {iat nbf exp : Int}, PlainClaims claims iat nbf exp →
    ∀ now, decode (encode claims) now =
      if now < secondsToMicros iat ∨ now < secondsToMicros nbf then .error .invalid
      else if secondsToMicros exp ≤ now then .error .expired
      else .ok claims

/-- A datetime among the claims: `timegm(value.utctimetuple())`. -/
def numericDate (moment : Instant) : Json := .int (moment / 1000000)

/-- `_base_token_payload`. -/
def baseTokenPayload (subject : String) (now expire : Instant) (tokenType jti : String) : Claims :=
  [("sub", .str subject), ("iat", numericDate now), ("nbf", numericDate now),
    ("exp", numericDate expire), ("type", .str tokenType), ("jti", .str jti)]

/-- `dict.update`. -/
def update (claims additional : Claims) : Claims := additional.foldl assign claims

structure TokenEnvironment where
  jwt : JwtLibrary
  /-- `str` of a `UUID`. -/
  uuidText : Uuid → String
  accessTokenExpireMinutes : Int

/-- The two clock readings of `create_access_token` and the random `jti`. -/
structure TokenDraw where
  expireFrom : Instant
  now : Instant
  jti : String

def createAccessToken (env : TokenEnvironment) (subject : String) (additionalClaims : Claims)
    (draw : TokenDraw) : String :=
  let expire := draw.expireFrom + secondsToMicros (env.accessTokenExpireMinutes * 60)
  let toEncode := baseTokenPayload subject draw.now expire "access" draw.jti
  env.jwt.encode (update toEncode additionalClaims)

def decodeToken (jwt : JwtLibrary) (token : String) (now : Instant) : Except Failure Json :=
  match jwt.decode token now with
  | .ok payload => .ok (.obj payload)
  | .error .expired => .error (.app (unauthorizedException "Token has expired"))
  | .error .invalid => .error (.app (unauthorizedException "Invalid token"))

/-! ## Claims of a token -/

theorem lookup_of_mem {claims : Claims} {name : String} {value : Json}
    (distinct : (claims.map Prod.fst).Nodup) (member : (name, value) ∈ claims) :
    claims.lookup name = some value := by
  induction claims with
  | nil => cases member
  | cons first rest ih =>
    obtain ⟨key, old⟩ := first
    rw [List.map_cons, List.nodup_cons] at distinct
    rcases List.mem_cons.mp member with here | there
    · obtain ⟨rfl, rfl⟩ := Prod.mk.inj here
      exact List.lookup_cons_self
    · have other : name ≠ key := by
        intro same
        exact distinct.1 (List.mem_map.mpr ⟨(name, value), there, same⟩)
      rw [List.lookup_cons, beq_false_of_ne other]
      exact ih distinct.2 there

/-- Whenever a token is accepted, what is read of it are its claims. -/
theorem JwtLibrary.eq_of_decode (jwt : JwtLibrary) {claims payload : Claims} {iat nbf exp : Int}
    (plain : PlainClaims claims iat nbf exp) {now : Instant}
    (accepted : jwt.decode (jwt.encode claims) now = .ok payload) : payload = claims := by
  rw [jwt.decode_encode plain now] at accepted
  by_cases early : now < secondsToMicros iat ∨ now < secondsToMicros nbf
  · rw [if_pos early] at accepted
    cases accepted
  rw [if_neg early] at accepted
  by_cases late : secondsToMicros exp ≤ now
  · rw [if_pos late] at accepted
    cases accepted
  rw [if_neg late] at accepted
  cases accepted
  rfl

/-- Between the times of its claims a token is accepted. -/
theorem JwtLibrary.decode_live (jwt : JwtLibrary) {claims : Claims} {iat nbf exp : Int}
    (plain : PlainClaims claims iat nbf exp) {now : Instant} (begun : secondsToMicros iat ≤ now)
    (valid : secondsToMicros nbf ≤ now) (live : now < secondsToMicros exp) :
    jwt.decode (jwt.encode claims) now = .ok claims := by
  rw [jwt.decode_encode plain, if_neg (not_or.mpr ⟨not_lt.mpr begun, not_lt.mpr valid⟩),
    if_neg (not_le.mpr live)]

theorem decodeToken_ok {jwt : JwtLibrary} {token : String} {now : Instant} {payload : Claims}
    (decoded : jwt.decode token now = .ok payload) :
    decodeToken jwt token now = .ok (.obj payload) := by
  unfold decodeToken
  rw [decoded]

theorem decodeToken_eq_ok {jwt : JwtLibrary} {claims : Claims} {iat nbf exp : Int}
    (plain : PlainClaims claims iat nbf exp) {now : Instant} {payload : Json}
    (accepted : decodeToken jwt (jwt.encode claims) now = .ok payload) : payload = .obj claims := by
  unfold decodeToken at accepted
  cases decoded : jwt.decode (jwt.encode claims) now with
  | error error =>
    rw [decoded] at accepted
    cases error <;> cases accepted
  | ok read =>
    rw [decoded] at accepted
    rw [← Except.ok.inj accepted, jwt.eq_of_decode plain decoded]

/-! ## A library whose tokens are the payload in JSON -/

section PlainTokens
open JsonText

def noFloats : FloatText Empty where
  print := Empty.elim
  parse _ := none
  parse_print x := x.elim
  starts x := x.elim
  numeric x := x.elim
  not_integer x := x.elim

def toValue : Json → Value Empty
  | .bool value => .bool value
  | .int value => .int value
  | .str value => .str value
  | _ => .null

def ofValue : Value Empty → Json
  | .bool value => .bool value
  | .int value => .int value
  | .str value => .str value
  | _ => .null

theorem ofValue_toValue {json : Json} (scalar : Scalar json) : ofValue (toValue json) = json := by
  cases scalar <;> rfl

theorem toValue_distinct {json : Json} : (toValue json).Distinct := by
  cases json <;> trivial

def readClaims (token : String) : Option Claims :=
  match loads noFloats token.toList with
  | some (.obj members) => some (members.map (fun m => (m.1, ofValue m.2)))
  | _ => none

def writeClaims (claims : Claims) : String :=
  String.ofList (print noFloats true (.obj (claims.map (fun m => (m.1, toValue m.2)))))

theorem readClaims_writeClaims {claims : Claims} (distinct : (claims.map Prod.fst).Nodup)
    (scalar : ∀ claim ∈ claims, Scalar claim.2) : readClaims (writeClaims claims) = some claims := by
  have members : (Value.obj (claims.map (fun m => (m.1, toValue m.2)))).Distinct := by
    refine ⟨?_, (membersDistinct_iff _).mpr ?_⟩
    · rw [List.map_map]
      exact distinct
    · exact List.forall_mem_map.mpr (fun _ _ => toValue_distinct)
  unfold readClaims writeClaims
  rw [String.toList_ofList, loads_print noFloats true members]
  show some ((claims.map (fun m => (m.1, toValue m.2))).map (fun m => (m.1, ofValue m.2))) = _
  rw [List.map_map]
  congr 1
  refine (List.map_congr_left (fun claim member => ?_)).trans (List.map_id claims)
  exact Prod.ext rfl (ofValue_toValue (scalar claim member))

/-- A time claim in microseconds; `none` where it is missing or no number. -/
def timeClaim (claims : Claims) (name : String) : Option Int :=
  match claims.lookup name with
  | some (.int seconds) => some (secondsToMicros seconds)
  | _ => none

theorem timeClaim_of_mem {claims : Claims} {name : String} {seconds : Int}
    (distinct : (claims.map Prod.fst).Nodup) (member : (name, .int seconds) ∈ claims) :
    timeClaim claims name = some (secondsToMicros seconds) := by
  unfold timeClaim
  rw [lookup_of_mem distinct member]

def plainJwt : JwtLibrary where
  encode := writeClaims
  decode token now :=
    match readClaims token with
    | none => .error .invalid
    | some claims =>
      match timeClaim claims "iat", timeClaim claims "nbf", timeClaim claims "exp" with
      | some iat, some nbf, some exp =>
        if now < iat ∨ now < nbf then .error .invalid
        else if exp ≤ now then .error .expired
        else .ok claims
      | _, _, _ => .error .invalid
  decode_encode plain now := by
    rw [readClaims_writeClaims plain.distinct plain.scalar]
    dsimp only
    rw [timeClaim_of_mem plain.distinct plain.iat, timeClaim_of_mem plain.distinct plain.nbf,
      timeClaim_of_mem plain.distinct plain.exp]

end PlainTokens

end Reliastra.Source.Auth
