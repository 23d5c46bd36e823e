import Reliastra.Source.Api.Schema
import Reliastra.Source.Auth.AccessTokens
import Reliastra.Source.Auth.CurrentUser

/-!
# Impersonation tokens

Source: `impersonate` of `app/modules/admin/service.py` and `impersonate_customer` of
`app/modules/admin/control_plane_service.py`. Both make an access token whose claims
they override, decode it again and sign it with an expiry of their own. The audit entry
is left out.
-/

namespace Reliastra.Source.Admin

open Reliastra.Library Auth Dictionaries

def impersonationTokenTtlMinutes : Int := 15

/-- The clock readings of one request, and the `jti` it draws. -/
structure ImpersonationDraw where
  token : TokenDraw
  decodedAt : Instant
  extendedAt : Instant

/-- The time claim the token ends with. -/
def impersonationExpiry (draw : ImpersonationDraw) : Int :=
  (draw.extendedAt + secondsToMicros (impersonationTokenTtlMinutes * 60)) / 1000000

/-- Decode the token, set `payload["exp"]`, encode it again. -/
def restamp (env : TokenEnvironment) (token : String) (draw : ImpersonationDraw) :
    Except Failure String :=
  match env.jwt.decode token draw.decodedAt with
  | .error .expired => .error (.python "ExpiredSignatureError")
  | .error .invalid => .error (.python "InvalidTokenError")
  | .ok payload => .ok (env.jwt.encode (assign payload ("exp", .int (impersonationExpiry draw))))

structure ImpersonateResponse where
  token : String
  impersonatedUserId : Uuid
  impersonatedEmail : String
  expiresInSeconds : Int
  deriving DecidableEq, Repr

def impersonate (env : TokenEnvironment) (users : Table Account.id) (userId adminUserId : Uuid)
    (draw : ImpersonationDraw) : Except Failure ImpersonateResponse :=
  match users.get? userId with
  | none => .error (.app (resourceNotFoundException "User not found"))
  | some user =>
    if ¬ user.isActive then
      .error (.app (validationException "Cannot impersonate an inactive user"))
    else do
      let token := createAccessToken env (env.uuidText userId)
        [("impersonator_id", .str (env.uuidText adminUserId)),
          ("impersonated_user_id", .str (env.uuidText userId)),
          ("type", .str "impersonation")] draw.token
      let token ← restamp env token draw
      .ok ⟨token, userId, user.email, impersonationTokenTtlMinutes * 60⟩

structure CustomerImpersonateResponse extends ImpersonateResponse where
  impersonatorId : Uuid
  reason : String
  noRefreshToken : Bool
  deriving DecidableEq, Repr

def impersonateCustomer (env : TokenEnvironment) (users : Table Account.id) (customerId : Uuid)
    (reason : String) (adminUserId : Uuid) (draw : ImpersonationDraw) :
    Except Failure CustomerImpersonateResponse :=
  match users.get? customerId with
  | none => .error (.app (resourceNotFoundException "Customer not found"))
  | some user =>
    if ¬ user.isActive then
      .error (.app (validationException "Cannot impersonate an inactive customer"))
    else if reason = "" ∨ (Text.strip reason).length < 3 then
      .error (.app (validationException "Impersonation reason is required"))
    else do
      let token := createAccessToken env (env.uuidText customerId)
        [("impersonator_id", .str (env.uuidText adminUserId)),
          ("impersonated_user_id", .str (env.uuidText customerId)),
          ("type", .str "impersonation"),
          ("reason", .str (Text.slice (Text.strip reason) 200)),
          ("refresh", .bool false)] draw.token
      let token ← restamp env token draw
      .ok ⟨⟨token, customerId, user.email, impersonationTokenTtlMinutes * 60⟩, adminUserId,
        Text.strip reason, true⟩

/-! ## The claims of the token -/

/-- The claims an impersonation token is made of: those of an access token with another
type, and the ones a service adds. -/
def impersonationClaims (subject administrator jti : String) (issued expiry : Int)
    (extra : Claims) : Claims :=
  [("sub", .str subject), ("iat", .int issued), ("nbf", .int issued), ("exp", .int expiry),
    ("type", .str "impersonation"), ("jti", .str jti), ("impersonator_id", .str administrator),
    ("impersonated_user_id", .str subject)] ++ extra

/-- What a service adds besides. -/
def AddedClaims (extra : Claims) : Prop :=
  extra = [] ∨ ∃ reason : String, extra = [("reason", .str reason), ("refresh", .bool false)]

theorem impersonationClaims_plain {extra : Claims} (added : AddedClaims extra)
    (subject administrator jti : String) (issued expiry : Int) :
    PlainClaims (impersonationClaims subject administrator jti issued expiry extra)
      issued issued expiry := by
  rcases added with rfl | ⟨reason, rfl⟩
  · have names : (impersonationClaims subject administrator jti issued expiry []).map Prod.fst =
        ["sub", "iat", "nbf", "exp", "type", "jti", "impersonator_id", "impersonated_user_id"] := rfl
    exact ⟨by rw [names]; decide, by simp [impersonationClaims, Scalar.str, Scalar.int],
      by simp [impersonationClaims], by rw [names]; decide, by simp [impersonationClaims],
      by simp [impersonationClaims], by simp [impersonationClaims]⟩
  · have names : (impersonationClaims subject administrator jti issued expiry
        [("reason", .str reason), ("refresh", .bool false)]).map Prod.fst =
        ["sub", "iat", "nbf", "exp", "type", "jti", "impersonator_id", "impersonated_user_id",
          "reason", "refresh"] := rfl
    exact ⟨by rw [names]; decide,
      by simp [impersonationClaims, Scalar.str, Scalar.int, Scalar.bool],
      by simp [impersonationClaims], by rw [names]; decide, by simp [impersonationClaims],
      by simp [impersonationClaims], by simp [impersonationClaims]⟩

/-- The additional claims override the type of an access token. -/
theorem update_baseTokenPayload {extra : Claims} (added : AddedClaims extra)
    (subject administrator jti : String) (now expire : Instant) :
    update (baseTokenPayload subject now expire "access" jti)
      ([("impersonator_id", .str administrator), ("impersonated_user_id", .str subject),
        ("type", .str "impersonation")] ++ extra) =
      impersonationClaims subject administrator jti (now / 1000000) (expire / 1000000) extra := by
  rcases added with rfl | ⟨reason, rfl⟩ <;>
    simp [update, assign, baseTokenPayload, numericDate, impersonationClaims]

theorem assign_impersonationClaims {extra : Claims} (added : AddedClaims extra)
    (subject administrator jti : String) (issued expiry other : Int) :
    assign (impersonationClaims subject administrator jti issued expiry extra)
        ("exp", .int other) =
      impersonationClaims subject administrator jti issued other extra := by
  rcases added with rfl | ⟨reason, rfl⟩ <;> simp [assign, impersonationClaims]

/-- A token is a fresh impersonation token: its claims, whatever a service adds. -/
def IsImpersonationToken (env : TokenEnvironment) (target : Uuid) (draw : ImpersonationDraw)
    (token : String) : Prop :=
  ∃ (administrator : Uuid) (extra : Claims), AddedClaims extra ∧
    token = env.jwt.encode (impersonationClaims (env.uuidText target) (env.uuidText administrator)
      draw.token.jti (draw.token.now / 1000000) (impersonationExpiry draw) extra)

theorem restamp_eq_ok {env : TokenEnvironment} {draw : ImpersonationDraw} {target administrator : Uuid}
    {extra : Claims} {token : String} (added : AddedClaims extra)
    (restamped : restamp env (createAccessToken env (env.uuidText target)
      ([("impersonator_id", .str (env.uuidText administrator)),
        ("impersonated_user_id", .str (env.uuidText target)),
        ("type", .str "impersonation")] ++ extra) draw.token) draw = .ok token) :
    IsImpersonationToken env target draw token := by
  refine ⟨administrator, extra, added, ?_⟩
  unfold restamp createAccessToken at restamped
  dsimp only at restamped
  rw [update_baseTokenPayload added] at restamped
  have plain := impersonationClaims_plain added (env.uuidText target) (env.uuidText administrator)
    draw.token.jti (draw.token.now / 1000000)
    ((draw.token.expireFrom + secondsToMicros (env.accessTokenExpireMinutes * 60)) / 1000000)
  cases decoded : env.jwt.decode (env.jwt.encode _) draw.decodedAt with
  | error error =>
    rw [decoded] at restamped
    cases error <;> cases restamped
  | ok payload =>
    rw [decoded] at restamped
    obtain rfl : payload = _ := env.jwt.eq_of_decode plain decoded
    have signed := Except.ok.inj restamped
    rw [assign_impersonationClaims added] at signed
    exact signed.symm

/-- An access token that is live while it is decoded is issued again. -/
theorem impersonate_ok {env : TokenEnvironment} {users : Table Account.id} {target : Uuid}
    {user : Account} (found : users.get? target = some user) (active : user.isActive = true)
    (administrator : Uuid) {draw : ImpersonationDraw}
    (begun : secondsToMicros (draw.token.now / 1000000) ≤ draw.decodedAt)
    (live : draw.decodedAt < secondsToMicros ((draw.token.expireFrom +
      secondsToMicros (env.accessTokenExpireMinutes * 60)) / 1000000)) :
    impersonate env users target administrator draw =
      .ok ⟨env.jwt.encode (impersonationClaims (env.uuidText target) (env.uuidText administrator)
        draw.token.jti (draw.token.now / 1000000) (impersonationExpiry draw) []), target, user.email,
        impersonationTokenTtlMinutes * 60⟩ := by
  have claims := update_baseTokenPayload (Or.inl rfl) (env.uuidText target)
    (env.uuidText administrator) draw.token.jti draw.token.now
    (draw.token.expireFrom + secondsToMicros (env.accessTokenExpireMinutes * 60))
  rw [List.append_nil] at claims
  have decoded := env.jwt.decode_live (impersonationClaims_plain (Or.inl rfl) (env.uuidText target)
    (env.uuidText administrator) draw.token.jti (draw.token.now / 1000000) _) begun begun live
  unfold impersonate restamp createAccessToken
  rw [found]
  dsimp only
  rw [if_neg (not_not.mpr active), claims, decoded]
  show Except.ok _ = _
  rw [assign_impersonationClaims (Or.inl rfl)]

theorem impersonate_eq_ok {env : TokenEnvironment} {users : Table Account.id}
    {userId adminUserId : Uuid} {draw : ImpersonationDraw} {response : ImpersonateResponse}
    (issued : impersonate env users userId adminUserId draw = .ok response) :
    IsImpersonationToken env userId draw response.token := by
  unfold impersonate at issued
  cases found : users.get? userId with
  | none => rw [found] at issued; cases issued
  | some user =>
    rw [found] at issued
    dsimp only at issued
    by_cases inactive : ¬ user.isActive
    · rw [if_pos inactive] at issued
      cases issued
    rw [if_neg inactive] at issued
    obtain ⟨token, restamped, answered⟩ := Api.bind_eq_ok issued
    cases answered
    exact restamp_eq_ok (Or.inl rfl) restamped

theorem impersonateCustomer_eq_ok {env : TokenEnvironment} {users : Table Account.id}
    {customerId adminUserId : Uuid} {reason : String} {draw : ImpersonationDraw}
    {response : CustomerImpersonateResponse}
    (issued : impersonateCustomer env users customerId reason adminUserId draw = .ok response) :
    IsImpersonationToken env customerId draw response.token := by
  unfold impersonateCustomer at issued
  cases found : users.get? customerId with
  | none => rw [found] at issued; cases issued
  | some user =>
    rw [found] at issued
    dsimp only at issued
    by_cases inactive : ¬ user.isActive
    · rw [if_pos inactive] at issued
      cases issued
    rw [if_neg inactive] at issued
    by_cases short : reason = "" ∨ (Text.strip reason).length < 3
    · rw [if_pos short] at issued
      cases issued
    rw [if_neg short] at issued
    obtain ⟨token, restamped, answered⟩ := Api.bind_eq_ok issued
    cases answered
    exact restamp_eq_ok (Or.inr ⟨_, rfl⟩) restamped

end Reliastra.Source.Admin
