import Reliastra.Source.Api.Schema
import Reliastra.Source.Auth.Supabase

/-!
# Tokens sent by e-mail

Source: the e-mail verification and password reset tokens of
`app/modules/auth/repository.py`, and the checks `verify_email` and
`reset_password` of `app/modules/auth/email_service.py` make of a presented one.
The two tables have the same columns.
-/

namespace Reliastra.Source.Auth

open Reliastra.Library Api

inductive OneTimeKind where
  | emailVerification | passwordReset
  deriving DecidableEq, Repr

structure OneTimeToken where
  tokenHash : String
  userId : Uuid
  isUsed : Bool
  expiresAt : Instant
  deriving DecidableEq, Repr

abbrev OneTimeTokens := Table OneTimeToken.tokenHash

namespace OneTimeKind

/-- `EMAIL_VERIFICATION_EXPIRE_MINUTES` and `PASSWORD_RESET_EXPIRE_MINUTES`. -/
def expireMinutes : OneTimeKind → Int
  | emailVerification => 60
  | passwordReset => 15

def unknownMessage : OneTimeKind → String
  | emailVerification => "Invalid verification token"
  | passwordReset => "Invalid password reset token"

def usedMessage : OneTimeKind → String
  | emailVerification => "This verification link has already been used"
  | passwordReset => "This reset link has already been used. Please request a new one."

def expiredMessage : OneTimeKind → String
  | emailVerification => "Verification link has expired. Please request a new one."
  | passwordReset => "Password reset link has expired. Please request a new one."

end OneTimeKind

/-! ## Statements -/

/-- `mark_email_verification_used` and `mark_password_reset_used`. -/
def markUsed (tokenHash : String) (tokens : OneTimeTokens) : OneTimeTokens :=
  tokens.updateKey tokenHash (fun token => { token with isUsed := true }) (fun _ => rfl)

/-- `revoke_all_email_verification_tokens` and `revoke_all_password_reset_tokens`. -/
def revokeAll (userId : Uuid) (tokens : OneTimeTokens) : OneTimeTokens :=
  tokens.mapRows (fun token => if token.userId = userId then { token with isUsed := true } else token)
    (fun token => by split <;> rfl)

/-- The token of a new e-mail; the older ones of the user are revoked. -/
def issueOneTime (kind : OneTimeKind) (userId : Uuid) (tokenHash : String) (now : Instant)
    (tokens : OneTimeTokens) : Except Failure OneTimeTokens :=
  flushNew (revokeAll userId tokens)
    { tokenHash := tokenHash
      userId := userId
      isUsed := false
      expiresAt := now + secondsToMicros (kind.expireMinutes * 60) }

/-- A presented token, if it can be used. -/
def presentedToken (kind : OneTimeKind) (tokenHash : String) (now : Instant)
    (tokens : OneTimeTokens) : Except Failure OneTimeToken := do
  let stored ← require (tokens.get? tokenHash) (invalid kind.unknownMessage)
  refuseIf (stored.isUsed = true) (invalid kind.usedMessage)
  refuseIf (stored.expiresAt < now) (invalid kind.expiredMessage)
  return stored

/-! ## What they leave of the rows -/

/-- `b` is the row `a` later on: a token is only ever used up. -/
structure Wears (a b : OneTimeToken) : Prop where
  tokenHash : b.tokenHash = a.tokenHash
  userId : b.userId = a.userId
  used : a.isUsed = true → b.isUsed = true

theorem Wears.refl (a : OneTimeToken) : Wears a a := ⟨rfl, rfl, id⟩

theorem wears_markUsed (tokenHash : String) {tokens : OneTimeTokens} {a : OneTimeToken}
    (member : a ∈ tokens.rows) : ∃ b ∈ (markUsed tokenHash tokens).rows, Wears a b := by
  refine ⟨_, List.mem_map_of_mem member, ?_⟩
  split
  · exact ⟨rfl, rfl, fun _ => rfl⟩
  · exact Wears.refl a

theorem markUsed_used {tokenHash : String} {tokens : OneTimeTokens} {b : OneTimeToken}
    (member : b ∈ (markUsed tokenHash tokens).rows) (here : b.tokenHash = tokenHash) :
    b.isUsed = true := by
  obtain ⟨a, _, rfl⟩ := List.mem_map.mp member
  split
  · rfl
  · next elsewhere =>
    rw [if_neg elsewhere] at here
    exact absurd here elsewhere

/-- What an issue leaves: the old rows, those of the user used up, and the new one. -/
theorem issueOneTime_rows {kind : OneTimeKind} {userId : Uuid} {tokenHash : String}
    {now : Instant} {tokens after : OneTimeTokens}
    (success : issueOneTime kind userId tokenHash now tokens = .ok after) :
    tokenHash ∉ tokens.rows.map (·.tokenHash) ∧
      after.rows = tokens.rows.map (fun token =>
        if token.userId = userId then { token with isUsed := true } else token) ++
          [⟨tokenHash, userId, false, now + secondsToMicros (kind.expireMinutes * 60)⟩] := by
  obtain ⟨new, rows⟩ := Table.insert_eq_some (flushNew_eq_ok.mp success)
  refine ⟨?_, rows⟩
  intro known
  apply new
  obtain ⟨token, member, here⟩ := List.mem_map.mp known
  refine List.mem_map.mpr ⟨_, List.mem_map_of_mem member, ?_⟩
  simp only [apply_ite OneTimeToken.tokenHash, ite_self]
  exact here

theorem wears_issueOneTime {kind : OneTimeKind} {userId : Uuid} {tokenHash : String}
    {now : Instant} {tokens after : OneTimeTokens} {a : OneTimeToken}
    (success : issueOneTime kind userId tokenHash now tokens = .ok after)
    (member : a ∈ tokens.rows) : ∃ b ∈ after.rows, Wears a b := by
  rw [(issueOneTime_rows success).2]
  refine ⟨_, List.mem_append_left _ (List.mem_map_of_mem member), ?_⟩
  split
  · exact ⟨rfl, rfl, fun _ => rfl⟩
  · exact Wears.refl a

theorem presentedToken_eq_ok {kind : OneTimeKind} {tokenHash : String} {now : Instant}
    {tokens : OneTimeTokens} {stored : OneTimeToken} :
    presentedToken kind tokenHash now tokens = .ok stored ↔
      (stored ∈ tokens.rows ∧ stored.tokenHash = tokenHash) ∧ stored.isUsed = false ∧
        now ≤ stored.expiresAt := by
  unfold presentedToken
  constructor
  · intro success
    obtain ⟨row, found, success⟩ := bind_eq_ok success
    obtain ⟨_, unused, success⟩ := bind_eq_ok success
    obtain ⟨_, live, success⟩ := bind_eq_ok success
    cases success
    rw [require_eq_ok] at found
    rw [refuseIf_eq_ok] at unused live
    exact ⟨(Table.get?_eq_some_iff _ _ _).mp found, by simpa using unused, not_lt.mp live⟩
  · intro ⟨stored', unused, live⟩
    have found := (Table.get?_eq_some_iff _ _ _).mpr stored'
    simp only [found, require, refuseIf, unused, bind, Except.bind, pure, Except.pure]
    rw [if_neg (by decide), if_neg (not_lt.mpr live)]

end Reliastra.Source.Auth

/-!
## Addresses and the verified flag

Source: `send_verification_email` and `verify_email` of
`app/modules/auth/email_service.py`, beside the operations that write a user's
address: registration, `update_profile` and the external logins. Each is one
transaction.
-/

namespace Reliastra.Source.Auth

open Reliastra.Library Api

structure AddressDatabase where
  identities : IdentityDatabase
  verificationTokens : OneTimeTokens

namespace AddressDatabase

def users (s : AddressDatabase) : Table Account.id := s.identities.oauth.platform.users

def isEmailVerified (s : AddressDatabase) (userId : Uuid) : Bool :=
  (s.identities.oauth.columns userId).isEmailVerified

def withPlatform (s : AddressDatabase) (platform : Platform) : AddressDatabase :=
  { s with identities :=
      { s.identities with oauth := { s.identities.oauth with platform := platform } } }

def setVerified (s : AddressDatabase) (userId : Uuid) : AddressDatabase :=
  let oauth := s.identities.oauth
  { s with identities :=
      { s.identities with oauth :=
          oauth.setColumns userId { oauth.columns userId with isEmailVerified := true } } }

end AddressDatabase

/-- The columns a registered user starts with. -/
def registeredColumns : OAuthColumns := ⟨none, none, none, none, false⟩

def registerUser (env : SignupEnvironment) (bind : BindReferral) (request : RegisterRequest)
    (s : AddressDatabase) : Except Failure AddressDatabase := do
  let oauth := s.identities.oauth
  let (response, signup) ← register env bind request ⟨oauth.platform, oauth.refreshTokens⟩
  let userId := response.user.id
  let oauth := { oauth with
    platform := signup.platform
    refreshTokens := signup.refreshTokens }.setColumns userId registeredColumns
  let externalAuthIds := fun id => if id = userId then none else s.identities.externalAuthIds id
  return { s with identities := ⟨oauth, externalAuthIds⟩ }

def updateUserProfile (env : ServiceEnvironment) (userId : Uuid) (request : UserUpdateRequest)
    (s : AddressDatabase) : Except Failure AddressDatabase := do
  let platform ← updateProfile env userId request s.identities.oauth.platform
  return s.withPlatform platform

/-- What an e-mail request draws at random, hashed, and its clock reading. -/
structure EmailEnvironment where
  service : ServiceEnvironment
  hashToken : String → String

/-- The user a verification is sent to. -/
def verificationRecipient (env : EmailEnvironment) (email : String) (s : AddressDatabase) :
    Except Failure Account := do
  let user ← require (userByEmail env.service s.identities.oauth.platform email)
    (invalid "No account found with this email address")
  refuseIf (s.isEmailVerified user.id = true)
    (.app ⟨"Email is already verified", 400, "EMAIL_ALREADY_VERIFIED"⟩)
  return user

/-- The e-mail goes to `email`. -/
def sendVerification (env : EmailEnvironment) (email token : String) (s : AddressDatabase) :
    Except Failure AddressDatabase := do
  let user ← verificationRecipient env email s
  let tokens ← issueOneTime .emailVerification user.id (env.hashToken token) env.service.now
    s.verificationTokens
  return { s with verificationTokens := tokens }

/-- The token names a user, not an address. -/
def verifyEmail (env : EmailEnvironment) (token : String) (s : AddressDatabase) :
    Except Failure (OneTimeToken × AddressDatabase) := do
  let stored ← presentedToken .emailVerification (env.hashToken token) env.service.now
    s.verificationTokens
  let s := { s with verificationTokens := markUsed stored.tokenHash s.verificationTokens }
  match s.users.get? stored.userId with
  | some user => return (stored, s.setVerified user.id)
  | none => return (stored, s)

inductive AddressOp where
  | register (env : SignupEnvironment) (bind : BindReferral) (request : RegisterRequest)
  | updateProfile (env : ServiceEnvironment) (userId : Uuid) (request : UserUpdateRequest)
  | sendVerificationEmail (env : EmailEnvironment) (email token : String)
  | verifyEmail (env : EmailEnvironment) (token : String)
  | externalLogin (env : ExternalEnvironment) (login : ExternalLogin)

/-- What an operation that succeeds commits. -/
def AddressOp.run (s : AddressDatabase) : AddressOp → Except Failure AddressDatabase
  | .register env bind request => registerUser env bind request s
  | .updateProfile env userId request => updateUserProfile env userId request s
  | .sendVerificationEmail env email token => sendVerification env email token s
  | .verifyEmail env token => do
    let (_, s) ← Auth.verifyEmail env token s
    return s
  | .externalLogin env login => do
    let identities ← Auth.externalLogin env s.identities login
    return { s with identities := identities }

end Reliastra.Source.Auth
