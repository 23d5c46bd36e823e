import Reliastra.Source.Auth.ConcurrentRefresh
import Reliastra.Source.Auth.OneTimeTokens

/-!
# Requests with e-mailed tokens beside refresh requests

`verify_email` and `reset_password` of `app/modules/auth/email_service.py`
statement by statement, beside `refresh`. As there, a statement reads what is
committed and nothing of a request is visible before its commit; the `UPDATE` of
a token names the row by its key and sets a constant. The requests that send an
e-mail are one step each.
-/

namespace Reliastra.Source.Auth

open Reliastra.Library Api

/-- The service's libraries, and `get_password_hash`. -/
structure CredentialServices where
  auth : AuthEnvironment
  passwordHash : String → String

/-- A committed `reset_password`: the refresh tokens the user had been issued, and
how many exchanges there had been. -/
structure CompletedReset where
  issued : List String
  exchanges : Nat

/-- What is committed. `spent` and `resets` record the requests that succeeded, in
the order of their commits. -/
structure CredentialStore where
  sessions : TokenStore
  verified : Uuid → Bool
  oneTimeTokens : OneTimeKind → OneTimeTokens
  spent : OneTimeKind → List String
  resets : List CompletedReset

/-- `verify_email`, or `reset_password` with the new password. -/
inductive Redemption where
  | verifyEmail
  | resetPassword (newPassword : String)
  deriving DecidableEq, Repr

def Redemption.kind : Redemption → OneTimeKind
  | .verifyEmail => .emailVerification
  | .resetPassword _ => .passwordReset

inductive CredentialPhase where
  | refreshing (phase : RefreshPhase)
  | presented (redemption : Redemption) (stored : OneTimeToken)
  /-- The token is marked, and its user loaded. -/
  | marked (redemption : Redemption) (stored : OneTimeToken) (user : Option User)

inductive CredentialAct where
  | refresh (action : RefreshAct)
  | present (redemption : Redemption) (token : String) (now : Instant)
  | markAndLoadUser
  | commit
  | abort
  | sendVerificationEmail (email token : String) (now : Instant)
  | sendPasswordResetEmail (email token : String) (now : Instant)

/-! ## Statements -/

namespace CredentialStore

def users (s : CredentialStore) : Table User.id := s.sessions.database.users

def refreshTokens (s : CredentialStore) : List RefreshToken := s.sessions.database.refreshTokens.rows

def setTokens (s : CredentialStore) (kind : OneTimeKind) (tokens : OneTimeTokens) :
    CredentialStore :=
  { s with oneTimeTokens := fun k => if k = kind then tokens else s.oneTimeTokens k }

/-- `UserRepository.get_by_email`. -/
def getByEmail (s : CredentialStore) (email : String) : Option User :=
  s.users.rows.find? (fun user => user.email = Text.lower email)

/-- The commit marks the token. -/
def spend (s : CredentialStore) (kind : OneTimeKind) (tokenHash : String) : CredentialStore :=
  { s.setTokens kind (markUsed tokenHash (s.oneTimeTokens kind)) with
    spent := fun k => if k = kind then s.spent kind ++ [tokenHash] else s.spent k }

def setPassword (s : CredentialStore) (userId : Uuid) (passwordHash : String) : CredentialStore :=
  let users := s.users.updateKey userId (fun user => { user with passwordHash := passwordHash })
    (fun _ => rfl)
  { s with sessions :=
      { s.sessions with database := { s.sessions.database with users := users } } }

/-- The refresh tokens of a user, however many are revoked. -/
def issuedTo (s : CredentialStore) (userId : Uuid) : List String :=
  (s.refreshTokens.filter (fun rt => rt.userId = userId)).map (·.tokenHash)

end CredentialStore

/-- What the commit writes for the user. The comment "Revoke all refresh tokens"
stands over a log line. -/
def applyRedemption (env : CredentialServices) (user : Option User) (s : CredentialStore) :
    Redemption → CredentialStore
  | .verifyEmail =>
    match user with
    | some user => { s with verified := fun id => if id = user.id then true else s.verified id }
    | none => s
  | .resetPassword newPassword =>
    match user with
    | some user => s.setPassword user.id (env.passwordHash newPassword)
    | none => s

/-- The record of a reset. -/
def recordReset (stored : OneTimeToken) (s : CredentialStore) : Redemption → CredentialStore
  | .verifyEmail => s
  | .resetPassword _ =>
    { s with resets := s.resets ++ [⟨s.issuedTo stored.userId, s.sessions.redeemed.length⟩] }

/-- A row that went away since it was loaded is a `StaleDataError`. -/
def commitRedemption (env : CredentialServices) (redemption : Redemption) (stored : OneTimeToken)
    (user : Option User) (s : CredentialStore) : Option CredentialStore :=
  if ∃ loaded ∈ user, s.users.get? loaded.id = none then none
  else some (recordReset stored
    (applyRedemption env user (s.spend redemption.kind stored.tokenHash) redemption) redemption)

def sendOneTime (env : CredentialServices) (kind : OneTimeKind) (user : User) (token : String)
    (now : Instant) (s : CredentialStore) : CredentialStore :=
  match issueOneTime kind user.id (env.auth.hashToken token) now (s.oneTimeTokens kind) with
  | .ok tokens => s.setTokens kind tokens
  | .error _ => s

def sendVerificationEmail (env : CredentialServices) (email token : String) (now : Instant)
    (s : CredentialStore) : CredentialStore :=
  match s.getByEmail email with
  | some user =>
    if s.verified user.id then s else sendOneTime env .emailVerification user token now s
  | none => s

def sendPasswordResetEmail (env : CredentialServices) (email token : String) (now : Instant)
    (s : CredentialStore) : CredentialStore :=
  match s.getByEmail email with
  | some user => sendOneTime env .passwordReset user token now s
  | none => s

def credentialAct (env : CredentialServices) (shared : CredentialStore) (phase : CredentialPhase) :
    CredentialAct → CredentialStore × CredentialPhase
  | .refresh action =>
    match phase with
    | .refreshing refreshPhase =>
      let (sessions, next) := refreshAct env.auth shared.sessions refreshPhase action
      ({ shared with sessions := sessions }, .refreshing next)
    | _ => (shared, phase)
  | .present redemption token now =>
    match phase with
    | .refreshing .idle =>
      match presentedToken redemption.kind (env.auth.hashToken token) now
          (shared.oneTimeTokens redemption.kind) with
      | .ok stored => (shared, .presented redemption stored)
      | .error _ => (shared, .refreshing .idle)
    | _ => (shared, phase)
  | .markAndLoadUser =>
    match phase with
    | .presented redemption stored =>
      (shared, .marked redemption stored (shared.users.get? stored.userId))
    | _ => (shared, phase)
  | .commit =>
    match phase with
    | .marked redemption stored user =>
      ((commitRedemption env redemption stored user shared).getD shared, .refreshing .idle)
    | _ => (shared, phase)
  | .abort => (shared, .refreshing .idle)
  | .sendVerificationEmail email token now =>
    (sendVerificationEmail env email token now shared, phase)
  | .sendPasswordResetEmail email token now =>
    (sendPasswordResetEmail env email token now shared, phase)

end Reliastra.Source.Auth
