import Reliastra.Source.Auth.RefreshTokens

/-!
# Reuse of a rotated refresh token

A rotated token is revoked by the refresh that rotated it, so presenting it
again ends at the revoked check and the reuse branch is not reached. Where the
branch is reached (an unrevoked token below the latest sequence), the exception
that reports the reuse rolls the revocation back. Either way the newest token of
the family stays usable.
-/

namespace Reliastra.Guarantees.TokenFamilies

open Reliastra.Library Source Source.Auth

/-- A token of the family with a larger sequence exists. -/
def AlreadyRotated (s : AuthState) (rt : RefreshToken) : Prop :=
  ∃ later ∈ s.refreshTokens.rows, later.tokenFamily = rt.tokenFamily ∧
    rt.tokenSequence < later.tokenSequence

def FamilyRevoked (s : AuthState) (tokenFamily : Uuid) : Prop :=
  ∀ rt ∈ s.refreshTokens.rows, rt.tokenFamily = tokenFamily → rt.isRevoked = true

/-- Presenting a rotated token commits nothing, in any token table. -/
theorem reuse_commits_nothing (env : AuthEnvironment) (s : AuthState) (token : String)
    (fresh : Fresh) (rt : RefreshToken) (found : s.getRefreshToken env token = some rt)
    (rotated : AlreadyRotated s rt) : authStep env s (.refresh token fresh) = s := by
  rcases refresh_committed env token fresh s with same | ⟨stored, next, hash, rotation⟩
  · exact same
  · exfalso
    obtain ⟨member, here⟩ := (Table.get?_eq_some_iff _ _ _).mp found
    obtain rfl : stored = rt := Table.eq_of_key rotation.member member (hash.trans here.symm)
    obtain ⟨later, place, family, larger⟩ := rotated
    have below := le_getLatestSequence s place
    have latest := rotation.latest
    rw [family] at below
    omega

/-- After any run of logins and refreshes, presenting a rotated token never
leaves its family revoked. -/
theorem reuse_never_revokes_family (env : AuthEnvironment) (users : Table User.id)
    (run : List AuthOp) (token : String) (fresh : Fresh) (rt : RefreshToken)
    (found : (Run.exec (authStep env) (.empty users) run).getRefreshToken env token = some rt)
    (rotated : AlreadyRotated (Run.exec (authStep env) (.empty users) run) rt) :
    ¬ FamilyRevoked
      (authStep env (Run.exec (authStep env) (.empty users) run) (.refresh token fresh))
      rt.tokenFamily := by
  rw [reuse_commits_nothing env _ token fresh rt found rotated]
  intro revoked
  obtain ⟨member, _⟩ := (Table.get?_eq_some_iff _ _ _).mp found
  obtain ⟨last, place, family, usable, _⟩ := (familiesUsable_exec env users run).newest rt member
  rw [revoked last place family] at usable
  cases usable

/-! ## A stolen chain -/

def firstJwt : String :=
  "eyJhbGciOiJIUzI1NiIsInR5cCI6IkpXVCJ9.eyJzdWIiOiIwMDAwMDAwMC0wMDAwLTAwMDAtMDAwMC0wMDAwMDA" ++
  "wMDAwMDEiLCJpYXQiOjAsIm5iZiI6MCwiZXhwIjo2MDQ4MDAsInR5cGUiOiJyZWZyZXNoIiwianRpIjoiMDAwMDA" ++
  "wMDAwMDAwMDAwMDAwMDAwMDAwMDAwMDAwMDEifQ.suV2lnubzwajrEu3nyLw27SCSfVa6h8d8LSU0qMQ4iE"

def secondJwt : String :=
  "eyJhbGciOiJIUzI1NiIsInR5cCI6IkpXVCJ9.eyJzdWIiOiIwMDAwMDAwMC0wMDAwLTAwMDAtMDAwMC0wMDAwMDA" ++
  "wMDAwMDEiLCJpYXQiOjYwLCJuYmYiOjYwLCJleHAiOjYwNDg2MCwidHlwZSI6InJlZnJlc2giLCJqdGkiOiIwMDA" ++
  "wMDAwMDAwMDAwMDAwMDAwMDAwMDAwMDAwMDAwMiJ9.sf2zrxr0b0SZEGjTG6qRDY5d8hoH7pBgO4QskyycbgU"

def thirdJwt : String :=
  "eyJhbGciOiJIUzI1NiIsInR5cCI6IkpXVCJ9.eyJzdWIiOiIwMDAwMDAwMC0wMDAwLTAwMDAtMDAwMC0wMDAwMDA" ++
  "wMDAwMDEiLCJpYXQiOjEyMCwibmJmIjoxMjAsImV4cCI6NjA0OTIwLCJ0eXBlIjoicmVmcmVzaCIsImp0aSI6IjA" ++
  "wMDAwMDAwMDAwMDAwMDAwMDAwMDAwMDAwMDAwMDAzIn0.5LVOTcToX-2uAV1IXyMYAgTrC9FqYR9HAP-A6D81heg"

/-- HS256 JWTs over the key `secret`, their SHA-256 digests, and one bcrypt hash. -/
def sampleEnvironment : AuthEnvironment where
  hashToken token :=
    if token = firstJwt then
      "771fbf3897ed7fe9d861b6fdaddcf3269975fb2bcdc70dd2363be8ad4247d463"
    else if token = secondJwt then
      "f669c167f0dc421b99ce82a598c47a2fc08b088713584b2913a17401e4f7c7bc"
    else "0a0b6ecad1751b37037ff676e288603abbeffbfc4dda4aaeafd5e1d1af5d3eaf"
  verifyPassword password hash :=
    password = "correct horse" ∧
      hash = "$2b$04$abcdefghijklmnopqrstuujydOTSfIH/d5oUHpsygqV5X9xJLQc6e"
  decodeToken token _ :=
    if token ∈ [firstJwt, secondJwt, thirdJwt] then
      .ok (.obj [("sub", .str "00000000-0000-0000-0000-000000000001"), ("type", .str "refresh")])
    else .error (.app (unauthorizedException "Invalid token"))
  uuidOfText text := if text = "00000000-0000-0000-0000-000000000001" then some 1 else none
  accessTokenExpireMinutes := 15
  refreshTokenExpireDays := 7

def sampleUsers : Table User.id :=
  ⟨[⟨1, "a@example.com", "$2b$04$abcdefghijklmnopqrstuujydOTSfIH/d5oUHpsygqV5X9xJLQc6e", true⟩],
    by decide⟩

/-- A login, and a refresh with its token. -/
def rotatedOnce : List AuthOp :=
  [.login "a@example.com" "correct horse" ⟨"access-1", firstJwt, 9, 0⟩,
    .refresh firstJwt ⟨"access-2", secondJwt, 10, secondsToMicros 60⟩]

def firstToken : RefreshToken :=
  ⟨"771fbf3897ed7fe9d861b6fdaddcf3269975fb2bcdc70dd2363be8ad4247d463", 1, 9, 1, true,
    daysToMicros 7⟩

theorem firstToken_rotated :
    (Run.exec (authStep sampleEnvironment) (.empty sampleUsers) rotatedOnce).getRefreshToken
        sampleEnvironment firstJwt = some firstToken ∧
      AlreadyRotated (Run.exec (authStep sampleEnvironment) (.empty sampleUsers) rotatedOnce)
        firstToken := by
  constructor
  · decide +kernel
  · exact show ∃ later ∈ _, _ from by decide +kernel

theorem reuse_never_revokes_family_sample :
    ¬ FamilyRevoked
      (authStep sampleEnvironment
        (Run.exec (authStep sampleEnvironment) (.empty sampleUsers) rotatedOnce)
        (.refresh firstJwt ⟨"access-3", thirdJwt, 11, secondsToMicros 120⟩)) 9 :=
  reuse_never_revokes_family sampleEnvironment sampleUsers rotatedOnce firstJwt
    ⟨"access-3", thirdJwt, 11, secondsToMicros 120⟩ firstToken firstToken_rotated.1
    firstToken_rotated.2

/-- After the replay of the first token the second one is exchanged as if
nothing had happened. -/
theorem family_survives_replay :
    ¬ FamilyRevoked
        (Run.exec (authStep sampleEnvironment) (.empty sampleUsers)
          (rotatedOnce ++ [.refresh firstJwt ⟨"access-3", thirdJwt, 11, secondsToMicros 120⟩])) 9 ∧
      (refresh sampleEnvironment secondJwt ⟨"access-4", thirdJwt, 12, secondsToMicros 180⟩
        (Run.exec (authStep sampleEnvironment) (.empty sampleUsers)
          (rotatedOnce ++ [.refresh firstJwt ⟨"access-3", thirdJwt, 11,
            secondsToMicros 120⟩]))).outcome =
        .ok (tokenPair sampleEnvironment "access-4" thirdJwt) := by
  constructor
  · exact show ¬ ∀ rt ∈ _, _ from by decide +kernel
  · decide +kernel

end Reliastra.Guarantees.TokenFamilies
