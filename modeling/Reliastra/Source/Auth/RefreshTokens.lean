import Reliastra.Library.Run
import Reliastra.Library.Table
import Reliastra.Source.Core.Json
import Reliastra.Source.Core.Text
import Reliastra.Source.Core.Basics

/-!
# Login and refresh-token rotation

Source: `login` and `refresh` of `app/modules/auth/service.py` and the refresh
token queries of `app/modules/auth/repository.py`. The token table is keyed by
its unique hash. Hashing, password checking and decoding a JWT are libraries of
their own; the tokens a handler generates are inputs, since each carries a
random `jti`.
-/

namespace Reliastra.Source.Auth

open Reliastra.Library

structure User where
  id : Uuid
  email : String
  passwordHash : String
  isActive : Bool
  deriving DecidableEq, Repr

structure RefreshToken where
  tokenHash : String
  userId : Uuid
  tokenFamily : Uuid
  tokenSequence : Int
  isRevoked : Bool
  expiresAt : Instant
  deriving DecidableEq, Repr

/-- The libraries the service calls, and its settings. -/
structure AuthEnvironment where
  /-- `hashlib.sha256(token).hexdigest()`. -/
  hashToken : String → String
  /-- `bcrypt.checkpw(password, hash)`. -/
  verifyPassword : String → String → Bool
  /-- `decode_token` at an instant; it raises for an expired or invalid token. -/
  decodeToken : String → Instant → Except Failure Json
  uuidOfText : String → Option Uuid
  accessTokenExpireMinutes : Int
  refreshTokenExpireDays : Int

structure AuthState where
  users : Table User.id
  refreshTokens : Table RefreshToken.tokenHash

structure TokenResponse where
  accessToken : String
  refreshToken : String
  tokenType : String
  expiresIn : Int
  deriving DecidableEq, Repr

/-! ## Repository -/

def AuthState.getRefreshToken (s : AuthState) (env : AuthEnvironment) (token : String) :
    Option RefreshToken :=
  s.refreshTokens.get? (env.hashToken token)

/-- The tokens of a family. -/
def AuthState.family (s : AuthState) (tokenFamily : Uuid) : List RefreshToken :=
  s.refreshTokens.rows.filter (fun rt => rt.tokenFamily = tokenFamily)

/-- `get_latest_sequence`: `SELECT max(token_sequence)`, zero for no row. -/
def AuthState.getLatestSequence (s : AuthState) (tokenFamily : Uuid) : Int :=
  ((s.family tokenFamily).map (·.tokenSequence)).max?.getD 0

/-- `create_refresh_token`; `none` is the unique violation on the hash. -/
def AuthState.createRefreshToken (s : AuthState) (env : AuthEnvironment) (userId : Uuid)
    (token : String) (expiresAt : Instant) (tokenFamily : Uuid) (tokenSequence : Int) :
    Option AuthState :=
  (s.refreshTokens.insert ⟨env.hashToken token, userId, tokenFamily, tokenSequence, false,
    expiresAt⟩).map (fun refreshTokens => { s with refreshTokens := refreshTokens })

def AuthState.revokeFamily (s : AuthState) (tokenFamily : Uuid) : AuthState :=
  let refreshTokens := s.refreshTokens.mapRows
    (fun rt => if rt.tokenFamily = tokenFamily then { rt with isRevoked := true } else rt)
    (fun rt => by split <;> rfl)
  { s with refreshTokens := refreshTokens }

def AuthState.revokeRefreshToken (s : AuthState) (env : AuthEnvironment) (token : String) :
    AuthState :=
  let refreshTokens := s.refreshTokens.updateKey (env.hashToken token)
    (fun rt => { rt with isRevoked := true }) (fun _ => rfl)
  { s with refreshTokens := refreshTokens }

/-! ## Service -/

/-- The pair `_generate_token_pair` makes of two new JWTs. -/
def tokenPair (env : AuthEnvironment) (accessToken refreshToken : String) : TokenResponse :=
  ⟨accessToken, refreshToken, "bearer", env.accessTokenExpireMinutes * 60⟩

/-- What one request draws at random, and its clock reading. -/
structure Fresh where
  accessToken : String
  refreshToken : String
  tokenFamily : Uuid
  now : Instant

def login (env : AuthEnvironment) (email password : String) (fresh : Fresh) (s : AuthState) :
    Attempt AuthState TokenResponse :=
  match s.users.rows.find? (fun user => user.email = Text.lower email) with
  | none => unauthorized s "Invalid email or password"
  | some user =>
    if ¬ env.verifyPassword password user.passwordHash then
      unauthorized s "Invalid email or password"
    else if ¬ user.isActive then unauthorized s "User account is disabled"
    else
      let expiresAt := fresh.now + daysToMicros env.refreshTokenExpireDays
      match s.createRefreshToken env user.id fresh.refreshToken expiresAt fresh.tokenFamily 1 with
      | none => raising s (.flush "refresh_tokens_token_hash_key")
      | some created => ⟨created, .ok (tokenPair env fresh.accessToken fresh.refreshToken)⟩

def refresh (env : AuthEnvironment) (token : String) (fresh : Fresh) (s : AuthState) :
    Attempt AuthState TokenResponse :=
  match env.decodeToken token fresh.now with
  | .error failure => raising s failure
  | .ok payload =>
    match payload.get "type" with
    | .str tokenType =>
      if tokenType ≠ "refresh" then unauthorized s "Invalid token type"
      else match s.getRefreshToken env token with
      | none => unauthorized s "Refresh token not found or invalid"
      | some stored =>
        if stored.isRevoked then unauthorized s "Refresh token has been revoked"
        else match payload.get "sub" with
        | .str userIdText =>
          if userIdText = "" then unauthorized s "Invalid token payload"
          else match env.uuidOfText userIdText with
          | none => raising s (.python "ValueError")
          | some userId =>
            match s.users.get? userId with
            | none => unauthorized s "User account not found or disabled"
            | some user =>
              if ¬ user.isActive then unauthorized s "User account not found or disabled"
              else if stored.tokenSequence < s.getLatestSequence stored.tokenFamily then
                -- the revocation is flushed, and the exception takes it back
                unauthorized (s.revokeFamily stored.tokenFamily)
                  "Refresh token reuse detected; session has been revoked"
              else
                let expiresAt := fresh.now + daysToMicros env.refreshTokenExpireDays
                match s.createRefreshToken env user.id fresh.refreshToken expiresAt
                    stored.tokenFamily (stored.tokenSequence + 1) with
                | none => raising s (.flush "refresh_tokens_token_hash_key")
                | some created =>
                  ⟨created.revokeRefreshToken env token,
                    .ok (tokenPair env fresh.accessToken fresh.refreshToken)⟩
        | subject =>
          if subject.truthy then raising s (.python "AttributeError")
          else unauthorized s "Invalid token payload"
    | _ => unauthorized s "Invalid token type"

/-! ## Requests -/

inductive AuthOp where
  | login (email password : String) (fresh : Fresh)
  | refresh (token : String) (fresh : Fresh)
  /-- Whatever other requests do to the accounts. -/
  | accounts (users : Table User.id)

def authStep (env : AuthEnvironment) (s : AuthState) : AuthOp → AuthState
  | .login email password fresh => getDb s (Auth.login env email password fresh s)
  | .refresh token fresh => getDb s (Auth.refresh env token fresh s)
  | .accounts users => { s with users := users }

/-- No token yet. -/
def AuthState.empty (users : Table User.id) : AuthState := ⟨users, .empty⟩

/-! ## What a request commits -/

theorem le_getLatestSequence (s : AuthState) {rt : RefreshToken} (member : rt ∈ s.refreshTokens.rows) :
    rt.tokenSequence ≤ s.getLatestSequence rt.tokenFamily := by
  have place : rt.tokenSequence ∈ (s.family rt.tokenFamily).map (·.tokenSequence) :=
    List.mem_map_of_mem (List.mem_filter.mpr ⟨member, decide_eq_true rfl⟩)
  unfold AuthState.getLatestSequence
  cases found : ((s.family rt.tokenFamily).map (·.tokenSequence)).max? with
  | none =>
    rw [List.max?_eq_none_iff] at found
    rw [found] at place
    cases place
  | some latest => exact (List.max?_le_iff found).mp (le_refl latest) _ place

/-- A login commits nothing, or the first token of a family. -/
theorem login_committed (env : AuthEnvironment) (email password : String) (fresh : Fresh)
    (s : AuthState) :
    getDb s (login env email password fresh s) = s ∨
      ∃ rt, rt.tokenFamily = fresh.tokenFamily ∧ rt.tokenSequence = 1 ∧ rt.isRevoked = false ∧
        (getDb s (login env email password fresh s)).refreshTokens.rows =
          s.refreshTokens.rows ++ [rt] := by
  unfold login
  split
  · exact Or.inl rfl
  split
  · exact Or.inl rfl
  split
  · exact Or.inl rfl
  dsimp only
  split
  · exact Or.inl rfl
  · next created inserted =>
    obtain ⟨refreshTokens, success, rfl⟩ := Option.map_eq_some_iff.mp inserted
    exact Or.inr ⟨_, rfl, rfl, rfl, (Table.insert_eq_some success).2⟩

/-- The effect of a rotation: the family gets a next token, and the presented
one is revoked. -/
structure Rotation (s : AuthState) (stored next : RefreshToken) (after : AuthState) : Prop where
  member : stored ∈ s.refreshTokens.rows
  unrevoked : stored.isRevoked = false
  latest : s.getLatestSequence stored.tokenFamily ≤ stored.tokenSequence
  new : next.tokenHash ∉ s.refreshTokens.rows.map (·.tokenHash)
  family : next.tokenFamily = stored.tokenFamily
  sequence : next.tokenSequence = stored.tokenSequence + 1
  fresh : next.isRevoked = false
  rows : after.refreshTokens.rows = (s.refreshTokens.rows ++ [next]).map (fun rt =>
    if rt.tokenHash = stored.tokenHash then { rt with isRevoked := true } else rt)

/-- A refresh commits nothing, or a rotation of the token it presents. In
particular it never commits the revocation of a family. -/
theorem refresh_committed (env : AuthEnvironment) (token : String) (fresh : Fresh) (s : AuthState) :
    getDb s (refresh env token fresh s) = s ∨
      ∃ stored next, stored.tokenHash = env.hashToken token ∧
        Rotation s stored next (getDb s (refresh env token fresh s)) := by
  unfold refresh
  split
  · exact Or.inl rfl
  split
  · split
    · exact Or.inl rfl
    split
    · exact Or.inl rfl
    · next stored found =>
      split
      · exact Or.inl rfl
      · next usable =>
        split
        · split
          · exact Or.inl rfl
          split
          · exact Or.inl rfl
          split
          · exact Or.inl rfl
          split
          · exact Or.inl rfl
          split
          · exact Or.inl rfl
          · next latest =>
            dsimp only
            split
            · exact Or.inl rfl
            · next created inserted =>
              obtain ⟨refreshTokens, success, rfl⟩ := Option.map_eq_some_iff.mp inserted
              obtain ⟨member, hash⟩ := (Table.get?_eq_some_iff _ _ _).mp found
              obtain ⟨new, rows⟩ := Table.insert_eq_some success
              refine Or.inr ⟨stored, _, hash, member, by simpa using usable, not_lt.mp latest, new,
                rfl, rfl, rfl, ?_⟩
              rw [← rows, hash]
              rfl
        · split
          · exact Or.inl rfl
          · exact Or.inl rfl
  · exact Or.inl rfl

/-! ## Every family has a usable newest token -/

/-- An unrevoked token of the family with the largest sequence. -/
def Newest (rows : List RefreshToken) (tokenFamily : Uuid) (rt : RefreshToken) : Prop :=
  rt ∈ rows ∧ rt.tokenFamily = tokenFamily ∧ rt.isRevoked = false ∧
    ∀ other ∈ rows, other.tokenFamily = tokenFamily → other.tokenSequence ≤ rt.tokenSequence

structure FamiliesUsable (s : AuthState) : Prop where
  positive : ∀ rt ∈ s.refreshTokens.rows, 1 ≤ rt.tokenSequence
  newest : ∀ rt ∈ s.refreshTokens.rows, ∃ last, Newest s.refreshTokens.rows rt.tokenFamily last

theorem familiesUsable_login {s after : AuthState} {rt : RefreshToken} (usable : FamiliesUsable s)
    (first : rt.tokenSequence = 1) (unrevoked : rt.isRevoked = false)
    (rows : after.refreshTokens.rows = s.refreshTokens.rows ++ [rt]) : FamiliesUsable after := by
  have extend {tokenFamily : Uuid} {last : RefreshToken}
      (newest : Newest s.refreshTokens.rows tokenFamily last) :
      Newest (s.refreshTokens.rows ++ [rt]) tokenFamily last := by
    obtain ⟨member, family, fresh, largest⟩ := newest
    refine ⟨List.mem_append_left _ member, family, fresh, fun other place same => ?_⟩
    rcases List.mem_append.mp place with old | new
    · exact largest other old same
    · rw [List.mem_singleton.mp new, first]
      exact usable.positive last member
  refine ⟨?_, ?_⟩
  · rw [rows]
    intro other place
    rcases List.mem_append.mp place with old | new
    · exact usable.positive other old
    · rw [List.mem_singleton.mp new, first]
  · rw [rows]
    intro other place
    rcases List.mem_append.mp place with old | new
    · obtain ⟨last, newest⟩ := usable.newest other old
      exact ⟨last, extend newest⟩
    · rw [List.mem_singleton.mp new]
      by_cases known : ∃ old ∈ s.refreshTokens.rows, old.tokenFamily = rt.tokenFamily
      · obtain ⟨old, member, same⟩ := known
        obtain ⟨last, newest⟩ := usable.newest old member
        exact ⟨last, extend (same ▸ newest)⟩
      · refine ⟨rt, List.mem_append_right _ (List.mem_singleton.mpr rfl), rfl, unrevoked, ?_⟩
        intro other place same
        rcases List.mem_append.mp place with old | new
        · exact absurd ⟨other, old, same⟩ known
        · rw [List.mem_singleton.mp new]

theorem familiesUsable_rotation {s after : AuthState} {stored next : RefreshToken}
    (usable : FamiliesUsable s) (rotation : Rotation s stored next after) :
    FamiliesUsable after := by
  obtain ⟨member, unrevoked, latest, new, family, sequence, fresh, rows⟩ := rotation
  have frame (rt : RefreshToken) :
      (if rt.tokenHash = stored.tokenHash then { rt with isRevoked := true } else rt).tokenFamily =
        rt.tokenFamily ∧
      (if rt.tokenHash = stored.tokenHash then { rt with isRevoked := true } else rt).tokenSequence =
        rt.tokenSequence := by
    split <;> exact ⟨rfl, rfl⟩
  have other (rt : RefreshToken) (place : rt ∈ s.refreshTokens.rows)
      (elsewhere : rt.tokenFamily ≠ stored.tokenFamily) : rt.tokenHash ≠ stored.tokenHash := by
    intro same
    exact elsewhere (by rw [Table.eq_of_key place member same])
  have nextKept : next.tokenHash ≠ stored.tokenHash :=
    fun same => new (same ▸ List.mem_map_of_mem member)
  have nextNewest : Newest after.refreshTokens.rows stored.tokenFamily next := by
    rw [rows]
    refine ⟨List.mem_map.mpr ⟨next, by simp, if_neg nextKept⟩, family, fresh, ?_⟩
    refine List.forall_mem_map.mpr (fun rt place same => ?_)
    rw [(frame rt).1] at same
    rw [(frame rt).2, sequence]
    rcases List.mem_append.mp place with old | added
    · have below := le_getLatestSequence s old
      rw [same] at below
      omega
    · rw [List.mem_singleton.mp added, sequence]
  refine ⟨?_, ?_⟩
  · rw [rows]
    refine List.forall_mem_map.mpr (fun rt place => ?_)
    rw [(frame rt).2]
    rcases List.mem_append.mp place with old | added
    · exact usable.positive rt old
    · have := usable.positive stored member
      rw [List.mem_singleton.mp added, sequence]
      omega
  · intro rt place
    by_cases here : rt.tokenFamily = stored.tokenFamily
    · exact ⟨next, here ▸ nextNewest⟩
    · rw [rows] at place
      obtain ⟨before, origin, rfl⟩ := List.mem_map.mp place
      rw [(frame before).1] at here ⊢
      have old : before ∈ s.refreshTokens.rows := by
        rcases List.mem_append.mp origin with old | added
        · exact old
        · rw [List.mem_singleton.mp added] at here
          exact absurd family here
      obtain ⟨last, place, same, kept, largest⟩ := usable.newest before old
      refine ⟨last, ?_, same, kept, ?_⟩
      · rw [rows]
        exact List.mem_map.mpr ⟨last, List.mem_append_left _ place,
          if_neg (other last place (same ▸ here))⟩
      · rw [rows]
        refine List.forall_mem_map.mpr (fun rt place same => ?_)
        rw [(frame rt).1] at same
        rw [(frame rt).2]
        rcases List.mem_append.mp place with old | added
        · exact largest rt old same
        · rw [List.mem_singleton.mp added] at same
          exact absurd (family.symm.trans same) (fun equal => here equal.symm)

theorem familiesUsable_authStep (env : AuthEnvironment) (s : AuthState) (op : AuthOp)
    (usable : FamiliesUsable s) : FamiliesUsable (authStep env s op) := by
  cases op with
  | login email password fresh =>
    rcases login_committed env email password fresh s with same | ⟨rt, _, first, unrevoked, rows⟩
    · rw [authStep, same]
      exact usable
    · exact familiesUsable_login usable first unrevoked rows
  | refresh token fresh =>
    rcases refresh_committed env token fresh s with same | ⟨stored, next, _, rotation⟩
    · rw [authStep, same]
      exact usable
    · exact familiesUsable_rotation usable rotation
  | accounts users => exact ⟨usable.positive, usable.newest⟩

theorem familiesUsable_exec (env : AuthEnvironment) (users : Table User.id) (run : List AuthOp) :
    FamiliesUsable (Run.exec (authStep env) (.empty users) run) := by
  refine Run.exec_invariant (familiesUsable_authStep env) _ run ⟨?_, ?_⟩
  · exact fun _ member => absurd member List.not_mem_nil
  · exact fun _ member => absurd member List.not_mem_nil

end Reliastra.Source.Auth
