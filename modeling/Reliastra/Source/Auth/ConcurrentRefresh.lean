import Reliastra.Library.Interleaving
import Reliastra.Source.Auth.RefreshTokens

/-!
# Refresh requests side by side

`refresh` of `app/modules/auth/service.py` statement by statement. Each request
runs in a READ COMMITTED transaction of its own: a statement reads what is
committed when it runs, nothing of a request is visible before its commit, and
an abort takes everything back. The `UPDATE` of the presented token waits for a
transaction that has updated the row; it names the row by its key and sets a
constant, so the rows committed are those of the order without the wait.
-/

namespace Reliastra.Source.Auth

open Reliastra.Library

structure RefreshRequest where
  token : String
  fresh : Fresh

/-- The statements a request that passed the reuse check has run. -/
inductive WriteProgress where
  | checked | inserted | revoked
  deriving DecidableEq, Repr

/-- What the transaction of a session has read so far. -/
inductive RefreshPhase where
  | idle
  | loaded (request : RefreshRequest) (stored : RefreshToken) (userId : Uuid)
  | identified (request : RefreshRequest) (stored : RefreshToken) (user : User)
  | passed (progress : WriteProgress) (request : RefreshRequest) (stored : RefreshToken)
      (user : User)

inductive RefreshAct where
  | present (request : RefreshRequest)
  | loadUser
  | checkReuse
  | insertSuccessor
  | revokePresented
  | commit
  /-- The request or its worker ends without a commit. -/
  | abort
  | login (email password : String) (fresh : Fresh)
  | logout (token : String)
  /-- Whatever other requests do to the accounts. -/
  | accounts (users : Table User.id)

/-- What is committed, and the hashes of the tokens whose refreshes have
committed a successor, in the order of the commits. -/
structure TokenStore where
  database : AuthState
  redeemed : List String

/-! ## Statements -/

/-- Up to the `SELECT` of the presented token, and the tests of what it returns. -/
def presentToken (env : AuthEnvironment) (request : RefreshRequest) (s : AuthState) :
    RefreshPhase :=
  match env.decodeToken request.token request.fresh.now with
  | .error _ => .idle
  | .ok payload =>
    match payload.get "type" with
    | .str tokenType =>
      if tokenType ≠ "refresh" then .idle
      else match s.getRefreshToken env request.token with
      | none => .idle
      | some stored =>
        if stored.isRevoked then .idle
        else match payload.get "sub" with
        | .str userIdText =>
          if userIdText = "" then .idle
          else match env.uuidOfText userIdText with
          | none => .idle
          | some userId => .loaded request stored userId
        | _ => .idle
    | _ => .idle

/-- The insert and the update of a request, as its commit makes them visible. -/
def redeem (env : AuthEnvironment) (request : RefreshRequest) (stored : RefreshToken) (user : User)
    (s : AuthState) : Option AuthState :=
  let expiresAt := request.fresh.now + daysToMicros env.refreshTokenExpireDays
  (s.createRefreshToken env user.id request.fresh.refreshToken expiresAt stored.tokenFamily
    (stored.tokenSequence + 1)).map (fun created => created.revokeRefreshToken env request.token)

def refreshAct (env : AuthEnvironment) (shared : TokenStore) (phase : RefreshPhase) :
    RefreshAct → TokenStore × RefreshPhase
  | .present request =>
    match phase with
    | .idle => (shared, presentToken env request shared.database)
    | _ => (shared, phase)
  | .loadUser =>
    match phase with
    | .loaded request stored userId =>
      match (shared.database.users.get? userId).filter (·.isActive) with
      | some user => (shared, .identified request stored user)
      | none => (shared, .idle)
    | _ => (shared, phase)
  | .checkReuse =>
    match phase with
    | .identified request stored user =>
      -- on a reuse the revocation of the family is flushed and rolled back
      if stored.tokenSequence < shared.database.getLatestSequence stored.tokenFamily then
        (shared, .idle)
      else (shared, .passed .checked request stored user)
    | _ => (shared, phase)
  | .insertSuccessor =>
    match phase with
    | .passed .checked request stored user =>
      if (redeem env request stored user shared.database).isSome then
        (shared, .passed .inserted request stored user)
      else (shared, .idle)
    | _ => (shared, phase)
  | .revokePresented =>
    match phase with
    | .passed .inserted request stored user => (shared, .passed .revoked request stored user)
    | _ => (shared, phase)
  | .commit =>
    match phase with
    | .passed .revoked request stored user =>
      match redeem env request stored user shared.database with
      | some after => (⟨after, shared.redeemed ++ [stored.tokenHash]⟩, .idle)
      | none => (shared, .idle)
    | _ => (shared, phase)
  | .abort => (shared, .idle)
  | .login email password fresh =>
    ({ shared with database := getDb shared.database (login env email password fresh
        shared.database) }, phase)
  | .logout token =>
    ({ shared with database := shared.database.revokeRefreshToken env token }, phase)
  | .accounts users =>
    ({ shared with database := { shared.database with users := users } }, phase)

/-- A request goes on with the unrevoked row of the token it presents. -/
theorem presentToken_cases (env : AuthEnvironment) (request : RefreshRequest) (s : AuthState) :
    presentToken env request s = .idle ∨ ∃ stored userId,
      presentToken env request s = .loaded request stored userId ∧
        s.getRefreshToken env request.token = some stored := by
  unfold presentToken
  cases env.decodeToken request.token request.fresh.now with
  | error failure => exact Or.inl rfl
  | ok payload =>
    dsimp only
    split
    · split
      · exact Or.inl rfl
      split
      · exact Or.inl rfl
      · next stored found =>
        split
        · exact Or.inl rfl
        split
        · split
          · exact Or.inl rfl
          split
          · exact Or.inl rfl
          · next userId _ => exact Or.inr ⟨stored, userId, rfl, found⟩
        · exact Or.inl rfl
    · exact Or.inl rfl

/-! ## One request alone -/

/-- `refresh` as the sequence of its statements. -/
theorem refresh_eq_statements (env : AuthEnvironment) (request : RefreshRequest) (s : AuthState) :
    getDb s (refresh env request.token request.fresh s) =
      match presentToken env request s with
      | .loaded _ stored userId =>
        match (s.users.get? userId).filter (·.isActive) with
        | some user =>
          if stored.tokenSequence < s.getLatestSequence stored.tokenFamily then s
          else (redeem env request stored user s).getD s
        | none => s
      | _ => s := by
  unfold refresh presentToken
  cases env.decodeToken request.token request.fresh.now with
  | error failure => rfl
  | ok payload =>
    dsimp only
    cases payload.get "type" with
    | str tokenType =>
      dsimp only
      split
      · rfl
      cases s.getRefreshToken env request.token with
      | none => rfl
      | some stored =>
        dsimp only
        split
        · rfl
        cases payload.get "sub" with
        | str userIdText =>
          dsimp only
          split
          · rfl
          cases env.uuidOfText userIdText with
          | none => rfl
          | some userId =>
            dsimp only
            cases s.users.get? userId with
            | none => rfl
            | some user =>
              cases active : user.isActive with
              | false => simp [Option.filter, active]
              | true =>
                simp only [Option.filter, active, not_true_eq_false, if_false, if_true]
                split
                · rfl
                · dsimp only [redeem]
                  cases s.createRefreshToken env user.id request.fresh.refreshToken
                    (request.fresh.now + daysToMicros env.refreshTokenExpireDays)
                    stored.tokenFamily (stored.tokenSequence + 1) with
                  | none => rfl
                  | some created => rfl
        | _ =>
          dsimp only
          split <;> rfl
    | _ => rfl

/-- The statements of a request with nothing in between commit what `refresh` does. -/
theorem refreshAct_alone (env : AuthEnvironment) (request : RefreshRequest) (shared : TokenStore) :
    (Run.exec (fun state action => refreshAct env state.1 state.2 action) (shared, .idle)
      [.present request, .loadUser, .checkReuse, .insertSuccessor, .revokePresented,
        .commit]).1.database =
      getDb shared.database (refresh env request.token request.fresh shared.database) := by
  rw [refresh_eq_statements]
  simp only [Run.exec_cons, Run.exec_nil, refreshAct]
  rcases presentToken_cases env request shared.database with
    refused | ⟨stored, userId, loaded, _⟩
  · simp only [refused]
  · simp only [loaded]
    cases (shared.database.users.get? userId).filter (·.isActive) with
    | none => rfl
    | some user =>
      by_cases reuse :
          stored.tokenSequence < shared.database.getLatestSequence stored.tokenFamily
      · simp only [reuse, if_true]
      · cases redeemed : redeem env request stored user shared.database with
        | none => simp [reuse, redeemed]
        | some after => simp [reuse, redeemed]

/-! ## What statements do to the token table -/

/-- `b` is the row `a` later on: a row is only ever revoked. -/
structure Ages (a b : RefreshToken) : Prop where
  tokenHash : b.tokenHash = a.tokenHash
  tokenFamily : b.tokenFamily = a.tokenFamily
  tokenSequence : b.tokenSequence = a.tokenSequence
  revoked : a.isRevoked = true → b.isRevoked = true

/-- The rows after a transaction that created at most the token `added`. -/
structure Grows (rows after : List RefreshToken) (added : Option RefreshToken) : Prop where
  kept : ∀ a ∈ rows, ∃ b ∈ after, Ages a b
  origin : ∀ b ∈ after, added = some b ∨ ∃ a ∈ rows, Ages a b

theorem Grows.refl (rows : List RefreshToken) : Grows rows rows none := by
  have self (a : RefreshToken) : Ages a a := ⟨rfl, rfl, rfl, id⟩
  exact ⟨fun a member => ⟨a, member, self a⟩, fun b member => Or.inr ⟨b, member, self b⟩⟩

theorem ages_revoke (a : RefreshToken) (tokenHash : String) :
    Ages a (if a.tokenHash = tokenHash then { a with isRevoked := true } else a) := by
  split
  · exact ⟨rfl, rfl, rfl, fun _ => rfl⟩
  · exact ⟨rfl, rfl, rfl, id⟩

theorem grows_revokeRefreshToken (env : AuthEnvironment) (s : AuthState) (token : String) :
    Grows s.refreshTokens.rows (s.revokeRefreshToken env token).refreshTokens.rows none := by
  constructor
  · exact fun a member => ⟨_, List.mem_map_of_mem member, ages_revoke a _⟩
  · intro b member
    obtain ⟨a, origin, rfl⟩ := List.mem_map.mp member
    exact Or.inr ⟨a, origin, ages_revoke a _⟩

theorem grows_append (rows : List RefreshToken) (rt : RefreshToken) :
    Grows rows (rows ++ [rt]) (some rt) := by
  constructor
  · exact fun a member => ⟨a, List.mem_append_left _ member, ⟨rfl, rfl, rfl, id⟩⟩
  · intro b member
    rcases List.mem_append.mp member with old | new
    · exact Or.inr ⟨b, old, ⟨rfl, rfl, rfl, id⟩⟩
    · exact Or.inl (by rw [List.mem_singleton.mp new])

/-- The token a request adds to the family of the one it presents. -/
def successor (env : AuthEnvironment) (request : RefreshRequest) (stored : RefreshToken)
    (user : User) : RefreshToken where
  tokenHash := env.hashToken request.fresh.refreshToken
  userId := user.id
  tokenFamily := stored.tokenFamily
  tokenSequence := stored.tokenSequence + 1
  isRevoked := false
  expiresAt := request.fresh.now + daysToMicros env.refreshTokenExpireDays

/-- The commit of a request adds the successor and revokes the presented token. -/
theorem redeem_grows {env : AuthEnvironment} {request : RefreshRequest} {stored : RefreshToken}
    {user : User} {s after : AuthState} (success : redeem env request stored user s = some after)
    (known : env.hashToken request.token ∈ s.refreshTokens.rows.map (·.tokenHash)) :
    Grows s.refreshTokens.rows after.refreshTokens.rows
        (some (successor env request stored user)) ∧
      successor env request stored user ∈ after.refreshTokens.rows ∧
      ∀ b ∈ after.refreshTokens.rows, b.tokenHash = env.hashToken request.token →
        b.isRevoked = true := by
  obtain ⟨created, creation, rfl⟩ := Option.map_eq_some_iff.mp success
  obtain ⟨refreshTokens, insertion, rfl⟩ := Option.map_eq_some_iff.mp creation
  obtain ⟨new, rows⟩ := Table.insert_eq_some insertion
  have other : (successor env request stored user).tokenHash ≠ env.hashToken request.token :=
    fun same => new (same ▸ known)
  have revoked : (AuthState.revokeRefreshToken { s with refreshTokens := refreshTokens } env
      request.token).refreshTokens.rows =
      (s.refreshTokens.rows ++ [successor env request stored user]).map (fun rt =>
        if rt.tokenHash = env.hashToken request.token then { rt with isRevoked := true }
        else rt) := by
    rw [← show _ = s.refreshTokens.rows ++ [successor env request stored user] from rows]
    rfl
  have added : successor env request stored user ∈ (AuthState.revokeRefreshToken
      { s with refreshTokens := refreshTokens } env request.token).refreshTokens.rows := by
    rw [revoked]
    exact List.mem_map.mpr ⟨_, List.mem_append_right _ (List.mem_singleton.mpr rfl), if_neg other⟩
  refine ⟨⟨?_, ?_⟩, added, ?_⟩
  · intro a member
    rw [revoked]
    exact ⟨_, List.mem_map_of_mem (List.mem_append_left _ member), ages_revoke a _⟩
  · intro b member
    rw [revoked] at member
    obtain ⟨a, place, rfl⟩ := List.mem_map.mp member
    rcases List.mem_append.mp place with old | fresh
    · exact Or.inr ⟨a, old, ages_revoke a _⟩
    · rw [List.mem_singleton.mp fresh, if_neg other]
      exact Or.inl rfl
  · intro b member here
    rw [revoked] at member
    obtain ⟨a, place, rfl⟩ := List.mem_map.mp member
    have there : a.tokenHash = env.hashToken request.token :=
      (ages_revoke a _).tokenHash.symm.trans here
    rw [if_pos there]

/-! ## One redeemable token a family -/

structure OneNewest (shared : TokenStore) : Prop where
  distinct : ∀ a ∈ shared.database.refreshTokens.rows, ∀ b ∈ shared.database.refreshTokens.rows,
    a.tokenFamily = b.tokenFamily → a.tokenSequence = b.tokenSequence → a = b
  newest : ∀ a ∈ shared.database.refreshTokens.rows, a.isRevoked = false →
    ∀ b ∈ shared.database.refreshTokens.rows, b.tokenFamily = a.tokenFamily →
      b.tokenSequence ≤ a.tokenSequence
  once : shared.redeemed.Nodup
  superseded : ∀ hash ∈ shared.redeemed, ∃ a ∈ shared.database.refreshTokens.rows,
    a.tokenHash = hash ∧ ∃ b ∈ shared.database.refreshTokens.rows,
      b.tokenFamily = a.tokenFamily ∧ a.tokenSequence < b.tokenSequence

/-- What `after` may add to a table with one newest token a family: a token
above its family, which then is the only unrevoked one there. -/
structure Tops (rows after : List RefreshToken) (new : RefreshToken) : Prop where
  above : ∀ a ∈ rows, a.tokenFamily = new.tokenFamily → a.tokenSequence < new.tokenSequence
  only : ∀ b ∈ after, b.isRevoked = false → b.tokenFamily = new.tokenFamily → b = new

theorem OneNewest.grows {shared after : TokenStore} {added : Option RefreshToken}
    (holds : OneNewest shared) (same : after.redeemed = shared.redeemed)
    (grows : Grows shared.database.refreshTokens.rows after.database.refreshTokens.rows added)
    (tops : ∀ new ∈ added, Tops shared.database.refreshTokens.rows
      after.database.refreshTokens.rows new) : OneNewest after := by
  have unique : ∀ a ∈ after.database.refreshTokens.rows,
      ∀ b ∈ after.database.refreshTokens.rows, a.tokenHash = b.tokenHash → a = b :=
    fun a here b there equal => Table.eq_of_key here there equal
  refine ⟨?_, ?_, ?_, ?_⟩
  · intro a here b there family sequence
    rcases grows.origin a here with fresh | ⟨a', old, ages⟩
    · rcases grows.origin b there with fresh' | ⟨b', old', ages'⟩
      · exact Option.some.inj (fresh.symm.trans fresh')
      · have above := (tops a fresh).above b' old' (by rw [← ages'.tokenFamily, ← family])
        rw [← ages'.tokenSequence, ← sequence] at above
        omega
    · rcases grows.origin b there with fresh' | ⟨b', old', ages'⟩
      · have above := (tops b fresh').above a' old (by rw [← ages.tokenFamily, family])
        rw [← ages.tokenSequence, sequence] at above
        omega
      · apply unique a here b there
        rw [ages.tokenHash, ages'.tokenHash, holds.distinct a' old b' old'
          (by rw [← ages.tokenFamily, family, ages'.tokenFamily])
          (by rw [← ages.tokenSequence, sequence, ages'.tokenSequence])]
  · intro a here unrevoked b there family
    rcases grows.origin b there with fresh | ⟨b', old', ages'⟩
    · rw [(tops b fresh).only a here unrevoked family.symm]
    · rcases grows.origin a here with fresh | ⟨a', old, ages⟩
      · have above := (tops a fresh).above b' old' (by rw [← ages'.tokenFamily, family])
        rw [← ages'.tokenSequence] at above
        omega
      · have unrevoked' : a'.isRevoked = false := by
          cases revoked : a'.isRevoked with
          | false => rfl
          | true =>
            rw [ages.revoked revoked] at unrevoked
            cases unrevoked
        rw [ages'.tokenSequence, ages.tokenSequence]
        exact holds.newest a' old unrevoked' b' old'
          (by rw [← ages'.tokenFamily, family, ages.tokenFamily])
  · rw [same]
    exact holds.once
  · intro hash member
    rw [same] at member
    obtain ⟨a, old, rfl, b, old', family, larger⟩ := holds.superseded hash member
    obtain ⟨a', here, ages⟩ := grows.kept a old
    obtain ⟨b', there, ages'⟩ := grows.kept b old'
    refine ⟨a', here, ages.tokenHash, b', there, ?_, ?_⟩
    · rw [ages'.tokenFamily, family, ages.tokenFamily]
    · rw [ages.tokenSequence, ages'.tokenSequence]
      exact larger

/-! ## Requests on their way -/

/-- The token a request past the reuse check is about to redeem. -/
def RefreshPhase.redeeming : RefreshPhase → Option RefreshToken
  | .passed _ _ stored _ => some stored
  | _ => none

/-- The row a request has read is still there, with its place in its family. -/
def Stands (env : AuthEnvironment) (rows : List RefreshToken) (request : RefreshRequest)
    (stored : RefreshToken) : Prop :=
  stored.tokenHash = env.hashToken request.token ∧ ∃ a ∈ rows, a.tokenHash = stored.tokenHash ∧
    a.tokenFamily = stored.tokenFamily ∧ a.tokenSequence = stored.tokenSequence

def PhaseHolds (env : AuthEnvironment) (shared : TokenStore) : RefreshPhase → Prop
  | .idle => True
  | .loaded request stored _ | .identified request stored _ =>
    Stands env shared.database.refreshTokens.rows request stored
  | .passed _ request stored _ =>
    Stands env shared.database.refreshTokens.rows request stored ∧
      ∀ b ∈ shared.database.refreshTokens.rows, b.tokenFamily = stored.tokenFamily →
        b.tokenSequence ≤ stored.tokenSequence

def Apart (a b : RefreshPhase) : Prop :=
  ∀ x ∈ a.redeeming, ∀ y ∈ b.redeeming, x.tokenHash ≠ y.tokenHash

theorem Stands.grows {env : AuthEnvironment} {rows after : List RefreshToken}
    {added : Option RefreshToken} {request : RefreshRequest} {stored : RefreshToken}
    (stands : Stands env rows request stored) (grows : Grows rows after added) :
    Stands env after request stored := by
  obtain ⟨hash, a, member, same, family, sequence⟩ := stands
  obtain ⟨b, there, ages⟩ := grows.kept a member
  exact ⟨hash, b, there, ages.tokenHash.trans same, ages.tokenFamily.trans family,
    ages.tokenSequence.trans sequence⟩

theorem PhaseHolds.redeeming {env : AuthEnvironment} {shared : TokenStore} {phase : RefreshPhase}
    {stored : RefreshToken} (holds : PhaseHolds env shared phase)
    (under : stored ∈ phase.redeeming) :
    (∃ a ∈ shared.database.refreshTokens.rows, a.tokenHash = stored.tokenHash ∧
      a.tokenFamily = stored.tokenFamily ∧ a.tokenSequence = stored.tokenSequence) ∧
    ∀ b ∈ shared.database.refreshTokens.rows, b.tokenFamily = stored.tokenFamily →
      b.tokenSequence ≤ stored.tokenSequence := by
  cases phase with
  | passed progress request stored' user =>
    cases under
    exact ⟨holds.1.2, holds.2⟩
  | _ => cases under

/-- A request keeps its footing while no token is added to the family it is
about to redeem a token of. -/
theorem PhaseHolds.grows {env : AuthEnvironment} {shared after : TokenStore}
    {added : Option RefreshToken} {phase : RefreshPhase} (holds : PhaseHolds env shared phase)
    (grows : Grows shared.database.refreshTokens.rows after.database.refreshTokens.rows added)
    (elsewhere : ∀ new ∈ added, ∀ stored ∈ phase.redeeming,
      new.tokenFamily ≠ stored.tokenFamily) : PhaseHolds env after phase := by
  cases phase with
  | idle => trivial
  | loaded request stored userId => exact Stands.grows holds grows
  | identified request stored user => exact Stands.grows holds grows
  | passed progress request stored user =>
    refine ⟨Stands.grows holds.1 grows, ?_⟩
    intro b there family
    rcases grows.origin b there with fresh | ⟨a, old, ages⟩
    · exact absurd family (elsewhere b fresh stored rfl)
    · rw [ages.tokenSequence]
      exact holds.2 a old (ages.tokenFamily.symm.trans family)

/-- The commit of a request that has the newest token of its family. -/
theorem OneNewest.redeem {env : AuthEnvironment} {shared : TokenStore} {request : RefreshRequest}
    {stored : RefreshToken} {user : User} {after : AuthState} (holds : OneNewest shared)
    (stands : Stands env shared.database.refreshTokens.rows request stored)
    (newest : ∀ b ∈ shared.database.refreshTokens.rows, b.tokenFamily = stored.tokenFamily →
      b.tokenSequence ≤ stored.tokenSequence)
    (success : redeem env request stored user shared.database = some after) :
    OneNewest ⟨after, shared.redeemed ++ [stored.tokenHash]⟩ := by
  obtain ⟨hash, presented, member, here, family, sequence⟩ := stands
  have known : env.hashToken request.token ∈
      shared.database.refreshTokens.rows.map (·.tokenHash) :=
    List.mem_map.mpr ⟨presented, member, here.trans hash⟩
  obtain ⟨grows, added, revoked⟩ := redeem_grows success known
  have tops : Tops shared.database.refreshTokens.rows after.refreshTokens.rows
      (successor env request stored user) := by
    constructor
    · intro a old same
      exact Int.lt_add_one_of_le (newest a old same)
    · intro b there unrevoked same
      rcases grows.origin b there with fresh | ⟨a, old, ages⟩
      · exact (Option.some.inj fresh).symm
      · exfalso
        -- an unrevoked old token of the family is the presented one
        have unrevoked' : a.isRevoked = false := by
          by_contra other
          rw [ages.revoked (by simpa using other)] at unrevoked
          cases unrevoked
        have same' : a.tokenFamily = stored.tokenFamily := ages.tokenFamily.symm.trans same
        have below := newest a old same'
        have above := holds.newest a old unrevoked' presented member (family.trans same'.symm)
        have equal : a = presented :=
          holds.distinct a old presented member (same'.trans family.symm) (by omega)
        rw [revoked b there (by rw [ages.tokenHash, equal, here, hash])] at unrevoked
        cases unrevoked
  have grown : OneNewest ⟨after, shared.redeemed⟩ :=
    holds.grows rfl grows (by rintro new ⟨⟩; exact tops)
  have unredeemed : stored.tokenHash ∉ shared.redeemed := by
    intro already
    obtain ⟨a, old, same, b, there, family', larger⟩ := holds.superseded _ already
    have equal : a = presented := Table.eq_of_key old member (same.trans here.symm)
    rw [equal] at family' larger
    have below := newest b there (family'.trans family)
    omega
  refine ⟨grown.distinct, grown.newest, ?_, ?_⟩
  · exact List.nodup_append.mpr ⟨holds.once, List.nodup_singleton _, by
      intro a left b right equal
      rw [List.mem_singleton] at right
      exact unredeemed (by rw [← right, ← equal]; exact left)⟩
  · intro hash' listed
    rcases List.mem_append.mp listed with old | new
    · exact grown.superseded hash' old
    · rw [List.mem_singleton.mp new]
      obtain ⟨a, there, ages⟩ := grows.kept presented member
      refine ⟨a, there, ages.tokenHash.trans here, _, added, ?_, ?_⟩
      · exact (ages.tokenFamily.trans family).symm
      · rw [ages.tokenSequence, sequence]
        exact Int.lt_succ _

end Reliastra.Source.Auth
