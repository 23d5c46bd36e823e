import Reliastra.Guarantees.TokenFamilies
import Reliastra.Source.Auth.ConcurrentCredentials

/-!
# Does a password reset end the sessions, and is its token used once?

`reset_password` writes the password and no refresh token, and a token is read
without a lock before it is marked. `resets_hold` says what a run has to leave
out: a reset while the user has a refresh token that can still be exchanged, and
two requests for one token side by side.
-/

namespace Reliastra.Guarantees.PasswordResets

open Reliastra.Library Source Source.Auth

/-! ## The property -/

/-- No refresh token issued before a reset is exchanged after it. -/
def SessionsEnded (s : CredentialStore) : Prop :=
  ∀ reset ∈ s.resets, ∀ tokenHash ∈ reset.issued,
    tokenHash ∉ s.sessions.redeemed.drop reset.exchanges

/-- No e-mailed token has two requests that succeeded. -/
def SpentOnce (s : CredentialStore) : Prop := ∀ kind, (s.spent kind).Nodup

variable {ι : Type}

abbrev Requests (ι : Type) := World CredentialStore ι CredentialPhase

def requestAct (env : CredentialServices) (_ : ι) (shared : CredentialStore)
    (phase : CredentialPhase) (action : CredentialAct) : CredentialStore × CredentialPhase :=
  credentialAct env shared phase action

/-- No token yet, and no request under way. -/
def opening (users : Table User.id) : Requests ι :=
  ⟨⟨⟨.empty users, []⟩, fun _ => false, fun _ => .empty, fun _ => [], []⟩,
    fun _ => .refreshing .idle⟩

/-! ## The condition -/

/-- The refresh token a request is about to exchange. -/
def exchanging : CredentialPhase → Option RefreshToken
  | .refreshing (.loaded _ stored _) => some stored
  | .refreshing (.identified _ stored _) => some stored
  | .refreshing (.passed _ _ stored _) => some stored
  | _ => none

/-- The e-mailed token a request is about to redeem. -/
def redeeming : CredentialPhase → Option (OneTimeKind × String)
  | .presented redemption stored => some (redemption.kind, stored.tokenHash)
  | .marked redemption stored _ => some (redemption.kind, stored.tokenHash)
  | .refreshing _ => none

/-- A refresh token that is revoked or has a successor. -/
def Exhausted (rows : List RefreshToken) (rt : RefreshToken) : Prop :=
  rt.isRevoked = true ∨ ∃ newer ∈ rows, newer.tokenFamily = rt.tokenFamily ∧
    rt.tokenSequence < newer.tokenSequence

/-- A reset finds no refresh token of its user that can still be exchanged, and a
request presents no token that another one is about to redeem. -/
def Quiet (env : CredentialServices) (w : Requests ι) (move : ι × CredentialAct) : Prop :=
  match move.2 with
  | .commit => ∀ newPassword stored user,
    w.locals move.1 = .marked (.resetPassword newPassword) stored user →
    ∀ rt ∈ w.shared.refreshTokens, rt.userId = stored.userId →
      Exhausted w.shared.refreshTokens rt ∧
        ∀ j, ∀ held ∈ exchanging (w.locals j), held.tokenHash ≠ rt.tokenHash
  | .present redemption token _ => ∀ j, j ≠ move.1 →
    (redemption.kind, env.auth.hashToken token) ∉ redeeming (w.locals j)
  | _ => True

/-! ## Refresh requests -/

/-- The rows are kept, and only ever revoked. -/
def Kept (rows after : List RefreshToken) : Prop := ∀ a ∈ rows, ∃ b ∈ after, Ages a b

theorem Kept.refl (rows : List RefreshToken) : Kept rows rows :=
  fun a member => ⟨a, member, rfl, rfl, rfl, id⟩

theorem kept_append {rows more : List RefreshToken} : Kept rows (rows ++ more) :=
  fun a member => ⟨a, List.mem_append_left _ member, rfl, rfl, rfl, id⟩

theorem kept_login (env : AuthEnvironment) (email password : String) (fresh : Fresh)
    (s : AuthState) : Kept s.refreshTokens.rows
      (getDb s (login env email password fresh s)).refreshTokens.rows := by
  rcases login_committed env email password fresh s with same | ⟨rt, _, _, _, rows⟩
  · rw [same]
    exact Kept.refl _
  · rw [rows]
    exact kept_append

theorem kept_redeem {env : AuthEnvironment} {request : RefreshRequest} {stored : RefreshToken}
    {user : User} {s after : AuthState}
    (success : redeem env request stored user s = some after) :
    Kept s.refreshTokens.rows after.refreshTokens.rows := by
  obtain ⟨created, creation, rfl⟩ := Option.map_eq_some_iff.mp success
  obtain ⟨refreshTokens, insertion, rfl⟩ := Option.map_eq_some_iff.mp creation
  intro a member
  have still : a ∈ refreshTokens.rows := by
    rw [(Table.insert_eq_some insertion).2]
    exact List.mem_append_left _ member
  exact ⟨_, List.mem_map_of_mem still, ages_revoke a _⟩

theorem presentToken_unrevoked {env : AuthEnvironment} {request request' : RefreshRequest}
    {s : AuthState} {stored : RefreshToken} {userId : Uuid}
    (loaded : presentToken env request s = .loaded request' stored userId) :
    stored.isRevoked = false := by
  unfold presentToken at loaded
  split at loaded
  · cases loaded
  split at loaded
  · split at loaded
    · cases loaded
    split at loaded
    · cases loaded
    split at loaded
    · cases loaded
    next unrevoked =>
    split at loaded
    · split at loaded
      · cases loaded
      split at loaded
      · cases loaded
      · cases loaded
        simpa using unrevoked
    · cases loaded
  · cases loaded

/-- A statement of a refresh request keeps the rows, and the commit of one past
its checks is the only exchange. -/
theorem refreshAct_effect (env : AuthEnvironment) (shared : TokenStore) (phase : RefreshPhase)
    (action : RefreshAct) :
    Kept shared.database.refreshTokens.rows
        (refreshAct env shared phase action).1.database.refreshTokens.rows ∧
      ((refreshAct env shared phase action).1.redeemed = shared.redeemed ∨
        ∃ progress request stored user, phase = .passed progress request stored user ∧
          (refreshAct env shared phase action).1.redeemed =
            shared.redeemed ++ [stored.tokenHash]) := by
  cases action with
  | present request =>
    cases phase <;> exact ⟨Kept.refl _, .inl rfl⟩
  | loadUser =>
    cases phase with
    | loaded request stored userId =>
      simp only [refreshAct]
      split <;> exact ⟨Kept.refl _, .inl rfl⟩
    | _ => exact ⟨Kept.refl _, .inl rfl⟩
  | checkReuse =>
    cases phase with
    | identified request stored user =>
      simp only [refreshAct]
      split <;> exact ⟨Kept.refl _, .inl rfl⟩
    | _ => exact ⟨Kept.refl _, .inl rfl⟩
  | insertSuccessor =>
    cases phase with
    | passed progress request stored user =>
      cases progress with
      | checked =>
        simp only [refreshAct]
        split <;> exact ⟨Kept.refl _, .inl rfl⟩
      | _ => exact ⟨Kept.refl _, .inl rfl⟩
    | _ => exact ⟨Kept.refl _, .inl rfl⟩
  | revokePresented =>
    cases phase with
    | passed progress request stored user =>
      cases progress <;> exact ⟨Kept.refl _, .inl rfl⟩
    | _ => exact ⟨Kept.refl _, .inl rfl⟩
  | commit =>
    cases phase with
    | passed progress request stored user =>
      cases progress with
      | revoked =>
        simp only [refreshAct]
        split
        · next after success =>
          exact ⟨kept_redeem success, .inr ⟨.revoked, request, stored, user, rfl, rfl⟩⟩
        · exact ⟨Kept.refl _, .inl rfl⟩
      | _ => exact ⟨Kept.refl _, .inl rfl⟩
    | _ => exact ⟨Kept.refl _, .inl rfl⟩
  | abort => exact ⟨Kept.refl _, .inl rfl⟩
  | login email password fresh => exact ⟨kept_login env email password fresh _, .inl rfl⟩
  | logout token => exact ⟨(grows_revokeRefreshToken env _ token).kept, .inl rfl⟩
  | accounts users => exact ⟨Kept.refl _, .inl rfl⟩

/-! ## The invariant -/

/-- A refresh token that was issued before a reset of its user. -/
def Ended (s : CredentialStore) (tokenHash : String) : Prop :=
  ∃ reset ∈ s.resets, tokenHash ∈ reset.issued

/-- Such a token has a row that is exhausted. -/
structure StoreHolds (s : CredentialStore) : Prop where
  exhausted : ∀ tokenHash, Ended s tokenHash → ∃ rt ∈ s.refreshTokens,
    rt.tokenHash = tokenHash ∧ Exhausted s.refreshTokens rt
  ended : SessionsEnded s
  counted : ∀ reset ∈ s.resets, reset.exchanges ≤ s.sessions.redeemed.length
  spentOnce : SpentOnce s
  used : ∀ kind, ∀ tokenHash ∈ s.spent kind, ∃ token ∈ (s.oneTimeTokens kind).rows,
    token.tokenHash = tokenHash ∧ token.isUsed = true

/-- A token under exchange that was issued before a reset will fail the reuse check. -/
def Superseded (s : CredentialStore) (stored : RefreshToken) : Prop :=
  Ended s stored.tokenHash → ∃ newer ∈ s.refreshTokens,
    newer.tokenFamily = stored.tokenFamily ∧ stored.tokenSequence < newer.tokenSequence

/-- A token a request has found unused is still there, and was not redeemed since. -/
def Redeemable (s : CredentialStore) (kind : OneTimeKind) (stored : OneTimeToken) : Prop :=
  stored.tokenHash ∉ s.spent kind ∧
    ∃ token ∈ (s.oneTimeTokens kind).rows, token.tokenHash = stored.tokenHash

def PhaseHolds (s : CredentialStore) : CredentialPhase → Prop
  | .refreshing .idle => True
  | .refreshing (.loaded _ stored _) | .refreshing (.identified _ stored _) => Superseded s stored
  | .refreshing (.passed _ _ stored _) => ¬ Ended s stored.tokenHash
  | .presented redemption stored | .marked redemption stored _ =>
    Redeemable s redemption.kind stored

def Apart (a b : CredentialPhase) : Prop := ∀ token ∈ redeeming a, token ∉ redeeming b

theorem apart_symm (a b : CredentialPhase) (apart : Apart a b) : Apart b a :=
  fun token theirs mine => apart token mine theirs

theorem apart_of_not_redeeming {a b : CredentialPhase} (none : redeeming a = none) :
    Apart a b := by
  intro token mine
  rw [none] at mine
  cases mine

/-! ## What one step may change -/

/-- Rows are kept and no reset is recorded. -/
structure Later (s after : CredentialStore) : Prop where
  refreshTokens : Kept s.refreshTokens after.refreshTokens
  oneTimeTokens : ∀ kind, ∀ a ∈ (s.oneTimeTokens kind).rows,
    ∃ b ∈ (after.oneTimeTokens kind).rows, Wears a b
  spent : after.spent = s.spent
  resets : after.resets = s.resets

theorem Later.of_tokens {s after : CredentialStore}
    (refreshTokens : Kept s.refreshTokens after.refreshTokens)
    (same : after.oneTimeTokens = s.oneTimeTokens) (spent : after.spent = s.spent)
    (resets : after.resets = s.resets) : Later s after := by
  refine ⟨refreshTokens, ?_, spent, resets⟩
  intro kind a member
  rw [same]
  exact ⟨a, member, Wears.refl a⟩

theorem Exhausted.kept {rows after : List RefreshToken} (kept : Kept rows after)
    {a b : RefreshToken} (exhausted : Exhausted rows a) (ages : Ages a b) :
    Exhausted after b := by
  rcases exhausted with revoked | ⟨newer, member, family, larger⟩
  · exact .inl (ages.revoked revoked)
  · obtain ⟨newer', there, ages'⟩ := kept newer member
    refine .inr ⟨newer', there, ?_, ?_⟩
    · rw [ages'.tokenFamily, ages.tokenFamily]
      exact family
    · rw [ages'.tokenSequence, ages.tokenSequence]
      exact larger

variable {env : CredentialServices} {s after : CredentialStore}

theorem Later.ended (later : Later s after) (tokenHash : String) :
    Ended after tokenHash ↔ Ended s tokenHash := by
  unfold Ended
  rw [later.resets]

theorem Superseded.kept {stored : RefreshToken} (superseded : Superseded s stored)
    (kept : Kept s.refreshTokens after.refreshTokens) (ended : Ended s stored.tokenHash) :
    ∃ newer ∈ after.refreshTokens,
      newer.tokenFamily = stored.tokenFamily ∧ stored.tokenSequence < newer.tokenSequence := by
  obtain ⟨newer, member, family, larger⟩ := superseded ended
  obtain ⟨newer', there, ages⟩ := kept newer member
  refine ⟨newer', there, ages.tokenFamily.trans family, ?_⟩
  rw [ages.tokenSequence]
  exact larger

theorem Later.phaseHolds (later : Later s after) {phase : CredentialPhase}
    (holds : PhaseHolds s phase) : PhaseHolds after phase := by
  have redeemable {kind : OneTimeKind} {stored : OneTimeToken}
      (old : Redeemable s kind stored) : Redeemable after kind stored := by
    obtain ⟨unspent, token, member, here⟩ := old
    obtain ⟨token', there, wears⟩ := later.oneTimeTokens kind token member
    refine ⟨?_, token', there, wears.tokenHash.trans here⟩
    rw [later.spent]
    exact unspent
  have superseded {stored : RefreshToken} (old : Superseded s stored) :
      Superseded after stored := by
    intro ended
    rw [later.ended] at ended
    exact old.kept later.refreshTokens ended
  cases phase with
  | refreshing phase =>
    cases phase with
    | idle => trivial
    | loaded request stored userId => exact superseded holds
    | identified request stored user => exact superseded holds
    | passed progress request stored user =>
      intro ended
      rw [later.ended] at ended
      exact holds ended
  | presented redemption stored => exact redeemable holds
  | marked redemption stored user => exact redeemable holds

/-- An exchange of a token that no reset has ended. -/
theorem StoreHolds.later (holds : StoreHolds s) (later : Later s after)
    (exchange : after.sessions.redeemed = s.sessions.redeemed ∨
      ∃ tokenHash, ¬ Ended s tokenHash ∧
        after.sessions.redeemed = s.sessions.redeemed ++ [tokenHash]) : StoreHolds after := by
  constructor
  · intro tokenHash ended
    rw [later.ended] at ended
    obtain ⟨rt, member, here, exhausted⟩ := holds.exhausted tokenHash ended
    obtain ⟨rt', there, ages⟩ := later.refreshTokens rt member
    exact ⟨rt', there, ages.tokenHash.trans here, exhausted.kept later.refreshTokens ages⟩
  · intro reset recorded tokenHash issued
    rw [later.resets] at recorded
    rcases exchange with same | ⟨exchanged, lives, grown⟩
    · rw [same]
      exact holds.ended reset recorded tokenHash issued
    · rw [grown, List.drop_append_of_le_length (holds.counted reset recorded)]
      intro member
      rcases List.mem_append.mp member with old | new
      · exact holds.ended reset recorded tokenHash issued old
      · rw [List.mem_singleton.mp new] at issued
        exact lives ⟨reset, recorded, issued⟩
  · intro reset recorded
    rw [later.resets] at recorded
    have bound := holds.counted reset recorded
    rcases exchange with same | ⟨exchanged, _, grown⟩
    · rw [same]
      exact bound
    · rw [grown, List.length_append]
      omega
  · intro kind
    rw [later.spent]
    exact holds.spentOnce kind
  · intro kind tokenHash member
    rw [later.spent] at member
    obtain ⟨token, place, here, used⟩ := holds.used kind tokenHash member
    obtain ⟨token', there, wears⟩ := later.oneTimeTokens kind token place
    exact ⟨token', there, wears.tokenHash.trans here, wears.used used⟩

/-! ## Refresh requests under the invariant -/

/-- What a refresh request has read keeps it from exchanging an ended token. -/
theorem refreshAct_phaseHolds (holds : StoreHolds s) {phase : RefreshPhase}
    (own : PhaseHolds s (.refreshing phase)) (action : RefreshAct) :
    PhaseHolds s (.refreshing (refreshAct env.auth s.sessions phase action).2) := by
  cases action with
  | present request =>
    cases phase with
    | idle =>
      simp only [refreshAct]
      rcases presentToken_cases env.auth request s.sessions.database with
        refused | ⟨stored, userId, loaded, found⟩
      · rw [refused]
        trivial
      · rw [loaded]
        intro ended
        obtain ⟨place, _⟩ := (Table.get?_eq_some_iff _ _ _).mp found
        obtain ⟨rt, member, here, revoked | newer⟩ := holds.exhausted _ ended
        · rw [Table.eq_of_key member place here, presentToken_unrevoked loaded] at revoked
          cases revoked
        · rw [Table.eq_of_key member place here] at newer
          exact newer
    | _ => exact own
  | loadUser =>
    cases phase with
    | loaded request stored userId =>
      simp only [refreshAct]
      split
      · exact own
      · trivial
    | _ => exact own
  | checkReuse =>
    cases phase with
    | identified request stored user =>
      simp only [refreshAct]
      split
      · trivial
      · next latest =>
        intro ended
        obtain ⟨newer, member, family, larger⟩ := own ended
        have below := le_getLatestSequence s.sessions.database member
        rw [family] at below
        omega
    | _ => exact own
  | insertSuccessor =>
    cases phase with
    | passed progress request stored user =>
      cases progress with
      | checked =>
        simp only [refreshAct]
        split
        · exact own
        · trivial
      | _ => exact own
    | _ => exact own
  | revokePresented =>
    cases phase with
    | passed progress request stored user => cases progress <;> exact own
    | _ => exact own
  | commit =>
    cases phase with
    | passed progress request stored user =>
      cases progress with
      | revoked =>
        simp only [refreshAct]
        split <;> trivial
      | _ => exact own
    | _ => exact own
  | abort => trivial
  | login => exact own
  | logout => exact own
  | accounts => exact own

theorem later_refresh (env : CredentialServices) (s : CredentialStore) (phase : RefreshPhase)
    (action : RefreshAct) :
    Later s { s with sessions := (refreshAct env.auth s.sessions phase action).1 } :=
  Later.of_tokens (refreshAct_effect env.auth s.sessions phase action).1 rfl rfl rfl

/-! ## Redemptions under the invariant -/

theorem wears_spend (kind k : OneTimeKind) (tokenHash : String) {a : OneTimeToken}
    (member : a ∈ (s.oneTimeTokens k).rows) :
    ∃ b ∈ ((s.spend kind tokenHash).oneTimeTokens k).rows, Wears a b := by
  by_cases same : k = kind
  · subst same
    have tokens : (s.spend k tokenHash).oneTimeTokens k = markUsed tokenHash (s.oneTimeTokens k) :=
      if_pos rfl
    rw [tokens]
    exact wears_markUsed tokenHash member
  · have tokens : (s.spend kind tokenHash).oneTimeTokens k = s.oneTimeTokens k := if_neg same
    rw [tokens]
    exact ⟨a, member, Wears.refl a⟩

theorem spent_spend (kind k : OneTimeKind) (tokenHash : String) :
    (s.spend kind tokenHash).spent k =
      if k = kind then s.spent kind ++ [tokenHash] else s.spent k := rfl

theorem StoreHolds.spend (holds : StoreHolds s) {kind : OneTimeKind} {stored : OneTimeToken}
    (redeemable : Redeemable s kind stored) : StoreHolds (s.spend kind stored.tokenHash) := by
  obtain ⟨unspent, token, member, here⟩ := redeemable
  refine ⟨holds.exhausted, holds.ended, holds.counted, ?_, ?_⟩
  · intro k
    rw [spent_spend]
    split
    · apply List.nodup_append.mpr
      refine ⟨holds.spentOnce kind, List.nodup_singleton _, ?_⟩
      intro a old b new same
      rw [List.mem_singleton.mp new] at same
      exact unspent (same ▸ old)
    · exact holds.spentOnce k
  · intro k tokenHash listed
    have kept {token : OneTimeToken} (place : token ∈ (s.oneTimeTokens k).rows)
        (here : token.tokenHash = tokenHash) (used : token.isUsed = true) :
        ∃ b ∈ ((s.spend kind stored.tokenHash).oneTimeTokens k).rows,
          b.tokenHash = tokenHash ∧ b.isUsed = true := by
      obtain ⟨b, there, wears⟩ := wears_spend kind k stored.tokenHash place
      exact ⟨b, there, wears.tokenHash.trans here, wears.used used⟩
    have old (listed : tokenHash ∈ s.spent k) :
        ∃ b ∈ ((s.spend kind stored.tokenHash).oneTimeTokens k).rows,
          b.tokenHash = tokenHash ∧ b.isUsed = true := by
      obtain ⟨token, place, here, used⟩ := holds.used k tokenHash listed
      exact kept place here used
    rw [spent_spend] at listed
    split at listed
    · next same =>
      subst same
      rcases List.mem_append.mp listed with before | new
      · exact old before
      · obtain ⟨b, there, wears⟩ := wears_markUsed stored.tokenHash member
        have tokens : (s.spend k stored.tokenHash).oneTimeTokens k =
            markUsed stored.tokenHash (s.oneTimeTokens k) := if_pos rfl
        rw [tokens, List.mem_singleton.mp new]
        exact ⟨b, there, wears.tokenHash.trans here,
          markUsed_used there (wears.tokenHash.trans here)⟩
    · exact old listed

/-- The other requests redeem other tokens. -/
theorem PhaseHolds.spend {kind : OneTimeKind} {tokenHash : String} {phase : CredentialPhase}
    (holds : PhaseHolds s phase) (apart : (kind, tokenHash) ∉ redeeming phase) :
    PhaseHolds (s.spend kind tokenHash) phase := by
  have redeemable {k : OneTimeKind} {stored : OneTimeToken} (old : Redeemable s k stored)
      (other : (kind, tokenHash) ≠ (k, stored.tokenHash)) :
      Redeemable (s.spend kind tokenHash) k stored := by
    obtain ⟨unspent, token, member, here⟩ := old
    obtain ⟨b, there, wears⟩ := wears_spend kind k tokenHash member
    refine ⟨?_, b, there, wears.tokenHash.trans here⟩
    rw [spent_spend]
    split
    · next same =>
      intro listed
      rcases List.mem_append.mp listed with before | new
      · exact unspent (same ▸ before)
      · exact other (by rw [same, List.mem_singleton.mp new])
    · exact unspent
  cases phase with
  | refreshing phase => cases phase <;> exact holds
  | presented redemption stored => exact redeemable holds (fun same => apart (same ▸ rfl))
  | marked redemption stored user => exact redeemable holds (fun same => apart (same ▸ rfl))

theorem later_applyRedemption (env : CredentialServices) (user : Option User)
    (redemption : Redemption) : Later s (applyRedemption env user s redemption) := by
  have same : (applyRedemption env user s redemption).refreshTokens = s.refreshTokens ∧
      (applyRedemption env user s redemption).oneTimeTokens = s.oneTimeTokens ∧
      (applyRedemption env user s redemption).spent = s.spent ∧
      (applyRedemption env user s redemption).resets = s.resets := by
    cases redemption <;> cases user <;> exact ⟨rfl, rfl, rfl, rfl⟩
  obtain ⟨refreshTokens, oneTimeTokens, spent, resets⟩ := same
  exact Later.of_tokens (by rw [refreshTokens]; exact Kept.refl _) oneTimeTokens spent resets

theorem applyRedemption_sessions (env : CredentialServices) (user : Option User)
    (redemption : Redemption) :
    (applyRedemption env user s redemption).sessions.redeemed = s.sessions.redeemed ∧
      (applyRedemption env user s redemption).refreshTokens = s.refreshTokens := by
  cases redemption <;> cases user <;> exact ⟨rfl, rfl⟩

/-- What a reset has to find for the record of it to hold. -/
def AllExhausted (s : CredentialStore) (userId : Uuid) : Prop :=
  ∀ rt ∈ s.refreshTokens, rt.userId = userId → Exhausted s.refreshTokens rt

theorem mem_issuedTo {userId : Uuid} {tokenHash : String} :
    tokenHash ∈ s.issuedTo userId ↔
      ∃ rt ∈ s.refreshTokens, rt.userId = userId ∧ rt.tokenHash = tokenHash := by
  simp [CredentialStore.issuedTo, and_assoc]

theorem ended_recordReset {stored : OneTimeToken} {redemption : Redemption}
    {tokenHash : String} (ended : Ended (recordReset stored s redemption) tokenHash) :
    Ended s tokenHash ∨
      (∃ newPassword, redemption = .resetPassword newPassword) ∧
        tokenHash ∈ s.issuedTo stored.userId := by
  cases redemption with
  | verifyEmail => exact .inl ended
  | resetPassword newPassword =>
    obtain ⟨reset, recorded, issued⟩ := ended
    rcases List.mem_append.mp recorded with old | new
    · exact .inl ⟨reset, old, issued⟩
    · rw [List.mem_singleton.mp new] at issued
      exact .inr ⟨⟨newPassword, rfl⟩, issued⟩

theorem StoreHolds.recordReset (holds : StoreHolds s) {stored : OneTimeToken}
    {redemption : Redemption}
    (exhausted : ∀ newPassword, redemption = .resetPassword newPassword →
      AllExhausted s stored.userId) : StoreHolds (recordReset stored s redemption) := by
  cases redemption with
  | verifyEmail => exact holds
  | resetPassword newPassword =>
    refine ⟨?_, ?_, ?_, holds.spentOnce, holds.used⟩
    · intro tokenHash ended
      rcases ended_recordReset ended with old | ⟨_, issued⟩
      · exact holds.exhausted tokenHash old
      · obtain ⟨rt, member, owner, here⟩ := mem_issuedTo.mp issued
        exact ⟨rt, member, here, exhausted newPassword rfl rt member owner⟩
    · intro reset recorded
      rcases List.mem_append.mp recorded with old | new
      · exact holds.ended reset old
      · rw [List.mem_singleton.mp new]
        intro tokenHash _ later
        change tokenHash ∈ s.sessions.redeemed.drop s.sessions.redeemed.length at later
        rw [List.drop_length] at later
        cases later
    · intro reset recorded
      rcases List.mem_append.mp recorded with old | new
      · exact holds.counted reset old
      · rw [List.mem_singleton.mp new]
        exact le_refl _

theorem PhaseHolds.recordReset {phase : CredentialPhase} (holds : PhaseHolds s phase)
    {stored : OneTimeToken} {redemption : Redemption}
    (elsewhere : ∀ newPassword, redemption = .resetPassword newPassword →
      ∀ held ∈ exchanging phase, held.tokenHash ∉ s.issuedTo stored.userId) :
    PhaseHolds (recordReset stored s redemption) phase := by
  have same {held : RefreshToken} (under : held ∈ exchanging phase)
      (ended : Ended (Auth.recordReset stored s redemption) held.tokenHash) :
      Ended s held.tokenHash := by
    rcases ended_recordReset ended with old | ⟨⟨newPassword, reset⟩, issued⟩
    · exact old
    · exact absurd issued (elsewhere newPassword reset held under)
  have rows : (Auth.recordReset stored s redemption).refreshTokens = s.refreshTokens := by
    cases redemption <;> rfl
  cases phase with
  | refreshing phase =>
    cases phase with
    | idle => trivial
    | loaded request held userId =>
      intro ended
      rw [rows]
      exact holds (same rfl ended)
    | identified request held user =>
      intro ended
      rw [rows]
      exact holds (same rfl ended)
    | passed progress request held user => exact fun ended => holds (same rfl ended)
  | presented redemption' held => cases redemption <;> exact holds
  | marked redemption' held user => cases redemption <;> exact holds

/-! ## One step -/

variable {w : Requests ι}

abbrev Invariant (w : Requests ι) : Prop :=
  World.Holds StoreHolds (fun _ shared phase => PhaseHolds shared phase) Apart w

abbrev KeepsAll (w : Requests ι) (i : ι) (after : CredentialStore × CredentialPhase) : Prop :=
  World.Keeps StoreHolds (fun _ shared phase => PhaseHolds shared phase) Apart w i after

theorem keeps_unmoved {i : ι} (holds : Invariant w) : KeepsAll w i (w.shared, w.locals i) :=
  ⟨holds.store, holds.own i, fun j _ => holds.own j, fun j other => holds.pair i j other.symm⟩

theorem keeps_idle {i : ι} (holds : Invariant w) :
    KeepsAll w i (w.shared, .refreshing .idle) :=
  ⟨holds.store, trivial, fun j _ => holds.own j, fun _ _ => apart_of_not_redeeming rfl⟩

theorem keeps_later {i : ι} (holds : Invariant w) (later : Later w.shared after)
    (same : after.sessions.redeemed = w.shared.sessions.redeemed) :
    KeepsAll w i (after, w.locals i) :=
  ⟨holds.store.later later (.inl same), later.phaseHolds (holds.own i),
    fun j _ => later.phaseHolds (holds.own j), fun j other => holds.pair i j other.symm⟩

theorem keeps_refresh {i : ι} {phase : RefreshPhase} (holds : Invariant w)
    (here : w.locals i = .refreshing phase) (action : RefreshAct) :
    KeepsAll w i
      ({ w.shared with sessions := (refreshAct env.auth w.shared.sessions phase action).1 },
        .refreshing (refreshAct env.auth w.shared.sessions phase action).2) := by
  have own := holds.own i
  rw [here] at own
  have later := later_refresh env w.shared phase action
  refine ⟨holds.store.later later ?_, ?_, fun j _ => later.phaseHolds (holds.own j),
    fun _ _ => apart_of_not_redeeming rfl⟩
  · rcases (refreshAct_effect env.auth w.shared.sessions phase action).2 with
      same | ⟨progress, request, stored, user, passed, grown⟩
    · exact .inl same
    · rw [passed] at own
      exact .inr ⟨stored.tokenHash, own, grown⟩
  · exact later.phaseHolds (refreshAct_phaseHolds holds.store own action)

theorem keeps_present {i : ι} {redemption : Redemption} {token : String} {now : Instant}
    {stored : OneTimeToken} (holds : Invariant w)
    (quiet : ∀ j, j ≠ i → (redemption.kind, env.auth.hashToken token) ∉ redeeming (w.locals j))
    (success : presentedToken redemption.kind (env.auth.hashToken token) now
      (w.shared.oneTimeTokens redemption.kind) = .ok stored) :
    KeepsAll w i (w.shared, .presented redemption stored) := by
  obtain ⟨⟨member, here⟩, unused, _⟩ := presentedToken_eq_ok.mp success
  have unspent : stored.tokenHash ∉ w.shared.spent redemption.kind := by
    intro listed
    obtain ⟨token, place, same, used⟩ := holds.store.used _ _ listed
    rw [Table.eq_of_key place member same, unused] at used
    cases used
  refine ⟨holds.store, ⟨unspent, stored, member, rfl⟩, fun j _ => holds.own j, ?_⟩
  rintro j other held ⟨⟩
  rw [here]
  exact quiet j other

theorem keeps_commit {i : ι} {redemption : Redemption} {stored : OneTimeToken}
    {user : Option User} (holds : Invariant w) (here : w.locals i = .marked redemption stored user)
    (quiet : ∀ newPassword, redemption = .resetPassword newPassword →
      ∀ rt ∈ w.shared.refreshTokens, rt.userId = stored.userId →
        Exhausted w.shared.refreshTokens rt ∧
          ∀ j, ∀ held ∈ exchanging (w.locals j), held.tokenHash ≠ rt.tokenHash) :
    KeepsAll w i (recordReset stored (applyRedemption env user
      (w.shared.spend redemption.kind stored.tokenHash) redemption) redemption,
      .refreshing .idle) := by
  have own := holds.own i
  rw [here] at own
  have later := later_applyRedemption (s := w.shared.spend redemption.kind stored.tokenHash) env
    user redemption
  obtain ⟨redeemed, rows⟩ := applyRedemption_sessions
    (s := w.shared.spend redemption.kind stored.tokenHash) env user redemption
  have written := (holds.store.spend own).later later (.inl redeemed)
  refine ⟨written.recordReset ?_, trivial, ?_, fun _ _ => apart_of_not_redeeming rfl⟩
  · intro newPassword reset rt member owner
    rw [rows] at member ⊢
    exact (quiet newPassword reset rt member owner).1
  · intro j other
    have apart : (redemption.kind, stored.tokenHash) ∉ redeeming (w.locals j) := by
      apply holds.pair i j other.symm
      rw [here]
      rfl
    apply (later.phaseHolds ((holds.own j).spend apart)).recordReset
    intro newPassword reset held under issued
    obtain ⟨rt, member, owner, same⟩ := mem_issuedTo.mp issued
    rw [rows] at member
    exact (quiet newPassword reset rt member owner).2 j held under same.symm

theorem later_sendOneTime (env : CredentialServices) (kind : OneTimeKind) (user : User)
    (token : String) (now : Instant) :
    Later s (sendOneTime env kind user token now s) ∧
      (sendOneTime env kind user token now s).sessions = s.sessions := by
  unfold sendOneTime
  split
  · next tokens success =>
    refine ⟨⟨Kept.refl _, ?_, rfl, rfl⟩, rfl⟩
    intro k a member
    by_cases same : k = kind
    · subst same
      have written : (s.setTokens k tokens).oneTimeTokens k = tokens := if_pos rfl
      rw [written]
      exact wears_issueOneTime success member
    · have kept : (s.setTokens kind tokens).oneTimeTokens k = s.oneTimeTokens k := if_neg same
      rw [kept]
      exact ⟨a, member, Wears.refl a⟩
  · exact ⟨Later.of_tokens (Kept.refl _) rfl rfl rfl, rfl⟩

theorem keeps_step (i : ι) (action : CredentialAct) (holds : Invariant w)
    (quiet : Quiet env w (i, action)) :
    KeepsAll w i (credentialAct env w.shared (w.locals i) action) := by
  cases action with
  | refresh action =>
    simp only [credentialAct]
    split
    · next phase here => exact keeps_refresh holds here action
    · exact keeps_unmoved holds
  | present redemption token now =>
    simp only [credentialAct]
    split
    · split
      · next stored success => exact keeps_present holds quiet success
      · exact keeps_idle holds
    · exact keeps_unmoved holds
  | markAndLoadUser =>
    simp only [credentialAct]
    split
    · next redemption stored here =>
      have unmoved := keeps_unmoved (i := i) holds
      rw [here] at unmoved
      exact ⟨unmoved.store, unmoved.mine, unmoved.others, unmoved.pairs⟩
    · exact keeps_unmoved holds
  | commit =>
    simp only [credentialAct]
    split
    · next redemption stored user here =>
      unfold commitRedemption
      split
      · exact keeps_idle holds
      · apply keeps_commit holds here
        rintro newPassword rfl
        exact quiet newPassword stored user here
    · exact keeps_unmoved holds
  | abort => exact keeps_idle holds
  | sendVerificationEmail email token now =>
    simp only [credentialAct, sendVerificationEmail]
    split
    · split
      · exact keeps_unmoved holds
      · next user _ _ =>
        obtain ⟨later, same⟩ := later_sendOneTime (s := w.shared) env .emailVerification user
          token now
        exact keeps_later holds later (congrArg TokenStore.redeemed same)
    · exact keeps_unmoved holds
  | sendPasswordResetEmail email token now =>
    simp only [credentialAct, sendPasswordResetEmail]
    split
    · next user _ =>
      obtain ⟨later, same⟩ := later_sendOneTime (s := w.shared) env .passwordReset user token now
      exact keeps_later holds later (congrArg TokenStore.redeemed same)
    · exact keeps_unmoved holds

/-! ## Runs -/

variable [DecidableEq ι]

open TokenFamilies

def sampleServices : CredentialServices where
  auth := sampleEnvironment
  passwordHash _ := "$2b$04$abcdefghijklmnopqrstuuZxVbDkLqMx8l0uKZc4mGr1kqSxP4Tqi"

def resetLink : String := "7bD1mXqk2Jm3m8m0c9bqkqk8kS0e4l5o6w7x8y9zAaBbCcDdEeFfGgHhIiJjKkLl"

def newLogin : CredentialAct :=
  .refresh (.login "a@example.com" "correct horse" ⟨"access-1", firstJwt, 9, 0⟩)

def exchangeFirst : List CredentialAct :=
  [.refresh (.present ⟨firstJwt, ⟨"access-2", secondJwt, 10, secondsToMicros 60⟩⟩),
    .refresh .loadUser, .refresh .checkReuse, .refresh .insertSuccessor,
    .refresh .revokePresented, .refresh .commit]

def resetSteps : List CredentialAct :=
  [.sendPasswordResetEmail "a@example.com" resetLink 0,
    .present (.resetPassword "battery staple") resetLink 10, .markAndLoadUser, .commit]

/-- A login, a reset, and then a refresh with the token of the login. -/
def sessionSurvives : List (Bool × CredentialAct) :=
  (newLogin :: (resetSteps ++ exchangeFirst)).map (fun action => (true, action))

/-- The user opens the link in two windows at once. -/
def twoWindows : List (Bool × CredentialAct) :=
  [(true, .sendPasswordResetEmail "a@example.com" resetLink 0),
    (true, .present (.resetPassword "battery staple") resetLink 10),
    (false, .present (.resetPassword "tr0ub4dor&3") resetLink 10),
    (true, .markAndLoadUser), (true, .commit), (false, .markAndLoadUser), (false, .commit)]

def afterRun (run : List (Bool × CredentialAct)) : CredentialStore :=
  (Run.exec (World.move (requestAct sampleServices)) (opening sampleUsers) run).shared

end Reliastra.Guarantees.PasswordResets
