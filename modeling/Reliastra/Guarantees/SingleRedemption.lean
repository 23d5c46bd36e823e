import Reliastra.Guarantees.TokenFamilies
import Reliastra.Source.Auth.ConcurrentRefresh

/-!
# Is a refresh token redeemed once?

The reuse check reads the family's latest sequence without a lock, so two
requests that present one token and both run the check before either commits
both commit a successor, with the same sequence. `redeemed_once` says that this
overlap is the only way: in a run in which no request runs the check while
another one for its token is between its check and its end, a token is redeemed
at most once and a family has at most one usable token.
-/

namespace Reliastra.Guarantees.SingleRedemption

open Reliastra.Library Source Source.Auth

variable {ι : Type}

abbrev Sessions (ι : Type) := World TokenStore ι RefreshPhase

def sessionAct (env : AuthEnvironment) (_ : ι) (shared : TokenStore) (phase : RefreshPhase)
    (action : RefreshAct) : TokenStore × RefreshPhase := refreshAct env shared phase action

/-- No token yet, and no request under way. -/
def opening (users : Table User.id) : Sessions ι := ⟨⟨.empty users, []⟩, fun _ => .idle⟩

/-- The tokens of a family that are neither revoked nor expired. -/
def liveTokens (s : AuthState) (tokenFamily : Uuid) (now : Instant) : List RefreshToken :=
  (s.family tokenFamily).filter (fun rt => rt.isRevoked = false ∧ now < rt.expiresAt)

/-- No token has two committed successors, and no family two live tokens. -/
def RedeemedOnce (w : Sessions ι) : Prop :=
  w.shared.redeemed.Nodup ∧
    ∀ tokenFamily now, (liveTokens w.shared.database tokenFamily now).length ≤ 1

/-- A reuse check with no other request for the token between its own check and
its end; and a login whose new family identifier is new. -/
def Unshared (w : Sessions ι) (move : ι × RefreshAct) : Prop :=
  match move.2 with
  | .checkReuse => ∀ request stored user, w.locals move.1 = .identified request stored user →
    ∀ j, j ≠ move.1 → ∀ other ∈ (w.locals j).redeeming, other.tokenHash ≠ stored.tokenHash
  | .login _ _ fresh => ∀ rt ∈ w.shared.database.refreshTokens.rows,
    rt.tokenFamily ≠ fresh.tokenFamily
  | _ => True

/-! ## One step -/

variable {env : AuthEnvironment} {w : Sessions ι}

abbrev Invariant (env : AuthEnvironment) (w : Sessions ι) : Prop :=
  World.Holds OneNewest (fun _ shared phase => PhaseHolds env shared phase) Apart w

theorem apart_symm (a b : RefreshPhase) (apart : Apart a b) : Apart b a :=
  fun x first y second same => apart y second x first same.symm

theorem apart_of_not_redeeming {a b : RefreshPhase} (none : a.redeeming = none) : Apart a b := by
  intro x first
  rw [none] at first
  cases first

abbrev KeepsAll (env : AuthEnvironment) (w : Sessions ι) (i : ι)
    (after : TokenStore × RefreshPhase) : Prop :=
  World.Keeps OneNewest (fun _ shared phase => PhaseHolds env shared phase) Apart w i after

/-- A statement that only reads. -/
theorem keeps_of_read {i : ι} {phase : RefreshPhase} (holds : Invariant env w)
    (mine : PhaseHolds env w.shared phase) (apart : ∀ j, j ≠ i → Apart phase (w.locals j)) :
    KeepsAll env w i (w.shared, phase) :=
  ⟨holds.store, mine, fun j _ => holds.own j, apart⟩

theorem keeps_idle {i : ι} (holds : Invariant env w) : KeepsAll env w i (w.shared, .idle) :=
  keeps_of_read holds trivial (fun _ _ => apart_of_not_redeeming rfl)

theorem keeps_unmoved {i : ι} (holds : Invariant env w) :
    KeepsAll env w i (w.shared, w.locals i) :=
  keeps_of_read holds (holds.own i) (fun j other => holds.pair i j other.symm)

/-- Another request's transaction, on tokens of no family under redemption. -/
theorem keeps_of_grows {i : ι} {after : TokenStore} (added : Option RefreshToken)
    (holds : Invariant env w) (same : after.redeemed = w.shared.redeemed)
    (grows : Grows w.shared.database.refreshTokens.rows after.database.refreshTokens.rows added)
    (tops : ∀ new ∈ added, Tops w.shared.database.refreshTokens.rows
      after.database.refreshTokens.rows new)
    (elsewhere : ∀ new ∈ added, ∀ j, ∀ stored ∈ (w.locals j).redeeming,
      new.tokenFamily ≠ stored.tokenFamily) : KeepsAll env w i (after, w.locals i) := by
  have own (j : ι) : PhaseHolds env after (w.locals j) :=
    (holds.own j).grows grows (fun new fresh => elsewhere new fresh j)
  exact ⟨holds.store.grows same grows tops, own i, fun j _ => own j,
    fun j other => holds.pair i j other.symm⟩

theorem keeps_login {i : ι} (email password : String) (fresh : Fresh) (holds : Invariant env w)
    (unused : ∀ rt ∈ w.shared.database.refreshTokens.rows, rt.tokenFamily ≠ fresh.tokenFamily) :
    KeepsAll env w i ({ w.shared with
      database := getDb w.shared.database (login env email password fresh w.shared.database) },
      w.locals i) := by
  rcases login_committed env email password fresh w.shared.database with
    same | ⟨rt, family, _, _, rows⟩
  · rw [same]
    exact keeps_unmoved holds
  · refine keeps_of_grows (some rt) holds rfl (rows ▸ grows_append _ rt) ?_ ?_
    · rintro new ⟨⟩
      constructor
      · exact fun a old same => absurd (same.trans family) (unused a old)
      · intro b member _ same
        rw [rows] at member
        rcases List.mem_append.mp member with old | added
        · exact absurd (same.trans family) (unused b old)
        · exact List.mem_singleton.mp added
    · rintro new ⟨⟩ j stored under same
      obtain ⟨a, old, _, there, _⟩ := ((holds.own j).redeeming under).1
      exact unused a old (there.trans (same.symm.trans family))

theorem keeps_commit {i : ι} {request : RefreshRequest} {stored : RefreshToken} {user : User}
    {after : AuthState} (holds : Invariant env w)
    (phase : w.locals i = .passed .revoked request stored user)
    (success : redeem env request stored user w.shared.database = some after) :
    KeepsAll env w i (⟨after, w.shared.redeemed ++ [stored.tokenHash]⟩, .idle) := by
  have own := holds.own i
  rw [phase] at own
  obtain ⟨stands, newest⟩ := own
  obtain ⟨presented, member, here, family, sequence⟩ := stands.2
  have known : env.hashToken request.token ∈
      w.shared.database.refreshTokens.rows.map (·.tokenHash) :=
    List.mem_map.mpr ⟨presented, member, here.trans stands.1⟩
  obtain ⟨grows, _, _⟩ := redeem_grows success known
  refine ⟨holds.store.redeem stands newest success, trivial, ?_,
    fun j _ => apart_of_not_redeeming rfl⟩
  intro j other
  refine (holds.own j).grows grows ?_
  rintro new ⟨⟩ theirs under same
  have same : stored.tokenFamily = theirs.tokenFamily := same
  -- both requests would have the newest token of the family, hence one token
  obtain ⟨⟨a, old, hash, family', sequence'⟩, newest'⟩ := (holds.own j).redeeming under
  have below := newest a old (family'.trans same.symm)
  have above := newest' presented member (family.trans same)
  have equal : presented = a := holds.store.distinct presented member a old
    (by rw [family, family', same]) (by omega)
  have mine : stored ∈ (w.locals i).redeeming := by
    rw [phase]
    rfl
  exact holds.pair i j other.symm stored mine theirs under (by rw [← here, equal, hash])

/-- A request past the check stays apart from the others while it writes. -/
theorem keeps_passed {i : ι} {progress progress' : WriteProgress} {request : RefreshRequest}
    {stored : RefreshToken} {user : User} (holds : Invariant env w)
    (phase : w.locals i = .passed progress request stored user) (j : ι) (other : j ≠ i) :
    Apart (.passed progress' request stored user) (w.locals j) := by
  rintro x ⟨⟩ y theirs
  have mine : stored ∈ (w.locals i).redeeming := by
    rw [phase]
    rfl
  exact holds.pair i j other.symm stored mine y theirs

theorem keeps_step (i : ι) (action : RefreshAct) (holds : Invariant env w)
    (unshared : Unshared w (i, action)) :
    KeepsAll env w i (refreshAct env w.shared (w.locals i) action) := by
  have own := holds.own i
  cases action with
  | present request =>
    simp only [refreshAct]
    split
    · rcases presentToken_cases env request w.shared.database with
        refused | ⟨stored, userId, loaded, found⟩
      · rw [refused]
        exact keeps_idle holds
      · obtain ⟨member, hash⟩ := (Table.get?_eq_some_iff _ _ _).mp found
        rw [loaded]
        exact keeps_of_read holds ⟨hash, stored, member, rfl, rfl, rfl⟩
          (fun j _ => apart_of_not_redeeming rfl)
    · exact keeps_unmoved holds
  | loadUser =>
    simp only [refreshAct]
    split
    · next request stored userId phase =>
      rw [phase] at own
      split
      · exact keeps_of_read holds own (fun j _ => apart_of_not_redeeming rfl)
      · exact keeps_idle holds
    · exact keeps_unmoved holds
  | checkReuse =>
    simp only [refreshAct]
    split
    · next request stored user phase =>
      rw [phase] at own
      split
      · exact keeps_idle holds
      · next latest =>
        refine keeps_of_read holds ⟨own, ?_⟩ ?_
        · intro b member family
          have below := le_getLatestSequence w.shared.database member
          rw [family] at below
          omega
        · rintro j other x ⟨⟩ y theirs same
          exact unshared request stored user phase j other y theirs same.symm
    · exact keeps_unmoved holds
  | insertSuccessor =>
    simp only [refreshAct]
    split
    · next request stored user phase =>
      rw [phase] at own
      split
      · exact keeps_of_read holds own (keeps_passed holds phase)
      · exact keeps_idle holds
    · exact keeps_unmoved holds
  | revokePresented =>
    simp only [refreshAct]
    split
    · next request stored user phase =>
      rw [phase] at own
      exact keeps_of_read holds own (keeps_passed holds phase)
    · exact keeps_unmoved holds
  | commit =>
    simp only [refreshAct]
    split
    · next request stored user phase =>
      split
      · next after success => exact keeps_commit holds phase success
      · exact keeps_idle holds
    · exact keeps_unmoved holds
  | abort => exact keeps_idle holds
  | login email password fresh => exact keeps_login email password fresh holds unshared
  | logout token =>
    exact keeps_of_grows none holds rfl (grows_revokeRefreshToken env _ token)
      (fun new fresh => by cases fresh) (fun new fresh => by cases fresh)
  | accounts users =>
    exact keeps_of_grows none holds rfl (Grows.refl _)
      (fun new fresh => by cases fresh) (fun new fresh => by cases fresh)

/-! ## Runs -/

theorem live_le_one (holds : OneNewest w.shared) (tokenFamily : Uuid) (now : Instant) :
    (liveTokens w.shared.database tokenFamily now).length ≤ 1 := by
  have distinct : (liveTokens w.shared.database tokenFamily now).Nodup :=
    ((w.shared.database.refreshTokens.unique.of_map _).filter _).filter _
  have equal : ∀ a ∈ liveTokens w.shared.database tokenFamily now,
      ∀ b ∈ liveTokens w.shared.database tokenFamily now, a = b := by
    intro a first b second
    simp only [liveTokens, AuthState.family, List.mem_filter, decide_eq_true_eq] at first second
    obtain ⟨⟨here, family⟩, unrevoked, _⟩ := first
    obtain ⟨⟨there, family'⟩, unrevoked', _⟩ := second
    have below := holds.newest a here unrevoked b there (family'.trans family.symm)
    have above := holds.newest b there unrevoked' a here (family.trans family'.symm)
    exact holds.distinct a here b there (family.trans family'.symm) (by omega)
  match tokens : liveTokens w.shared.database tokenFamily now with
  | [] => simp
  | [_] => simp
  | a :: b :: rest =>
    rw [tokens] at distinct equal
    have same : a = b := equal a (by simp) b (by simp)
    simp [same] at distinct

variable [DecidableEq ι]

theorem invariant_exec (users : Table User.id) (run : List (ι × RefreshAct))
    (unshared : Run.AllSteps (World.move (sessionAct env)) Unshared (opening users) run) :
    Invariant env (Run.exec (World.move (sessionAct env)) (opening users) run) := by
  have initial : Invariant env (opening users : Sessions ι) := by
    refine ⟨⟨?_, ?_, List.nodup_nil, ?_⟩, fun i => trivial,
      fun i j _ => apart_of_not_redeeming rfl⟩
    · exact fun a member => absurd member List.not_mem_nil
    · exact fun a member => absurd member List.not_mem_nil
    · exact fun hash member => absurd member List.not_mem_nil
  exact World.Holds.exec_of_allSteps apart_symm (fun _ => keeps_step) (opening users) run
    initial unshared

/-- Where no reuse check meets another request for its token, every token is
redeemed at most once, and every family has at most one live token. -/
theorem redeemed_once (env : AuthEnvironment) (users : Table User.id)
    (run : List (ι × RefreshAct))
    (unshared : Run.AllSteps (World.move (sessionAct env)) Unshared (opening users) run) :
    RedeemedOnce (Run.exec (World.move (sessionAct env)) (opening users) run) := by
  have holds := (invariant_exec users run unshared).store
  exact ⟨holds.once, fun tokenFamily now => live_le_one holds tokenFamily now⟩

/-! ## Two tabs -/

open TokenFamilies

def firstTab : RefreshRequest := ⟨firstJwt, ⟨"access-2", secondJwt, 10, secondsToMicros 60⟩⟩

def secondTab : RefreshRequest := ⟨firstJwt, ⟨"access-3", thirdJwt, 11, secondsToMicros 60⟩⟩

def openingLogin : Bool × RefreshAct :=
  (true, .login "a@example.com" "correct horse" ⟨"access-1", firstJwt, 9, 0⟩)

/-- The second tab asks once the first one has its tokens. -/
def oneTabAtATime : List (Bool × RefreshAct) :=
  [openingLogin, (true, .present firstTab), (true, .loadUser), (true, .checkReuse),
    (true, .insertSuccessor), (true, .revokePresented), (true, .commit),
    (false, .present secondTab)]

theorem redeemed_once_sample :
    RedeemedOnce (Run.exec (World.move (sessionAct sampleEnvironment)) (opening sampleUsers)
      oneTabAtATime) := by
  refine redeemed_once sampleEnvironment sampleUsers oneTabAtATime
    ⟨?_, trivial, trivial, ?_, trivial, trivial, trivial, trivial, trivial⟩
  · exact fun rt member => absurd member List.not_mem_nil
  · rintro request stored user - (_ | _) other token under
    · cases under
    · exact absurd rfl other

/-- Both tabs run the check before either commits. -/
def bothTabsAtOnce : List (Bool × RefreshAct) :=
  [openingLogin, (true, .present firstTab), (false, .present secondTab), (true, .loadUser),
    (false, .loadUser), (true, .checkReuse), (false, .checkReuse), (true, .insertSuccessor),
    (false, .insertSuccessor), (true, .revokePresented), (true, .commit),
    (false, .revokePresented), (false, .commit)]

/-- The first token is redeemed twice, and its family then has two live tokens. -/
theorem token_redeemed_twice :
    ¬ RedeemedOnce (Run.exec (World.move (sessionAct sampleEnvironment)) (opening sampleUsers)
      bothTabsAtOnce) := by
  have live : (liveTokens (Run.exec (World.move (sessionAct sampleEnvironment))
      (opening sampleUsers) bothTabsAtOnce).shared.database 9 (secondsToMicros 120)).length =
      2 := by decide +kernel
  intro once
  have bound := once.2 9 (secondsToMicros 120)
  omega

end Reliastra.Guarantees.SingleRedemption
