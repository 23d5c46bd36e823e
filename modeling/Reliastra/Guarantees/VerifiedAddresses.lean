import Reliastra.Library.Run
import Reliastra.Guarantees.VerifiedLinking
import Reliastra.Source.Auth.OneTimeTokens

/-!
# Does the verified flag vouch for the current address?

`update_profile` writes a new address and leaves the flag and the outstanding
tokens, which name the user only; a new account gets the flag the provider's
payload is read to have. `vouched_of_orderly` says what a run has to leave out.
-/

namespace Reliastra.Guarantees.VerifiedAddresses

open Reliastra.Library Source Source.Auth Source.Api VerifiedLinking

/-! ## The property -/

/-- The database, the address each token was sent to, and what was confirmed: the
addresses by a token, and those by a provider's assertion. -/
structure AddressHistory where
  database : AddressDatabase
  sentTo : String → Option String
  byToken : List (Uuid × String)
  byProvider : Uuid → String → Prop

def AddressHistory.opening (platform : Platform) (columns : Uuid → OAuthColumns)
    (externalAuthIds : Uuid → Option String) : AddressHistory :=
  ⟨⟨⟨⟨{ platform with users := .empty }, columns, .empty⟩, externalAuthIds⟩, .empty⟩,
    fun _ => none, [], fun _ _ => False⟩

/-- The login is one of this user, in whose payload the address is asserted. -/
def ConfirmsAddress (env : ExternalEnvironment) (login : ExternalLogin)
    (before after : AddressDatabase) (userId : Uuid) (address : String) : Prop :=
  Asserts env address login ∧ ∃ rt ∈ after.identities.oauth.refreshTokens.rows,
    rt ∉ before.identities.oauth.refreshTokens.rows ∧ rt.userId = userId

def historyStep (h : AddressHistory) (op : AddressOp) : AddressHistory :=
  match op.run h.database with
  | .error _ => h
  | .ok after =>
    let h' := { h with database := after }
    match op with
    | .sendVerificationEmail env email token =>
      let sentTo := fun hash => if hash = env.hashToken token then some (env.service.lower email)
        else h.sentTo hash
      { h' with sentTo := sentTo }
    | .verifyEmail env token =>
      match Auth.verifyEmail env token h.database with
      | .ok (stored, _) =>
        let confirmed := (h.sentTo stored.tokenHash).toList.map (fun address =>
          (stored.userId, address))
        { h' with byToken := h.byToken ++ confirmed }
      | .error _ => h'
    | .externalLogin env login =>
      { h' with byProvider := fun userId address => h.byProvider userId address ∨
          ConfirmsAddress env login h.database after userId address }
    | _ => h'

def Confirmed (h : AddressHistory) (userId : Uuid) (address : String) : Prop :=
  (userId, address) ∈ h.byToken ∨ h.byProvider userId address

/-- Every verified flag stands beside a confirmed address. -/
def Vouched (h : AddressHistory) : Prop :=
  ∀ user ∈ h.database.users.rows, h.database.isEmailVerified user.id = true →
    Confirmed h user.id user.email

/-! ## The condition -/

/-- A new address for a user without a flag and without a token to come; and no
new account with a flag for an address the provider does not assert. -/
def Orderly (h : AddressHistory) : AddressOp → Prop
  | .updateProfile env userId request =>
    ∀ email ∈ request.email,
      (∀ existing ∈ userByEmail env h.database.identities.oauth.platform email,
        existing.id = userId) →
      ∀ user ∈ h.database.users.rows, user.id = userId → env.lower email ≠ user.email →
        h.database.isEmailVerified userId = false ∧
          ∀ token ∈ h.database.verificationTokens.rows, token.userId = userId →
            token.isUsed = true
  | .externalLogin env login =>
    ∀ address, FlagsAddress env address login →
      Newcomer env h.database.identities address login → Asserts env address login
  | _ => True

/-! ## The invariant -/

/-- A usable token was sent to the current address of its user. -/
structure Holds (h : AddressHistory) : Prop where
  vouched : Vouched h
  usable : ∀ token ∈ h.database.verificationTokens.rows, token.isUsed = false →
    ∃ user ∈ h.database.users.rows, user.id = token.userId ∧
      h.sentTo token.tokenHash = some user.email

/-- Nothing confirmed is forgotten. -/
theorem confirmed_step (h : AddressHistory) (op : AddressOp) {userId : Uuid} {address : String}
    (confirmed : Confirmed h userId address) : Confirmed (historyStep h op) userId address := by
  unfold historyStep
  split
  · exact confirmed
  · dsimp only
    split
    · exact confirmed
    · split
      · exact confirmed.imp (fun old => List.mem_append_left _ old) id
      · exact confirmed
    · exact confirmed.imp id .inl
    · exact confirmed

variable {s after : AddressDatabase} {h : AddressHistory}

/-- An operation that adds at most a user without flag. -/
structure Joins (s after : AddressDatabase) (user : Account) : Prop where
  fresh : user.id ∉ s.users.rows.map (·.id)
  rows : after.users.rows = s.users.rows ++ [user]
  flags : ∀ id, id ≠ user.id → after.isEmailVerified id = s.isEmailVerified id
  tokens : after.verificationTokens = s.verificationTokens

theorem Holds.joins {after : AddressHistory} {user : Account} (holds : Holds h)
    (joins : Joins h.database after.database user) (sentTo : after.sentTo = h.sentTo)
    (kept : ∀ userId address, Confirmed h userId address → Confirmed after userId address)
    (vouched : after.database.isEmailVerified user.id = true →
      Confirmed after user.id user.email) : Holds after := by
  constructor
  · intro known member flag
    rw [joins.rows] at member
    rcases List.mem_append.mp member with old | new
    · have other : known.id ≠ user.id :=
        fun same => joins.fresh (same ▸ List.mem_map_of_mem old)
      rw [joins.flags known.id other] at flag
      exact kept _ _ (holds.vouched known old flag)
    · rw [List.mem_singleton.mp new] at flag ⊢
      exact vouched flag
  · intro token member unused
    rw [joins.tokens] at member
    obtain ⟨known, old, same, sent⟩ := holds.usable token member unused
    refine ⟨known, ?_, same, ?_⟩
    · rw [joins.rows]
      exact List.mem_append_left _ old
    · rw [sentTo]
      exact sent

/-! ## Registration -/

theorem registerUser_joins {env : SignupEnvironment} {bind : BindReferral}
    {request : RegisterRequest} (success : registerUser env bind request s = .ok after) :
    ∃ user, Joins s after user ∧ after.isEmailVerified user.id = false := by
  obtain ⟨⟨response, signup⟩, registered, success⟩ := bind_eq_ok success
  cases success
  obtain ⟨⟨user, org, opened⟩, opening, registered⟩ := bind_eq_ok registered
  obtain ⟨platform, referral, registered⟩ := bind_eq_ok registered
  obtain ⟨refreshTokens, _, registered⟩ := bind_eq_ok registered
  cases registered
  obtain ⟨_, _, opening⟩ := bind_eq_ok opening
  obtain ⟨_, _, opening⟩ := bind_eq_ok opening
  obtain ⟨users, added, opening⟩ := bind_eq_ok opening
  obtain ⟨_, _, opening⟩ := bind_eq_ok opening
  obtain ⟨organizations, _, opening⟩ := bind_eq_ok opening
  obtain ⟨members, _, opening⟩ := bind_eq_ok opening
  obtain ⟨applications, _, opening⟩ := bind_eq_ok opening
  cases opening
  obtain ⟨fresh, rows⟩ := Table.insert_eq_some (flushNew_eq_ok.mp added)
  have same : platform.users = users := by
    unfold processReferral at referral
    split at referral
    · unfold afterPartnerCode at referral
      split at referral
      · cases referral
        rfl
      · cases referral
    · cases referral
      rfl
  refine ⟨newAccount env request, ⟨fresh, ?_, ?_, rfl⟩, ?_⟩
  · exact (congrArg Table.rows same).trans rows
  · exact fun id other => congrArg OAuthColumns.isEmailVerified (setColumns_of_ne _ _ other)
  · exact congrArg OAuthColumns.isEmailVerified (setColumns_self _ _ registeredColumns)

/-! ## `update_profile` -/

theorem updatedAccount_email (env : ServiceEnvironment) (request : UserUpdateRequest)
    (user : Account) : (updatedAccount env request user).email =
      (request.email.map env.lower).getD user.email := by
  unfold updatedAccount
  dsimp only
  split
  · next same => exact (congrArg Account.email same).symm
  · rfl

theorem updateUserProfile_eq_ok {env : ServiceEnvironment} {userId : Uuid}
    {request : UserUpdateRequest}
    (success : updateUserProfile env userId request s = .ok after) :
    (∀ email ∈ request.email, ∀ existing ∈ userByEmail env s.identities.oauth.platform email,
        existing.id = userId) ∧
      after.users.rows = s.users.rows.map (fun user =>
        if user.id = userId then updatedAccount env request user else user) ∧
      after.isEmailVerified = s.isEmailVerified ∧
      after.verificationTokens = s.verificationTokens := by
  obtain ⟨platform, updated, success⟩ := bind_eq_ok success
  cases success
  obtain ⟨user, found, updated⟩ := bind_eq_ok updated
  obtain ⟨_, free, updated⟩ := bind_eq_ok updated
  cases updated
  rw [require_eq_ok] at found
  rw [refuseIf_eq_ok] at free
  refine ⟨?_, ?_, rfl, rfl⟩
  · intro email given existing taken
    by_contra other
    exact free ⟨email, given, existing, taken, other⟩
  · rw [← ((Table.get?_eq_some_iff _ _ _).mp found).2]
    exact Table.updateKey_rows _ _ _ (updatedAccount_id env request)

theorem Holds.updateProfile {after : AddressHistory} {env : ServiceEnvironment} {userId : Uuid}
    {request : UserUpdateRequest} (holds : Holds h)
    (orderly : Orderly h (.updateProfile env userId request))
    (success : updateUserProfile env userId request h.database = .ok after.database)
    (sentTo : after.sentTo = h.sentTo)
    (kept : ∀ userId address, Confirmed h userId address → Confirmed after userId address) :
    Holds after := by
  obtain ⟨free, rows, flags, tokens⟩ := updateUserProfile_eq_ok success
  -- a row that gets another address has no flag and no token to come
  have moved {user : Account} (member : user ∈ h.database.users.rows) (here : user.id = userId)
      (changed : (updatedAccount env request user).email ≠ user.email) :
      h.database.isEmailVerified userId = false ∧
        ∀ token ∈ h.database.verificationTokens.rows, token.userId = userId →
          token.isUsed = true := by
    rw [updatedAccount_email] at changed
    cases asked : request.email with
    | none =>
      rw [asked] at changed
      exact absurd rfl changed
    | some email =>
      rw [asked] at changed
      exact orderly email asked (free email asked) user member here changed
  constructor
  · intro row member flag
    rw [rows] at member
    obtain ⟨user, old, rfl⟩ := List.mem_map.mp member
    rw [flags] at flag
    split at flag
    · next here =>
      rw [if_pos here]
      rw [updatedAccount_id] at flag ⊢
      by_cases same : (updatedAccount env request user).email = user.email
      · rw [same]
        exact kept _ _ (holds.vouched user old flag)
      · rw [here, (moved old here same).1] at flag
        cases flag
    · next elsewhere =>
      rw [if_neg elsewhere]
      exact kept _ _ (holds.vouched user old flag)
  · intro token member unused
    rw [tokens] at member
    obtain ⟨user, old, owner, sent⟩ := holds.usable token member unused
    refine ⟨_, rows ▸ List.mem_map_of_mem old, ?_, ?_⟩
    · split
      · rw [updatedAccount_id]
        exact owner
      · exact owner
    · rw [sentTo, sent]
      split
      · next here =>
        by_cases same : (updatedAccount env request user).email = user.email
        · rw [same]
        · rw [(moved old here same).2 token member (owner.symm.trans here)] at unused
          cases unused
      · rfl

/-! ## Verification e-mails -/

theorem Holds.send {after : AddressHistory} {env : EmailEnvironment} {email token : String}
    (holds : Holds h) (success : sendVerification env email token h.database = .ok after.database)
    (sentTo : after.sentTo = fun hash =>
      if hash = env.hashToken token then some (env.service.lower email) else h.sentTo hash)
    (kept : ∀ userId address, Confirmed h userId address → Confirmed after userId address) :
    Holds after := by
  obtain ⟨user, recipient, success⟩ := bind_eq_ok success
  obtain ⟨tokens, issued, success⟩ := bind_eq_ok success
  obtain ⟨user', lookup, recipient⟩ := bind_eq_ok recipient
  obtain ⟨_, _, recipient⟩ := bind_eq_ok recipient
  cases recipient
  rw [require_eq_ok] at lookup
  obtain ⟨place, address⟩ := member_of_email lookup
  obtain ⟨new, rows⟩ := issueOneTime_rows issued
  have database : { h.database with verificationTokens := tokens } = after.database :=
    Except.ok.inj success
  constructor
  · intro known member flag
    rw [← database] at member flag
    exact kept _ _ (holds.vouched known member flag)
  · intro row member unused
    rw [← database] at member
    change row ∈ tokens.rows at member
    rw [rows] at member
    rw [sentTo]
    rcases List.mem_append.mp member with old | fresh
    · obtain ⟨token', member', rfl⟩ := List.mem_map.mp old
      split at unused
      · cases unused
      · next elsewhere =>
        obtain ⟨known, there, owner, sent⟩ := holds.usable token' member' unused
        have other : token'.tokenHash ≠ env.hashToken token :=
          fun same => new (same ▸ List.mem_map_of_mem member')
        rw [if_neg elsewhere]
        exact ⟨known, database ▸ there, owner, (if_neg other).trans sent⟩
    · rw [List.mem_singleton.mp fresh]
      exact ⟨user, database ▸ place, rfl, (if_pos rfl).trans (congrArg some address)⟩

/-- A usable token verifies the address it was sent to. -/
theorem Holds.verify {after : AddressHistory} {env : EmailEnvironment} {token : String}
    {stored : OneTimeToken} (holds : Holds h)
    (success : Auth.verifyEmail env token h.database = .ok (stored, after.database))
    (sentTo : after.sentTo = h.sentTo)
    (confirms : after.byToken = h.byToken ++
      (h.sentTo stored.tokenHash).toList.map (fun address => (stored.userId, address)))
    (kept : ∀ userId address, Confirmed h userId address → Confirmed after userId address) :
    Holds after := by
  obtain ⟨stored', presented, success⟩ := bind_eq_ok success
  obtain ⟨⟨place, hash⟩, unused, _⟩ := presentedToken_eq_ok.mp presented
  obtain ⟨user, member, owner, sent⟩ := holds.usable stored' place unused
  have found : h.database.users.get? stored'.userId = some user :=
    (Table.get?_eq_some_iff _ _ _).mpr ⟨member, owner⟩
  simp only [AddressDatabase.users] at success found
  rw [found] at success
  obtain ⟨rfl, database⟩ := Prod.mk.inj (Except.ok.inj success)
  have flags (id : Uuid) (other : id ≠ user.id) :
      after.database.isEmailVerified id = h.database.isEmailVerified id := by
    rw [← database]
    exact congrArg OAuthColumns.isEmailVerified (setColumns_of_ne _ _ other)
  constructor
  · intro known there flag
    have old : known ∈ h.database.users.rows := by
      rw [← database] at there
      exact there
    by_cases same : known.id = user.id
    · rw [Table.eq_of_key old member same]
      left
      rw [confirms, sent]
      exact List.mem_append_right _ (List.mem_singleton.mpr (by rw [owner]))
    · rw [flags known.id same] at flag
      exact kept _ _ (holds.vouched known old flag)
  · intro row there live
    rw [← database] at there
    have unmarked : row ∈ h.database.verificationTokens.rows := by
      obtain ⟨token', member', rfl⟩ := List.mem_map.mp there
      split at live
      · cases live
      · next elsewhere =>
        rw [if_neg elsewhere]
        exact member'
    obtain ⟨known, old, owner', sent'⟩ := holds.usable row unmarked live
    refine ⟨known, ?_, owner', ?_⟩
    · rw [← database]
      exact old
    · rw [sentTo]
      exact sent'

/-! ## External logins -/

theorem Holds.login {after : AddressHistory} {env : ExternalEnvironment} {login : ExternalLogin}
    (holds : Holds h) (orderly : Orderly h (.externalLogin env login))
    (success : Auth.externalLogin env h.database.identities login =
      .ok after.database.identities)
    (tokens : after.database.verificationTokens = h.database.verificationTokens)
    (sentTo : after.sentTo = h.sentTo)
    (kept : ∀ userId address, Confirmed h userId address → Confirmed after userId address)
    (confirms : ∀ userId address, ConfirmsAddress env login h.database after.database userId
      address → Confirmed after userId address) : Holds after := by
  have returned {user : Account}
      (returning : Returning h.database.identities after.database.identities login user) :
      Holds after := by
    have rows : after.database.users = h.database.users := returning.users
    have flags (id : Uuid) :
        after.database.isEmailVerified id = h.database.isEmailVerified id := by
      by_cases same : id = user.id
      · rw [same]
        exact returning.flag
      · exact returning.served.flags id same
    constructor
    · intro known member flag
      rw [rows] at member
      rw [flags] at flag
      exact kept _ _ (holds.vouched known member flag)
    · intro token member unused
      rw [tokens] at member
      obtain ⟨known, old, owner, sent⟩ := holds.usable token member unused
      rw [rows, sentTo]
      exact ⟨known, old, owner, sent⟩
  cases effect_of_externalLogin success with
  | known user returning bound link => exact returned returning
  | adopted user returning adopts => exact returned returning
  | created user served fresh rows newcomer flags =>
    refine holds.joins ⟨fresh, rows, served.flags, tokens⟩ sentTo kept ?_
    intro flag
    apply confirms
    obtain ⟨rt, owner, grown⟩ := served.token
    refine ⟨orderly user.email (flags flag) newcomer, rt, ?_, ?_, owner⟩
    · rw [grown]
      exact List.mem_append_right _ (List.mem_singleton_self _)
    · intro old
      have distinct := after.database.identities.oauth.refreshTokens.unique
      rw [grown, List.map_append] at distinct
      exact List.nodup_append.mp distinct |>.2.2 _ (List.mem_map_of_mem old) _
        (List.mem_singleton_self _) rfl

/-! ## Runs -/

theorem holds_step (holds : Holds h) (op : AddressOp) (orderly : Orderly h op) :
    Holds (historyStep h op) := by
  have kept (userId : Uuid) (address : String) (confirmed : Confirmed h userId address) :
      Confirmed (historyStep h op) userId address := confirmed_step h op confirmed
  cases result : op.run h.database with
  | error failure =>
    unfold historyStep
    rw [result]
    exact holds
  | ok after =>
    cases op with
    | register env bind request =>
      have step : historyStep h (.register env bind request) = { h with database := after } := by
        unfold historyStep
        rw [result]
      rw [step] at kept ⊢
      obtain ⟨user, joins, flag⟩ := registerUser_joins result
      refine Holds.joins holds joins rfl kept ?_
      intro verified
      rw [flag] at verified
      cases verified
    | updateProfile env userId request =>
      have step : historyStep h (.updateProfile env userId request) =
          { h with database := after } := by
        unfold historyStep
        rw [result]
      rw [step] at kept ⊢
      exact Holds.updateProfile holds orderly result rfl kept
    | sendVerificationEmail env email token =>
      have step : historyStep h (.sendVerificationEmail env email token) =
          { h with
            database := after
            sentTo := fun hash => if hash = env.hashToken token then
              some (env.service.lower email) else h.sentTo hash } := by
        unfold historyStep
        rw [result]
      rw [step] at kept ⊢
      have success : sendVerification env email token h.database = .ok after := result
      exact Holds.send holds success rfl kept
    | verifyEmail env token =>
      obtain ⟨⟨stored, verified⟩, verification, same⟩ := bind_eq_ok result
      cases same
      have step : historyStep h (.verifyEmail env token) =
          { h with
            database := after
            byToken := h.byToken ++ (h.sentTo stored.tokenHash).toList.map (fun address =>
              (stored.userId, address)) } := by
        unfold historyStep
        rw [result]
        simp only [verification]
      rw [step] at kept ⊢
      exact Holds.verify holds verification rfl rfl kept
    | externalLogin env login =>
      obtain ⟨identities, signed, same⟩ := bind_eq_ok result
      cases same
      have step : historyStep h (.externalLogin env login) =
          { h with
            database := { h.database with identities := identities }
            byProvider := fun userId address => h.byProvider userId address ∨
              ConfirmsAddress env login h.database { h.database with identities := identities }
                userId address } := by
        unfold historyStep
        rw [result]
      rw [step] at kept ⊢
      exact holds.login orderly signed rfl rfl kept (fun _ _ confirms => .inr (.inr confirms))

/-- In a run in which no address changes under a flag or an outstanding token, and
no account is opened with a flag the provider does not stand for, every flag
vouches for the current address. -/
theorem vouched_of_orderly (platform : Platform) (columns : Uuid → OAuthColumns)
    (externalAuthIds : Uuid → Option String) (run : List AddressOp)
    (orderly : Run.AllSteps historyStep Orderly
      (AddressHistory.opening platform columns externalAuthIds) run) :
    Vouched (Run.exec historyStep (AddressHistory.opening platform columns externalAuthIds)
      run) := by
  have holds : Holds (Run.exec historyStep
      (AddressHistory.opening platform columns externalAuthIds) run) := by
    apply Run.exec_invariant_of_allSteps _ _ _ _ orderly
    · exact fun h op holds orderly => holds_step holds op orderly
    · exact ⟨fun user member => absurd member List.not_mem_nil,
        fun token member => absurd member List.not_mem_nil⟩
  exact holds.vouched

/-! ## A changed address -/

def sampleMail : EmailEnvironment where
  service := Api.plainServer Api.oneTokenCredentials
  hashToken token := token

/-- Registration, the e-mail, and the link followed. -/
def registeredAndVerified : List AddressOp :=
  [.register OAuthLogins.googleServer.signup (fun _ _ _ s => .done (partnerRows s))
      ⟨"a@example.com", "correct horse", "A", none, none⟩,
    .sendVerificationEmail sampleMail "a@example.com" "link-1", .verifyEmail sampleMail "link-1"]

def emptyHistory : AddressHistory :=
  AddressHistory.opening OAuthLogins.linkedUser.platform (fun _ => registeredColumns)
    (fun _ => none)

theorem vouched_of_orderly_sample :
    Vouched (Run.exec historyStep emptyHistory registeredAndVerified) :=
  vouched_of_orderly OAuthLogins.linkedUser.platform (fun _ => registeredColumns) (fun _ => none)
    registeredAndVerified ⟨trivial, trivial, trivial, trivial⟩

/-- The verified user gives another address. -/
def movedAway : List AddressOp :=
  registeredAndVerified ++
    [.updateProfile (Api.plainServer Api.oneTokenCredentials) 100
      ⟨none, some "b@example.com", none⟩]

theorem flag_survives_address :
    ¬ Vouched (Run.exec historyStep emptyHistory movedAway) := by
  intro vouched
  have rows : (Run.exec historyStep emptyHistory movedAway).database.users.rows.map
      (fun user => (user.id, user.email)) = [(100, "b@example.com")] := by decide
  have flag : (Run.exec historyStep emptyHistory movedAway).database.isEmailVerified 100 = true := by
    decide
  have confirmed : (Run.exec historyStep emptyHistory movedAway).byToken =
      [(100, "a@example.com")] := by decide
  obtain ⟨user, member, same⟩ := List.mem_map.mp (rows ▸ List.mem_singleton_self _)
  obtain ⟨id, email⟩ := Prod.mk.inj same
  rcases vouched user member (id ▸ flag) with listed | asserted
  · rw [confirmed, id, email] at listed
    simp at listed
  · exact asserted

end Reliastra.Guarantees.VerifiedAddresses
