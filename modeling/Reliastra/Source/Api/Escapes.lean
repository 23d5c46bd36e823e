import Reliastra.Source.Api.Ownership

/-!
# What leaves the organization

The handlers whose rows are not all the organization's, with the requests on
which they write such rows: those that take the user alone, the verification of
a payment, the reviews of vendor submissions, and the regeneration of a report
whose incident is somebody else's.
-/

namespace Reliastra.Source.Api

open Reliastra.Library Auth Organizations

variable {env : ServiceEnvironment} {X : Uuid} {s after : Platform}

/-- The handler returns, and not all it wrote is the organization's. -/
def Foreign (X : Uuid) (s : Platform) (result : Except Failure Platform) : Prop :=
  ∃ after, result = .ok after ∧ ¬ OnlyOf X s after

theorem not_foreign_of_only {result : Except Failure Platform}
    (only : ∀ after, result = .ok after → OnlyOf X s after) : ¬ Foreign X s result := by
  intro ⟨after, success, foreign⟩
  exact foreign (only after success)

theorem only_committed_iff {result : Except Failure Platform} :
    OnlyOf X s (committed env s result) ↔ ¬ (env.accepts = true ∧ Foreign X s result) := by
  unfold committed
  cases result with
  | error failure =>
    have idle : ¬ Foreign X s (.error failure) := not_foreign_of_only (fun _ same => nomatch same)
    simp only [OnlyOf.refl, idle, and_false, not_false_eq_true]
  | ok after =>
    have written : Foreign X s (.ok after) ↔ ¬ OnlyOf X s after := by
      simp [Foreign]
    cases accepts : env.accepts with
    | false => simp [OnlyOf.refl]
    | true => simp [written]

theorem ne_of_flushNew {ρ : Type} {key : ρ → Uuid} {t u : Table key} {row : ρ}
    (success : flushNew t row = .ok u) : u ≠ t := by
  intro same
  have rows := (Table.insert_eq_some (flushNew_eq_ok.mp success)).2
  rw [same] at rows
  exact absurd rows (by simp)

/-! ## Profiles -/

/-- The request gives the account another name, e-mail or password. -/
structure ChangesProfile (env : ServiceEnvironment) (userId : Uuid) (request : UserUpdateRequest)
    (s : Platform) (user : Account) : Prop where
  stored : s.users.get? userId = some user
  unclaimed : ¬ ∃ email ∈ request.email, ∃ existing ∈ userByEmail env s email,
    existing.id ≠ userId
  different : (∃ fullName ∈ request.fullName, fullName ≠ user.fullName) ∨
    (∃ email ∈ request.email, env.lower email ≠ user.email) ∨
    (∃ password ∈ request.password, env.passwordHash password ≠ user.passwordHash)

theorem updatedAccount_eq_self_iff (env : ServiceEnvironment) (request : UserUpdateRequest)
    (user : Account) :
    updatedAccount env request user = user ↔
      ¬ ((∃ fullName ∈ request.fullName, fullName ≠ user.fullName) ∨
        (∃ email ∈ request.email, env.lower email ≠ user.email) ∨
        (∃ password ∈ request.password, env.passwordHash password ≠ user.passwordHash)) := by
  obtain ⟨fullName, email, password⟩ := request
  have columns : { user with
      fullName := fullName.getD user.fullName
      email := (email.map env.lower).getD user.email
      passwordHash := (password.map env.passwordHash).getD user.passwordHash } = user ↔
      fullName.getD user.fullName = user.fullName ∧
        (email.map env.lower).getD user.email = user.email ∧
        (password.map env.passwordHash).getD user.passwordHash = user.passwordHash := by
    cases user
    simp only [Account.mk.injEq, true_and, and_true]
    exact and_left_comm
  have kept : updatedAccount env ⟨fullName, email, password⟩ user = user ↔
      fullName.getD user.fullName = user.fullName ∧
        (email.map env.lower).getD user.email = user.email ∧
        (password.map env.passwordHash).getD user.passwordHash = user.passwordHash := by
    unfold updatedAccount
    dsimp only
    split
    · next same => exact iff_of_true rfl (columns.mp same)
    · next changed =>
      refine iff_of_false (fun same => changed ?_) (fun same => changed (columns.mpr same))
      have name := congrArg Account.fullName same
      have address := congrArg Account.email same
      have hash := congrArg Account.passwordHash same
      exact columns.mpr ⟨name, address, hash⟩
  rw [kept]
  cases fullName <;> cases email <;> cases password <;> simp

theorem updateProfile_foreign_iff {userId : Uuid} {request : UserUpdateRequest} :
    Foreign X s (updateProfile env userId request s) ↔
      ∃ user, ChangesProfile env userId request s user := by
  unfold updateProfile
  constructor
  · intro ⟨after, success, foreign⟩
    obtain ⟨user, found, success⟩ := bind_eq_ok success
    obtain ⟨_, unclaimed, success⟩ := bind_eq_ok success
    have stored := require_eq_ok.mp found
    refine ⟨user, stored, refuseIf_eq_ok.mp unclaimed, ?_⟩
    by_contra same
    have kept := (updatedAccount_eq_self_iff env request user).mpr same
    obtain ⟨place, _⟩ := (Table.get?_eq_some_iff _ _ _).mp stored
    obtain rfl := Except.ok.inj success
    refine foreign { OnlyOf.refl X s with users := ?_ }
    refine Table.updateKey_eq_self (updatedAccount_id env request) (fun row there here => ?_)
    rw [Table.eq_of_key there place here]
    exact kept
  · intro ⟨user, stored, unclaimed, different⟩
    refine ⟨_, bind_eq_ok_iff.mpr ⟨user, require_eq_ok.mpr stored,
      bind_eq_ok_iff.mpr ⟨(), refuseIf_eq_ok.mpr unclaimed, rfl⟩⟩, fun only => ?_⟩
    have found := congrArg (fun users => Table.get? users userId) only.users
    dsimp only at found
    have here : user.id = userId := ((Table.get?_eq_some_iff _ _ _).mp stored).2
    rw [Table.get?_updateKey, stored, Option.map_some, if_pos here.symm] at found
    exact (updatedAccount_eq_self_iff env request user).mp (Option.some.inj found) different

/-! ## Organizations -/

/-- The request makes an organization: its slug is free, and the rows are new. -/
structure CreatesOrganization (env : ServiceEnvironment) (X : Uuid)
    (request : OrganizationCreateRequest) (s : Platform) : Prop where
  slug : organizationBySlug env s (organizationSlug env request) = none
  organization : env.newId 0 ∉ s.organizations.rows.map (·.id)
  member : env.newId 1 ∉ s.members.rows.map (·.id)
  application : env.newId 2 ∉ s.workspace.applications.rows.map (·.id)
  other : env.newId 0 ≠ X

theorem createOrg_foreign_iff {userId : Uuid} {request : OrganizationCreateRequest} :
    Foreign X s (createOrg env userId request s) ↔ CreatesOrganization env X request s := by
  unfold createOrg
  dsimp only
  constructor
  · intro ⟨after, success, foreign⟩
    obtain ⟨_, slug, success⟩ := bind_eq_ok success
    obtain ⟨organizations, created, success⟩ := bind_eq_ok success
    obtain ⟨members, joined, success⟩ := bind_eq_ok success
    obtain ⟨applications, added, success⟩ := bind_eq_ok success
    refine ⟨by simpa using slug, (flushNew_isOk_iff _ _).mp ⟨_, created⟩,
      (flushNew_isOk_iff _ _).mp ⟨_, joined⟩, (flushNew_isOk_iff _ _).mp ⟨_, added⟩, ?_⟩
    intro ours
    obtain rfl := Except.ok.inj success
    exact foreign { OnlyOf.refl X s with
      organizations := sameOutside_flushNew created ours
      members := sameOutside_flushNew joined ours
      workspace := { WorkspaceOnlyOf.refl X s.workspace with
        applications := sameOutside_flushNew added ours } }
  · intro ⟨slug, organization, member, application, other⟩
    obtain ⟨organizations, created⟩ :=
      (flushNew_isOk_iff s.organizations (newOrganization env request)).mpr organization
    obtain ⟨members, joined⟩ := (flushNew_isOk_iff s.members
      (newMember env (env.newId 1) (newOrganization env request).id userId .owner)).mpr member
    obtain ⟨applications, added⟩ := (flushNew_isOk_iff s.workspace.applications
      (defaultApplication env (env.newId 2) (newOrganization env request).id)).mpr application
    refine ⟨_, bind_eq_ok_iff.mpr ⟨(), by simp [slug], bind_eq_ok_iff.mpr ⟨_, created,
      bind_eq_ok_iff.mpr ⟨_, joined, bind_eq_ok_iff.mpr ⟨_, added, rfl⟩⟩⟩⟩, fun only => ?_⟩
    obtain ⟨fresh, rows⟩ := Table.insert_eq_some (flushNew_eq_ok.mp created)
    have stored : newOrganization env request ∈ organizations.rows := by simp [rows]
    exact fresh (List.mem_map_of_mem ((only.organizations _ other).mp stored))

/-! ## Referral codes and rewards -/

/-- The first visit of a user to the referral page. -/
structure OpensReferralCode (env : ServiceEnvironment) (userId : Uuid) (s : Platform) : Prop where
  user : ∃ user, s.users.get? userId = some user
  first : referralCodeOf s userId = none
  fresh : env.newId 0 ∉ s.community.referralCodes.rows.map (·.id)

theorem getReferralInfo_foreign_iff {userId : Uuid} :
    Foreign X s (getReferralInfo env userId s) ↔ OpensReferralCode env userId s := by
  unfold getReferralInfo
  constructor
  · intro ⟨after, success, foreign⟩
    obtain ⟨user, found, success⟩ := bind_eq_ok success
    split at success
    · obtain rfl := Except.ok.inj success
      exact absurd (OnlyOf.refl X s) foreign
    · next first =>
      obtain ⟨referralCodes, opened, success⟩ := bind_eq_ok success
      exact ⟨⟨user, require_eq_ok.mp found⟩, first, (flushNew_isOk_iff _ _).mp ⟨_, opened⟩⟩
  · intro ⟨⟨user, stored⟩, first, fresh⟩
    obtain ⟨referralCodes, opened⟩ := (flushNew_isOk_iff s.community.referralCodes
      ⟨env.newId 0, userId, generateUniqueCode env s user.fullName, true⟩).mpr fresh
    refine ⟨{ s with community := { s.community with referralCodes := referralCodes } },
      bind_eq_ok_iff.mpr ⟨user, require_eq_ok.mpr stored, ?_⟩, fun only =>
        ne_of_flushNew opened (congrArg Community.referralCodes only.community)⟩
    rw [first]
    exact bind_eq_ok_iff.mpr ⟨_, opened, rfl⟩

/-- A reward the user can claim now. -/
structure ClaimsReward (env : ServiceEnvironment) (userId rewardId : Uuid) (s : Platform)
    (reward : ReferralReward) (referral : Referral) : Prop where
  stored : s.community.rewards.get? rewardId = some reward
  theirs : reward.beneficiaryUserId = userId
  pending : reward.status = "pending"
  unexpired : ¬ ∃ expiry ∈ reward.expiresAt, expiry < env.now
  earned : s.community.referrals.get? reward.referralId = some referral
  active : ∃ referred, s.users.get? referral.referredId = some referred ∧
    ¬ referred.updatedAt < env.now - daysToMicros 30
  onboarded : ¬ ((referral.referredOrgId.map (dependencyCount s)).getD 0) = 0

theorem claimable_eq_ok_iff {userId rewardId : Uuid} {reward : ReferralReward}
    {referral : Referral} :
    claimable env userId rewardId s = .ok (reward, referral) ↔
      ClaimsReward env userId rewardId s reward referral := by
  unfold claimable
  constructor
  · intro success
    obtain ⟨_, stored, success⟩ := bind_eq_ok success
    obtain ⟨_, theirs, success⟩ := bind_eq_ok success
    obtain ⟨_, pending, success⟩ := bind_eq_ok success
    obtain ⟨_, unexpired, success⟩ := bind_eq_ok success
    obtain ⟨_, found, success⟩ := bind_eq_ok success
    obtain ⟨referred, known, success⟩ := bind_eq_ok success
    obtain ⟨_, active, success⟩ := bind_eq_ok success
    obtain ⟨_, onboarded, success⟩ := bind_eq_ok success
    cases success
    exact ⟨require_eq_ok.mp stored, not_not.mp (refuseIf_eq_ok.mp theirs),
      not_not.mp (refuseIf_eq_ok.mp pending), refuseIf_eq_ok.mp unexpired, require_eq_ok.mp found,
      ⟨referred, require_eq_ok.mp known, refuseIf_eq_ok.mp active⟩, refuseIf_eq_ok.mp onboarded⟩
  · intro ⟨stored, theirs, pending, unexpired, found, ⟨referred, known, active⟩, onboarded⟩
    exact bind_eq_ok_iff.mpr ⟨reward, require_eq_ok.mpr stored,
      bind_eq_ok_iff.mpr ⟨(), refuseIf_eq_ok.mpr (not_not.mpr theirs),
      bind_eq_ok_iff.mpr ⟨(), refuseIf_eq_ok.mpr (not_not.mpr pending),
      bind_eq_ok_iff.mpr ⟨(), refuseIf_eq_ok.mpr unexpired,
      bind_eq_ok_iff.mpr ⟨referral, require_eq_ok.mpr found,
      bind_eq_ok_iff.mpr ⟨referred, require_eq_ok.mpr known,
      bind_eq_ok_iff.mpr ⟨(), refuseIf_eq_ok.mpr active,
      bind_eq_ok_iff.mpr ⟨(), refuseIf_eq_ok.mpr onboarded, rfl⟩⟩⟩⟩⟩⟩⟩⟩

/-- The row a reward adds to the overrides of an organization is new. -/
def OverrideFresh (env : ServiceEnvironment) (userId : Uuid) (s : Platform)
    (reward : ReferralReward) : Prop :=
  (rewardOrganization s userId reward).isSome →
    (reward.type = "extra_dependencies" ∨ reward.type = "discount_pct") →
      env.newId 0 ∉ s.workspace.planOverrides.rows.map (·.id)

theorem applyReward_isOk_iff {reward : ReferralReward} {orgId : Uuid} {w : Workspace} :
    (∃ applied, applyReward env reward orgId w = .ok applied) ↔
      ((reward.type = "extra_dependencies" ∨ reward.type = "discount_pct") →
        env.newId 0 ∉ w.planOverrides.rows.map (·.id)) := by
  unfold applyReward
  split
  · next overrides =>
    constructor
    · rintro ⟨applied, success⟩ _
      obtain ⟨planOverrides, added, _⟩ := bind_eq_ok success
      exact (flushNew_isOk_iff _ _).mp ⟨_, added⟩
    · intro fresh
      obtain ⟨planOverrides, added⟩ := (flushNew_isOk_iff w.planOverrides
        { id := env.newId 0
          orgId := orgId
          overrideType := reward.type
          overrideValue := reward.value
          source := "referral"
          sourceReferralId := some reward.referralId
          isActive := true
          expiresAt := some (env.now + daysToMicros 30) }).mpr (fresh overrides)
      exact ⟨_, bind_eq_ok_iff.mpr ⟨_, added, rfl⟩⟩
  · next plain =>
    refine iff_of_true ?_ (fun overrides => absurd overrides plain)
    split
    · exact ⟨_, rfl⟩
    · exact ⟨_, rfl⟩

theorem grantReward_isOk_iff {userId : Uuid} {reward : ReferralReward} :
    (∃ granted, grantReward env userId reward s = .ok granted) ↔
      OverrideFresh env userId s reward := by
  unfold grantReward OverrideFresh
  cases rewardOrganization s userId reward with
  | none => exact iff_of_true ⟨s.workspace, rfl⟩ (fun somewhere => nomatch somewhere)
  | some orgId =>
    simp only [applyReward_isOk_iff, Option.isSome_some, forall_const]

theorem grantReward_auditLogs {userId : Uuid} {reward : ReferralReward} {granted : Workspace}
    (success : grantReward env userId reward s = .ok granted) :
    granted.auditLogs = s.workspace.auditLogs := by
  unfold grantReward at success
  split at success
  · unfold applyReward at success
    split at success
    · obtain ⟨planOverrides, _, success⟩ := bind_eq_ok success
      obtain rfl := Except.ok.inj success
      rfl
    split at success
    · obtain rfl := Except.ok.inj success
      rfl
    · obtain rfl := Except.ok.inj success
      rfl
  · obtain rfl := Except.ok.inj success
    rfl

theorem claimReward_foreign_iff {userId rewardId : Uuid} :
    Foreign X s (claimReward env userId rewardId s) ↔
      ∃ reward referral, ClaimsReward env userId rewardId s reward referral ∧
        OverrideFresh env userId s reward ∧
        env.newId 1 ∉ s.workspace.auditLogs.rows.map (·.id) := by
  unfold claimReward
  constructor
  · intro ⟨after, success, _⟩
    obtain ⟨⟨reward, referral⟩, claimed, success⟩ := bind_eq_ok success
    obtain ⟨granted, rewarded, success⟩ := bind_eq_ok success
    obtain ⟨auditLogs, logged, _⟩ := bind_eq_ok success
    have fresh := (flushNew_isOk_iff _ _).mp ⟨_, logged⟩
    rw [grantReward_auditLogs rewarded] at fresh
    exact ⟨reward, referral, claimable_eq_ok_iff.mp claimed,
      grantReward_isOk_iff.mp ⟨granted, rewarded⟩, fresh⟩
  · intro ⟨reward, referral, claims, overrides, audit⟩
    obtain ⟨granted, rewarded⟩ := grantReward_isOk_iff.mpr overrides
    rw [← grantReward_auditLogs rewarded] at audit
    obtain ⟨auditLogs, logged⟩ := (flushNew_isOk_iff granted.auditLogs
      ⟨env.newId 1, none, some userId, "referral_reward_claimed", "referral_reward",
        rewardId⟩).mpr audit
    refine ⟨_, bind_eq_ok_iff.mpr ⟨(reward, referral), claimable_eq_ok_iff.mpr claims,
      bind_eq_ok_iff.mpr ⟨granted, rewarded, bind_eq_ok_iff.mpr ⟨auditLogs, logged, rfl⟩⟩⟩,
      fun only => ?_⟩
    have rewards := congrArg Community.rewards only.community
    have found := congrArg (fun rewards => Table.get? rewards rewardId) rewards
    dsimp only at found
    have here : reward.id = rewardId := ((Table.get?_eq_some_iff _ _ _).mp claims.stored).2
    rw [Table.get?_updateKey, claims.stored, Option.map_some, if_pos here.symm] at found
    have status : "claimed" = "pending" :=
      (congrArg ReferralReward.status (Option.some.inj found)).trans claims.pending
    exact absurd status (by decide)

/-! ## Payments -/

/-- A payment whose verification writes more than the organization's rows: it
earns a partner a commission, or it is another organization's and buys that
organization something it does not have yet. -/
def PaysOutside (env : ServiceEnvironment) (X : Uuid) (s : Platform) (reference : String) : Prop :=
  ∃ orgId data, Provisions env s reference orgId data ∧
    (Billing.PaysCommission env.credentials.host env.billing orgId data reference s.ledger ∨
      (orgId ≠ X ∧ ¬ AlreadyProvisioned env s orgId data reference))

theorem commissioned_eq_iff {reference : String} {orgId : Uuid} {data : Json}
    (provisions : Provisions env s reference orgId data) :
    commissioned env s reference orgId data = s.partners ↔
      ¬ Billing.PaysCommission env.credentials.host env.billing orgId data reference s.ledger := by
  constructor
  · intro same pays
    obtain ⟨commission, _, rows⟩ := Billing.recordPartnerCommission_paid pays provisions.recorded
    have unchanged := congrArg (fun tables => tables.commissions.rows) same
    have longer : s.partners.commissions.rows ++ [commission] = s.partners.commissions.rows :=
      rows.symm.trans unchanged
    exact absurd longer (by simp)
  · intro unpaid
    unfold commissioned
    rw [Billing.recordPartnerCommission_idle unpaid]
    rfl

theorem verifyPayment_foreign_iff {reference : String} :
    Foreign X s (verifyPayment env reference s) ↔ PaysOutside env X s reference := by
  constructor
  · intro ⟨after, success, foreign⟩
    rw [verifyPayment_eq_ok success] at foreign
    by_cases goes : ∃ orgId data, Provisions env s reference orgId data
    · obtain ⟨orgId, data, provisions⟩ := goes
      rw [only_verified_iff provisions, commissioned_eq_iff provisions] at foreign
      refine ⟨orgId, data, provisions, ?_⟩
      by_cases pays : Billing.PaysCommission env.credentials.host env.billing orgId data reference
          s.ledger
      · exact Or.inl pays
      · exact Or.inr (not_or.mp (fun ours => foreign ⟨pays, ours⟩))
    · have idle : verified env s reference = s.billing :=
        Billing.verify_idle (fun orgId data provisions => goes ⟨orgId, data, provisions⟩)
      rw [idle, withBilling_billing] at foreign
      exact absurd (OnlyOf.refl X s) foreign
  · intro ⟨orgId, data, provisions, outside⟩
    have foreign : ¬ OnlyOf X s (s.withBilling (verified env s reference)) := by
      rw [only_verified_iff provisions, commissioned_eq_iff provisions]
      intro ⟨unpaid, ours⟩
      rcases outside with pays | ⟨other, unprovisioned⟩
      · exact unpaid pays
      · exact ours.elim other unprovisioned
    cases result : verifyPayment env reference s with
    | ok after => exact ⟨after, rfl, verifyPayment_eq_ok result ▸ foreign⟩
    | error failure =>
      rw [verified_of_error result, withBilling_billing] at foreign
      exact absurd (OnlyOf.refl X s) foreign

/-! ## Vendor submissions -/

/-- A submission a key of the organization can decide on: the organization's id
is written where a user's is asked for. -/
structure Reviews (X : Uuid) (s : Platform) (submissionId : Uuid) (submission : VendorSubmission) :
    Prop where
  stored : s.community.submissions.get? submissionId = some submission
  pending : submission.status = "pending_review"
  reviewer : ∃ user, s.users.get? X = some user

theorem pendingSubmission_eq_ok_iff {submissionId : Uuid} {action past : String}
    {submission : VendorSubmission} :
    pendingSubmission s submissionId action past = .ok submission ↔
      s.community.submissions.get? submissionId = some submission ∧
        submission.status = "pending_review" := by
  unfold pendingSubmission
  constructor
  · intro success
    obtain ⟨_, stored, success⟩ := bind_eq_ok success
    obtain ⟨_, pending, success⟩ := bind_eq_ok success
    obtain rfl := Except.ok.inj success
    exact ⟨require_eq_ok.mp stored, not_not.mp (refuseIf_eq_ok.mp pending)⟩
  · intro ⟨stored, pending⟩
    exact bind_eq_ok_iff.mpr ⟨submission, require_eq_ok.mpr stored,
      bind_eq_ok_iff.mpr ⟨(), refuseIf_eq_ok.mpr (not_not.mpr pending), rfl⟩⟩

/-- A decision changes the status of the submission it is about. -/
theorem reviewSubmission_changes {submissionId : Uuid} {submission : VendorSubmission}
    {status : String} {note : Option String} {submissions : Table VendorSubmission.id}
    (stored : s.community.submissions.get? submissionId = some submission)
    (decided : status ≠ submission.status)
    (success : reviewSubmission env s submission status X note = .ok submissions) :
    submissions ≠ s.community.submissions := by
  intro same
  unfold reviewSubmission at success
  obtain ⟨user, _, success⟩ := bind_eq_ok success
  obtain rfl := Except.ok.inj success
  have here : submission.id = submissionId := ((Table.get?_eq_some_iff _ _ _).mp stored).2
  have found := congrArg (fun submissions => Table.get? submissions submissionId) same
  rw [Table.get?_updateKey, stored, Option.map_some, if_pos here.symm] at found
  exact decided (congrArg VendorSubmission.status (Option.some.inj found))

theorem reviewSubmission_isOk_iff {submission : VendorSubmission} {status : String}
    {note : Option String} :
    (∃ submissions, reviewSubmission env s submission status X note = .ok submissions) ↔
      ∃ user, s.users.get? X = some user := by
  unfold reviewSubmission
  constructor
  · intro ⟨submissions, success⟩
    obtain ⟨user, known, _⟩ := bind_eq_ok success
    exact ⟨user, require_eq_ok.mp known⟩
  · intro ⟨user, known⟩
    exact ⟨_, bind_eq_ok_iff.mpr ⟨user, require_eq_ok.mpr known, rfl⟩⟩

theorem rejectSubmission_foreign_iff {submissionId : Uuid} {reason : String} :
    Foreign X s (rejectSubmission env X submissionId reason s) ↔
      ∃ submission, Reviews X s submissionId submission := by
  unfold rejectSubmission
  constructor
  · intro ⟨after, success, _⟩
    obtain ⟨submission, found, success⟩ := bind_eq_ok success
    obtain ⟨submissions, reviewed, _⟩ := bind_eq_ok success
    obtain ⟨stored, pending⟩ := pendingSubmission_eq_ok_iff.mp found
    exact ⟨submission, stored, pending, reviewSubmission_isOk_iff.mp ⟨_, reviewed⟩⟩
  · intro ⟨submission, stored, pending, reviewer⟩
    obtain ⟨submissions, reviewed⟩ := reviewSubmission_isOk_iff.mpr reviewer
    refine ⟨{ s with community := { s.community with submissions := submissions } },
      bind_eq_ok_iff.mpr ⟨submission, pendingSubmission_eq_ok_iff.mpr ⟨stored, pending⟩,
        bind_eq_ok_iff.mpr ⟨submissions, reviewed, rfl⟩⟩, fun only => ?_⟩
    refine reviewSubmission_changes stored ?_ reviewed
      (congrArg Community.submissions only.community)
    rw [pending]
    decide

/-- The endpoints of a new vendor have ids of their own. -/
structure VendorEndpointsFresh (env : ServiceEnvironment) (count : Nat) (s : Platform) : Prop where
  distinct : ((List.range count).map (fun i => env.newId (i + 1))).Nodup
  fresh : ∀ i < count, env.newId (i + 1) ∉ s.community.vendorEndpoints.rows.map (·.id)

theorem foldlM_flushNew_isOk_iff {ρ σ : Type} {key : ρ → Uuid} (f : σ → ρ) (items : List σ)
    (t : Table key) :
    (∃ u, items.foldlM (fun t item => flushNew t (f item)) t = .ok u) ↔
      (items.map (fun item => key (f item))).Nodup ∧
        ∀ item ∈ items, key (f item) ∉ t.rows.map key := by
  induction items generalizing t with
  | nil => exact iff_of_true ⟨t, rfl⟩ ⟨List.nodup_nil, by simp⟩
  | cons item rest ih =>
    rw [List.foldlM_cons]
    constructor
    · intro ⟨u, success⟩
      obtain ⟨added, first, success⟩ := bind_eq_ok success
      obtain ⟨fresh, rows⟩ := Table.insert_eq_some (flushNew_eq_ok.mp first)
      obtain ⟨distinct, others⟩ := (ih added).mp ⟨u, success⟩
      simp only [rows, List.map_append, List.map_cons, List.map_nil, List.mem_append,
        List.mem_singleton, not_or] at others
      refine ⟨List.nodup_cons.mpr ⟨fun taken => ?_, distinct⟩, List.forall_mem_cons.mpr
        ⟨fresh, fun other place => (others other place).1⟩⟩
      obtain ⟨other, place, same⟩ := List.mem_map.mp taken
      exact (others other place).2 same
    · intro ⟨distinct, fresh⟩
      obtain ⟨different, distinct⟩ := List.nodup_cons.mp distinct
      obtain ⟨free, others⟩ := List.forall_mem_cons.mp fresh
      obtain ⟨added, first⟩ := (flushNew_isOk_iff t (f item)).mpr free
      obtain ⟨_, rows⟩ := Table.insert_eq_some (flushNew_eq_ok.mp first)
      have still : ∀ other ∈ rest, key (f other) ∉ added.rows.map key := by
        intro other place
        simp only [rows, List.map_append, List.map_cons, List.map_nil, List.mem_append,
          List.mem_singleton, not_or]
        exact ⟨others other place, fun same => different (List.mem_map.mpr ⟨other, place, same⟩)⟩
      obtain ⟨u, done⟩ := (ih added).mpr ⟨distinct, still⟩
      exact ⟨u, bind_eq_ok_iff.mpr ⟨added, first, done⟩⟩

theorem createVendorEndpoints_isOk_iff (vendorId : Uuid) (urls : List String) :
    (∃ endpoints, createVendorEndpoints env vendorId urls s.community.vendorEndpoints =
      .ok endpoints) ↔ VendorEndpointsFresh env urls.length s := by
  have ids : urls.zipIdx.map (fun pair => env.newId (pair.2 + 1)) =
      (List.range urls.length).map (fun i => env.newId (i + 1)) := by
    rw [List.range_eq_range', ← List.zipIdx_map_snd 0 urls, List.map_map]
    rfl
  unfold createVendorEndpoints
  rw [foldlM_flushNew_isOk_iff
    (fun pair : String × Nat => newVendorEndpoint (env.newId (pair.2 + 1)) vendorId pair.1)]
  constructor
  · intro ⟨distinct, fresh⟩
    refine ⟨ids ▸ distinct, fun i bound => ?_⟩
    have place : (urls[i], i) ∈ urls.zipIdx := by
      rw [List.mem_zipIdx_iff_getElem?]
      exact List.getElem?_eq_getElem bound
    exact fresh _ place
  · intro ⟨distinct, fresh⟩
    refine ⟨ids.symm ▸ distinct, fun pair place => ?_⟩
    exact fresh pair.2 (List.snd_lt_of_mem_zipIdx place)

/-- A submission that becomes a vendor. -/
structure Approves (env : ServiceEnvironment) (s : Platform) (request : ApproveVendorRequest) :
    Prop where
  name : ¬ ∃ vendor ∈ s.community.vendors.rows, vendor.vendorName = env.lower request.vendorName
  vendor : env.newId 0 ∉ s.community.vendors.rows.map (·.id)
  endpoints : VendorEndpointsFresh env (request.endpoints.drop 1).length.succ s

theorem approveSubmission_foreign_iff {submissionId : Uuid} {request : ApproveVendorRequest} :
    Foreign X s (approveSubmission env X submissionId request s) ↔
      Approves env s request ∧ ∃ submission, Reviews X s submissionId submission := by
  unfold approveSubmission
  constructor
  · intro ⟨after, success, _⟩
    obtain ⟨submission, found, success⟩ := bind_eq_ok success
    obtain ⟨_, name, success⟩ := bind_eq_ok success
    obtain ⟨vendors, added, success⟩ := bind_eq_ok success
    obtain ⟨endpoints, listed, success⟩ := bind_eq_ok success
    obtain ⟨submissions, reviewed, _⟩ := bind_eq_ok success
    obtain ⟨stored, pending⟩ := pendingSubmission_eq_ok_iff.mp found
    exact ⟨⟨refuseIf_eq_ok.mp name, (flushNew_isOk_iff _ _).mp ⟨vendors, added⟩,
        (createVendorEndpoints_isOk_iff _ _).mp ⟨endpoints, listed⟩⟩,
      submission, stored, pending, reviewSubmission_isOk_iff.mp ⟨submissions, reviewed⟩⟩
  · intro ⟨⟨name, vendor, endpoints⟩, submission, stored, pending, reviewer⟩
    obtain ⟨vendors, added⟩ :=
      (flushNew_isOk_iff s.community.vendors (newVendor env request submission)).mpr vendor
    obtain ⟨vendorEndpoints, listed⟩ := (createVendorEndpoints_isOk_iff
      (newVendor env request submission).id ((newVendor env request submission).endpointUrl ::
        request.endpoints.drop 1)).mpr endpoints
    obtain ⟨submissions, reviewed⟩ := reviewSubmission_isOk_iff.mpr reviewer
    refine ⟨_, bind_eq_ok_iff.mpr ⟨submission, pendingSubmission_eq_ok_iff.mpr ⟨stored, pending⟩,
      bind_eq_ok_iff.mpr ⟨(), refuseIf_eq_ok.mpr name, bind_eq_ok_iff.mpr ⟨vendors, added,
      bind_eq_ok_iff.mpr ⟨vendorEndpoints, listed,
      bind_eq_ok_iff.mpr ⟨submissions, reviewed, rfl⟩⟩⟩⟩⟩, fun only => ?_⟩
    exact ne_of_flushNew added (congrArg Community.vendors only.community)

/-! ## Evidence -/

/-- A report of the organization about an incident that is not: its regeneration
follows the incident. -/
structure RegeneratesOutside (env : ServiceEnvironment) (X : Uuid) (s : Platform) (reportId : Uuid)
    (report : EvidenceReport) (incident : Incident) (dependency : Dependency) : Prop where
  stored : s.workspace.evidenceReports.get? reportId = some report
  ours : report.orgId = X
  about : s.workspace.incidents.get? report.incidentId = some incident
  theirs : incident.orgId ≠ X
  observed : dependencyById s incident.dependencyId = some dependency
  rendered : ∃ rendering, env.renderEvidence s.workspace incident dependency = .ok rendering
  report : env.newId 0 ∉ s.workspace.evidenceReports.rows.map (·.id)
  snapshot : env.newId 1 ∉ s.workspace.evidenceSnapshots.rows.map (·.id)
  audit : env.newId 2 ∉ s.workspace.auditLogs.rows.map (·.id)

theorem regenerateReport_foreign_iff {reportId : Uuid} :
    Foreign X s (regenerateReport env X reportId s) ↔
      ∃ report incident dependency,
        RegeneratesOutside env X s reportId report incident dependency := by
  unfold regenerateReport
  constructor
  · intro ⟨after, success, foreign⟩
    obtain ⟨report, found, success⟩ := bind_eq_ok success
    obtain ⟨stored, ours⟩ := requireOwned_eq_ok.mp found
    obtain ⟨other, place, here, only, _⟩ := generateForIncident_only success
    unfold generateForIncident at success
    obtain ⟨incident, about, success⟩ := bind_eq_ok success
    obtain ⟨dependency, observed, success⟩ := bind_eq_ok success
    obtain ⟨rendering, rendered, success⟩ := bind_eq_ok success
    obtain ⟨reports, reported, success⟩ := bind_eq_ok success
    obtain ⟨snapshots, taken, success⟩ := bind_eq_ok success
    obtain ⟨auditLogs, logged, _⟩ := bind_eq_ok success
    have about := require_eq_ok.mp about
    obtain ⟨place', here'⟩ := (Table.get?_eq_some_iff _ _ _).mp about
    obtain rfl := Table.eq_of_key place place' (here.trans here'.symm)
    refine ⟨report, other, dependency, stored, ours, about, fun same => foreign (same ▸ only),
      require_eq_ok.mp observed, ⟨rendering, rendered⟩,
      (flushNew_isOk_iff s.workspace.evidenceReports _).mp ⟨reports, reported⟩,
      (flushNew_isOk_iff s.workspace.evidenceSnapshots _).mp ⟨snapshots, taken⟩,
      (flushNew_isOk_iff s.workspace.auditLogs _).mp ⟨auditLogs, logged⟩⟩
  · intro ⟨report, incident, dependency, outside⟩
    obtain ⟨rendering, rendered⟩ := outside.rendered
    obtain ⟨reports, reported⟩ := (flushNew_isOk_iff s.workspace.evidenceReports
      (newReport env incident rendering)).mpr outside.report
    obtain ⟨snapshots, taken⟩ := (flushNew_isOk_iff s.workspace.evidenceSnapshots
      (newSnapshot env incident dependency rendering)).mpr outside.snapshot
    obtain ⟨auditLogs, logged⟩ := (flushNew_isOk_iff s.workspace.auditLogs
      ⟨env.newId 2, some incident.orgId, none, "EVIDENCE_GENERATED", "evidence_snapshot",
        env.newId 1⟩).mpr outside.audit
    have generated : ∃ after, generateForIncident env report.incidentId s = .ok after :=
      ⟨_, bind_eq_ok_iff.mpr ⟨incident, require_eq_ok.mpr outside.about,
        bind_eq_ok_iff.mpr ⟨dependency, require_eq_ok.mpr outside.observed,
        bind_eq_ok_iff.mpr ⟨rendering, rendered, bind_eq_ok_iff.mpr ⟨reports, reported,
        bind_eq_ok_iff.mpr ⟨snapshots, taken,
        bind_eq_ok_iff.mpr ⟨auditLogs, logged, rfl⟩⟩⟩⟩⟩⟩⟩
    obtain ⟨after, done⟩ := generated
    refine ⟨after, bind_eq_ok_iff.mpr ⟨report,
      requireOwned_eq_ok.mpr ⟨outside.stored, outside.ours⟩, done⟩, fun only => ?_⟩
    obtain ⟨other, place, here, _, written, added, new, owner⟩ := generateForIncident_only done
    obtain ⟨place', here'⟩ := (Table.get?_eq_some_iff _ _ _).mp outside.about
    obtain rfl := Table.eq_of_key place place' (here.trans here'.symm)
    have foreign : written.orgId ≠ X := fun same => outside.theirs (owner.symm.trans same)
    exact new ((only.workspace.evidenceReports written foreign).mp added)

/-! ## Timeline links -/

theorem createShareLink_foreign_iff {vendorName : String} {userId : Option Uuid}
    {request : TimelineShareCreateRequest} :
    Foreign X s (createShareLink env vendorName userId request s) ↔
      env.newId 0 ∉ s.community.timelineShares.rows.map (·.id) := by
  unfold createShareLink
  constructor
  · intro ⟨after, success, _⟩
    obtain ⟨timelineShares, added, _⟩ := bind_eq_ok success
    exact (flushNew_isOk_iff _ _).mp ⟨timelineShares, added⟩
  · intro fresh
    obtain ⟨timelineShares, added⟩ := (flushNew_isOk_iff s.community.timelineShares
      { id := env.newId 0
        vendorName := env.lower vendorName
        userId := userId
        shareToken := env.generatedSecret
        window := request.window
        region := request.region
        note := request.note
        utmSource := none
        viewCount := 0
        expiresAt := env.now + secondsToMicros 3600 }).mpr fresh
    refine ⟨{ s with community := { s.community with timelineShares := timelineShares } },
      bind_eq_ok_iff.mpr ⟨timelineShares, added, rfl⟩, fun only => ?_⟩
    exact ne_of_flushNew added (congrArg Community.timelineShares only.community)

end Reliastra.Source.Api
