import Reliastra.Source.Api.Monitoring

/-!
# Referral rewards and vendor submissions

Source: `get_referral_info` and `claim_reward` of `app/modules/referrals/service.py`,
`approve_submission` and `reject_submission` of
`app/modules/vendor_submissions/service.py`, with their repositories. E-mails
are sent outside the session and left out.
-/

namespace Reliastra.Source.Api

open Reliastra.Library Auth Organizations

/-! ## Referral codes -/

/-- `code_exists`. -/
def codeExists (s : Platform) (code : String) : Bool :=
  s.community.referralCodes.rows.any (fun row => row.code = Text.upper code)

/-- `_generate_unique_code`: the first of ten draws nobody has. -/
def generateUniqueCode (env : ServiceEnvironment) (s : Platform) (fullName : String) : String :=
  (((env.referralCodes fullName).take 10).find? (fun code => !codeExists s code)).getD
    (env.longReferralCode fullName)

def referralCodeOf (s : Platform) (userId : Uuid) : Option ReferralCode :=
  s.community.referralCodes.rows.find? (fun row => row.userId = userId)

/-- `get_referral_info`, which makes the code on the first visit. -/
def getReferralInfo (env : ServiceEnvironment) (userId : Uuid) (s : Platform) :
    Except Failure Platform := do
  let user ← require (s.users.get? userId) (notFound "User not found")
  match referralCodeOf s userId with
  | some _ => return s
  | none => do
    let referralCodes ← flushNew s.community.referralCodes
      ⟨env.newId 0, userId, generateUniqueCode env s user.fullName, true⟩
    return { s with community := { s.community with referralCodes := referralCodes } }

/-! ## Rewards -/

/-- The first of `list_for_user`: the organization created last. -/
def latestOrganization (s : Platform) (userId : Uuid) : Option Organization :=
  ((s.organizations.rows.filter (fun org => ∃ m ∈ s.members.rows,
    m.orgId = org.id ∧ m.userId = userId ∧ m.isDeleted = false)).insertionSort
      (fun newer older => older.createdAt ≤ newer.createdAt)).head?

/-- Where a reward is applied. -/
def rewardOrganization (s : Platform) (userId : Uuid) (reward : ReferralReward) : Option Uuid :=
  reward.beneficiaryOrgId.orElse (fun _ => (latestOrganization s userId).map (·.id))

/-- The branches of `claim_reward` on the reward's type. -/
def applyReward (env : ServiceEnvironment) (reward : ReferralReward) (orgId : Uuid)
    (w : Workspace) : Except Failure Workspace :=
  if reward.type = "extra_dependencies" ∨ reward.type = "discount_pct" then do
    let planOverrides ← flushNew w.planOverrides
      { id := env.newId 0
        orgId := orgId
        overrideType := reward.type
        overrideValue := reward.value
        source := "referral"
        sourceReferralId := some reward.referralId
        isActive := true
        expiresAt := some (env.now + daysToMicros 30) }
    return { w with planOverrides := planOverrides }
  else if reward.type = "free_days" then
    let subscriptions := w.subscriptions.updateKey orgId
      (fun s => { s with currentPeriodEnd :=
        s.currentPeriodEnd.map (· + daysToMicros reward.value) }) (fun _ => rfl)
    .ok { w with subscriptions := subscriptions }
  else .ok w

def grantReward (env : ServiceEnvironment) (userId : Uuid) (reward : ReferralReward)
    (s : Platform) : Except Failure Workspace :=
  match rewardOrganization s userId reward with
  | some orgId => applyReward env reward orgId s.workspace
  | none => .ok s.workspace

/-- What `claim_reward` asks before it changes anything, with what it read. -/
def claimable (env : ServiceEnvironment) (userId rewardId : Uuid) (s : Platform) :
    Except Failure (ReferralReward × Referral) := do
  let reward ← require (s.community.rewards.get? rewardId) (notFound "Reward not found")
  refuseIf (reward.beneficiaryUserId ≠ userId) (forbidden "This reward does not belong to you")
  refuseIf (reward.status ≠ "pending")
    (invalid ("Reward is already '" ++ reward.status ++ "' and cannot be claimed"))
  refuseIf (∃ expiry ∈ reward.expiresAt, expiry < env.now) (invalid "This reward has expired")
  let referral ← require (s.community.referrals.get? reward.referralId)
    (notFound "Associated referral not found")
  let referred ← require (s.users.get? referral.referredId) (notFound "Referred user not found")
  refuseIf (referred.updatedAt < env.now - daysToMicros 30)
    (invalid ("Reward cannot be claimed yet: the referred user must be active " ++
      "(logged in within the last 30 days)"))
  refuseIf (((referral.referredOrgId.map (dependencyCount s)).getD 0) = 0)
    (invalid ("Reward cannot be claimed yet: the referred user must add at least " ++
      "one dependency to complete onboarding"))
  return (reward, referral)

def claimReward (env : ServiceEnvironment) (userId rewardId : Uuid) (s : Platform) :
    Except Failure Platform := do
  let (reward, referral) ← claimable env userId rewardId s
  let referrals :=
    if referral.status = "pending" then
      s.community.referrals.updateKey referral.id
        (fun r => { r with status := "active", activatedAt := some env.now }) (fun _ => rfl)
    else s.community.referrals
  let workspace ← grantReward env userId reward s
  let rewards := s.community.rewards.updateKey reward.id
    (fun r => { r with status := "claimed", activatedAt := some env.now, claimedAt := some env.now })
    (fun _ => rfl)
  let auditLogs ← flushNew workspace.auditLogs
    ⟨env.newId 1, none, some userId, "referral_reward_claimed", "referral_reward", rewardId⟩
  return { s with
    community := { s.community with referrals := referrals, rewards := rewards }
    workspace := { workspace with auditLogs := auditLogs } }

/-! ## Vendor submissions -/

structure ApproveVendorRequest where
  vendorName : String
  displayName : String
  category : Option String
  endpoints : List String
  deriving DecidableEq, Repr

/-- A submission somebody can still decide on. -/
def pendingSubmission (s : Platform) (submissionId : Uuid) (action past : String) :
    Except Failure VendorSubmission := do
  let submission ← require (s.community.submissions.get? submissionId)
    (notFound "Vendor submission not found")
  refuseIf (submission.status ≠ "pending_review")
    (conflict ("Cannot " ++ action ++ " a submission with status '" ++ submission.status ++
      "'. Only 'pending_review' submissions may be " ++ past ++ "."))
  return submission

/-- `update_status`: the reviewer is a foreign key to `users`. -/
def reviewSubmission (env : ServiceEnvironment) (s : Platform) (submission : VendorSubmission)
    (status : String) (reviewedBy : Uuid) (reviewNote : Option String) :
    Except Failure (Table VendorSubmission.id) := do
  let _ ← require (s.users.get? reviewedBy) (.flush "vendor_submissions_reviewed_by_fkey")
  return s.community.submissions.updateKey submission.id
    (fun row => { row with
      status := status
      reviewedBy := some reviewedBy
      reviewedAt := some env.now
      reviewNote := reviewNote.orElse (fun _ => row.reviewNote) }) (fun _ => rfl)

def newVendorEndpoint (id vendorId : Uuid) (endpointUrl : String) : VendorEndpoint :=
  { id := id
    vendorId := vendorId
    endpointUrl := endpointUrl
    checkIntervalSeconds := 300
    regions := ["us-east", "eu-west"]
    isActive := true
    healthStatus := "unknown" }

/-- The endpoint of the vendor itself, then those beyond the first of the
request. -/
def createVendorEndpoints (env : ServiceEnvironment) (vendorId : Uuid) (urls : List String)
    (endpoints : Table VendorEndpoint.id) : Except Failure (Table VendorEndpoint.id) :=
  urls.zipIdx.foldlM
    (fun t pair => flushNew t (newVendorEndpoint (env.newId (pair.2 + 1)) vendorId pair.1))
    endpoints

def nonempty (text : Option String) : Option String := text.filter (· ≠ "")

def newVendor (env : ServiceEnvironment) (request : ApproveVendorRequest)
    (submission : VendorSubmission) : VendorTracking :=
  { id := env.newId 0
    vendorName := env.lower request.vendorName
    displayName := request.displayName
    endpointUrl := request.endpoints.head?.getD
      ((nonempty submission.websiteUrl).getD "https://example.com")
    category := ((nonempty request.category).orElse
      (fun _ => nonempty submission.category)).getD "uncategorized"
    isPublic := true }

def approveSubmission (env : ServiceEnvironment) (adminUserId submissionId : Uuid)
    (request : ApproveVendorRequest) (s : Platform) : Except Failure Platform := do
  let submission ← pendingSubmission s submissionId "approve" "approved"
  refuseIf (∃ vendor ∈ s.community.vendors.rows, vendor.vendorName = env.lower request.vendorName)
    (conflict ("A vendor with name '" ++ request.vendorName ++ "' already exists."))
  let vendor := newVendor env request submission
  let vendors ← flushNew s.community.vendors vendor
  let vendorEndpoints ← createVendorEndpoints env vendor.id
    (vendor.endpointUrl :: request.endpoints.drop 1) s.community.vendorEndpoints
  let submissions ← reviewSubmission env s submission "approved" adminUserId none
  return { s with community := { s.community with
    submissions := submissions
    vendors := vendors
    vendorEndpoints := vendorEndpoints } }

def rejectSubmission (env : ServiceEnvironment) (adminUserId submissionId : Uuid)
    (reason : String) (s : Platform) : Except Failure Platform := do
  let submission ← pendingSubmission s submissionId "reject" "rejected"
  let submissions ← reviewSubmission env s submission "rejected" adminUserId (some reason)
  return { s with community := { s.community with submissions := submissions } }

/-! ## Timeline links -/

structure TimelineShareCreateRequest where
  window : String
  region : String
  note : Option String
  deriving DecidableEq, Repr

def createShareLink (env : ServiceEnvironment) (vendorName : String) (userId : Option Uuid)
    (request : TimelineShareCreateRequest) (s : Platform) : Except Failure Platform := do
  let timelineShares ← flushNew s.community.timelineShares
    { id := env.newId 0
      vendorName := env.lower vendorName
      userId := userId
      shareToken := env.generatedSecret
      window := request.window
      region := request.region
      note := request.note
      utmSource := none
      viewCount := 0
      expiresAt := env.now + secondsToMicros 3600 }
  return { s with community := { s.community with timelineShares := timelineShares } }

end Reliastra.Source.Api
