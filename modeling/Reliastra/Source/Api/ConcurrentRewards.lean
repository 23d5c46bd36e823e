import Reliastra.Library.Interleaving
import Reliastra.Source.Api.Community

/-!
# Claims of a reward side by side

`claim_reward` of `app/modules/referrals/service.py` statement by statement. A
claim reads the reward and makes its checks, then reads where the reward is to be
applied, and writes: nobody sees its rows before its commit. The new end of a
billing period is computed from the one that was read and written as it is. No read
locks a row; where a write waits for another claim, that only rules some of these
interleavings out.
`claimReward_eq_statements` says that a claim alone is the claim of the service.
-/

namespace Reliastra.Source.Api

open Reliastra.Library

/-- What a claim is about to write for its reward. -/
inductive Benefit where
  | override (row : OrgPlanOverride)
  | period (orgId : Uuid) (newEnd : Instant)
  /-- There is no organization, no subscription, no period end, or no such type. -/
  | nothing
  deriving DecidableEq

inductive RewardPhase where
  | idle
  | granting (env : ServiceEnvironment) (userId : Uuid) (reward : ReferralReward)
      (referral : Referral)
  | marking (env : ServiceEnvironment) (userId : Uuid) (reward : ReferralReward)
      (referral : Referral) (benefit : Benefit)

inductive RewardAct where
  | start (env : ServiceEnvironment) (userId : Uuid)
  | advance
  /-- The request or its worker ends without a commit. -/
  | abort

/-! ## Statements -/

def rewardOverride (env : ServiceEnvironment) (reward : ReferralReward) (orgId : Uuid) :
    OrgPlanOverride where
  id := env.newId 0
  orgId := orgId
  overrideType := reward.type
  overrideValue := reward.value
  source := "referral"
  sourceReferralId := some reward.referralId
  isActive := true
  expiresAt := some (env.now + daysToMicros 30)

def periodEnd (w : Workspace) (orgId : Uuid) : Option Instant :=
  (w.subscriptions.get? orgId).bind (·.currentPeriodEnd)

/-- The branches on the reward's type, up to their writes. -/
def readBenefit (env : ServiceEnvironment) (userId : Uuid) (reward : ReferralReward)
    (s : Platform) : Benefit :=
  match rewardOrganization s userId reward with
  | none => .nothing
  | some orgId =>
    if reward.type = "extra_dependencies" ∨ reward.type = "discount_pct" then
      .override (rewardOverride env reward orgId)
    else if reward.type = "free_days" then
      match periodEnd s.workspace orgId with
      | some currentEnd => .period orgId (currentEnd + daysToMicros reward.value)
      | none => .nothing
    else .nothing

def setPeriodEnd (newEnd : Instant) (subscription : Billing.Subscription) : Billing.Subscription :=
  { subscription with currentPeriodEnd := some newEnd }

theorem setPeriodEnd_keeps (newEnd : Instant) (subscription : Billing.Subscription) :
    (setPeriodEnd newEnd subscription).organizationId = subscription.organizationId := rfl

def Benefit.write (w : Workspace) : Benefit → Except Failure Workspace
  | .override row => do
    let planOverrides ← flushNew w.planOverrides row
    return { w with planOverrides := planOverrides }
  | .period orgId newEnd =>
    .ok { w with subscriptions :=
      w.subscriptions.updateKey orgId (setPeriodEnd newEnd) (setPeriodEnd_keeps newEnd) }
  | .nothing => .ok w

def markClaimed (now : Instant) (reward : ReferralReward) : ReferralReward :=
  { reward with status := "claimed", activatedAt := some now, claimedAt := some now }

theorem markClaimed_keeps (now : Instant) (reward : ReferralReward) :
    (markClaimed now reward).id = reward.id := rfl

theorem activated_keeps (env : ServiceEnvironment) (referral : Referral) :
    ({ referral with status := "active", activatedAt := some env.now } : Referral).id =
      referral.id := rfl

/-- The rows of a claim, as its commit shows them. -/
def commitReward (env : ServiceEnvironment) (userId : Uuid) (reward : ReferralReward)
    (referral : Referral) (benefit : Benefit) (s : Platform) : Except Failure Platform := do
  let referrals :=
    if referral.status = "pending" then
      s.community.referrals.updateKey referral.id
        (fun r => { r with status := "active", activatedAt := some env.now }) (activated_keeps env)
    else s.community.referrals
  let workspace ← benefit.write s.workspace
  let rewards := s.community.rewards.updateKey reward.id (markClaimed env.now)
    (markClaimed_keeps env.now)
  let auditLogs ← flushNew workspace.auditLogs
    ⟨env.newId 1, none, some userId, "referral_reward_claimed", "referral_reward", reward.id⟩
  return { s with
    community := { s.community with referrals := referrals, rewards := rewards }
    workspace := { workspace with auditLogs := auditLogs } }

/-- A claim of the reward `rewardId`. -/
def rewardAct (rewardId : Uuid) (s : Platform) (phase : RewardPhase) :
    RewardAct → Platform × RewardPhase
  | .start env userId =>
    match phase with
    | .idle =>
      match claimable env userId rewardId s with
      | .ok (reward, referral) => (s, .granting env userId reward referral)
      | .error _ => (s, .idle)
    | _ => (s, phase)
  | .advance =>
    match phase with
    | .idle => (s, .idle)
    | .granting env userId reward referral =>
      (s, .marking env userId reward referral (readBenefit env userId reward s))
    | .marking env userId reward referral benefit =>
      match commitReward env userId reward referral benefit s with
      | .ok after => (after, .idle)
      | .error _ => (s, .idle)
  | .abort => (s, .idle)

/-! ## What an act can do -/

inductive RewardMoves (rewardId : Uuid) (s : Platform) :
    RewardPhase → RewardAct → Platform → RewardPhase → Prop
  | stays (phase : RewardPhase) (act : RewardAct) : RewardMoves rewardId s phase act s phase
  | ends (phase : RewardPhase) (act : RewardAct) : RewardMoves rewardId s phase act s .idle
  | reads {env : ServiceEnvironment} {userId : Uuid} {reward : ReferralReward}
      {referral : Referral} (claims : claimable env userId rewardId s = .ok (reward, referral)) :
      RewardMoves rewardId s .idle (.start env userId) s (.granting env userId reward referral)
  | computes {env : ServiceEnvironment} {userId : Uuid} {reward : ReferralReward}
      {referral : Referral} :
      RewardMoves rewardId s (.granting env userId reward referral) .advance s
        (.marking env userId reward referral (readBenefit env userId reward s))
  | commits {env : ServiceEnvironment} {userId : Uuid} {reward : ReferralReward}
      {referral : Referral} {benefit : Benefit} {t : Platform}
      (committed : commitReward env userId reward referral benefit s = .ok t) :
      RewardMoves rewardId s (.marking env userId reward referral benefit) .advance t .idle

theorem rewardAct_moves (rewardId : Uuid) (s : Platform) (phase : RewardPhase) (act : RewardAct) :
    RewardMoves rewardId s phase act (rewardAct rewardId s phase act).1
      (rewardAct rewardId s phase act).2 := by
  cases act with
  | start env userId =>
    cases phase with
    | idle =>
      simp only [rewardAct]
      cases claims : claimable env userId rewardId s with
      | ok read => exact .reads claims
      | error failure => exact .ends _ _
    | granting | marking => exact .stays _ _
  | advance =>
    cases phase with
    | idle => exact .stays _ _
    | granting => exact .computes
    | marking env userId reward referral benefit =>
      simp only [rewardAct]
      cases committed : commitReward env userId reward referral benefit s with
      | ok after => exact .commits committed
      | error failure => exact .ends _ _
  | abort => exact .ends _ _

/-! ## What a commit leaves -/

/-- The ids of the new rows are new. -/
def Benefit.Fresh (w : Workspace) : Benefit → Prop
  | .override row => row.id ∉ w.planOverrides.rows.map (·.id)
  | .period _ _ | .nothing => True

def FreshRewardIds (env : ServiceEnvironment) (benefit : Benefit) (s : Platform) : Prop :=
  benefit.Fresh s.workspace ∧ env.newId 1 ∉ s.workspace.auditLogs.rows.map (·.id)

structure RewardCommitted (env : ServiceEnvironment) (reward : ReferralReward) (benefit : Benefit)
    (s t : Platform) : Prop where
  organizations : t.organizations = s.organizations
  members : t.members = s.members
  rewards : t.community.rewards =
    s.community.rewards.updateKey reward.id (markClaimed env.now) (markClaimed_keeps env.now)
  written : ∃ w, benefit.write s.workspace = .ok w ∧
    t.workspace.planOverrides = w.planOverrides ∧ t.workspace.subscriptions = w.subscriptions

theorem commitReward_ok {env : ServiceEnvironment} {userId : Uuid} {reward : ReferralReward}
    {referral : Referral} {benefit : Benefit} {s t : Platform}
    (committed : commitReward env userId reward referral benefit s = .ok t) :
    RewardCommitted env reward benefit s t := by
  unfold commitReward at committed
  obtain ⟨w, written, committed⟩ := bind_eq_ok committed
  obtain ⟨auditLogs, _, committed⟩ := bind_eq_ok committed
  cases committed
  exact ⟨rfl, rfl, rfl, w, written, rfl, rfl⟩

theorem write_auditLogs {benefit : Benefit} {w after : Workspace}
    (written : benefit.write w = .ok after) : after.auditLogs = w.auditLogs := by
  cases benefit with
  | override row =>
    obtain ⟨planOverrides, _, done⟩ := bind_eq_ok written
    cases done
    rfl
  | period orgId newEnd =>
    cases written
    rfl
  | nothing =>
    cases written
    rfl

theorem write_isOk_iff (benefit : Benefit) (w : Workspace) :
    (∃ after, benefit.write w = .ok after) ↔ benefit.Fresh w := by
  cases benefit with
  | override row =>
    have added := flushNew_isOk_iff w.planOverrides row
    simp only [Benefit.Fresh, Benefit.write]
    rw [← added]
    cases flushNew w.planOverrides row with
    | error failure => simp [bind, Except.bind]
    | ok planOverrides => simp [bind, Except.bind, pure, Except.pure]
  | period orgId newEnd => exact ⟨fun _ => trivial, fun _ => ⟨_, rfl⟩⟩
  | nothing => exact ⟨fun _ => trivial, fun _ => ⟨_, rfl⟩⟩

theorem commitReward_isOk_iff (env : ServiceEnvironment) (userId : Uuid) (reward : ReferralReward)
    (referral : Referral) (benefit : Benefit) (s : Platform) :
    (∃ t, commitReward env userId reward referral benefit s = .ok t) ↔
      FreshRewardIds env benefit s := by
  unfold FreshRewardIds commitReward
  rw [← write_isOk_iff]
  cases written : benefit.write s.workspace with
  | error failure => simp [bind, Except.bind]
  | ok w =>
    have added := flushNew_isOk_iff w.auditLogs
      ⟨env.newId 1, none, some userId, "referral_reward_claimed", "referral_reward", reward.id⟩
    rw [write_auditLogs written] at added
    simp only [bind, Except.bind, pure, Except.pure, Except.ok.injEq, exists_eq', true_and,
      write_auditLogs written]
    rw [← added]
    cases flushNew s.workspace.auditLogs
        ⟨env.newId 1, none, some userId, "referral_reward_claimed", "referral_reward",
          reward.id⟩ with
    | error failure => simp
    | ok auditLogs => simp

/-! ## What a claim has read -/

theorem claimable_ok {env : ServiceEnvironment} {userId rewardId : Uuid} {s : Platform}
    {reward : ReferralReward} {referral : Referral}
    (claims : claimable env userId rewardId s = .ok (reward, referral)) :
    s.community.rewards.get? rewardId = some reward ∧ reward.beneficiaryUserId = userId ∧
      reward.status = "pending" := by
  unfold claimable at claims
  obtain ⟨found, stored, claims⟩ := bind_eq_ok claims
  obtain ⟨_, owned, claims⟩ := bind_eq_ok claims
  obtain ⟨_, pending, claims⟩ := bind_eq_ok claims
  obtain ⟨_, _, claims⟩ := bind_eq_ok claims
  obtain ⟨_, _, claims⟩ := bind_eq_ok claims
  obtain ⟨_, _, claims⟩ := bind_eq_ok claims
  obtain ⟨_, _, claims⟩ := bind_eq_ok claims
  obtain ⟨_, _, claims⟩ := bind_eq_ok claims
  cases claims
  exact ⟨require_eq_ok.mp stored, not_not.mp (refuseIf_eq_ok.mp owned),
    not_not.mp (refuseIf_eq_ok.mp pending)⟩

/-! ## One claim alone -/

def extendPeriod (days : Int) (subscription : Billing.Subscription) : Billing.Subscription :=
  { subscription with currentPeriodEnd :=
      subscription.currentPeriodEnd.map (· + daysToMicros days) }

theorem extendPeriod_keeps (days : Int) (subscription : Billing.Subscription) :
    (extendPeriod days subscription).organizationId = subscription.organizationId := rfl

theorem setPeriodEnd_eq {w : Workspace} {orgId : Uuid} {currentEnd : Instant}
    (found : periodEnd w orgId = some currentEnd) (days : Int) :
    w.subscriptions.updateKey orgId (setPeriodEnd (currentEnd + daysToMicros days))
        (setPeriodEnd_keeps _) =
      w.subscriptions.updateKey orgId (extendPeriod days) (extendPeriod_keeps days) := by
  apply Table.ext
  rw [Table.updateKey_rows, Table.updateKey_rows]
  refine List.map_congr_left (fun row member => ?_)
  split
  · next here =>
    unfold periodEnd at found
    rw [(Table.get?_eq_some_iff _ orgId row).mpr ⟨member, here⟩, Option.bind_some] at found
    rw [setPeriodEnd, extendPeriod, found, Option.map_some]
  · rfl

/-- The period end of the organization after it was extended. -/
theorem periodEnd_extended {before after : Workspace} {orgId : Uuid} {days : Int}
    (extended : after.subscriptions =
      before.subscriptions.updateKey orgId (extendPeriod days) (extendPeriod_keeps days)) :
    periodEnd after orgId = (periodEnd before orgId).map (· + daysToMicros days) := by
  unfold periodEnd
  rw [extended, Table.get?_updateKey]
  cases before.subscriptions.get? orgId with
  | none => rfl
  | some subscription => rw [Option.map_some, if_pos rfl]; rfl

theorem periodEnd_set {before after : Workspace} {orgId : Uuid} {currentEnd newEnd : Instant}
    (found : periodEnd before orgId = some currentEnd)
    (written : after.subscriptions =
      before.subscriptions.updateKey orgId (setPeriodEnd newEnd) (setPeriodEnd_keeps newEnd)) :
    periodEnd after orgId = some newEnd := by
  unfold periodEnd at found ⊢
  rw [written, Table.get?_updateKey]
  cases stored : before.subscriptions.get? orgId with
  | none =>
    rw [stored] at found
    cases found
  | some subscription => rw [Option.map_some, if_pos rfl]; rfl

/-- The end that is there already is no change. -/
theorem set_same {w : Workspace} {orgId : Uuid} {newEnd : Instant}
    (same : periodEnd w orgId = some newEnd) :
    w.subscriptions.updateKey orgId (setPeriodEnd newEnd) (setPeriodEnd_keeps newEnd) =
      w.subscriptions := by
  refine Table.updateKey_eq_self _ (fun row member here => ?_)
  unfold periodEnd at same
  rw [(Table.get?_eq_some_iff _ orgId row).mpr ⟨member, here⟩, Option.bind_some] at same
  rw [setPeriodEnd, ← same]

theorem extend_nothing {w : Workspace} {orgId : Uuid} (missing : periodEnd w orgId = none)
    (days : Int) :
    w.subscriptions.updateKey orgId (extendPeriod days) (extendPeriod_keeps days) =
      w.subscriptions := by
  refine Table.updateKey_eq_self _ (fun row member here => ?_)
  unfold periodEnd at missing
  rw [(Table.get?_eq_some_iff _ orgId row).mpr ⟨member, here⟩, Option.bind_some] at missing
  rw [extendPeriod, missing, Option.map_none, ← missing]

/-- Written at once, a benefit is what the service grants. -/
theorem write_readBenefit (env : ServiceEnvironment) (userId : Uuid) (reward : ReferralReward)
    (s : Platform) :
    (readBenefit env userId reward s).write s.workspace = grantReward env userId reward s := by
  unfold readBenefit grantReward
  cases rewardOrganization s userId reward with
  | none => rfl
  | some orgId =>
    unfold applyReward
    dsimp only
    split
    · rfl
    · split
      · cases found : periodEnd s.workspace orgId with
        | none =>
          have same := extend_nothing found reward.value
          unfold extendPeriod at same
          rw [same]
          rfl
        | some currentEnd =>
          simp only [Benefit.write, setPeriodEnd_eq found]
          rfl
      · rfl

theorem claimReward_eq_statements (env : ServiceEnvironment) (userId rewardId : Uuid)
    (s : Platform) :
    claimReward env userId rewardId s = (do
      let (reward, referral) ← claimable env userId rewardId s
      commitReward env userId reward referral (readBenefit env userId reward s) s) := by
  unfold claimReward commitReward
  cases claims : claimable env userId rewardId s with
  | error failure => rfl
  | ok read =>
    obtain ⟨reward, referral⟩ := read
    obtain rfl := ((Table.get?_eq_some_iff _ rewardId reward).mp (claimable_ok claims).1).2
    simp only [bind, Except.bind, write_readBenefit]
    rfl

/-! ## Where a claim writes -/

section Benefits
variable {env : ServiceEnvironment} {userId orgId : Uuid} {reward : ReferralReward} {s t : Platform}

theorem readBenefit_override (own : rewardOrganization s userId reward = some orgId)
    (override : reward.type = "extra_dependencies" ∨ reward.type = "discount_pct") :
    readBenefit env userId reward s = .override (rewardOverride env reward orgId) := by
  simp only [readBenefit, own, if_pos override]

theorem readBenefit_period (own : rewardOrganization s userId reward = some orgId)
    (days : reward.type = "free_days") {currentEnd : Instant}
    (found : periodEnd s.workspace orgId = some currentEnd) :
    readBenefit env userId reward s = .period orgId (currentEnd + daysToMicros reward.value) := by
  simp [readBenefit, own, days, found]

theorem RewardCommitted.override {row : OrgPlanOverride}
    (committed : RewardCommitted env reward (.override row) s t) :
    t.workspace.planOverrides.rows = s.workspace.planOverrides.rows ++ [row] ∧
      t.workspace.subscriptions = s.workspace.subscriptions := by
  obtain ⟨w, written, overrides, subscriptions⟩ := committed.written
  obtain ⟨planOverrides, flushed, done⟩ := bind_eq_ok written
  cases done
  rw [overrides, subscriptions]
  exact ⟨(Table.insert_eq_some (flushNew_eq_ok.mp flushed)).2, rfl⟩

theorem RewardCommitted.period {newEnd : Instant}
    (committed : RewardCommitted env reward (.period orgId newEnd) s t) :
    t.workspace.planOverrides = s.workspace.planOverrides ∧
      t.workspace.subscriptions = s.workspace.subscriptions.updateKey orgId (setPeriodEnd newEnd)
        (setPeriodEnd_keeps newEnd) := by
  obtain ⟨w, written, overrides, subscriptions⟩ := committed.written
  cases written
  exact ⟨overrides, subscriptions⟩

end Benefits

end Reliastra.Source.Api
