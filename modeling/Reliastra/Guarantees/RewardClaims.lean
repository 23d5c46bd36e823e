import Reliastra.Source.Api.ConcurrentRewards

/-!
# The claims of a referral reward

A reward that is not claimed is to keep its benefit back, and a claimed one to
have been applied once. In a run of any claims of it this stays so exactly when
every claim commits for a reward that has somewhere to be applied, and before any
other claim has, or writes the period end that is there already.
`rewards_applied_once_iff` proves it, and that it is enough to start claims one at
a time, and only where the reward can be applied.
-/

namespace Reliastra.Guarantees.RewardClaims

open Reliastra.Library Source Source.Api

abbrev RewardWorld (ι : Type) := World Platform ι RewardPhase

/-- Every claim starts in a session of its own. -/
def idle (ι : Type) (s : Platform) : RewardWorld ι := ⟨s, fun _ => .idle⟩

def Claimed (rewardId : Uuid) (s : Platform) : Prop :=
  ∃ reward, s.community.rewards.get? rewardId = some reward ∧ reward.status = "claimed"

def OverrideType (reward : ReferralReward) : Prop :=
  reward.type = "extra_dependencies" ∨ reward.type = "discount_pct"

/-- One override was added, or the billing period was extended once. -/
def AppliedOnce (reward : ReferralReward) (orgId : Uuid) (before after : Workspace) : Prop :=
  (OverrideType reward ∧ after.subscriptions = before.subscriptions ∧
    ∃ row : OrgPlanOverride, row.orgId = orgId ∧ row.overrideType = reward.type ∧
      row.overrideValue = reward.value ∧
      after.planOverrides.rows = before.planOverrides.rows ++ [row]) ∨
  (reward.type = "free_days" ∧ after.planOverrides = before.planOverrides ∧
    (∃ currentEnd, periodEnd before orgId = some currentEnd) ∧
    after.subscriptions = before.subscriptions.updateKey orgId (extendPeriod reward.value)
      (extendPeriod_keeps reward.value))

def NotApplied (before after : Workspace) : Prop :=
  after.planOverrides = before.planOverrides ∧ after.subscriptions = before.subscriptions

/-- Claimed just if applied, and applied to the reward's organization, once. -/
def OnceAndReally (reward : ReferralReward) (s₀ s : Platform) : Prop :=
  (¬ Claimed reward.id s ∧ NotApplied s₀.workspace s.workspace) ∨
  (Claimed reward.id s ∧ ∃ orgId,
    rewardOrganization s₀ reward.beneficiaryUserId reward = some orgId ∧
      AppliedOnce reward orgId s₀.workspace s.workspace)

/-- There is an organization, and for free days a period end. -/
def Applicable (reward : ReferralReward) (s : Platform) : Prop :=
  ∃ orgId, rewardOrganization s reward.beneficiaryUserId reward = some orgId ∧
    (OverrideType reward ∨
      reward.type = "free_days" ∧ ∃ currentEnd, periodEnd s.workspace orgId = some currentEnd)

/-- The period end to be written is there already. -/
def Rewrites (s : Platform) : Benefit → Prop
  | .period orgId newEnd => periodEnd s.workspace orgId = some newEnd
  | .override _ | .nothing => False

def EffectiveAtCommit (reward : ReferralReward) (s : Platform) (phase : RewardPhase)
    (act : RewardAct) : Prop :=
  match act, phase with
  | .advance, .marking env _ _ _ benefit =>
    FreshRewardIds env benefit s →
      Applicable reward s ∧ (¬ Claimed reward.id s ∨ Rewrites s benefit)
  | _, _ => True

section Interleavings
variable {ι : Type} [DecidableEq ι]

def rewardMove (rewardId : Uuid) (w : RewardWorld ι) (m : ι × RewardAct) : RewardWorld ι :=
  w.move (fun _ => rewardAct rewardId) m

def CommitsInEffect (reward : ReferralReward) (w : RewardWorld ι) (m : ι × RewardAct) : Prop :=
  EffectiveAtCommit reward w.shared (w.locals m.1) m.2

/-- A claim that passes its checks finds no other in flight, and somewhere to apply
its reward. -/
def ClaimsAlone (reward : ReferralReward) (w : RewardWorld ι) (m : ι × RewardAct) : Prop :=
  match m.2, w.locals m.1 with
  | .start env userId, .idle =>
    (∃ read, claimable env userId reward.id w.shared = .ok read) →
      Applicable reward w.shared ∧ ∀ other, other ≠ m.1 → w.locals other = .idle
  | _, _ => True

end Interleavings

/-! ## The reward in every state of a run -/

variable {reward : ReferralReward} {s₀ s t : Platform}

/-- What no claim changes, and what the claims up to now have come to. -/
structure Stored (reward : ReferralReward) (s₀ s : Platform) : Prop where
  organizations : s.organizations = s₀.organizations
  members : s.members = s₀.members
  row : s.community.rewards.get? reward.id = some reward ∨
    ∃ now, s.community.rewards.get? reward.id = some (markClaimed now reward)
  outcome : OnceAndReally reward s₀ s

theorem Stored.organization (stored : Stored reward s₀ s) (userId : Uuid) :
    rewardOrganization s userId reward = rewardOrganization s₀ userId reward := by
  unfold rewardOrganization latestOrganization
  rw [stored.organizations, stored.members]

/-- A claim that finds the reward pending has read it as it was at first. -/
theorem Stored.read (stored : Stored reward s₀ s) {env : ServiceEnvironment} {userId : Uuid}
    {found : ReferralReward} {referral : Referral}
    (claims : claimable env userId reward.id s = .ok (found, referral)) :
    found = reward ∧ userId = reward.beneficiaryUserId ∧ ¬ Claimed reward.id s := by
  obtain ⟨here, own, pending⟩ := claimable_ok claims
  have unclaimed : ¬ Claimed reward.id s := by
    intro ⟨other, same, claimed⟩
    rw [here] at same
    cases same
    rw [pending] at claimed
    exact absurd claimed (by decide)
  cases stored.row with
  | inl row =>
    rw [here] at row
    cases row
    exact ⟨rfl, own.symm, unclaimed⟩
  | inr row =>
    obtain ⟨now, row⟩ := row
    exact absurd ⟨_, row, rfl⟩ unclaimed

theorem Stored.notApplied (stored : Stored reward s₀ s) (unclaimed : ¬ Claimed reward.id s) :
    NotApplied s₀.workspace s.workspace := by
  cases stored.outcome with
  | inl untouched => exact untouched.2
  | inr applied => exact absurd applied.1 unclaimed

theorem Stored.applied (stored : Stored reward s₀ s) (claimed : Claimed reward.id s) :
    ∃ orgId, rewardOrganization s₀ reward.beneficiaryUserId reward = some orgId ∧
      AppliedOnce reward orgId s₀.workspace s.workspace := by
  cases stored.outcome with
  | inl untouched => exact absurd claimed untouched.1
  | inr applied => exact applied.2

/-- A period end does not appear and does not go away. -/
theorem Stored.periodEnd_iff (stored : Stored reward s₀ s) {orgId : Uuid}
    (own : rewardOrganization s₀ reward.beneficiaryUserId reward = some orgId) :
    (∃ currentEnd, periodEnd s.workspace orgId = some currentEnd) ↔
      ∃ currentEnd, periodEnd s₀.workspace orgId = some currentEnd := by
  have unchanged (same : s.workspace.subscriptions = s₀.workspace.subscriptions) :
      periodEnd s.workspace orgId = periodEnd s₀.workspace orgId := by
    unfold periodEnd
    rw [same]
  rcases stored.outcome with untouched | ⟨_, applied, same, once⟩
  · rw [unchanged untouched.2.2]
  · rw [own] at same
    cases same
    rcases once with ⟨_, same, _⟩ | ⟨_, _, ⟨currentEnd, found⟩, extended⟩
    · rw [unchanged same]
    · rw [periodEnd_extended extended, found]
      exact ⟨fun _ => ⟨_, rfl⟩, fun _ => ⟨_, rfl⟩⟩

theorem Stored.applicable_iff (stored : Stored reward s₀ s) :
    Applicable reward s ↔ Applicable reward s₀ := by
  unfold Applicable
  rw [stored.organization]
  refine exists_congr (fun orgId => and_congr_right (fun own => ?_))
  rw [stored.periodEnd_iff own]

/-- Only a reward that can be applied has been. -/
theorem applicable_of_applied {orgId : Uuid}
    (own : rewardOrganization s₀ reward.beneficiaryUserId reward = some orgId)
    (applied : AppliedOnce reward orgId s₀.workspace s.workspace) : Applicable reward s₀ := by
  rcases applied with ⟨override, _⟩ | ⟨days, _, found, _⟩
  · exact ⟨orgId, own, .inl override⟩
  · exact ⟨orgId, own, .inr ⟨days, found⟩⟩

/-! ## One commit -/

theorem Stored.marked (stored : Stored reward s₀ s) (now : Instant) :
    (s.community.rewards.updateKey reward.id (markClaimed now) (markClaimed_keeps now)).get?
      reward.id = some (markClaimed now reward) := by
  rw [Table.get?_updateKey]
  rcases stored.row with row | ⟨before, row⟩
  · rw [row, Option.map_some, if_pos rfl]
  · rw [row, Option.map_some, if_pos rfl]
    rfl

theorem onceAndReally_iff_of_claimed (claimed : Claimed reward.id t) {orgId : Uuid}
    (own : rewardOrganization s₀ reward.beneficiaryUserId reward = some orgId) :
    OnceAndReally reward s₀ t ↔ AppliedOnce reward orgId s₀.workspace t.workspace := by
  constructor
  · rintro (untouched | ⟨_, other, same, applied⟩)
    · exact absurd claimed untouched.1
    · rw [own] at same
      cases same
      exact applied
  · exact fun applied => .inr ⟨claimed, orgId, own, applied⟩

theorem OverrideType.not_days (override : OverrideType reward) : reward.type ≠ "free_days" := by
  rcases override with same | same
  · rw [same]
    decide
  · rw [same]
    decide

/-- A new override is one too many if the reward was claimed before. -/
theorem override_once_iff (stored : Stored reward s₀ s) (claimed : Claimed reward.id t)
    {orgId : Uuid} (own : rewardOrganization s₀ reward.beneficiaryUserId reward = some orgId)
    (override : OverrideType reward) (env : ServiceEnvironment)
    (rows : t.workspace.planOverrides.rows =
      s.workspace.planOverrides.rows ++ [rewardOverride env reward orgId])
    (subscriptions : t.workspace.subscriptions = s.workspace.subscriptions) :
    OnceAndReally reward s₀ t ↔ ¬ Claimed reward.id s := by
  rw [onceAndReally_iff_of_claimed claimed own]
  constructor
  · intro again before
    obtain ⟨_, _, applied⟩ := stored.applied before
    rcases applied with ⟨_, _, row, _, _, _, once⟩ | ⟨days, _⟩
    · rcases again with ⟨_, _, other, _, _, _, twice⟩ | ⟨days, _⟩
      · have lengths := congrArg List.length twice
        rw [rows, once] at lengths
        simp only [List.length_append, List.length_singleton] at lengths
        omega
      · exact override.not_days days
    · exact override.not_days days
  · intro unclaimed
    have same := stored.notApplied unclaimed
    refine .inl ⟨override, subscriptions.trans same.2, rewardOverride env reward orgId, rfl, rfl,
      rfl, ?_⟩
    rw [rows, same.1]

/-- A period end computed from one that was read is right if nobody has extended the
period, or the outcome is the same. -/
theorem period_once_iff (stored : Stored reward s₀ s) (claimed : Claimed reward.id t)
    {orgId : Uuid} (own : rewardOrganization s₀ reward.beneficiaryUserId reward = some orgId)
    (days : reward.type = "free_days") {currentEnd newEnd : Instant}
    (found : periodEnd s₀.workspace orgId = some currentEnd)
    (computed : ¬ Claimed reward.id s → newEnd = currentEnd + daysToMicros reward.value)
    (planOverrides : t.workspace.planOverrides = s.workspace.planOverrides)
    (written : t.workspace.subscriptions = s.workspace.subscriptions.updateKey orgId
      (setPeriodEnd newEnd) (setPeriodEnd_keeps newEnd)) :
    OnceAndReally reward s₀ t ↔
      ¬ Claimed reward.id s ∨ periodEnd s.workspace orgId = some newEnd := by
  rw [onceAndReally_iff_of_claimed claimed own]
  by_cases before : Claimed reward.id s
  · obtain ⟨other, same, applied⟩ := stored.applied before
    rw [own] at same
    cases same
    rcases applied with ⟨override, _⟩ | ⟨_, overrides, _, extended⟩
    · exact absurd days override.not_days
    have now := periodEnd_extended extended
    rw [found, Option.map_some] at now
    have after := periodEnd_set now written
    constructor
    · rintro (⟨override, _⟩ | ⟨_, _, _, once⟩)
      · exact absurd days override.not_days
      · have whole := periodEnd_extended once
        rw [found, Option.map_some, after] at whole
        exact .inr (now.trans whole.symm)
    · rintro (unclaimed | same)
      · exact absurd before unclaimed
      · rw [set_same same] at written
        exact .inr ⟨days, planOverrides.trans overrides, ⟨currentEnd, found⟩,
          written.trans extended⟩
  · have same := stored.notApplied before
    have stays : periodEnd s.workspace orgId = some currentEnd := by
      rw [← found]
      unfold periodEnd
      rw [same.2]
    refine iff_of_true (.inr ⟨days, planOverrides.trans same.1, ⟨currentEnd, found⟩, ?_⟩)
      (.inl before)
    rw [computed before, setPeriodEnd_eq stays] at written
    rw [written, same.2]

/-- Nothing to apply, and still claimed. -/
theorem nothing_not_once (stored : Stored reward s₀ s) (nowhere : ¬ Applicable reward s)
    (claimed : Claimed reward.id t) : ¬ OnceAndReally reward s₀ t := by
  rw [stored.applicable_iff] at nowhere
  rintro (untouched | ⟨_, orgId, own, applied⟩)
  · exact untouched.1 claimed
  · exact nowhere (applicable_of_applied own applied)

/-- What a claim has read of the reward, and in which state before. -/
def Own (reward : ReferralReward) (s₀ s : Platform) : RewardPhase → Prop
  | .idle => True
  | .granting _ userId found _ => found = reward ∧ userId = reward.beneficiaryUserId
  | .marking env userId found _ benefit =>
    found = reward ∧ userId = reward.beneficiaryUserId ∧
      ∃ read, Stored reward s₀ read ∧ benefit = readBenefit env userId reward read ∧
        (Claimed reward.id read → Claimed reward.id s)

theorem claimed_of_committed (stored : Stored reward s₀ s) {env : ServiceEnvironment}
    {benefit : Benefit} (committed : RewardCommitted env reward benefit s t) :
    Claimed reward.id t := by
  refine ⟨markClaimed env.now reward, ?_, rfl⟩
  rw [committed.rewards]
  exact stored.marked env.now

/-- A commit keeps the outcome right just if its condition is met. -/
theorem commit_once_iff (stored : Stored reward s₀ s) {env : ServiceEnvironment}
    {userId : Uuid} {referral : Referral} {benefit : Benefit}
    (own : Own reward s₀ s (.marking env userId reward referral benefit))
    (committed : RewardCommitted env reward benefit s t) :
    OnceAndReally reward s₀ t ↔
      Applicable reward s ∧ (¬ Claimed reward.id s ∨ Rewrites s benefit) := by
  have claimed := claimed_of_committed stored committed
  by_cases applicable : Applicable reward s
  · rw [iff_true_intro applicable, true_and]
    obtain ⟨_, rfl, read, before, rfl, earlier⟩ := own
    obtain ⟨orgId, organization, kind⟩ := stored.applicable_iff.mp applicable
    have mine := (before.organization reward.beneficiaryUserId).trans organization
    rcases kind with override | ⟨days, currentEnd, found⟩
    · rw [readBenefit_override mine override] at committed ⊢
      obtain ⟨rows, subscriptions⟩ := committed.override
      rw [override_once_iff stored claimed organization override env rows subscriptions]
      exact (or_iff_left id).symm
    · obtain ⟨readEnd, then_⟩ := (before.periodEnd_iff organization).mpr ⟨currentEnd, found⟩
      rw [readBenefit_period mine days then_] at committed ⊢
      obtain ⟨planOverrides, written⟩ := committed.period
      refine period_once_iff stored claimed organization days found (fun unclaimed => ?_)
        planOverrides written
      have same := before.notApplied (fun was => unclaimed (earlier was))
      unfold periodEnd at then_ found
      rw [same.2, found] at then_
      cases then_
      rfl
  · exact iff_of_false (nothing_not_once stored applicable claimed)
      (fun both => applicable both.1)

/-! ## One act -/

/-- A claimed reward stays claimed. -/
theorem claimed_moves (stored : Stored reward s₀ s) {phase next : RewardPhase} {act : RewardAct}
    (own : Own reward s₀ s phase) (moves : RewardMoves reward.id s phase act t next)
    (claimed : Claimed reward.id s) : Claimed reward.id t := by
  cases moves with
  | stays | ends | reads | computes => exact claimed
  | commits committed =>
    obtain ⟨rfl, _⟩ := own
    exact claimed_of_committed stored (commitReward_ok committed)

theorem Own.later {phase : RewardPhase} (own : Own reward s₀ s phase)
    (later : Claimed reward.id s → Claimed reward.id t) : Own reward s₀ t phase := by
  cases phase with
  | idle | granting => exact own
  | marking =>
    obtain ⟨same, user, read, stored, benefit, earlier⟩ := own
    exact ⟨same, user, read, stored, benefit, fun was => later (earlier was)⟩

theorem stored_of_committed (stored : Stored reward s₀ s) {env : ServiceEnvironment}
    {benefit : Benefit} (committed : RewardCommitted env reward benefit s t)
    (once : OnceAndReally reward s₀ t) : Stored reward s₀ t := by
  refine ⟨committed.organizations.trans stored.organizations,
    committed.members.trans stored.members, .inr ⟨env.now, ?_⟩, once⟩
  rw [committed.rewards]
  exact stored.marked env.now

theorem own_moves (stored : Stored reward s₀ s) {phase next : RewardPhase} {act : RewardAct}
    (own : Own reward s₀ s phase) (moves : RewardMoves reward.id s phase act t next) :
    Own reward s₀ t next := by
  cases moves with
  | stays => exact own
  | ends | commits => trivial
  | reads claims => exact ⟨(stored.read claims).1, (stored.read claims).2.1⟩
  | computes =>
    obtain ⟨rfl, rfl⟩ := own
    exact ⟨rfl, rfl, s, stored, rfl, id⟩

theorem stored_moves (stored : Stored reward s₀ s) {phase next : RewardPhase} {act : RewardAct}
    (own : Own reward s₀ s phase) (moves : RewardMoves reward.id s phase act t next)
    (effective : EffectiveAtCommit reward s phase act) : Stored reward s₀ t := by
  cases moves with
  | stays | ends | reads | computes => exact stored
  | commits committed =>
    obtain rfl := own.1
    have fresh := (commitReward_isOk_iff ..).mp ⟨t, committed⟩
    have committed := commitReward_ok committed
    exact stored_of_committed stored committed
      ((commit_once_iff stored own committed).mpr (effective fresh))

/-- A commit without effect, or a second one, makes the outcome wrong. -/
theorem not_once_act (stored : Stored reward s₀ s) {phase : RewardPhase} {act : RewardAct}
    (own : Own reward s₀ s phase) (missed : ¬ EffectiveAtCommit reward s phase act) :
    ¬ OnceAndReally reward s₀ (rewardAct reward.id s phase act).1 := by
  unfold EffectiveAtCommit at missed
  split at missed
  · next env userId found referral benefit =>
    obtain ⟨fresh, without⟩ := Classical.not_imp.mp missed
    obtain rfl := own.1
    obtain ⟨t, committed⟩ := (commitReward_isOk_iff env userId found referral benefit s).mpr fresh
    have after : (rewardAct found.id s (.marking env userId found referral benefit) .advance).1 =
        t := by
      simp only [rewardAct, committed]
    rw [after]
    exact fun once => without ((commit_once_iff stored own (commitReward_ok committed)).mp once)
  · exact absurd trivial missed

/-! ## One claim at a time -/

/-- A claim in flight is the first one of a reward that can be applied. -/
def Lone (reward : ReferralReward) (s : Platform) (phase : RewardPhase) : Prop :=
  phase = .idle ∨ (Applicable reward s ∧ ¬ Claimed reward.id s)

def Apart (first second : RewardPhase) : Prop := first = .idle ∨ second = .idle

theorem Lone.effective {phase : RewardPhase} (lone : Lone reward s phase) (act : RewardAct) :
    EffectiveAtCommit reward s phase act := by
  unfold EffectiveAtCommit
  split
  · rcases lone with nothing | ⟨applicable, unclaimed⟩
    · cases nothing
    · exact fun _ => ⟨applicable, .inl unclaimed⟩
  · trivial

section Interleavings
variable {ι : Type} [DecidableEq ι]

abbrev InOrder (reward : ReferralReward) (s₀ : Platform) (w : RewardWorld ι) : Prop :=
  World.Holds (Stored reward s₀) (fun _ => Own reward s₀) (fun _ _ => True) w

abbrev OneAtATime (reward : ReferralReward) (w : RewardWorld ι) : Prop :=
  World.Holds (fun _ => True) (fun _ => Lone reward) Apart w

theorem InOrder.move {w : RewardWorld ι} {m : ι × RewardAct} (holds : InOrder reward s₀ w)
    (effective : CommitsInEffect reward w m) : InOrder reward s₀ (rewardMove reward.id w m) := by
  have moves := rewardAct_moves reward.id w.shared (w.locals m.1) m.2
  refine World.Holds.move (fun _ _ _ => trivial) holds ⟨?_, ?_, fun j _ => ?_, fun _ _ => trivial⟩
  · exact stored_moves holds.store (holds.own m.1) moves effective
  · exact own_moves holds.store (holds.own m.1) moves
  · exact (holds.own j).later (claimed_moves holds.store (holds.own m.1) moves)

omit [DecidableEq ι] in
theorem OneAtATime.keeps {w : RewardWorld ι} {i : ι} {act : RewardAct} {next : RewardPhase}
    (stored : Stored reward s₀ w.shared) (holds : OneAtATime reward w)
    (alone : ClaimsAlone reward w (i, act))
    (moves : RewardMoves reward.id w.shared (w.locals i) act t next) :
    World.Keeps (fun _ => True) (fun _ => Lone reward) Apart w i (t, next) := by
  have lone := holds.own i
  have apart (j : ι) (other : j ≠ i) : Apart (w.locals i) (w.locals j) :=
    holds.pair i j other.symm
  unfold ClaimsAlone at alone
  dsimp only at alone
  generalize w.locals i = phase at moves lone apart alone
  cases moves with
  | stays => exact ⟨trivial, lone, fun j _ => holds.own j, apart⟩
  | ends => exact ⟨trivial, .inl rfl, fun j _ => holds.own j, fun _ _ => .inl rfl⟩
  | reads claims =>
    obtain ⟨applicable, others⟩ := alone ⟨_, claims⟩
    exact ⟨trivial, .inr ⟨applicable, (stored.read claims).2.2⟩, fun j _ => holds.own j,
      fun j other => .inr (others j other)⟩
  | computes =>
    refine ⟨trivial, .inr ?_, fun j _ => holds.own j, fun j other => .inr ?_⟩
    · exact lone.resolve_left (fun nothing => nomatch nothing)
    · exact (apart j other).resolve_left (fun nothing => nomatch nothing)
  | commits =>
    refine ⟨trivial, .inl rfl, fun j other => .inl ?_, fun _ _ => .inl rfl⟩
    exact (apart j other).resolve_left (fun nothing => nomatch nothing)

theorem OneAtATime.move {w : RewardWorld ι} {m : ι × RewardAct} (order : InOrder reward s₀ w)
    (holds : OneAtATime reward w) (alone : ClaimsAlone reward w m) :
    OneAtATime reward (rewardMove reward.id w m) :=
  World.Holds.move (fun _ _ apart => apart.symm) holds
    (holds.keeps order.store alone (rewardAct_moves ..))

/-! ## Every interleaving -/

/-- A reward is claimed just if it was applied, and applied once, in every state of a
run exactly when every claim that commits does so for a reward that can be applied
and that no claim before has been applied for, or changes nothing; it does if claims
pass their checks one at a time and where there is something to apply. -/
theorem rewards_applied_once_iff (reward : ReferralReward) (s : Platform)
    (run : List (ι × RewardAct))
    (found : s.community.rewards.get? reward.id = some reward)
    (unclaimed : reward.status ≠ "claimed") :
    ((∀ before after, run = before ++ after →
      OnceAndReally reward s (Run.exec (rewardMove reward.id) (idle ι s) before).shared) ↔
        Run.AllSteps (rewardMove reward.id) (CommitsInEffect reward) (idle ι s) run) ∧
    (Run.AllSteps (rewardMove reward.id) (ClaimsAlone reward) (idle ι s) run →
      Run.AllSteps (rewardMove reward.id) (CommitsInEffect reward) (idle ι s) run) := by
  have never : ¬ Claimed reward.id s := by
    intro ⟨other, same, claimed⟩
    rw [found] at same
    cases same
    exact unclaimed claimed
  have initial : InOrder reward s (idle ι s) :=
    ⟨⟨rfl, rfl, .inl found, .inl ⟨never, rfl, rfl⟩⟩, fun _ => trivial, fun _ _ _ => trivial⟩
  constructor
  · refine Run.forall_states_iff_allSteps (fun w holds => holds.store.outcome)
      (fun w m holds effective => holds.move effective) (fun w m holds missed => ?_) _ run initial
    exact not_once_act holds.store (holds.own m.1) missed
  · refine Run.allSteps_mono
      (fun (w : RewardWorld ι) m (both : InOrder reward s w ∧ OneAtATime reward w) alone => ?_)
      (fun w m both _ => (both.2.own m.1).effective m.2) _ run
      ⟨initial, trivial, fun _ => .inl rfl, fun _ _ _ => .inl rfl⟩
    exact ⟨both.1.move ((both.2.own m.1).effective m.2), both.2.move both.1 alone⟩

end Interleavings

/-! ## Rewards that go wrong -/

def acme : Organization := ⟨1, "Acme", "acme", .free, false, 0⟩

def watched : Dependency where
  id := 21
  orgId := 2
  applicationId := some 5
  name := "api"
  endpointUrl := "https://a.example"
  method := "GET"
  headers := none
  expectedStatusCodes := [200]
  timeoutSeconds := 10
  checkIntervalSeconds := 60
  nextCheckAt := none
  regions := ["us-east"]
  alertThresholdMs := none
  isActive := true
  isDeleted := false

/-- Two more dependencies for user 7, who has referred user 8. -/
def moreDependencies (orgId : Option Uuid) : ReferralReward :=
  ⟨31, 41, 7, orgId, "extra_dependencies", 2, "pending", none, none, none⟩

/-- Everything user 7 needs to claim, but a membership. -/
def referralProgram (reward : ReferralReward) : Platform where
  users := ⟨[⟨8, "b@example.com", "B", "hash", true, false, false, 0⟩], by decide⟩
  organizations := ⟨[acme], by decide⟩
  members := .empty
  apiKeys := .empty
  workspace := ⟨.empty, .empty, ⟨[watched], by decide⟩, .empty, .empty, .empty, .empty, .empty,
    .empty, .empty, .empty, .empty, .empty, .empty, .empty, .empty⟩
  community := ⟨.empty, ⟨[⟨41, 7, 8, some 2, "active", some 0⟩], by decide⟩,
    ⟨[reward], List.nodup_singleton _⟩, .empty, .empty, .empty, .empty⟩
  partners := ⟨.empty, .empty, .empty, .empty⟩

def claim (party : Nat) : Nat × RewardAct :=
  (party, .start
    { plainServer oneTokenCredentials with newId := fun n => 100 * (party + 1) + n } 7)

def oneClaim : List (Nat × RewardAct) := [claim 0, (0, .advance), (0, .advance)]

/-- Both find the reward pending. -/
def twoClaims : List (Nat × RewardAct) :=
  [claim 0, claim 1, (0, .advance), (1, .advance), (0, .advance), (1, .advance)]

theorem rewards_applied_once_iff_one :
    ((∀ before after, oneClaim = before ++ after →
      OnceAndReally (moreDependencies (some 1)) (referralProgram (moreDependencies (some 1)))
        (Run.exec (rewardMove 31) (idle Nat (referralProgram (moreDependencies (some 1))))
          before).shared) ↔
      Run.AllSteps (rewardMove 31) (CommitsInEffect (moreDependencies (some 1)))
        (idle Nat (referralProgram (moreDependencies (some 1)))) oneClaim) ∧
    (Run.AllSteps (rewardMove 31) (ClaimsAlone (moreDependencies (some 1)))
        (idle Nat (referralProgram (moreDependencies (some 1)))) oneClaim →
      Run.AllSteps (rewardMove 31) (CommitsInEffect (moreDependencies (some 1)))
        (idle Nat (referralProgram (moreDependencies (some 1)))) oneClaim) :=
  rewards_applied_once_iff (moreDependencies (some 1))
    (referralProgram (moreDependencies (some 1))) oneClaim (by decide) (by decide)

theorem OnceAndReally.overrides_le (once : OnceAndReally reward s t) :
    t.workspace.planOverrides.rows.length ≤ s.workspace.planOverrides.rows.length + 1 := by
  rcases once with ⟨_, same, _⟩ | ⟨_, _, _, ⟨_, _, row, _, _, _, rows⟩ | ⟨_, same, _⟩⟩
  · rw [same]
    exact Nat.le_succ _
  · rw [rows, List.length_append, List.length_singleton]
  · rw [same]
    exact Nat.le_succ _

/-- Two claims side by side add two overrides; a claim of a reward without an
organization adds none and marks it claimed. -/
theorem rewards_fail :
    (¬ OnceAndReally (moreDependencies (some 1)) (referralProgram (moreDependencies (some 1)))
      (Run.exec (rewardMove 31) (idle Nat (referralProgram (moreDependencies (some 1))))
        twoClaims).shared) ∧
    ¬ OnceAndReally (moreDependencies none) (referralProgram (moreDependencies none))
      (Run.exec (rewardMove 31) (idle Nat (referralProgram (moreDependencies none)))
        oneClaim).shared := by
  constructor
  · intro once
    exact absurd once.overrides_le (by decide)
  · rintro (⟨unclaimed, _⟩ | ⟨_, orgId, own, _⟩)
    · exact unclaimed ⟨markClaimed 0 (moreDependencies none), by decide, rfl⟩
    · cases own

end Reliastra.Guarantees.RewardClaims
