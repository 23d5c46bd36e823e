import Reliastra.Source.Api.Community
import Reliastra.Source.Api.ConcurrentDependencies

/-!
# Are the overrides of claimed rewards honoured?

`claim_reward` writes an `extra_dependencies` override and answers that it was
applied; `create_dependency` compares the count with the plan's limit and reads no
override. `overrides_honoured_iff` says when that comes to the same: where the
count is not between the plan's limit and the raised one.
-/

namespace Reliastra.Guarantees.LimitOverrides

open Reliastra.Library Source Source.Api

/-! ## The property -/

/-- An override of a claimed reward that raises the limit at this time. -/
def Honoured (now : Instant) (orgId : Uuid) (override : OrgPlanOverride) : Prop :=
  override.orgId = orgId ∧ override.overrideType = "extra_dependencies" ∧
    override.source = "referral" ∧ override.isActive = true ∧
    ∀ expiry ∈ override.expiresAt, now < expiry

instance (now : Instant) (orgId : Uuid) : DecidablePred (Honoured now orgId) := fun override =>
  inferInstanceAs (Decidable (override.orgId = orgId ∧
    override.overrideType = "extra_dependencies" ∧ override.source = "referral" ∧
    override.isActive = true ∧ ∀ expiry ∈ override.expiresAt, now < expiry))

/-- The plan's limit and the overrides that have not expired. -/
def raisedLimit (now : Instant) (org : Organization) (s : Platform) : Int :=
  org.plan.dependencyLimit +
    sumWhere (Honoured now org.id) (·.overrideValue) s.workspace.planOverrides.rows

/-- The request is not refused for the limit. -/
def PassesLimit (env : ServiceEnvironment) (org : Organization)
    (request : DependencyCreateRequest) (s : Platform) : Prop :=
  createDependency env org.id request s ≠ .error (limitReached org.plan)

/-! ## What the limit check asks -/

theorem flushNew_error_ne {ρ : Type} {key : ρ → Uuid} {t : Table key} {row : ρ} {failure : Failure}
    (failed : flushNew t row = .error failure) (plan : Plan) : failure ≠ limitReached plan := by
  unfold flushNew at failed
  split at failed
  · cases failed
  · cases failed
    exact fun same => by cases same

theorem invalid_ne_limitReached (message : String) (plan : Plan) :
    invalid message ≠ limitReached plan := by
  simp [invalid, limitReached, conflict, validationException, conflictException]

theorem chooseApplication_error_ne {s : Platform} {orgId : Uuid} {named : Option Uuid}
    {failure : Failure} (failed : chooseApplication s orgId named = .error failure) (plan : Plan) :
    failure ≠ limitReached plan := by
  cases named with
  | none => cases failed
  | some applicationId =>
    simp only [chooseApplication, requireApplication] at failed
    split at failed
    · split at failed
      · cases failed
      · cases failed
        exact invalid_ne_limitReached _ plan
    · cases failed
      exact invalid_ne_limitReached _ plan

theorem insertDependency_error_ne {env : ServiceEnvironment} {orgId : Uuid}
    {request : DependencyCreateRequest} {application : Option Uuid} {s : Platform}
    {failure : Failure}
    (failed : insertDependency env orgId request application s = .error failure) (plan : Plan) :
    failure ≠ limitReached plan := by
  unfold insertDependency at failed
  cases chosen : applicationsFor env orgId s application with
  | error failure' =>
    rw [chosen] at failed
    cases failed
    cases application with
    | some applicationId => cases chosen
    | none => exact flushNew_error_ne chosen plan
  | ok applications =>
    rw [chosen] at failed
    simp only [bind, Except.bind] at failed
    cases flushed : flushNew s.workspace.dependencies
        (newDependency env orgId (application.getD (env.newId 1)) request) with
    | error failure' =>
      rw [flushed] at failed
      cases failed
      exact flushNew_error_ne flushed plan
    | ok dependencies =>
      rw [flushed] at failed
      cases failed

/-- Nothing but the plan's limit and the count decides. -/
theorem passesLimit_iff {env : ServiceEnvironment} {org : Organization}
    {request : DependencyCreateRequest} {s : Platform}
    (found : s.organizations.get? org.id = some org)
    (allowed : org.plan.checkInterval ≤ request.checkIntervalSeconds) :
    PassesLimit env org request s ↔ dependencyCount s org.id < org.plan.dependencyLimit := by
  have started : startDependency s (.create env org.id request) =
      .ok (.counting env org request) := by
    simp [startDependency, found, require, refuseIf, not_lt_of_ge allowed, bind, Except.bind, pure,
      Except.pure]
  unfold PassesLimit
  rw [createDependency_eq_statements, started]
  simp only [bind, Except.bind, completeDependency, advanceDependency, refuseIf]
  by_cases reached : org.plan.dependencyLimit ≤ dependencyCount s org.id
  · simp [reached]
  · simp only [reached, if_false, pure, Except.pure]
    refine iff_of_true (fun refused => ?_) (Nat.lt_of_not_le reached)
    cases chosen : chooseApplication s org.id request.applicationId with
    | error failure =>
      simp only [chosen] at refused
      cases refused
      exact chooseApplication_error_ne chosen org.plan rfl
    | ok application =>
      simp only [chosen] at refused
      cases inserted : insertDependency env org.id request application s with
      | error failure =>
        simp only [inserted] at refused
        cases refused
        exact insertDependency_error_ne inserted org.plan rfl
      | ok committed =>
        simp only [inserted] at refused
        cases refused

/-- The limit check honours the overrides just where the count is not between the
plan's limit and the raised limit. -/
theorem overrides_honoured_iff (env : ServiceEnvironment) (org : Organization)
    (request : DependencyCreateRequest) (s : Platform)
    (found : s.organizations.get? org.id = some org)
    (allowed : org.plan.checkInterval ≤ request.checkIntervalSeconds) :
    (PassesLimit env org request s ↔
      (dependencyCount s org.id : Int) < raisedLimit env.now org s) ↔
      ¬ (org.plan.dependencyLimit ≤ dependencyCount s org.id ∧
        (dependencyCount s org.id : Int) < raisedLimit env.now org s) ∧
      ¬ (dependencyCount s org.id < org.plan.dependencyLimit ∧
        raisedLimit env.now org s ≤ dependencyCount s org.id) := by
  rw [passesLimit_iff found allowed]
  omega

/-! ## A free organization with two more dependencies granted -/

def grantedOrg : Organization := ⟨1, "Acme", "acme", .free, false, 0⟩

def grantedDependency (id : Uuid) : Dependency where
  id := id
  orgId := 1
  applicationId := some 5
  name := "api"
  endpointUrl := "https://a.example"
  method := "GET"
  headers := none
  expectedStatusCodes := [200]
  timeoutSeconds := 10
  checkIntervalSeconds := 60
  nextCheckAt := none
  regions := ["us-east"]
  alertThresholdMs := none
  isActive := true
  isDeleted := false

/-- Three dependencies, and the override of a reward for two more. -/
def grantedStore : Platform where
  users := .empty
  organizations := ⟨[grantedOrg], by decide⟩
  members := .empty
  apiKeys := .empty
  workspace := ⟨.empty, .empty, ⟨[21, 22, 23].map grantedDependency, by decide⟩, .empty, .empty,
    .empty, .empty, .empty, .empty, .empty, .empty, .empty, .empty, .empty,
    ⟨[⟨61, 1, "extra_dependencies", 2, "referral", some 51, true, some 1000⟩], by decide⟩, .empty⟩
  community := ⟨.empty, .empty, .empty, .empty, .empty, .empty, .empty⟩
  partners := ⟨.empty, .empty, .empty, .empty⟩

def fourthApi : DependencyCreateRequest :=
  ⟨"api", none, "https://b.example", "GET", none, [200], 10, 60, ["us-east"], none, true⟩

theorem overrides_honoured_iff_fourth :
    (PassesLimit (plainServer oneTokenCredentials) grantedOrg fourthApi grantedStore ↔
      (dependencyCount grantedStore grantedOrg.id : Int) < raisedLimit 0 grantedOrg grantedStore) ↔
      ¬ (grantedOrg.plan.dependencyLimit ≤ dependencyCount grantedStore grantedOrg.id ∧
        (dependencyCount grantedStore grantedOrg.id : Int) <
          raisedLimit 0 grantedOrg grantedStore) ∧
      ¬ (dependencyCount grantedStore grantedOrg.id < grantedOrg.plan.dependencyLimit ∧
        raisedLimit 0 grantedOrg grantedStore ≤ dependencyCount grantedStore grantedOrg.id) :=
  overrides_honoured_iff (plainServer oneTokenCredentials) grantedOrg fourthApi grantedStore
    (by decide) (by decide)

/-- Three of five, and the fourth is refused. -/
theorem fourth_refused :
    dependencyCount grantedStore grantedOrg.id = 3 ∧ raisedLimit 0 grantedOrg grantedStore = 5 ∧
      ¬ PassesLimit (plainServer oneTokenCredentials) grantedOrg fourthApi grantedStore := by
  refine ⟨by decide, by decide, fun passes => ?_⟩
  exact absurd ((passesLimit_iff (by decide) (by decide)).mp passes) (by decide)

/-! ## What a claim promises -/

/-- A claimed reward of extra dependencies raises the limit by its value until its
override expires. -/
theorem raisedLimit_of_claimReward {env : ServiceEnvironment} {userId rewardId : Uuid}
    {s t : Platform} {reward : ReferralReward} {referral : Referral} {org : Organization}
    {now : Instant} (claims : claimable env userId rewardId s = .ok (reward, referral))
    (claimed : claimReward env userId rewardId s = .ok t) (type : reward.type = "extra_dependencies")
    (granted : rewardOrganization s userId reward = some org.id)
    (early : now < env.now + daysToMicros 30) :
    raisedLimit now org t = raisedLimit now org s + reward.value := by
  unfold claimReward at claimed
  obtain ⟨read, same, claimed⟩ := bind_eq_ok claimed
  rw [claims] at same
  cases same
  obtain ⟨workspace, applied, claimed⟩ := bind_eq_ok claimed
  simp only [grantReward, granted, applyReward, type, true_or, if_true] at applied
  obtain ⟨planOverrides, written, applied⟩ := bind_eq_ok applied
  obtain ⟨auditLogs, _, claimed⟩ := bind_eq_ok claimed
  cases applied
  cases claimed
  have rows := (Table.insert_eq_some (flushNew_eq_ok.mp written)).2
  have honoured : Honoured now org.id
      { id := env.newId 0
        orgId := org.id
        overrideType := "extra_dependencies"
        overrideValue := reward.value
        source := "referral"
        sourceReferralId := some reward.referralId
        isActive := true
        expiresAt := some (env.now + daysToMicros 30) } := by
    refine ⟨rfl, rfl, rfl, rfl, fun expiry given => ?_⟩
    cases given
    exact early
  unfold raisedLimit
  dsimp only
  rw [rows, sumWhere_append, sumWhere_cons, if_pos honoured, sumWhere_nil]
  ring

end Reliastra.Guarantees.LimitOverrides

/-!
## Does the plan's limit on dependencies hold side by side?

`create_dependency` counts, and inserts some statements later; nothing keeps
another request from committing in between. `within_limit_iff` says that the limit
holds in every state just when each new row is committed while the count that its
request made would still pass, and that one creation at a time is enough for it.
-/

namespace Reliastra.Guarantees.DependencyLimit

open Reliastra.Library Source Source.Api

abbrev DependencyWorld (ι : Type) := World Platform ι DependencyPhase

/-- Every request starts in a session of its own. -/
def idle (ι : Type) (s : Platform) : DependencyWorld ι := ⟨s, fun _ => .idle⟩

def WithinLimit (org : Organization) (s : Platform) : Prop :=
  dependencyCount s org.id ≤ org.plan.dependencyLimit

/-- The creation has counted the dependencies of the organization, and has not
committed. -/
def Counted (orgId : Uuid) : DependencyPhase → Prop
  | .choosing _ counted _ | .inserting _ counted _ _ => counted = orgId
  | .idle | .counting _ _ _ | .deleting _ => False

/-- A row of the organization is committed while it has room for one more. -/
def RoomAtCommit (org : Organization) (s : Platform) (phase : DependencyPhase)
    (act : DependencyAct) : Prop :=
  match act, phase with
  | .advance, .inserting env orgId _ application =>
    orgId = org.id → FreshIds env application s → dependencyCount s org.id < org.plan.dependencyLimit
  | _, _ => True

section Interleavings
variable {ι : Type} [DecidableEq ι]

def dependencyMove (w : DependencyWorld ι) (m : ι × DependencyAct) : DependencyWorld ι :=
  w.move (fun _ => dependencyAct) m

def CommitsWithRoom (org : Organization) (w : DependencyWorld ι) (m : ι × DependencyAct) : Prop :=
  RoomAtCommit org w.shared (w.locals m.1) m.2

/-- A creation counts while no other one of the organization is between its count
and its commit. -/
def CountsAlone (org : Organization) (w : DependencyWorld ι) (m : ι × DependencyAct) : Prop :=
  match m.2, w.locals m.1 with
  | .advance, .counting _ counting _ =>
    counting.id = org.id → ∀ other, other ≠ m.1 → ¬ Counted org.id (w.locals other)
  | _, _ => True

end Interleavings

/-! ## One act -/

variable {org : Organization} {s t : Platform} {phase next : DependencyPhase} {act : DependencyAct}

/-- Only the commit of a new row adds to the count. -/
theorem withinLimit_moves (moves : DependencyMoves s phase act t next)
    (within : WithinLimit org s) (room : RoomAtCommit org s phase act) : WithinLimit org t := by
  unfold WithinLimit at within ⊢
  cases moves with
  | stays | ends | creates | deletes | counts | chooses => exact within
  | inserts inserted =>
    have free := room
    have added := (insertDependency_ok inserted).2 org.id
    split at added
    · next same =>
      have fresh := (insertDependency_isOk_iff ..).mp ⟨t, inserted⟩
      have below := free same fresh
      omega
    · omega
  | softDeletes => exact (dependencyCount_softDelete_le _ s org.id).trans within

/-- A row committed without room is one too many. -/
theorem not_withinLimit_act (full : ¬ RoomAtCommit org s phase act) :
    ¬ WithinLimit org (dependencyAct s phase act).1 := by
  unfold RoomAtCommit at full
  split at full
  · next env orgId request application =>
    simp only [Classical.not_imp] at full
    obtain ⟨same, fresh, reached⟩ := full
    obtain ⟨t, inserted⟩ := (insertDependency_isOk_iff env orgId request application s).mpr fresh
    have added := (insertDependency_ok inserted).2 org.id
    rw [if_pos same] at added
    have committed : (dependencyAct s (.inserting env orgId request application) .advance).1 = t := by
      simp [dependencyAct, advanceDependency, inserted, bind, Except.bind, pure, Except.pure]
    rw [committed]
    unfold WithinLimit
    omega
  · exact absurd trivial full

theorem organizations_moves (moves : DependencyMoves s phase act t next) :
    t.organizations = s.organizations := by
  cases moves with
  | stays | ends | creates | deletes | counts | chooses | softDeletes => rfl
  | inserts inserted => exact (insertDependency_ok inserted).1

/-! ## One creation at a time -/

/-- A creation before its count has read the organization as it is; after it, there
is room for its row. -/
def Own (org : Organization) (s : Platform) : DependencyPhase → Prop
  | .counting _ counting _ => counting.id = org.id → counting = org
  | .choosing _ orgId _ | .inserting _ orgId _ _ =>
    orgId = org.id → dependencyCount s org.id < org.plan.dependencyLimit
  | .idle | .deleting _ => True

/-- Not both are past their count. -/
def Apart (org : Organization) (first second : DependencyPhase) : Prop :=
  ¬ (Counted org.id first ∧ Counted org.id second)

def Stored (org : Organization) (s : Platform) : Prop :=
  s.organizations.get? org.id = some org ∧ WithinLimit org s

theorem Own.room (own : Own org s phase) (act : DependencyAct) : RoomAtCommit org s phase act := by
  unfold RoomAtCommit
  split
  · exact fun same _ => own same
  · trivial

theorem Own.of_le (own : Own org s phase)
    (fewer : dependencyCount t org.id ≤ dependencyCount s org.id) : Own org t phase := by
  cases phase with
  | idle | counting | deleting => exact own
  | choosing | inserting => exact fun same => fewer.trans_lt (own same)

theorem Own.of_not_counted (own : Own org s phase) (before : ¬ Counted org.id phase) :
    Own org t phase := by
  cases phase with
  | idle | counting | deleting => exact own
  | choosing | inserting => exact fun same => absurd same before

section Interleavings
variable {ι : Type} [DecidableEq ι]

abbrev OneAtATime (org : Organization) (w : DependencyWorld ι) : Prop :=
  World.Holds (Stored org) (fun _ => Own org) (Apart org) w

omit [DecidableEq ι] in
theorem OneAtATime.keeps {w : DependencyWorld ι} {i : ι} {act : DependencyAct}
    (holds : OneAtATime org w) (alone : CountsAlone org w (i, act))
    (moves : DependencyMoves w.shared (w.locals i) act t next) :
    World.Keeps (Stored org) (fun _ => Own org) (Apart org) w i (t, next) := by
  have own := holds.own i
  have apart (j : ι) (other : j ≠ i) : Apart org (w.locals i) (w.locals j) :=
    holds.pair i j other.symm
  have stored : Stored org t := by
    refine ⟨?_, withinLimit_moves moves holds.store.2 (own.room act)⟩
    rw [organizations_moves moves]
    exact holds.store.1
  unfold CountsAlone at alone
  dsimp only at alone
  generalize w.locals i = phase at moves own apart alone
  cases moves with
  | stays => exact ⟨stored, own, fun j _ => holds.own j, apart⟩
  | ends | deletes => exact ⟨stored, trivial, fun j _ => holds.own j, fun j _ both => both.1⟩
  | creates found =>
    refine ⟨stored, fun same => ?_, fun j _ => holds.own j, fun j _ both => both.1⟩
    rw [same, holds.store.1] at found
    cases found
    rfl
  | counts below =>
    refine ⟨stored, fun same => ?_, fun j _ => holds.own j, fun j other both => ?_⟩
    · rw [own same] at below
      exact below
    · exact alone both.1 j other both.2
  | chooses => exact ⟨stored, own, fun j _ => holds.own j, apart⟩
  | @inserts env orgId request application _ inserted =>
    refine ⟨stored, trivial, fun j other => ?_, fun j _ both => both.1⟩
    by_cases same : orgId = org.id
    · exact (holds.own j).of_not_counted (fun counted => apart j other ⟨same, counted⟩)
    · have added := (insertDependency_ok inserted).2 org.id
      rw [if_neg same] at added
      exact (holds.own j).of_le added.le
  | softDeletes =>
    refine ⟨stored, trivial, fun j _ => ?_, fun j _ both => both.1⟩
    exact (holds.own j).of_le (dependencyCount_softDelete_le _ _ _)

theorem OneAtATime.move {w : DependencyWorld ι} {m : ι × DependencyAct}
    (holds : OneAtATime org w) (alone : CountsAlone org w m) :
    OneAtATime org (dependencyMove w m) :=
  World.Holds.move (fun _ _ apart both => apart both.symm) holds
    (holds.keeps alone (dependencyAct_moves _ _ _))

/-! ## Every interleaving -/

/-- The limit holds in every state of a run just if every row of the organization is
committed while there is room for it; it does if no creation counts while another
is between its count and its commit. -/
theorem within_limit_iff (org : Organization) (s : Platform) (run : List (ι × DependencyAct))
    (found : s.organizations.get? org.id = some org) (initial : WithinLimit org s) :
    ((∀ before after, run = before ++ after →
      WithinLimit org (Run.exec dependencyMove (idle ι s) before).shared) ↔
        Run.AllSteps dependencyMove (CommitsWithRoom org) (idle ι s) run) ∧
    (Run.AllSteps dependencyMove (CountsAlone org) (idle ι s) run →
      Run.AllSteps dependencyMove (CommitsWithRoom org) (idle ι s) run) := by
  constructor
  · refine Run.forall_states_iff_allSteps
      (fun (w : DependencyWorld ι) (within : WithinLimit org w.shared) => within)
      (fun w m within room => ?_) (fun w m _ full => ?_) _ run initial
    · exact withinLimit_moves (dependencyAct_moves _ _ _) within room
    · exact not_withinLimit_act full
  · refine Run.allSteps_mono (fun w m holds alone => OneAtATime.move holds alone)
      (fun w m holds _ => (holds.own m.1).room m.2) _ run ?_
    exact ⟨⟨found, initial⟩, fun _ => trivial, fun _ _ _ both => both.1⟩

end Interleavings

/-! ## Two creations side by side -/

def freeOrg : Organization := ⟨1, "Acme", "acme", .free, false, 0⟩

def watched (id : Uuid) : Dependency where
  id := id
  orgId := 1
  applicationId := some 5
  name := "api"
  endpointUrl := "https://a.example"
  method := "GET"
  headers := none
  expectedStatusCodes := [200]
  timeoutSeconds := 10
  checkIntervalSeconds := 60
  nextCheckAt := none
  regions := ["us-east"]
  alertThresholdMs := none
  isActive := true
  isDeleted := false

/-- A free organization, one below its limit of three. -/
def twoWatched : Platform where
  users := .empty
  organizations := ⟨[freeOrg], by decide⟩
  members := .empty
  apiKeys := .empty
  workspace := ⟨.empty, ⟨[⟨5, 1, none, "Default", none, 0⟩], by decide⟩,
    ⟨[watched 21, watched 22], by decide⟩, .empty, .empty, .empty, .empty, .empty, .empty, .empty,
    .empty, .empty, .empty, .empty, .empty, .empty⟩
  community := ⟨.empty, .empty, .empty, .empty, .empty, .empty, .empty⟩
  partners := ⟨.empty, .empty, .empty, .empty⟩

def anotherApi : DependencyCreateRequest :=
  ⟨"api", none, "https://b.example", "GET", none, [200], 10, 60, ["us-east"], none, true⟩

def creation (party : Nat) : DependencyAct :=
  .start (.create { plainServer oneTokenCredentials with newId := fun n => 100 * (party + 1) + n } 1
    anotherApi)

def oneCreation : List (Nat × DependencyAct) :=
  [(0, creation 0), (0, .advance), (0, .advance), (0, .advance)]

/-- Both count two. -/
def twoCreations : List (Nat × DependencyAct) :=
  [(0, creation 0), (1, creation 1), (0, .advance), (1, .advance), (0, .advance), (1, .advance),
    (0, .advance), (1, .advance)]

theorem within_limit_iff_one :
    ((∀ before after, oneCreation = before ++ after →
      WithinLimit freeOrg (Run.exec dependencyMove (idle Nat twoWatched) before).shared) ↔
        Run.AllSteps dependencyMove (CommitsWithRoom freeOrg) (idle Nat twoWatched) oneCreation) ∧
    (Run.AllSteps dependencyMove (CountsAlone freeOrg) (idle Nat twoWatched) oneCreation →
      Run.AllSteps dependencyMove (CommitsWithRoom freeOrg) (idle Nat twoWatched) oneCreation) :=
  within_limit_iff freeOrg twoWatched oneCreation (by decide) (by unfold WithinLimit; decide)

/-- Four dependencies on a plan for three. -/
theorem limit_exceeded :
    twoWatched.organizations.get? freeOrg.id = some freeOrg ∧ WithinLimit freeOrg twoWatched ∧
      ¬ WithinLimit freeOrg (Run.exec dependencyMove (idle Nat twoWatched) twoCreations).shared := by
  unfold WithinLimit
  refine ⟨by decide, by decide, by decide⟩

end Reliastra.Guarantees.DependencyLimit
