import Reliastra.Library.Interleaving
import Reliastra.Source.Admin.Customers

/-!
# Campaigns and notifications

Source: `send_campaign` and `publish_notification` of `AdminCommunicationService`
in `app/modules/admin/service.py` with their repository functions, statement by
statement. A request reads what it is for and makes its check, selects the users,
and writes: nobody sees its rows before its commit. The tables of recipients and
deliveries have no unique constraint, and the random keys of their rows are left
out: a request whose insert fails ends as one that is aborted. The audit entry is
left out.
-/

namespace Reliastra.Source.Admin

open Reliastra.Library
open Api (invalid notFound refuseIf require)

structure EmailCampaign where
  id : Uuid
  segment : Option String
  status : String
  recipientCount : Nat
  sentAt : Option Instant
  deriving DecidableEq, Repr

structure EmailCampaignRecipient where
  campaignId : Uuid
  userId : Option Uuid
  email : String
  status : String
  deriving DecidableEq, Repr

structure InAppNotification where
  id : Uuid
  title : String
  deriving DecidableEq, Repr

structure InAppNotificationDelivery where
  notificationId : Uuid
  userId : Uuid
  deriving DecidableEq, Repr

structure CommunicationStore extends Store where
  campaigns : Table EmailCampaign.id
  notifications : Table InAppNotification.id
  recipients : List EmailCampaignRecipient
  deliveries : List InAppNotificationDelivery

/-! ## Requests -/

inductive BroadcastRequest where
  | sendCampaign (campaignId : Uuid)
  | publishNotification (notificationId : Uuid) (targetSegment targetPlan : Option String)
  deriving DecidableEq, Repr

/-- `EmailCampaignSendResponse` and `InAppNotificationPublishResponse`. -/
structure BroadcastResponse where
  message : String
  id : Uuid
  count : Nat
  deriving DecidableEq, Repr

inductive BroadcastPhase where
  | idle
  | selecting (request : BroadcastRequest)
  | writing (request : BroadcastRequest) (users : List User)
  | responded (request : BroadcastRequest) (response : BroadcastResponse)
  | failed (failure : Failure)
  deriving DecidableEq

inductive BroadcastAct where
  | start (request : BroadcastRequest)
  | advance (now : Instant)
  /-- The request or its worker ends without a commit. -/
  | abort

/-! ## Statements -/

/-- What is read first, and the checks on it. -/
def BroadcastRequest.check (s : CommunicationStore) : BroadcastRequest → Except Failure Unit
  | .sendCampaign campaignId => do
    let campaign ← require (s.campaigns.get? campaignId) (notFound "Campaign not found")
    refuseIf (campaign.status = "sent") (invalid "Campaign has already been sent")
  | .publishNotification notificationId _ _ => do
    let _ ← require (s.notifications.get? notificationId) (notFound "Notification not found")
    return ()

/-- `select(User).where(User.is_active.is_(True))`. -/
def activeUsers (s : Store) : List User := s.users.rows.filter (fun user => user.isActive)

def createRecipient (campaignId : Uuid) (s : CommunicationStore) (user : User) :
    CommunicationStore :=
  { s with recipients := s.recipients ++ [⟨campaignId, some user.id, user.email, "pending"⟩] }

def createDelivery (notificationId : Uuid) (s : CommunicationStore) (user : User) :
    CommunicationStore :=
  { s with deliveries := s.deliveries ++ [⟨notificationId, user.id⟩] }

/-- The loop over the users, with the number of those it has come past. -/
def forEachUser (create : CommunicationStore → User → CommunicationStore) :
    List User → Nat → CommunicationStore → CommunicationStore × Nat
  | [], count, s => (s, count)
  | user :: rest, count, s => forEachUser create rest (count + 1) (create s user)

def markSent (sent : Nat) (now : Instant) (campaign : EmailCampaign) : EmailCampaign :=
  { campaign with status := "sent", recipientCount := sent, sentAt := some now }

theorem markSent_keeps (sent : Nat) (now : Instant) (campaign : EmailCampaign) :
    (markSent sent now campaign).id = campaign.id := rfl

/-- The rows of a request, as its commit shows them, and the response. -/
def BroadcastRequest.commit (now : Instant) (users : List User) (s : CommunicationStore) :
    BroadcastRequest → CommunicationStore × BroadcastResponse
  | .sendCampaign campaignId =>
    let (s, sent) := forEachUser (createRecipient campaignId) users 0 s
    ({ s with
        campaigns := s.campaigns.updateKey campaignId (markSent sent now) (markSent_keeps sent now) },
      ⟨"Campaign sent to " ++ toString sent ++ " recipients", campaignId, sent⟩)
  | .publishNotification notificationId _ _ =>
    let (s, delivered) := forEachUser (createDelivery notificationId) users 0 s
    (s, ⟨"Notification delivered to " ++ toString delivered ++ " users", notificationId, delivered⟩)

def broadcastAct (s : CommunicationStore) (phase : BroadcastPhase) :
    BroadcastAct → CommunicationStore × BroadcastPhase
  | .start request =>
    match phase with
    | .idle =>
      match request.check s with
      | .ok () => (s, .selecting request)
      | .error failure => (s, .failed failure)
    | _ => (s, phase)
  | .advance now =>
    match phase with
    | .selecting request => (s, .writing request (activeUsers s.toStore))
    | .writing request users =>
      ((request.commit now users s).1, .responded request (request.commit now users s).2)
    | _ => (s, phase)
  | .abort =>
    match phase with
    | .selecting _ | .writing _ _ => (s, .failed (.python "CancelledError"))
    | _ => (s, phase)

/-! ## What an act can do -/

/-- The act of a request that writes its rows. -/
def Commits : BroadcastPhase → BroadcastAct → Prop
  | .writing _ _, .advance _ => True
  | _, _ => False

inductive BroadcastMoves (s : CommunicationStore) :
    BroadcastPhase → BroadcastAct → CommunicationStore → BroadcastPhase → Prop
  | stays (phase : BroadcastPhase) (act : BroadcastAct) (quiet : ¬ Commits phase act) :
      BroadcastMoves s phase act s phase
  | fails (phase : BroadcastPhase) (act : BroadcastAct) (failure : Failure)
      (quiet : ¬ Commits phase act)
      (unanswered : ∀ request response, phase ≠ .responded request response) :
      BroadcastMoves s phase act s (.failed failure)
  | checks {request : BroadcastRequest} (checked : request.check s = .ok ()) :
      BroadcastMoves s .idle (.start request) s (.selecting request)
  | selects {request : BroadcastRequest} {now : Instant} :
      BroadcastMoves s (.selecting request) (.advance now) s
        (.writing request (activeUsers s.toStore))
  | commits {request : BroadcastRequest} {users : List User} {now : Instant} :
      BroadcastMoves s (.writing request users) (.advance now) (request.commit now users s).1
        (.responded request (request.commit now users s).2)

theorem broadcastAct_moves (s : CommunicationStore) (phase : BroadcastPhase) (act : BroadcastAct) :
    BroadcastMoves s phase act (broadcastAct s phase act).1 (broadcastAct s phase act).2 := by
  cases act with
  | start request =>
    cases phase with
    | idle =>
      simp only [broadcastAct]
      cases checked : request.check s with
      | ok _ => exact .checks checked
      | error failure => exact .fails _ _ _ id (fun _ _ => nofun)
    | _ => exact .stays _ _ id
  | advance now =>
    cases phase with
    | selecting request => exact .selects
    | writing request users => exact .commits
    | _ => exact .stays _ _ id
  | abort =>
    cases phase with
    | selecting request => exact .fails _ _ _ id (fun _ _ => nofun)
    | writing request users => exact .fails _ _ _ id (fun _ _ => nofun)
    | _ => exact .stays _ _ id

/-! ## What a request is for -/

inductive BroadcastTarget where
  | campaign (id : Uuid)
  | notification (id : Uuid)
  deriving DecidableEq

def BroadcastRequest.target : BroadcastRequest → BroadcastTarget
  | .sendCampaign campaignId => .campaign campaignId
  | .publishNotification notificationId _ _ => .notification notificationId

/-- The number of a user's rows. -/
def BroadcastTarget.rowsOf (s : CommunicationStore) (userId : Uuid) : BroadcastTarget → Nat
  | .campaign id =>
    s.recipients.countP (fun row => row.campaignId = id ∧ row.userId = some userId)
  | .notification id =>
    s.deliveries.countP (fun row => row.notificationId = id ∧ row.userId = userId)

def segmentOf (s : CommunicationStore) (campaignId : Uuid) : Option String :=
  (s.campaigns.get? campaignId).bind (·.segment)

/-! ## What a commit leaves -/

/-- What no row of the loop changes, the loop does not change. -/
theorem forEachUser_keeps {β : Type} (f : CommunicationStore → β)
    (create : CommunicationStore → User → CommunicationStore)
    (keeps : ∀ s user, f (create s user) = f s) (users : List User) (count : Nat)
    (s : CommunicationStore) : f (forEachUser create users count s).1 = f s := by
  induction users generalizing count s with
  | nil => rfl
  | cons user rest ih => rw [forEachUser, ih, keeps]

/-- A number that grows by one with the rows of some users. -/
theorem forEachUser_counts (f : CommunicationStore → Nat) {p : User → Prop} [DecidablePred p]
    (create : CommunicationStore → User → CommunicationStore)
    (grows : ∀ s user, f (create s user) = f s + if p user then 1 else 0) (users : List User)
    (count : Nat) (s : CommunicationStore) :
    f (forEachUser create users count s).1 = f s + users.countP p := by
  induction users generalizing count s with
  | nil => rfl
  | cons user rest ih =>
    rw [forEachUser, ih, grows, List.countP_cons]
    simp only [decide_eq_true_eq]
    omega

theorem forEachUser_count (create : CommunicationStore → User → CommunicationStore)
    (users : List User) (count : Nat) (s : CommunicationStore) :
    (forEachUser create users count s).2 = count + users.length := by
  induction users generalizing count s with
  | nil => rfl
  | cons user rest ih =>
    rw [forEachUser, ih, List.length_cons]
    omega

section Commit
variable (now : Instant) (users : List User) (s : CommunicationStore) (request : BroadcastRequest)

theorem commit_store : (request.commit now users s).1.toStore = s.toStore := by
  cases request with
  | sendCampaign campaignId =>
    exact forEachUser_keeps (·.toStore) (createRecipient campaignId) (fun _ _ => rfl) users 0 s
  | publishNotification notificationId targetSegment targetPlan =>
    exact forEachUser_keeps (·.toStore) (createDelivery notificationId) (fun _ _ => rfl) users 0 s

theorem commit_segment (campaignId : Uuid) :
    segmentOf (request.commit now users s).1 campaignId = segmentOf s campaignId := by
  cases request with
  | sendCampaign sentId =>
    have same := forEachUser_keeps (·.campaigns) (createRecipient sentId) (fun _ _ => rfl) users 0 s
    simp only [segmentOf, BroadcastRequest.commit, same, Table.get?_updateKey]
    cases s.campaigns.get? campaignId with
    | none => rfl
    | some campaign =>
      rw [Option.map_some, Option.bind_some, Option.bind_some]
      split
      · rfl
      · rfl
  | publishNotification notificationId targetSegment targetPlan =>
    exact forEachUser_keeps (segmentOf · campaignId) (createDelivery notificationId)
      (fun _ _ => rfl) users 0 s

/-- The request's users have one row more each, and nothing else has. -/
theorem commit_rowsOf (target : BroadcastTarget) (userId : Uuid) :
    target.rowsOf (request.commit now users s).1 userId = target.rowsOf s userId +
      if request.target = target then users.countP (fun user => user.id = userId) else 0 := by
  cases request with
  | sendCampaign campaignId =>
    cases target with
    | campaign id =>
      have counted := forEachUser_counts
        (p := fun user => campaignId = id ∧ user.id = userId)
        (fun s => s.recipients.countP (fun row => row.campaignId = id ∧ row.userId = some userId))
        (createRecipient campaignId)
        (fun s user => by simp [createRecipient, List.countP_append, List.countP_singleton])
        users 0 s
      simp only [BroadcastTarget.rowsOf, BroadcastRequest.commit, BroadcastRequest.target, counted]
      by_cases same : campaignId = id
      · simp [same]
      · simp [same]
    | notification id =>
      have same := forEachUser_keeps (·.deliveries) (createRecipient campaignId) (fun _ _ => rfl)
        users 0 s
      simp [BroadcastTarget.rowsOf, BroadcastRequest.commit, BroadcastRequest.target, same]
  | publishNotification notificationId targetSegment targetPlan =>
    cases target with
    | campaign id =>
      have same := forEachUser_keeps (·.recipients) (createDelivery notificationId)
        (fun _ _ => rfl) users 0 s
      simp [BroadcastTarget.rowsOf, BroadcastRequest.commit, BroadcastRequest.target, same]
    | notification id =>
      have counted := forEachUser_counts
        (p := fun user => notificationId = id ∧ user.id = userId)
        (fun s => s.deliveries.countP (fun row => row.notificationId = id ∧ row.userId = userId))
        (createDelivery notificationId)
        (fun s user => by simp [createDelivery, List.countP_append, List.countP_singleton])
        users 0 s
      simp only [BroadcastTarget.rowsOf, BroadcastRequest.commit, BroadcastRequest.target, counted]
      by_cases same : notificationId = id
      · simp [same]
      · simp [same]

theorem commit_count : (request.commit now users s).2.count = users.length := by
  cases request with
  | sendCampaign campaignId =>
    simp only [BroadcastRequest.commit, forEachUser_count, Nat.zero_add]
  | publishNotification notificationId targetSegment targetPlan =>
    simp only [BroadcastRequest.commit, forEachUser_count, Nat.zero_add]

end Commit

end Reliastra.Source.Admin
