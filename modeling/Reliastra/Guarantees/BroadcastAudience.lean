import Reliastra.Source.Admin.Communications

/-!
# Who a broadcast reaches

A campaign that was sent is to have one row for each active user of its segment,
and no row for anybody else; likewise a notification for those its requests were
meant for. The code selects every active user, and nothing but the status of a
campaign, read before the rows are written, keeps a broadcast from going out twice.
In a run of any requests the audience is reached, once, exactly when every request
that commits finds no row of its campaign or notification, and every active user
among those it is meant for.

What a segment is nothing in the source says, so it is a parameter. A user is on
the plans of the organizations the user is a member of.
-/

namespace Reliastra.Guarantees.BroadcastAudience

open Reliastra.Library Reliastra.Source Reliastra.Source.Admin

abbrev BroadcastWorld (ι : Type) := World CommunicationStore ι BroadcastPhase

/-- No request has begun. -/
def idle (ι : Type) (s : CommunicationStore) : BroadcastWorld ι := ⟨s, fun _ => .idle⟩

/-! ## The property -/

abbrev Segments := String → User → Prop

def OnPlan (s : Store) (plan : String) (user : User) : Prop :=
  ∃ member ∈ s.members.rows, member.userId = user.id ∧ member.isDeleted = false ∧
    ∃ organization ∈ s.organizations.rows, organization.id = member.orgId ∧
      organization.plan.value = plan

/-- The users a request is meant for, active or not. -/
def MeantFor (segments : Segments) (s : CommunicationStore) (user : User) :
    BroadcastRequest → Prop
  | .sendCampaign campaignId => ∀ segment ∈ segmentOf s campaignId, segments segment user
  | .publishNotification _ targetSegment targetPlan =>
    (∀ segment ∈ targetSegment, segments segment user) ∧
      ∀ plan ∈ targetPlan, OnPlan s.toStore plan user

section Property
variable {ι : Type} (segments : Segments) (w : BroadcastWorld ι)

/-- A party has its response to a request. -/
def Answered (request : BroadcastRequest) : Prop :=
  ∃ i response, w.locals i = .responded request response

/-- A request for the target that was answered was meant for the user. -/
def InAudience (target : BroadcastTarget) (user : User) : Prop :=
  user.isActive = true ∧ ∃ request, Answered w request ∧ request.target = target ∧
    MeantFor segments w.shared user request

/-- What was broadcast is with each user of the audience once, and with nobody else. -/
def ReachesAudience : Prop :=
  ∀ request, Answered w request → ∀ user ∈ w.shared.users.rows,
    (InAudience segments w request.target user → request.target.rowsOf w.shared user.id = 1) ∧
      (¬ InAudience segments w request.target user → request.target.rowsOf w.shared user.id = 0)

end Property

/-! ## The condition -/

/-- No user has a row yet, and every active one is meant. -/
def Undelivered (segments : Segments) (s : CommunicationStore) (request : BroadcastRequest) : Prop :=
  ∀ user ∈ s.users.rows, request.target.rowsOf s user.id = 0 ∧
    (user.isActive = true → MeantFor segments s user request)

def UndeliveredAtCommit (segments : Segments) (s : CommunicationStore) (phase : BroadcastPhase)
    (act : BroadcastAct) : Prop :=
  match phase, act with
  | .writing request _, .advance _ => Undelivered segments s request
  | _, _ => True

section Interleavings
variable {ι : Type} [DecidableEq ι]

def broadcastMove (w : BroadcastWorld ι) (m : ι × BroadcastAct) : BroadcastWorld ι :=
  w.move (fun _ => broadcastAct) m

def CommitsUndelivered (segments : Segments) (w : BroadcastWorld ι) (m : ι × BroadcastAct) : Prop :=
  UndeliveredAtCommit segments w.shared (w.locals m.1) m.2

end Interleavings

/-! ## What a commit comes to -/

section Commit
variable {segments : Segments} {s : CommunicationStore}

/-- A stored user is selected once, if active. -/
theorem countP_activeUsers {user : User} (stored : user ∈ s.users.rows) :
    (activeUsers s.toStore).countP (fun other => other.id = user.id) =
      if user.isActive then 1 else 0 := by
  have same : (activeUsers s.toStore).countP (fun other => other.id = user.id) =
      (activeUsers s.toStore).count user := by
    apply List.countP_congr
    intro other selected
    have member := (List.mem_filter.mp selected).1
    simp only [decide_eq_true_eq, beq_iff_eq]
    exact ⟨fun key => Table.eq_of_key member stored key, congrArg User.id⟩
  have distinct : s.users.rows.Nodup := List.Nodup.of_map _ s.users.unique
  rw [same, activeUsers, List.Nodup.count (distinct.filter _)]
  by_cases active : user.isActive = true
  · simp [stored, active]
  · simp [active]

theorem meantFor_commit (now : Instant) (users : List User) (sent request : BroadcastRequest)
    (user : User) :
    MeantFor segments (sent.commit now users s).1 user request ↔
      MeantFor segments s user request := by
  cases request with
  | sendCampaign campaignId => simp only [MeantFor, commit_segment]
  | publishNotification notificationId targetSegment targetPlan =>
    simp only [MeantFor, commit_store]

/-- Every active user has one row more for the request. -/
theorem commit_row (now : Instant) (request : BroadcastRequest) (target : BroadcastTarget)
    {user : User} (stored : user ∈ s.users.rows) :
    target.rowsOf (request.commit now (activeUsers s.toStore) s).1 user.id =
      target.rowsOf s user.id +
        if request.target = target ∧ user.isActive = true then 1 else 0 := by
  rw [commit_rowsOf, countP_activeUsers stored]
  by_cases same : request.target = target
  · simp [same]
  · simp [same]

end Commit

section Interleavings
variable {ι : Type} [DecidableEq ι] {segments : Segments} {w : BroadcastWorld ι} {i : ι}

/-- A party that has no response before or after leaves the answered requests. -/
theorem answered_quiet {shared : CommunicationStore} {next : BroadcastPhase}
    (before : ∀ request response, w.locals i ≠ .responded request response)
    (after : ∀ request response, next ≠ .responded request response)
    (request : BroadcastRequest) :
    Answered (⟨shared, Function.update w.locals i next⟩ : BroadcastWorld ι) request ↔
      Answered w request := by
  constructor
  · intro ⟨j, response, there⟩
    dsimp only at there
    by_cases same : j = i
    · subst same
      rw [Function.update_self] at there
      exact absurd there (after request response)
    · rw [Function.update_of_ne same] at there
      exact ⟨j, response, there⟩
  · intro ⟨j, response, there⟩
    have other : j ≠ i := by
      rintro rfl
      exact before request response there
    exact ⟨j, response, (Function.update_of_ne other ..).trans there⟩

theorem reaches_quiet {next : BroadcastPhase}
    (before : ∀ request response, w.locals i ≠ .responded request response)
    (after : ∀ request response, next ≠ .responded request response) :
    ReachesAudience segments (⟨w.shared, Function.update w.locals i next⟩ : BroadcastWorld ι) ↔
      ReachesAudience segments w := by
  simp only [ReachesAudience, InAudience, answered_quiet before after]

theorem answered_commit {shared : CommunicationStore} {sent : BroadcastRequest}
    {users : List User} {answer : BroadcastResponse} (writing : w.locals i = .writing sent users)
    (request : BroadcastRequest) :
    Answered (⟨shared, Function.update w.locals i (.responded sent answer)⟩ : BroadcastWorld ι)
        request ↔ request = sent ∨ Answered w request := by
  constructor
  · intro ⟨j, response, there⟩
    dsimp only at there
    by_cases same : j = i
    · subst same
      rw [Function.update_self, BroadcastPhase.responded.injEq] at there
      exact .inl there.1.symm
    · rw [Function.update_of_ne same] at there
      exact .inr ⟨j, response, there⟩
  · rintro (rfl | ⟨j, response, there⟩)
    · exact ⟨i, answer, Function.update_self ..⟩
    · have other : j ≠ i := by
        rintro rfl
        rw [writing] at there
        cases there
      exact ⟨j, response, (Function.update_of_ne other ..).trans there⟩

/-- The world after a commit. -/
def committed (w : BroadcastWorld ι) (i : ι) (request : BroadcastRequest) (now : Instant) :
    BroadcastWorld ι :=
  ⟨(request.commit now (activeUsers w.shared.toStore) w.shared).1, Function.update w.locals i
    (.responded request (request.commit now (activeUsers w.shared.toStore) w.shared).2)⟩

theorem inAudience_committed {request : BroadcastRequest} {users : List User} {now : Instant}
    (writing : w.locals i = .writing request users) (target : BroadcastTarget) (user : User) :
    InAudience segments (committed w i request now) target user ↔
      InAudience segments w target user ∨
        (user.isActive = true ∧ request.target = target ∧
          MeantFor segments w.shared user request) := by
  unfold InAudience committed
  simp only [answered_commit writing, meantFor_commit]
  constructor
  · rintro ⟨active, other, rfl | answered, aimed, meant⟩
    · exact .inr ⟨active, aimed, meant⟩
    · exact .inl ⟨active, other, answered, aimed, meant⟩
  · rintro (⟨active, other, answered, aimed, meant⟩ | ⟨active, aimed, meant⟩)
    · exact ⟨active, other, .inr answered, aimed, meant⟩
    · exact ⟨active, request, .inl rfl, aimed, meant⟩

theorem committed_users (w : BroadcastWorld ι) (i : ι) (request : BroadcastRequest)
    (now : Instant) : (committed w i request now).shared.users = w.shared.users :=
  congrArg Store.users (commit_store now _ w.shared request)

theorem committed_rows (w : BroadcastWorld ι) (i : ι) (request : BroadcastRequest) (now : Instant)
    (target : BroadcastTarget) {user : User} (stored : user ∈ w.shared.users.rows) :
    target.rowsOf (committed w i request now).shared user.id = target.rowsOf w.shared user.id +
      if request.target = target ∧ user.isActive = true then 1 else 0 :=
  commit_row now request target stored

/-- Rows that were there before the commit are too many after it. -/
theorem unreached_of_committed {request : BroadcastRequest} {now : Instant}
    (reaches : ReachesAudience segments (committed w i request now))
    (answered : Answered (committed w i request now) request) {user : User}
    (stored : user ∈ w.shared.users.rows) : request.target.rowsOf w.shared user.id = 0 := by
  obtain ⟨inside, outside⟩ :=
    reaches request answered user ((committed_users w i request now).symm ▸ stored)
  rw [committed_rows w i request now _ stored] at inside outside
  by_cases audience : InAudience segments (committed w i request now) request.target user
  · have one := inside audience
    rw [if_pos ⟨rfl, audience.1⟩] at one
    omega
  · have zero := outside audience
    omega

/-- An active user who gets a row is meant by this request: by an earlier one there
would have been a row. -/
theorem meant_of_committed {request : BroadcastRequest} {users : List User} {now : Instant}
    (writing : w.locals i = .writing request users) (before : ReachesAudience segments w)
    (reaches : ReachesAudience segments (committed w i request now))
    (answered : Answered (committed w i request now) request) {user : User}
    (stored : user ∈ w.shared.users.rows) (active : user.isActive = true) :
    MeantFor segments w.shared user request := by
  have unreached := unreached_of_committed reaches answered stored
  have outside :=
    (reaches request answered user ((committed_users w i request now).symm ▸ stored)).2
  rw [committed_rows w i request now _ stored, if_pos ⟨rfl, active⟩] at outside
  have audience : InAudience segments (committed w i request now) request.target user := by
    by_contra missed
    have zero := outside missed
    omega
  rcases (inAudience_committed writing _ user).mp audience with earlier | ⟨_, _, meant⟩
  · have inside := earlier
    obtain ⟨_, other, answeredBefore, aimed, _⟩ := inside
    rw [← aimed] at earlier unreached
    have one := (before other answeredBefore user stored).1 earlier
    omega
  · exact meant

/-- Where nobody has a row and everybody active is meant, the rows are those of the
active users. -/
theorem reaches_committed {request : BroadcastRequest} {users : List User} {now : Instant}
    (writing : w.locals i = .writing request users) (before : ReachesAudience segments w)
    (undelivered : Undelivered segments w.shared request) :
    ReachesAudience segments (committed w i request now) := by
  intro other answered user stored
  rw [committed_users] at stored
  obtain ⟨unreached, meant⟩ := undelivered user stored
  rw [committed_rows w i request now _ stored, inAudience_committed writing]
  by_cases aimed : request.target = other.target
  · rw [aimed] at unreached
    rw [unreached]
    by_cases active : user.isActive = true
    · rw [if_pos ⟨aimed, active⟩]
      exact ⟨fun _ => rfl, fun outside => absurd (.inr ⟨active, aimed, meant active⟩) outside⟩
    · rw [if_neg (fun both => active both.2)]
      refine ⟨fun inside => ?_, fun _ => rfl⟩
      rcases inside with ⟨yes, _⟩ | ⟨yes, _⟩
      · exact absurd yes active
      · exact absurd yes active
  · have earlier : Answered w other := by
      rcases (answered_commit writing other).mp answered with rfl | earlier
      · exact absurd rfl aimed
      · exact earlier
    rw [if_neg (fun both => aimed both.1), Nat.add_zero,
      or_iff_left (fun both => aimed both.2.1)]
    exact before other earlier user stored

theorem reaches_committed_iff {request : BroadcastRequest} {users : List User} {now : Instant}
    (writing : w.locals i = .writing request users) (before : ReachesAudience segments w) :
    ReachesAudience segments (committed w i request now) ↔
      Undelivered segments w.shared request := by
  constructor
  · intro reaches user stored
    have answered : Answered (committed w i request now) request :=
      (answered_commit writing request).mpr (.inl rfl)
    exact ⟨unreached_of_committed reaches answered stored,
      meant_of_committed writing before reaches answered stored⟩
  · exact reaches_committed writing before

/-! ## Every interleaving -/

/-- A request writes rows for the users it selected, who are the active ones still. -/
def Own (s : CommunicationStore) : BroadcastPhase → Prop
  | .writing _ users => users = activeUsers s.toStore
  | _ => True

abbrev Selected (w : BroadcastWorld ι) : Prop :=
  World.Holds (fun _ => True) (fun _ => Own) (fun _ _ => True) w

theorem moves_store {s t : CommunicationStore} {phase next : BroadcastPhase} {act : BroadcastAct}
    (moves : BroadcastMoves s phase act t next) : t.toStore = s.toStore := by
  cases moves with
  | stays | fails | checks | selects => rfl
  | commits => exact commit_store ..

theorem Own.later {s t : CommunicationStore} {phase : BroadcastPhase} (own : Own s phase)
    (same : t.toStore = s.toStore) : Own t phase := by
  cases phase with
  | writing request users => exact own.trans (by rw [same])
  | _ => trivial

theorem own_moves {s t : CommunicationStore} {phase next : BroadcastPhase} {act : BroadcastAct}
    (own : Own s phase) (moves : BroadcastMoves s phase act t next) : Own t next := by
  cases moves with
  | stays => exact own
  | selects => rfl
  | fails | checks | commits => trivial

theorem Selected.move {w : BroadcastWorld ι} {m : ι × BroadcastAct} (selected : Selected w) :
    Selected (broadcastMove w m) := by
  have moves := broadcastAct_moves w.shared (w.locals m.1) m.2
  refine World.Holds.move (fun _ _ _ => trivial) selected
    ⟨trivial, ?_, fun j _ => ?_, fun _ _ => trivial⟩
  · exact own_moves (selected.own m.1) moves
  · exact (selected.own j).later (moves_store moves)

theorem undelivered_of_quiet {s : CommunicationStore} {phase : BroadcastPhase}
    {act : BroadcastAct} (quiet : ¬ Commits phase act) :
    UndeliveredAtCommit segments s phase act := by
  unfold UndeliveredAtCommit
  split
  · exact absurd trivial quiet
  · trivial

/-- A move keeps the audience reached just if it meets the condition. -/
theorem reaches_move_iff {w : BroadcastWorld ι} {m : ι × BroadcastAct} (selected : Selected w)
    (reaches : ReachesAudience segments w) :
    ReachesAudience segments (broadcastMove w m) ↔ CommitsUndelivered segments w m := by
  obtain ⟨i, act⟩ := m
  have moves := broadcastAct_moves w.shared (w.locals i) act
  have own := selected.own i
  unfold broadcastMove CommitsUndelivered World.move
  dsimp only
  generalize before : w.locals i = phase at moves own ⊢
  generalize (broadcastAct w.shared phase act).1 = shared at moves ⊢
  generalize (broadcastAct w.shared phase act).2 = next at moves ⊢
  cases moves with
  | stays _ _ quiet =>
    rw [← before, Function.update_eq_self]
    exact iff_of_true reaches (undelivered_of_quiet (before ▸ quiet))
  | fails _ _ failure quiet unanswered =>
    refine iff_of_true ((reaches_quiet ?_ ?_).mpr reaches) (undelivered_of_quiet quiet)
    · exact before ▸ unanswered
    · exact fun _ _ => nofun
  | checks checked =>
    refine iff_of_true ((reaches_quiet ?_ ?_).mpr reaches) trivial
    · rw [before]
      exact fun _ _ => nofun
    · exact fun _ _ => nofun
  | selects =>
    refine iff_of_true ((reaches_quiet ?_ ?_).mpr reaches) trivial
    · rw [before]
      exact fun _ _ => nofun
    · exact fun _ _ => nofun
  | commits =>
    obtain rfl := own
    exact reaches_committed_iff before reaches

/-- The audience is reached in every state of a run, whatever the users and
organizations are, exactly when every request that commits finds no row of its
campaign or notification and every active user among those it is meant for. -/
theorem broadcasts_reach_audience_iff (segments : Segments) (s : CommunicationStore)
    (run : List (ι × BroadcastAct)) :
    (∀ before after, run = before ++ after →
      ReachesAudience segments (Run.exec broadcastMove (idle ι s) before)) ↔
        Run.AllSteps broadcastMove (CommitsUndelivered segments) (idle ι s) run := by
  have initial : Selected (idle ι s) ∧ ReachesAudience segments (idle ι s) := by
    refine ⟨⟨trivial, fun _ => trivial, fun _ _ _ => trivial⟩, ?_⟩
    intro request ⟨i, response, answered⟩
    cases answered
  refine Run.forall_states_iff_allSteps
    (fun (w : BroadcastWorld ι) (holds : Selected w ∧ ReachesAudience segments w) => holds.2)
    (fun w m holds met => ?_) (fun w m holds missed reaches => ?_) (idle ι s) run initial
  · exact ⟨holds.1.move, (reaches_move_iff holds.1 holds.2).mpr met⟩
  · exact missed ((reaches_move_iff holds.1 holds.2).mp reaches)

/-! ## One request at a time -/

/-- The request a party has begun and not answered. -/
def underWay : BroadcastPhase → Option BroadcastRequest
  | .selecting request => some request
  | .writing request _ => some request
  | _ => none

def Ready (segments : Segments) (s : CommunicationStore) (phase : BroadcastPhase) : Prop :=
  ∀ request ∈ underWay phase, Undelivered segments s request

def Apart (first second : BroadcastPhase) : Prop :=
  ∀ request ∈ underWay first, ∀ other ∈ underWay second, request.target ≠ other.target

/-- A request that passes its check finds no other for its campaign or notification
under way, nobody with a row of it, and every active user meant. -/
def StartsAlone (segments : Segments) (w : BroadcastWorld ι) (m : ι × BroadcastAct) : Prop :=
  match m.2, w.locals m.1 with
  | .start request, .idle =>
    request.check w.shared = .ok () → Undelivered segments w.shared request ∧
      ∀ j, j ≠ m.1 → ∀ other ∈ underWay (w.locals j), request.target ≠ other.target
  | _, _ => True

abbrev OneAtATime (segments : Segments) (w : BroadcastWorld ι) : Prop :=
  World.Holds (fun _ => True) (fun _ => Ready segments) Apart w

theorem Apart.symm {first second : BroadcastPhase} (apart : Apart first second) :
    Apart second first :=
  fun request here other there => (apart other there request here).symm

theorem Ready.met {s : CommunicationStore} {phase : BroadcastPhase} (ready : Ready segments s phase)
    (act : BroadcastAct) : UndeliveredAtCommit segments s phase act := by
  unfold UndeliveredAtCommit
  split
  · exact ready _ rfl
  · trivial

/-- A commit leaves the rows of other campaigns and notifications. -/
theorem undelivered_commit {s : CommunicationStore} {request other : BroadcastRequest}
    (now : Instant) (users : List User) (apart : request.target ≠ other.target)
    (undelivered : Undelivered segments s other) :
    Undelivered segments (request.commit now users s).1 other := by
  intro user stored
  rw [commit_store] at stored
  obtain ⟨unreached, meant⟩ := undelivered user stored
  rw [commit_rowsOf, if_neg apart, Nat.add_zero, meantFor_commit]
  exact ⟨unreached, meant⟩

omit [DecidableEq ι] in
theorem OneAtATime.keeps {w : BroadcastWorld ι} {i : ι} {act : BroadcastAct}
    {t : CommunicationStore} {next : BroadcastPhase} (holds : OneAtATime segments w)
    (alone : StartsAlone segments w (i, act))
    (moves : BroadcastMoves w.shared (w.locals i) act t next) :
    World.Keeps (fun _ => True) (fun _ => Ready segments) Apart w i (t, next) := by
  have ready := holds.own i
  have apart (j : ι) (other : j ≠ i) : Apart (w.locals i) (w.locals j) :=
    holds.pair i j other.symm
  unfold StartsAlone at alone
  dsimp only at alone
  generalize w.locals i = phase at moves ready apart alone
  cases moves with
  | stays => exact ⟨trivial, ready, fun j _ => holds.own j, apart⟩
  | fails => exact ⟨trivial, fun _ => nofun, fun j _ => holds.own j, fun _ _ _ => nofun⟩
  | checks checked =>
    obtain ⟨undelivered, others⟩ := alone checked
    refine ⟨trivial, ?_, fun j _ => holds.own j, fun j other => ?_⟩
    · intro request here
      obtain rfl := Option.some.inj here
      exact undelivered
    · intro request here
      obtain rfl := Option.some.inj here
      exact others j other
  | selects => exact ⟨trivial, ready, fun j _ => holds.own j, apart⟩
  | commits =>
    refine ⟨trivial, fun _ => nofun, fun j other request there => ?_, fun _ _ _ => nofun⟩
    exact undelivered_commit _ _ (apart j other _ rfl request there) (holds.own j request there)

/-- It is enough that the requests for one campaign or notification are made one after
another, and only while nobody has a row of it. -/
theorem reaches_of_one_at_a_time (segments : Segments) (s : CommunicationStore)
    (run : List (ι × BroadcastAct))
    (alone : Run.AllSteps broadcastMove (StartsAlone segments) (idle ι s) run) :
    Run.AllSteps broadcastMove (CommitsUndelivered segments) (idle ι s) run := by
  refine Run.allSteps_mono (fun (w : BroadcastWorld ι) m (holds : OneAtATime segments w) alone => ?_)
    (fun w m holds _ => (holds.own m.1).met m.2) (idle ι s) run
    ⟨trivial, fun _ _ => nofun, fun _ _ _ _ => nofun⟩ alone
  exact World.Holds.move (fun _ _ => Apart.symm) holds
    (holds.keeps alone (broadcastAct_moves ..))

end Interleavings

/-! ## One user, two administrators -/

def reader : User := ⟨7, "reader@example.com", "Reader", true, none, none, 0⟩

/-- A user of no organization, a draft and a notification. -/
def oneReader : CommunicationStore where
  users := ⟨[reader], by decide⟩
  organizations := .empty
  members := .empty
  campaigns := ⟨[⟨1, none, "draft", 0, none⟩], by decide⟩
  notifications := ⟨[⟨2, "Maintenance"⟩], by decide⟩
  recipients := []
  deliveries := []

/-- Both find the campaign a draft. -/
def twoSends : List (Nat × BroadcastAct) :=
  [(0, .start (.sendCampaign 1)), (1, .start (.sendCampaign 1)), (0, .advance 10),
    (0, .advance 10), (1, .advance 11), (1, .advance 11)]

/-- One after the other. -/
def twoPublications : List (Nat × BroadcastAct) :=
  [(0, .start (.publishNotification 2 none none)), (0, .advance 10), (0, .advance 10),
    (1, .start (.publishNotification 2 none none)), (1, .advance 20), (1, .advance 20)]

def proPublication : List (Nat × BroadcastAct) :=
  [(0, .start (.publishNotification 2 none (some "pro"))), (0, .advance 10), (0, .advance 10)]

def everybody : Segments := fun _ _ => True

def afterRun (run : List (Nat × BroadcastAct)) : BroadcastWorld Nat :=
  Run.exec broadcastMove (idle Nat oneReader) run

theorem reader_stored (run : List (Nat × BroadcastAct)) :
    reader ∈ (afterRun run).shared.users.rows := by
  have same : (afterRun run).shared.toStore = oneReader.toStore :=
    Run.exec_invariant
      (fun (w : BroadcastWorld Nat) m (same : w.shared.toStore = oneReader.toStore) =>
        (moves_store (broadcastAct_moves w.shared (w.locals m.1) m.2)).trans same)
      (idle Nat oneReader) run rfl
  rw [same]
  exact List.mem_singleton_self reader

theorem not_reaches_of_two {ι : Type} {segments : Segments} {w : BroadcastWorld ι}
    {request : BroadcastRequest} {user : User} (answered : Answered w request)
    (stored : user ∈ w.shared.users.rows)
    (two : request.target.rowsOf w.shared user.id = 2) : ¬ ReachesAudience segments w := by
  intro reaches
  obtain ⟨inside, outside⟩ := reaches request answered user stored
  by_cases audience : InAudience segments w request.target user
  · have one := inside audience
    omega
  · have zero := outside audience
    omega

/-- A campaign sent twice, a notification published twice, and one published for a plan. -/
theorem broadcasts_miss_audience :
    ¬ ReachesAudience everybody (afterRun twoSends) ∧
      ¬ ReachesAudience everybody (afterRun twoPublications) ∧
      ¬ ReachesAudience everybody (afterRun proPublication) := by
  refine ⟨?_, ?_, ?_⟩
  · have answered : Answered (afterRun twoSends) (.sendCampaign 1) := ⟨0, _, rfl⟩
    exact not_reaches_of_two answered (reader_stored _) rfl
  · have answered : Answered (afterRun twoPublications) (.publishNotification 2 none none) :=
      ⟨0, _, rfl⟩
    exact not_reaches_of_two answered (reader_stored _) rfl
  · intro reaches
    have answered : Answered (afterRun proPublication) (.publishNotification 2 none (some "pro")) :=
      ⟨0, _, rfl⟩
    have outside := (reaches _ answered reader (reader_stored _)).2
    have unmeant : ¬ InAudience everybody (afterRun proPublication) (.notification 2) reader := by
      rintro ⟨-, request, ⟨i, response, there⟩, -, meant⟩
      cases i with
      | zero =>
        obtain rfl : BroadcastRequest.publishNotification 2 none (some "pro") = request :=
          (BroadcastPhase.responded.inj there).1
        obtain ⟨member, none_stored, _⟩ := meant.2 "pro" rfl
        cases none_stored
      | succ i => cases there
    have zero := outside unmeant
    cases zero

end Reliastra.Guarantees.BroadcastAudience
