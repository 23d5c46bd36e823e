import Reliastra.Library.Run

/-!
# Event loops and pooled connections of a worker process

Source: `app/infrastructure/async_tasks.py`, the engine of `app/db/session.py`
and the bodies of the Celery tasks. A worker process runs its tasks one after
another and outside any loop, so the branch of `async_task_body` for a running
loop is left out. Loops are numbered in the order they are created. A connection
is pinged when the pool hands it out, so a checkout is a use of it.
-/

namespace Reliastra.Source.Infrastructure

open Reliastra.Library

abbrev LoopId := Nat

/-- A connection knows the loop that created it. -/
structure Connection where
  loop : LoopId
  deriving DecidableEq, Repr

structure ConnectionUse where
  connection : Connection
  usedOn : LoopId
  deriving DecidableEq, Repr

/-- `processLoop` is `_process_loop`; `uses` is the history of the pool. -/
structure WorkerProcess where
  nextLoop : LoopId
  closed : List LoopId
  processLoop : Option LoopId
  idle : List Connection
  uses : List ConnectionUse
  deriving DecidableEq, Repr

def poolSize : Nat := 10

def maxOverflow : Nat := 20

/-! ## Sessions -/

/-- What the sessions of a task do to the pool; `choice` names one of the
connections there are. -/
inductive SessionAct where
  | checkout (choice : Nat)
  | checkin (choice : Nat)
  deriving DecidableEq, Repr

/-- A connection the pool has no room for is closed. -/
def WorkerProcess.giveBack (s : WorkerProcess) (connection : Connection) : WorkerProcess :=
  if s.idle.length < poolSize then { s with idle := connection :: s.idle } else s

/-- One act of a task that runs on `loop` and holds some connections. -/
def sessionStep (loop : LoopId) (s : WorkerProcess × List Connection) :
    SessionAct → WorkerProcess × List Connection
  | .checkout choice =>
    -- `TimeoutError`
    if poolSize + maxOverflow ≤ s.2.length then s
    else match s.1.idle[choice % s.1.idle.length]? with
    | some connection =>
      ({ s.1 with
          idle := s.1.idle.eraseIdx (choice % s.1.idle.length)
          uses := ⟨connection, loop⟩ :: s.1.uses }, connection :: s.2)
    | none => ({ s.1 with uses := ⟨⟨loop⟩, loop⟩ :: s.1.uses }, ⟨loop⟩ :: s.2)
  | .checkin choice =>
    match s.2[choice]? with
    | some connection => (s.1.giveBack connection, s.2.eraseIdx choice)
    | none => s

/-- The sessions of a task, which are all closed in the end. -/
def runSessions (loop : LoopId) (acts : List SessionAct) (s : WorkerProcess) : WorkerProcess :=
  let (s, held) := Run.exec (sessionStep loop) (s, []) acts
  Run.exec WorkerProcess.giveBack s held

/-! ## Tasks -/

inductive CeleryTask where
  | executeCheck
  | scheduleChecks
  | ensureCheckResultPartitions
  | processOutbox
  | retentionCleanup
  | dailyAggregation
  | createIncident
  | resolveIncident
  | generateEvidenceReport
  | dispatchNotification
  | flushApiKeyLastUsed
  | seedVendors
  | commissionHoldRelease
  deriving DecidableEq, Repr

/-- How a task's body runs its coroutine. -/
inductive Runner where
  | asyncTaskBody
  | asyncioRun
  deriving DecidableEq, Repr

def CeleryTask.runner : CeleryTask → Runner
  | .commissionHoldRelease => .asyncioRun
  | _ => .asyncTaskBody

structure TaskRun where
  task : CeleryTask
  sessions : List SessionAct
  deriving DecidableEq, Repr

/-- `_get_process_loop`. -/
def getProcessLoop (s : WorkerProcess) : WorkerProcess × LoopId :=
  match s.processLoop with
  | some loop =>
    if loop ∈ s.closed then
      ({ s with nextLoop := s.nextLoop + 1, processLoop := some s.nextLoop }, s.nextLoop)
    else (s, loop)
  | none => ({ s with nextLoop := s.nextLoop + 1, processLoop := some s.nextLoop }, s.nextLoop)

/-- One task; `asyncio.run` makes a loop of its own and closes it. -/
def runTask (s : WorkerProcess) (run : TaskRun) : WorkerProcess :=
  match run.task.runner with
  | .asyncTaskBody =>
    let (s, loop) := getProcessLoop s
    runSessions loop run.sessions s
  | .asyncioRun =>
    let loop := s.nextLoop
    let s := runSessions loop run.sessions { s with nextLoop := loop + 1 }
    { s with closed := loop :: s.closed }

/-- A process that has run nothing. -/
def newWorker : WorkerProcess := ⟨0, [], none, [], []⟩

/-! ## What the sessions of a task do -/

/-- The connection was used on the loop that created it. -/
def ConnectionUse.Own (use : ConnectionUse) : Prop := use.connection.loop = use.usedOn

instance (use : ConnectionUse) : Decidable use.Own :=
  inferInstanceAs (Decidable (use.connection.loop = use.usedOn))

/-- Every connection was used on its own loop only. -/
def LoopAffine (s : WorkerProcess) : Prop := ∀ use ∈ s.uses, use.Own

instance (s : WorkerProcess) : Decidable (LoopAffine s) :=
  inferInstanceAs (Decidable (∀ use ∈ s.uses, use.Own))

/-- The loops are as they were, and the history goes on. -/
structure SameLoops (s after : WorkerProcess) : Prop where
  nextLoop : after.nextLoop = s.nextLoop
  closed : after.closed = s.closed
  processLoop : after.processLoop = s.processLoop
  uses : ∀ use ∈ s.uses, use ∈ after.uses

theorem SameLoops.refl (s : WorkerProcess) : SameLoops s s := ⟨rfl, rfl, rfl, fun _ used => used⟩

theorem SameLoops.trans {s t u : WorkerProcess} (first : SameLoops s t) (second : SameLoops t u) :
    SameLoops s u :=
  ⟨second.nextLoop.trans first.nextLoop, second.closed.trans first.closed,
    second.processLoop.trans first.processLoop, fun use used => second.uses use (first.uses use used)⟩

theorem giveBack_sameLoops (s : WorkerProcess) (connection : Connection) :
    SameLoops s (s.giveBack connection) := by
  unfold WorkerProcess.giveBack
  split
  · exact ⟨rfl, rfl, rfl, fun _ used => used⟩
  · exact .refl s

theorem giveBack_uses (s : WorkerProcess) (connection : Connection) :
    (s.giveBack connection).uses = s.uses := by
  unfold WorkerProcess.giveBack
  split <;> rfl

theorem giveBack_idle_ne_nil (s : WorkerProcess) (connection : Connection) :
    (s.giveBack connection).idle ≠ [] := by
  unfold WorkerProcess.giveBack
  split
  · exact List.cons_ne_nil _ _
  · next full =>
    intro empty
    rw [empty] at full
    exact full (by decide)

theorem mem_giveBack_idle {s : WorkerProcess} {connection c : Connection}
    (idle : c ∈ (s.giveBack connection).idle) : c = connection ∨ c ∈ s.idle := by
  unfold WorkerProcess.giveBack at idle
  split at idle
  · exact List.mem_cons.mp idle
  · exact .inr idle

theorem sessionStep_sameLoops (loop : LoopId) (s : WorkerProcess × List Connection)
    (act : SessionAct) : SameLoops s.1 (sessionStep loop s act).1 := by
  cases act with
  | checkout choice =>
    simp only [sessionStep]
    split
    · exact .refl s.1
    split
    · exact ⟨rfl, rfl, rfl, fun _ used => List.mem_cons_of_mem _ used⟩
    · exact ⟨rfl, rfl, rfl, fun _ used => List.mem_cons_of_mem _ used⟩
  | checkin choice =>
    simp only [sessionStep]
    split
    · exact giveBack_sameLoops s.1 _
    · exact .refl s.1

theorem exec_sameLoops (loop : LoopId) (s : WorkerProcess × List Connection)
    (acts : List SessionAct) : SameLoops s.1 (Run.exec (sessionStep loop) s acts).1 := by
  induction acts generalizing s with
  | nil => exact .refl s.1
  | cons act rest ih => exact (sessionStep_sameLoops loop s act).trans (ih _)

theorem giveBackAll_sameLoops (s : WorkerProcess) (held : List Connection) :
    SameLoops s (Run.exec WorkerProcess.giveBack s held) := by
  induction held generalizing s with
  | nil => exact .refl s
  | cons connection rest ih => exact (giveBack_sameLoops s connection).trans (ih _)

theorem runSessions_sameLoops (loop : LoopId) (acts : List SessionAct) (s : WorkerProcess) :
    SameLoops s (runSessions loop acts s) :=
  (exec_sameLoops loop (s, []) acts).trans (giveBackAll_sameLoops _ _)

/-! ## Connections of one loop -/

/-- All connections there are belong to the loop, and none was misused. -/
structure OnLoop (loop : LoopId) (s : WorkerProcess × List Connection) : Prop where
  idle : ∀ c ∈ s.1.idle, c.loop = loop
  held : ∀ c ∈ s.2, c.loop = loop
  affine : LoopAffine s.1

theorem onLoop_step {loop : LoopId} (s : WorkerProcess × List Connection) (act : SessionAct)
    (onLoop : OnLoop loop s) : OnLoop loop (sessionStep loop s act) := by
  cases act with
  | checkout choice =>
    simp only [sessionStep]
    split
    · exact onLoop
    split
    · next connection found =>
      have own : connection.loop = loop := onLoop.idle connection (List.mem_of_getElem? found)
      refine ⟨fun c member => onLoop.idle c (List.mem_of_mem_eraseIdx member), ?_, ?_⟩
      · intro c member
        rcases List.mem_cons.mp member with rfl | before
        · exact own
        · exact onLoop.held c before
      · intro use member
        rcases List.mem_cons.mp member with rfl | before
        · exact own
        · exact onLoop.affine use before
    · refine ⟨onLoop.idle, ?_, ?_⟩
      · intro c member
        rcases List.mem_cons.mp member with rfl | before
        · rfl
        · exact onLoop.held c before
      · intro use member
        rcases List.mem_cons.mp member with rfl | before
        · rfl
        · exact onLoop.affine use before
  | checkin choice =>
    simp only [sessionStep]
    split
    · next connection found =>
      have own : connection.loop = loop := onLoop.held connection (List.mem_of_getElem? found)
      refine ⟨?_, fun c member => onLoop.held c (List.mem_of_mem_eraseIdx member), ?_⟩
      · intro c member
        rcases mem_giveBack_idle member with rfl | before
        · exact own
        · exact onLoop.idle c before
      · unfold LoopAffine
        rw [giveBack_uses]
        exact onLoop.affine
    · exact onLoop

/-- There is a connection, in the pool or in use. -/
def Stocked (s : WorkerProcess × List Connection) : Prop := s.1.idle ≠ [] ∨ s.2 ≠ []

theorem stocked_step (loop : LoopId) (s : WorkerProcess × List Connection) (act : SessionAct)
    (stocked : Stocked s) : Stocked (sessionStep loop s act) := by
  cases act with
  | checkout choice =>
    simp only [sessionStep]
    split
    · exact stocked
    split
    · exact .inr (List.cons_ne_nil _ _)
    · exact .inr (List.cons_ne_nil _ _)
  | checkin choice =>
    simp only [sessionStep]
    split
    · exact .inl (giveBack_idle_ne_nil s.1 _)
    · exact stocked

theorem stocked_checkout (loop : LoopId) (s : WorkerProcess × List Connection) (choice : Nat) :
    Stocked (sessionStep loop s (.checkout choice)) := by
  simp only [sessionStep]
  split
  · next full =>
    right
    intro none
    rw [none] at full
    revert full
    decide
  split
  · exact .inr (List.cons_ne_nil _ _)
  · exact .inr (List.cons_ne_nil _ _)

/-- The sessions of the task take a connection. -/
def TaskRun.Connects (run : TaskRun) : Prop := ∃ choice, .checkout choice ∈ run.sessions

instance (run : TaskRun) : Decidable run.Connects :=
  decidable_of_iff (run.sessions.any (fun act => match act with
    | .checkout _ => true
    | .checkin _ => false)) (by
    rw [List.any_eq_true]
    constructor
    · intro ⟨act, member, takes⟩
      cases act with
      | checkout choice => exact ⟨choice, member⟩
      | checkin choice => cases takes
    · intro ⟨choice, member⟩
      exact ⟨_, member, rfl⟩)

theorem exec_stocked {loop : LoopId} {acts : List SessionAct} {s : WorkerProcess × List Connection}
    (stocked : Stocked s ∨ ∃ choice, .checkout choice ∈ acts) :
    Stocked (Run.exec (sessionStep loop) s acts) := by
  induction acts generalizing s with
  | nil =>
    rcases stocked with stocked | ⟨choice, member⟩
    · exact stocked
    · cases member
  | cons act rest ih =>
    rw [Run.exec_cons]
    apply ih
    rcases stocked with stocked | ⟨choice, member⟩
    · exact .inl (stocked_step loop s act stocked)
    · rcases List.mem_cons.mp member with rfl | later
      · exact .inl (stocked_checkout loop s choice)
      · exact .inr ⟨choice, later⟩

theorem giveBackAll_idle_ne_nil (s : WorkerProcess) (held : List Connection)
    (stocked : Stocked (s, held)) : (Run.exec WorkerProcess.giveBack s held).idle ≠ [] := by
  induction held generalizing s with
  | nil => exact stocked.resolve_right (fun none => none rfl)
  | cons connection rest ih => exact ih _ (.inl (giveBack_idle_ne_nil s connection))

/-- What a task has taken stays in the pool. -/
theorem runSessions_idle_ne_nil {loop : LoopId} {acts : List SessionAct} {s : WorkerProcess}
    (stocked : s.idle ≠ [] ∨ ∃ choice, .checkout choice ∈ acts) :
    (runSessions loop acts s).idle ≠ [] := by
  apply giveBackAll_idle_ne_nil
  exact exec_stocked (stocked.imp_left .inl)

/-- On the loop of all connections there are, a task keeps to that loop. -/
theorem runSessions_onLoop {loop : LoopId} (acts : List SessionAct) {s : WorkerProcess}
    (idle : ∀ c ∈ s.idle, c.loop = loop) (affine : LoopAffine s) :
    (∀ c ∈ (runSessions loop acts s).idle, c.loop = loop) ∧ LoopAffine (runSessions loop acts s) := by
  have taken : OnLoop loop (Run.exec (sessionStep loop) (s, []) acts) :=
    Run.exec_invariant onLoop_step _ acts
      ⟨idle, fun c member => absurd member List.not_mem_nil, affine⟩
  have returned (held : List Connection) (t : WorkerProcess) (onLoop : OnLoop loop (t, held)) :
      (∀ c ∈ (Run.exec WorkerProcess.giveBack t held).idle, c.loop = loop) ∧
        LoopAffine (Run.exec WorkerProcess.giveBack t held) := by
    induction held generalizing t with
    | nil => exact ⟨onLoop.idle, onLoop.affine⟩
    | cons connection rest ih =>
      apply ih
      refine ⟨?_, fun c member => onLoop.held c (List.mem_cons_of_mem _ member), ?_⟩
      · intro c member
        rcases mem_giveBack_idle member with rfl | before
        · exact onLoop.held c List.mem_cons_self
        · exact onLoop.idle c before
      · unfold LoopAffine
        rw [giveBack_uses]
        exact onLoop.affine
  exact returned _ _ taken

/-- A task that takes no connection leaves the process as it was. -/
theorem runSessions_quiet {acts : List SessionAct} (quiet : ∀ choice, .checkout choice ∉ acts)
    (loop : LoopId) (s : WorkerProcess) : runSessions loop acts s = s := by
  have nothing : Run.exec (sessionStep loop) (s, []) acts = (s, []) := by
    induction acts with
    | nil => rfl
    | cons act rest ih =>
      cases act with
      | checkout choice => exact absurd List.mem_cons_self (quiet choice)
      | checkin choice => exact ih (fun other member => quiet other (List.mem_cons_of_mem _ member))
  unfold runSessions
  rw [nothing]
  rfl

/-- Where the pool holds connections of other loops only, the first one a task
takes is used on the wrong loop. -/
theorem runSessions_foreign {loop : LoopId} {acts : List SessionAct} {s : WorkerProcess}
    (stocked : s.idle ≠ []) (foreign : ∀ c ∈ s.idle, c.loop ≠ loop)
    (connects : ∃ choice, .checkout choice ∈ acts) : ¬ LoopAffine (runSessions loop acts s) := by
  have misused : ∃ use ∈ (Run.exec (sessionStep loop) (s, []) acts).1.uses, ¬ use.Own := by
    induction acts with
    | nil =>
      obtain ⟨choice, member⟩ := connects
      cases member
    | cons act rest ih =>
      cases act with
      | checkin choice =>
        refine ih ?_
        obtain ⟨other, member⟩ := connects
        rcases List.mem_cons.mp member with same | later
        · cases same
        · exact ⟨other, later⟩
      | checkout choice =>
        have inRange : choice % s.idle.length < s.idle.length :=
          Nat.mod_lt _ (List.length_pos_iff.mpr stocked)
        have found : s.idle[choice % s.idle.length]? = some s.idle[choice % s.idle.length] :=
          List.getElem?_eq_getElem inRange
        have wrong := foreign _ (List.getElem_mem inRange)
        have room : ¬ poolSize + maxOverflow ≤ 0 := by decide
        have later := exec_sameLoops loop (sessionStep loop (s, []) (.checkout choice)) rest
        refine ⟨⟨s.idle[choice % s.idle.length], loop⟩, later.uses _ ?_, wrong⟩
        simp only [sessionStep, List.length_nil, if_neg room, found]
        exact List.mem_cons_self
  obtain ⟨use, used, wrong⟩ := misused
  intro affine
  apply wrong
  exact affine use ((giveBackAll_sameLoops _ _).uses use used)

end Reliastra.Source.Infrastructure
