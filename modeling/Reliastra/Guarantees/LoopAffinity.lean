import Reliastra.Source.Infrastructure.AsyncTasks

/-!
# Connections stay on their loops

The tasks of a worker process share one pool. All but one of them share one loop as
well; `commission_hold_release` makes a loop of its own. No connection crosses loops
exactly where it is not among the tasks that take a connection, or is the only one.
-/

namespace Reliastra.Guarantees.LoopAffinity

open Reliastra.Library Reliastra.Source.Infrastructure

abbrev after (s : WorkerProcess) (runs : List TaskRun) : WorkerProcess := Run.exec runTask s runs

/-- No task with a loop of its own takes a connection, unless it is the only task
that takes one. -/
def OneLoop (runs : List TaskRun) : Prop :=
  (∀ run ∈ runs, run.Connects → run.task.runner ≠ .asyncioRun) ∨
    (runs.filter (fun run => run.Connects)).length ≤ 1

/-! ## Loops -/

/-- The loops there are: the process loop is open. -/
structure Numbered (s : WorkerProcess) : Prop where
  process : ∀ loop ∈ s.processLoop, loop < s.nextLoop
  running : ∀ loop ∈ s.processLoop, loop ∉ s.closed
  closed : ∀ loop ∈ s.closed, loop < s.nextLoop

/-- What `_get_process_loop` answers. -/
structure GotLoop (s after : WorkerProcess) (loop : LoopId) : Prop where
  numbered : Numbered after
  process : after.processLoop = some loop
  same : ∀ old ∈ s.processLoop, loop = old
  idle : after.idle = s.idle
  uses : after.uses = s.uses
  closed : after.closed = s.closed

theorem getProcessLoop_got {s : WorkerProcess} (numbered : Numbered s) :
    GotLoop s (getProcessLoop s).1 (getProcessLoop s).2 := by
  unfold getProcessLoop
  cases process : s.processLoop with
  | none =>
    refine ⟨⟨?_, ?_, ?_⟩, rfl, ?_, rfl, rfl, rfl⟩
    · intro loop member
      obtain rfl := Option.some.inj member
      exact Nat.lt_succ_self _
    · intro loop member closed
      obtain rfl := Option.some.inj member
      exact Nat.lt_irrefl _ (numbered.closed _ closed)
    · exact fun loop closed => Nat.lt_succ_of_lt (numbered.closed loop closed)
    · intro old member
      rw [process] at member
      cases member
  | some loop =>
    have running := numbered.running loop process
    dsimp only
    rw [if_neg running]
    refine ⟨numbered, process, fun old member => ?_, rfl, rfl, rfl⟩
    rw [process] at member
    exact Option.some.inj member

theorem SameLoops.numbered {s after : WorkerProcess} (same : SameLoops s after)
    (numbered : Numbered s) : Numbered after := by
  refine ⟨?_, ?_, ?_⟩
  · rw [same.processLoop, same.nextLoop]
    exact numbered.process
  · rw [same.processLoop, same.closed]
    exact numbered.running
  · rw [same.closed, same.nextLoop]
    exact numbered.closed

/-- A loop of its own is a new one, and closed when the task ends. -/
theorem numbered_closed {s : WorkerProcess} (numbered : Numbered s) :
    Numbered { s with nextLoop := s.nextLoop + 1, closed := s.nextLoop :: s.closed } := by
  refine ⟨?_, ?_, ?_⟩
  · exact fun loop member => Nat.lt_succ_of_lt (numbered.process loop member)
  · intro loop member closed
    rcases List.mem_cons.mp closed with rfl | before
    · exact Nat.lt_irrefl _ (numbered.process _ member)
    · exact numbered.running loop member before
  · intro loop closed
    rcases List.mem_cons.mp closed with rfl | before
    · exact Nat.lt_succ_self _
    · exact Nat.lt_succ_of_lt (numbered.closed loop before)

theorem runTask_body {s : WorkerProcess} {run : TaskRun} (body : run.task.runner = .asyncTaskBody) :
    runTask s run = runSessions (getProcessLoop s).2 run.sessions (getProcessLoop s).1 := by
  simp only [runTask, body]

theorem runTask_own {s : WorkerProcess} {run : TaskRun} (own : run.task.runner = .asyncioRun) :
    runTask s run =
      { runSessions s.nextLoop run.sessions { s with nextLoop := s.nextLoop + 1 } with
        closed := s.nextLoop :: (runSessions s.nextLoop run.sessions
          { s with nextLoop := s.nextLoop + 1 }).closed } := by
  simp only [runTask, own]

theorem runTask_numbered {s : WorkerProcess} (numbered : Numbered s) (run : TaskRun) :
    Numbered (runTask s run) := by
  cases runner : run.task.runner with
  | asyncTaskBody =>
    rw [runTask_body runner]
    exact SameLoops.numbered (runSessions_sameLoops _ _ _) (getProcessLoop_got numbered).numbered
  | asyncioRun =>
    rw [runTask_own runner]
    have same := runSessions_sameLoops s.nextLoop run.sessions
      { s with nextLoop := s.nextLoop + 1 }
    have closed := numbered_closed numbered
    refine ⟨?_, ?_, ?_⟩
    · simp only [same.processLoop, same.nextLoop]
      exact closed.process
    · simp only [same.processLoop, same.closed]
      exact closed.running
    · simp only [same.nextLoop, same.closed]
      exact closed.closed

/-- A task that takes no connection leaves pool and history alone. -/
theorem runTask_quiet {s : WorkerProcess} {run : TaskRun} (numbered : Numbered s)
    (quiet : ¬ run.Connects) :
    (runTask s run).idle = s.idle ∧ (runTask s run).uses = s.uses ∧
      (∀ loop ∈ s.closed, loop ∈ (runTask s run).closed) ∧
      ∀ loop ∈ s.processLoop, (runTask s run).processLoop = some loop := by
  have nothing : ∀ choice, .checkout choice ∉ run.sessions := fun choice member =>
    quiet ⟨choice, member⟩
  cases runner : run.task.runner with
  | asyncTaskBody =>
    have got := getProcessLoop_got numbered
    rw [runTask_body runner, runSessions_quiet nothing]
    refine ⟨got.idle, got.uses, ?_, ?_⟩
    · rw [got.closed]
      exact fun loop closed => closed
    · intro loop member
      rw [got.process, got.same loop member]
  | asyncioRun =>
    rw [runTask_own runner, runSessions_quiet nothing]
    exact ⟨rfl, rfl, fun loop closed => List.mem_cons_of_mem _ closed, fun loop member => member⟩

/-! ## Histories -/

theorem runTask_uses (s : WorkerProcess) (run : TaskRun) :
    ∀ use ∈ s.uses, use ∈ (runTask s run).uses := by
  cases runner : run.task.runner with
  | asyncTaskBody =>
    rw [runTask_body runner]
    have kept : (getProcessLoop s).1.uses = s.uses := by
      unfold getProcessLoop
      split
      · split <;> rfl
      · rfl
    have grows := (runSessions_sameLoops (getProcessLoop s).2 run.sessions
      (getProcessLoop s).1).uses
    rw [kept] at grows
    exact grows
  | asyncioRun =>
    rw [runTask_own runner]
    exact (runSessions_sameLoops s.nextLoop run.sessions
      { s with nextLoop := s.nextLoop + 1 }).uses

/-- What went wrong once stays in the history. -/
theorem affine_before {s : WorkerProcess} {runs : List TaskRun}
    (affine : LoopAffine (after s runs)) : LoopAffine s := by
  induction runs generalizing s with
  | nil => exact affine
  | cons run rest ih => exact fun use used => ih affine use (runTask_uses s run use used)

/-! ## What the pool holds -/

/-- The pool holds connections of closed loops. -/
structure Stray (s : WorkerProcess) : Prop where
  numbered : Numbered s
  stocked : s.idle ≠ []
  closed : ∀ c ∈ s.idle, c.loop ∈ s.closed

theorem stray_quiet {s : WorkerProcess} {run : TaskRun} (stray : Stray s)
    (quiet : ¬ run.Connects) : Stray (runTask s run) := by
  obtain ⟨idle, _, closed, _⟩ := runTask_quiet stray.numbered quiet
  refine ⟨runTask_numbered stray.numbered run, ?_, ?_⟩
  · rw [idle]
    exact stray.stocked
  · rw [idle]
    exact fun c member => closed _ (stray.closed c member)

theorem stray_misused {s : WorkerProcess} {run : TaskRun} (stray : Stray s)
    (connects : run.Connects) : ¬ LoopAffine (runTask s run) := by
  cases runner : run.task.runner with
  | asyncTaskBody =>
    have got := getProcessLoop_got stray.numbered
    rw [runTask_body runner]
    refine runSessions_foreign ?_ ?_ connects
    · rw [got.idle]
      exact stray.stocked
    · rw [got.idle]
      intro c member same
      have closed := stray.closed c member
      rw [same, ← got.closed] at closed
      exact got.numbered.running _ got.process closed
  | asyncioRun =>
    rw [runTask_own runner]
    refine runSessions_foreign (s := { s with nextLoop := s.nextLoop + 1 }) stray.stocked ?_ connects
    intro c member same
    have older := stray.numbered.closed _ (stray.closed c member)
    rw [same] at older
    exact Nat.lt_irrefl _ older

theorem affine_iff_of_stray {s : WorkerProcess} (stray : Stray s) (affine : LoopAffine s)
    (runs : List TaskRun) : LoopAffine (after s runs) ↔ ∀ run ∈ runs, ¬ run.Connects := by
  induction runs generalizing s with
  | nil => exact iff_of_true affine (fun _ member => absurd member List.not_mem_nil)
  | cons run rest ih =>
    rw [List.forall_mem_cons]
    by_cases connects : run.Connects
    · refine iff_of_false (fun later => ?_) (fun both => both.1 connects)
      exact stray_misused stray connects (affine_before later)
    · have kept : LoopAffine (runTask s run) := by
        unfold LoopAffine
        rw [(runTask_quiet stray.numbered connects).2.1]
        exact affine
      rw [and_iff_right connects]
      exact ih (stray_quiet stray connects) kept

/-- The pool holds connections of the process loop. -/
structure Settled (s : WorkerProcess) : Prop where
  numbered : Numbered s
  stocked : s.idle ≠ []
  process : ∃ loop, s.processLoop = some loop ∧ ∀ c ∈ s.idle, c.loop = loop

theorem settled_quiet {s : WorkerProcess} {run : TaskRun} (settled : Settled s)
    (quiet : ¬ run.Connects) : Settled (runTask s run) := by
  obtain ⟨idle, _, _, process⟩ := runTask_quiet settled.numbered quiet
  obtain ⟨loop, here, own⟩ := settled.process
  refine ⟨runTask_numbered settled.numbered run, ?_, loop, process loop here, ?_⟩
  · rw [idle]
    exact settled.stocked
  · rw [idle]
    exact own

/-- A task on the process loop, with a pool of that loop or an empty one. -/
theorem settled_body {s : WorkerProcess} {run : TaskRun} (numbered : Numbered s)
    (idle : ∀ c ∈ s.idle, ∃ loop, s.processLoop = some loop ∧ c.loop = loop) (affine : LoopAffine s)
    (body : run.task.runner = .asyncTaskBody) (connects : run.Connects) :
    Settled (runTask s run) ∧ LoopAffine (runTask s run) := by
  have got := getProcessLoop_got numbered
  have same := runSessions_sameLoops (getProcessLoop s).2 run.sessions (getProcessLoop s).1
  have own : ∀ c ∈ (getProcessLoop s).1.idle, c.loop = (getProcessLoop s).2 := by
    rw [got.idle]
    intro c member
    obtain ⟨loop, process, here⟩ := idle c member
    rw [here, got.same loop process]
  have history : LoopAffine (getProcessLoop s).1 := by
    unfold LoopAffine
    rw [got.uses]
    exact affine
  obtain ⟨onLoop, kept⟩ := runSessions_onLoop run.sessions own history
  rw [runTask_body body]
  refine ⟨⟨SameLoops.numbered same got.numbered, runSessions_idle_ne_nil (.inr connects),
    (getProcessLoop s).2, ?_, onLoop⟩, kept⟩
  rw [same.processLoop, got.process]

theorem settled_misused {s : WorkerProcess} {run : TaskRun} (settled : Settled s)
    (own : run.task.runner = .asyncioRun) (connects : run.Connects) :
    ¬ LoopAffine (runTask s run) := by
  obtain ⟨loop, process, here⟩ := settled.process
  rw [runTask_own own]
  refine runSessions_foreign (s := { s with nextLoop := s.nextLoop + 1 }) settled.stocked ?_ connects
  intro c member same
  have older := settled.numbered.process loop process
  rw [← here c member, same] at older
  exact Nat.lt_irrefl _ older

theorem affine_iff_of_settled {s : WorkerProcess} (settled : Settled s) (affine : LoopAffine s)
    (runs : List TaskRun) :
    LoopAffine (after s runs) ↔ ∀ run ∈ runs, run.Connects → run.task.runner ≠ .asyncioRun := by
  induction runs generalizing s with
  | nil => exact iff_of_true affine (fun _ member => absurd member List.not_mem_nil)
  | cons run rest ih =>
    rw [List.forall_mem_cons]
    by_cases connects : run.Connects
    · cases runner : run.task.runner with
      | asyncioRun =>
        refine iff_of_false (fun later => ?_) (fun both => both.1 connects rfl)
        exact settled_misused settled runner connects (affine_before later)
      | asyncTaskBody =>
        obtain ⟨loop, process, own⟩ := settled.process
        obtain ⟨kept, affine'⟩ := settled_body settled.numbered
          (fun c member => ⟨loop, process, own c member⟩) affine runner connects
        rw [and_iff_right (fun _ => by simp)]
        exact ih kept affine'
    · have kept : LoopAffine (runTask s run) := by
        unfold LoopAffine
        rw [(runTask_quiet settled.numbered connects).2.1]
        exact affine
      rw [and_iff_right (fun here => absurd here connects)]
      exact ih (settled_quiet settled connects) kept

/-- The first task that takes a connection has a loop of its own. -/
theorem stray_own {s : WorkerProcess} {run : TaskRun} (numbered : Numbered s) (empty : s.idle = [])
    (affine : LoopAffine s) (own : run.task.runner = .asyncioRun) (connects : run.Connects) :
    Stray (runTask s run) ∧ LoopAffine (runTask s run) := by
  have none : ∀ c ∈ ({ s with nextLoop := s.nextLoop + 1 } : WorkerProcess).idle,
      c.loop = s.nextLoop := by
    intro c member
    dsimp only at member
    rw [empty] at member
    exact absurd member List.not_mem_nil
  obtain ⟨onLoop, kept⟩ := runSessions_onLoop run.sessions none affine
  have numbered' := runTask_numbered numbered run
  rw [runTask_own own] at numbered' ⊢
  refine ⟨⟨numbered', runSessions_idle_ne_nil (.inr connects), ?_⟩, kept⟩
  intro c member
  rw [onLoop c member]
  exact List.mem_cons_self

theorem affine_iff_of_empty {s : WorkerProcess} (numbered : Numbered s) (empty : s.idle = [])
    (affine : LoopAffine s) (runs : List TaskRun) : LoopAffine (after s runs) ↔ OneLoop runs := by
  induction runs generalizing s with
  | nil =>
    refine iff_of_true affine (.inl ?_)
    exact fun _ member => absurd member List.not_mem_nil
  | cons run rest ih =>
    unfold OneLoop
    rw [List.forall_mem_cons, List.filter_cons]
    by_cases connects : run.Connects
    · rw [if_pos (decide_eq_true connects), List.length_cons]
      have alone : (rest.filter (fun run => run.Connects)).length + 1 ≤ 1 ↔
          ∀ run ∈ rest, ¬ run.Connects := by
        have bound : ∀ n : Nat, n + 1 ≤ 1 ↔ n = 0 := fun n => by omega
        rw [bound, List.length_eq_zero_iff, List.filter_eq_nil_iff]
        simp only [decide_eq_true_eq]
      rw [alone]
      cases runner : run.task.runner with
      | asyncTaskBody =>
        have none : ∀ c ∈ s.idle, ∃ loop, s.processLoop = some loop ∧ c.loop = loop := by
          rw [empty]
          exact fun c member => absurd member List.not_mem_nil
        obtain ⟨settled, affine'⟩ := settled_body numbered none affine runner connects
        refine (affine_iff_of_settled settled affine' rest).trans ?_
        constructor
        · exact fun body => .inl ⟨fun _ => by simp, body⟩
        · rintro (⟨_, body⟩ | alone)
          · exact body
          · exact fun other member here => absurd here (alone other member)
      | asyncioRun =>
        obtain ⟨stray, affine'⟩ := stray_own numbered empty affine runner connects
        refine (affine_iff_of_stray stray affine' rest).trans ?_
        constructor
        · exact .inr
        · rintro (⟨body, _⟩ | alone)
          · exact absurd rfl (body connects)
          · exact alone
    · have quiet := runTask_quiet numbered connects
      have kept : LoopAffine (runTask s run) := by
        unfold LoopAffine
        rw [quiet.2.1]
        exact affine
      rw [if_neg (by simpa using connects), and_iff_right (fun here => absurd here connects)]
      exact ih (runTask_numbered numbered run) (quiet.1.trans empty) kept

/-! ## Every sequence of tasks -/

/-- Whatever connections the pool hands out, the tasks of a worker process use every
connection on the loop that created it exactly when no task with a loop of its own
takes a connection, or no other task takes one. -/
theorem loop_affinity_iff (runs : List TaskRun) :
    LoopAffine (after newWorker runs) ↔ OneLoop runs := by
  refine affine_iff_of_empty ⟨?_, ?_, ?_⟩ rfl ?_ runs
  · exact fun loop member => nomatch member
  · exact fun loop member => nomatch member
  · exact fun loop closed => absurd closed List.not_mem_nil
  · exact fun use used => absurd used List.not_mem_nil

/-- The hold release takes the connection a check has left in the pool. -/
theorem hold_release_crosses :
    ¬ LoopAffine (after newWorker
      [⟨.executeCheck, [.checkout 0]⟩, ⟨.commissionHoldRelease, [.checkout 0]⟩]) := by
  decide

end Reliastra.Guarantees.LoopAffinity
