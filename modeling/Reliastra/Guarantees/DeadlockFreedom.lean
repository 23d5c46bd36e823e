import Reliastra.Source.Checks.RowLocks

/-!
# Can checks deadlock?

The insertion of a check result takes `FOR KEY SHARE` on the dependency through
the foreign key, and `FOR UPDATE` is asked for afterwards: two checks of one
dependency that are both in between wait for each other. A second cycle goes
through correlations, whose foreign keys name other dependencies.
`deadlock_free` excludes the two, and then no interleaving of any checks has a
cycle.
-/

namespace Reliastra.Guarantees.DeadlockFreedom

open Reliastra.Library Source Source.Checks.RowLocks

variable {ι : Type} {home : Uuid → Uuid} {checks : ι → Check home}

/-! ## The condition -/

/-- When the transaction asks for its dependency `FOR UPDATE`, no other one is
waiting for the same lock. -/
def UpgradesAlone (checks : ι → Check home) (w : Transactions ι) (t : ι) : Prop :=
  (checks t).next (w.locals t) = some (checks t).dependencyLock →
    ∀ q, q ≠ t → (w.locals q).waiting = true →
      (checks q).next (w.locals q) ≠ some (checks t).dependencyLock

/-- When the transaction correlates with the dependency of one that is waiting
itself, no other correlation is waiting for its own dependency. -/
def CorrelatesAside (checks : ι → Check home) (w : Transactions ι) (t : ι) : Prop :=
  (t, (checks t).dependencyLock) ∈ w.shared →
    ∀ q, q ≠ t →
      (checks t).next (w.locals t) = some ⟨.dependency (checks q).dependencyId, .keyShare⟩ →
      (q, (checks q).dependencyLock) ∈ w.shared → (w.locals q).waiting = true →
      ∀ p, p ≠ t → (p, (checks p).dependencyLock) ∈ w.shared → (w.locals p).waiting = true →
        (checks p).next (w.locals p) ≠ some ⟨.dependency (checks t).dependencyId, .keyShare⟩

/-- A lock that is asked for the first time meets both conditions. -/
def Untangled (checks : ι → Check home) (w : Transactions ι) (move : ι × LockAction) : Prop :=
  move.2 = .request → (w.locals move.1).waiting = false →
    UpgradesAlone checks w move.1 ∧ CorrelatesAside checks w move.1

/-- Nothing is tangled as long as nobody waits. -/
theorem untangled_of_awake {w : Transactions ι} (awake : ∀ q, (w.locals q).waiting = false)
    (move : ι × LockAction) : Untangled checks w move := by
  intro _ _
  constructor
  · intro _ q _ waiting
    rw [awake q] at waiting
    cases waiting
  · intro _ q _ _ _ waiting
    rw [awake q] at waiting
    cases waiting

/-! ## The lock table -/

structure Consistent (checks : ι → Check home) (w : Transactions ι) : Prop where
  held : ∀ t lock, (t, lock) ∈ w.shared ↔ lock ∈ (checks t).held (w.locals t)
  compatible : ∀ a ∈ w.shared, ∀ b ∈ w.shared, a.1 ≠ b.1 → ¬ a.2.Conflicts b.2

theorem consistent_start : Consistent checks allAtStart := by
  constructor
  · intro t lock
    simp [allAtStart, Progress.initial, Check.held]
  · intro a member
    exact absurd member List.not_mem_nil

/-- The invariant of every run that meets the condition. -/
structure Sound (checks : ι → Check home) (w : Transactions ι) : Prop where
  consistent : Consistent checks w
  acyclic : WaitFor.Acyclic (WaitsFor checks w)

theorem sound_start : Sound checks allAtStart := by
  refine ⟨consistent_start, ?_⟩
  intro p
  apply WaitFor.noReturn_of_free
  intro q ⟨waiting, _⟩
  cases waiting

theorem conflicts_symm {a b : Lock} (conflict : a.Conflicts b) : b.Conflicts a := by
  obtain ⟨row, modes⟩ := conflict
  refine ⟨row.symm, ?_⟩
  revert modes
  cases a.mode <;> cases b.mode <;> decide

/-! ## Who waits for whom -/

theorem update_of_keyShare {wanted held : Lock} (shared : wanted.mode = .keyShare)
    (conflict : wanted.Conflicts held) : held.mode = .update := by
  have modes := conflict.2
  rw [shared] at modes
  revert modes
  cases held.mode <;> decide

variable {w : Transactions ι} {p q t : ι}

/-- What stands in the way of a shared lock is a dependency held `FOR UPDATE`. -/
theorem shared_blocked {wanted : Lock} {entry : ι × Lock} (consistent : Consistent checks w)
    (shared : wanted.mode = .keyShare) (member : entry ∈ w.shared)
    (conflict : wanted.Conflicts entry.2) :
    3 ≤ (w.locals entry.1).granted ∧ entry.2 = (checks entry.1).dependencyLock := by
  have held := (consistent.held entry.1 entry.2).mp member
  have mode := update_of_keyShare shared conflict
  rcases Check.held_cases held with keyShare | ⟨late, _, own | ⟨incidentId, incident, _⟩⟩
  · rw [keyShare] at mode
    cases mode
  · exact ⟨late, own⟩
  · rw [incident] at mode
    cases mode

/-- Two transactions do not hold one dependency `FOR UPDATE`. -/
theorem dependency_alone (consistent : Consistent checks w) (different : p ≠ q)
    (first : (p, (checks p).dependencyLock) ∈ w.shared)
    (second : (q, (checks q).dependencyLock) ∈ w.shared) :
    (checks p).dependencyId ≠ (checks q).dependencyId := by
  intro same
  apply consistent.compatible _ first _ second different
  exact ⟨congrArg Row.dependency same, rfl⟩

/-- The organization is never locked against a check. -/
theorem organization_free (consistent : Consistent checks w)
    (second : (w.locals p).granted = 1) : ¬ WaitsFor checks w p q := by
  rintro ⟨_, wanted, next, entry, member, -, -, conflict⟩
  rcases (Check.next_cases next).2 with ⟨stage, _⟩ | ⟨_, rfl⟩ | ⟨stage, _⟩ | ⟨stage, _, _⟩
  · omega
  · have own := (shared_blocked consistent rfl member conflict).2
    have row := conflict.1
    rw [own] at row
    cases row
  · omega
  · omega

/-- The resolution of an incident meets no other lock on it: both checks would
hold the dependency of the incident. -/
theorem incident_free {entry : ι × Lock} {incidentId : Uuid}
    (consistent : Consistent checks w) (holder : (p, (checks p).dependencyLock) ∈ w.shared)
    (home_own : home incidentId = (checks p).dependencyId) (member : entry ∈ w.shared)
    (other : entry.1 ≠ p) : ¬ Lock.Conflicts ⟨.incident incidentId, .noKeyUpdate⟩ entry.2 := by
  intro conflict
  have held := (consistent.held entry.1 entry.2).mp member
  rcases Check.held_cases held with keyShare | ⟨_, locked, own | ⟨otherId, incident, home_other⟩⟩
  · have modes := conflict.2
    rw [keyShare] at modes
    cases modes
  · have row := conflict.1
    rw [own] at row
    cases row
  · have row := conflict.1
    rw [incident] at row
    injection row with same
    subst same
    exact dependency_alone consistent other.symm holder
      ((consistent.held entry.1 _).mpr locked) (home_own.symm.trans home_other)

/-- A transaction that holds its dependency waits for another dependency only,
and for the transaction that holds that one. -/
theorem late_edge (consistent : Consistent checks w) (edge : WaitsFor checks w p q)
    (late : 3 ≤ (w.locals p).granted) :
    (p, (checks p).dependencyLock) ∈ w.shared ∧
      (checks p).next (w.locals p) = some ⟨.dependency (checks q).dependencyId, .keyShare⟩ ∧
      3 ≤ (w.locals q).granted ∧ (q, (checks q).dependencyLock) ∈ w.shared := by
  obtain ⟨_, wanted, next, entry, member, rfl, other, conflict⟩ := edge
  obtain ⟨running, stages⟩ := Check.next_cases next
  rcases stages with ⟨stage, _⟩ | ⟨stage, _⟩ | ⟨stage, _⟩ | ⟨_, probed, listed⟩
  · omega
  · omega
  · omega
  · have holder := (consistent.held p _).mpr (Check.holds_dependency running probed late)
    refine ⟨holder, ?_⟩
    rcases Check.verdictLocks_cases listed with shared | ⟨incidentId, rfl, home_own⟩
    · obtain ⟨lateHolder, own⟩ := shared_blocked consistent shared member conflict
      have row := conflict.1
      rw [own] at row
      refine ⟨?_, lateHolder, ?_⟩
      · rw [Option.mem_def.mp next]
        exact congrArg some (by cases wanted; simp_all [Check.dependencyLock])
      · rw [← own]
        exact member
    · exact absurd conflict (incident_free consistent holder home_own member other)

/-- Whoever stands in the way of an upgrade, and has not got beyond its own, is a
check of the same dependency. -/
theorem upgrade_edge (consistent : Consistent checks w) (edge : WaitsFor checks w p q)
    (upgrading : (checks p).next (w.locals p) = some (checks p).dependencyLock)
    (early : (w.locals q).granted ≤ 2) :
    0 < (w.locals q).granted ∧ (checks q).dependencyLock = (checks p).dependencyLock := by
  obtain ⟨_, wanted, next, entry, member, rfl, _, conflict⟩ := edge
  rw [upgrading] at next
  have held := (consistent.held entry.1 entry.2).mp member
  obtain ⟨some_granted, own | organization⟩ := Check.held_early held early
  · refine ⟨some_granted, ?_⟩
    have row := conflict.1
    rw [← Option.some.inj next, own] at row
    have same : (checks p).dependencyId = (checks entry.1).dependencyId := Row.dependency.inj row
    unfold Check.dependencyLock
    rw [same]
  · have row := conflict.1
    rw [← Option.some.inj next, organization] at row
    cases row

theorem edge_other (edge : WaitsFor checks w p q) : q ≠ p := by
  obtain ⟨_, _, _, _, _, _, other, _⟩ := edge
  exact other

/-- A transaction that holds nothing is not waited for. -/
theorem start_noReturn (consistent : Consistent checks w) (stage : (w.locals t).granted = 0) :
    ¬ Relation.TransGen (WaitsFor checks w) t t := by
  apply WaitFor.noReturn_of_trap (fun q => q ≠ t) (fun q edge => edge_other edge)
    (fun a b _ edge => ?_) (fun outside => outside rfl)
  rintro rfl
  obtain ⟨_, _, _, entry, member, rfl, _, _⟩ := edge
  have held := (consistent.held entry.1 entry.2).mp member
  have granted := (Check.held_early held (by omega)).1
  omega

/-- Who stands in the way of a lone upgrade is a correlation, or waits for nobody. -/
theorem upgrade_onward (consistent : Consistent checks w)
    (upgrading : (checks t).next (w.locals t) = some (checks t).dependencyLock)
    (upgrades : UpgradesAlone checks w t) (edge : WaitsFor checks w t q)
    (early : (w.locals q).granted ≤ 2) (r : ι) : ¬ WaitsFor checks w q r := by
  obtain ⟨granted, same⟩ := upgrade_edge consistent edge upgrading early
  intro onward
  obtain ⟨waiting, asked, askedNext, _⟩ := id onward
  rcases (Check.next_cases askedNext).2 with
    ⟨stage, _⟩ | ⟨stage, _⟩ | ⟨stage, rfl⟩ | ⟨stage, _, _⟩
  · omega
  · exact organization_free consistent stage onward
  · apply upgrades upgrading q (edge_other edge) waiting
    rw [askedNext, same]
  · omega

theorem upgrade_noReturn (consistent : Consistent checks w)
    (stage : (w.locals t).granted = 2)
    (upgrading : (checks t).next (w.locals t) = some (checks t).dependencyLock)
    (upgrades : UpgradesAlone checks w t) : ¬ Relation.TransGen (WaitsFor checks w) t t := by
  -- only correlations are behind it, and none of them waits for an upgrade
  apply WaitFor.noReturn_of_trap
    (fun q => q ≠ t ∧ (3 ≤ (w.locals q).granted ∨ ∀ r, ¬ WaitsFor checks w q r))
  · intro q edge
    refine ⟨edge_other edge, ?_⟩
    by_cases late : 3 ≤ (w.locals q).granted
    · exact .inl late
    · exact .inr (upgrade_onward consistent upgrading upgrades edge (by omega))
  · rintro a b ⟨_, late | free⟩ edge
    · have beyond := (late_edge consistent edge late).2.2.1
      refine ⟨?_, .inl beyond⟩
      rintro rfl
      omega
    · exact absurd edge (free b)
  · exact fun outside => outside.1 rfl

theorem correlation_noReturn (consistent : Consistent checks w)
    (late : 3 ≤ (w.locals t).granted) (correlates : CorrelatesAside checks w t) :
    ¬ Relation.TransGen (WaitsFor checks w) t t := by
  by_cases awaited : ∃ p, p ≠ t ∧ (p, (checks p).dependencyLock) ∈ w.shared ∧
      (w.locals p).waiting = true ∧
      (checks p).next (w.locals p) = some ⟨.dependency (checks t).dependencyId, .keyShare⟩
  · -- a correlation waits for it, so it waits for somebody who does not wait
    obtain ⟨p, other, locked, waiting, wants⟩ := awaited
    apply WaitFor.noReturn_of_trap
      (fun q => q ≠ t ∧ ∀ r, ¬ WaitsFor checks w q r)
    · intro q edge
      refine ⟨edge_other edge, ?_⟩
      obtain ⟨holder, asks, _, holder'⟩ := late_edge consistent edge late
      intro r onward
      exact correlates holder q (edge_other edge) asks holder' onward.1 p other locked waiting wants
    · intro a b ⟨_, free⟩ edge
      exact absurd edge (free b)
    · exact fun outside => outside.1 rfl
  · -- no correlation waits for it, and only correlations are behind it
    apply WaitFor.noReturn_of_trap (fun q => q ≠ t ∧ 3 ≤ (w.locals q).granted)
    · intro q edge
      exact ⟨edge_other edge, (late_edge consistent edge late).2.2.1⟩
    · intro a b ⟨other, lateA⟩ edge
      obtain ⟨locked, asks, beyond, _⟩ := late_edge consistent edge lateA
      refine ⟨?_, beyond⟩
      rintro rfl
      exact awaited ⟨a, other, locked, edge.1, asks⟩
    · exact fun outside => outside.1 rfl

/-- A transaction that meets both conditions closes no cycle. -/
theorem untangled_noReturn (consistent : Consistent checks w) {wanted : Lock}
    (next : (checks t).next (w.locals t) = some wanted) (upgrades : UpgradesAlone checks w t)
    (correlates : CorrelatesAside checks w t) : ¬ Relation.TransGen (WaitsFor checks w) t t := by
  rcases (Check.next_cases next).2 with ⟨stage, _⟩ | ⟨stage, _⟩ | ⟨stage, rfl⟩ | ⟨late, _, _⟩
  · exact start_noReturn consistent stage
  · exact WaitFor.noReturn_of_free (fun q => organization_free consistent stage)
  · exact upgrade_noReturn consistent stage next upgrades
  · exact correlation_noReturn consistent late correlates

/-- What other transactions wait for does not depend on how far this one is. -/
theorem others_edge {after : Transactions ι} (p q t : ι) (first : p ≠ t) (second : q ≠ t)
    (locals : ∀ r, r ≠ t → after.locals r = w.locals r)
    (shared : ∀ entry ∈ after.shared, entry.1 ≠ t → entry ∈ w.shared)
    (edge : WaitsFor checks after p q) : WaitsFor checks w p q := by
  obtain ⟨waiting, wanted, next, entry, member, rfl, other, conflict⟩ := edge
  rw [locals p first] at waiting next
  exact ⟨waiting, wanted, next, entry, shared entry member second, rfl, other, conflict⟩

/-! ## One step -/

variable [DecidableEq ι]

/-- What one step can do. -/
inductive LockEffect (checks : ι → Check home) (w : Transactions ι) (t : ι)
    (action : LockAction) : Transactions ι → Prop where
  | idle : LockEffect checks w t action w
  | wait (wanted : Lock) (request : action = .request)
      (next : (checks t).next (w.locals t) = some wanted)
      (running : (w.locals t).waiting = false) (blocked : w.shared.Blocks t wanted) :
      LockEffect checks w t action ⟨w.shared, Function.update w.locals t
        ⟨(w.locals t).granted, true, (w.locals t).ended⟩⟩
  | grant (wanted : Lock) (next : (checks t).next (w.locals t) = some wanted)
      (free : ¬ w.shared.Blocks t wanted) :
      LockEffect checks w t action ⟨(t, wanted) :: w.shared, Function.update w.locals t
        ⟨(w.locals t).granted + 1, false, (w.locals t).ended⟩⟩
  | finish :
      LockEffect checks w t action ⟨w.shared.filter (fun entry => entry.1 ≠ t),
        Function.update w.locals t ⟨(w.locals t).granted, false, true⟩⟩

theorem lock_effect (checks : ι → Check home) (w : Transactions ι) (t : ι) (action : LockAction) :
    LockEffect checks w t action (w.move (lockAct checks) (t, action)) := by
  unfold World.move lockAct
  cases action with
  | finish => exact .finish
  | request =>
    cases asked : (checks t).next (w.locals t) with
    | none =>
      simp only [Function.update_eq_self]
      exact .idle
    | some wanted =>
      simp only
      by_cases blocked : w.shared.Blocks t wanted
      · simp only [blocked, if_true]
        cases running : (w.locals t).waiting with
        | true =>
          rw [← running, Function.update_eq_self]
          exact .idle
        | false => exact .wait wanted rfl asked running blocked
      · simp only [blocked, if_false]
        exact .grant wanted asked blocked

theorem consistent_step {w : Transactions ι} (consistent : Consistent checks w)
    (move : ι × LockAction) : Consistent checks (w.move (lockAct checks) move) := by
  obtain ⟨t, action⟩ := move
  have effect := lock_effect checks w t action
  generalize w.move (lockAct checks) (t, action) = after at effect ⊢
  cases effect with
  | idle => exact consistent
  | wait wanted _ asked running blocked =>
    refine ⟨?_, consistent.compatible⟩
    intro q lock
    dsimp only
    by_cases same : q = t
    · subst same
      rw [Function.update_self]
      exact consistent.held q lock
    · rw [Function.update_of_ne same]
      exact consistent.held q lock
  | grant wanted asked free =>
    constructor
    · intro q lock
      dsimp only
      by_cases same : q = t
      · subst same
        rw [Function.update_self, Check.held_granted asked, List.mem_cons, Prod.mk.injEq,
          consistent.held]
        simp only [true_and]
      · rw [Function.update_of_ne same, List.mem_cons, Prod.mk.injEq, consistent.held]
        simp only [same, false_and, false_or]
    · have fresh : ∀ b ∈ w.shared, b.1 ≠ t → ¬ wanted.Conflicts b.2 :=
        fun b member other conflict => free ⟨b, member, other, conflict⟩
      intro a first b second different conflict
      rcases List.mem_cons.mp first with rfl | first
      · rcases List.mem_cons.mp second with rfl | second
        · exact different rfl
        · exact fresh b second (Ne.symm different) conflict
      · rcases List.mem_cons.mp second with rfl | second
        · exact fresh a first different (conflicts_symm conflict)
        · exact consistent.compatible a first b second different conflict
  | finish =>
    constructor
    · intro q lock
      dsimp only
      rw [List.mem_filter]
      by_cases same : q = t
      · subst same
        simp [Check.held]
      · rw [Function.update_of_ne same, consistent.held]
        simp [same]
    · intro a first b second
      exact consistent.compatible a (List.mem_filter.mp first).1 b
        (List.mem_filter.mp second).1

/-- A transaction that begins to wait keeps what it asks for. -/
theorem untangled_waiting {wanted : Lock} (next : (checks t).next (w.locals t) = some wanted)
    (upgrades : UpgradesAlone checks w t) (correlates : CorrelatesAside checks w t)
    (consistent : Consistent checks ⟨w.shared, Function.update w.locals t
      ⟨(w.locals t).granted, true, (w.locals t).ended⟩⟩) :
    ¬ Relation.TransGen (WaitsFor checks ⟨w.shared, Function.update w.locals t
      ⟨(w.locals t).granted, true, (w.locals t).ended⟩⟩) t t := by
  have same : (checks t).next (Function.update w.locals t
      ⟨(w.locals t).granted, true, (w.locals t).ended⟩ t) = (checks t).next (w.locals t) := by
    rw [Function.update_self]
    rfl
  apply untangled_noReturn consistent (same.trans next)
  · intro asks q other
    dsimp only at asks ⊢
    rw [Function.update_of_ne other]
    rw [same] at asks
    exact upgrades asks q other
  · intro holder q other asks holder' waiting p different locked awaited
    dsimp only at asks waiting awaited ⊢
    rw [same] at asks
    rw [Function.update_of_ne other] at waiting
    rw [Function.update_of_ne different] at awaited ⊢
    exact correlates holder q other asks holder' waiting p different locked awaited

theorem acyclic_step (consistent : Consistent checks w)
    (acyclic : WaitFor.Acyclic (WaitsFor checks w)) (move : ι × LockAction)
    (untangled : Untangled checks w move) :
    WaitFor.Acyclic (WaitsFor checks (w.move (lockAct checks) move)) := by
  have consistent' := consistent_step consistent move
  obtain ⟨t, action⟩ := move
  have effect := lock_effect checks w t action
  generalize w.move (lockAct checks) (t, action) = after at effect consistent' ⊢
  cases effect with
  | idle => exact acyclic
  | wait wanted request next running blocked =>
    obtain ⟨upgrades, correlates⟩ := untangled request running
    apply acyclic.move (t := t)
    · intro p q first second edge
      refine others_edge p q t first second ?_ ?_ edge
      · exact fun r other => Function.update_of_ne other ..
      · exact fun entry member _ => member
    · exact untangled_waiting next upgrades correlates consistent'
  | grant wanted next free =>
    apply acyclic.move (t := t)
    · intro p q first second edge
      refine others_edge p q t first second (fun r other => Function.update_of_ne other ..) ?_ edge
      intro entry member other
      rcases List.mem_cons.mp member with rfl | member
      · exact absurd rfl other
      · exact member
    · apply WaitFor.noReturn_of_free
      intro q ⟨waiting, _⟩
      dsimp only at waiting
      rw [Function.update_self] at waiting
      cases waiting
  | finish =>
    apply acyclic.move (t := t)
    · intro p q first second edge
      exact others_edge p q t first second (fun r other => Function.update_of_ne other ..)
        (fun entry member _ => (List.mem_filter.mp member).1) edge
    · apply WaitFor.noReturn_of_free
      intro q ⟨waiting, _⟩
      dsimp only at waiting
      rw [Function.update_self] at waiting
      cases waiting

/-! ## Main result -/

/-- Where no two checks of a dependency wait to lock it at the same time, and
correlations do not wait for one another in a chain, no interleaving of any
checks has transactions that wait for each other. -/
theorem deadlock_free (home : Uuid → Uuid) (checks : ι → Check home)
    (run : List (ι × LockAction))
    (untangled : Run.AllSteps (World.move (lockAct checks)) (Untangled checks) allAtStart run)
    (before after : List (ι × LockAction)) (split : run = before ++ after) :
    WaitFor.Acyclic
      (WaitsFor checks (Run.exec (World.move (lockAct checks)) allAtStart before)) := by
  subst split
  have met := ((Run.allSteps_append _ before after).mp untangled).1
  have keeps : ∀ w move, Sound checks w → Untangled checks w move →
      Sound checks (w.move (lockAct checks) move) := by
    intro w move sound ok
    exact ⟨consistent_step sound.consistent move,
      acyclic_step sound.consistent sound.acyclic move ok⟩
  exact (Run.exec_invariant_of_allSteps keeps allAtStart before sound_start met).acyclic

/-! ## Two regions of one dependency -/

/-- Two regions check the same dependency, and nothing comes of it. -/
def twoRegions : Bool → Check (fun _ => 1) := fun _ => ⟨1, 2, false, .unchanged, nofun⟩

/-- The second region starts while the first one has its dependency locked. -/
def oneAfterTheOther : List (Bool × LockAction) :=
  [(true, .request), (true, .request), (true, .request), (false, .request), (true, .finish),
    (false, .request), (false, .request), (false, .request)]

theorem deadlock_free_sample :
    WaitFor.Acyclic (WaitsFor twoRegions
      (Run.exec (World.move (lockAct twoRegions)) allAtStart oneAfterTheOther)) := by
  refine deadlock_free (fun _ => 1) twoRegions oneAfterTheOther
    ⟨untangled_of_awake (by decide) _, untangled_of_awake (by decide) _,
      untangled_of_awake (by decide) _, untangled_of_awake (by decide) _, ?_, ?_,
      untangled_of_awake (by decide) _, untangled_of_awake (by decide) _, trivial⟩
    oneAfterTheOther [] rfl
  · intro request
    cases request
  · intro _ running
    cases running

/-- Both have recorded their result before either locks the dependency. -/
def bothRecorded : List (Bool × LockAction) :=
  [(true, .request), (true, .request), (false, .request), (false, .request), (true, .request),
    (false, .request)]

theorem two_regions_deadlock :
    ¬ WaitFor.Acyclic (WaitsFor twoRegions
      (Run.exec (World.move (lockAct twoRegions)) allAtStart bothRecorded)) := by
  have waits : ∀ region, WaitsFor twoRegions
      (Run.exec (World.move (lockAct twoRegions)) allAtStart bothRecorded) region (!region) := by
    intro region
    refine ⟨by cases region <;> rfl, ⟨.dependency 1, .update⟩, by cases region <;> rfl,
      (!region, ⟨.dependency 1, .keyShare⟩), ?_, rfl, by cases region <;> decide, rfl, rfl⟩
    cases region <;> decide
  intro acyclic
  exact acyclic true (.tail (.single (waits true)) (waits false))

end Reliastra.Guarantees.DeadlockFreedom
