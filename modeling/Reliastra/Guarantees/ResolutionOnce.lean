import Reliastra.Source.Incidents.ConcurrentResolution

/-!
# An incident is resolved once

Recoveries are kept apart by the row of the dependency; PATCH requests lock nothing
before they read. The transition, its attribution and its evidence task happen once
exactly where no transaction reads the incident open while another one that has is
under way, and nothing fails between attribution and commit.
-/

namespace Reliastra.Guarantees.ResolutionOnce

open Reliastra.Library Reliastra.Source Reliastra.Source.Incidents

variable {ι : Type}

abbrev Resolutions (ι : Type) := World ResolutionStore ι ResolutionPhase

abbrev after [DecidableEq ι] (w : Resolutions ι) (run : List (ι × ResolutionAct)) :
    Resolutions ι :=
  Run.exec (World.move resolutionAct) w run

/-! ## What resolving once means -/

/-- The transaction has seen the incident open and has not ended. -/
def Resolving (phase : ResolutionPhase) : Prop := phase.resolver.isSome = true

instance (phase : ResolutionPhase) : Decidable (Resolving phase) :=
  inferInstanceAs (Decidable (phase.resolver.isSome = true))

structure FiresOnce (w : Resolutions ι) : Prop where
  once : w.shared.resolutions.length ≤ 1
  /-- Who answers that the incident is resolved has resolved it, or somebody has. -/
  answered : 0 < w.shared.answered → w.shared.resolutions.length = 1
  /-- With no resolution under way, there is one attribution and one task for each. -/
  settled : (∀ i, ¬ Resolving (w.locals i)) →
    w.shared.attributions = w.shared.resolutions.length ∧
      w.shared.tasks = w.shared.resolutions.length

/-- A statement of a resolution that goes through. -/
def Proceeds : ResolutionAct → Prop
  | .update _ | .computeAttribution false | .dispatch false | .commit => True
  | _ => False

/-- Nor does it fire twice when the transactions under way go on to their end. -/
def Safe [DecidableEq ι] (w : Resolutions ι) : Prop :=
  ∀ rest : List (ι × ResolutionAct), (∀ m ∈ rest, Proceeds m.2) → FiresOnce (after w rest)

/-- A recovery finds the incident open while no PATCH that has is under way, a PATCH
while nobody is; attribution and dispatch succeed, and nothing fails after the
dispatch. -/
def Undisturbed (w : Resolutions ι) (m : ι × ResolutionAct) : Prop :=
  match m.2, w.locals m.1 with
  | .readOpen, .locked => w.shared.incident.status = .opened →
      ∀ i, (w.locals i).resolver ≠ some .patch
  | .readIncident, .idle => ¬ AlreadyResolved w.shared.incident → ∀ i, ¬ Resolving (w.locals i)
  | .computeAttribution raises, .updated _ _ => raises = false
  | .dispatch raises, .attributed _ _ _ => raises = false
  | .abort, .dispatched _ _ _ => False
  | _, _ => True

/-! ## The invariant -/

/-- The locks on the row of the dependency. -/
structure DependencyLock (w : Resolutions ι) : Prop where
  taken : ∀ i, (w.locals i).holdsDependency = true → w.shared.dependencyLocked = true
  alone : ∀ i j, (w.locals i).holdsDependency = true → (w.locals j).holdsDependency = true → i = j

/-- Nobody has resolved the incident so far. -/
structure Unresolved (s : ResolutionStore) : Prop where
  status : s.incident.status = .opened
  resolutions : s.resolutions = []
  attributions : s.attributions = 0
  answered : s.answered = 0

/-- The tasks the transaction has sent. -/
def sent : ResolutionPhase → Nat
  | .dispatched _ _ _ => 1
  | _ => 0

/-- No attribution that was due is missing. -/
def attributedWell : ResolutionPhase → Bool
  | .attributed _ _ computed | .dispatched _ _ computed => computed
  | _ => true

/-- What a transaction under way has done. -/
structure Underway (s : ResolutionStore) (phase : ResolutionPhase) : Prop where
  unresolved : Unresolved s
  row : s.rowLocked = phase.holdsRow
  tasks : s.tasks = sent phase
  computed : attributedWell phase = true

structure Resolved (s : ResolutionStore) : Prop where
  already : AlreadyResolved s.incident
  row : s.rowLocked = false
  resolutions : s.resolutions.length = 1
  attributions : s.attributions = 1
  tasks : s.tasks = 1

/-- No resolution has begun, one is under way, or one is through. -/
inductive Stage (w : Resolutions ι) : Prop where
  | waiting (nobody : ∀ i, ¬ Resolving (w.locals i)) (unresolved : Unresolved w.shared)
      (row : w.shared.rowLocked = false) (tasks : w.shared.tasks = 0)
  | underway (i : ι) (resolving : Resolving (w.locals i))
      (others : ∀ j, j ≠ i → ¬ Resolving (w.locals j)) (underway : Underway w.shared (w.locals i))
  | through (nobody : ∀ i, ¬ Resolving (w.locals i)) (resolved : Resolved w.shared)

structure Invariant (w : Resolutions ι) : Prop where
  lock : DependencyLock w
  stage : Stage w

/-- A transaction that is resolving is the one the stage speaks of. -/
theorem Stage.alone {w : Resolutions ι} {i : ι} (stage : Stage w) (resolving : Resolving (w.locals i)) :
    (∀ j, j ≠ i → ¬ Resolving (w.locals j)) ∧ Underway w.shared (w.locals i) := by
  cases stage with
  | waiting nobody _ _ _ => exact absurd resolving (nobody i)
  | through nobody _ => exact absurd resolving (nobody i)
  | underway j there others underway =>
    by_cases same : j = i
    · subst same
      exact ⟨others, underway⟩
    · exact absurd resolving (others i (fun here => same here.symm))

theorem firesOnce_of_stage {w : Resolutions ι} (stage : Stage w) : FiresOnce w := by
  cases stage with
  | waiting nobody unresolved row tasks =>
    refine ⟨?_, fun some => ?_, fun _ => ?_⟩
    · rw [unresolved.resolutions]
      exact Nat.zero_le 1
    · rw [unresolved.answered] at some
      exact absurd some (Nat.lt_irrefl 0)
    · rw [unresolved.attributions, tasks, unresolved.resolutions]
      exact ⟨rfl, rfl⟩
  | underway i resolving others underway =>
    refine ⟨?_, fun some => ?_, fun nobody => absurd resolving (nobody i)⟩
    · rw [underway.unresolved.resolutions]
      exact Nat.zero_le 1
    · rw [underway.unresolved.answered] at some
      exact absurd some (Nat.lt_irrefl 0)
  | through nobody resolved =>
    refine ⟨resolved.resolutions.le, fun _ => resolved.resolutions, fun _ => ?_⟩
    rw [resolved.attributions, resolved.tasks, resolved.resolutions]
    exact ⟨rfl, rfl⟩

/-! ## The row of the dependency -/

/-- What a statement does with the lock on the row of the dependency. -/
inductive LockEffect (s : ResolutionStore) (phase : ResolutionPhase) :
    ResolutionStore × ResolutionPhase → Prop
  | kept {s' : ResolutionStore} {phase' : ResolutionPhase}
      (locked : s'.dependencyLocked = s.dependencyLocked)
      (holds : phase'.holdsDependency = phase.holdsDependency) : LockEffect s phase (s', phase')
  | taken {s' : ResolutionStore} {phase' : ResolutionPhase} (free : s.dependencyLocked = false)
      (locked : s'.dependencyLocked = true) : LockEffect s phase (s', phase')
  | released {s' : ResolutionStore} {phase' : ResolutionPhase}
      (locked : s'.dependencyLocked = if phase.holdsDependency then false else s.dependencyLocked)
      (holds : phase'.holdsDependency = false) : LockEffect s phase (s', phase')

theorem lock_effect (i : ι) (s : ResolutionStore) (phase : ResolutionPhase) (act : ResolutionAct) :
    LockEffect s phase (resolutionAct i s phase act) := by
  cases act with
  | lockDependency =>
    cases phase with
    | idle =>
      simp only [resolutionAct]
      split
      · exact .kept rfl rfl
      · next free => exact .taken (Bool.not_eq_true _ ▸ free) rfl
    | _ => exact .kept rfl rfl
  | readOpen =>
    cases phase with
    | locked =>
      simp only [resolutionAct]
      split
      · exact .kept rfl rfl
      · exact .kept rfl rfl
    | _ => exact .kept rfl rfl
  | readIncident =>
    cases phase with
    | idle =>
      simp only [resolutionAct]
      split
      · exact .kept rfl rfl
      · exact .kept rfl rfl
    | _ => exact .kept rfl rfl
  | editColumns =>
    simp only [resolutionAct]
    split
    · split
      · exact .kept rfl rfl
      · exact .kept rfl rfl
    · exact .kept rfl rfl
  | update now =>
    cases phase with
    | seenOpen resolver edited =>
      simp only [resolutionAct]
      split
      · exact .kept rfl rfl
      · exact .kept rfl (by cases resolver <;> rfl)
    | _ => exact .kept rfl rfl
  | computeAttribution raises =>
    cases phase with
    | updated resolver resolvedAt => exact .kept rfl (by cases resolver <;> rfl)
    | _ => exact .kept rfl rfl
  | dispatch raises =>
    cases phase with
    | attributed resolver resolvedAt computed => exact .kept rfl (by cases resolver <;> rfl)
    | _ => exact .kept rfl rfl
  | commit =>
    cases phase with
    | passed => exact .released rfl rfl
    | dispatched resolver resolvedAt computed => exact .released rfl rfl
    | _ => exact .kept rfl rfl
  | abort => exact .released rfl rfl

/-! ## A resolution that goes on to its end -/

/-- What the statements of a resolution come to when it goes on to its end. -/
structure Finished (s : ResolutionStore) (phase : ResolutionPhase)
    (result : ResolutionStore × ResolutionPhase) : Prop where
  ended : result.2 = .idle
  row : result.1.rowLocked = false
  resolutions : result.1.resolutions.length = s.resolutions.length + 1
  tasks : sent phase = 1 → result.1.tasks = s.tasks
  attributions : attributedWell phase = false → result.1.attributions = s.attributions

theorem finished (i : ι) (s : ResolutionStore) {phase : ResolutionPhase} (resolving : Resolving phase)
    (free : phase.holdsRow = true ∨ s.rowLocked = false) (now : Instant) :
    Finished s phase
      (Run.exec (fun s a => resolutionAct i s.1 s.2 a) (s, phase) (finishing now)) := by
  cases phase with
  | idle => cases resolving
  | locked => cases resolving
  | passed => cases resolving
  | seenOpen resolver edited =>
    have goes : ¬ (edited = false ∧ s.rowLocked = true) := by
      intro ⟨unedited, taken⟩
      rcases free with held | open_
      · rw [unedited] at held
        cases held
      · rw [taken] at open_
        cases open_
    constructor <;> simp [finishing, resolutionAct, goes, ResolutionStore.release,
      ResolutionPhase.holdsRow, sent, attributedWell]
  | updated resolver resolvedAt =>
    constructor <;> simp [finishing, resolutionAct, ResolutionStore.release,
      ResolutionPhase.holdsRow, sent, attributedWell]
  | attributed resolver resolvedAt computed =>
    constructor <;> simp [finishing, resolutionAct, ResolutionStore.release,
      ResolutionPhase.holdsRow, sent, attributedWell]
  | dispatched resolver resolvedAt computed =>
    constructor <;> simp [finishing, resolutionAct, ResolutionStore.release,
      ResolutionPhase.holdsRow, sent, attributedWell]

section Moves
variable [DecidableEq ι] {w : Resolutions ι} {i : ι}

theorem lock_move (lock : DependencyLock w) (i : ι) (act : ResolutionAct) :
    DependencyLock (w.move resolutionAct (i, act)) := by
  have effect := lock_effect i w.shared (w.locals i) act
  have mine : (w.move resolutionAct (i, act)).locals i =
      (resolutionAct i w.shared (w.locals i) act).2 := World.move_locals_self w i act
  have theirs (j : ι) (other : j ≠ i) :
      (w.move resolutionAct (i, act)).locals j = w.locals j := World.move_locals_of_ne w act other
  have shared : (w.move resolutionAct (i, act)).shared =
      (resolutionAct i w.shared (w.locals i) act).1 := rfl
  generalize resolutionAct i w.shared (w.locals i) act = result at effect mine shared
  generalize w.move resolutionAct (i, act) = w' at mine theirs shared
  cases effect with
  | kept locked holds =>
    have same (j : ι) : (w'.locals j).holdsDependency = (w.locals j).holdsDependency := by
      by_cases other : j = i
      · subst other
        rw [mine, holds]
      · rw [theirs j other]
    constructor
    · intro j held
      rw [shared, locked]
      rw [same] at held
      exact lock.taken j held
    · intro j k first second
      rw [same] at first second
      exact lock.alone j k first second
  | taken free locked =>
    have nobody (j : ι) : ¬ (w.locals j).holdsDependency = true := by
      intro held
      have taken := lock.taken j held
      rw [free] at taken
      cases taken
    have only (j : ι) (held : (w'.locals j).holdsDependency = true) : j = i := by
      by_contra other
      rw [theirs j other] at held
      exact nobody j held
    constructor
    · intro j _
      rw [shared]
      exact locked
    · intro j k first second
      rw [only j first, only k second]
  | released locked holds =>
    have other (j : ι) (held : (w'.locals j).holdsDependency = true) :
        j ≠ i ∧ (w.locals j).holdsDependency = true := by
      by_cases same : j = i
      · subst same
        rw [mine, holds] at held
        cases held
      · rw [theirs j same] at held
        exact ⟨same, held⟩
    constructor
    · intro j held
      obtain ⟨different, before⟩ := other j held
      have free : ¬ (w.locals i).holdsDependency = true :=
        fun mine => different (lock.alone j i before mine)
      rw [shared, locked, if_neg free]
      exact lock.taken j before
    · intro j k first second
      exact lock.alone j k (other j first).2 (other k second).2

/-! ## The stage -/

/-- The state with the party's result. -/
abbrev put (w : Resolutions ι) (i : ι) (result : ResolutionStore × ResolutionPhase) :
    Resolutions ι := ⟨result.1, Function.update w.locals i result.2⟩

theorem put_self (w : Resolutions ι) (i : ι) : put w i (w.shared, w.locals i) = w := by
  unfold put
  rw [Function.update_eq_self]

theorem resolving_put {s : ResolutionStore} {phase : ResolutionPhase} (j : ι) :
    Resolving ((put w i (s, phase)).locals j) ↔
      if j = i then Resolving phase else Resolving (w.locals j) := by
  unfold put
  dsimp only
  by_cases same : j = i
  · subst same
    rw [if_pos rfl, Function.update_self]
  · rw [if_neg same, Function.update_of_ne same]

/-- The stage reads nothing but these. -/
structure SameStage (s s' : ResolutionStore) : Prop where
  incident : s'.incident = s.incident
  row : s'.rowLocked = s.rowLocked
  resolutions : s'.resolutions = s.resolutions
  attributions : s'.attributions = s.attributions
  tasks : s'.tasks = s.tasks
  answered : s'.answered = s.answered

theorem SameStage.unresolved {s s' : ResolutionStore} (same : SameStage s s')
    (unresolved : Unresolved s) : Unresolved s' := by
  refine ⟨?_, ?_, ?_, ?_⟩
  · rw [same.incident]
    exact unresolved.status
  · rw [same.resolutions]
    exact unresolved.resolutions
  · rw [same.attributions]
    exact unresolved.attributions
  · rw [same.answered]
    exact unresolved.answered

/-- A party that is not resolving, before and after, leaves the stage alone. -/
theorem stage_quiet (stage : Stage w) {s : ResolutionStore} {phase : ResolutionPhase}
    (same : SameStage w.shared s) (before : ¬ Resolving (w.locals i)) (quiet : ¬ Resolving phase) :
    Stage (put w i (s, phase)) := by
  have still (nobody : ∀ j, ¬ Resolving (w.locals j)) (j : ι) :
      ¬ Resolving ((put w i (s, phase)).locals j) := by
    rw [resolving_put]
    split
    · exact quiet
    · exact nobody j
  cases stage with
  | waiting nobody unresolved row tasks =>
    exact .waiting (still nobody) (same.unresolved unresolved) (same.row.trans row)
      (same.tasks.trans tasks)
  | through nobody resolved =>
    refine .through (still nobody) ⟨?_, same.row.trans resolved.row, ?_, ?_, ?_⟩
    · rw [same.incident]
      exact resolved.already
    · rw [same.resolutions]
      exact resolved.resolutions
    · rw [same.attributions]
      exact resolved.attributions
    · rw [same.tasks]
      exact resolved.tasks
  | underway j resolving others underway =>
    have different : j ≠ i := by
      rintro rfl
      exact before resolving
    have kept : (put w i (s, phase)).locals j = w.locals j := Function.update_of_ne different ..
    refine .underway j ?_ ?_ ?_
    · rw [kept]
      exact resolving
    · intro k other
      rw [resolving_put]
      split
      · exact quiet
      · exact others k other
    · rw [kept]
      exact ⟨same.unresolved underway.unresolved, same.row.trans underway.row,
        same.tasks.trans underway.tasks, underway.computed⟩

/-- A transaction that reads the incident open, with nobody under way. -/
theorem stage_begins (stage : Stage w) (open_ : w.shared.incident.status = .opened)
    (nobody : ∀ j, ¬ Resolving (w.locals j)) (resolver : Resolver) :
    Stage (put w i (w.shared, .seenOpen resolver false)) := by
  cases stage with
  | underway j resolving others underway => exact absurd resolving (nobody j)
  | through _ resolved =>
    have status := resolved.already.1
    rw [open_] at status
    cases status
  | waiting _ unresolved row tasks =>
    refine .underway i ?_ ?_ ?_
    · rw [resolving_put, if_pos rfl]
      rfl
    · intro j other
      rw [resolving_put, if_neg other]
      exact nobody j
    · have mine : (put w i (w.shared, .seenOpen resolver false)).locals i =
          .seenOpen resolver false := Function.update_self ..
      rw [mine]
      exact ⟨unresolved, row, tasks, rfl⟩

/-- The one transaction under way goes on. -/
theorem stage_goes_on {s : ResolutionStore} {phase : ResolutionPhase}
    (others : ∀ j, j ≠ i → ¬ Resolving (w.locals j)) (resolving : Resolving phase)
    (underway : Underway s phase) : Stage (put w i (s, phase)) := by
  have mine : (put w i (s, phase)).locals i = phase := Function.update_self ..
  refine .underway i ?_ ?_ ?_
  · rw [mine]
    exact resolving
  · intro j other
    rw [resolving_put, if_neg other]
    exact others j other
  · rw [mine]
    exact underway

theorem nobody_after {s : ResolutionStore} (others : ∀ j, j ≠ i → ¬ Resolving (w.locals j)) (j : ι) :
    ¬ Resolving ((put w i (s, .idle)).locals j) := by
  rw [resolving_put]
  split
  · simp [Resolving, ResolutionPhase.resolver]
  · next other => exact others j other

/-- A PATCH that finds the incident resolved says so. -/
theorem stage_answered (stage : Stage w) (already : AlreadyResolved w.shared.incident)
    {phase : ResolutionPhase} (quiet : ¬ Resolving phase) :
    Stage (put w i ({ w.shared with answered := w.shared.answered + 1 }, phase)) := by
  have opened (unresolved : Unresolved w.shared) : False := by
    have status := unresolved.status
    rw [already.1] at status
    cases status
  cases stage with
  | waiting _ unresolved _ _ => exact (opened unresolved).elim
  | underway _ _ _ underway => exact (opened underway.unresolved).elim
  | through nobody resolved =>
    refine .through (fun j => ?_) ⟨resolved.already, resolved.row, resolved.resolutions,
      resolved.attributions, resolved.tasks⟩
    rw [resolving_put]
    split
    · exact quiet
    · exact nobody j

/-- A recovery that has seen the incident open holds the row of its dependency. -/
theorem holdsDependency_of_recovery {phase : ResolutionPhase} (resolving : Resolving phase)
    (other : phase.resolver ≠ some .patch) : phase.holdsDependency = true := by
  have recovery {resolver : Resolver} (different : some resolver ≠ some .patch) :
      resolver = .recovery := by
    cases resolver with
    | recovery => rfl
    | patch => exact absurd rfl different
  cases phase with
  | idle => cases resolving
  | locked => cases resolving
  | passed => cases resolving
  | seenOpen resolver edited =>
    obtain rfl := recovery other
    rfl
  | updated resolver resolvedAt =>
    obtain rfl := recovery other
    rfl
  | attributed resolver resolvedAt computed =>
    obtain rfl := recovery other
    rfl
  | dispatched resolver resolvedAt computed =>
    obtain rfl := recovery other
    rfl

/-- Every statement of a transaction that is not resolving keeps the stage, unless
it finds the incident open. -/
theorem stage_bystander (inv : Invariant w) (i : ι) (act : ResolutionAct)
    (calm : Undisturbed w (i, act)) (before : ¬ Resolving (w.locals i)) :
    Stage (put w i (resolutionAct i w.shared (w.locals i) act)) := by
  have idle (same : resolutionAct i w.shared (w.locals i) act = (w.shared, w.locals i)) :
      Stage (put w i (resolutionAct i w.shared (w.locals i) act)) := by
    rw [same, put_self]
    exact inv.stage
  have quiet {s : ResolutionStore} {phase : ResolutionPhase} (same : SameStage w.shared s)
      (quiet : ¬ Resolving phase) : Stage (put w i (s, phase)) :=
    stage_quiet inv.stage same before quiet
  cases phase : w.locals i with
  | idle =>
    rw [phase] at idle
    have out : ¬ Resolving .idle := by decide
    cases act with
    | lockDependency =>
      simp only [resolutionAct]
      split
      · exact quiet ⟨rfl, rfl, rfl, rfl, rfl, rfl⟩ out
      · exact quiet ⟨rfl, rfl, rfl, rfl, rfl, rfl⟩ (by decide)
    | readIncident =>
      simp only [resolutionAct]
      by_cases already : AlreadyResolved w.shared.incident
      · rw [if_pos already]
        exact stage_answered inv.stage already out
      · rw [if_neg already]
        simp only [Undisturbed, phase] at calm
        have nobody := calm already
        refine stage_begins inv.stage ?_ nobody .patch
        cases inv.stage with
        | waiting _ unresolved _ _ => exact unresolved.status
        | underway j resolving _ _ => exact absurd resolving (nobody j)
        | through _ resolved => exact absurd resolved.already already
    | abort => exact quiet ⟨rfl, rfl, rfl, rfl, rfl, rfl⟩ out
    | _ => exact idle rfl
  | locked =>
    rw [phase] at idle
    have out : ¬ Resolving .idle := by decide
    cases act with
    | readOpen =>
      simp only [resolutionAct]
      split
      · next opened =>
        simp only [Undisturbed, phase] at calm
        have patches := calm opened
        refine stage_begins inv.stage opened (fun j resolving => ?_) .recovery
        -- another recovery would hold the row of the dependency
        have recovery := holdsDependency_of_recovery resolving (patches j)
        have mine : (w.locals i).holdsDependency = true := by
          rw [phase]
          rfl
        obtain rfl := inv.lock.alone j i recovery mine
        exact before resolving
      · exact quiet ⟨rfl, rfl, rfl, rfl, rfl, rfl⟩ (by decide)
    | abort => exact quiet ⟨rfl, rfl, rfl, rfl, rfl, rfl⟩ out
    | _ => exact idle rfl
  | passed =>
    rw [phase] at idle
    have out : ¬ Resolving .idle := by decide
    cases act with
    | commit => exact quiet ⟨rfl, rfl, rfl, rfl, rfl, rfl⟩ out
    | abort => exact quiet ⟨rfl, rfl, rfl, rfl, rfl, rfl⟩ out
    | _ => exact idle rfl
  | seenOpen resolver edited =>
    rw [phase] at before
    exact absurd rfl before
  | updated resolver resolvedAt =>
    rw [phase] at before
    exact absurd rfl before
  | attributed resolver resolvedAt computed =>
    rw [phase] at before
    exact absurd rfl before
  | dispatched resolver resolvedAt computed =>
    rw [phase] at before
    exact absurd rfl before

/-- So does every statement of the one that is resolving. -/
theorem stage_resolver (stage : Stage w) (i : ι) (act : ResolutionAct)
    (calm : Undisturbed w (i, act)) (resolving : Resolving (w.locals i)) :
    Stage (put w i (resolutionAct i w.shared (w.locals i) act)) := by
  have idle (same : resolutionAct i w.shared (w.locals i) act = (w.shared, w.locals i)) :
      Stage (put w i (resolutionAct i w.shared (w.locals i) act)) := by
    rw [same, put_self]
    exact stage
  obtain ⟨others, underway⟩ := stage.alone resolving
  have goesOn {s : ResolutionStore} {phase : ResolutionPhase} (resolving : Resolving phase)
      (underway : Underway s phase) : Stage (put w i (s, phase)) :=
    stage_goes_on others resolving underway
  have abandons {phase : ResolutionPhase} (here : w.locals i = phase) (unsent : sent phase = 0) :
      Stage (put w i (w.shared.release phase, .idle)) := by
    rw [here] at underway
    refine .waiting (nobody_after others) ⟨underway.unresolved.status,
      underway.unresolved.resolutions, underway.unresolved.attributions,
      underway.unresolved.answered⟩ ?_ (underway.tasks.trans unsent)
    have row := underway.row
    simp only [ResolutionStore.release]
    split
    · rfl
    · next free =>
      rw [row]
      simpa using free
  cases phase : w.locals i with
  | idle =>
    rw [phase] at resolving
    cases resolving
  | locked =>
    rw [phase] at resolving
    cases resolving
  | passed =>
    rw [phase] at resolving
    cases resolving
  | seenOpen resolver edited =>
    rw [phase] at idle underway
    cases act with
    | editColumns =>
      cases resolver with
      | recovery => exact idle rfl
      | patch =>
        cases edited with
        | true => exact idle rfl
        | false =>
          simp only [resolutionAct, underway.row, ResolutionPhase.holdsRow, Bool.false_eq_true,
            if_false]
          exact goesOn rfl ⟨⟨underway.unresolved.status, underway.unresolved.resolutions,
            underway.unresolved.attributions, underway.unresolved.answered⟩, rfl, underway.tasks, rfl⟩
    | update now =>
      have free : ¬ (edited = false ∧ w.shared.rowLocked = true) := by
        rintro ⟨unedited, taken⟩
        have row := underway.row
        rw [taken, unedited] at row
        cases row
      simp only [resolutionAct, if_neg free]
      exact goesOn rfl ⟨⟨underway.unresolved.status, underway.unresolved.resolutions,
        underway.unresolved.attributions, underway.unresolved.answered⟩, rfl, underway.tasks, rfl⟩
    | abort => exact abandons phase rfl
    | _ => exact idle rfl
  | updated resolver resolvedAt =>
    rw [phase] at idle underway
    cases act with
    | computeAttribution raises =>
      simp only [Undisturbed, phase] at calm
      subst calm
      refine goesOn rfl ⟨underway.unresolved, underway.row, underway.tasks, ?_⟩
      simp [attributedWell, underway.unresolved.attributions]
    | abort => exact abandons phase rfl
    | _ => exact idle rfl
  | attributed resolver resolvedAt computed =>
    rw [phase] at idle underway
    cases act with
    | dispatch raises =>
      simp only [Undisturbed, phase] at calm
      subst calm
      refine goesOn rfl ⟨⟨underway.unresolved.status, underway.unresolved.resolutions,
        underway.unresolved.attributions, underway.unresolved.answered⟩, underway.row, ?_,
        underway.computed⟩
      have tasks := underway.tasks
      simp only [Bool.false_eq_true, if_false, tasks]
      rfl
    | abort => exact abandons phase rfl
    | _ => exact idle rfl
  | dispatched resolver resolvedAt computed =>
    rw [phase] at idle underway
    cases act with
    | commit =>
      have computed : computed = true := underway.computed
      refine .through (nobody_after others) ⟨⟨rfl, rfl⟩, rfl, ?_, ?_, underway.tasks⟩
      · simp [resolutionAct, underway.unresolved.resolutions]
      · simp [resolutionAct, computed, underway.unresolved.attributions]
    | abort =>
      simp only [Undisturbed, phase] at calm
    | _ => exact idle rfl

theorem invariant_move (w : Resolutions ι) (m : ι × ResolutionAct) (inv : Invariant w)
    (calm : Undisturbed w m) : Invariant (w.move resolutionAct m) := by
  obtain ⟨i, act⟩ := m
  refine ⟨lock_move inv.lock i act, ?_⟩
  by_cases resolving : Resolving (w.locals i)
  · exact stage_resolver inv.stage i act calm resolving
  · exact stage_bystander inv i act calm resolving

theorem safe_of_invariant (w : Resolutions ι) (inv : Invariant w) : Safe w := by
  intro rest proceeds
  have steps (w : Resolutions ι) (m : ι × ResolutionAct) (inv : Invariant w)
      (proceeds : Proceeds m.2) : Invariant (w.move resolutionAct m) := by
    refine invariant_move w m inv ?_
    obtain ⟨i, act⟩ := m
    cases act with
    | update now => trivial
    | commit => trivial
    | computeAttribution raises =>
      cases raises with
      | true => exact proceeds.elim
      | false => cases phase : w.locals i <;> simp [Undisturbed, phase]
    | dispatch raises =>
      cases raises with
      | true => exact proceeds.elim
      | false => cases phase : w.locals i <;> simp [Undisturbed, phase]
    | _ => exact proceeds.elim
  have all : Run.AllSteps (World.move resolutionAct) (fun _ m => Proceeds m.2) w rest :=
    Run.allSteps_of_forall_mem w rest proceeds
  exact firesOnce_of_stage (Run.exec_invariant_of_allSteps steps w rest inv all).stage

/-! ## A disturbed step -/

/-- A party that goes on to its end. -/
theorem after_finishing (w : Resolutions ι) (i : ι) (resolving : Resolving (w.locals i))
    (free : (w.locals i).holdsRow = true ∨ w.shared.rowLocked = false) :
    ∃ rest : List (ι × ResolutionAct), (∀ m ∈ rest, Proceeds m.2) ∧
      ∃ s, after w rest = put w i (s, .idle) ∧ Finished w.shared (w.locals i) (s, .idle) := by
  have done := finished i w.shared resolving free 0
  refine ⟨(finishing 0).map (fun a => (i, a)), ?_, (Run.exec (fun s a =>
    resolutionAct i s.1 s.2 a) (w.shared, w.locals i) (finishing 0)).1, ?_, ?_⟩
  · intro m member
    obtain ⟨a, listed, rfl⟩ := List.mem_map.mp member
    revert a
    simp [finishing, Proceeds]
  · unfold after
    rw [World.exec_party, done.ended]
  · exact ⟨rfl, done.row, done.resolutions, done.tasks, done.attributions⟩

/-- Two transactions that have both seen the incident open resolve it twice. -/
theorem unsafe_of_two (w : Resolutions ι) {i j : ι} (different : i ≠ j)
    (first : Resolving (w.locals j)) (second : Resolving (w.locals i))
    (free : (w.locals j).holdsRow = true ∨ w.shared.rowLocked = false) : ¬ Safe w := by
  intro safe
  obtain ⟨rest, proceeds, s, reached, done⟩ := after_finishing w j first free
  have still : (put w j (s, .idle)).locals i = w.locals i := Function.update_of_ne different ..
  obtain ⟨rest', proceeds', s', reached', done'⟩ := after_finishing (put w j (s, .idle)) i
    (by rw [still]; exact second) (Or.inr done.row)
  have twice := (safe (rest ++ rest') (fun m member =>
    (List.mem_append.mp member).elim (proceeds m) (proceeds' m))).once
  unfold after at reached reached' twice
  rw [Run.exec_append, reached, reached'] at twice
  have more := done'.resolutions
  have one := done.resolutions
  dsimp only at more one twice
  omega

/-- A second transaction sees the incident open. -/
theorem unsafe_of_second (stage : Stage w) {j : ι} (resolver : Resolver)
    (out : ¬ Resolving (w.locals i)) (there : Resolving (w.locals j)) :
    ¬ Safe (put w i (w.shared, .seenOpen resolver false)) := by
  have different : i ≠ j := by
    rintro rfl
    exact out there
  have theirs : (put w i (w.shared, .seenOpen resolver false)).locals j = w.locals j :=
    Function.update_of_ne different.symm ..
  have mine : (put w i (w.shared, .seenOpen resolver false)).locals i = .seenOpen resolver false :=
    Function.update_self ..
  refine unsafe_of_two _ different ?_ ?_ ?_
  · rw [theirs]
    exact there
  · rw [mine]
    rfl
  · rw [theirs]
    have row := (stage.alone there).2.row
    cases held : (w.locals j).holdsRow with
    | true => exact .inl rfl
    | false => exact .inr (row.trans held)

/-- A resolution commits without its attribution or without its task. -/
theorem unsafe_of_lost (others : ∀ j, j ≠ i → ¬ Resolving (w.locals j)) {s : ResolutionStore}
    {phase : ResolutionPhase} (resolving : Resolving phase) (row : phase.holdsRow = true)
    (unresolved : s.resolutions = [])
    (lost : sent phase = 1 ∧ s.tasks = 0 ∨ attributedWell phase = false ∧ s.attributions = 0) :
    ¬ Safe (put w i (s, phase)) := by
  intro safe
  have mine : (put w i (s, phase)).locals i = phase := Function.update_self ..
  obtain ⟨rest, proceeds, s', reached, done⟩ := after_finishing (put w i (s, phase)) i
    (by rw [mine]; exact resolving) (Or.inl (by rw [mine]; exact row))
  rw [mine] at done
  have fires := safe rest proceeds
  rw [reached] at fires
  have nobody := nobody_after (w := put w i (s, phase)) (s := s') (i := i) (fun j other => by
    rw [resolving_put, if_neg other]
    exact others j other)
  obtain ⟨attributions, tasks⟩ := fires.settled nobody
  have one := done.resolutions
  dsimp only at attributions tasks one
  rw [unresolved] at one
  rcases lost with ⟨unsent, none⟩ | ⟨unattributed, none⟩
  · have kept := done.tasks unsent
    dsimp only at kept
    rw [tasks, one, none] at kept
    cases kept
  · have kept := done.attributions unattributed
    dsimp only at kept
    rw [attributions, one, none] at kept
    cases kept

theorem unsafe_of_disturbed (w : Resolutions ι) (m : ι × ResolutionAct) (inv : Invariant w)
    (disturbed : ¬ Undisturbed w m) : ¬ Safe (w.move resolutionAct m) := by
  obtain ⟨i, act⟩ := m
  cases act with
  | readOpen =>
    cases phase : w.locals i with
    | locked =>
      simp only [Undisturbed, phase, Classical.not_imp, not_forall, not_not] at disturbed
      obtain ⟨opened, j, patch⟩ := disturbed
      have result : w.move resolutionAct (i, .readOpen) =
          put w i (w.shared, .seenOpen .recovery false) := by
        simp only [World.move, put, phase, resolutionAct, if_pos opened]
      have there : Resolving (w.locals j) := by
        unfold Resolving
        rw [patch]
        rfl
      rw [result]
      refine unsafe_of_second inv.stage .recovery ?_ there
      rw [phase]
      decide
    | _ => simp [Undisturbed, phase] at disturbed
  | readIncident =>
    cases phase : w.locals i with
    | idle =>
      simp only [Undisturbed, phase, Classical.not_imp, not_forall, not_not] at disturbed
      obtain ⟨unresolved, j, there⟩ := disturbed
      have result : w.move resolutionAct (i, .readIncident) =
          put w i (w.shared, .seenOpen .patch false) := by
        simp only [World.move, put, phase, resolutionAct, if_neg unresolved]
      rw [result]
      refine unsafe_of_second inv.stage .patch ?_ there
      rw [phase]
      decide
    | _ => simp [Undisturbed, phase] at disturbed
  | computeAttribution raises =>
    cases phase : w.locals i with
    | updated resolver resolvedAt =>
      simp only [Undisturbed, phase, Bool.not_eq_false] at disturbed
      subst disturbed
      obtain ⟨others, underway⟩ := inv.stage.alone (i := i) (by rw [phase]; rfl)
      have result : w.move resolutionAct (i, .computeAttribution true) =
          put w i (w.shared, .attributed resolver resolvedAt false) := by
        simp [World.move, put, phase, resolutionAct]
      rw [result]
      exact unsafe_of_lost others rfl rfl underway.unresolved.resolutions
        (.inr ⟨rfl, underway.unresolved.attributions⟩)
    | _ => simp [Undisturbed, phase] at disturbed
  | dispatch raises =>
    cases phase : w.locals i with
    | attributed resolver resolvedAt computed =>
      simp only [Undisturbed, phase, Bool.not_eq_false] at disturbed
      subst disturbed
      obtain ⟨others, underway⟩ := inv.stage.alone (i := i) (by rw [phase]; rfl)
      have result : w.move resolutionAct (i, .dispatch true) =
          put w i (w.shared, .dispatched resolver resolvedAt computed) := by
        simp [World.move, put, phase, resolutionAct]
      have tasks := underway.tasks
      rw [phase] at tasks
      rw [result]
      exact unsafe_of_lost others rfl rfl underway.unresolved.resolutions (.inl ⟨rfl, tasks⟩)
    | _ => simp [Undisturbed, phase] at disturbed
  | abort =>
    cases phase : w.locals i with
    | dispatched resolver resolvedAt computed =>
      obtain ⟨others, underway⟩ := inv.stage.alone (i := i) (by rw [phase]; rfl)
      have result : w.move resolutionAct (i, .abort) =
          put w i (w.shared.release (w.locals i), .idle) := rfl
      have tasks := underway.tasks
      rw [phase] at tasks
      rw [result]
      intro safe
      -- the task is on its way, and nothing was resolved
      have fires := safe [] (fun _ member => absurd member List.not_mem_nil)
      have settled := (fires.settled (nobody_after others)).2
      have resolutions := underway.unresolved.resolutions
      simp only [after, Run.exec_nil, put, ResolutionStore.release, tasks, resolutions] at settled
      cases settled
    | _ => simp [Undisturbed, phase] at disturbed
  | _ => exact absurd trivial disturbed

end Moves

/-! ## Every interleaving -/

/-- The incident is open, and nobody resolves it so far. -/
def openedOnly (incident : Api.Incident) : Resolutions ι :=
  ⟨⟨incident, false, false, [], 0, 0, 0⟩, fun _ => .idle⟩

/-- Over any interleaving of recoveries and PATCH requests that resolve an open
incident, with failures at any point, the resolution fires once exactly when every
step is undisturbed. -/
theorem resolution_fires_once_iff [DecidableEq ι] (incident : Api.Incident)
    (open_ : incident.status = .opened) (run : List (ι × ResolutionAct)) :
    (∀ before rest, run = before ++ rest → Safe (after (openedOnly incident) before)) ↔
      Run.AllSteps (World.move resolutionAct) Undisturbed (openedOnly incident) run := by
  have initial : Invariant (openedOnly (ι := ι) incident) := by
    refine ⟨⟨?_, ?_⟩, .waiting ?_ ⟨open_, rfl, rfl, rfl⟩ rfl rfl⟩
    · intro i held
      cases held
    · intro i j held
      cases held
    · intro i resolving
      cases resolving
  exact Run.forall_states_iff_allSteps safe_of_invariant invariant_move unsafe_of_disturbed
    (openedOnly incident) run initial

/-! ## Two PATCH requests -/

def oneIncident : Api.Incident := openIncident 1 7 "down" 3 0

theorem resolution_fires_once_iff_sample :
    (∀ before rest, [(true, ResolutionAct.readIncident)] = before ++ rest →
        Safe (after (openedOnly oneIncident) before)) ↔
      Run.AllSteps (World.move resolutionAct) Undisturbed (openedOnly oneIncident)
        [(true, ResolutionAct.readIncident)] :=
  resolution_fires_once_iff oneIncident rfl [(true, .readIncident)]

/-- Two requests have both read the incident before the first one commits. -/
def patchedTwice : List (Bool × ResolutionAct) :=
  [(true, .readIncident), (false, .readIncident)] ++ (finishing 10).map (fun a => (true, a)) ++
    (finishing 20).map (fun a => (false, a))

/-- The commit fails after the dispatch. -/
def rolledBack : List (Bool × ResolutionAct) :=
  (true, .readIncident) :: ((finishing 10).take 3).map (fun a => (true, a)) ++ [(true, .abort)]

theorem resolved_twice :
    ¬ FiresOnce (after (openedOnly oneIncident) patchedTwice) ∧
      ¬ FiresOnce (after (openedOnly oneIncident) rolledBack) := by
  constructor
  · intro fires
    have twice := fires.once
    revert twice
    decide
  · intro fires
    have settled := fires.settled (by decide)
    revert settled
    decide

end Reliastra.Guarantees.ResolutionOnce
