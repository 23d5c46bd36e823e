import Reliastra.Library.Interleaving
import Reliastra.Source.Core.Basics

/-!
# The row locks of a check

Source: `execute_check` of `app/modules/checks/service.py`,
`check_and_create_incident`, `resolve_incident` and the temporal correlation of
`app/modules/incidents/service.py`, and the foreign keys of migrations 0001 and
0005. An insertion takes `FOR KEY SHARE` on every row its foreign keys name.

What a transaction reads decides how it goes on; here that is an input, so every
outcome is allowed with every other. Rows a transaction inserted itself are
visible to nobody else and are left out, as are locks of other operations.
-/

namespace Reliastra.Source.Checks.RowLocks

open Reliastra.Library

/-! ## PostgreSQL's row locks -/

inductive LockMode where
  | keyShare
  | share
  | noKeyUpdate
  | update
  deriving DecidableEq, Repr

/-- The row-lock conflict table. -/
def LockMode.conflicts : LockMode → LockMode → Bool
  | .keyShare, .update | .update, .keyShare => true
  | .share, .noKeyUpdate | .noKeyUpdate, .share => true
  | .share, .update | .update, .share => true
  | .noKeyUpdate, .noKeyUpdate => true
  | .noKeyUpdate, .update | .update, .noKeyUpdate => true
  | .update, .update => true
  | _, _ => false

inductive Row where
  | organization (id : Uuid)
  | dependency (id : Uuid)
  | incident (id : Uuid)
  deriving DecidableEq, Repr

structure Lock where
  row : Row
  mode : LockMode
  deriving DecidableEq, Repr

def Lock.Conflicts (wanted held : Lock) : Prop :=
  wanted.row = held.row ∧ wanted.mode.conflicts held.mode = true

instance (wanted held : Lock) : Decidable (wanted.Conflicts held) :=
  inferInstanceAs (Decidable (_ ∧ _))

/-! ## The locks of one transaction -/

/-- How a check goes on once its dependency is locked. -/
inductive Verdict where
  /-- Nothing is written: no quorum, or the incident is there already, or there
  is none to resolve. -/
  | unchanged
  /-- An incident is opened, and correlated with other open incidents. -/
  | opens (incidentId : Uuid) (others : List Uuid)
  /-- The open incident is resolved, `attributed` if it has an attribution. -/
  | resolves (incidentId : Uuid) (attributed : Bool)
  deriving DecidableEq, Repr

/-- One transaction of `execute_check`; a blocked target is recorded only. `home`
is the dependency of an incident, and a check resolves incidents of its own. -/
structure Check (home : Uuid → Uuid) where
  dependencyId : Uuid
  orgId : Uuid
  blocked : Bool
  verdict : Verdict
  own : ∀ incidentId attributed, verdict = .resolves incidentId attributed →
    home incidentId = dependencyId

variable {home : Uuid → Uuid}

/-- The two correlations with another incident; those of the dependency itself
are skipped. -/
def correlationLocks (home : Uuid → Uuid) (dependencyId incidentId other : Uuid) : List Lock :=
  if home other = dependencyId then []
  else
    [⟨.incident incidentId, .keyShare⟩, ⟨.dependency (home other), .keyShare⟩,
      ⟨.incident other, .keyShare⟩, ⟨.dependency dependencyId, .keyShare⟩]

def Check.verdictLocks (check : Check home) : List Lock :=
  match check.verdict with
  | .unchanged => []
  | .opens incidentId others =>
    [⟨.organization check.orgId, .keyShare⟩, ⟨.dependency check.dependencyId, .keyShare⟩] ++
      others.flatMap (correlationLocks home check.dependencyId incidentId)
  | .resolves incidentId attributed =>
    ⟨.incident incidentId, .noKeyUpdate⟩ ::
      if attributed then []
      else
        [⟨.incident incidentId, .keyShare⟩, ⟨.organization check.orgId, .keyShare⟩,
          ⟨.dependency check.dependencyId, .keyShare⟩]

/-- `FOR UPDATE` on the dependency. -/
def Check.dependencyLock (check : Check home) : Lock := ⟨.dependency check.dependencyId, .update⟩

/-- The locks in the order they are asked for. -/
def Check.locks (check : Check home) : List Lock :=
  [⟨.dependency check.dependencyId, .keyShare⟩, ⟨.organization check.orgId, .keyShare⟩] ++
    if check.blocked then [] else check.dependencyLock :: check.verdictLocks

/-! ## Transactions side by side -/

/-- How far a transaction is. -/
structure Progress where
  granted : Nat
  waiting : Bool
  ended : Bool
  deriving DecidableEq, Repr

def Progress.initial : Progress := ⟨0, false, false⟩

def Check.held (check : Check home) (progress : Progress) : List Lock :=
  if progress.ended then [] else check.locks.take progress.granted

/-- The lock that comes next. -/
def Check.next (check : Check home) (progress : Progress) : Option Lock :=
  if progress.ended then none else check.locks[progress.granted]?

inductive LockAction where
  /-- Ask for the next lock, or wake up to ask for it again. -/
  | request
  /-- Commit or roll back. -/
  | finish
  deriving DecidableEq, Repr

variable {ι : Type}

/-- The granted locks, each with the transaction that holds it. -/
abbrev LockTable (ι : Type) := List (ι × Lock)

/-- Another transaction holds a lock that conflicts with this one. -/
def LockTable.Blocks (table : LockTable ι) (t : ι) (wanted : Lock) : Prop :=
  ∃ entry ∈ table, entry.1 ≠ t ∧ wanted.Conflicts entry.2

variable [DecidableEq ι]

instance (table : LockTable ι) (t : ι) (wanted : Lock) : Decidable (table.Blocks t wanted) :=
  inferInstanceAs (Decidable (∃ entry ∈ table, entry.1 ≠ t ∧ wanted.Conflicts entry.2))

/-- One step of the transaction `t`. -/
def lockAct (checks : ι → Check home) (t : ι) (table : LockTable ι) (progress : Progress)
    (action : LockAction) : LockTable ι × Progress :=
  match action with
  | .finish => (table.filter (fun entry => entry.1 ≠ t), ⟨progress.granted, false, true⟩)
  | .request =>
    match (checks t).next progress with
    | none => (table, progress)
    | some wanted =>
      if table.Blocks t wanted then (table, ⟨progress.granted, true, progress.ended⟩)
      else ((t, wanted) :: table, ⟨progress.granted + 1, false, progress.ended⟩)

abbrev Transactions (ι : Type) := World (LockTable ι) ι Progress

def allAtStart : Transactions ι := ⟨[], fun _ => Progress.initial⟩

/-- `p` waits for a lock that `q` is in the way of. -/
def WaitsFor (checks : ι → Check home) (w : Transactions ι) (p q : ι) : Prop :=
  (w.locals p).waiting = true ∧ ∃ wanted ∈ (checks p).next (w.locals p),
    ∃ entry ∈ w.shared, entry.1 = q ∧ q ≠ p ∧ wanted.Conflicts entry.2

/-! ## Which lock is held, and which comes next -/

/-- After the dependency is locked, only shared locks follow, and the one on the
incident that is resolved. -/
theorem Check.verdictLocks_cases {check : Check home} {lock : Lock}
    (member : lock ∈ check.verdictLocks) :
    lock.mode = .keyShare ∨
      ∃ incidentId, lock = ⟨.incident incidentId, .noKeyUpdate⟩ ∧
        home incidentId = check.dependencyId := by
  unfold verdictLocks at member
  cases decided : check.verdict with
  | unchanged => simp [decided] at member
  | opens incidentId others =>
    left
    simp only [decided, List.mem_append, List.mem_cons, List.not_mem_nil, or_false,
      List.mem_flatMap] at member
    rcases member with (rfl | rfl) | ⟨other, _, correlated⟩
    · rfl
    · rfl
    · unfold correlationLocks at correlated
      split at correlated
      · exact absurd correlated List.not_mem_nil
      · simp only [List.mem_cons, List.not_mem_nil, or_false] at correlated
        rcases correlated with rfl | rfl | rfl | rfl <;> rfl
  | resolves incidentId attributed =>
    simp only [decided, List.mem_cons] at member
    rcases member with rfl | shared
    · exact .inr ⟨incidentId, rfl, check.own incidentId attributed decided⟩
    · left
      split at shared
      · exact absurd shared List.not_mem_nil
      · simp only [List.mem_cons, List.not_mem_nil, or_false] at shared
        rcases shared with rfl | rfl | rfl <;> rfl

/-- The stages a transaction asks for its locks in. -/
theorem Check.next_cases {check : Check home} {progress : Progress} {lock : Lock}
    (wanted : check.next progress = some lock) :
    progress.ended = false ∧
      (progress.granted = 0 ∧ lock = ⟨.dependency check.dependencyId, .keyShare⟩ ∨
        progress.granted = 1 ∧ lock = ⟨.organization check.orgId, .keyShare⟩ ∨
        progress.granted = 2 ∧ lock = check.dependencyLock ∨
        3 ≤ progress.granted ∧ check.blocked = false ∧ lock ∈ check.verdictLocks) := by
  unfold next at wanted
  split at wanted
  · cases wanted
  · next running =>
    refine ⟨by simpa using running, ?_⟩
    unfold locks at wanted
    match position : progress.granted with
    | 0 =>
      rw [position] at wanted
      exact .inl ⟨rfl, (Option.some.inj wanted).symm⟩
    | 1 =>
      rw [position] at wanted
      exact .inr (.inl ⟨rfl, (Option.some.inj wanted).symm⟩)
    | n + 2 =>
      rw [position] at wanted
      cases refused : check.blocked with
      | true => simp [refused] at wanted
      | false =>
        simp only [refused, Bool.false_eq_true, if_false, List.cons_append, List.nil_append,
          List.getElem?_cons_succ] at wanted
        match n with
        | 0 => exact .inr (.inr (.inl ⟨rfl, (Option.some.inj wanted).symm⟩))
        | n + 1 =>
          rw [List.getElem?_cons_succ] at wanted
          exact .inr (.inr (.inr ⟨by omega, rfl, List.mem_of_getElem? wanted⟩))

theorem Check.held_early {check : Check home} {progress : Progress} {lock : Lock}
    (member : lock ∈ check.held progress) (early : progress.granted ≤ 2) :
    0 < progress.granted ∧
      (lock = ⟨.dependency check.dependencyId, .keyShare⟩ ∨
        lock = ⟨.organization check.orgId, .keyShare⟩) := by
  unfold held at member
  split at member
  · exact absurd member List.not_mem_nil
  · unfold locks at member
    match position : progress.granted, early with
    | 0, _ => simp [position] at member
    | 1, _ =>
      rw [position] at member
      exact ⟨by decide, .inl (List.mem_singleton.mp member)⟩
    | 2, _ =>
      rw [position] at member
      simp only [List.cons_append, List.nil_append, List.take_succ_cons, List.take_zero,
        List.mem_cons, List.not_mem_nil, or_false] at member
      exact ⟨by decide, member⟩

/-- Beyond its third lock a transaction holds its dependency `FOR UPDATE`. -/
theorem Check.holds_dependency {check : Check home} {progress : Progress}
    (running : progress.ended = false) (probed : check.blocked = false)
    (late : 3 ≤ progress.granted) : check.dependencyLock ∈ check.held progress := by
  obtain ⟨n, position⟩ := Nat.exists_eq_add_of_le late
  unfold held locks
  rw [running, probed, position, Nat.add_comm]
  simp

/-- Exclusive locks are held by transactions that hold their dependency. -/
theorem Check.held_cases {check : Check home} {progress : Progress} {lock : Lock}
    (member : lock ∈ check.held progress) :
    lock.mode = .keyShare ∨
      3 ≤ progress.granted ∧ check.dependencyLock ∈ check.held progress ∧
        (lock = check.dependencyLock ∨
          ∃ incidentId, lock = ⟨.incident incidentId, .noKeyUpdate⟩ ∧
            home incidentId = check.dependencyId) := by
  by_cases early : progress.granted ≤ 2
  · rcases (held_early member early).2 with rfl | rfl <;> exact .inl rfl
  · have late : 3 ≤ progress.granted := by omega
    have running : progress.ended = false := by
      by_contra ended
      simp [held, ended] at member
    have listed : lock ∈ check.locks := by
      simp only [held, running, Bool.false_eq_true, if_false] at member
      exact List.mem_of_mem_take member
    unfold locks at listed
    simp only [List.mem_append, List.mem_cons, List.not_mem_nil, or_false] at listed
    rcases listed with (rfl | rfl) | listed
    · exact .inl rfl
    · exact .inl rfl
    · cases probed : check.blocked with
      | true => simp [probed] at listed
      | false =>
        have locked := holds_dependency running probed late
        simp only [probed, Bool.false_eq_true, if_false, List.mem_cons] at listed
        rcases listed with own | listed
        · exact .inr ⟨late, locked, .inl own⟩
        · rcases verdictLocks_cases listed with shared | incident
          · exact .inl shared
          · exact .inr ⟨late, locked, .inr incident⟩

/-- A granted lock is added to those held. -/
theorem Check.held_granted {check : Check home} {progress : Progress} {lock : Lock}
    (wanted : check.next progress = some lock) (held : Lock) :
    held ∈ check.held ⟨progress.granted + 1, false, progress.ended⟩ ↔
      held = lock ∨ held ∈ check.held progress := by
  unfold next at wanted
  split at wanted
  · cases wanted
  · next running =>
    unfold Check.held
    simp only [running, Bool.false_eq_true, if_false, List.take_add_one, wanted,
      Option.toList_some, List.mem_append, List.mem_singleton]
    exact or_comm

end Reliastra.Source.Checks.RowLocks
