import Reliastra.Source.Checks.Quorum

/-!
# When does an incident recover?

The rule is two regions with two successes in a row each. A successful check looks
for a success of another region among the newest four rows of the window, whatever
regions these are of and whatever came before. It resolves too early when that other
region, or its own, has just failed or has a single result, and too late when the
other region's successes are older than four rows.
-/

namespace Reliastra.Guarantees.RecoveryQuorum

open Reliastra.Library Reliastra.Source Reliastra.Source.Checks

/-! ## A successful check -/

/-- A check that succeeds while an incident is open, after any history of results and
with no other check under way; `recent` is the answer of its quorum read. -/
structure RecoveryCheck where
  dep : Dependency
  region : String
  db : CheckDatabase Unit
  recordedAt : Instant
  readAt : Instant
  resolvedAt : Instant
  recent : List CheckResult
  incident : Incident
  listed : dep.isDeleted = false
  active : dep.isActive = true
  fits : FitsText 50 region
  unlocked : db.lockHolder = none
  unwritten : db.indexWriter = none
  answer : RecentForDependency dep
    (db.results ++ [(Probe.mk region .up).result dep recordedAt])
    (readAt - secondsToMicros quorumWindowSeconds) recent
  isOpen : incident ∈ db.openIncidents dep.id

def RecoveryCheck.result (c : RecoveryCheck) : CheckResult :=
  (Probe.mk c.region .up).result c.dep c.recordedAt

/-- What `execute_check` leaves in the database. -/
def RecoveryCheck.after (c : RecoveryCheck) : CheckDatabase Unit :=
  (Run.exec (fun s action => executeCheck c.dep (fun _ => ⟨c.region, .up⟩) () s.1 s.2 action)
    (c.db, .probing)
    [.record c.recordedAt, .lock, .readQuorum c.readAt c.recent,
      .readOpenIncident (some c.incident) c.resolvedAt, .commit]).1

def Resolves (c : RecoveryCheck) : Prop :=
  ∃ row ∈ c.after.incidents.rows, row.id = c.incident.id ∧ row.status = .resolved

/-- The latest results of a region in the window. -/
def latest (recent : List CheckResult) (region : String) : List CheckResult :=
  (recent.filter (fun r => r.region = region)).take consecutiveRecoveryChecks

/-- So many results in a row, all up. -/
def Recovered (recent : List CheckResult) (region : String) : Prop :=
  (latest recent region).length = consecutiveRecoveryChecks ∧
    ∀ r ∈ latest recent region, r.isUp = true

instance (recent : List CheckResult) : DecidablePred (Recovered recent) :=
  fun _ => inferInstanceAs (Decidable (_ ∧ _))

def recoveredRegions (recent : List CheckResult) : Finset String :=
  (recent.map (·.region)).toFinset.filter (Recovered recent)

/-- The rule. -/
def QuorumRecovered (c : RecoveryCheck) : Prop :=
  quorumMinRegions ≤ (recoveredRegions c.recent).card

/-! ## What the check looks at -/

/-- One of the newest rows is a success of another region. -/
def OtherRegionUp (c : RecoveryCheck) : Prop :=
  ∃ r ∈ c.recent.take (consecutiveRecoveryChecks * 2), r.isUp = true ∧ r.region ≠ c.region

instance (c : RecoveryCheck) : Decidable (OtherRegionUp c) :=
  inferInstanceAs (Decidable (∃ r ∈ c.recent.take (consecutiveRecoveryChecks * 2), _))

/-- Another region is up among the newest rows, without a quorum of regions with
their latest results up. -/
def TooEarly (c : RecoveryCheck) : Prop :=
  OtherRegionUp c ∧ (recoveredRegions c.recent).card < quorumMinRegions

/-- A quorum of regions has recovered, and the newest rows are failures or of the
checking region. -/
def TooLate (c : RecoveryCheck) : Prop :=
  (∀ r ∈ c.recent.take (consecutiveRecoveryChecks * 2), r.isUp = true → r.region = c.region) ∧
    quorumMinRegions ≤ (recoveredRegions c.recent).card

theorem succeedingRegions_iff (c : RecoveryCheck) :
    quorumMinRegions ≤ (succeedingRegions c.region c.recent).card ↔ OtherRegionUp c := by
  have several : quorumMinRegions ≤ (succeedingRegions c.region c.recent).card ↔
      ∃ a ∈ succeedingRegions c.region c.recent, ∃ b ∈ succeedingRegions c.region c.recent, a ≠ b :=
    Finset.one_lt_card
  have succeeds (region : String) : region ∈ succeedingRegions c.region c.recent ↔
      region = c.region ∨ ∃ r ∈ c.recent.take (consecutiveRecoveryChecks * 2),
        r.isUp = true ∧ r.region = region := by
    simp [succeedingRegions, and_assoc]
  rw [several]
  constructor
  · intro ⟨a, first, b, second, different⟩
    rcases (succeeds a).mp first with rfl | ⟨r, newest, up, rfl⟩
    · rcases (succeeds b).mp second with rfl | ⟨r, newest, up, rfl⟩
      · exact absurd rfl different
      · exact ⟨r, newest, up, different.symm⟩
    · by_cases own : r.region = c.region
      · rcases (succeeds b).mp second with rfl | ⟨r', newest', up', rfl⟩
        · exact absurd own different
        · exact ⟨r', newest', up', fun same => different (own.trans same.symm)⟩
      · exact ⟨r, newest, up, own⟩
  · intro ⟨r, newest, up, other⟩
    exact ⟨c.region, (succeeds _).mpr (.inl rfl), r.region,
      (succeeds _).mpr (.inr ⟨r, newest, up, rfl⟩), other.symm⟩

/-! ## The outcome of the check -/

/-- The check comes to its write. -/
theorem before_commit (c : RecoveryCheck) :
    ∃ db, db.incidents = c.db.incidents ∧
      Run.exec (fun s action => executeCheck c.dep (fun _ => ⟨c.region, .up⟩) () s.1 s.2 action)
        (c.db, .probing)
        [.record c.recordedAt, .lock, .readQuorum c.readAt c.recent,
          .readOpenIncident (some c.incident) c.resolvedAt] =
      (db, .ready c.result (some c.readAt)
        (if OtherRegionUp c then .resolve c.incident.id c.resolvedAt else .unchanged)) := by
  have runs : ¬ (c.dep.isDeleted = true ∨ ¬ c.dep.isActive = true) := by
    simp [c.listed, c.active]
  have fits : c.result.Fits := ⟨c.fits, nofun⟩
  have recorded : executeCheck c.dep (fun _ => ⟨c.region, .up⟩) () c.db .probing
      (.record c.recordedAt) = (c.db, .recorded c.result) := by
    simp only [executeCheck, if_neg runs]
    exact if_neg (not_not.mpr fits)
  have locked : executeCheck c.dep (fun _ => ⟨c.region, .up⟩) () c.db (.recorded c.result) .lock =
      ({ c.db with lockHolder := some () }, .locked c.result) := by
    simp only [executeCheck, c.unlocked]
  have read : executeCheck c.dep (fun _ => ⟨c.region, .up⟩) ()
      { c.db with lockHolder := some () } (.locked c.result) (.readQuorum c.readAt c.recent) =
      ({ c.db with lockHolder := some () }, .recovering c.result c.readAt c.recent) := by
    simp only [executeCheck]
    exact (if_neg (not_not.mpr c.answer)).trans (if_pos rfl)
  simp only [Run.exec_cons, Run.exec_nil, recorded, locked, read]
  by_cases other : OtherRegionUp c
  · have quorum : ¬ (succeedingRegions c.result.region c.recent).card < quorumMinRegions :=
      not_lt.mpr ((succeedingRegions_iff c).mpr other)
    refine ⟨{ c.db with lockHolder := some (), indexWriter := some () }, rfl, ?_⟩
    simp only [executeCheck, if_neg quorum, c.unwritten, ne_eq, not_true_eq_false, if_false,
      if_pos other]
    exact if_neg (not_not.mpr c.isOpen)
  · have few : (succeedingRegions c.result.region c.recent).card < quorumMinRegions :=
      not_le.mp (fun quorum => other ((succeedingRegions_iff c).mp quorum))
    refine ⟨{ c.db with lockHolder := some () }, rfl, ?_⟩
    simp only [executeCheck, if_pos few, if_neg other]
    exact if_neg (not_not.mpr c.isOpen)

theorem after_incidents (c : RecoveryCheck) :
    c.after.incidents = if OtherRegionUp c then
      c.db.incidents.updateKey c.incident.id
        (fun incident => { incident with status := .resolved, resolvedAt := some c.resolvedAt })
        (fun _ => rfl)
      else c.db.incidents := by
  obtain ⟨db, same, ready⟩ := before_commit c
  have committed : c.after.incidents = ((db.publish c.result
      (if OtherRegionUp c then .resolve c.incident.id c.resolvedAt else .unchanged)).release
        ()).incidents := by
    unfold RecoveryCheck.after
    rw [show [CheckAction.record c.recordedAt, .lock, .readQuorum c.readAt c.recent,
        .readOpenIncident (some c.incident) c.resolvedAt, .commit] =
      [.record c.recordedAt, .lock, .readQuorum c.readAt c.recent,
        .readOpenIncident (some c.incident) c.resolvedAt] ++ [.commit] from rfl, Run.exec_concat,
      ready]
    rfl
  rw [committed]
  split
  · simp only [CheckDatabase.release, CheckDatabase.publish, same]
  · simp only [CheckDatabase.release, CheckDatabase.publish, same]

theorem resolves_iff (c : RecoveryCheck) : Resolves c ↔ OtherRegionUp c := by
  obtain ⟨stored, opened⟩ := List.mem_filter.mp c.isOpen
  have status : c.incident.status = .opened := (of_decide_eq_true opened).2
  unfold Resolves
  rw [after_incidents]
  split
  · next other =>
    exact ⟨fun _ => other, fun _ => ⟨_, (Table.mem_updateKey_iff _ stored).mpr (.inl rfl), rfl, rfl⟩⟩
  · next alone =>
    refine ⟨?_, fun other => absurd other alone⟩
    rintro ⟨row, member, same, resolved⟩
    rw [Table.eq_of_key member stored same, status] at resolved
    cases resolved

def flappingDependency : Dependency := ⟨7, 1, true, false⟩

def flappingIncident : Incident :=
  ⟨21, 1, 7, secondsToMicros 10, none, "major", .opened, "unknown", "timeout"⟩

def flappingResult (region : String) (seconds : Int) (isUp : Bool) : CheckResult :=
  ⟨7, 1, region, secondsToMicros seconds, isUp, none, false⟩

/-- Both regions failed, and each has been up once since. -/
def flapping : RecoveryCheck where
  dep := flappingDependency
  region := "us-east"
  db :=
    { results := [flappingResult "eu-west" 0 false, flappingResult "us-east" 10 false,
        flappingResult "eu-west" 20 true]
      incidents := ⟨[flappingIncident], by decide⟩
      lockHolder := none
      indexWriter := none }
  recordedAt := secondsToMicros 30
  readAt := secondsToMicros 30
  resolvedAt := secondsToMicros 30
  recent := [flappingResult "us-east" 30 true, flappingResult "eu-west" 20 true,
    flappingResult "us-east" 10 false, flappingResult "eu-west" 0 false]
  incident := flappingIncident
  listed := rfl
  active := rfl
  fits := by decide
  unlocked := rfl
  unwritten := rfl
  answer := by decide
  isOpen := by decide

end Reliastra.Guarantees.RecoveryQuorum
