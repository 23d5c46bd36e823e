import Mathlib.Data.List.Induction
import Mathlib.Data.String.Basic
import Reliastra.Guarantees.EvidenceHash
import Reliastra.Source.Evidence.Verification

/-!
# What a found verification vouches for

`verification_vouches` is about every interleaving of evidence runs, failing at any
point, and every identifier. The public answer finds an identifier exactly when the
run that drew it has committed. It then says what that run has hashed, it will say
the same after whatever follows, the page and the document of the run are in the
bucket, and a document somebody presents with the answered hash has the content of
that run, unless its canonical text and that of the run are a collision of SHA-256.

The rows say what the run computed because nothing rewrites them; the objects are
still those of the run because every run draws a key of its own, which ends the
object's name (`names_apart`).
-/

namespace Reliastra.Guarantees.EvidenceAuthenticity

open Reliastra.Library Reliastra.Library.JsonText Reliastra.Source
open Evidence.Generation Evidence.Verification
open EvidenceHash (addedKeys reserialize)

variable {φ ι : Type}

/-! ## What a run has computed -/

def basePath (lib : EvidenceLibrary φ) (p : Prepared φ) : String :=
  "evidence/" ++ lib.uuidText p.incident.orgId ++ "/" ++ lib.uuidText p.incident.id ++ "/" ++
    p.generationKey

structure Computed (lib : EvidenceLibrary φ) (p : Prepared φ) : Prop where
  content : ∃ observations attribution, p.generated.evidence =
    evidenceData lib p.incident p.dependency p.windowEnd observations attribution
  hash : p.generated.dataHash = lib.sha256Hex (canonicalBytes lib (.obj p.generated.evidence))
  checksum : p.generated.reportChecksum = lib.sha256Hex p.pdfBytes
  page : p.generated.reportFilePath = basePath lib p ++ ".pdf"
  document : p.generated.jsonEvidencePath = basePath lib p ++ ".json"
  reads : reserialize lib p.generated.jsonEvidence =
    some (canonicalBytes lib (.obj p.generated.evidence))

theorem prepare_eq {lib : EvidenceLibrary φ} {run : GenerationRun φ} {read : EvidenceDatabase φ}
    {incidentId : Uuid} {p : Prepared φ} (success : prepare lib run read incidentId = .ok p) :
    Computed lib p ∧ p.generationKey = run.generationKey ∧
      p.generated.verificationId = run.verificationId := by
  obtain ⟨incident, found, success⟩ := Api.bind_eq_ok success
  obtain ⟨dependency, known, success⟩ := Api.bind_eq_ok success
  obtain ⟨generated, made, success⟩ := Api.bind_eq_ok success
  obtain ⟨pdfBytes, rendered, success⟩ := Api.bind_eq_ok success
  have built := Except.ok.inj success
  subst built
  obtain ⟨same, refound, made⟩ := Api.bind_eq_ok made
  rw [Api.require_eq_ok] at found refound
  have incidents := Option.some.inj (found.symm.trans refound)
  subst incidents
  obtain ⟨other, reknown, made⟩ := Api.bind_eq_ok made
  rw [Api.require_eq_ok] at known reknown
  have dependencies := Option.some.inj (known.symm.trans reknown)
  subst dependencies
  extract_lets windowEnd observations attribution evidence dataHash at made
  obtain ⟨page, printed, made⟩ := Api.bind_eq_ok made
  obtain ⟨_, _, made⟩ := Api.bind_eq_ok made
  obtain ⟨_, _, made⟩ := Api.bind_eq_ok made
  have whole := Except.ok.inj made
  subst whole
  have pages := Except.ok.inj (printed.symm.trans rendered)
  subst pages
  refine ⟨⟨⟨observations, attribution, rfl⟩, rfl, rfl, rfl, rfl, ?_⟩, rfl, rfl⟩
  apply EvidenceHash.reserialize_encoded
  · exact EvidenceHash.document_distinct lib incident dependency windowEnd observations attribution
      _ _ _ _
  · rfl
  · exact EvidenceHash.evidenceData_new lib incident dependency windowEnd observations attribution

/-! ## Names of objects -/

theorem append_key_inj {front other key drawn ending : String} (length : key.length = drawn.length)
    (equal : front ++ key ++ ending = other ++ drawn ++ ending) : key = drawn := by
  have texts := congrArg String.toList equal
  simp only [String.toList_append] at texts
  have heads := List.append_cancel_right texts
  rw [← String.length_toList, ← String.length_toList] at length
  exact String.toList_inj.mp (List.append_inj' heads length).2

theorem page_ne_document (front other : String) : front ++ ".pdf" ≠ other ++ ".json" := by
  intro equal
  have texts := congrArg (fun text => text.toList.getLast?) equal
  simp [String.toList_append] at texts

/-- Runs that drew different keys write different objects. -/
structure NamesApart (p q : Prepared φ) : Prop where
  pages : p.generated.reportFilePath ≠ q.generated.reportFilePath
  documents : p.generated.jsonEvidencePath ≠ q.generated.jsonEvidencePath
  mixed : p.generated.reportFilePath ≠ q.generated.jsonEvidencePath
  swapped : p.generated.jsonEvidencePath ≠ q.generated.reportFilePath

theorem names_apart {lib : EvidenceLibrary φ} {p q : Prepared φ} (first : Computed lib p)
    (second : Computed lib q) (length : p.generationKey.length = q.generationKey.length)
    (different : p.generationKey ≠ q.generationKey) : NamesApart p q := by
  refine ⟨?_, ?_, ?_, ?_⟩
  · rw [first.page, second.page]
    intro equal
    exact different (append_key_inj length equal)
  · rw [first.document, second.document]
    intro equal
    exact different (append_key_inj length equal)
  · rw [first.page, second.document]
    exact page_ne_document _ _
  · rw [first.document, second.page]
    exact (page_ne_document _ _).symm

/-! ## What one statement does -/

theorem object_putObject_self (s : EvidenceStore) (key : String) (data : ByteArray) :
    (s.putObject key data).object key = some data := by
  simp [EvidenceStore.putObject, EvidenceStore.object]

theorem object_putObject_of_ne (s : EvidenceStore) {key other : String} (data : ByteArray)
    (different : other ≠ key) : (s.putObject key data).object other = s.object other := by
  have keys : (other == key) = false := by simpa using different
  simp [EvidenceStore.putObject, EvidenceStore.object, List.lookup_cons, keys]

/-- Everything a statement of a run can do. -/
inductive Effect (lib : EvidenceLibrary φ) (s : EvidenceStore) (phase : GenerationPhase φ) :
    GenerationAct φ → EvidenceStore × GenerationPhase φ → Prop
  | stay (act : GenerationAct φ) : Effect lib s phase act (s, phase)
  | failed (act : GenerationAct φ)
      (uncommitted : ∀ p report createdAt, phase ≠ .committed p report createdAt) :
      Effect lib s phase act (s, .failed)
  | begun {incidentId run read p} (reportId : Uuid) (now : Instant) (idle : phase = .idle)
      (made : prepare lib run read incidentId = .ok p) :
      Effect lib s phase (.begin incidentId run read reportId now)
        (s, .reported p (newReport p reportId now))
  | pageStored {p report} (ready : phase = .reported p report) :
      Effect lib s phase .uploadPage
        (s.putObject p.generated.reportFilePath p.pdfBytes, .pageStored p report)
  | documentStored {p report} (ready : phase = .pageStored p report) :
      Effect lib s phase .uploadDocument
        (s.putObject p.generated.jsonEvidencePath p.generated.jsonEvidence,
          .documentStored p report)
  | flushed {p report} (now : Instant) (ready : phase = .documentStored p report) :
      Effect lib s phase (.createSnapshot now) (s, .snapshotFlushed p report now)
  | committed {p report createdAt reports snapshots}
      (ready : phase = .snapshotFlushed p report createdAt)
      (reported : s.reports.insert report = some reports)
      (recorded : s.snapshots.insert (newSnapshot p createdAt) = some snapshots) :
      Effect lib s phase .commit
        ({ s with reports := reports, snapshots := snapshots }, .committed p report createdAt)

theorem generationAct_effect (lib : EvidenceLibrary φ) (i : ι) (s : EvidenceStore)
    (phase : GenerationPhase φ) (act : GenerationAct φ) :
    Effect lib s phase act (generationAct lib i s phase act) := by
  cases phase with
  | idle =>
    cases act with
    | begin incidentId run read reportId now =>
      unfold generationAct
      dsimp only
      split
      · next p made => exact .begun reportId now rfl made
      · exact .failed _ (by simp)
    | _ => exact .stay _
  | reported p report =>
    cases act with
    | uploadPage => exact .pageStored rfl
    | fail => exact .failed _ (by simp)
    | _ => exact .stay _
  | pageStored p report =>
    cases act with
    | uploadDocument => exact .documentStored rfl
    | fail => exact .failed _ (by simp)
    | _ => exact .stay _
  | documentStored p report =>
    cases act with
    | createSnapshot now =>
      unfold generationAct
      dsimp only
      split
      · exact .failed _ (by simp)
      · exact .flushed now rfl
    | fail => exact .failed _ (by simp)
    | _ => exact .stay _
  | snapshotFlushed p report createdAt =>
    cases act with
    | commit =>
      unfold generationAct
      dsimp only
      split
      · next reports snapshots reported recorded => exact .committed rfl reported recorded
      · exact .failed _ (by simp)
    | fail => exact .failed _ (by simp)
    | _ => exact .stay _
  | committed p report createdAt =>
    cases act with
    | _ => exact .stay _
  | failed =>
    cases act with
    | _ => exact .stay _

/-! ## What a run has stored -/

/-- The run whose page is in the bucket. -/
def pageOf : GenerationPhase φ → Option (Prepared φ)
  | .pageStored p _ => some p
  | .documentStored p _ => some p
  | .snapshotFlushed p _ _ => some p
  | .committed p _ _ => some p
  | _ => none

/-- The run whose document is in the bucket. -/
def documentOf : GenerationPhase φ → Option (Prepared φ)
  | .documentStored p _ => some p
  | .snapshotFlushed p _ _ => some p
  | .committed p _ _ => some p
  | _ => none

theorem work_of_pageOf {phase : GenerationPhase φ} {p : Prepared φ} (put : pageOf phase = some p) :
    ∃ report, phase.work = some (p, report) := by
  cases phase <;> simp_all [pageOf, GenerationPhase.work]

theorem work_of_documentOf {phase : GenerationPhase φ} {p : Prepared φ}
    (put : documentOf phase = some p) : ∃ report, phase.work = some (p, report) := by
  cases phase <;> simp_all [documentOf, GenerationPhase.work]

/-- What a run in progress can rely on. -/
structure Own (lib : EvidenceLibrary φ) (s : EvidenceStore) (phase : GenerationPhase φ) : Prop where
  work : ∀ p report, phase.work = some (p, report) →
    Computed lib p ∧ p.generationKey.length = 32 ∧ ∃ id now, report = newReport p id now
  page : ∀ p, pageOf phase = some p → s.object p.generated.reportFilePath = some p.pdfBytes
  document : ∀ p, documentOf phase = some p →
    s.object p.generated.jsonEvidencePath = some p.generated.jsonEvidence

/-- Two runs have drawn different keys. -/
def KeysApart (first second : GenerationPhase φ) : Prop :=
  ∀ p q report other, first.work = some (p, report) → second.work = some (q, other) →
    p.generationKey ≠ q.generationKey

theorem KeysApart.symm {first second : GenerationPhase φ} (apart : KeysApart first second) :
    KeysApart second first := by
  intro p q report other left right
  exact (apart q p other report right left).symm

/-- What the run of a phase needs of a new phase in its place. -/
theorem KeysApart.of_work {before phase other : GenerationPhase φ} (apart : KeysApart before other)
    (same : phase.work = before.work ∨ phase.work = none) : KeysApart phase other := by
  intro p q report another mine theirs
  rcases same with same | none
  · exact apart p q report another (same ▸ mine) theirs
  · rw [none] at mine
    cases mine

theorem Own.putObject {lib : EvidenceLibrary φ} {s : EvidenceStore} {phase : GenerationPhase φ}
    (own : Own lib s phase) (key : String) (data : ByteArray)
    (apart : ∀ p report, phase.work = some (p, report) →
      p.generated.reportFilePath ≠ key ∧ p.generated.jsonEvidencePath ≠ key) :
    Own lib (s.putObject key data) phase := by
  refine ⟨own.work, ?_, ?_⟩
  · intro p put
    obtain ⟨report, work⟩ := work_of_pageOf put
    rw [object_putObject_of_ne s data (apart p report work).1]
    exact own.page p put
  · intro p put
    obtain ⟨report, work⟩ := work_of_documentOf put
    rw [object_putObject_of_ne s data (apart p report work).2]
    exact own.document p put

theorem Own.failed (lib : EvidenceLibrary φ) (s : EvidenceStore) :
    Own lib s (.failed : GenerationPhase φ) := by
  refine ⟨?_, ?_, ?_⟩
  · intro p report work
    simp [GenerationPhase.work] at work
  · intro p put
    simp [pageOf] at put
  · intro p put
    simp [documentOf] at put

/-- The names of another run are not those of this one. -/
theorem apart_names {lib : EvidenceLibrary φ} {w : World EvidenceStore ι (GenerationPhase φ)}
    (holds : World.Holds (fun _ => True) (fun _ => Own lib) KeysApart w) {i j : ι}
    (other : j ≠ i) {p : Prepared φ} {report : Api.EvidenceReport}
    (mine : (w.locals i).work = some (p, report)) :
    ∀ q another, (w.locals j).work = some (q, another) → NamesApart q p := by
  intro q another theirs
  obtain ⟨computed, length, _⟩ := (holds.own i).work p report mine
  obtain ⟨computed', length', _⟩ := (holds.own j).work q another theirs
  apply names_apart computed' computed (length'.trans length.symm)
  exact holds.pair j i other q p another report theirs mine

/-- Every statement keeps what the runs rely on. -/
theorem generation_keeps (lib : EvidenceLibrary φ) (w : World EvidenceStore ι (GenerationPhase φ))
    (i : ι) (act : GenerationAct φ)
    (holds : World.Holds (fun _ => True) (fun _ => Own lib) KeysApart w)
    (fresh : FreshKey w (i, act)) :
    World.Keeps (fun _ => True) (fun _ => Own lib) KeysApart w i
      (generationAct lib i w.shared (w.locals i) act) := by
  have effect := generationAct_effect lib i w.shared (w.locals i) act
  have mine := holds.own i
  have theirs : ∀ j, j ≠ i → Own lib w.shared (w.locals j) := fun j _ => holds.own j
  have pairs : ∀ j, j ≠ i → KeysApart (w.locals i) (w.locals j) :=
    fun j other => holds.pair i j other.symm
  generalize generationAct lib i w.shared (w.locals i) act = result at effect ⊢
  cases effect with
  | stay => exact ⟨trivial, mine, theirs, pairs⟩
  | failed _ _ =>
    refine ⟨trivial, .failed lib _, theirs, ?_⟩
    intro j other
    exact (pairs j other).of_work (.inr rfl)
  | begun reportId now idle made =>
    next incidentId run read p =>
    obtain ⟨computed, key, _⟩ := prepare_eq made
    refine ⟨trivial, ⟨?_, ?_, ?_⟩, theirs, ?_⟩
    · intro q report work
      cases work
      exact ⟨computed, key ▸ fresh.1, reportId, now, rfl⟩
    · intro q put
      simp [pageOf] at put
    · intro q put
      simp [documentOf] at put
    · intro j other q r report another work their
      cases work
      rw [key]
      exact (fresh.2 j r another their).symm
  | pageStored ready =>
    next p report =>
    have work : (w.locals i).work = some (p, report) := by rw [ready]; rfl
    refine ⟨trivial, ⟨?_, ?_, ?_⟩, ?_, ?_⟩
    · intro q other same
      exact mine.work q other (work.trans same)
    · intro q put
      cases put
      exact object_putObject_self _ _ _
    · intro q put
      simp [documentOf] at put
    · intro j other
      apply (theirs j other).putObject
      intro q another their
      have names := apart_names holds other work q another their
      exact ⟨names.pages, names.swapped⟩
    · intro j other
      exact (pairs j other).of_work (.inl work.symm)
  | documentStored ready =>
    next p report =>
    have work : (w.locals i).work = some (p, report) := by rw [ready]; rfl
    have computed := (mine.work p report work).1
    refine ⟨trivial, ⟨?_, ?_, ?_⟩, ?_, ?_⟩
    · intro q other same
      exact mine.work q other (work.trans same)
    · intro q put
      cases put
      have different : p.generated.reportFilePath ≠ p.generated.jsonEvidencePath := by
        rw [computed.page, computed.document]
        exact page_ne_document _ _
      refine (object_putObject_of_ne w.shared _ different).trans ?_
      exact mine.page p (by rw [ready]; rfl)
    · intro q put
      cases put
      exact object_putObject_self _ _ _
    · intro j other
      apply (theirs j other).putObject
      intro q another their
      have names := apart_names holds other work q another their
      exact ⟨names.mixed, names.documents⟩
    · intro j other
      exact (pairs j other).of_work (.inl work.symm)
  | flushed now ready =>
    next p report =>
    rw [ready] at mine
    refine ⟨trivial, ⟨mine.work, mine.page, mine.document⟩, theirs, ?_⟩
    intro j other
    exact (pairs j other).of_work (.inl (by rw [ready]; rfl))
  | committed ready reported recorded =>
    rw [ready] at mine
    refine ⟨trivial, ⟨mine.work, mine.page, mine.document⟩, ?_, ?_⟩
    · intro j other
      exact ⟨(theirs j other).work, (theirs j other).page, (theirs j other).document⟩
    · intro j other
      exact (pairs j other).of_work (.inl (by rw [ready]; rfl))

/-! ## Whole runs -/

section Runs
variable [DecidableEq ι]

def start : World EvidenceStore ι (GenerationPhase φ) := ⟨.empty, fun _ => .idle⟩

def after (lib : EvidenceLibrary φ) (moves : List (ι × GenerationAct φ)) :
    World EvidenceStore ι (GenerationPhase φ) :=
  Run.exec (World.move (generationAct lib)) start moves

theorem holds_after (lib : EvidenceLibrary φ) (moves : List (ι × GenerationAct φ))
    (fresh : Run.AllSteps (World.move (generationAct lib)) FreshKey start moves) :
    World.Holds (fun _ => True) (fun _ => Own lib) KeysApart (after lib moves) := by
  apply World.Holds.exec_of_allSteps (fun _ _ => KeysApart.symm) _ start moves _ fresh
  · exact fun w i act holds fresh => generation_keeps lib w i act holds fresh
  · refine ⟨trivial, ?_, ?_⟩
    · intro i
      refine ⟨?_, ?_, ?_⟩
      · intro p report work
        simp [start, GenerationPhase.work] at work
      · intro p put
        simp [start, pageOf] at put
      · intro p put
        simp [start, documentOf] at put
    · intro i j different p q report other work
      simp [start, GenerationPhase.work] at work

/-- A run that has committed stays committed. -/
theorem committed_stays (lib : EvidenceLibrary φ) {w : World EvidenceStore ι (GenerationPhase φ)}
    (m : ι × GenerationAct φ) {j : ι} {p : Prepared φ} {report : Api.EvidenceReport}
    {createdAt : Instant} (done : w.locals j = .committed p report createdAt) :
    (w.move (generationAct lib) m).locals j = .committed p report createdAt := by
  obtain ⟨i, act⟩ := m
  by_cases same : j = i
  · subst same
    rw [World.move_locals_self, done]
    cases act <;> rfl
  · rw [World.move_locals_of_ne w act same]
    exact done

/-- The committed rows are those of the runs that have committed. -/
structure Recorded (w : World EvidenceStore ι (GenerationPhase φ)) : Prop where
  snapshots : ∀ row, row ∈ w.shared.snapshots.rows ↔
    ∃ i p report createdAt, w.locals i = .committed p report createdAt ∧
      row = newSnapshot p createdAt
  reports : ∀ row ∈ w.shared.reports.rows,
    ∃ i p createdAt, w.locals i = .committed p row createdAt

/-- A statement that leaves the rows alone and commits nothing. -/
theorem Recorded.of_rows {lib : EvidenceLibrary φ} {w : World EvidenceStore ι (GenerationPhase φ)}
    {m : ι × GenerationAct φ} (recorded : Recorded w)
    (snapshots : (w.move (generationAct lib) m).shared.snapshots = w.shared.snapshots)
    (reports : (w.move (generationAct lib) m).shared.reports = w.shared.reports)
    (none : ∀ p report createdAt,
      (w.move (generationAct lib) m).locals m.1 = .committed p report createdAt →
        w.locals m.1 = .committed p report createdAt) :
    Recorded (w.move (generationAct lib) m) := by
  refine ⟨?_, ?_⟩
  · intro row
    rw [snapshots, recorded.snapshots]
    constructor
    · rintro ⟨i, p, report, createdAt, done, same⟩
      exact ⟨i, p, report, createdAt, committed_stays lib m done, same⟩
    · rintro ⟨i, p, report, createdAt, done, same⟩
      refine ⟨i, p, report, createdAt, ?_, same⟩
      by_cases mover : i = m.1
      · subst mover
        exact none p report createdAt done
      · rw [← World.move_locals_of_ne w m.2 mover]
        exact done
  · intro row member
    rw [reports] at member
    obtain ⟨i, p, createdAt, done⟩ := recorded.reports row member
    exact ⟨i, p, createdAt, committed_stays lib m done⟩

/-- A statement commits its run, or leaves the committed rows alone and commits nothing. -/
theorem Effect.commits_or_keeps {lib : EvidenceLibrary φ} {s : EvidenceStore}
    {phase : GenerationPhase φ} {act : GenerationAct φ} {result : EvidenceStore × GenerationPhase φ}
    (effect : Effect lib s phase act result) :
    (∃ p report createdAt reports snapshots,
      s.reports.insert report = some reports ∧
      s.snapshots.insert (newSnapshot p createdAt) = some snapshots ∧
      result = ({ s with reports := reports, snapshots := snapshots },
        .committed p report createdAt)) ∨
    (result.1.snapshots = s.snapshots ∧ result.1.reports = s.reports ∧
      ∀ p report createdAt, result.2 = .committed p report createdAt →
        phase = .committed p report createdAt) := by
  cases effect with
  | stay => exact .inr ⟨rfl, rfl, fun _ _ _ same => same⟩
  | committed ready inserted added => exact .inl ⟨_, _, _, _, _, inserted, added, rfl⟩
  | _ => exact .inr ⟨rfl, rfl, by simp⟩

theorem recorded_move (lib : EvidenceLibrary φ) (w : World EvidenceStore ι (GenerationPhase φ))
    (m : ι × GenerationAct φ) (recorded : Recorded w) :
    Recorded (w.move (generationAct lib) m) := by
  obtain ⟨i, act⟩ := m
  have self : (w.move (generationAct lib) (i, act)).locals i =
      (generationAct lib i w.shared (w.locals i) act).2 := World.move_locals_self w i act
  have shared : (w.move (generationAct lib) (i, act)).shared =
      (generationAct lib i w.shared (w.locals i) act).1 := rfl
  rcases (generationAct_effect lib i w.shared (w.locals i) act).commits_or_keeps with
    committed | ⟨snapshots, reports, none⟩
  · obtain ⟨p, report, createdAt, reports, snapshots, inserted, added, result⟩ := committed
    rw [result] at self shared
    refine ⟨?_, ?_⟩
    · intro row
      rw [shared]
      dsimp only
      rw [(Table.insert_eq_some added).2, List.mem_append, List.mem_singleton, recorded.snapshots]
      constructor
      · rintro (⟨j, q, other, moment, done, same⟩ | new)
        · exact ⟨j, q, other, moment, committed_stays lib _ done, same⟩
        · exact ⟨i, p, report, createdAt, self, new⟩
      · rintro ⟨j, q, other, moment, done, same⟩
        by_cases mover : j = i
        · subst mover
          cases self.symm.trans done
          exact .inr same
        · rw [World.move_locals_of_ne w _ mover] at done
          exact .inl ⟨j, q, other, moment, done, same⟩
    · intro row member
      rw [shared] at member
      dsimp only at member
      rw [(Table.insert_eq_some inserted).2, List.mem_append, List.mem_singleton] at member
      rcases member with old | rfl
      · obtain ⟨j, q, moment, done⟩ := recorded.reports row old
        exact ⟨j, q, moment, committed_stays lib _ done⟩
      · exact ⟨i, p, createdAt, self⟩
  · apply recorded.of_rows
    · exact (congrArg _ shared).trans snapshots
    · exact (congrArg _ shared).trans reports
    · intro p report createdAt done
      exact none p report createdAt (self.symm.trans done)

theorem recorded_after (lib : EvidenceLibrary φ) (moves : List (ι × GenerationAct φ)) :
    Recorded (after lib moves) := by
  apply Run.exec_invariant (fun w m => recorded_move lib w m)
  refine ⟨?_, ?_⟩
  · intro row
    simp [start, EvidenceStore.empty]
  · intro row member
    simp [start, EvidenceStore.empty] at member

theorem committed_after (lib : EvidenceLibrary φ) {moves : List (ι × GenerationAct φ)} {i : ι}
    {p : Prepared φ} {report : Api.EvidenceReport} {createdAt : Instant}
    (done : (after lib moves).locals i = .committed p report createdAt)
    (later : List (ι × GenerationAct φ)) :
    (after lib (moves ++ later)).locals i = .committed p report createdAt := by
  have keeps : ∀ (w : World EvidenceStore ι (GenerationPhase φ)) (m : ι × GenerationAct φ),
      w.locals i = .committed p report createdAt →
        (w.move (generationAct lib) m).locals i = .committed p report createdAt :=
    fun w m done => committed_stays lib m done
  unfold after
  rw [Run.exec_append]
  exact Run.exec_invariant keeps (after lib moves) later done

/-- Run `i` began with readings from which it computed `p`. -/
def Begun (lib : EvidenceLibrary φ) (moves : List (ι × GenerationAct φ)) (i : ι)
    (p : Prepared φ) : Prop :=
  ∃ incidentId run read reportId now,
    (i, GenerationAct.begin incidentId run read reportId now) ∈ moves ∧
      prepare lib run read incidentId = .ok p

theorem begun_after (lib : EvidenceLibrary φ) (moves : List (ι × GenerationAct φ)) {i : ι}
    {p : Prepared φ} {report : Api.EvidenceReport}
    (work : ((after lib moves).locals i).work = some (p, report)) : Begun lib moves i p := by
  induction moves using List.reverseRecOn generalizing report with
  | nil => simp [after, start, GenerationPhase.work] at work
  | append_singleton before m ih =>
    have longer : ∀ {other}, ((after lib before).locals i).work = some (p, other) →
        Begun lib (before ++ [m]) i p := by
      intro other earlier
      obtain ⟨incidentId, run, read, reportId, now, member, made⟩ := ih earlier
      exact ⟨incidentId, run, read, reportId, now, List.mem_append_left _ member, made⟩
    unfold after at work
    rw [Run.exec_concat] at work
    obtain ⟨j, act⟩ := m
    by_cases mover : i = j
    · subst mover
      rw [World.move_locals_self] at work
      have effect := generationAct_effect lib i (after lib before).shared
        ((after lib before).locals i) act
      unfold after at effect longer
      generalize generationAct lib i _ _ act = result at effect work
      cases effect with
      | stay => exact longer work
      | failed => simp [GenerationPhase.work] at work
      | begun reportId now idle made =>
        cases work
        exact ⟨_, _, _, reportId, now, by simp, made⟩
      | pageStored ready => exact longer (by rw [ready]; exact work)
      | documentStored ready => exact longer (by rw [ready]; exact work)
      | flushed now ready => exact longer (by rw [ready]; exact work)
      | committed ready => exact longer (by rw [ready]; exact work)
    · rw [World.move_locals_of_ne _ act mover] at work
      exact longer work

end Runs

/-! ## What an answer is worth -/

/-- The document a file is. -/
def documentIn (lib : EvidenceLibrary φ) (file : ByteArray) : Option (Value φ) := do
  let text ← String.fromUTF8? file
  loads lib.floats text.toList

/-- Different bytes with one hash. -/
def Collision (lib : EvidenceLibrary φ) (first second : ByteArray) : Prop :=
  first ≠ second ∧ lib.sha256Hex first = lib.sha256Hex second

/-- A file whose content has the hash of a run has the content of that run. -/
def Vouches (lib : EvidenceLibrary φ) (p : Prepared φ) : Prop :=
  ∀ file document, documentIn lib file = some document →
    let content := withoutKeys addedKeys document
    lib.sha256Hex (canonicalBytes lib content) = p.generated.dataHash →
      Same content (.obj p.generated.evidence) ∨
        Collision lib (canonicalBytes lib content) (canonicalBytes lib (.obj p.generated.evidence))

/-- The page has the checksum of a run and the document leads to its hash. -/
structure FilesKept (lib : EvidenceLibrary φ) (s : EvidenceStore) (p : Prepared φ) : Prop where
  page : ∃ data, s.object p.generated.reportFilePath = some data ∧
    lib.sha256Hex data = p.generated.reportChecksum
  document : ∃ data content, s.object p.generated.jsonEvidencePath = some data ∧
    reserialize lib data = some content ∧ lib.sha256Hex content = p.generated.dataHash

theorem vouches_of_computed {lib : EvidenceLibrary φ} {p : Prepared φ} (computed : Computed lib p) :
    Vouches lib p := by
  intro file document read content hash
  have distinct : document.Distinct := by
    obtain ⟨text, _, loaded⟩ := Option.bind_eq_some_iff.mp read
    exact loads_distinct loaded
  obtain ⟨observations, attribution, evidence⟩ := computed.content
  have known : (Value.obj p.generated.evidence).Distinct := by
    rw [evidence]
    exact EvidenceHash.evidenceData_distinct lib _ _ _ observations attribution
  rw [computed.hash] at hash
  by_cases equal : canonicalBytes lib content = canonicalBytes lib (.obj p.generated.evidence)
  · left
    unfold canonicalBytes at equal
    rw [EvidenceHash.encodeDocument_inj] at equal
    exact (dumps_eq_iff (withoutKeys_distinct addedKeys distinct) known).mp equal
  · exact .inr ⟨equal, hash⟩

theorem found_iff (lib : EvidenceLibrary φ) {w : World EvidenceStore ι (GenerationPhase φ)}
    (recorded : Recorded w) (id : VerificationId) :
    (verifyEvidence lib w.shared true id = notFoundAnswer ∧
      ∀ i p report createdAt, w.locals i = .committed p report createdAt →
        p.generated.verificationId ≠ id.val) ∨
    ∃ i p report createdAt, w.locals i = .committed p report createdAt ∧
      p.generated.verificationId = id.val := by
  cases found : w.shared.snapshots.get? id.val with
  | none =>
    left
    rw [Table.get?_eq_none_iff] at found
    refine ⟨by simp [verifyEvidence, (Table.get?_eq_none_iff _ _).mpr found], ?_⟩
    intro i p report createdAt done
    exact found _ ((recorded.snapshots _).mpr ⟨i, p, report, createdAt, done, rfl⟩)
  | some row =>
    right
    obtain ⟨member, key⟩ := (Table.get?_eq_some_iff _ _ _).mp found
    obtain ⟨i, p, report, createdAt, done, rfl⟩ := (recorded.snapshots row).mp member
    exact ⟨i, p, report, createdAt, done, key⟩

theorem verify_committed {lib : EvidenceLibrary φ}
    {w : World EvidenceStore ι (GenerationPhase φ)} (recorded : Recorded w) {i : ι}
    {p : Prepared φ} {report : Api.EvidenceReport} {createdAt : Instant}
    (done : w.locals i = .committed p report createdAt) {id : VerificationId}
    (drawn : p.generated.verificationId = id.val) :
    verifyEvidence lib w.shared true id = foundAnswer lib (newSnapshot p createdAt) := by
  have member := (recorded.snapshots _).mpr ⟨i, p, report, createdAt, done, rfl⟩
  have found : w.shared.snapshots.get? id.val = some (newSnapshot p createdAt) :=
    (Table.get?_eq_some_iff _ _ _).mpr ⟨member, drawn⟩
  simp [verifyEvidence, found]

/-- After every interleaving of runs: each report that is listed has its page in the
bucket; an identifier is not found, and then no run that drew it has committed, or it
is found, for good, and vouches for the content of the run that drew it. -/
theorem verification_vouches [DecidableEq ι] (lib : EvidenceLibrary φ)
    (moves : List (ι × GenerationAct φ))
    (fresh : Run.AllSteps (World.move (generationAct lib)) FreshKey start moves)
    (id : VerificationId) :
    (∀ report ∈ (after lib moves).shared.reports.rows, ∃ data,
      (after lib moves).shared.object report.filePath = some data ∧
        lib.sha256Hex data = report.checksum ∧ data.size = report.fileSizeBytes) ∧
    ((verifyEvidence lib (after lib moves).shared true id = notFoundAnswer ∧
        ∀ i p report createdAt, (after lib moves).locals i = .committed p report createdAt →
          p.generated.verificationId ≠ id.val) ∨
      ∃ i p report createdAt,
        (after lib moves).locals i = .committed p report createdAt ∧
        p.generated.verificationId = id.val ∧ Begun lib moves i p ∧
        (∀ later, verifyEvidence lib (after lib (moves ++ later)).shared true id =
          foundAnswer lib (newSnapshot p createdAt)) ∧
        FilesKept lib (after lib moves).shared p ∧ Vouches lib p) := by
  have holds := holds_after lib moves fresh
  have recorded := recorded_after lib moves
  constructor
  · intro report member
    obtain ⟨i, p, createdAt, done⟩ := recorded.reports report member
    have work : ((after lib moves).locals i).work = some (p, report) := by rw [done]; rfl
    obtain ⟨computed, _, reportId, now, row⟩ := (holds.own i).work p report work
    have page := (holds.own i).page p (by rw [done]; rfl)
    subst row
    exact ⟨p.pdfBytes, page, computed.checksum.symm, rfl⟩
  · rcases found_iff lib recorded id with missing | found
    · exact .inl missing
    · obtain ⟨i, p, report, createdAt, done, drawn⟩ := found
      have work : ((after lib moves).locals i).work = some (p, report) := by rw [done]; rfl
      have computed := ((holds.own i).work p report work).1
      have page := (holds.own i).page p (by rw [done]; rfl)
      have document := (holds.own i).document p (by rw [done]; rfl)
      refine .inr ⟨i, p, report, createdAt, done, drawn, begun_after lib moves work, ?_, ?_,
        vouches_of_computed computed⟩
      · intro later
        exact verify_committed (recorded_after lib _) (committed_after lib done later) drawn
      · exact ⟨⟨_, page, computed.checksum.symm⟩, ⟨_, _, document, computed.reads,
          computed.hash.symm⟩⟩

/-! ## One run that commits -/

def sampleMoves : List (Unit × GenerationAct Nat) :=
  [((), .begin 1
      { EvidenceHash.sampleRun with generationKey := "0f1e2d3c4b5a69788796a5b4c3d2e1f0" }
      EvidenceHash.sampleDatabase 7 90),
    ((), .uploadPage), ((), .uploadDocument), ((), .createSnapshot 91), ((), .commit)]

def sampleId : VerificationId := ⟨"verification", by decide⟩

theorem sampleMoves_fresh :
    Run.AllSteps (World.move (generationAct EvidenceHash.sampleLibrary)) FreshKey start
      sampleMoves := by
  refine ⟨⟨by decide, ?_⟩, trivial, trivial, trivial, trivial, trivial⟩
  intro i p report work
  simp [start, GenerationPhase.work] at work

theorem sampleMoves_commit : ∃ p report createdAt,
    (after EvidenceHash.sampleLibrary sampleMoves).locals () = .committed p report createdAt ∧
      p.generated.verificationId = sampleId.val :=
  ⟨_, _, _, rfl, rfl⟩

theorem verification_vouches_sample : ∃ p createdAt,
    verifyEvidence EvidenceHash.sampleLibrary
        (after EvidenceHash.sampleLibrary sampleMoves).shared true sampleId =
      foundAnswer EvidenceHash.sampleLibrary (newSnapshot p createdAt) ∧
    Vouches EvidenceHash.sampleLibrary p := by
  obtain ⟨q, report, moment, done, drawn⟩ := sampleMoves_commit
  rcases (verification_vouches EvidenceHash.sampleLibrary sampleMoves sampleMoves_fresh sampleId).2
    with missing | found
  · exact absurd drawn (missing.2 () q report moment done)
  · obtain ⟨_, p, _, createdAt, _, _, _, answered, _, vouches⟩ := found
    have now := answered []
    rw [List.append_nil] at now
    exact ⟨p, createdAt, now, vouches⟩

end Reliastra.Guarantees.EvidenceAuthenticity
