import Reliastra.Source.Vendors.Submissions

/-!
# Is every vendor submission answered?

`submit_vendor` looks for a pending submission of the name and inserts one
otherwise; the name is unique over submissions in any state, and the lead capture
goes into a relation that no migration makes. `lifecycle_iff` says which
submissions end in a database error: of a name that has been submitted before and
is neither tracked nor pending, of a text that a column does not take, and every
new one while the relation is missing. That one submission of a name is pending at
most needs none of that.
-/

namespace Reliastra.Guarantees.SubmissionLifecycle

open Reliastra.Library Source Source.Api Source.Vendors

/-! ## The property -/

def Pending (row : VendorSubmission) : Prop := row.status = "pending_review"

instance (row : VendorSubmission) : Decidable (Pending row) :=
  inferInstanceAs (Decidable (row.status = "pending_review"))

def PendingName (s : Platform) (name : String) : Prop :=
  ∃ row ∈ s.community.submissions.rows, row.vendorName = name ∧ Pending row

instance (s : Platform) (name : String) : Decidable (PendingName s name) :=
  inferInstanceAs (Decidable (∃ row ∈ s.community.submissions.rows,
    row.vendorName = name ∧ Pending row))

/-- At most one submission of a name is pending. -/
def OnePending (s : Platform) : Prop :=
  ∀ row ∈ s.community.submissions.rows, ∀ other ∈ s.community.submissions.rows,
    Pending row → Pending other → row.vendorName = other.vendorName → row = other

/-- The checks a new submission makes of its addresses. -/
def UrlsAccepted (env : ServiceEnvironment) (request : VendorSubmitRequest) : Prop :=
  validateUrls env request = .ok ()

/-- The answer to a submission of a sanitized name. -/
structure Answered (db : SubmissionDatabase) (s : Platform) (env : ServiceEnvironment)
    (request : VendorSubmitRequest) (name : String) : Prop where
  noDatabaseError : ∀ reason, submitVendor db env request s ≠ .error (.flush reason)
  tracked : name ≠ "" → Tracked s name → ∃ response,
    submitVendor db env request s = .ok (response, s) ∧ response.status = "already_exists"
  pending : name ≠ "" → ¬ Tracked s name → ∀ row ∈ s.community.submissions.rows,
    row.vendorName = name → Pending row → ∃ response,
      submitVendor db env request s = .ok (response, s) ∧
        response.status = "pending_review" ∧ response.id = row.id
  fresh : name ≠ "" → ¬ Tracked s name → ¬ PendingName s name → UrlsAccepted env request →
    ∃ response t, submitVendor db env request s = .ok (response, t) ∧
      ∃ row ∈ t.community.submissions.rows,
        row.id = response.id ∧ row.vendorName = name ∧ Pending row

def StepAnswered (db : SubmissionDatabase) (s : Platform) : SubmissionOp → Prop
  | .submit env request =>
    Answered db s env request (sanitizeVendorName env request.vendorName)
  | .approve _ _ _ _ | .reject _ _ _ _ => True

/-- The row of a new submission can be inserted, and the lead capture after it. -/
structure Insertable (db : SubmissionDatabase) (s : Platform) (env : ServiceEnvironment)
    (request : VendorSubmitRequest) (name : String) : Prop where
  relation : db.leadCaptures = true
  unused : ∀ row ∈ s.community.submissions.rows, row.vendorName ≠ name
  fits : SubmissionFits request name ∧ EndpointsFit request
  freshId : env.newId 0 ∉ s.community.submissions.rows.map (·.id)

/-- The submission needs no new row, or can have it. -/
def Answerable (db : SubmissionDatabase) (s : Platform) : SubmissionOp → Prop
  | .submit env request =>
    let name := sanitizeVendorName env request.vendorName
    name = "" ∨ Tracked s name ∨ PendingName s name ∨ ¬ UrlsAccepted env request ∨
      Insertable db s env request name
  | .approve _ _ _ _ | .reject _ _ _ _ => True

/-! ## The names stay unique -/

/-- The unique constraint on `vendor_name`. -/
def NamesUnique (s : Platform) : Prop :=
  ∀ row ∈ s.community.submissions.rows, ∀ other ∈ s.community.submissions.rows,
    row.vendorName = other.vendorName → row = other

theorem NamesUnique.onePending {s : Platform} (unique : NamesUnique s) : OnePending s :=
  fun row member other member' _ _ same => unique row member other member' same

/-- An update that leaves the names alone. -/
theorem namesUnique_updateKey {s t : Platform} {id : Uuid} {f : VendorSubmission → VendorSubmission}
    {keeps : ∀ row, (f row).id = row.id} (unique : NamesUnique s)
    (updated : t.community.submissions = s.community.submissions.updateKey id f keeps)
    (named : ∀ row, (f row).vendorName = row.vendorName) : NamesUnique t := by
  have mine : ∀ row ∈ t.community.submissions.rows, ∃ old ∈ s.community.submissions.rows,
      row = (if old.id = id then f old else old) ∧ row.vendorName = old.vendorName := by
    intro row member
    rw [updated, Table.updateKey_rows, List.mem_map] at member
    obtain ⟨old, stored, rfl⟩ := member
    refine ⟨old, stored, rfl, ?_⟩
    split
    · exact named old
    · rfl
  intro row member other member' same
  obtain ⟨old, stored, shape, name⟩ := mine row member
  obtain ⟨old', stored', shape', name'⟩ := mine other member'
  have equal : old = old' := unique old stored old' stored' (name.symm.trans (same.trans name'))
  rw [shape, shape', equal]

section Steps
variable {db : SubmissionDatabase} {env : ServiceEnvironment} {request : VendorSubmitRequest}
  {name : String} {s t : Platform}

theorem insertSubmission_ok (inserted : insertSubmission db env request name s = .ok t) :
    Insertable db s env request name ∧
      t.community.submissions.rows =
        s.community.submissions.rows ++ [newSubmission env request name] := by
  unfold insertSubmission at inserted
  obtain ⟨_, fits, inserted⟩ := bind_eq_ok inserted
  obtain ⟨_, unused, inserted⟩ := bind_eq_ok inserted
  obtain ⟨submissions, added, inserted⟩ := bind_eq_ok inserted
  obtain ⟨_, endpoints, inserted⟩ := bind_eq_ok inserted
  obtain ⟨_, relation, inserted⟩ := bind_eq_ok inserted
  cases inserted
  obtain ⟨freshId, rows⟩ := Table.insert_eq_some (flushNew_eq_ok.mp added)
  have fits := not_not.mp (refuseIf_eq_ok.mp fits)
  have endpoints := not_not.mp (refuseIf_eq_ok.mp endpoints)
  refine ⟨⟨by simpa using refuseIf_eq_ok.mp relation, fun row member same => ?_, ⟨fits, endpoints⟩,
    freshId⟩, rows⟩
  exact refuseIf_eq_ok.mp unused ⟨row, member, same⟩

theorem insertSubmission_of_insertable (insertable : Insertable db s env request name) :
    ∃ t, insertSubmission db env request name s = .ok t := by
  obtain ⟨submissions, added⟩ :=
    (Table.insert_isSome_iff s.community.submissions (newSubmission env request name)).mpr
      insertable.freshId
  have unused : ¬ ∃ row ∈ s.community.submissions.rows, row.vendorName = name := by
    intro ⟨row, member, same⟩
    exact insertable.unused row member same
  exact ⟨_, bind_eq_ok_iff.mpr ⟨(), refuseIf_eq_ok.mpr (not_not.mpr insertable.fits.1),
    bind_eq_ok_iff.mpr ⟨(), refuseIf_eq_ok.mpr unused,
      bind_eq_ok_iff.mpr ⟨submissions, flushNew_eq_ok.mpr added,
        bind_eq_ok_iff.mpr ⟨(), refuseIf_eq_ok.mpr (not_not.mpr insertable.fits.2),
          bind_eq_ok_iff.mpr ⟨(), refuseIf_eq_ok.mpr (by simp [insertable.relation]), rfl⟩⟩⟩⟩⟩⟩

/-- What keeps a row out is an error of the database. -/
theorem insertSubmission_error {failure : Failure}
    (failed : insertSubmission db env request name s = .error failure) :
    ∃ reason, failure = .flush reason := by
  rcases error_of_bind failed with misfit | ⟨_, _, failed⟩
  · exact ⟨_, refuseIf_error misfit⟩
  rcases error_of_bind failed with taken | ⟨_, _, failed⟩
  · exact ⟨_, refuseIf_error taken⟩
  rcases error_of_bind failed with duplicate | ⟨_, _, failed⟩
  · unfold flushNew at duplicate
    split at duplicate
    · cases duplicate
    · cases duplicate
      exact ⟨_, rfl⟩
  rcases error_of_bind failed with misfit | ⟨_, _, failed⟩
  · exact ⟨_, refuseIf_error misfit⟩
  rcases error_of_bind failed with missing | ⟨_, _, failed⟩
  · exact ⟨_, refuseIf_error missing⟩
  cases failed

/-- The addresses are refused by an exception of Python. -/
theorem validateUrls_error {failure : Failure} (refused : validateUrls env request = .error failure)
    (reason : String) : failure ≠ .flush reason := by
  have one {url : String} {failure : Failure} (refused : validateUrl env url = .error failure) :
      failure ≠ .flush reason := by
    unfold validateUrl at refused
    split at refused
    · cases refused
    · cases refused
      exact fun same => by cases same
  have all (endpoints : List VendorSubmitEndpoint)
      (refused : (endpoints.forM (fun endpoint => validateUrl env endpoint.url)) =
        .error failure) : failure ≠ .flush reason := by
    induction endpoints with
    | nil => cases refused
    | cons endpoint rest ih =>
      rcases error_of_bind refused with here | ⟨_, _, later⟩
      · exact one here
      · exact ih later
  rcases error_of_bind refused with website | ⟨_, _, later⟩
  · cases url : nonempty request.websiteUrl with
    | none =>
      rw [url] at website
      cases website
    | some address =>
      rw [url] at website
      exact one website
  · exact all request.endpoints later

theorem submissionByName_some (lower : Text.lower name = name) {row : VendorSubmission}
    (found : submissionByName s name = some row) :
    row ∈ s.community.submissions.rows ∧ row.vendorName = name := by
  unfold submissionByName at found
  have same := List.find?_some found
  exact ⟨List.mem_of_find?_eq_some found, (of_decide_eq_true same).trans lower⟩

/-- A name nobody tracks and nobody has pending. -/
theorem submitVendor_fresh (named : sanitizeVendorName env request.vendorName = name)
    (some : name ≠ "") (untracked : ¬ Tracked s name) (unpending : ¬ PendingName s name) :
    submitVendor db env request s = submitFresh db env request name s := by
  unfold submitVendor
  simp only [named, some, if_false, untracked]
  cases found : submissionByName s name with
  | none => rfl
  | some existing =>
    have lower : Text.lower name = name := by rw [← named, lower_sanitized]
    obtain ⟨member, same⟩ := submissionByName_some lower found
    exact if_neg (fun pending => unpending ⟨existing, member, same, pending⟩)

theorem submitVendor_pending (unique : NamesUnique s)
    (named : sanitizeVendorName env request.vendorName = name) (some : name ≠ "")
    (untracked : ¬ Tracked s name) {row : VendorSubmission}
    (member : row ∈ s.community.submissions.rows) (same : row.vendorName = name)
    (pending : Pending row) :
    submitVendor db env request s = .ok (awaitingReview row name request, s) := by
  have lower : Text.lower name = name := by rw [← named, lower_sanitized]
  have found : submissionByName s name = .some row := by
    cases found : submissionByName s name with
    | none =>
      have missing := List.find?_eq_none.mp found row member
      rw [lower, same] at missing
      exact absurd (decide_eq_true rfl) missing
    | some existing =>
      obtain ⟨member', same'⟩ := submissionByName_some lower found
      rw [unique existing member' row member (same'.trans same.symm)]
  unfold submitVendor
  simp only [named, some, if_false, untracked, found]
  exact if_pos pending

/-! ## One submission -/

theorem answered_of_answerable (unique : NamesUnique s)
    (answerable : Answerable db s (.submit env request)) :
    StepAnswered db s (.submit env request) := by
  obtain ⟨name, named⟩ : ∃ name, sanitizeVendorName env request.vendorName = name := ⟨_, rfl⟩
  unfold Answerable at answerable
  simp only [named] at answerable
  simp only [StepAnswered, named]
  have tracks (some : name ≠ "") (tracked : Tracked s name) :
      submitVendor db env request s = .ok (alreadyExists name request, s) := by
    unfold submitVendor
    simp only [named, some, if_false, tracked, if_true]
  have waits (some : name ≠ "") (untracked : ¬ Tracked s name) (row : VendorSubmission)
      (member : row ∈ s.community.submissions.rows) (same : row.vendorName = name)
      (pending : Pending row) :
      submitVendor db env request s = .ok (awaitingReview row name request, s) :=
    submitVendor_pending unique named some untracked member same pending
  have inserts (some : name ≠ "") (untracked : ¬ Tracked s name) (unpending : ¬ PendingName s name)
      (accepted : UrlsAccepted env request) :
      ∃ t, submitVendor db env request s =
        .ok (received (newSubmission env request name), t) ∧
        t.community.submissions.rows =
          s.community.submissions.rows ++ [newSubmission env request name] := by
    have insertable : Insertable db s env request name := by
      rcases answerable with empty | tracked | pending | refused | insertable
      · exact absurd empty some
      · exact absurd tracked untracked
      · exact absurd pending unpending
      · exact absurd accepted refused
      · exact insertable
    obtain ⟨t, inserted⟩ := insertSubmission_of_insertable insertable
    refine ⟨t, ?_, (insertSubmission_ok inserted).2⟩
    rw [submitVendor_fresh named some untracked unpending]
    exact bind_eq_ok_iff.mpr ⟨(), accepted, bind_eq_ok_iff.mpr ⟨t, inserted, rfl⟩⟩
  refine ⟨fun reason failed => ?_, ?_, ?_, ?_⟩
  · by_cases some : name = ""
    · unfold submitVendor at failed
      simp only [named, some, if_true] at failed
      cases failed
    by_cases tracked : Tracked s name
    · rw [tracks some tracked] at failed
      cases failed
    by_cases pending : PendingName s name
    · obtain ⟨row, member, same, pending⟩ := pending
      rw [waits some tracked row member same pending] at failed
      cases failed
    cases checked : validateUrls env request with
    | error failure =>
      rw [submitVendor_fresh named some tracked pending, submitFresh, checked] at failed
      cases failed
      exact validateUrls_error checked reason rfl
    | ok _ =>
      obtain ⟨t, answer, _⟩ := inserts some tracked pending checked
      rw [answer] at failed
      cases failed
  · exact fun some tracked => ⟨_, tracks some tracked, rfl⟩
  · exact fun some untracked row member same pending =>
      ⟨_, waits some untracked row member same pending, rfl, rfl⟩
  · intro some untracked unpending accepted
    obtain ⟨t, answer, rows⟩ := inserts some untracked unpending accepted
    refine ⟨_, t, answer, newSubmission env request name, ?_, rfl, rfl, rfl⟩
    rw [rows]
    simp

theorem not_answered (unanswerable : ¬ Answerable db s (.submit env request)) :
    ¬ StepAnswered db s (.submit env request) := by
  obtain ⟨name, named⟩ : ∃ name, sanitizeVendorName env request.vendorName = name := ⟨_, rfl⟩
  unfold Answerable at unanswerable
  simp only [named, not_or, not_not] at unanswerable
  obtain ⟨some, untracked, unpending, accepted, blocked⟩ := unanswerable
  simp only [StepAnswered, named]
  intro answered
  cases inserted : insertSubmission db env request name s with
  | ok t => exact blocked (insertSubmission_ok inserted).1
  | error failure =>
    obtain ⟨reason, rfl⟩ := insertSubmission_error inserted
    refine answered.noDatabaseError reason ?_
    rw [submitVendor_fresh named some untracked unpending, submitFresh, accepted]
    simp only [bind, Except.bind, inserted]

theorem stepAnswered_iff (unique : NamesUnique s) (op : SubmissionOp) :
    StepAnswered db s op ↔ Answerable db s op := by
  cases op with
  | submit env request =>
    exact ⟨fun answered => by_contra fun blocked => not_answered blocked answered,
      answered_of_answerable unique⟩
  | approve | reject => exact Iff.rfl

/-! ## Every run -/

theorem namesUnique_submit {response : VendorSubmitResponse} (unique : NamesUnique s)
    (submitted : submitVendor db env request s = .ok (response, t)) : NamesUnique t := by
  have fresh {name : String} (submitted : submitFresh db env request name s = .ok (response, t)) :
      NamesUnique t := by
    obtain ⟨_, _, submitted⟩ := bind_eq_ok submitted
    obtain ⟨after, inserted, submitted⟩ := bind_eq_ok submitted
    cases submitted
    obtain ⟨insertable, rows⟩ := insertSubmission_ok inserted
    intro row member other member' same
    rw [rows, List.mem_append, List.mem_singleton] at member member'
    rcases member with old | rfl <;> rcases member' with old' | rfl
    · exact unique row old other old' same
    · exact absurd same (insertable.unused row old)
    · exact absurd same.symm (insertable.unused other old')
    · rfl
  unfold submitVendor at submitted
  dsimp only at submitted
  split at submitted
  · cases submitted
  split at submitted
  · cases submitted
    exact unique
  split at submitted
  · split at submitted
    · cases submitted
      exact unique
    · exact fresh submitted
  · exact fresh submitted

theorem reviewSubmission_ok {submission : VendorSubmission} {status : String} {reviewedBy : Uuid}
    {note : Option String} {submissions : Table VendorSubmission.id}
    (reviewed : reviewSubmission env s submission status reviewedBy note = .ok submissions)
    (unique : NamesUnique s) (after : t.community.submissions = submissions) : NamesUnique t := by
  obtain ⟨_, _, reviewed⟩ := bind_eq_ok reviewed
  cases reviewed
  exact namesUnique_updateKey unique after (fun _ => rfl)

theorem namesUnique_step (unique : NamesUnique s) (op : SubmissionOp) :
    NamesUnique (submissionStep db s op) := by
  cases op with
  | submit env request =>
    simp only [submissionStep]
    cases submitted : submitVendor db env request s with
    | ok answer => exact namesUnique_submit unique submitted
    | error failure => exact unique
  | approve env adminUserId submissionId request =>
    simp only [submissionStep]
    cases approved : approveSubmission env adminUserId submissionId request s with
    | ok after =>
      obtain ⟨_, _, approved⟩ := bind_eq_ok approved
      obtain ⟨_, _, approved⟩ := bind_eq_ok approved
      obtain ⟨_, _, approved⟩ := bind_eq_ok approved
      obtain ⟨_, _, approved⟩ := bind_eq_ok approved
      obtain ⟨_, reviewed, approved⟩ := bind_eq_ok approved
      cases approved
      exact reviewSubmission_ok reviewed unique rfl
    | error failure => exact unique
  | reject env adminUserId submissionId reason =>
    simp only [submissionStep]
    cases rejected : rejectSubmission env adminUserId submissionId reason s with
    | ok after =>
      obtain ⟨_, _, rejected⟩ := bind_eq_ok rejected
      obtain ⟨_, reviewed, rejected⟩ := bind_eq_ok rejected
      cases rejected
      exact reviewSubmission_ok reviewed unique rfl
    | error failure => exact unique

end Steps

/-- In every run at most one submission of a name is pending. Every submission of a
run is answered just if each needs no new row or can have it. -/
theorem lifecycle_iff (db : SubmissionDatabase) (s : Platform) (run : List SubmissionOp)
    (unique : NamesUnique s) :
    (∀ before after, run = before ++ after →
      OnePending (Run.exec (submissionStep db) s before)) ∧
    ((∀ before op after, run = before ++ op :: after →
      StepAnswered db (Run.exec (submissionStep db) s before) op) ↔
        Run.AllSteps (submissionStep db) (Answerable db) s run) := by
  have keeps (here : Platform) (op : SubmissionOp) (unique : NamesUnique here) :
      NamesUnique (submissionStep db here op) := namesUnique_step unique op
  have names (before : List SubmissionOp) : NamesUnique (Run.exec (submissionStep db) s before) :=
    Run.exec_invariant keeps s before unique
  refine ⟨fun before _ _ => (names before).onePending, ?_⟩
  rw [Run.allSteps_iff_split]
  constructor
  · intro answered before op after split
    exact (stepAnswered_iff (names before) op).mp (answered before op after split)
  · intro answerable before op after split
    exact (stepAnswered_iff (names before) op).mpr (answerable before op after split)

/-! ## A name submitted again -/

/-- Nobody has submitted anything; user 11 is an administrator. -/
def noSubmissions : Platform where
  users := ⟨[⟨11, "a@example.com", "A", "hash", true, false, true, 0⟩], by decide⟩
  organizations := .empty
  members := .empty
  apiKeys := .empty
  workspace := ⟨.empty, .empty, .empty, .empty, .empty, .empty, .empty, .empty, .empty, .empty,
    .empty, .empty, .empty, .empty, .empty, .empty⟩
  community := ⟨.empty, .empty, .empty, .empty, .empty, .empty, .empty⟩
  partners := ⟨.empty, .empty, .empty, .empty⟩

def acmeRequest : VendorSubmitRequest :=
  ⟨"acme", "Acme", none, none, "c@example.com", none, none, []⟩

def submission (id : Uuid) : SubmissionOp :=
  .submit { plainServer oneTokenCredentials with newId := fun n => id + n } acmeRequest

/-- The first one is rejected. -/
def submittedAndRejected : List SubmissionOp :=
  [submission 100, .reject (plainServer oneTokenCredentials) 11 100 "no"]

theorem noSubmissions_unique : NamesUnique noSubmissions :=
  fun _ member => absurd member List.not_mem_nil

theorem lifecycle_iff_resubmission :
    (∀ before after, submittedAndRejected ++ [submission 200] = before ++ after →
      OnePending (Run.exec (submissionStep ⟨true⟩) noSubmissions before)) ∧
    ((∀ before op after, submittedAndRejected ++ [submission 200] = before ++ op :: after →
      StepAnswered ⟨true⟩ (Run.exec (submissionStep ⟨true⟩) noSubmissions before) op) ↔
        Run.AllSteps (submissionStep ⟨true⟩) (Answerable ⟨true⟩) noSubmissions
          (submittedAndRejected ++ [submission 200])) :=
  lifecycle_iff ⟨true⟩ noSubmissions (submittedAndRejected ++ [submission 200])
    noSubmissions_unique

/-- The first submission fails without the relation; with it, one of a name whose
submission was rejected does. -/
theorem submissions_fail :
    NamesUnique noSubmissions ∧ ¬ StepAnswered ⟨false⟩ noSubmissions (submission 100) ∧
      ¬ StepAnswered ⟨true⟩ (Run.exec (submissionStep ⟨true⟩) noSubmissions submittedAndRejected)
        (submission 200) := by
  refine ⟨noSubmissions_unique, fun answered => ?_, fun answered => ?_⟩
  · exact answered.noDatabaseError "UndefinedTableError" rfl
  · exact answered.noDatabaseError "vendor_submissions_vendor_name_key" rfl

end Reliastra.Guarantees.SubmissionLifecycle
