import Reliastra.Library.Run
import Reliastra.Source.Api.Community

/-!
# Vendor submissions

Source: `submit_vendor` of `app/modules/vendor_submissions/service.py`, with the
repository, models and schemas of that module; `approve_submission` and
`reject_submission` are with the other community handlers. Columns nobody reads
again (submitter, reason, endpoints) only have to fit; e-mails are sent outside
the session.
-/

namespace Reliastra.Source.Vendors

open Reliastra.Library Api

/-! ## Vendor names -/

/-- `re.sub(p + "+", "-", text)`: each run of such characters becomes one hyphen. -/
def hyphenateRuns (p : Char → Bool) : List Char → List Char
  | [] => []
  | [c] => if p c then ['-'] else [c]
  | c :: d :: rest =>
    if p c then if p d then hyphenateRuns p (d :: rest) else '-' :: hyphenateRuns p (d :: rest)
    else c :: hyphenateRuns p (d :: rest)

/-- Not matched by `_SPECIAL_CHARS_RE`. -/
def isPlain (c : Char) : Bool := ('a' ≤ c ∧ c ≤ 'z') ∨ ('0' ≤ c ∧ c ≤ '9') ∨ c = '-'

/-- `_sanitize_vendor_name`. -/
def sanitizeVendorName (env : ServiceEnvironment) (raw : String) : String :=
  let spaced := hyphenateRuns Text.isSpace (env.lower (Text.strip raw)).toList
  let plain := hyphenateRuns (fun c => c = '-') (spaced.filter isPlain)
  String.ofList ((plain.dropWhile (fun c => c = '-')).rdropWhile (fun c => c = '-'))

/-! ## Requests and answers -/

structure VendorSubmitEndpoint where
  name : String
  url : String
  method : String
  expectedStatus : Int
  deriving DecidableEq, Repr

structure VendorSubmitRequest where
  vendorName : String
  displayName : String
  category : Option String
  websiteUrl : Option String
  submitterEmail : String
  submitterName : Option String
  reason : Option String
  endpoints : List VendorSubmitEndpoint
  deriving DecidableEq, Repr

structure VendorSubmitResponse where
  id : Uuid
  vendorName : String
  displayName : String
  status : String
  message : String
  estimatedDays : Option Nat
  deriving DecidableEq, Repr

def alreadyExists (name : String) (request : VendorSubmitRequest) : VendorSubmitResponse where
  id := 0
  vendorName := name
  displayName := request.displayName
  status := "already_exists"
  message := "This vendor is already tracked in Reliastra."
  estimatedDays := none

def awaitingReview (existing : VendorSubmission) (name : String) (request : VendorSubmitRequest) :
    VendorSubmitResponse where
  id := existing.id
  vendorName := name
  displayName := request.displayName
  status := "pending_review"
  message := "This vendor has already been submitted and is awaiting review."
  estimatedDays := some 3

def received (submission : VendorSubmission) : VendorSubmitResponse where
  id := submission.id
  vendorName := submission.vendorName
  displayName := submission.displayName
  status := submission.status
  message := "Your vendor submission has been received and is pending review. " ++
    "We will notify you once it has been processed."
  estimatedDays := some 3

/-! ## `submit_vendor` -/

/-- The database behind the session, as far as the schema leaves it open: the
relation `lead_captures` is written by hand and made by no migration. -/
structure SubmissionDatabase where
  leadCaptures : Bool

/-- `VendorRepository.get_by_name`. -/
def Tracked (s : Platform) (name : String) : Prop :=
  ∃ vendor ∈ s.community.vendors.rows, vendor.vendorName = Text.lower name

instance (s : Platform) (name : String) : Decidable (Tracked s name) :=
  inferInstanceAs (Decidable (∃ vendor ∈ s.community.vendors.rows,
    vendor.vendorName = Text.lower name))

/-- `get_by_vendor_name`; the column is unique. -/
def submissionByName (s : Platform) (name : String) : Option VendorSubmission :=
  s.community.submissions.rows.find? (fun row => row.vendorName = Text.lower name)

/-- `_validate_url`: what it asks of the network only leaves a line in the log. -/
def validateUrl (env : ServiceEnvironment) (url : String) : Except Failure Unit :=
  match env.validateOutboundUrl url with
  | .ok () => .ok ()
  | .error _ => .error (.python "ValueError")

def validateUrls (env : ServiceEnvironment) (request : VendorSubmitRequest) :
    Except Failure Unit := do
  whenGiven (nonempty request.websiteUrl) (validateUrl env)
  request.endpoints.forM (fun endpoint => validateUrl env endpoint.url)

/-- The columns of the submission take the request. -/
def SubmissionFits (request : VendorSubmitRequest) (name : String) : Prop :=
  (∀ text ∈ [name, request.displayName, request.submitterEmail] ++ request.category.toList ++
    request.submitterName.toList, FitsText 255 text) ∧
  ∀ text ∈ request.websiteUrl.toList ++ request.reason.toList, '\x00' ∉ text.toList

instance (request : VendorSubmitRequest) (name : String) : Decidable (SubmissionFits request name) :=
  inferInstanceAs (Decidable ((∀ text ∈ [name, request.displayName, request.submitterEmail] ++
    request.category.toList ++ request.submitterName.toList, FitsText 255 text) ∧
    ∀ text ∈ request.websiteUrl.toList ++ request.reason.toList, '\x00' ∉ text.toList))

def EndpointsFit (request : VendorSubmitRequest) : Prop :=
  ∀ endpoint ∈ request.endpoints, FitsText 255 endpoint.name ∧ '\x00' ∉ endpoint.url.toList ∧
    FitsText 10 endpoint.method ∧ FitsInteger endpoint.expectedStatus

instance (request : VendorSubmitRequest) : Decidable (EndpointsFit request) :=
  inferInstanceAs (Decidable (∀ endpoint ∈ request.endpoints, FitsText 255 endpoint.name ∧
    '\x00' ∉ endpoint.url.toList ∧ FitsText 10 endpoint.method ∧
      FitsInteger endpoint.expectedStatus))

def newSubmission (env : ServiceEnvironment) (request : VendorSubmitRequest) (name : String) :
    VendorSubmission where
  id := env.newId 0
  vendorName := name
  displayName := request.displayName
  category := request.category
  websiteUrl := request.websiteUrl
  status := "pending_review"
  reviewNote := none
  reviewedBy := none
  reviewedAt := none

/-- `create_submission`, its endpoints, and `_log_lead_capture`. -/
def insertSubmission (db : SubmissionDatabase) (env : ServiceEnvironment)
    (request : VendorSubmitRequest) (name : String) (s : Platform) : Except Failure Platform := do
  refuseIf (¬ SubmissionFits request name) (.flush "DataError")
  refuseIf (∃ row ∈ s.community.submissions.rows, row.vendorName = name)
    (.flush "vendor_submissions_vendor_name_key")
  let submissions ← flushNew s.community.submissions (newSubmission env request name)
  refuseIf (¬ EndpointsFit request) (.flush "DataError")
  refuseIf (db.leadCaptures = false) (.flush "UndefinedTableError")
  return { s with community := { s.community with submissions := submissions } }

/-- A name that nobody tracks and nobody has pending. -/
def submitFresh (db : SubmissionDatabase) (env : ServiceEnvironment)
    (request : VendorSubmitRequest) (name : String) (s : Platform) :
    Except Failure (VendorSubmitResponse × Platform) := do
  validateUrls env request
  let after ← insertSubmission db env request name s
  return (received (newSubmission env request name), after)

def submitVendor (db : SubmissionDatabase) (env : ServiceEnvironment)
    (request : VendorSubmitRequest) (s : Platform) :
    Except Failure (VendorSubmitResponse × Platform) :=
  let name := sanitizeVendorName env request.vendorName
  if name = "" then .error (invalid "vendor_name must contain alphanumeric characters")
  else if Tracked s name then .ok (alreadyExists name request, s)
  else match submissionByName s name with
    | some existing =>
      if existing.status = "pending_review" then .ok (awaitingReview existing name request, s)
      else submitFresh db env request name s
    | none => submitFresh db env request name s

/-! ## Runs -/

inductive SubmissionOp where
  | submit (env : ServiceEnvironment) (request : VendorSubmitRequest)
  | approve (env : ServiceEnvironment) (adminUserId submissionId : Uuid)
      (request : ApproveVendorRequest)
  | reject (env : ServiceEnvironment) (adminUserId submissionId : Uuid) (reason : String)

/-- A failed request is rolled back. -/
def submissionStep (db : SubmissionDatabase) (s : Platform) : SubmissionOp → Platform
  | .submit env request =>
    match submitVendor db env request s with
    | .ok (_, after) => after
    | .error _ => s
  | .approve env adminUserId submissionId request =>
    match approveSubmission env adminUserId submissionId request s with
    | .ok after => after
    | .error _ => s
  | .reject env adminUserId submissionId reason =>
    match rejectSubmission env adminUserId submissionId reason s with
    | .ok after => after
    | .error _ => s

/-! ## A sanitized name is in lower case -/

theorem mem_hyphenateRuns {p : Char → Bool} {c : Char} {text : List Char}
    (member : c ∈ hyphenateRuns p text) : c ∈ text ∨ c = '-' := by
  fun_induction hyphenateRuns p text <;> grind

theorem plain_of_sanitized (env : ServiceEnvironment) (raw : String) :
    ∀ c ∈ (sanitizeVendorName env raw).toList, isPlain c = true := by
  intro c member
  unfold sanitizeVendorName at member
  dsimp only at member
  rw [String.toList_ofList] at member
  have stripped := (List.dropWhile_suffix _).subset ((List.rdropWhile_prefix _ _).subset member)
  rcases mem_hyphenateRuns stripped with kept | rfl
  · exact (List.mem_filter.mp kept).2
  · decide

theorem toLower_of_plain {c : Char} (plain : isPlain c = true) : c.toLower = c := by
  unfold Char.toLower
  split
  · next upper =>
    -- no plain character is between `A` and `Z`
    have first : 65 ≤ c.toNat := upper.1
    have last : c.toNat ≤ 90 := upper.2
    simp only [isPlain, decide_eq_true_eq, Char.le_def, UInt32.le_iff_toNat_le] at plain
    rcases plain with ⟨lower, _⟩ | ⟨_, digit⟩ | rfl
    · have lower : 97 ≤ c.toNat := lower
      omega
    · have digit : c.toNat ≤ 57 := digit
      omega
    · exact absurd first (by decide)
  · rfl

theorem lower_sanitized (env : ServiceEnvironment) (raw : String) :
    Text.lower (sanitizeVendorName env raw) = sanitizeVendorName env raw := by
  have same : (sanitizeVendorName env raw).toList.map Char.toLower =
      (sanitizeVendorName env raw).toList.map id :=
    List.map_congr_left (fun c member => toLower_of_plain (plain_of_sanitized env raw c member))
  unfold Text.lower
  rw [same, List.map_id, String.ofList_toList]

end Reliastra.Source.Vendors
