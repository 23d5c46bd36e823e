import Reliastra.Guarantees.EvidenceHash
import Reliastra.Source.Evidence.Explanation

/-!
# What the AI service has an effect on

Whatever the service does, it gives a text or nothing, and the page is all that is
made of it. Two runs that read the same rows at one time store the same facts under
the same hash. The hash of the page and the random identifiers are their own.
-/

namespace Reliastra.Guarantees.ExplanationNoninterference

open Reliastra.Library Reliastra.Library.JsonText Reliastra.Source
open Evidence.Generation (EvidenceLibrary EvidenceDatabase addedMembers encodeDocument)
open Evidence.Explanation

variable {φ : Type}

/-! ## The property -/

/-- Documents with the same members, but for the values under some keys. -/
def DifferAtMostIn (keys : List String) (document other : List (String × Value φ)) : Prop :=
  document.map Prod.fst = other.map Prod.fst ∧
    ∀ key, key ∉ keys → document.lookup key = other.lookup key

structure Agree (lib : EvidenceLibrary φ) (first second : Snapshot φ) : Prop where
  evidence : first.evidence = second.evidence
  dataHash : first.dataHash = second.dataHash
  attribution : first.attributionResult = second.attributionResult
  observationIds : first.observationIds = second.observationIds
  timeWindow : first.timeWindowStart = second.timeWindowStart ∧
    first.timeWindowEnd = second.timeWindowEnd
  documents : ∃ document other,
    first.jsonEvidence = encodeDocument lib true (.obj document) ∧
    second.jsonEvidence = encodeDocument lib true (.obj other) ∧
    DifferAtMostIn ["verification_id", "report_checksum", "generated_at"] document other

/-- Both runs fail in one way, or both succeed and agree. -/
def SameOutcome (lib : EvidenceLibrary φ) : Except Failure (Snapshot φ) →
    Except Failure (Snapshot φ) → Prop
  | .ok first, .ok second => Agree lib first second
  | .error failure, .error failure' => failure = failure'
  | _, _ => False

/-- The page is rendered, with the text of the run, and both files are stored. -/
def Completes (lib : EvidenceLibrary φ) (readings : Readings φ) (s : EvidenceDatabase φ)
    (incidentId : Uuid) (run : ExplainedRun φ) : Prop :=
  ∀ facts, gather readings s incidentId = .ok facts →
    ∃ pdf, run.pdfBytes lib readings facts = .ok pdf ∧
      let snapshot := run.snapshot lib readings facts (lib.sha256Hex pdf)
      run.upload pdf snapshot.reportFilePath = .ok () ∧
        run.upload snapshot.jsonEvidence snapshot.jsonEvidencePath = .ok ()

variable (lib : EvidenceLibrary φ) (readings : Readings φ) (facts : Facts φ)

/-! ## The explanation -/

theorem truncated_length (limit : Nat) (text : String) :
    (truncated limit text).length ≤ limit + 14 := by
  unfold truncated
  split
  · have suffix : "...[truncated]".length = 14 := by decide
    rw [String.length_append, suffix, String.length_ofList, List.length_take]
    omega
  · omega

theorem boundedText_length {reply : Except Failure (Option String)} {text : String}
    (shown : boundedText reply = some text) : text.length ≤ maxExplanationChars + 14 := by
  unfold boundedText at shown
  split at shown
  · split at shown
    · cases shown
    · obtain rfl := Option.some.inj shown
      exact truncated_length _ _
  · cases shown
  · cases shown

theorem generated_bounded {ai : AIService} {context : Value φ} {instruction text : String}
    {orgId : Uuid}
    (explained : generateExplanation lib.floats ai context instruction orgId = .ok (some text)) :
    text.length ≤ maxExplanationChars + 14 := by
  unfold generateExplanation at explained
  split at explained
  · cases explained
  · split at explained
    · cases explained
    · split at explained
      · obtain ⟨apiKey, -, called⟩ := Api.bind_eq_ok explained
        split at called
        · exact boundedText_length (Except.ok.inj called)
        · cases called
      · cases explained

/-- Whatever the provider does, the page takes no more of it than the limit and its mark. -/
theorem explanation_bounded {ai : AIService} {text : String}
    (explained : aiExplanation lib facts readings ai = some text) :
    text.length ≤ maxExplanationChars + 14 := by
  unfold aiExplanation at explained
  split at explained
  · next explanation generated =>
    rw [explained] at generated
    exact generated_bounded lib generated
  · cases explained

/-! ## The documents -/

/-- Of the members that are added, one is of the facts. -/
theorem jsonDocument_differ (first second : ExplainedRun φ) (checksum checksum' : String) :
    DifferAtMostIn ["verification_id", "report_checksum", "generated_at"]
      (first.jsonDocument lib readings facts checksum)
      (second.jsonDocument lib readings facts checksum') := by
  constructor
  · simp [ExplainedRun.jsonDocument, addedMembers]
  · intro key other
    simp only [List.mem_cons, List.not_mem_nil, or_false, not_or] at other
    obtain ⟨verification, checksum, generated⟩ := other
    simp only [ExplainedRun.jsonDocument, addedMembers, List.lookup_append, List.lookup_cons,
      beq_eq_false_iff_ne.mpr verification, beq_eq_false_iff_ne.mpr checksum,
      beq_eq_false_iff_ne.mpr generated]

theorem snapshots_agree (first second : ExplainedRun φ) (checksum checksum' : String) :
    Agree lib (first.snapshot lib readings facts checksum)
      (second.snapshot lib readings facts checksum') where
  evidence := rfl
  dataHash := rfl
  attribution := rfl
  observationIds := rfl
  timeWindow := ⟨rfl, rfl⟩
  documents := ⟨first.jsonDocument lib readings facts checksum,
    second.jsonDocument lib readings facts checksum', by simp only [ExplainedRun.snapshot],
    by simp only [ExplainedRun.snapshot],
    jsonDocument_differ lib readings facts first second checksum checksum'⟩

/-! ## Runs -/

variable {lib readings facts} {s : EvidenceDatabase φ} {incidentId : Uuid}

theorem store_of_completes {run : ExplainedRun φ}
    (completes : Completes lib readings s incidentId run)
    (gathered : gather readings s incidentId = .ok facts) :
    ∃ checksum, run.store lib readings facts = .ok (run.snapshot lib readings facts checksum) := by
  obtain ⟨pdf, rendered, storedPdf, storedJson⟩ := completes facts gathered
  refine ⟨lib.sha256Hex pdf, ?_⟩
  simp only [ExplainedRun.store, rendered, storedPdf, storedJson, bind, Except.bind, pure,
    Except.pure]

theorem ai_noninterference (lib : EvidenceLibrary φ) (readings : Readings φ)
    (s : EvidenceDatabase φ) (incidentId : Uuid) (first second : ExplainedRun φ)
    (completes : Completes lib readings s incidentId first)
    (completes' : Completes lib readings s incidentId second) :
    SameOutcome lib (generateForIncident lib readings first s incidentId)
      (generateForIncident lib readings second s incidentId) := by
  cases gathered : gather readings s incidentId with
  | error failure =>
    have failed (run : ExplainedRun φ) :
        generateForIncident lib readings run s incidentId = .error failure := by
      rw [generateForIncident, gathered]
      rfl
    rw [failed, failed]
    rfl
  | ok facts =>
    obtain ⟨checksum, stored⟩ := store_of_completes completes gathered
    obtain ⟨checksum', stored'⟩ := store_of_completes completes' gathered
    have run_eq (run : ExplainedRun φ) : generateForIncident lib readings run s incidentId =
        run.store lib readings facts := by
      rw [generateForIncident, gathered]
      rfl
    rw [run_eq, run_eq, stored, stored']
    exact snapshots_agree lib readings facts first second checksum checksum'

/-! ## Without a provider, and with one that answers -/

def sampleProvider : AIProvider where
  id := 7
  organizationId := 2
  providerType := "openai"
  endpointUrl := "https://api.openai.com/v1/chat/completions"
  encryptedApiKey := some "gAAAAAB"
  modelName := "gpt-4"
  isDefault := true
  maxTokens := 4096
  temperature := .float "0.3" (some 0)
  enabled := true
  createdAt := 0

/-- The organization's providers, and how every attempt ends. -/
def serviceWith (providers : Table AIProvider.id) (attempt : Attempt) : AIService where
  providers := providers
  oldestFirst := OrderBy.stable _
  host :=
    { containerText := fun _ => ""
      uuidOfText := fun _ => none
      intOfText := fun _ => none
      fromisoformat := fun _ => none
      hmacSha512Hex := fun _ _ => "" }
  fernetJson := fun _ => some (.obj [("api_key", .str "sk-1")])
  urls :=
    { urlparse := fun _ => .ok ⟨"https", some "api.openai.com", .ok none⟩
      urljoin := fun _ location => .ok location
      inBlockedNetwork := fun text =>
        if text = "162.159.140.245" then .ok false else .error "not an address" }
  resolve := fun _ => .ok ["162.159.140.245"]
  pin := fun _ => .ok ["162.159.140.245"]
  transports := .empty
  endpoint := fun _ _ _ => attempt

def answer : Attempt :=
  .response 200 (.ok (.obj [("choices", .arr
    [.obj [("message", .obj [("content", .str "AI-generated: the endpoint timed out.")])]])]))

def sampleReadings : Readings Nat := ⟨90, OrderBy.stable _, 99, 1⟩

/-- A run that prints the explanation on the page. -/
def printedRun (ai : AIService) (verificationId : String) : ExplainedRun Nat where
  ai := ai
  verificationId := verificationId
  generationKey := "key"
  renderPdf := fun _ verificationId explanation =>
    .ok (verificationId ++ explanation.getD "").toUTF8
  upload := fun _ _ => .ok ()

theorem ai_noninterference_sample :
    SameOutcome EvidenceHash.sampleLibrary
      (generateForIncident EvidenceHash.sampleLibrary sampleReadings
        (printedRun (serviceWith .empty answer) "first") EvidenceHash.sampleDatabase 1)
      (generateForIncident EvidenceHash.sampleLibrary sampleReadings
        (printedRun (serviceWith ⟨[sampleProvider], by decide⟩ answer) "second")
        EvidenceHash.sampleDatabase 1) :=
  ai_noninterference EvidenceHash.sampleLibrary sampleReadings EvidenceHash.sampleDatabase 1 _ _
    (fun _ _ => ⟨_, rfl, rfl, rfl⟩) (fun _ _ => ⟨_, rfl, rfl, rfl⟩)

end Reliastra.Guarantees.ExplanationNoninterference
