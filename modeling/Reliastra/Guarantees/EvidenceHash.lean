import Reliastra.Source.Evidence.Generation

/-!
# The evidence hash verifies

Whoever holds the stored document parses it, takes out the four members that were
added after hashing and writes the rest canonically. `evidence_hash_verifies` says
that these are the bytes whose SHA-256 is the stored `data_hash`, and that two
contents have one canonical text if and only if they are one JSON value.

The hashed text is plain and the stored one escaped, but both are written from the
canonical order of one structure, and what is written is read back
(`loads_dumps`). The added keys are none of the seven keys of the evidence, so
taking them out undoes adding them (`normal_withoutKeys`).
-/

namespace Reliastra.Guarantees.EvidenceHash

open Reliastra.Library Reliastra.Library.JsonText Reliastra.Source Reliastra.Source.Evidence.Generation
open Api (Incident Dependency)

variable {φ : Type}

/-! ## The verifier -/

def addedKeys : List String :=
  ["data_hash", "verification_id", "report_checksum", "generated_at"]

/-- The canonical bytes of a stored document without the added members. -/
def reserialize (lib : EvidenceLibrary φ) (stored : ByteArray) : Option ByteArray := do
  let text ← String.fromUTF8? stored
  let document ← loads lib.floats text.toList
  return canonicalBytes lib (withoutKeys addedKeys document)

/-- The stored document leads back to the bytes the stored hash is of. -/
def Verifies (lib : EvidenceLibrary φ) (generated : Generated φ) : Prop :=
  reserialize lib generated.jsonEvidence = some (canonicalBytes lib (.obj generated.evidence)) ∧
    generated.dataHash = lib.sha256Hex (canonicalBytes lib (.obj generated.evidence))

/-! ## One member a key -/

theorem orNull_distinct {ρ : Type} (write : ρ → Value φ) (distinct : ∀ r, (write r).Distinct)
    (value : Option ρ) : (orNull write value).Distinct := by
  cases value with
  | none => trivial
  | some r => exact distinct r

theorem obj_distinct {members : List (String × Value φ)} (keys : (members.map (·.1)).Nodup)
    (values : ∀ m ∈ members, m.2.Distinct) : (Value.obj members).Distinct :=
  ⟨keys, (membersDistinct_iff members).mpr values⟩

section Payloads
variable (lib : EvidenceLibrary φ)

theorem attributionPayload_distinct (result : Option (AttributionResult φ)) :
    (attributionPayload lib result).Distinct := by
  cases result with
  | none => trivial
  | some result =>
    apply obj_distinct
    · simp only [List.map_cons, List.map_nil]
      decide
    · simp only [List.forall_mem_cons]
      exact ⟨trivial, trivial, trivial, result.signalBreakdown.property,
        result.supportingEvidence.property, result.contradictingEvidence.property, trivial,
        List.forall_mem_nil _⟩

theorem observationPayload_distinct (observation : Observation φ) :
    (observationPayload lib observation).Distinct := by
  apply obj_distinct
  · simp only [observationMembers, List.map_cons, List.map_nil]
    decide
  · simp only [observationMembers, List.forall_mem_cons]
    exact ⟨trivial, trivial, trivial,
      orNull_distinct (fun id => .str (lib.uuidText id)) (fun _ => trivial) _, trivial, trivial,
      trivial, orNull_distinct .int (fun _ => trivial) _, orNull_distinct .str (fun _ => trivial) _,
      orNull_distinct .str (fun _ => trivial) _, orNull_distinct _ Subtype.property _,
      List.forall_mem_nil _⟩

theorem incidentPayload_distinct (incident : Incident) :
    (incidentPayload lib incident).Distinct := by
  apply obj_distinct
  · simp only [List.map_cons, List.map_nil]
    decide
  · simp only [List.forall_mem_cons]
    exact ⟨trivial, trivial, trivial, trivial,
      orNull_distinct (fun resolved => .str (lib.isoformat resolved)) (fun _ => trivial) _, trivial,
      trivial, trivial, List.forall_mem_nil _⟩

theorem dependencyPayload_distinct (dependency : Dependency) :
    (dependencyPayload lib dependency).Distinct := by
  have regions : (Value.arr (dependency.regions.map (Value.str (φ := φ)))).Distinct := by
    simp only [Value.Distinct, elementsDistinct_iff, List.forall_mem_map, implies_true]
  apply obj_distinct
  · simp only [List.map_cons, List.map_nil]
    decide
  · simp only [List.forall_mem_cons]
    exact ⟨trivial, trivial, trivial, regions, List.forall_mem_nil _⟩

variable (incident : Incident) (dependency : Dependency) (windowEnd : Instant)
  (observations : List (Observation φ)) (attribution : Option (AttributionResult φ))

/-- The evidence and what is added to it have one member a key. -/
theorem document_distinct (dataHash verificationId reportChecksum : String)
    (generatedAt : Instant) :
    (Value.obj (evidenceData lib incident dependency windowEnd observations attribution ++
      addedMembers lib dataHash verificationId reportChecksum generatedAt)).Distinct := by
  have window : (Value.obj
      [("start", Value.str (φ := φ) (lib.isoformat incident.startedAt)),
        ("end", .str (lib.isoformat windowEnd))]).Distinct := by
    apply obj_distinct
    · simp only [List.map_cons, List.map_nil]
      decide
    · simp only [List.forall_mem_cons]
      exact ⟨trivial, trivial, List.forall_mem_nil _⟩
  have listed : (Value.arr (observations.map (observationPayload lib))).Distinct := by
    simp only [Value.Distinct, elementsDistinct_iff, List.forall_mem_map]
    exact fun observation _ => observationPayload_distinct lib observation
  apply obj_distinct
  · simp only [evidenceData, addedMembers, List.cons_append, List.nil_append, List.map_cons,
      List.map_nil]
    decide
  · simp only [evidenceData, addedMembers, List.cons_append, List.nil_append, List.forall_mem_cons]
    exact ⟨trivial, incidentPayload_distinct lib incident, dependencyPayload_distinct lib dependency,
      window, listed, attributionPayload_distinct lib attribution, trivial, trivial, trivial,
      trivial, trivial, List.forall_mem_nil _⟩

theorem evidenceData_distinct :
    (Value.obj (evidenceData lib incident dependency windowEnd observations
      attribution)).Distinct := by
  obtain ⟨keys, values⟩ := document_distinct lib incident dependency windowEnd observations
    attribution "" "" "" 0
  rw [membersDistinct_iff, List.forall_mem_append] at values
  rw [List.map_append] at keys
  exact obj_distinct (List.nodup_append.mp keys).1 values.1

/-- None of the added keys is a key of the evidence. -/
theorem evidenceData_new :
    ∀ m ∈ evidenceData lib incident dependency windowEnd observations attribution,
      m.1 ∉ addedKeys := by
  simp only [evidenceData, List.forall_mem_cons, addedKeys]
  exact ⟨by decide, by decide, by decide, by decide, by decide, by decide, by decide,
    List.forall_mem_nil _⟩

end Payloads

/-! ## Bytes -/

theorem fromUTF8_toUTF8 (text : String) : String.fromUTF8? text.toUTF8 = some text := by
  have valid : text.toUTF8.IsValidUTF8 := text.isValidUTF8
  unfold String.fromUTF8?
  rw [dif_pos valid]
  rfl

theorem encodeDocument_inj (lib : EvidenceLibrary φ) (ensureAscii : Bool) (v w : Value φ) :
    encodeDocument lib ensureAscii v = encodeDocument lib ensureAscii w ↔
      dumps lib.floats ensureAscii v = dumps lib.floats ensureAscii w := by
  unfold encodeDocument
  rw [String.toUTF8_eq_toByteArray, String.toUTF8_eq_toByteArray, String.toByteArray_inj,
    String.ofList_inj]

/-- A document to which members with new keys were added leads back to the
canonical bytes without them. -/
theorem reserialize_encoded (lib : EvidenceLibrary φ) {members added : List (String × Value φ)}
    (distinct : (Value.obj (members ++ added)).Distinct) (keys : added.map (·.1) = addedKeys)
    (new : ∀ m ∈ members, m.1 ∉ addedKeys) :
    reserialize lib (encodeDocument lib true (.obj (members ++ added))) =
      some (canonicalBytes lib (.obj members)) := by
  have inner : (Value.obj members).Distinct := by
    obtain ⟨allKeys, values⟩ := distinct
    rw [membersDistinct_iff, List.forall_mem_append] at values
    rw [List.map_append] at allKeys
    exact obj_distinct (List.nodup_append.mp allKeys).1 values.1
  have read := loads_dumps lib.floats true distinct
  rw [← keys] at new
  have undone := normal_withoutKeys inner new
  rw [keys] at undone
  unfold reserialize
  simp only [encodeDocument, fromUTF8_toUTF8, String.toList_ofList, read, bind, Option.bind, pure,
    canonicalBytes]
  unfold dumps
  rw [undone]

/-! ## Every generated document -/

theorem generated_evidence {lib : EvidenceLibrary φ} {run : GenerationRun φ}
    {s : EvidenceDatabase φ} {incidentId : Uuid} {generated : Generated φ}
    (success : generateForIncident lib run s incidentId = .ok generated) :
    ∃ incident dependency windowEnd observations attribution,
      generated.evidence =
        evidenceData lib incident dependency windowEnd observations attribution ∧
      generated.dataHash = lib.sha256Hex (canonicalBytes lib (.obj generated.evidence)) ∧
      generated.jsonEvidence = encodeDocument lib true (.obj (generated.evidence ++
        addedMembers lib generated.dataHash generated.verificationId generated.reportChecksum
          run.now)) := by
  obtain ⟨incident, _, success⟩ := Api.bind_eq_ok success
  obtain ⟨dependency, _, success⟩ := Api.bind_eq_ok success
  extract_lets windowEnd observations attribution evidence dataHash at success
  obtain ⟨pdfBytes, _, success⟩ := Api.bind_eq_ok success
  obtain ⟨_, _, success⟩ := Api.bind_eq_ok success
  obtain ⟨_, _, success⟩ := Api.bind_eq_ok success
  have same := Except.ok.inj success
  subst same
  refine ⟨incident, dependency, windowEnd, observations, attribution, rfl, rfl, ?_⟩
  dsimp only

/-- Every document stored for an incident verifies, and equal canonical bytes mean
equal contents. -/
theorem evidence_hash_verifies (lib : EvidenceLibrary φ) :
    (∀ (run : GenerationRun φ) (s : EvidenceDatabase φ) (incidentId : Uuid)
      (generated : Generated φ), generateForIncident lib run s incidentId = .ok generated →
        Verifies lib generated) ∧
      ∀ content other : Document φ,
        canonicalBytes lib content.val = canonicalBytes lib other.val ↔
          Same content.val other.val := by
  constructor
  · intro run s incidentId generated success
    obtain ⟨incident, dependency, windowEnd, observations, attribution, evidence, hash, stored⟩ :=
      generated_evidence success
    constructor
    · rw [stored, evidence]
      apply reserialize_encoded
      · exact document_distinct lib incident dependency windowEnd observations attribution _ _ _ _
      · rfl
      · exact evidenceData_new lib incident dependency windowEnd observations attribution
    · exact hash
  · intro content other
    unfold canonicalBytes
    rw [encodeDocument_inj, dumps_eq_iff content.property other.property]

/-! ## A document with text beyond ASCII -/

/-- Floats that end in one half, written as Python writes them below `10 ^ 16`. -/
def halves : FloatText Nat where
  print n := Nat.toDigits 10 n ++ ['.', '5']
  parse text := some (Nat.ofDigitChars 10 (text.takeWhile Char.isDigit) 0)
  parse_print n := by
    have digits : ∀ c ∈ Nat.toDigits 10 n, c.isDigit = true :=
      fun c member => Nat.isDigit_of_mem_toDigits (by decide) (by decide) member
    rw [List.takeWhile_append_of_pos digits]
    have point : ['.', '5'].takeWhile Char.isDigit = [] := by decide
    rw [point, List.append_nil, Nat.ofDigitChars_ten_toDigits]
  starts n := by
    obtain ⟨head, tail, written, digit⟩ := head_toDigits n
    exact ⟨head, tail ++ ['.', '5'], by rw [written]; rfl, by simp [startsNumber, digit]⟩
  numeric n := by
    intro c member
    rcases List.mem_append.mp member with digit | point
    · have digit := Nat.isDigit_of_mem_toDigits (by decide) (by decide) digit
      simp [numeric, digit]
    · simp only [List.mem_cons, List.not_mem_nil, or_false] at point
      rcases point with rfl | rfl <;> decide
  not_integer n := by
    obtain ⟨head, tail, written, digit⟩ := head_toDigits n
    rw [written]
    have point : (head :: tail ++ ['.', '5']).all Char.isDigit = false := by
      rw [List.all_append]
      simp
    unfold readInteger
    split
    · next negative =>
      cases (List.cons.inj negative).1
      cases digit
    · unfold readNatural
      split
      · next zero => simp at zero
      · simp only [point, Bool.false_eq_true, and_false, if_false, Option.map_none]

def sampleLibrary : EvidenceLibrary Nat where
  floats := halves
  isoformat moment := toString moment
  uuidText id := toString id
  sha256Hex bytes := toString bytes.size

def sampleRun : GenerationRun Nat where
  now := 90
  order := OrderBy.stable _
  verificationId := "verification"
  generationKey := "key"
  renderPdf := fun dataHash => .ok dataHash.toUTF8
  upload := fun _ _ => .ok ()

def sampleDatabase : EvidenceDatabase Nat where
  incidents := ⟨[⟨1, 2, 3, 10, some 20, "major", .resolved, "unknown", none⟩], by decide⟩
  dependencies := ⟨[⟨3, 2, none, "Zahlungsdienst für Österreich", "https://example.org", "GET", none,
    [200], 10, 60, none, ["us-east"], none, true, false⟩], by decide⟩
  attributionResults := .empty
  observations := ⟨[⟨4, 15, "customer_check", some 3, "us-east", "https://example.org", 12, none,
    none, some "Zeitüberschreitung 😀", none⟩], by decide⟩

theorem evidence_hash_verifies_sample :
    ∃ generated, generateForIncident sampleLibrary sampleRun sampleDatabase 1 = .ok generated ∧
      Verifies sampleLibrary generated :=
  ⟨_, rfl, (evidence_hash_verifies sampleLibrary).1 sampleRun sampleDatabase 1 _ rfl⟩

end Reliastra.Guarantees.EvidenceHash
