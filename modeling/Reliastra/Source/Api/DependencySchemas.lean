import Reliastra.Source.Api.Monitoring

/-!
# What the dependency requests accept

The validators of `app/modules/dependencies/schemas.py`. The keys of a JSON object are
arbitrary texts, so lower-casing is the library's, of which only its effect on ASCII
is fixed. `lower_keys` is a set: in which order it is gone through decides no more
than which of several errors is raised, and is that of the object here.
-/

namespace Reliastra.Source.Api

/-- `str.lower()`. -/
structure CaseMapping where
  lower : String → String
  ascii : ∀ text : String, (∀ c ∈ text.toList, c.toNat < 128) → lower text = Text.lower text

def CaseMapping.plain : CaseMapping := ⟨Text.lower, fun _ _ => rfl⟩

/-- `_FORBIDDEN_HEADERS`. -/
def forbiddenHeaders : List String :=
  ["cookie", "host", "content-length", "transfer-encoding", "connection", "keep-alive", "upgrade"]

/-- `_FORBIDDEN_HEADER_PREFIXES`. -/
def forbiddenHeaderPrefixes : List String := ["proxy-", "x-forwarded-"]

def HasForbiddenPrefix (key : String) : Prop :=
  ∃ start ∈ forbiddenHeaderPrefixes, Text.startsWith key start = true

instance (key : String) : Decidable (HasForbiddenPrefix key) :=
  inferInstanceAs (Decidable (∃ _ ∈ _, _))

/-- The characters a name may not have. -/
def Malformed (key : String) : Prop := ∃ c ∈ key.toList, c ∈ ['\r', '\n', ':']

instance (key : String) : Decidable (Malformed key) := List.decidableBEx _ key.toList

/-- The loop over the lower-case keys. -/
def checkHeaderKeys : List String → Except String Unit
  | [] => .ok ()
  | key :: rest =>
    if HasForbiddenPrefix key then
      .error ("Header '" ++ key ++ "' is not allowed (proxy-injection risk)")
    else if Malformed key then .error ("Header name '" ++ key ++ "' is malformed")
    else checkHeaderKeys rest

abbrev HeaderDict := List (String × Json)

/-- `_validate_header_dict`. -/
def validateHeaderDict (mapping : CaseMapping) (headers : Option HeaderDict) :
    Except String (Option HeaderDict) :=
  match headers with
  | none => .ok none
  | some members => do
    let lowerKeys := (members.map (fun entry => mapping.lower entry.1)).dedup
    let forbidden := lowerKeys.filter (· ∈ forbiddenHeaders)
    if forbidden ≠ [] then
      .error ("Headers cannot contain: " ++
        ", ".intercalate (forbidden.insertionSort (fun first second => ¬ second < first)))
    else do
      checkHeaderKeys lowerKeys
      .ok (some members)

/-- `ALLOWED_REGIONS`. -/
def allowedRegions : List String := ["us-east", "eu-west", "ap-south", "sa-east"]

/-- The loop of `_validate_regions`. -/
def dedupeRegions (deduped : List String) : List String → Except String (List String)
  | [] => .ok deduped
  | region :: rest =>
    if region ∉ allowedRegions then
      .error ("Unknown region '" ++ region ++ "'. Allowed: " ++
        ", ".intercalate (allowedRegions.insertionSort (fun first second => ¬ second < first)))
    else dedupeRegions (if region ∈ deduped then deduped else deduped ++ [region]) rest

def validateRegions (regions : List String) : Except String (List String) :=
  if regions = [] then .error "regions must contain at least one region"
  else dedupeRegions [] regions

/-- An update request as its model leaves it after validation. -/
structure DependencyUpdateRequest.Accepted (mapping : CaseMapping)
    (request : DependencyUpdateRequest) : Prop where
  name : ∀ name ∈ request.name, 1 ≤ name.length ∧ name.length ≤ 150
  endpointUrl : ∀ url ∈ request.endpointUrl,
    Text.startsWith url "http://" = true ∨ Text.startsWith url "https://" = true
  method : ∀ method ∈ request.method, method ∈ ["GET", "HEAD", "POST"]
  headers : ∀ headers ∈ request.headers, ∃ members, headers = .obj members ∧
    validateHeaderDict mapping (some members) = .ok (some members)
  timeoutSeconds : ∀ timeout ∈ request.timeoutSeconds, 1 ≤ timeout ∧ timeout ≤ 300
  checkIntervalSeconds : ∀ interval ∈ request.checkIntervalSeconds, 1 ≤ interval ∧ interval ≤ 86400
  regions : ∀ regions ∈ request.regions, validateRegions regions = .ok regions
  alertThresholdMs : ∀ threshold ∈ request.alertThresholdMs, 1 ≤ threshold

/-! ## Headers at rest -/

/-- `_decode_headers` of the service; `decryptJsonb` returns an empty dictionary for a
text it cannot decrypt. -/
def decodeHeaders (host : Runtime) (decryptJsonb : String → Json) (headers : Option Json) :
    Option Json :=
  match headers.filter Json.truthy with
  | none => none
  | some (.obj members) =>
    match members.lookup "_encrypted_data" with
    | some data => some (decryptJsonb (data.text host))
    | none => some (.obj members)
  | some headers => some headers

/-- `headers or {}`: what a probe sends. -/
def probeHeaders (host : Runtime) (decryptJsonb : String → Json) (dep : Dependency) : Json :=
  ((decodeHeaders host decryptJsonb dep.headers).filter Json.truthy).getD (.obj [])

/-! ## When a header dictionary is accepted -/

theorem checkHeaderKeys_eq_ok_iff {keys : List String} :
    checkHeaderKeys keys = .ok () ↔ ∀ key ∈ keys, ¬ HasForbiddenPrefix key ∧ ¬ Malformed key := by
  induction keys with
  | nil => simp [checkHeaderKeys]
  | cons key rest ih =>
    rw [List.forall_mem_cons, ← ih, checkHeaderKeys]
    split
    · next start => simp [start]
    · next clean =>
      split
      · next malformed => simp [malformed]
      · next wellFormed => simp [clean, wellFormed]

theorem validateHeaderDict_eq_ok_iff {mapping : CaseMapping} {members : HeaderDict} :
    validateHeaderDict mapping (some members) = .ok (some members) ↔
      ∀ entry ∈ members, mapping.lower entry.1 ∉ forbiddenHeaders ∧
        ¬ HasForbiddenPrefix (mapping.lower entry.1) ∧ ¬ Malformed (mapping.lower entry.1) := by
  have keys (condition : String → Prop) :
      (∀ key ∈ (members.map (fun entry => mapping.lower entry.1)).dedup, condition key) ↔
        ∀ entry ∈ members, condition (mapping.lower entry.1) := by
    simp only [List.mem_dedup, List.forall_mem_map]
  unfold validateHeaderDict
  simp only
  split
  · next found =>
    refine iff_of_false (fun ok => by cases ok) ?_
    intro clean
    apply found
    rw [List.filter_eq_nil_iff]
    intro key member
    rw [List.mem_dedup, List.mem_map] at member
    obtain ⟨entry, inMembers, rfl⟩ := member
    simpa using (clean entry inMembers).1
  · next none =>
    rw [not_not, List.filter_eq_nil_iff, keys] at none
    rw [bind_eq_ok_iff]
    constructor
    · intro ⟨_, checked, _⟩ entry member
      have each := (keys _).mp (checkHeaderKeys_eq_ok_iff.mp checked) entry member
      exact ⟨by simpa using none entry member, each⟩
    · intro clean
      have each := (keys (fun key => ¬ HasForbiddenPrefix key ∧ ¬ Malformed key)).mpr
        (fun entry member => (clean entry member).2)
      exact ⟨(), checkHeaderKeys_eq_ok_iff.mpr each, rfl⟩

end Reliastra.Source.Api
