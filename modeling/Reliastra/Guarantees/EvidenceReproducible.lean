import Reliastra.Guarantees.EvidenceHash

/-!
# Two runs over one database

The query of the observations orders by the time stamp alone and cuts off after a
thousand rows, and the checks of several regions can carry one time stamp. Two
runs over the same rows then hash the observations in two orders, or different
observations. `reproducible_iff` says that the hash depends on nothing but the
rows exactly when no two observations of the window share a time stamp, unless a
thousand later ones keep them out.

The hash is only assumed to have no collision among what is hashed here.
-/

namespace Reliastra.Guarantees.EvidenceReproducible

open Reliastra.Library Reliastra.Library.JsonText Reliastra.Source Reliastra.Source.Evidence.Generation
open Reliastra.Guarantees.EvidenceHash
open Api (Incident Dependency)

variable {φ : Type}

/-- Any two runs over one database store one hash. -/
def Reproducible (lib : EvidenceLibrary φ) (s : EvidenceDatabase φ) (incidentId : Uuid) : Prop :=
  ∀ (run run' : GenerationRun φ) (generated generated' : Generated φ),
    generateForIncident lib run s incidentId = .ok generated →
    generateForIncident lib run' s incidentId = .ok generated' →
      generated.dataHash = generated'.dataHash

/-- SHA-256 tells apart what is hashed for one incident. -/
def NoCollision (lib : EvidenceLibrary φ) (s : EvidenceDatabase φ) (incidentId : Uuid) : Prop :=
  ∀ (run run' : GenerationRun φ) (generated generated' : Generated φ),
    generateForIncident lib run s incidentId = .ok generated →
    generateForIncident lib run' s incidentId = .ok generated' →
    generated.dataHash = generated'.dataHash →
      canonicalBytes lib (.obj generated.evidence) = canonicalBytes lib (.obj generated'.evidence)

/-- The observations of the incident's window. -/
def windowRows (s : EvidenceDatabase φ) (incident : Incident) (dependency : Dependency)
    (windowEnd : Instant) : List (Observation φ) :=
  s.observations.rows.filter
    (fun observation => Selects dependency.id "customer_check" incident.startedAt windowEnd observation)

/-- Observations of one time stamp come after a thousand later ones. -/
def TieFree (s : EvidenceDatabase φ) (incident : Incident) (dependency : Dependency)
    (windowEnd : Instant) : Prop :=
  ∀ a ∈ windowRows s incident dependency windowEnd,
    ∀ b ∈ windowRows s incident dependency windowEnd, a ≠ b → a.timestamp = b.timestamp →
      1000 ≤ (windowRows s incident dependency windowEnd).countP
        (fun observation => a.timestamp < observation.timestamp)

variable {lib : EvidenceLibrary φ} {s : EvidenceDatabase φ} {incident : Incident}
  {dependency : Dependency} {incidentId : Uuid} {windowEnd : Instant}

/-! ## Without ties -/

theorem countP_later (rows : List (Observation φ)) (a : Observation φ) :
    rows.countP (fun row => row.newestFirst < a.newestFirst) =
      rows.countP (fun row => a.timestamp < row.timestamp) := by
  apply List.countP_congr
  intro row _
  simp [Observation.newestFirst]

/-- Windows with the same rows are listed alike, whatever the orders, if ties are
cut off. -/
theorem listForSource_eq {s s' : EvidenceDatabase φ} {sourceId : Uuid} {sourceType : String}
    {since upTo : Instant} {limit : Nat}
    (perm : (s.observations.rows.filter
        (fun observation => Selects sourceId sourceType since upTo observation)).Perm
      (s'.observations.rows.filter
        (fun observation => Selects sourceId sourceType since upTo observation)))
    (tieFree : ∀ a ∈ s.observations.rows, ∀ b ∈ s.observations.rows,
      Selects sourceId sourceType since upTo a → Selects sourceId sourceType since upTo b →
      a ≠ b → a.timestamp = b.timestamp →
        limit ≤ (s.observations.rows.filter
          (fun observation => Selects sourceId sourceType since upTo observation)).countP
            (fun observation => a.timestamp < observation.timestamp))
    (order order' : OrderBy (Observation.newestFirst (φ := φ))) :
    listForSource s order sourceId sourceType limit since upTo =
      listForSource s' order' sourceId sourceType limit since upTo := by
  have arranged := order.perm (s.observations.rows.filter
    (fun observation => Selects sourceId sourceType since upTo observation))
  have arranged' := order'.perm (s'.observations.rows.filter
    (fun observation => Selects sourceId sourceType since upTo observation))
  apply take_eq_of_sorted limit (arranged.trans (perm.trans arranged'.symm)) (order.sorted _)
    (order'.sorted _)
  intro a member b member' different equal
  rw [arranged.countP_eq, countP_later]
  obtain ⟨stored, selected⟩ := List.mem_filter.mp (arranged.mem_iff.mp member)
  obtain ⟨stored', selected'⟩ := List.mem_filter.mp (arranged.mem_iff.mp member')
  exact tieFree a stored b stored' (of_decide_eq_true selected) (of_decide_eq_true selected')
    different (neg_injective equal)

theorem listForSource_tieFree (tieFree : TieFree s incident dependency windowEnd)
    (order order' : OrderBy (Observation.newestFirst (φ := φ))) :
    listForSource s order dependency.id "customer_check" 1000 incident.startedAt windowEnd =
      listForSource s order' dependency.id "customer_check" 1000 incident.startedAt windowEnd := by
  apply listForSource_eq (List.Perm.refl _)
  intro a stored b stored' selected selected'
  exact tieFree a (List.mem_filter.mpr ⟨stored, decide_eq_true selected⟩) b
    (List.mem_filter.mpr ⟨stored', decide_eq_true selected'⟩)

/-! ## With ties -/

/-- Documents with one canonical text list the observations with the same identifiers. -/
theorem ids_of_canonicalBytes (ids : Function.Injective lib.uuidText)
    {observations others : List (Observation φ)} {attribution : Option (AttributionResult φ)}
    (move : Observation φ → Observation φ) (moved : others = observations.map move)
    (equal : canonicalBytes lib
        (.obj (evidenceData lib incident dependency windowEnd observations attribution)) =
      canonicalBytes lib
        (.obj (evidenceData lib incident dependency windowEnd others attribution))) :
    ∀ observation ∈ observations, observation.id = (move observation).id := by
  have texts := (encodeDocument_inj lib false _ _).mp equal
  have distinct := evidenceData_distinct lib incident dependency windowEnd
  have documents := normal_of_dumps (distinct observations attribution)
    (distinct others attribution) texts
  have keys := (distinct observations attribution).1
  have left : ("observations", Value.arr (observations.map (observationPayload lib))) ∈
      evidenceData lib incident dependency windowEnd observations attribution := by
    simp [evidenceData]
  have right : ("observations", Value.arr (others.map (observationPayload lib))) ∈
      evidenceData lib incident dependency windowEnd others attribution := by
    simp [evidenceData]
  have arrays := normal_member_eq documents keys left right
  simp only [normal, normalElements_eq, List.map_map, moved, Value.arr.injEq] at arrays
  intro observation member
  have payloads : normal (observationPayload lib observation) =
      normal (observationPayload lib (move observation)) :=
    List.map_inj_left.mp arrays observation member
  have payloadKeys := (observationPayload_distinct lib observation).1
  have idThere (o : Observation φ) :
      ("id", Value.str (lib.uuidText o.id)) ∈ observationMembers lib o := List.mem_cons_self
  have same := normal_member_eq payloads payloadKeys (idThere observation)
    (idThere (move observation))
  simp only [normal, Value.str.injEq] at same
  exact ids same

/-- A run that renders and stores. -/
def plainRun (order : OrderBy (Observation.newestFirst (φ := φ))) : GenerationRun φ where
  now := 0
  order := order
  verificationId := "verification"
  generationKey := "key"
  renderPdf := fun dataHash => .ok dataHash.toUTF8
  upload := fun _ _ => .ok ()

/-- The members such a run hashes. -/
def hashedWith (lib : EvidenceLibrary φ) (s : EvidenceDatabase φ) (incident : Incident)
    (dependency : Dependency) (windowEnd : Instant)
    (order : OrderBy (Observation.newestFirst (φ := φ))) : List (String × Value φ) :=
  evidenceData lib incident dependency windowEnd
    (listForSource s order dependency.id "customer_check" 1000 incident.startedAt windowEnd)
    (s.attributionResults.get? incident.id)

/-- What a run over a resolved incident hashes, and that a run with any order succeeds. -/
structure Resolved (s : EvidenceDatabase φ) (incidentId : Uuid) (incident : Incident)
    (dependency : Dependency) (windowEnd : Instant) : Prop where
  stored : s.incidents.get? incidentId = some incident
  ended : incident.resolvedAt = some windowEnd
  live : dependencyById s incident.dependencyId = some dependency

theorem generated_hashed (resolved : Resolved s incidentId incident dependency windowEnd)
    {run : GenerationRun φ} {generated : Generated φ}
    (success : generateForIncident lib run s incidentId = .ok generated) :
    generated.evidence = hashedWith lib s incident dependency windowEnd run.order ∧
      generated.dataHash = lib.sha256Hex (canonicalBytes lib
        (.obj (hashedWith lib s incident dependency windowEnd run.order))) := by
  obtain ⟨stored, ended, live⟩ := resolved
  obtain ⟨found, lookup, success⟩ := Api.bind_eq_ok success
  rw [stored] at lookup
  cases lookup
  obtain ⟨active, lookup, success⟩ := Api.bind_eq_ok success
  rw [live] at lookup
  cases lookup
  rw [ended, Option.getD_some] at success
  extract_lets observations attribution evidence dataHash at success
  obtain ⟨pdfBytes, _, success⟩ := Api.bind_eq_ok success
  obtain ⟨_, _, success⟩ := Api.bind_eq_ok success
  obtain ⟨_, _, success⟩ := Api.bind_eq_ok success
  have same := Except.ok.inj success
  subst same
  exact ⟨rfl, rfl⟩

theorem plainRun_succeeds (lib : EvidenceLibrary φ)
    (resolved : Resolved s incidentId incident dependency windowEnd)
    (order : OrderBy (Observation.newestFirst (φ := φ))) :
    ∃ generated, generateForIncident lib (plainRun order) s incidentId = .ok generated := by
  obtain ⟨stored, ended, live⟩ := resolved
  unfold generateForIncident
  rw [stored, Api.require]
  simp only [bind, Except.bind, live, Api.require, plainRun]
  exact ⟨_, rfl⟩

/-- Two rows that tie within the limit are hashed in two orders. -/
theorem tieFree_of_reproducible (resolved : Resolved s incidentId incident dependency windowEnd)
    (ids : Function.Injective lib.uuidText) (hash : NoCollision lib s incidentId)
    (reproducible : Reproducible lib s incidentId) :
    TieFree s incident dependency windowEnd := by
  classical
  intro a member b member' different equal
  by_contra few
  have rowsNodup : (windowRows s incident dependency windowEnd).Nodup :=
    (List.Nodup.of_map _ s.observations.unique).filter _
  let order : OrderBy (Observation.newestFirst (φ := φ)) := OrderBy.stable _
  obtain ⟨c, among, sameTime⟩ := order.exists_among (n := 1000) member (by
    rw [countP_later]
    omega)
  -- one of the two tied rows is another one than `c`
  obtain ⟨d, there, other, tied⟩ : ∃ d ∈ windowRows s incident dependency windowEnd,
      c ≠ d ∧ c.newestFirst = d.newestFirst := by
    by_cases first : c = a
    · refine ⟨b, member', first ▸ different, ?_⟩
      rw [first, Observation.newestFirst, Observation.newestFirst, equal]
    · exact ⟨a, member, first, sameTime⟩
  have here : c ∈ windowRows s incident dependency windowEnd :=
    (order.mem_arrange _ c).mp (List.mem_of_mem_take among)
  obtain ⟨generated, success⟩ := plainRun_succeeds lib resolved order
  obtain ⟨generated', success'⟩ := plainRun_succeeds lib resolved
    (order.swapped c d tied)
  have hashes := reproducible _ _ _ _ success success'
  have bytes := hash _ _ _ _ success success' hashes
  rw [(generated_hashed resolved success).1, (generated_hashed resolved success').1] at bytes
  have moved := order.swapped_arrange tied rowsNodup here there
  have same := ids_of_canonicalBytes ids _ (by
    unfold listForSource
    exact (congrArg (List.take 1000) moved).trans List.map_take.symm) bytes c among
  rw [Equiv.swap_apply_left] at same
  have timestamps : c.timestamp = d.timestamp := neg_injective tied
  have sameKey : c.key = d.key := Prod.ext same timestamps
  have inRows (o : Observation φ) (inside : o ∈ windowRows s incident dependency windowEnd) :
      o ∈ s.observations.rows := (List.mem_filter.mp inside).1
  exact other (List.inj_on_of_nodup_map s.observations.unique (inRows c here) (inRows d there)
    sameKey)

/-- For a resolved incident the hash is one and the same in all runs if and only if
its window has no ties among the rows within the limit. -/
theorem reproducible_iff (lib : EvidenceLibrary φ) (s : EvidenceDatabase φ)
    (resolved : Resolved s incidentId incident dependency windowEnd)
    (ids : Function.Injective lib.uuidText) (hash : NoCollision lib s incidentId) :
    Reproducible lib s incidentId ↔ TieFree s incident dependency windowEnd := by
  constructor
  · exact tieFree_of_reproducible resolved ids hash
  · intro tieFree run run' generated generated' success success'
    have listed := listForSource_tieFree tieFree run.order run'.order
    rw [(generated_hashed resolved success).2, (generated_hashed resolved success').2]
    unfold hashedWith
    rw [listed]

/-! ## Two regions at one instant -/

/-- The sample functions with a hash that keeps the whole text. -/
def textLibrary : EvidenceLibrary Nat :=
  { sampleLibrary with sha256Hex := fun bytes => (String.fromUTF8? bytes).getD "" }

theorem textLibrary_ids : Function.Injective textLibrary.uuidText := by
  intro a b same
  have digits : Nat.toDigits 10 a = Nat.toDigits 10 b := by
    have texts : a.repr = b.repr := same
    rw [← Nat.toList_repr, texts, Nat.toList_repr]
  rw [← Nat.ofDigitChars_ten_toDigits (n := a), digits, Nat.ofDigitChars_ten_toDigits]

theorem textLibrary_noCollision (s : EvidenceDatabase Nat) (incidentId : Uuid) :
    NoCollision textLibrary s incidentId := by
  intro run run' generated generated' success success' same
  obtain ⟨_, _, _, _, _, _, hash, _⟩ := generated_evidence success
  obtain ⟨_, _, _, _, _, _, hash', _⟩ := generated_evidence success'
  have decoded (document : Value Nat) :
      textLibrary.sha256Hex (canonicalBytes textLibrary document) =
        String.ofList (dumps textLibrary.floats false document) := by
    change (String.fromUTF8? (String.toUTF8 _)).getD "" = _
    rw [fromUTF8_toUTF8]
    rfl
  rw [hash, hash', decoded, decoded] at same
  unfold canonicalBytes encodeDocument
  rw [same]

def sampleIncident : Incident := ⟨1, 2, 3, 10, some 20, "major", .resolved, "unknown", none⟩

def sampleDependency : Dependency :=
  ⟨3, 2, none, "Payments", "https://example.org", "GET", none, [200], 10, 60, none,
    ["us-east", "eu-west"], none, true, false⟩

/-- The check of one region, at the tick of the scheduler. -/
def sampleObservation (id : Uuid) (region : String) (timestamp : Instant) : Observation Nat :=
  ⟨id, timestamp, "customer_check", some 3, region, "https://example.org", 12, none, none,
    some "timeout", none⟩

def observed (first second : Instant) : EvidenceDatabase Nat where
  incidents := ⟨[sampleIncident], by decide⟩
  dependencies := ⟨[sampleDependency], by decide⟩
  attributionResults := .empty
  observations := ⟨[sampleObservation 4 "us-east" first, sampleObservation 5 "eu-west" second], by
    simp [Observation.key, sampleObservation]⟩

theorem observed_resolved (first second : Instant) :
    Resolved (observed first second) 1 sampleIncident sampleDependency 20 :=
  ⟨rfl, rfl, rfl⟩

theorem reproducible_iff_sample :
    Reproducible textLibrary (observed 15 16) 1 ↔
      TieFree (observed 15 16) sampleIncident sampleDependency 20 :=
  reproducible_iff textLibrary (observed 15 16) (observed_resolved 15 16) textLibrary_ids
    (textLibrary_noCollision _ 1)

/-- The checks of two regions carry one time stamp: two runs over the same rows
store different hashes. -/
theorem tied_observations_irreproducible : ¬ Reproducible textLibrary (observed 15 15) 1 := by
  intro reproducible
  have tieFree := tieFree_of_reproducible (observed_resolved 15 15) textLibrary_ids
    (textLibrary_noCollision _ 1) reproducible
  have rows : windowRows (observed 15 15) sampleIncident sampleDependency 20 =
      [sampleObservation 4 "us-east" 15, sampleObservation 5 "eu-west" 15] := rfl
  unfold TieFree at tieFree
  rw [rows] at tieFree
  have many := tieFree (sampleObservation 4 "us-east" 15) (by simp)
    (sampleObservation 5 "eu-west" 15) (by simp) (by simp [sampleObservation]) rfl
  have short := List.countP_le_length (p := fun observation : Observation Nat =>
      decide ((sampleObservation 4 "us-east" 15).timestamp < observation.timestamp))
    (l := [sampleObservation 4 "us-east" 15, sampleObservation 5 "eu-west" 15])
  simp only [List.length_cons, List.length_nil] at short
  omega

end Reliastra.Guarantees.EvidenceReproducible
