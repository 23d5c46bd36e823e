import Reliastra.Source.Evidence.Gate

/-!
# Does unpublishing a report revoke access to it?

`process_gate` issues no token for a private report. `download_evidence` asks the
token for its age and never the report for its visibility: a token issued while the
report was public opens it for as long as the token lives. `revokesAccess_iff` says
that nothing else does.
-/

namespace Reliastra.Guarantees.Unpublishing

open Reliastra.Library Source Source.Api Source.Evidence

/-! ## The property -/

/-- The visibility that a request gives to an evidence report. -/
def publicityGiven (s : GateStore) (reportId : Uuid) : GateOp → Option Bool
  | .publicize env orgId request =>
    match publicizeEvidence env orgId request s.platform with
    | .ok after =>
      if ∃ p ∈ after.workspace.publicReports.rows,
          p.reportId = reportId ∧ p.incidentId = request.incidentId then some request.makePublic
      else none
    | .error _ => none
  | .processGate _ _ _ | .download _ _ => none

/-- What the last request of a run said that said something. -/
def lastPublicity (s : GateStore) (reportId : Uuid) : List GateOp → Option Bool
  | [] => none
  | op :: rest =>
    (lastPublicity (gateStep s op) reportId rest).orElse (fun _ => publicityGiven s reportId op)

/-- The call returns the file of the report. -/
def Returns (s : GateStore) (reportId : Uuid) : GateOp → Prop
  | .download env token => ∃ gateToken pubReport report answer,
    downloadable env token s = .ok (gateToken, pubReport, report) ∧ report.id = reportId ∧
      downloadEvidence env token s = .ok answer
  | .publicize _ _ _ | .processGate _ _ _ => False

/-- A report that was made private is returned by no call until it is public again. -/
def RevokesAccess (s : GateStore) (run : List GateOp) : Prop :=
  ∀ before op after reportId, run = before ++ op :: after →
    lastPublicity s reportId before = some false →
      ¬ Returns (Run.exec gateStep s before) reportId op

/-- The token is known and alive, its report is private, and the file is there. -/
def OpensPrivate (s : GateStore) (env : GateEnvironment) (token : String) : Prop :=
  ∃ gateToken ∈ s.tokens.rows.find? (fun t => t.tokenHash = env.sha256Hex token),
    env.service.now ≤ gateToken.expiresAt ∧
    ∃ pubReport ∈ s.platform.workspace.publicReports.get? gateToken.reportId,
      pubReport.isPublic = false ∧
      ∃ report ∈ s.platform.workspace.evidenceReports.get? pubReport.reportId,
        ∃ content, env.downloadBytes report.filePath = .bytes content

def PresentsNone (s : GateStore) : GateOp → Prop
  | .download env token => ¬ OpensPrivate s env token
  | .publicize _ _ _ | .processGate _ _ _ => True

/-! ## Public records -/

/-- A public record is of a report of its incident, and no other is of that
incident. -/
structure Linked (w : Workspace) : Prop where
  report : ∀ p ∈ w.publicReports.rows, ∃ r ∈ w.evidenceReports.rows,
    r.id = p.reportId ∧ r.incidentId = p.incidentId
  one : ∀ p ∈ w.publicReports.rows, ∀ q ∈ w.publicReports.rows, p.incidentId = q.incidentId → p = q

theorem Linked.eq {w : Workspace} (linked : Linked w) {p q : PublicEvidenceReport}
    (member : p ∈ w.publicReports.rows) (member' : q ∈ w.publicReports.rows)
    (same : p.reportId = q.reportId) : p = q := by
  obtain ⟨r, stored, id, incident⟩ := linked.report p member
  obtain ⟨r', stored', id', incident'⟩ := linked.report q member'
  have equal : r = r' := Table.eq_of_key stored stored' (id.trans (same.trans id'.symm))
  exact linked.one p member q member' (incident.symm.trans (equal ▸ incident'))

/-- What is known of a report's visibility is what its record says. -/
def Agrees (w : Workspace) (reportId : Uuid) (known : Option Bool) : Prop :=
  ∀ visible, known = some visible ↔
    ∃ p ∈ w.publicReports.rows, p.reportId = reportId ∧ p.isPublic = visible

/-! ## What a request does to the records -/

/-- The first row of a sorted selection is one of the selected rows. -/
theorem mem_of_head?_insertionSort {ρ : Type} {le : ρ → ρ → Prop} [DecidableRel le] {p : ρ → Bool}
    {rows : List ρ} {row : ρ} (first : ((rows.filter p).insertionSort le).head? = some row) :
    row ∈ rows ∧ p row = true :=
  List.mem_filter.mp ((List.mem_insertionSort le).mp (List.mem_of_head? first))

theorem forall_of_head?_insertionSort {ρ : Type} {le : ρ → ρ → Prop} [DecidableRel le]
    {p : ρ → Bool} {rows : List ρ} (none : ((rows.filter p).insertionSort le).head? = none) :
    ∀ row ∈ rows, ¬ p row = true := by
  have empty := List.head?_eq_none_iff.mp none
  have selected : rows.filter p = [] := by
    rw [← List.perm_nil, ← empty]
    exact (List.perm_insertionSort le _).symm
  exact List.filter_eq_nil_iff.mp selected

/-- `publicize_evidence` sets the record of the incident, or adds one. -/
theorem publicizeEvidence_ok {env : ServiceEnvironment} {orgId : Uuid}
    {request : PublicizeEvidenceRequest} {s t : Platform}
    (published : publicizeEvidence env orgId request s = .ok t) :
    t.workspace.evidenceReports = s.workspace.evidenceReports ∧
    ((∃ p ∈ s.workspace.publicReports.rows, p.incidentId = request.incidentId ∧
      ∀ row, row ∈ t.workspace.publicReports.rows ↔
        row = updatedPublicity request p ∨ row ∈ s.workspace.publicReports.rows ∧ row ≠ p) ∨
    (∀ p ∈ s.workspace.publicReports.rows, p.incidentId ≠ request.incidentId) ∧
      request.makePublic = true ∧
      ∃ r ∈ s.workspace.evidenceReports.rows, r.incidentId = request.incidentId ∧
        ∃ p, p.incidentId = request.incidentId ∧ p.reportId = r.id ∧ p.isPublic = true ∧
          t.workspace.publicReports.rows = s.workspace.publicReports.rows ++ [p]) := by
  unfold publicizeEvidence at published
  obtain ⟨incident, found, published⟩ := bind_eq_ok published
  obtain ⟨report, newest, published⟩ := bind_eq_ok published
  have own : incident.id = request.incidentId :=
    ((Table.get?_eq_some_iff _ _ _).mp (requireOwned_eq_ok.mp found).1).2
  obtain ⟨stored, ofIncident⟩ := mem_of_head?_insertionSort (require_eq_ok.mp newest)
  have ofIncident := of_decide_eq_true ofIncident
  cases existing : publicReportOfIncident s.workspace incident.id with
  | some p =>
    rw [existing] at published
    cases published
    obtain ⟨member, same⟩ := mem_of_head?_insertionSort existing
    exact ⟨rfl, .inl ⟨p, member, (of_decide_eq_true same).trans own, fun row =>
      Table.mem_updateKey_iff (f := updatedPublicity request) (fun _ => rfl) member⟩⟩
  | none =>
    rw [existing] at published
    obtain ⟨_, wanted, published⟩ := bind_eq_ok published
    obtain ⟨publicReports, added, published⟩ := bind_eq_ok published
    cases published
    have rows := (Table.insert_eq_some (flushNew_eq_ok.mp added)).2
    refine ⟨rfl, .inr ⟨fun p member same => ?_, ?_, report, stored, ofIncident.trans own, _, own,
      rfl, rfl, rows⟩⟩
    · exact forall_of_head?_insertionSort existing p member (decide_eq_true (same.trans own.symm))
    · simpa using refuseIf_eq_ok.mp wanted

theorem openGateAccount_ok {env : GateEnvironment} {request : EvidenceGateRequest}
    {s t : Platform} (opened : openGateAccount env request s = .ok t) :
    t.workspace = s.workspace := by
  unfold openGateAccount at opened
  obtain ⟨users, _, opened⟩ := bind_eq_ok opened
  cases named : request.orgName.filter (· ≠ "") with
  | none =>
    rw [named] at opened
    cases opened
    rfl
  | some name =>
    rw [named] at opened
    obtain ⟨_, _, opened⟩ := bind_eq_ok opened
    obtain ⟨_, _, opened⟩ := bind_eq_ok opened
    cases opened
    rfl

/-- The other two requests leave the records and the reports alone; a token is issued
for a public record only. -/
theorem processGate_ok {env : GateEnvironment} {request : EvidenceGateRequest}
    {clientIp : Option String} {s t : GateStore} {response : EvidenceGateResponse}
    (passed : processGate env request clientIp s = .ok (response, t)) :
    t.platform.workspace = s.platform.workspace ∧
      ∃ p ∈ s.platform.workspace.publicReports.rows, p.id = response.reportId ∧ p.isPublic = true := by
  unfold processGate at passed
  obtain ⟨p, found, passed⟩ := bind_eq_ok passed
  obtain ⟨q, visible, checked⟩ := bind_eq_ok found
  obtain ⟨_, _, checked⟩ := bind_eq_ok checked
  cases checked
  obtain ⟨newest, isPublic⟩ := Option.filter_eq_some_iff.mp (require_eq_ok.mp visible)
  have stored := (mem_of_head?_insertionSort newest).1
  cases known : userByEmail env.service s.platform request.email with
  | some user =>
    rw [known] at passed
    obtain ⟨_, _, passed⟩ := bind_eq_ok passed
    cases passed
    exact ⟨rfl, p, stored, rfl, isPublic⟩
  | none =>
    rw [known] at passed
    obtain ⟨platform, opened, passed⟩ := bind_eq_ok passed
    obtain ⟨_, _, passed⟩ := bind_eq_ok passed
    cases passed
    exact ⟨openGateAccount_ok opened, p, stored, rfl, isPublic⟩

theorem downloadEvidence_ok {env : GateEnvironment} {token : String} {s t : GateStore}
    {file : List UInt8 × String} (downloaded : downloadEvidence env token s = .ok (file, t)) :
    t.platform = s.platform := by
  unfold downloadEvidence at downloaded
  obtain ⟨_, _, downloaded⟩ := bind_eq_ok downloaded
  obtain ⟨_, _, downloaded⟩ := bind_eq_ok downloaded
  cases downloaded
  rfl

/-! ## One request -/

section Publicize
variable {env : ServiceEnvironment} {orgId : Uuid} {request : PublicizeEvidenceRequest}
  {s t : Platform}

theorem linked_publicize (linked : Linked s.workspace)
    (published : publicizeEvidence env orgId request s = .ok t) : Linked t.workspace := by
  obtain ⟨reports, ⟨p, member, incident, mine⟩ |
    ⟨fresh, _, r, stored, ofIncident, p, incident, ofReport, _, rows⟩⟩ :=
      publicizeEvidence_ok published
  · constructor
    · intro row inside
      rw [mine] at inside
      rw [reports]
      rcases inside with rfl | ⟨old, _⟩
      · exact linked.report p member
      · exact linked.report row old
    · intro row inside row' inside' same
      rw [mine] at inside inside'
      rcases inside with rfl | ⟨old, other⟩ <;> rcases inside' with rfl | ⟨old', other'⟩
      · rfl
      · exact absurd (linked.one p member row' old' same).symm other'
      · exact absurd (linked.one row old p member same) other
      · exact linked.one row old row' old' same
  · constructor
    · intro row inside
      rw [rows, List.mem_append, List.mem_singleton] at inside
      rw [reports]
      rcases inside with old | rfl
      · exact linked.report row old
      · exact ⟨r, stored, ofReport.symm, ofIncident.trans incident.symm⟩
    · intro row inside row' inside' same
      rw [rows, List.mem_append, List.mem_singleton] at inside inside'
      rcases inside with old | rfl <;> rcases inside' with old' | rfl
      · exact linked.one row old row' old' same
      · exact absurd (same.trans incident) (fresh row old)
      · exact absurd (same.symm.trans incident) (fresh row' old')
      · rfl

/-- After a request for the report's incident its record says what was asked for; no
other record changes. -/
theorem agrees_publicize (linked : Linked s.workspace) {reportId : Uuid} {known : Option Bool}
    (agrees : Agrees s.workspace reportId known)
    (published : publicizeEvidence env orgId request s = .ok t) :
    Agrees t.workspace reportId
      (if ∃ p ∈ t.workspace.publicReports.rows,
          p.reportId = reportId ∧ p.incidentId = request.incidentId then some request.makePublic
        else known) := by
  have linked' := linked_publicize linked published
  obtain ⟨_, ⟨p, member, incident, mine⟩ |
    ⟨fresh, asked, r, stored, ofIncident, p, incident, ofReport, visible, rows⟩⟩ :=
      publicizeEvidence_ok published
  · split
    · next named =>
      obtain ⟨row, inside, ofReport, same⟩ := named
      have updated : (updatedPublicity request p) ∈ t.workspace.publicReports.rows :=
        (mine _).mpr (.inl rfl)
      obtain rfl := linked'.one _ inside _ updated (same.trans incident.symm)
      intro seen
      constructor
      · rintro ⟨⟩
        exact ⟨_, updated, ofReport, rfl⟩
      · rintro ⟨other, inside', ofReport', rfl⟩
        rw [linked'.eq inside' updated (ofReport'.trans ofReport.symm)]
        rfl
    · next unnamed =>
      have elsewhere : p.reportId ≠ reportId := fun same =>
        unnamed ⟨_, (mine _).mpr (.inl rfl), same, incident⟩
      intro seen
      rw [agrees seen]
      refine exists_congr (fun row => ?_)
      rw [mine]
      constructor
      · rintro ⟨old, ofReport, shown⟩
        exact ⟨.inr ⟨old, fun same => elsewhere (same ▸ ofReport)⟩, ofReport, shown⟩
      · rintro ⟨rfl | ⟨old, _⟩, ofReport, shown⟩
        · exact absurd ofReport elsewhere
        · exact ⟨old, ofReport, shown⟩
  · have mine (row : PublicEvidenceReport) :
        row ∈ t.workspace.publicReports.rows ↔
          row ∈ s.workspace.publicReports.rows ∨ row = p := by
      rw [rows, List.mem_append, List.mem_singleton]
    have added : p ∈ t.workspace.publicReports.rows := (mine p).mpr (.inr rfl)
    split
    · next named =>
      obtain ⟨row, inside, ofReport', same⟩ := named
      obtain rfl := linked'.one row inside p added (same.trans incident.symm)
      rw [asked]
      intro seen
      constructor
      · rintro ⟨⟩
        exact ⟨row, added, ofReport', visible⟩
      · rintro ⟨other, inside', ofOther, rfl⟩
        rw [linked'.eq inside' added (ofOther.trans ofReport'.symm), visible]
    · next unnamed =>
      have elsewhere : p.reportId ≠ reportId := fun same => unnamed ⟨p, added, same, incident⟩
      intro seen
      rw [agrees seen]
      refine exists_congr (fun row => ?_)
      rw [mine]
      constructor
      · rintro ⟨old, rest⟩
        exact ⟨.inl old, rest⟩
      · rintro ⟨old | rfl, ofReport', shown⟩
        · exact ⟨old, ofReport', shown⟩
        · exact absurd ofReport' elsewhere

end Publicize

section Steps
variable {s : GateStore} {op : GateOp}

theorem linked_step (linked : Linked s.platform.workspace) (op : GateOp) :
    Linked (gateStep s op).platform.workspace := by
  cases op with
  | publicize env orgId request =>
    simp only [gateStep]
    cases published : publicizeEvidence env orgId request s.platform with
    | ok t => exact linked_publicize linked published
    | error failure => exact linked
  | processGate env request clientIp =>
    simp only [gateStep]
    cases passed : processGate env request clientIp s with
    | ok after =>
      rw [(processGate_ok passed).1]
      exact linked
    | error failure => exact linked
  | download env token =>
    simp only [gateStep]
    cases downloaded : downloadEvidence env token s with
    | ok after =>
      rw [downloadEvidence_ok downloaded]
      exact linked
    | error failure => exact linked

theorem agrees_step (linked : Linked s.platform.workspace) {reportId : Uuid} {known : Option Bool}
    (agrees : Agrees s.platform.workspace reportId known) (op : GateOp) :
    Agrees (gateStep s op).platform.workspace reportId
      ((publicityGiven s reportId op).orElse (fun _ => known)) := by
  cases op with
  | publicize env orgId request =>
    simp only [gateStep, publicityGiven]
    cases published : publicizeEvidence env orgId request s.platform with
    | ok t =>
      have after := agrees_publicize linked agrees published
      dsimp only
      split at after
      · next named => rwa [if_pos named]
      · next unnamed => rwa [if_neg unnamed]
    | error failure => exact agrees
  | processGate env request clientIp =>
    simp only [gateStep, publicityGiven]
    cases passed : processGate env request clientIp s with
    | ok after =>
      dsimp only
      rw [(processGate_ok passed).1]
      exact agrees
    | error failure => exact agrees
  | download env token =>
    simp only [gateStep, publicityGiven]
    cases downloaded : downloadEvidence env token s with
    | ok after =>
      dsimp only
      rw [downloadEvidence_ok downloaded]
      exact agrees
    | error failure => exact agrees

end Steps

/-! ## Runs -/

section Runs
variable {s : GateStore}

theorem linked_exec (linked : Linked s.platform.workspace) (run : List GateOp) :
    Linked (Run.exec gateStep s run).platform.workspace := by
  have keeps (before : GateStore) (op : GateOp) (here : Linked before.platform.workspace) :
      Linked (gateStep before op).platform.workspace := linked_step here op
  exact Run.exec_invariant keeps s run linked

theorem agrees_exec (linked : Linked s.platform.workspace) {reportId : Uuid} {known : Option Bool}
    (agrees : Agrees s.platform.workspace reportId known) (run : List GateOp) :
    Agrees (Run.exec gateStep s run).platform.workspace reportId
      ((lastPublicity s reportId run).orElse (fun _ => known)) := by
  induction run generalizing s known with
  | nil => exact agrees
  | cons op rest ih =>
    have later := ih (linked_step linked op) (agrees_step linked agrees op)
    rw [Run.exec_cons]
    unfold lastPublicity
    cases said : lastPublicity (gateStep s op) reportId rest with
    | none => simpa [said] using later
    | some visible => simpa [said] using later

/-- What a download has read when it returns a file. -/
theorem returns_download_iff {env : GateEnvironment} {token : String} {reportId : Uuid} :
    Returns s reportId (.download env token) ↔
      ∃ gateToken ∈ s.tokens.rows.find? (fun t => t.tokenHash = env.sha256Hex token),
        env.service.now ≤ gateToken.expiresAt ∧
        ∃ pubReport ∈ s.platform.workspace.publicReports.get? gateToken.reportId,
          ∃ report ∈ s.platform.workspace.evidenceReports.get? pubReport.reportId,
            report.id = reportId ∧ ∃ content, env.downloadBytes report.filePath = .bytes content := by
  constructor
  · rintro ⟨gateToken, p, report, answer, read, same, downloaded⟩
    unfold downloadEvidence at downloaded
    rw [read] at downloaded
    obtain ⟨_, ⟨⟩, downloaded⟩ := bind_eq_ok downloaded
    obtain ⟨content, there, _⟩ := bind_eq_ok downloaded
    unfold downloadable at read
    obtain ⟨_, found, read⟩ := bind_eq_ok read
    obtain ⟨_, alive, read⟩ := bind_eq_ok read
    obtain ⟨_, record, read⟩ := bind_eq_ok read
    obtain ⟨_, stored, read⟩ := bind_eq_ok read
    cases read
    refine ⟨gateToken, require_eq_ok.mp found, not_lt.mp (refuseIf_eq_ok.mp alive), p,
      require_eq_ok.mp record, report, require_eq_ok.mp stored, same, content, ?_⟩
    unfold fileBytes at there
    split at there
    · next answered =>
      cases there
      exact answered
    · cases there
    · cases there
  · rintro ⟨gateToken, found, alive, p, record, report, stored, same, content, there⟩
    have read : downloadable env token s = .ok (gateToken, p, report) :=
      bind_eq_ok_iff.mpr ⟨gateToken, require_eq_ok.mpr found,
        bind_eq_ok_iff.mpr ⟨(), refuseIf_eq_ok.mpr (not_lt.mpr alive),
          bind_eq_ok_iff.mpr ⟨p, require_eq_ok.mpr record,
            bind_eq_ok_iff.mpr ⟨report, require_eq_ok.mpr stored, rfl⟩⟩⟩⟩
    have file : fileBytes env report = .ok content := by
      unfold fileBytes
      rw [there]
    have downloaded : downloadEvidence env token s = .ok ((content, downloadFilename env p),
        ⟨s.platform, s.tokens.updateKey gateToken.id (markDownloaded env.service.now)
          (fun _ => rfl)⟩) :=
      bind_eq_ok_iff.mpr ⟨_, read, bind_eq_ok_iff.mpr ⟨content, file, rfl⟩⟩
    exact ⟨gateToken, p, report, _, read, same, downloaded⟩

/-- One request on a store whose records are as the run so far left them. -/
theorem not_returns_iff {reportId : Uuid → Option Bool} (linked : Linked s.platform.workspace)
    (agrees : ∀ id, Agrees s.platform.workspace id (reportId id)) (op : GateOp) :
    (∀ id, reportId id = some false → ¬ Returns s id op) ↔ PresentsNone s op := by
  cases op with
  | publicize | processGate => exact iff_of_true (fun _ _ returned => returned) trivial
  | download env token =>
    unfold PresentsNone OpensPrivate
    constructor
    · rintro never ⟨gateToken, found, alive, p, record, hidden, report, stored, content⟩
      obtain ⟨member, _⟩ := (Table.get?_eq_some_iff _ _ _).mp record
      obtain ⟨_, own⟩ := (Table.get?_eq_some_iff _ _ _).mp stored
      refine never p.reportId ((agrees _ false).mpr ⟨p, member, rfl, hidden⟩) ?_
      exact returns_download_iff.mpr ⟨gateToken, found, alive, p, record, report, stored, own, content⟩
    · intro none id hidden returned
      obtain ⟨gateToken, found, alive, p, record, report, stored, same, content⟩ :=
        returns_download_iff.mp returned
      obtain ⟨member, _⟩ := (Table.get?_eq_some_iff _ _ _).mp record
      obtain ⟨_, own⟩ := (Table.get?_eq_some_iff _ _ _).mp stored
      obtain ⟨q, member', ofReport, isPrivate⟩ := (agrees id false).mp hidden
      obtain rfl := linked.eq member' member (ofReport.trans (same.symm.trans own))
      exact none ⟨gateToken, found, alive, q, record, isPrivate, report, stored, content⟩

/-- From a store without public records, unpublishing revokes access in a run just if
no request of it presents a live token for a report that is private at the time. -/
theorem revokesAccess_iff (s : GateStore) (run : List GateOp)
    (unpublished : s.platform.workspace.publicReports.rows = []) :
    RevokesAccess s run ↔ Run.AllSteps gateStep PresentsNone s run := by
  have linked : Linked s.platform.workspace := by
    constructor <;> simp [unpublished]
  have unknown (id : Uuid) : Agrees s.platform.workspace id none := by
    intro visible
    simp [unpublished]
  have agrees (before : List GateOp) (id : Uuid) :
      Agrees (Run.exec gateStep s before).platform.workspace id (lastPublicity s id before) := by
    have after := agrees_exec linked (unknown id) before
    simpa using after
  rw [Run.allSteps_iff_split]
  constructor
  · intro revokes before op after split
    refine (not_returns_iff (linked_exec linked before) (agrees before) op).mp ?_
    exact fun id hidden => revokes before op after id split hidden
  · intro none before op after id split hidden
    exact (not_returns_iff (linked_exec linked before) (agrees before) op).mpr
      (none before op after split) id hidden

end Runs

/-! ## A token from the public days -/

def gateServer (now : Instant) : GateEnvironment where
  service := { plainServer oneTokenCredentials with now := now }
  sha256Hex token := "sha256:" ++ token
  rawToken := "raw"
  randomPassword := "password"
  dashed text := text
  idPrefix _ := "00000000"
  downloadBytes _ := .bytes [37, 80, 68, 70]
  reportTokenTtlDays := 7
  frontendBaseUrl := "https://app.example"

/-- An incident of an organization with its evidence report. -/
def reportedStore : GateStore where
  platform :=
    { users := .empty
      organizations := .empty
      members := .empty
      apiKeys := .empty
      workspace := ⟨.empty, .empty, .empty,
        ⟨[⟨31, 1, 21, 0, none, "critical", .opened, "unknown", none⟩], by decide⟩, .empty, .empty,
        ⟨[⟨41, 1, 31, "evidence/41.pdf", 4, "", 10⟩], by decide⟩, .empty, .empty, .empty, .empty,
        .empty, .empty, .empty, .empty, .empty⟩
      community := ⟨.empty, .empty, .empty, .empty, .empty, .empty, .empty⟩
      partners := ⟨.empty, .empty, .empty, .empty⟩ }
  tokens := .empty

def publicized (makePublic : Bool) : GateOp :=
  .publicize (gateServer 0).service 1 ⟨31, makePublic, none, none⟩

def visit : GateOp := .processGate (gateServer 0) ⟨"v@x.example", none, 31, "unknown", none⟩ none

/-- One day after the token was issued. -/
def nextDay : GateOp := .download (gateServer (daysToMicros 1)) "raw"

/-- Published, visited and made private again. -/
def unpublishing : List GateOp := [publicized true, visit, publicized false]

theorem revokesAccess_iff_unpublishing :
    RevokesAccess reportedStore (unpublishing ++ [nextDay]) ↔
      Run.AllSteps gateStep PresentsNone reportedStore (unpublishing ++ [nextDay]) :=
  revokesAccess_iff reportedStore (unpublishing ++ [nextDay]) rfl

/-- The private report is downloaded. -/
theorem old_token_opens : ¬ RevokesAccess reportedStore (unpublishing ++ [nextDay]) := by
  intro revokes
  refine revokes unpublishing nextDay [] 41 rfl (by decide) (returns_download_iff.mpr ?_)
  refine ⟨_, rfl, by decide, _, rfl, _, rfl, rfl, _, rfl⟩

end Reliastra.Guarantees.Unpublishing
