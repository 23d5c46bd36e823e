import Reliastra.Library.Interleaving
import Reliastra.Source.Evidence.Gate

/-!
# Downloads of public evidence, side by side

`download_evidence` of `app/modules/evidence_gate/service.py` statement by statement,
each request in a transaction of its own. A `SELECT` reads what is committed. The two
`UPDATE`s name their rows by the keys; a second update of a row waits for the commit of
the first and applies to what it finds then, so both take effect with the commit of their
request, and nobody sees them before. Every request locks its token and then its report.
-/

namespace Reliastra.Source.Evidence

open Reliastra.Library Api

/-- What is committed. `used` records the tokens of the requests that succeeded. -/
structure DownloadStore where
  gate : GateStore
  /-- `download_count` of each public report. -/
  downloadCount : Uuid → Nat
  used : List Uuid

inductive DownloadPhase where
  | idle
  /-- The token is read and not expired. -/
  | presented (token : EvidenceGateToken)
  /-- The report is read, and the file. -/
  | opened (token : EvidenceGateToken)
  | marked (token : EvidenceGateToken) (downloadedAt : Instant)
  | counted (token : EvidenceGateToken) (downloadedAt : Instant)

inductive DownloadAct where
  | present (token : String) (now : Instant)
  | openFile
  | markDownloaded (now : Instant)
  | incrementDownloadCount
  | commit
  /-- The request fails, or its connection is lost. -/
  | abort
  /-- A visitor is given a token. -/
  | issue (token : EvidenceGateToken)

def markRow (downloadedAt : Instant) (row : EvidenceGateToken) : EvidenceGateToken :=
  { row with downloadedAt := some downloadedAt }

theorem markRow_id (downloadedAt : Instant) (row : EvidenceGateToken) :
    (markRow downloadedAt row).id = row.id := rfl

namespace DownloadStore

/-- `mark_downloaded`. -/
def markToken (tokens : Table EvidenceGateToken.id) (id : Uuid) (downloadedAt : Instant) :
    Table EvidenceGateToken.id :=
  tokens.updateKey id (markRow downloadedAt) (markRow_id downloadedAt)

/-- `mark_downloaded` and `increment_download_count` of a request, with its commit. -/
def recordFirstUse (s : DownloadStore) (token : EvidenceGateToken) (downloadedAt : Instant) :
    DownloadStore where
  gate := { s.gate with tokens := markToken s.gate.tokens token.id downloadedAt }
  downloadCount := Function.update s.downloadCount token.reportId
    (s.downloadCount token.reportId + 1)
  used := s.used ++ [token.id]

/-- The commit of a request that found its token used. -/
def recordUse (s : DownloadStore) (token : EvidenceGateToken) : DownloadStore :=
  { s with used := s.used ++ [token.id] }

/-- `EvidenceGateTokenRepository.create`, for an unused token. -/
def issueToken (s : DownloadStore) (token : EvidenceGateToken) : DownloadStore :=
  match insertToken s.gate.tokens { token with downloadedAt := none } with
  | .ok tokens => { s with gate := { s.gate with tokens := tokens } }
  | .error _ => s

end DownloadStore

/-- The token of a request, where its row is found and has not expired. -/
def presentToken (env : GateEnvironment) (s : DownloadStore) (token : String) (now : Instant) :
    DownloadPhase :=
  match s.gate.tokens.rows.find? (fun t => t.tokenHash = env.sha256Hex token) with
  | some gateToken => if gateToken.expiresAt < now then .idle else .presented gateToken
  | none => .idle

/-- The public record of the token, its report and the file. -/
def openFile (env : GateEnvironment) (s : DownloadStore) (gateToken : EvidenceGateToken) :
    Except Failure (List UInt8) := do
  let pubReport ← require (s.gate.platform.workspace.publicReports.get? gateToken.reportId)
    (notFound "Public evidence report not found")
  let evidenceReport ← require (s.gate.platform.workspace.evidenceReports.get? pubReport.reportId)
    (notFound "Evidence report file not found")
  fileBytes env evidenceReport

def downloadAct (env : GateEnvironment) (_ : Nat) (s : DownloadStore) (phase : DownloadPhase)
    (act : DownloadAct) : DownloadStore × DownloadPhase :=
  match phase, act with
  | .idle, .present token now => (s, presentToken env s token now)
  | .presented token, .openFile =>
    match openFile env s token with
    | .ok _ => (s, .opened token)
    | .error _ => (s, .idle)
  | .opened token, .markDownloaded now =>
    -- `if gate_token.downloaded_at is None`, of the row as it was read
    if token.downloadedAt = none then (s, .marked token now) else (s, .opened token)
  | .marked token downloadedAt, .incrementDownloadCount => (s, .counted token downloadedAt)
  | .opened token, .commit =>
    if token.downloadedAt = none then (s, .opened token) else (s.recordUse token, .idle)
  | .counted token downloadedAt, .commit => (s.recordFirstUse token downloadedAt, .idle)
  | _, .abort => (s, .idle)
  | phase, .issue token => (s.issueToken token, phase)
  | phase, _ => (s, phase)

/-- The token a request is at work with. -/
def DownloadPhase.token? : DownloadPhase → Option EvidenceGateToken
  | .idle => none
  | .presented token => some token
  | .opened token => some token
  | .marked token _ => some token
  | .counted token _ => some token

/-- Everything an action can do: the store stays, and a request works with its token or
with a row it has just read; or a request commits; or a token is issued. -/
theorem downloadAct_cases (env : GateEnvironment) (i : Nat) (s : DownloadStore)
    (phase : DownloadPhase) (act : DownloadAct) :
    ((downloadAct env i s phase act).1 = s ∧
      ∀ token, (downloadAct env i s phase act).2.token? = some token →
        phase.token? = some token ∨ token ∈ s.gate.tokens.rows) ∨
    (∃ token, phase = .opened token ∧ act = .commit ∧ token.downloadedAt ≠ none ∧
      downloadAct env i s phase act = (s.recordUse token, .idle)) ∨
    (∃ token downloadedAt, phase = .counted token downloadedAt ∧ act = .commit ∧
      downloadAct env i s phase act = (s.recordFirstUse token downloadedAt, .idle)) ∨
    ∃ token, act = .issue token ∧ downloadAct env i s phase act = (s.issueToken token, phase) := by
  cases act with
  | present token now =>
    cases phase with
    | idle =>
      refine Or.inl ⟨rfl, fun read found => Or.inr ?_⟩
      have answer : (presentToken env s token now).token? = some read := found
      unfold presentToken at answer
      split at answer
      · next row lookup =>
        split at answer
        · cases answer
        · cases answer
          exact List.mem_of_find?_eq_some lookup
      · cases answer
    | _ => exact Or.inl ⟨rfl, fun _ same => Or.inl same⟩
  | openFile =>
    cases phase with
    | presented token =>
      refine Or.inl ?_
      unfold downloadAct
      dsimp only
      cases openFile env s token with
      | ok content => exact ⟨rfl, fun _ same => Or.inl same⟩
      | error failure => exact ⟨rfl, fun _ same => by cases same⟩
    | _ => exact Or.inl ⟨rfl, fun _ same => Or.inl same⟩
  | markDownloaded now =>
    cases phase with
    | opened token =>
      refine Or.inl ?_
      unfold downloadAct
      dsimp only
      by_cases unused : token.downloadedAt = none
      · rw [if_pos unused]
        exact ⟨rfl, fun _ same => Or.inl same⟩
      · rw [if_neg unused]
        exact ⟨rfl, fun _ same => Or.inl same⟩
    | _ => exact Or.inl ⟨rfl, fun _ same => Or.inl same⟩
  | incrementDownloadCount => cases phase <;> exact Or.inl ⟨rfl, fun _ same => Or.inl same⟩
  | commit =>
    cases phase with
    | opened token =>
      by_cases unused : token.downloadedAt = none
      · refine Or.inl ?_
        unfold downloadAct
        dsimp only
        rw [if_pos unused]
        exact ⟨rfl, fun _ same => Or.inl same⟩
      · refine Or.inr (Or.inl ⟨token, rfl, rfl, unused, ?_⟩)
        exact if_neg unused
    | counted token downloadedAt => exact Or.inr (Or.inr (Or.inl ⟨token, downloadedAt, rfl, rfl, rfl⟩))
    | _ => exact Or.inl ⟨rfl, fun _ same => Or.inl same⟩
  | abort => cases phase <;> exact Or.inl ⟨rfl, fun _ same => by cases same⟩
  | issue token => cases phase <;> exact Or.inr (Or.inr (Or.inr ⟨token, rfl, rfl⟩))

/-- Nobody is downloading. -/
def downloadsStart (gate : GateStore) (downloadCount : Uuid → Nat) (used : List Uuid) :
    World DownloadStore Nat DownloadPhase :=
  ⟨⟨gate, downloadCount, used⟩, fun _ => .idle⟩

end Reliastra.Source.Evidence
