import Reliastra.Guarantees.Unpublishing
import Reliastra.Source.Evidence.ConcurrentDownloads

/-!
# Evidence downloads count once per token

The count of a report should be the number of its tokens that are marked as downloaded,
and those should be the tokens that were used. A request decides by the row it has read
whether its use is the first, and marks the token whatever has become of the row since.
So the count is right exactly as long as every first use is committed before another
request has marked the token.
-/

namespace Reliastra.Guarantees.DownloadCounts

open Reliastra.Library Source Source.Evidence

abbrev Downloads := World DownloadStore Nat DownloadPhase

def marked (reportId : Uuid) (token : EvidenceGateToken) : Bool :=
  token.reportId = reportId ∧ token.downloadedAt.isSome

/-- The count of every report is the number of its marked tokens, and the marked tokens
are those that have been used. -/
structure CountsOnce (s : DownloadStore) : Prop where
  count : ∀ reportId, s.downloadCount reportId = s.gate.tokens.rows.countP (marked reportId)
  used : ∀ token ∈ s.gate.tokens.rows, token.downloadedAt.isSome ↔ token.id ∈ s.used

/-- A commit of a first use finds its token unmarked. -/
def FirstUse (w : Downloads) (move : Nat × DownloadAct) : Prop :=
  ∀ token downloadedAt, w.locals move.1 = .counted token downloadedAt → move.2 = .commit →
    ∀ row ∈ w.shared.gate.tokens.rows, row.id = token.id → row.downloadedAt = none

/-! ## The invariant -/

/-- What is used has a row. -/
def UsedStored (s : DownloadStore) : Prop := ∀ id ∈ s.used, id ∈ s.gate.tokens.rows.map (·.id)

/-- The row of a token that a request has read: no less marked than it was. -/
def RowOf (s : DownloadStore) (token row : EvidenceGateToken) : Prop :=
  row ∈ s.gate.tokens.rows ∧ row.id = token.id ∧ row.reportId = token.reportId ∧
    (token.downloadedAt.isSome → row.downloadedAt.isSome)

/-- The token of a request has its row. -/
def TokenStored (_ : Nat) (s : DownloadStore) (phase : DownloadPhase) : Prop :=
  ∀ token, phase.token? = some token → ∃ row, RowOf s token row

/-- Every row of one state has its row in the other. -/
def Grows (s after : DownloadStore) : Prop :=
  ∀ row ∈ s.gate.tokens.rows, ∃ later, RowOf after row later

theorem TokenStored.mono {i : Nat} {s after : DownloadStore} {phase : DownloadPhase}
    (stored : TokenStored i s phase) (grows : Grows s after) : TokenStored i after phase := by
  intro token held
  obtain ⟨row, member, id, report, kept⟩ := stored token held
  obtain ⟨later, place, sameId, sameReport, stays⟩ := grows row member
  exact ⟨later, place, sameId.trans id, sameReport.trans report, fun some => stays (kept some)⟩

theorem grows_refl (s : DownloadStore) : Grows s s := fun row member => ⟨row, member, rfl, rfl, id⟩

/-! ## What a commit does to the counts -/

variable {s : DownloadStore} {token : EvidenceGateToken} (downloadedAt : Instant)

/-- The rows after a first use. -/
theorem mem_recordFirstUse {row : EvidenceGateToken} (member : row ∈ s.gate.tokens.rows)
    (here : row.id = token.id) (other : EvidenceGateToken) :
    other ∈ (s.recordFirstUse token downloadedAt).gate.tokens.rows ↔
      other = markRow downloadedAt row ∨ other ∈ s.gate.tokens.rows ∧ other ≠ row := by
  show other ∈ (s.gate.tokens.updateKey token.id (markRow downloadedAt) (markRow_id downloadedAt)).rows ↔ _
  rw [← here]
  exact Table.mem_updateKey_iff (markRow_id downloadedAt) member

theorem grows_recordFirstUse {row : EvidenceGateToken} (member : row ∈ s.gate.tokens.rows)
    (here : row.id = token.id) : Grows s (s.recordFirstUse token downloadedAt) := by
  intro other place
  by_cases same : other = row
  · rw [same]
    exact ⟨_, (mem_recordFirstUse downloadedAt member here _).mpr (Or.inl rfl), rfl, rfl, fun _ => rfl⟩
  · exact ⟨other, (mem_recordFirstUse downloadedAt member here _).mpr (Or.inr ⟨place, same⟩), rfl, rfl, id⟩

/-- A first use marks one token of its report, unless that was marked already. -/
theorem countP_recordFirstUse {row : EvidenceGateToken} (member : row ∈ s.gate.tokens.rows)
    (here : row.id = token.id) (reportId : Uuid) :
    (s.recordFirstUse token downloadedAt).gate.tokens.rows.countP (marked reportId) +
        (if marked reportId row then 1 else 0) =
      s.gate.tokens.rows.countP (marked reportId) + (if row.reportId = reportId then 1 else 0) := by
  show (s.gate.tokens.updateKey token.id (markRow downloadedAt) (markRow_id downloadedAt)).rows.countP _ + _ = _
  rw [← here, Table.countP_updateKey (markRow_id downloadedAt) member]
  simp [marked, markRow]

/-! ## One move -/

/-- The invariant of the store. -/
def Sound (s : DownloadStore) : Prop := CountsOnce s ∧ UsedStored s

/-- A first use that finds its token unmarked keeps the counts right. -/
theorem sound_recordFirstUse {row : EvidenceGateToken} (sound : Sound s)
    (stored : RowOf s token row) (unmarked : row.downloadedAt = none) :
    Sound (s.recordFirstUse token downloadedAt) := by
  obtain ⟨⟨count, used⟩, rows⟩ := sound
  obtain ⟨member, here, report, _⟩ := stored
  have inside := mem_recordFirstUse downloadedAt member here
  refine ⟨⟨fun reportId => ?_, fun other place => ?_⟩, fun id present => ?_⟩
  · have change := countP_recordFirstUse downloadedAt member here reportId
    have before := count reportId
    show Function.update s.downloadCount token.reportId _ reportId = _
    have unshared : marked reportId row = false := by simp [marked, unmarked]
    rw [unshared, if_neg (by simp)] at change
    by_cases same : reportId = token.reportId
    · rw [same, Function.update_self]
      rw [same, if_pos report] at change
      rw [same] at before
      omega
    · rw [Function.update_of_ne same]
      rw [if_neg (fun equal => same (equal.symm.trans report))] at change
      omega
  · show other.downloadedAt.isSome ↔ other.id ∈ s.used ++ [token.id]
    rcases (inside other).mp place with rfl | ⟨old, different⟩
    · exact iff_of_true rfl (by simp [markRow, here])
    · rw [used other old, List.mem_append, List.mem_singleton]
      refine (or_iff_left (fun same => different ?_)).symm
      exact Table.eq_of_key old member (same.trans here.symm)
  · have placed : ∀ other ∈ s.gate.tokens.rows,
        other.id ∈ (s.recordFirstUse token downloadedAt).gate.tokens.rows.map (·.id) := by
      intro other old
      obtain ⟨later, kept, same, _⟩ := grows_recordFirstUse downloadedAt member
        here other old
      exact List.mem_map.mpr ⟨later, kept, same⟩
    rcases List.mem_append.mp present with old | new
    · obtain ⟨other, stays, rfl⟩ := List.mem_map.mp (rows id old)
      exact placed other stays
    · rw [List.mem_singleton.mp new, ← here]
      exact placed row member

/-- A first use of a token that is marked by then counts it once more. -/
theorem not_countsOnce_recordFirstUse {row : EvidenceGateToken} (sound : Sound s)
    (stored : RowOf s token row) (marked : row.downloadedAt.isSome) :
    ¬ CountsOnce (s.recordFirstUse token downloadedAt) := by
  intro ⟨count, _⟩
  obtain ⟨member, here, report, _⟩ := stored
  have change := countP_recordFirstUse downloadedAt member here token.reportId
  have before := sound.1.count token.reportId
  have counted := count token.reportId
  have shared : DownloadCounts.marked token.reportId row = true := by
    simp [DownloadCounts.marked, report, marked]
  rw [shared, if_pos rfl, if_pos report] at change
  have raised : (s.recordFirstUse token downloadedAt).downloadCount token.reportId =
      s.downloadCount token.reportId + 1 := Function.update_self ..
  omega

theorem sound_recordUse {row : EvidenceGateToken} (sound : Sound s) (stored : RowOf s token row)
    (usedBefore : token.downloadedAt ≠ none) : Sound (s.recordUse token) := by
  obtain ⟨⟨count, used⟩, rows⟩ := sound
  obtain ⟨member, here, _, kept⟩ := stored
  have marked := kept (Option.isSome_iff_ne_none.mpr usedBefore)
  have known : token.id ∈ s.used := by
    rw [← here]
    exact (used row member).mp marked
  have same (id : Uuid) : id ∈ s.used ++ [token.id] ↔ id ∈ s.used := by
    rw [List.mem_append, List.mem_singleton]
    exact or_iff_left_of_imp (fun equal => equal ▸ known)
  refine ⟨⟨count, fun other place => ?_⟩, fun id present => rows id ((same id).mp present)⟩
  exact (used other place).trans (same other.id).symm

theorem insertToken_eq_ok {tokens inserted : Table EvidenceGateToken.id} {new : EvidenceGateToken}
    (success : insertToken tokens new = .ok inserted) :
    new.id ∉ tokens.rows.map (·.id) ∧ inserted.rows = tokens.rows ++ [new] := by
  obtain ⟨_, _, flushed⟩ := Api.bind_eq_ok success
  exact Table.insert_eq_some (Api.flushNew_eq_ok.mp flushed)

/-- A new token is neither marked nor used. -/
theorem sound_issueToken (sound : Sound s) (new : EvidenceGateToken) :
    Sound (s.issueToken new) ∧ Grows s (s.issueToken new) := by
  unfold DownloadStore.issueToken
  cases inserted : insertToken s.gate.tokens { new with downloadedAt := none } with
  | error failure => exact ⟨sound, grows_refl s⟩
  | ok tokens =>
    obtain ⟨fresh, rows⟩ := insertToken_eq_ok inserted
    obtain ⟨⟨count, used⟩, stored⟩ := sound
    refine ⟨⟨⟨fun reportId => ?_, fun other place => ?_⟩, fun id present => ?_⟩, ?_⟩
    · dsimp only
      rw [rows, List.countP_append, count reportId]
      simp [marked]
    · dsimp only at place ⊢
      rw [rows, List.mem_append, List.mem_singleton] at place
      rcases place with old | rfl
      · exact used other old
      · refine iff_of_false (by simp) (fun present => fresh (stored _ present))
    · dsimp only
      rw [rows, List.map_append]
      exact List.mem_append_left _ (stored id present)
    · intro row member
      exact ⟨row, by rw [rows]; exact List.mem_append_left _ member, rfl, rfl, id⟩

/-! ## Every interleaving -/

section Interleavings

variable {env : GateEnvironment}

/-- The counts are right, and every request at work holds a token that has its row. -/
def InOrder (w : Downloads) : Prop := World.Holds Sound TokenStored (fun _ _ => True) w

/-- A commit of a first use with the row of its token. -/
theorem InOrder.row {w : Downloads} (order : InOrder w) {i : Nat} {token : EvidenceGateToken}
    (held : (w.locals i).token? = some token) : ∃ row, RowOf w.shared token row :=
  order.own i token held

/-- A move leaves the others in order where it keeps the counts and every row. -/
theorem InOrder.keeps {w : Downloads} (order : InOrder w) {i : Nat}
    {after : DownloadStore × DownloadPhase} (sound : Sound after.1)
    (grows : Grows w.shared after.1) (mine : TokenStored i after.1 after.2) :
    World.Keeps Sound TokenStored (fun _ _ => True) w i after where
  store := sound
  mine := mine
  others j _ := (order.own j).mono grows
  pairs _ _ := trivial

theorem tokenStored_idle (i : Nat) (s : DownloadStore) : TokenStored i s .idle := by
  intro token held
  cases held

theorem InOrder.move {w : Downloads} (order : InOrder w) (m : Nat × DownloadAct)
    (first : FirstUse w m) : InOrder (World.move (downloadAct env) w m) := by
  obtain ⟨i, act⟩ := m
  refine World.Holds.move (fun _ _ _ => trivial) order ?_
  have cases := downloadAct_cases env i w.shared (w.locals i) act
  rcases cases with ⟨same, tokens⟩ | ⟨token, phase, _, usedBefore, moved⟩ |
    ⟨token, downloadedAt, phase, commits, moved⟩ | ⟨token, _, moved⟩
  · refine order.keeps (by rw [same]; exact order.store) (by rw [same]; exact grows_refl _) ?_
    intro token held
    rw [same]
    rcases tokens token held with before | read
    · exact order.row before
    · exact ⟨token, read, rfl, rfl, id⟩
  · have held : (w.locals i).token? = some token := by rw [phase]; rfl
    obtain ⟨row, stored⟩ := order.row held
    rw [moved]
    exact order.keeps (sound_recordUse order.store stored usedBefore) (grows_refl w.shared)
      (tokenStored_idle i _)
  · have held : (w.locals i).token? = some token := by rw [phase]; rfl
    obtain ⟨row, stored⟩ := order.row held
    have unmarked := first token downloadedAt phase commits row stored.1 stored.2.1
    rw [moved]
    exact order.keeps (sound_recordFirstUse downloadedAt order.store stored unmarked)
      (grows_recordFirstUse downloadedAt stored.1 stored.2.1) (tokenStored_idle i _)
  · obtain ⟨sound, grows⟩ := sound_issueToken order.store token
    rw [moved]
    exact order.keeps sound grows ((order.own i).mono grows)

/-- A first use that another request has overtaken. -/
theorem InOrder.overtaken {w : Downloads} (order : InOrder w) (m : Nat × DownloadAct)
    (missed : ¬ FirstUse w m) : ¬ CountsOnce (World.move (downloadAct env) w m).shared := by
  obtain ⟨i, act⟩ := m
  unfold FirstUse at missed
  push Not at missed
  obtain ⟨token, downloadedAt, phase, commits, row, member, here, marked⟩ := missed
  have held : (w.locals i).token? = some token := by rw [phase]; rfl
  obtain ⟨own, stored⟩ := order.row held
  have same : own = row := Table.eq_of_key stored.1 member (stored.2.1.trans here.symm)
  have moved : (World.move (downloadAct env) w (i, act)).shared =
      w.shared.recordFirstUse token downloadedAt := by
    show (downloadAct env i w.shared (w.locals i) act).1 = _
    dsimp only at phase commits
    rw [phase, commits]
    rfl
  rw [moved]
  rw [same] at stored
  exact not_countsOnce_recordFirstUse downloadedAt order.store stored
    (Option.isSome_iff_ne_none.mpr marked)

/-- From a state whose counts are right, every state of an interleaving has them right
exactly when every first use is committed before another request marks its token. -/
theorem counts_once_iff (gate : GateStore) (downloadCount : Uuid → Nat) (used : List Uuid)
    (sound : Sound ⟨gate, downloadCount, used⟩) (run : List (Nat × DownloadAct)) :
    (∀ before after, run = before ++ after →
        CountsOnce (Run.exec (World.move (downloadAct env))
          (downloadsStart gate downloadCount used) before).shared) ↔
      Run.AllSteps (World.move (downloadAct env)) FirstUse
        (downloadsStart gate downloadCount used) run := by
  have initial : InOrder (downloadsStart gate downloadCount used) :=
    ⟨sound, fun i => tokenStored_idle i _, fun _ _ _ => trivial⟩
  have right (w : Downloads) (order : InOrder w) : CountsOnce w.shared := order.store.1
  exact Run.forall_states_iff_allSteps right (fun _ m order first => order.move m first)
    (fun _ m order missed => order.overtaken m missed) _ run initial

end Interleavings

/-! ## Two requests with one token -/

/-- A public report and a token for it that nobody has used. -/
def tokenGate : GateStore where
  platform :=
    { Unpublishing.reportedStore.platform with
      workspace :=
        { Unpublishing.reportedStore.platform.workspace with
          publicReports := .single ⟨51, 31, "unknown", 41, true, none, none, 0⟩ } }
  tokens := .single ⟨61, 51, "v@x.example", none, "sha256:raw", none, none, 100⟩

theorem sound_tokenGate : Sound ⟨tokenGate, fun _ => 0, []⟩ := by
  refine ⟨⟨fun reportId => ?_, fun token member => ?_⟩, fun _ present => by cases present⟩
  · simp [tokenGate, marked]
  · have unused : ∀ token ∈ tokenGate.tokens.rows, token.downloadedAt = none := by decide
    rw [unused token member]
    simp

def reading (party : Nat) : List (Nat × DownloadAct) :=
  [(party, .present "raw" 0), (party, .openFile)]

def finishing (party : Nat) : List (Nat × DownloadAct) :=
  [(party, .markDownloaded 1), (party, .incrementDownloadCount), (party, .commit)]

/-- Both requests have read the token before the first of them commits. -/
def overlapping : List (Nat × DownloadAct) :=
  reading 0 ++ reading 1 ++ finishing 0 ++ finishing 1

theorem counts_once_iff_overlapping :
    (∀ before after, overlapping = before ++ after →
        CountsOnce (Run.exec (World.move (downloadAct (Unpublishing.gateServer 0)))
          (downloadsStart tokenGate (fun _ => 0) []) before).shared) ↔
      Run.AllSteps (World.move (downloadAct (Unpublishing.gateServer 0))) FirstUse
        (downloadsStart tokenGate (fun _ => 0) []) overlapping :=
  counts_once_iff tokenGate (fun _ => 0) [] sound_tokenGate overlapping

/-- One token, two downloads. -/
theorem overlapping_counts_twice :
    ¬ CountsOnce (Run.exec (World.move (downloadAct (Unpublishing.gateServer 0)))
        (downloadsStart tokenGate (fun _ => 0) []) overlapping).shared ∧
      ∀ party < 2, (Run.exec (World.move (downloadAct (Unpublishing.gateServer 0)))
        (downloadsStart tokenGate (fun _ => 0) []) overlapping).locals party = .idle := by
  constructor
  · intro counts
    exact absurd (counts.count 51) (by decide)
  · intro party small
    match party with
    | 0 => rfl
    | 1 => rfl

end Reliastra.Guarantees.DownloadCounts
