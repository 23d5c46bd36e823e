import Reliastra.Source.ApiKeys.Lifecycle

/-!
# Last uses of API keys, flushed

After a flush that no use has disturbed, each key is to show its latest use. Of
runs of any uses and flushes, cut off anywhere, this is proved for those in which
nothing newer than what is written, read or committed gets lost: a use does not
overwrite a later one, a scan ends with every entry read, a `DEL` takes what the
flush has read, and a flush whose entries are gone commits. The times in the rows
never go back in any run.
-/

namespace Reliastra.Guarantees.LastUsedTracking

open Reliastra.Library Source Source.ApiKeys

abbrev UsageWorld (ι : Type) := World UsageStore ι UsagePhase

def idle (ι : Type) (s : UsageStore) : UsageWorld ι := ⟨s, fun _ => .idle⟩

/-- The time is there, or a later one. -/
def NotAfter (value : Instant) (column : Option Instant) : Prop := ∃ current ∈ column, value ≤ current

def InRows (keys : Table TrackedKey.id) (keyId : Uuid) (value : Instant) : Prop :=
  ∀ key ∈ keys.rows, key.id = keyId → NotAfter value key.lastUsedAt

/-- The time of the latest use of the key. -/
def latestUse (uses : List (Uuid × Instant)) (keyId : Uuid) : Option Instant :=
  ((uses.filter (fun use => use.1 = keyId)).map (·.2)).max?

def Settled (s : UsageStore) : Prop :=
  ∀ key ∈ s.keys.rows, key.lastUsedAt = latestUse s.uses key.id

/-- Every entry is the time of a use. -/
def Buffered (s : UsageStore) : Prop :=
  ∀ keyId, ∀ value ∈ s.buffer keyId, (keyId, value) ∈ s.uses

def NeverEarlier (s t : UsageStore) : Prop :=
  ∀ key ∈ s.keys.rows, ∀ value ∈ key.lastUsedAt,
    ∃ after ∈ t.keys.rows, after.id = key.id ∧ NotAfter value after.lastUsedAt

/-- What is in Redis has been read, or is in the rows, if no use came in between. -/
def Complete (s : UsageStore) (since : Nat) (mapping : Mapping) : Prop :=
  since = s.uses.length → ∀ keyId, ∀ entry ∈ s.buffer keyId,
    NotAfter entry (mapping.lookup keyId) ∨ InRows s.keys keyId entry

section Interleavings
variable {ι : Type} [DecidableEq ι]

def usageMove (w : UsageWorld ι) (m : ι × UsageAct) : UsageWorld ι :=
  w.move (fun _ => usageAct) m

/-- An entry that expires has been flushed. -/
def FlushedInTime (w : UsageWorld ι) (m : ι × UsageAct) : Prop :=
  match m.2 with
  | .expire keyId => ∀ entry ∈ w.shared.buffer keyId, InRows w.shared.keys keyId entry
  | _ => True

/-- The act loses no use. -/
def KeepsNewest (w : UsageWorld ι) (m : ι × UsageAct) : Prop :=
  match m.2, w.locals m.1 with
  | .advance, .recording keyId now =>
    ∀ entry ∈ w.shared.buffer keyId, entry ≤ now ∨ InRows w.shared.keys keyId entry
  | act, .draining since mapping => ScanEnds mapping act → Complete w.shared since mapping
  | .advance, .clearing _ mapping =>
    ∀ keyId, ∀ read ∈ mapping.lookup keyId, ∀ entry ∈ w.shared.buffer keyId,
      entry ≤ read ∨ InRows w.shared.keys keyId entry
  | .advance, .committing since mapping =>
    -- No other flush holds what is in no row and no entry any more.
    since = w.shared.uses.length → ∀ other, other ≠ m.1 →
      ∀ started held, w.locals other = .committing started held →
        ∀ keyId, ∀ read ∈ held.lookup keyId,
          NotAfter read (mapping.lookup keyId) ∨ InRows w.shared.keys keyId read
  | .abort, .committing _ mapping =>
    ∀ keyId, ∀ read ∈ mapping.lookup keyId,
      NotAfter read (w.shared.buffer keyId) ∨ InRows w.shared.keys keyId read
  | _, _ => True

/-- The next act of the party commits a flush during which there was no use. -/
def QuietCommit (w : UsageWorld ι) (i : ι) : Prop :=
  ∃ mapping, w.locals i = .committing w.shared.uses.length mapping

end Interleavings

/-! ## Times -/

variable {s t : UsageStore} {keys : Table TrackedKey.id} {keyId : Uuid} {value : Instant}

theorem NotAfter.trans {column : Option Instant} {later : Instant} (le : value ≤ later)
    (there : NotAfter later column) : NotAfter value column := by
  obtain ⟨current, here, below⟩ := there
  exact ⟨current, here, le.trans below⟩

theorem InRows.trans {later : Instant} (le : value ≤ later) (there : InRows keys keyId later) :
    InRows keys keyId value :=
  fun key member own => (there key member own).trans le

theorem notAfter_of_mem {column : Option Instant} (here : value ∈ column) : NotAfter value column :=
  ⟨value, here, le_rfl⟩

theorem mem_latestUse_iff (uses : List (Uuid × Instant)) :
    value ∈ latestUse uses keyId ↔
      (keyId, value) ∈ uses ∧ ∀ other, (keyId, other) ∈ uses → other ≤ value := by
  have member (time : Instant) :
      time ∈ (uses.filter (fun use => use.1 = keyId)).map (·.2) ↔ (keyId, time) ∈ uses := by
    simp only [List.mem_map, List.mem_filter, decide_eq_true_eq, Prod.exists, exists_eq_right]
  unfold latestUse
  rw [Option.mem_def, List.max?_eq_some_iff, member]
  exact and_congr_right (fun _ => forall_congr' (fun other => imp_congr (member other) Iff.rfl))

theorem latestUse_isSome {uses : List (Uuid × Instant)} (used : (keyId, value) ∈ uses) :
    ∃ latest, latest ∈ latestUse uses keyId := by
  cases found : latestUse uses keyId with
  | some latest => exact ⟨latest, rfl⟩
  | none =>
    unfold latestUse at found
    rw [List.max?_eq_none_iff, List.map_eq_nil_iff, List.filter_eq_nil_iff] at found
    exact absurd (decide_eq_true rfl) (found _ used)

/-- Settled means that the rows show uses, and none is later. -/
theorem settled_iff : Settled s ↔
    (∀ key ∈ s.keys.rows, ∀ value ∈ key.lastUsedAt, (key.id, value) ∈ s.uses) ∧
      ∀ use ∈ s.uses, InRows s.keys use.1 use.2 := by
  constructor
  · intro settled
    refine ⟨fun key member value here => ?_, fun use used key member own => ?_⟩
    · rw [settled key member] at here
      exact ((mem_latestUse_iff s.uses).mp here).1
    · have here : (key.id, use.2) ∈ s.uses := by rwa [own]
      obtain ⟨latest, found⟩ := latestUse_isSome here
      rw [settled key member]
      exact ⟨latest, found, ((mem_latestUse_iff s.uses).mp found).2 use.2 here⟩
  · intro ⟨shown, kept⟩ key member
    cases column : key.lastUsedAt with
    | some current =>
      refine ((mem_latestUse_iff s.uses).mpr ⟨shown key member current column, ?_⟩).symm
      intro other used
      obtain ⟨now, here, below⟩ := kept _ used key member rfl
      rw [column] at here
      cases here
      exact below
    | none =>
      cases found : latestUse s.uses key.id with
      | none => rfl
      | some latest =>
        have used := ((mem_latestUse_iff s.uses).mp found).1
        obtain ⟨now, here, _⟩ := kept _ used key member rfl
        rw [column] at here
        cases here

/-! ## What a commit writes -/

theorem mem_committed {mapping : Mapping} {key : TrackedKey} :
    key ∈ (commitFlush mapping s).keys.rows ↔
      ∃ before ∈ s.keys.rows, flushRow mapping before = key := List.mem_map

theorem le_greatest_left (column : Option Instant) (current written : Instant)
    (here : current ∈ column) : current ≤ greatest column written := by
  cases here
  exact le_max_left _ _

theorem le_greatest_right (column : Option Instant) (written : Instant) :
    written ≤ greatest column written := by
  cases column with
  | none => exact le_rfl
  | some current => exact le_max_right _ _

theorem greatest_eq_or (column : Option Instant) (written : Instant) :
    greatest column written ∈ column ∨ greatest column written = written := by
  cases column with
  | none => exact .inr rfl
  | some current =>
    rcases max_choice current written with same | same
    · exact .inl (congrArg some same.symm)
    · exact .inr same

/-- A row never goes back. -/
theorem flushRow_notAfter {mapping : Mapping} {key : TrackedKey}
    (there : NotAfter value key.lastUsedAt) : NotAfter value (flushRow mapping key).lastUsedAt := by
  obtain ⟨current, here, below⟩ := there
  unfold flushRow
  split
  · next written found =>
    exact ⟨_, rfl, below.trans (le_greatest_left _ _ _ here)⟩
  · exact ⟨current, here, below⟩

theorem InRows.commit (there : InRows s.keys keyId value) (mapping : Mapping) :
    InRows (commitFlush mapping s).keys keyId value := by
  intro key member own
  obtain ⟨before, stored, rfl⟩ := mem_committed.mp member
  rw [flushRow_keeps] at own
  exact flushRow_notAfter (there before stored own)

/-- What the flush has read is in the rows. -/
theorem inRows_of_mapping {mapping : Mapping} (read : NotAfter value (mapping.lookup keyId)) :
    InRows (commitFlush mapping s).keys keyId value := by
  intro key member own
  obtain ⟨before, stored, rfl⟩ := mem_committed.mp member
  rw [flushRow_keeps] at own
  obtain ⟨written, found, below⟩ := read
  unfold flushRow
  rw [own, Option.mem_def.mp found]
  exact ⟨_, rfl, below.trans (le_greatest_right _ _)⟩

theorem NeverEarlier.refl (s : UsageStore) : NeverEarlier s s :=
  fun key member _ here => ⟨key, member, rfl, notAfter_of_mem here⟩

theorem NeverEarlier.trans {u : UsageStore} (first : NeverEarlier s t) (then_ : NeverEarlier t u) :
    NeverEarlier s u := by
  intro key member value here
  obtain ⟨middle, stored, same, current, now, below⟩ := first key member value here
  obtain ⟨after, kept, own, later⟩ := then_ middle stored current now
  exact ⟨after, kept, own.trans same, later.trans below⟩

theorem neverEarlier_commit (s : UsageStore) (mapping : Mapping) :
    NeverEarlier s (commitFlush mapping s) := by
  intro key member value here
  exact ⟨flushRow mapping key, mem_committed.mpr ⟨key, member, rfl⟩, flushRow_keeps mapping key,
    flushRow_notAfter (notAfter_of_mem here)⟩

theorem neverEarlier_moves {phase next : UsagePhase} {act : UsageAct}
    (moves : UsageMoves s phase act t next) : NeverEarlier s t := by
  cases moves with
  | stays | uses | recordFails | starts | reads | scanned | updates | clearFails | aborts =>
    exact .refl s
  | records | clears | expires =>
    exact fun key member _ here => ⟨key, member, rfl, notAfter_of_mem here⟩
  | commits => exact neverEarlier_commit s _

/-! ## What a party has read -/

/-- The times in the rows and in Redis are uses. -/
structure Stored (s : UsageStore) : Prop where
  rows : ∀ key ∈ s.keys.rows, ∀ value ∈ key.lastUsedAt, (key.id, value) ∈ s.uses
  buffered : Buffered s

structure Read (s : UsageStore) (since : Nat) (mapping : Mapping) : Prop where
  started : since ≤ s.uses.length
  uses : ∀ keyId, ∀ value ∈ mapping.lookup keyId, (keyId, value) ∈ s.uses

def Own (s : UsageStore) : UsagePhase → Prop
  | .idle | .recording _ _ => True
  | .draining since mapping => Read s since mapping
  | .updating since mapping | .clearing since mapping | .committing since mapping =>
    Read s since mapping ∧ Complete s since mapping

/-- The store has only gained uses and later rows, and lost entries. -/
structure Later (s t : UsageStore) : Prop where
  uses : t.uses = s.uses
  buffer : ∀ keyId, ∀ entry ∈ t.buffer keyId, entry ∈ s.buffer keyId
  rows : ∀ keyId value, InRows s.keys keyId value → InRows t.keys keyId value

theorem Complete.later {since : Nat} {mapping : Mapping} (complete : Complete s since mapping)
    (later : Later s t) : Complete t since mapping := by
  intro quiet keyId entry here
  rw [later.uses] at quiet
  exact (complete quiet keyId entry (later.buffer keyId entry here)).imp_right
    (later.rows keyId entry)

theorem Own.later {phase : UsagePhase} (own : Own s phase) (later : Later s t) : Own t phase := by
  have read {since : Nat} {mapping : Mapping} (was : Read s since mapping) :
      Read t since mapping := by
    refine ⟨?_, ?_⟩
    · rw [later.uses]
      exact was.started
    · rw [later.uses]
      exact was.uses
  cases phase with
  | idle | recording => trivial
  | draining => exact read own
  | updating | clearing | committing => exact ⟨read own.1, own.2.later later⟩

/-- A new use makes the flushes that have begun unquiet. -/
theorem Own.record {phase : UsagePhase} (own : Own s phase) (keyId : Uuid) (now : Instant) :
    Own (recordLastUsed keyId now s) phase := by
  have more : (recordLastUsed keyId now s).uses.length = s.uses.length + 1 := List.length_append
  have read {since : Nat} {mapping : Mapping} (was : Read s since mapping) :
      Read (recordLastUsed keyId now s) since mapping := by
    refine ⟨?_, fun key value here => List.mem_append_left _ (was.uses key value here)⟩
    rw [more]
    exact was.started.trans (Nat.le_succ _)
  have unquiet {since : Nat} {mapping : Mapping} (was : Read s since mapping) :
      Complete (recordLastUsed keyId now s) since mapping := by
    intro quiet
    have started := was.started
    omega
  cases phase with
  | idle | recording => trivial
  | draining => exact read own
  | updating | clearing | committing => exact ⟨read own.1, unquiet own.1⟩

theorem mem_drainEntry {mapping : Mapping} {scanned : Uuid}
    (here : value ∈ (drainEntry scanned s mapping).lookup keyId) :
    value ∈ mapping.lookup keyId ∨ (keyId = scanned ∧ value ∈ s.buffer keyId) := by
  unfold drainEntry at here
  split at here
  · next found =>
    by_cases same : keyId = scanned
    · subst same
      rw [AList.lookup_insert] at here
      cases here
      exact .inr ⟨rfl, found⟩
    · rw [AList.lookup_insert_ne same] at here
      exact .inl here
  · exact .inl here

theorem own_drained {since : Nat} {mapping : Mapping} (read : Read s since mapping)
    (complete : Complete s since mapping) : Own s (drained since mapping) := by
  unfold drained
  split
  · exact ⟨read, complete⟩
  · exact ⟨read, complete⟩

theorem stored_commit (stored : Stored s) {since : Nat} {mapping : Mapping}
    (read : Read s since mapping) : Stored (commitFlush mapping s) := by
  refine ⟨fun key member value here => ?_, stored.buffered⟩
  obtain ⟨before, there, rfl⟩ := mem_committed.mp member
  rw [flushRow_keeps]
  unfold flushRow at here
  split at here
  · next written found =>
    cases here
    rcases greatest_eq_or before.lastUsedAt written with old | new
    · exact stored.rows before there _ old
    · rw [new]
      exact read.uses _ _ found
  · exact stored.rows before there value here

theorem stored_record (stored : Stored s) (used : Uuid) (now : Instant) :
    Stored (recordLastUsed used now s) := by
  refine ⟨fun key member value here => List.mem_append_left _ (stored.rows key member value here),
    fun keyId value here => ?_⟩
  rw [recordLastUsed_buffer] at here
  split at here
  · next same =>
    subst same
    cases here
    exact List.mem_append_right _ (List.mem_singleton_self _)
  · exact List.mem_append_left _ (stored.buffered keyId value here)

theorem Stored.later (stored : Stored s) (later : Later s t) (rows : t.keys = s.keys) :
    Stored t := by
  refine ⟨?_, fun keyId value here => ?_⟩
  · rw [rows, later.uses]
    exact stored.rows
  · rw [later.uses]
    exact stored.buffered keyId value (later.buffer keyId value here)

/-- What expires or is deleted is gone, and nothing else changes. -/
theorem later_of_fewer {buffer : Uuid → Option Instant}
    (fewer : ∀ keyId, buffer keyId = none ∨ buffer keyId = s.buffer keyId) :
    Later s { s with buffer := buffer } := by
  refine ⟨rfl, fun keyId entry (here : buffer keyId = some entry) => ?_, fun _ _ there => there⟩
  rcases fewer keyId with gone | same
  · rw [gone] at here
    cases here
  · rw [Option.mem_def, ← same]
    exact here

theorem later_clear (s : UsageStore) (mapping : Mapping) : Later s (clearRedisKeys mapping s) := by
  refine later_of_fewer (fun keyId => ?_)
  by_cases read : (mapping.lookup keyId).isSome
  · exact .inl (if_pos read)
  · exact .inr (if_neg read)

theorem later_expire (s : UsageStore) (expired : Uuid) :
    Later s { s with buffer := Function.update s.buffer expired none } := by
  refine later_of_fewer (fun keyId => ?_)
  by_cases same : keyId = expired
  · subst same
    exact .inl (Function.update_self ..)
  · exact .inr (Function.update_of_ne same ..)

theorem later_commit (s : UsageStore) (mapping : Mapping) : Later s (commitFlush mapping s) :=
  ⟨rfl, fun _ _ here => here, fun _ _ there => there.commit mapping⟩

theorem Later.refl (s : UsageStore) : Later s s := ⟨rfl, fun _ _ here => here, fun _ _ there => there⟩

/-! ## One act -/

section Interleavings
variable {ι : Type} [DecidableEq ι] {w : UsageWorld ι} {i : ι} {act : UsageAct}
  {next : UsagePhase}

/-- A flush that is to commit has read the time, or a later one. -/
def Carried (w : UsageWorld ι) (keyId : Uuid) (value : Instant) : Prop :=
  ∃ j since mapping, w.locals j = .committing since mapping ∧
    NotAfter value (mapping.lookup keyId)

def Held (w : UsageWorld ι) (keyId : Uuid) (value : Instant) : Prop :=
  InRows w.shared.keys keyId value ∨ NotAfter value (w.shared.buffer keyId) ∨
    Carried w keyId value

structure Tracked (w : UsageWorld ι) : Prop where
  holds : World.Holds Stored (fun _ => Own) (fun _ _ => True) w
  held : ∀ use ∈ w.shared.uses, Held w use.1 use.2

omit [DecidableEq ι] in
theorem keeps_moves (holds : World.Holds Stored (fun _ => Own) (fun _ _ => True) w)
    (keeps : KeepsNewest w (i, act)) (moves : UsageMoves w.shared (w.locals i) act t next) :
    World.Keeps Stored (fun _ => Own) (fun _ _ => True) w i (t, next) := by
  have own := holds.own i
  have same : ∀ j, j ≠ i → Own w.shared (w.locals j) := fun j _ => holds.own j
  unfold KeepsNewest at keeps
  dsimp only at keeps
  generalize w.locals i = phase at moves own keeps
  cases moves with
  | stays => exact ⟨holds.store, own, same, fun _ _ => trivial⟩
  | uses | recordFails | aborts => exact ⟨holds.store, trivial, same, fun _ _ => trivial⟩
  | records =>
    exact ⟨stored_record holds.store _ _, trivial, fun j _ => (holds.own j).record _ _,
      fun _ _ => trivial⟩
  | starts =>
    refine ⟨holds.store, ⟨le_rfl, fun keyId value here => ?_⟩, same, fun _ _ => trivial⟩
    rw [AList.lookup_empty] at here
    cases here
  | reads =>
    refine ⟨holds.store, ⟨own.started, fun keyId value here => ?_⟩, same, fun _ _ => trivial⟩
    rcases mem_drainEntry here with before | ⟨rfl, entry⟩
    · exact own.uses keyId value before
    · exact holds.store.buffered _ value entry
  | scanned ends =>
    refine ⟨holds.store, own_drained own ?_, same, fun _ _ => trivial⟩
    cases act with
    | scan | advance | redisFails => exact keeps ends
    | use | start | abort | expire => cases ends
  | updates | clearFails => exact ⟨holds.store, own, same, fun _ _ => trivial⟩
  | clears =>
    have later := later_clear w.shared
    exact ⟨holds.store.later (later _) rfl, own.later (later _), fun j _ => (holds.own j).later
      (later _), fun _ _ => trivial⟩
  | commits =>
    exact ⟨stored_commit holds.store own.1, trivial, fun j _ => (holds.own j).later
      (later_commit _ _), fun _ _ => trivial⟩
  | expires _ =>
    have later := later_expire w.shared
    exact ⟨holds.store.later (later _) rfl, own.later (later _), fun j _ => (holds.own j).later
      (later _), fun _ _ => trivial⟩

theorem Carried.update {keyId : Uuid} {value : Instant} (carried : Carried w keyId value)
    (stays : ∀ since mapping, w.locals i = .committing since mapping →
      next = .committing since mapping) :
    Carried ⟨t, Function.update w.locals i next⟩ keyId value := by
  obtain ⟨j, since, mapping, phase, read⟩ := carried
  by_cases same : j = i
  · subst same
    exact ⟨j, since, mapping, (Function.update_self ..).trans (stays since mapping phase), read⟩
  · exact ⟨j, since, mapping, (Function.update_of_ne same ..).trans phase, read⟩

theorem Held.update {keyId : Uuid} {value : Instant} (held : Held w keyId value)
    (stays : ∀ since mapping, w.locals i = .committing since mapping →
      next = .committing since mapping) :
    Held ⟨w.shared, Function.update w.locals i next⟩ keyId value :=
  held.imp_right (Or.imp_right (fun carried => carried.update stays))

theorem held_record {keyId : Uuid} {now : Instant} (tracked : Tracked w)
    (here : w.locals i = .recording keyId now)
    (newest : ∀ entry ∈ w.shared.buffer keyId, entry ≤ now ∨ InRows w.shared.keys keyId entry)
    (use : Uuid × Instant) (used : use ∈ (recordLastUsed keyId now w.shared).uses) :
    Held ⟨recordLastUsed keyId now w.shared, Function.update w.locals i .idle⟩ use.1 use.2 := by
  have written (value : Instant) (le : value ≤ now) :
      NotAfter value ((recordLastUsed keyId now w.shared).buffer keyId) := by
    rw [recordLastUsed_buffer, if_pos rfl]
    exact ⟨now, rfl, le⟩
  rcases List.mem_append.mp used with old | new
  · rcases tracked.held use old with rows | ⟨entry, buffered, below⟩ | carried
    · exact .inl rows
    · by_cases same : use.1 = keyId
      · rw [same] at buffered ⊢
        rcases newest entry buffered with le | rows
        · exact .inr (.inl (written use.2 (below.trans le)))
        · exact .inl (rows.trans below)
      · refine .inr (.inl ⟨entry, ?_, below⟩)
        rw [recordLastUsed_buffer, if_neg same]
        exact buffered
    · refine .inr (.inr (carried.update (fun since mapping phase => ?_)))
      rw [here] at phase
      cases phase
  · rw [List.mem_singleton.mp new]
    exact .inr (.inl (written now le_rfl))

theorem held_clear {since : Nat} {mapping : Mapping} (tracked : Tracked w)
    (here : w.locals i = .clearing since mapping)
    (newest : ∀ keyId, ∀ read ∈ mapping.lookup keyId, ∀ entry ∈ w.shared.buffer keyId,
      entry ≤ read ∨ InRows w.shared.keys keyId entry)
    (use : Uuid × Instant) (used : use ∈ w.shared.uses) :
    Held ⟨clearRedisKeys mapping w.shared,
      Function.update w.locals i (.committing since mapping)⟩ use.1 use.2 := by
  rcases tracked.held use used with rows | ⟨entry, buffered, below⟩ | carried
  · exact .inl rows
  · cases found : mapping.lookup use.1 with
    | some read =>
      rcases newest use.1 read found entry buffered with le | rows
      · exact .inr (.inr ⟨i, since, mapping, Function.update_self .., read, found, below.trans le⟩)
      · exact .inl (rows.trans below)
    | none =>
      refine .inr (.inl ⟨entry, ?_, below⟩)
      rw [clearRedisKeys_buffer, found]
      exact buffered
  · refine .inr (.inr (carried.update (fun started held phase => ?_)))
    rw [here] at phase
    cases phase

theorem held_commit {since : Nat} {mapping : Mapping} (tracked : Tracked w)
    (here : w.locals i = .committing since mapping)
    (use : Uuid × Instant) (used : use ∈ w.shared.uses) :
    Held ⟨commitFlush mapping w.shared, Function.update w.locals i .idle⟩ use.1 use.2 := by
  rcases tracked.held use used with rows | buffered | ⟨j, started, held, phase, read⟩
  · exact .inl (rows.commit mapping)
  · exact .inr (.inl buffered)
  · by_cases same : j = i
    · subst same
      rw [here] at phase
      cases phase
      exact .inl (inRows_of_mapping read)
    · exact .inr (.inr ⟨j, started, held, (Function.update_of_ne same ..).trans phase, read⟩)

theorem held_abort (tracked : Tracked w)
    (elsewhere : ∀ since mapping, w.locals i = .committing since mapping →
      ∀ keyId, ∀ read ∈ mapping.lookup keyId,
        NotAfter read (w.shared.buffer keyId) ∨ InRows w.shared.keys keyId read)
    (use : Uuid × Instant) (used : use ∈ w.shared.uses) :
    Held ⟨w.shared, Function.update w.locals i .idle⟩ use.1 use.2 := by
  rcases tracked.held use used with rows | buffered | ⟨j, started, held, phase, read, found, below⟩
  · exact .inl rows
  · exact .inr (.inl buffered)
  · by_cases same : j = i
    · subst same
      rcases elsewhere started held phase use.1 read found with buffered | rows
      · exact .inr (.inl (buffered.trans below))
      · exact .inl (rows.trans below)
    · exact .inr (.inr
        ⟨j, started, held, (Function.update_of_ne same ..).trans phase, read, found, below⟩)

theorem held_expire {expired : Uuid} (tracked : Tracked w)
    (flushed : ∀ entry ∈ w.shared.buffer expired, InRows w.shared.keys expired entry)
    (use : Uuid × Instant) (used : use ∈ w.shared.uses) :
    Held ⟨{ w.shared with buffer := Function.update w.shared.buffer expired none },
      Function.update w.locals i (w.locals i)⟩ use.1 use.2 := by
  rcases tracked.held use used with rows | ⟨entry, buffered, below⟩ | carried
  · exact .inl rows
  · by_cases same : use.1 = expired
    · rw [same] at buffered ⊢
      exact .inl ((flushed entry buffered).trans below)
    · refine .inr (.inl ⟨entry, ?_, below⟩)
      rw [Option.mem_def]
      exact (Function.update_of_ne same ..).trans buffered
  · exact .inr (.inr (carried.update (fun _ _ phase => phase)))

theorem held_moves (tracked : Tracked w) (inTime : FlushedInTime w (i, act))
    (keeps : KeepsNewest w (i, act)) (moves : UsageMoves w.shared (w.locals i) act t next)
    (use : Uuid × Instant) (used : use ∈ t.uses) :
    Held ⟨t, Function.update w.locals i next⟩ use.1 use.2 := by
  obtain ⟨phase, here⟩ : ∃ phase, w.locals i = phase := ⟨_, rfl⟩
  unfold KeepsNewest at keeps
  dsimp only at keeps
  rw [here] at moves keeps
  -- Only a flush that is to commit holds anything, and only its commit and its end let go.
  have quiet (idle : ∀ since mapping, phase ≠ .committing since mapping)
      (used : use ∈ w.shared.uses) :
      Held ⟨w.shared, Function.update w.locals i next⟩ use.1 use.2 :=
    (tracked.held use used).update
      (fun since mapping committing => absurd (here.symm.trans committing) (idle since mapping))
  cases moves with
  | stays =>
    refine (tracked.held use used).update (fun since mapping committing => ?_)
    exact here.symm.trans committing
  | uses | recordFails | starts | reads | scanned | updates | clearFails =>
    exact quiet (fun _ _ same => nomatch same) used
  | records => exact held_record tracked here keeps use used
  | clears => exact held_clear tracked here keeps use used
  | commits => exact held_commit tracked here use used
  | aborts =>
    refine held_abort tracked (fun since mapping committing => ?_) use used
    rw [here] at committing
    subst committing
    exact keeps
  | expires =>
    have kept := held_expire (i := i) tracked inTime use used
    rw [here] at kept
    exact kept

theorem Tracked.move {m : ι × UsageAct} (tracked : Tracked w)
    (kept : FlushedInTime w m ∧ KeepsNewest w m) : Tracked (usageMove w m) := by
  have moves := usageAct_moves w.shared (w.locals m.1) m.2
  exact ⟨World.Holds.move (fun _ _ _ => trivial) tracked.holds
      (keeps_moves tracked.holds kept.2 moves),
    held_moves tracked kept.1 kept.2 moves⟩

/-! ## After a flush -/

/-- The rows show the latest uses after a commit that no use came before. -/
theorem settled_commit (tracked : Tracked w) (quiet : QuietCommit w i)
    (keeps : KeepsNewest w (i, .advance)) : Settled (usageMove w (i, .advance)).shared := by
  obtain ⟨mapping, here⟩ := quiet
  have committed : (usageMove w (i, .advance)).shared = commitFlush mapping w.shared := by
    simp only [usageMove, World.move, here, usageAct]
  have own := tracked.holds.own i
  unfold KeepsNewest at keeps
  dsimp only at keeps
  rw [here] at own keeps
  rw [committed]
  refine settled_iff.mpr ⟨(stored_commit tracked.holds.store own.1).rows, fun use used => ?_⟩
  rcases tracked.held use used with rows | ⟨entry, buffered, below⟩ | carried
  · exact rows.commit mapping
  · rcases own.2 rfl use.1 entry buffered with read | rows
    · exact inRows_of_mapping (read.trans below)
    · exact (rows.trans below).commit mapping
  · obtain ⟨j, started, held, phase, read, found, below⟩ := carried
    by_cases same : j = i
    · subst same
      rw [here] at phase
      cases phase
      exact inRows_of_mapping ⟨read, found, below⟩
    · rcases keeps rfl j same started held phase use.1 read found with mine | rows
      · exact inRows_of_mapping (mine.trans below)
      · exact (rows.trans below).commit mapping

/-- Every flush that no use has disturbed leaves the latest uses in the rows, in every
run that loses none; in every run at all no time in a row goes back. -/
theorem last_used_tracked (s : UsageStore) (run : List (ι × UsageAct)) (settled : Settled s)
    (buffered : Buffered s) :
    (Run.AllSteps usageMove (fun w m => FlushedInTime w m ∧ KeepsNewest w m) (idle ι s) run →
      ∀ before i after, run = before ++ (i, .advance) :: after →
        QuietCommit (Run.exec usageMove (idle ι s) before) i →
          Settled (Run.exec usageMove (idle ι s) (before ++ [(i, .advance)])).shared) ∧
    ∀ before between after, run = before ++ between ++ after →
      NeverEarlier (Run.exec usageMove (idle ι s) before).shared
        (Run.exec usageMove (idle ι s) (before ++ between)).shared := by
  constructor
  · intro all before i after split quiet
    have initial : Tracked (idle ι s) := by
      obtain ⟨rows, kept⟩ := settled_iff.mp settled
      exact ⟨⟨⟨rows, buffered⟩, fun _ => trivial, fun _ _ _ => trivial⟩,
        fun use used => .inl (kept use used)⟩
    rw [split, Run.allSteps_append] at all
    have tracked := Run.exec_invariant_of_allSteps (fun w m holds kept => holds.move kept) _ before
      initial all.1
    rw [Run.exec_concat]
    exact settled_commit tracked quiet all.2.1.2
  · intro before between after _
    rw [Run.exec_append]
    generalize Run.exec usageMove (idle ι s) before = reached
    have keeps (w : UsageWorld ι) (m : ι × UsageAct) (later : NeverEarlier reached.shared w.shared) :
        NeverEarlier reached.shared (usageMove w m).shared :=
      later.trans (neverEarlier_moves (usageAct_moves w.shared (w.locals m.1) m.2))
    exact Run.exec_invariant keeps reached between (NeverEarlier.refl reached.shared)

end Interleavings

/-! ## Uses that get lost -/

def unusedKey : UsageStore := ⟨fun _ => none, ⟨[⟨1, none⟩], by decide⟩, []⟩

/-- A use and a flush of it; then a flush that finds nothing. -/
def useAndFlush : List (Nat × UsageAct) :=
  [(0, .use 1 10), (0, .advance), (1, .start), (1, .scan 1), (1, .advance), (1, .advance),
    (1, .advance), (1, .advance)]

/-- A use of the key comes after the flush has read its entry, and before it deletes
it. -/
def useDuringFlush : List (Nat × UsageAct) :=
  [(0, .use 1 10), (0, .advance), (1, .start), (1, .scan 1), (1, .advance), (1, .advance),
    (0, .use 1 20), (0, .advance), (1, .advance), (1, .advance), (1, .start), (1, .advance)]

/-- The commit of the flush fails. -/
def failedCommit : List (Nat × UsageAct) :=
  [(0, .use 1 10), (0, .advance), (1, .start), (1, .scan 1), (1, .advance), (1, .advance),
    (1, .advance), (1, .abort), (1, .start), (1, .advance)]

theorem unusedKey_settled : Settled unusedKey ∧ Buffered unusedKey := by
  constructor
  · intro key member
    rw [List.mem_singleton.mp member]
    rfl
  · intro keyId value here
    cases here

theorem useAndFlush_keeps :
    Run.AllSteps usageMove (fun w m => FlushedInTime w m ∧ KeepsNewest w m) (idle Nat unusedKey)
      useAndFlush := by
  have mine (keyId : Uuid) (entry : Instant)
      (here : entry ∈ (recordLastUsed 1 10 unusedKey).buffer keyId) : keyId = 1 ∧ entry = 10 := by
    rw [recordLastUsed_buffer] at here
    split at here
    · next same => exact ⟨same, (Option.some.inj here).symm⟩
    · cases here
  refine ⟨⟨trivial, trivial⟩, ⟨trivial, fun entry here => nomatch here⟩, ⟨trivial, trivial⟩,
    ⟨trivial, fun full => absurd full (by unfold ScanEnds; decide)⟩,
    ⟨trivial, fun _ _ keyId entry here => .inl ?_⟩,
    ⟨trivial, trivial⟩, ⟨trivial, fun keyId read found entry here => .inl ?_⟩,
    ⟨trivial, fun _ other different started held phase => ?_⟩, trivial⟩
  · obtain ⟨rfl, rfl⟩ := mine keyId entry here
    exact ⟨10, rfl, le_rfl⟩
  · obtain ⟨rfl, rfl⟩ := mine keyId entry here
    cases found
    exact le_rfl
  · -- The party that has recorded is idle again, and no other has begun.
    match other with
    | 0 => exact nomatch (show UsagePhase.idle = .committing started held from phase)
    | 1 => exact absurd rfl different
    | n + 2 => exact nomatch (show UsagePhase.idle = .committing started held from phase)

theorem last_used_tracked_one :
    Settled (Run.exec usageMove (idle Nat unusedKey) useAndFlush).shared :=
  (last_used_tracked unusedKey useAndFlush unusedKey_settled.1 unusedKey_settled.2).1
    useAndFlush_keeps (useAndFlush.take 7) 1 [] rfl ⟨_, rfl⟩

/-- After the next flush, which finds no entry, the row does not show the last use. -/
theorem uses_lost :
    (Settled unusedKey ∧ Buffered unusedKey) ∧
    (QuietCommit (Run.exec usageMove (idle Nat unusedKey) useDuringFlush) 1 ∧
      ¬ Settled (Run.exec usageMove (idle Nat unusedKey) (useDuringFlush ++ [(1, .advance)])).shared) ∧
    QuietCommit (Run.exec usageMove (idle Nat unusedKey) failedCommit) 1 ∧
      ¬ Settled (Run.exec usageMove (idle Nat unusedKey) (failedCommit ++ [(1, .advance)])).shared := by
  refine ⟨unusedKey_settled, ⟨⟨∅, rfl⟩, fun settled => ?_⟩, ⟨∅, rfl⟩, fun settled => ?_⟩
  · have shown := settled ⟨1, some 10⟩ (by decide)
    exact absurd shown (by decide)
  · have shown := settled ⟨1, none⟩ (by decide)
    exact absurd shown (by decide)

end Reliastra.Guarantees.LastUsedTracking
