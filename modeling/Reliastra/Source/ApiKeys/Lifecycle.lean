import Mathlib.Data.List.AList
import Reliastra.Library.Interleaving
import Reliastra.Source.Api.Accounts

/-!
# API keys from their creation to their revocation

Source: `generate_api_key`, `hash_api_key` and `verify_api_key` of
`app/core/security.py` with the requests of `app/modules/api_keys/service.py` that
write keys. The full key is shown once, in the answer to its creation; the row has
its first eight characters and a bcrypt hash.
-/

namespace Reliastra.Source.ApiKeys

open Reliastra.Library Auth Api

/-- `full_key`, of what `secrets.token_hex(20)` returned. -/
def fullKeyOf (tokenPart : String) : String := "rel_" ++ tokenPart

/-- bcrypt as full keys go through it; they are shorter than its limit. A hash is
accepted with the key it was made of, and with no other. -/
structure KeyHashing where
  /-- `bcrypt.hashpw`, of a key and the salt it was given. -/
  hashpw : String → String → String
  verifyApiKey : String → String → Bool
  verify_hashpw : ∀ rawKey tokenPart salt,
    verifyApiKey rawKey (hashpw (fullKeyOf tokenPart) salt) = decide (rawKey = fullKeyOf tokenPart)

/-- `generate_api_key`: the prefix and the hash that are stored. -/
def generateApiKey (hashing : KeyHashing) (tokenPart salt : String) : GeneratedKey where
  keyPrefix := Text.slice (fullKeyOf tokenPart) 8
  hashedKey := hashing.hashpw (fullKeyOf tokenPart) salt

inductive KeyRequest where
  | create (env : ServiceEnvironment) (orgId : Uuid) (request : ApiKeyCreateRequest)
      (tokenPart salt : String)
  | revoke (orgId keyId : Uuid)
  /-- Any other request, whatever it leaves behind; none writes this table. -/
  | other (after : Platform)

def attempt (hashing : KeyHashing) (s : Platform) : KeyRequest → Except Failure Platform
  | .create env orgId request tokenPart salt =>
    createKey { env with generatedKey := generateApiKey hashing tokenPart salt } orgId request s
  | .revoke orgId keyId => revokeKey orgId keyId s
  | .other after => .ok { after with apiKeys := s.apiKeys }

/-- A request that fails is rolled back. -/
def keyStep (hashing : KeyHashing) (s : Platform) (request : KeyRequest) : Platform :=
  match attempt hashing s request with
  | .ok after => after
  | .error _ => s

end Reliastra.Source.ApiKeys

/-!
## Last uses of API keys

`_record_last_used` of `app/modules/api_keys/service.py`,
`flush_api_key_last_used` of `app/modules/api_keys/tasks.py` and
`update_last_used_batch` of the repository. A use takes its timestamp and writes it
to Redis afterwards. A flush reads the entries one by one, updates the rows,
deletes the entries and commits; the rows it updated stay locked until then, so its
update counts at the commit. A failure of Redis ends the scan or leaves the entries,
and the flush goes on. The texts of the entries stand for the instants they name.
-/

namespace Reliastra.Source.ApiKeys

open Reliastra.Library

structure TrackedKey where
  id : Uuid
  lastUsedAt : Option Instant
  deriving DecidableEq, Repr

abbrev Mapping := AList (fun _ : Uuid => Instant)

structure UsageStore where
  /-- The entry `apikey:last_used:<id>` of a key. -/
  buffer : Uuid → Option Instant
  keys : Table TrackedKey.id
  /-- The history of the writes to Redis; nothing reads it. -/
  uses : List (Uuid × Instant)

/-- Where a use or a flush stands. A flush knows how many uses there were when it
began; no statement of it looks there. -/
inductive UsagePhase where
  | idle
  | recording (keyId : Uuid) (now : Instant)
  | draining (since : Nat) (mapping : Mapping)
  | updating (since : Nat) (mapping : Mapping)
  | clearing (since : Nat) (mapping : Mapping)
  | committing (since : Nat) (mapping : Mapping)

inductive UsageAct where
  | use (keyId : Uuid) (now : Instant)
  | start
  /-- `scan_iter` yields the entry of a key. -/
  | scan (keyId : Uuid)
  | advance
  | redisFails
  | abort
  /-- The TTL of an entry has passed. -/
  | expire (keyId : Uuid)

/-! ## Statements -/

def FLUSH_BATCH_SIZE : Nat := 500

/-- `greatest` of a column and a value. -/
def greatest (column : Option Instant) (value : Instant) : Instant :=
  match column with
  | some current => max current value
  | none => value

def flushRow (mapping : Mapping) (key : TrackedKey) : TrackedKey :=
  match mapping.lookup key.id with
  | some value => { key with lastUsedAt := some (greatest key.lastUsedAt value) }
  | none => key

theorem flushRow_keeps (mapping : Mapping) (key : TrackedKey) :
    (flushRow mapping key).id = key.id := by
  unfold flushRow
  split <;> rfl

def updateLastUsedBatch (mapping : Mapping) (keys : Table TrackedKey.id) : Table TrackedKey.id :=
  keys.mapRows (flushRow mapping) (flushRow_keeps mapping)

def recordLastUsed (keyId : Uuid) (now : Instant) (s : UsageStore) : UsageStore :=
  { s with
    buffer := Function.update s.buffer keyId (some now)
    uses := s.uses ++ [(keyId, now)] }

theorem recordLastUsed_buffer (keyId : Uuid) (now : Instant) (s : UsageStore) (other : Uuid) :
    (recordLastUsed keyId now s).buffer other =
      if other = keyId then some now else s.buffer other := Function.update_apply ..

/-- One turn of the loop of `_drain_last_used_redis` below the batch size. -/
def drainEntry (keyId : Uuid) (s : UsageStore) (mapping : Mapping) : Mapping :=
  match s.buffer keyId with
  | some value => mapping.insert keyId value
  | none => mapping

/-- The end of the scan, and of a flush that has found nothing. -/
def drained (since : Nat) (mapping : Mapping) : UsagePhase :=
  if mapping.entries = [] then .committing since mapping else .updating since mapping

/-- One `DEL` of all the keys. -/
def clearRedisKeys (mapping : Mapping) (s : UsageStore) : UsageStore :=
  { s with buffer := fun keyId => if (mapping.lookup keyId).isSome then none else s.buffer keyId }

theorem clearRedisKeys_buffer (mapping : Mapping) (s : UsageStore) (keyId : Uuid) :
    (clearRedisKeys mapping s).buffer keyId =
      if (mapping.lookup keyId).isSome then none else s.buffer keyId := rfl

def commitFlush (mapping : Mapping) (s : UsageStore) : UsageStore :=
  { s with keys := updateLastUsedBatch mapping s.keys }

def usageAct (s : UsageStore) (phase : UsagePhase) : UsageAct → UsageStore × UsagePhase
  | .use keyId now =>
    match phase with
    | .idle =>
      -- `authenticate_key` has found the row.
      if (s.keys.get? keyId).isSome then (s, .recording keyId now) else (s, .idle)
    | _ => (s, phase)
  | .start =>
    match phase with
    | .idle => (s, .draining s.uses.length ∅)
    | _ => (s, phase)
  | .scan keyId =>
    match phase with
    | .draining since mapping =>
      if FLUSH_BATCH_SIZE ≤ mapping.entries.length then (s, drained since mapping)
      else (s, .draining since (drainEntry keyId s mapping))
    | _ => (s, phase)
  | .advance =>
    match phase with
    | .idle => (s, .idle)
    | .recording keyId now => (recordLastUsed keyId now s, .idle)
    | .draining since mapping => (s, drained since mapping)
    | .updating since mapping => (s, .clearing since mapping)
    | .clearing since mapping => (clearRedisKeys mapping s, .committing since mapping)
    | .committing _ mapping => (commitFlush mapping s, .idle)
  | .redisFails =>
    match phase with
    | .recording _ _ => (s, .idle)
    | .draining since mapping => (s, drained since mapping)
    | .clearing since mapping => (s, .committing since mapping)
    | _ => (s, phase)
  | .abort => (s, .idle)
  | .expire keyId => ({ s with buffer := Function.update s.buffer keyId none }, phase)

/-! ## What an act can do -/

/-- The scan goes no further. -/
def ScanEnds (mapping : Mapping) : UsageAct → Prop
  | .scan _ => FLUSH_BATCH_SIZE ≤ mapping.entries.length
  | .advance | .redisFails => True
  | .use _ _ | .start | .abort | .expire _ => False

inductive UsageMoves (s : UsageStore) :
    UsagePhase → UsageAct → UsageStore → UsagePhase → Prop
  | stays (phase : UsagePhase) (act : UsageAct) : UsageMoves s phase act s phase
  | uses {keyId : Uuid} {now : Instant} :
      UsageMoves s .idle (.use keyId now) s (.recording keyId now)
  | records {keyId : Uuid} {now : Instant} :
      UsageMoves s (.recording keyId now) .advance (recordLastUsed keyId now s) .idle
  | recordFails {keyId : Uuid} {now : Instant} :
      UsageMoves s (.recording keyId now) .redisFails s .idle
  | starts : UsageMoves s .idle .start s (.draining s.uses.length ∅)
  | reads {since : Nat} {mapping : Mapping} {keyId : Uuid} :
      UsageMoves s (.draining since mapping) (.scan keyId) s
        (.draining since (drainEntry keyId s mapping))
  | scanned {since : Nat} {mapping : Mapping} {act : UsageAct} (ends : ScanEnds mapping act) :
      UsageMoves s (.draining since mapping) act s (drained since mapping)
  | updates {since : Nat} {mapping : Mapping} :
      UsageMoves s (.updating since mapping) .advance s (.clearing since mapping)
  | clears {since : Nat} {mapping : Mapping} :
      UsageMoves s (.clearing since mapping) .advance (clearRedisKeys mapping s)
        (.committing since mapping)
  | clearFails {since : Nat} {mapping : Mapping} :
      UsageMoves s (.clearing since mapping) .redisFails s (.committing since mapping)
  | commits {since : Nat} {mapping : Mapping} :
      UsageMoves s (.committing since mapping) .advance (commitFlush mapping s) .idle
  | aborts (phase : UsagePhase) : UsageMoves s phase .abort s .idle
  | expires (phase : UsagePhase) {keyId : Uuid} :
      UsageMoves s phase (.expire keyId)
        { s with buffer := Function.update s.buffer keyId none } phase

theorem usageAct_moves (s : UsageStore) (phase : UsagePhase) (act : UsageAct) :
    UsageMoves s phase act (usageAct s phase act).1 (usageAct s phase act).2 := by
  cases act with
  | use keyId now =>
    cases phase with
    | idle =>
      simp only [usageAct]
      split
      · exact .uses
      · exact .stays _ _
    | recording | draining | updating | clearing | committing => exact .stays _ _
  | start =>
    cases phase with
    | idle => exact .starts
    | recording | draining | updating | clearing | committing => exact .stays _ _
  | scan keyId =>
    cases phase with
    | draining since mapping =>
      simp only [usageAct]
      split
      · next full => exact .scanned full
      · exact .reads
    | idle | recording | updating | clearing | committing => exact .stays _ _
  | advance =>
    cases phase with
    | idle => exact .stays _ _
    | recording => exact .records
    | draining => exact .scanned trivial
    | updating => exact .updates
    | clearing => exact .clears
    | committing => exact .commits
  | redisFails =>
    cases phase with
    | recording => exact .recordFails
    | draining => exact .scanned trivial
    | clearing => exact .clearFails
    | idle | updating | committing => exact .stays _ _
  | abort => exact .aborts _
  | expire keyId => exact .expires _

end Reliastra.Source.ApiKeys
