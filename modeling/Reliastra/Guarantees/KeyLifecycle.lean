import Mathlib.Data.List.Induction
import Reliastra.Library.Run
import Reliastra.Source.ApiKeys.Lifecycle

/-!
# What a key is good for, from its creation to its revocation

`key_lifecycle` is about every sequence of creations and revocations by any
organizations, with any other requests in between. A key is accepted as the row of
its creation, with the organization, scopes and expiry it was created with, from then
until its own organization revokes it or it expires, and not afterwards; whatever was
never handed out is refused.

Rows are located by the first eight characters, which many keys can share, so the
proof is about which of them bcrypt accepts (`candidate_issued`): the rows of the
creations that handed out this key.
-/

namespace Reliastra.Guarantees.KeyLifecycle

open Reliastra.Library Reliastra.Source Reliastra.Source.Auth Reliastra.Source.Api
open Reliastra.Source.ApiKeys

/-! ## What has happened in a run -/

/-- At some point of the run a request was made of which `p` holds with those before. -/
def Happened (p : List KeyRequest → KeyRequest → Prop) (requests : List KeyRequest) : Prop :=
  ∃ before request rest, requests = before ++ request :: rest ∧ p before request

theorem happened_nil (p : List KeyRequest → KeyRequest → Prop) : ¬ Happened p [] := by
  rintro ⟨before, request, rest, split, _⟩
  simp at split

theorem happened_concat (p : List KeyRequest → KeyRequest → Prop) (requests : List KeyRequest)
    (last : KeyRequest) :
    Happened p (requests ++ [last]) ↔ Happened p requests ∨ p requests last := by
  constructor
  · rintro ⟨before, request, rest, split, holds⟩
    rcases List.eq_nil_or_concat rest with rfl | ⟨shorter, final, rfl⟩
    · obtain ⟨rfl, same⟩ := List.append_inj' split rfl
      cases same
      exact .inr holds
    · left
      rw [List.concat_eq_append, ← List.cons_append, ← List.append_assoc] at split
      obtain ⟨rfl, _⟩ := List.append_inj' split rfl
      exact ⟨before, request, shorter, rfl, holds⟩
  · rintro (⟨before, request, rest, rfl, holds⟩ | holds)
    · exact ⟨before, request, rest ++ [last], by simp, holds⟩
    · exact ⟨requests, last, [], rfl, holds⟩

section Runs
variable (hashing : KeyHashing) (start : Platform)

def platformAfter (requests : List KeyRequest) : Platform :=
  Run.exec (keyStep hashing) start requests

/-- The row a creation writes. -/
def createdRow (env : ServiceEnvironment) (orgId : Uuid) (request : ApiKeyCreateRequest)
    (tokenPart salt : String) : ApiKey where
  id := env.newId 0
  orgId := orgId
  name := request.name
  keyPrefix := (generateApiKey hashing tokenPart salt).keyPrefix
  hashedKey := (generateApiKey hashing tokenPart salt).hashedKey
  scopes := request.scopes
  expiresAt := request.expiresAt
  createdAt := env.now
  isDeleted := false

/-- The request succeeds after those before it. -/
def Succeeds (before : List KeyRequest) (request : KeyRequest) : Prop :=
  ∃ after, attempt hashing (platformAfter hashing start before) request = .ok after

/-- A creation that handed out `fullKey` and wrote `row`. -/
def Issues (fullKey : String) (row : ApiKey) (before : List KeyRequest) (request : KeyRequest) :
    Prop :=
  ∃ env orgId created tokenPart salt, request = .create env orgId created tokenPart salt ∧
    Succeeds hashing start before request ∧ fullKey = fullKeyOf tokenPart ∧
    row = createdRow hashing env orgId created tokenPart salt

/-- A revocation that found the key in the organization that asked for it. -/
def Revokes (keyId : Uuid) (before : List KeyRequest) (request : KeyRequest) : Prop :=
  ∃ orgId, request = .revoke orgId keyId ∧ Succeeds hashing start before request

def Issued (requests : List KeyRequest) (fullKey : String) (row : ApiKey) : Prop :=
  Happened (Issues hashing start fullKey row) requests

def Revoked (requests : List KeyRequest) (keyId : Uuid) : Prop :=
  Happened (Revokes hashing start keyId) requests

end Runs

section Concat
variable {hashing : KeyHashing} {start : Platform} {requests : List KeyRequest} {last : KeyRequest}

theorem issued_concat {fullKey : String} {row : ApiKey} :
    Issued hashing start (requests ++ [last]) fullKey row ↔
      Issued hashing start requests fullKey row ∨ Issues hashing start fullKey row requests last :=
  happened_concat _ _ _

theorem revoked_concat {keyId : Uuid} :
    Revoked hashing start (requests ++ [last]) keyId ↔
      Revoked hashing start requests keyId ∨ Revokes hashing start keyId requests last :=
  happened_concat _ _ _

end Concat

/-- A row as it was created. -/
def asCreated (row : ApiKey) : ApiKey := { row with isDeleted := false }

theorem asCreated_eq {row : ApiKey} (live : row.isDeleted = false) : asCreated row = row := by
  cases row
  cases live
  rfl

/-- What the table has to do with the run that led to it. -/
structure Tracked (hashing : KeyHashing) (start : Platform) (requests : List KeyRequest)
    (rows : List ApiKey) : Prop where
  rows_issued : ∀ row ∈ rows, ∃ fullKey, Issued hashing start requests fullKey (asCreated row)
  issued_rows : ∀ fullKey key, Issued hashing start requests fullKey key →
    ∃ row ∈ rows, asCreated row = key
  deleted_revoked : ∀ row ∈ rows, row.isDeleted = true → Revoked hashing start requests row.id
  revoked_deleted : ∀ keyId, Revoked hashing start requests keyId →
    ∃ row ∈ rows, row.id = keyId ∧ row.isDeleted = true

/-! ## One request -/

variable {hashing : KeyHashing} {start : Platform}

theorem createKey_rows {s after : Platform} {env : ServiceEnvironment} {orgId : Uuid}
    {request : ApiKeyCreateRequest} {tokenPart salt : String}
    (success : attempt hashing s (.create env orgId request tokenPart salt) = .ok after) :
    env.newId 0 ∉ s.apiKeys.rows.map ApiKey.id ∧
      after.apiKeys.rows = s.apiKeys.rows ++ [createdRow hashing env orgId request tokenPart salt] := by
  obtain ⟨apiKeys, flushed, success⟩ := bind_eq_ok success
  obtain rfl := Except.ok.inj success
  rw [flushNew_eq_ok] at flushed
  exact Table.insert_eq_some flushed

theorem revokeKey_rows {s after : Platform} {orgId keyId : Uuid}
    (success : attempt hashing s (.revoke orgId keyId) = .ok after) :
    ∃ key ∈ s.apiKeys.rows, key.id = keyId ∧ key.orgId = orgId ∧ key.isDeleted = false ∧
      after.apiKeys.rows = s.apiKeys.rows.map
        (fun row => if row.id = keyId then { row with isDeleted := true } else row) := by
  obtain ⟨key, found, success⟩ := bind_eq_ok success
  obtain rfl := Except.ok.inj success
  rw [requireOwned_eq_ok, Option.filter_eq_some_iff] at found
  obtain ⟨⟨held, live⟩, owned⟩ := found
  obtain ⟨member, rfl⟩ := (Table.get?_eq_some_iff _ _ _).mp held
  refine ⟨key, member, rfl, owned, by simpa using live, ?_⟩
  exact Table.updateKey_rows s.apiKeys key.id (fun row => { row with isDeleted := true })
    (fun _ => rfl)

/-! ## Tracking through a run -/

theorem platformAfter_concat (requests : List KeyRequest) (last : KeyRequest) :
    platformAfter hashing start (requests ++ [last]) =
      keyStep hashing (platformAfter hashing start requests) last :=
  Run.exec_concat ..

/-- A request that fails changes nothing and is none of those the run is tracked by. -/
theorem Tracked.of_quiet {requests : List KeyRequest} {last : KeyRequest} {rows : List ApiKey}
    (tracked : Tracked hashing start requests rows)
    (issues : ∀ fullKey row, ¬ Issues hashing start fullKey row requests last)
    (revokes : ∀ keyId, ¬ Revokes hashing start keyId requests last) :
    Tracked hashing start (requests ++ [last]) rows := by
  have issued : ∀ fullKey row, Issued hashing start (requests ++ [last]) fullKey row ↔
      Issued hashing start requests fullKey row := by
    intro fullKey row
    rw [issued_concat]
    simp [issues fullKey row]
  have revoked : ∀ keyId, Revoked hashing start (requests ++ [last]) keyId ↔
      Revoked hashing start requests keyId := by
    intro keyId
    rw [revoked_concat]
    simp [revokes keyId]
  refine ⟨?_, ?_, ?_, ?_⟩
  · simpa only [issued] using tracked.rows_issued
  · simpa only [issued] using tracked.issued_rows
  · simpa only [revoked] using tracked.deleted_revoked
  · simpa only [revoked] using tracked.revoked_deleted

theorem Tracked.create {requests : List KeyRequest} {rows : List ApiKey} {env : ServiceEnvironment}
    {orgId : Uuid} {request : ApiKeyCreateRequest} {tokenPart salt : String}
    (tracked : Tracked hashing start requests rows)
    (success : Succeeds hashing start requests (.create env orgId request tokenPart salt)) :
    Tracked hashing start (requests ++ [.create env orgId request tokenPart salt])
      (rows ++ [createdRow hashing env orgId request tokenPart salt]) := by
  have now : Issues hashing start (fullKeyOf tokenPart)
      (createdRow hashing env orgId request tokenPart salt) requests
      (.create env orgId request tokenPart salt) :=
    ⟨env, orgId, request, tokenPart, salt, rfl, success, rfl, rfl⟩
  have revoked : ∀ keyId, Revoked hashing start
      (requests ++ [.create env orgId request tokenPart salt]) keyId ↔
        Revoked hashing start requests keyId := by
    intro keyId
    rw [revoked_concat]
    simp [Revokes]
  refine ⟨?_, ?_, ?_, ?_⟩
  · intro row member
    rcases List.mem_append.mp member with old | new
    · obtain ⟨fullKey, issued⟩ := tracked.rows_issued row old
      exact ⟨fullKey, issued_concat.mpr (.inl issued)⟩
    · rw [List.mem_singleton.mp new]
      exact ⟨fullKeyOf tokenPart, issued_concat.mpr (.inr now)⟩
  · intro fullKey key issued
    rcases issued_concat.mp issued with earlier | this
    · obtain ⟨row, member, same⟩ := tracked.issued_rows fullKey key earlier
      exact ⟨row, List.mem_append_left _ member, same⟩
    · obtain ⟨_, _, _, _, _, request, _, _, rfl⟩ := this
      cases request
      exact ⟨_, List.mem_append_right _ (List.mem_singleton_self _), rfl⟩
  · intro row member deleted
    rw [revoked]
    rcases List.mem_append.mp member with old | new
    · exact tracked.deleted_revoked row old deleted
    · rw [List.mem_singleton.mp new] at deleted
      cases deleted
  · intro keyId this
    obtain ⟨row, member, same⟩ := tracked.revoked_deleted keyId ((revoked keyId).mp this)
    exact ⟨row, List.mem_append_left _ member, same⟩

theorem Tracked.revoke {requests : List KeyRequest} {rows : List ApiKey} {orgId keyId : Uuid}
    (tracked : Tracked hashing start requests rows)
    (success : Succeeds hashing start requests (.revoke orgId keyId))
    (held : ∃ key ∈ rows, key.id = keyId) :
    Tracked hashing start (requests ++ [.revoke orgId keyId])
      (rows.map (fun row => if row.id = keyId then { row with isDeleted := true } else row)) := by
  have issued : ∀ fullKey row, Issued hashing start (requests ++ [.revoke orgId keyId]) fullKey row ↔
      Issued hashing start requests fullKey row := by
    intro fullKey row
    rw [issued_concat]
    simp [Issues]
  have created : ∀ row : ApiKey,
      asCreated (if row.id = keyId then { row with isDeleted := true } else row) = asCreated row := by
    intro row
    split <;> rfl
  have now : Revokes hashing start keyId requests (.revoke orgId keyId) := ⟨orgId, rfl, success⟩
  refine ⟨?_, ?_, ?_, ?_⟩
  · intro row member
    obtain ⟨old, place, rfl⟩ := List.mem_map.mp member
    rw [created]
    obtain ⟨fullKey, earlier⟩ := tracked.rows_issued old place
    exact ⟨fullKey, (issued _ _).mpr earlier⟩
  · intro fullKey key this
    obtain ⟨old, place, same⟩ := tracked.issued_rows fullKey key ((issued _ _).mp this)
    exact ⟨_, List.mem_map_of_mem place, (created old).trans same⟩
  · intro row member deleted
    obtain ⟨old, place, rfl⟩ := List.mem_map.mp member
    apply revoked_concat.mpr
    by_cases here : old.id = keyId
    · simp only [here, if_true]
      exact .inr now
    · simp only [here, if_false] at deleted ⊢
      exact .inl (tracked.deleted_revoked old place deleted)
  · intro other this
    rcases revoked_concat.mp this with earlier | ⟨_, request, _⟩
    · obtain ⟨old, place, same, deleted⟩ := tracked.revoked_deleted other earlier
      refine ⟨_, List.mem_map_of_mem place, ?_, ?_⟩
      · split <;> exact same
      · split
        · rfl
        · exact deleted
    · cases request
      obtain ⟨key, member, same⟩ := held
      refine ⟨_, List.mem_map_of_mem member, ?_, ?_⟩
      · split <;> exact same
      · rw [if_pos same]

theorem tracked_after (empty : start.apiKeys = .empty) (requests : List KeyRequest) :
    Tracked hashing start requests (platformAfter hashing start requests).apiKeys.rows := by
  induction requests using List.reverseRecOn with
  | nil =>
    have rows : (platformAfter hashing start []).apiKeys.rows = [] := by
      rw [platformAfter, Run.exec_nil, empty]
      rfl
    rw [rows]
    refine ⟨by simp, ?_, by simp, ?_⟩
    · intro fullKey key issued
      exact absurd issued (happened_nil _)
    · intro keyId revoked
      exact absurd revoked (happened_nil _)
  | append_singleton requests last ih =>
    rw [platformAfter_concat]
    unfold keyStep
    cases result : attempt hashing (platformAfter hashing start requests) last with
    | error failure =>
      apply ih.of_quiet
      · rintro fullKey row ⟨_, _, _, _, _, _, ⟨after, success⟩, _⟩
        cases result.symm.trans success
      · rintro keyId ⟨_, _, after, success⟩
        cases result.symm.trans success
    | ok after =>
      cases last with
      | create env orgId request tokenPart salt =>
        dsimp only
        rw [(createKey_rows result).2]
        exact ih.create ⟨after, result⟩
      | revoke orgId keyId =>
        obtain ⟨key, member, same, _, _, rows⟩ := revokeKey_rows result
        dsimp only
        rw [rows]
        exact ih.revoke ⟨after, result⟩ ⟨key, member, same⟩
      | other replaced =>
        have rows : after.apiKeys = (platformAfter hashing start requests).apiKeys := by
          cases result
          rfl
        dsimp only
        rw [rows]
        apply ih.of_quiet
        · simp [Issues]
        · simp [Revokes]

/-! ## Authentication -/

/-- What `secrets.token_hex` returned in the run. -/
def drawnTokens (requests : List KeyRequest) : List String :=
  requests.filterMap (fun request =>
    match request with
    | .create _ _ _ tokenPart _ => some tokenPart
    | _ => none)

theorem fullKeyOf_inj {first second : String} (same : fullKeyOf first = fullKeyOf second) :
    first = second :=
  (String.append_right_inj _).mp same

theorem issued_drawn {requests : List KeyRequest} {tokenPart : String} {row : ApiKey}
    (issued : Issued hashing start requests (fullKeyOf tokenPart) row) :
    tokenPart ∈ drawnTokens requests := by
  obtain ⟨before, request, rest, rfl, _, _, _, drawn, _, rfl, _, same, _⟩ := issued
  rw [fullKeyOf_inj same]
  simp [drawnTokens]

theorem issued_unique {requests : List KeyRequest} (distinct : (drawnTokens requests).Nodup)
    {fullKey : String} {row other : ApiKey} (first : Issued hashing start requests fullKey row)
    (second : Issued hashing start requests fullKey other) : row = other := by
  induction requests using List.reverseRecOn with
  | nil => exact absurd first (happened_nil _)
  | append_singleton requests last ih =>
    have split : drawnTokens (requests ++ [last]) = drawnTokens requests ++ drawnTokens [last] :=
      List.filterMap_append ..
    rw [split, List.nodup_append] at distinct
    have apart : ∀ earlier later, Issued hashing start requests fullKey earlier →
        ¬ Issues hashing start fullKey later requests last := by
      rintro earlier later issued ⟨env, orgId, created, tokenPart, salt, rfl, _, rfl, _⟩
      exact distinct.2.2 tokenPart (issued_drawn issued) tokenPart (by simp [drawnTokens]) rfl
    rcases issued_concat.mp first with left | left <;>
      rcases issued_concat.mp second with right | right
    · exact ih distinct.1 left right
    · exact absurd right (apart row other left)
    · exact absurd left (apart other row right)
    · obtain ⟨_, _, _, _, _, rfl, _, _, rfl⟩ := left
      obtain ⟨_, _, _, _, _, same, _, _, rfl⟩ := right
      cases same
      rfl

/-- bcrypt accepts a stored row exactly when its creation handed out the key. -/
theorem candidate_issued {requests : List KeyRequest} {rawKey : String} {row : ApiKey}
    (issued : ∃ fullKey, Issued hashing start requests fullKey (asCreated row)) :
    (row.keyPrefix = Text.slice rawKey 8 ∧ hashing.verifyApiKey rawKey row.hashedKey = true) ↔
      Issued hashing start requests rawKey (asCreated row) := by
  constructor
  · rintro ⟨_, accepted⟩
    obtain ⟨fullKey, happened⟩ := issued
    have again := happened
    obtain ⟨_, _, _, _, env, orgId, created, tokenPart, salt, _, _, rfl, written⟩ := happened
    have hash : row.hashedKey = hashing.hashpw (fullKeyOf tokenPart) salt :=
      congrArg ApiKey.hashedKey written
    rw [hash, hashing.verify_hashpw, decide_eq_true_iff] at accepted
    rw [accepted]
    exact again
  · rintro ⟨_, _, _, _, env, orgId, created, tokenPart, salt, _, _, rfl, written⟩
    have hash : row.hashedKey = hashing.hashpw (fullKeyOf tokenPart) salt :=
      congrArg ApiKey.hashedKey written
    refine ⟨congrArg ApiKey.keyPrefix written, ?_⟩
    rw [hash, hashing.verify_hashpw]
    simp

theorem mem_listByPrefix {db : Directory} {head : String} {row : ApiKey} :
    row ∈ db.listByPrefix head ↔
      row ∈ db.apiKeys.rows ∧ row.keyPrefix = head ∧ row.isDeleted = false := by
  unfold Directory.listByPrefix
  rw [(List.perm_insertionSort _ _).mem_iff, List.mem_filter]
  simp

def invalidKey : Failure := .app (unauthorizedException "Invalid API key")

def expiredKey : Failure := .app (unauthorizedException "API key has expired")

section Authentication
variable {requests : List KeyRequest} {rows : List ApiKey} {rawKey : String}

/-- A live row whose creation handed out the key is among the candidates, and no
other candidate is accepted. -/
theorem accepted_iff (tracked : Tracked hashing start requests rows) {row : ApiKey}
    (stored : row ∈ rows) :
    ((row.keyPrefix = Text.slice rawKey 8 ∧ row.isDeleted = false) ∧
      hashing.verifyApiKey rawKey row.hashedKey = true) ↔
    row.isDeleted = false ∧ Issued hashing start requests rawKey (asCreated row) := by
  rw [← candidate_issued (tracked.rows_issued row stored)]
  tauto

/-- A revoked key has no live row. -/
theorem revoked_not_live {keys : Table ApiKey.id}
    (tracked : Tracked hashing start requests keys.rows) {row : ApiKey} (stored : row ∈ keys.rows)
    (revoked : Revoked hashing start requests row.id) : row.isDeleted = true := by
  obtain ⟨other, member, same, deleted⟩ := tracked.revoked_deleted row.id revoked
  rw [← Table.eq_of_key member stored same]
  exact deleted

end Authentication

/-- What authentication answers, by the row whose creation handed out the key. -/
theorem authenticate_cases (hashing : KeyHashing) {start : Platform}
    (empty : start.apiKeys = .empty) (requests : List KeyRequest) (env : CredentialEnvironment)
    (bcrypt : env.verifyApiKey = hashing.verifyApiKey) (rawKey : String) (now : Instant) :
    let answer := authenticateKey env (platformAfter hashing start requests).directory rawKey now
    (answer = .error invalidKey ∧ ∀ row, Issued hashing start requests rawKey row →
        Revoked hashing start requests row.id) ∨
    ∃ row, Issued hashing start requests rawKey row ∧ ¬ Revoked hashing start requests row.id ∧
      answer = if ∃ expiry ∈ row.expiresAt, expiry < now then .error expiredKey else .ok row := by
  intro answer
  have tracked : Tracked hashing start requests _ := tracked_after empty requests
  have listed : ∀ row, row ∈ (platformAfter hashing start requests).directory.listByPrefix
      (Text.slice rawKey 8) ↔ row ∈ (platformAfter hashing start requests).apiKeys.rows ∧
        row.keyPrefix = Text.slice rawKey 8 ∧ row.isDeleted = false :=
    fun row => mem_listByPrefix
  cases found : ((platformAfter hashing start requests).directory.listByPrefix
      (Text.slice rawKey 8)).find?
      (fun candidate => env.verifyApiKey rawKey candidate.hashedKey) with
  | none =>
    refine .inl ⟨by simp only [answer, authenticateKey, found]; rfl, ?_⟩
    intro row issued
    obtain ⟨stored, member, same⟩ := tracked.issued_rows rawKey row issued
    subst same
    cases live : stored.isDeleted with
    | true => exact tracked.deleted_revoked stored member live
    | false =>
      obtain ⟨candidate, accepted⟩ := (accepted_iff tracked member).mpr ⟨live, issued⟩
      have refused := List.find?_eq_none.mp found stored ((listed stored).mpr ⟨member, candidate⟩)
      rw [bcrypt] at refused
      exact absurd accepted refused
  | some row =>
    have accepted := List.find?_some found
    rw [bcrypt] at accepted
    obtain ⟨member, candidate⟩ := (listed row).mp (List.mem_of_find?_eq_some found)
    obtain ⟨live, issued⟩ := (accepted_iff tracked member).mp ⟨candidate, accepted⟩
    rw [asCreated_eq live] at issued
    refine .inr ⟨row, issued, ?_, by simp only [answer, authenticateKey, found]; rfl⟩
    intro revoked
    rw [revoked_not_live tracked member revoked] at live
    cases live

/-- A key that was handed out is accepted as the row of its creation, until its
organization revokes it or it expires; no other key is. -/
theorem key_lifecycle (hashing : KeyHashing) (start : Platform) (empty : start.apiKeys = .empty)
    (requests : List KeyRequest) (distinct : (drawnTokens requests).Nodup)
    (env : CredentialEnvironment) (bcrypt : env.verifyApiKey = hashing.verifyApiKey)
    (rawKey : String) (now : Instant) :
    let answer := authenticateKey env (platformAfter hashing start requests).directory rawKey now
    (∀ row, Issued hashing start requests rawKey row →
      (Revoked hashing start requests row.id → answer = .error invalidKey) ∧
      (¬ Revoked hashing start requests row.id →
        (∀ expiry ∈ row.expiresAt, now ≤ expiry) → answer = .ok row) ∧
      (¬ Revoked hashing start requests row.id →
        (∃ expiry ∈ row.expiresAt, expiry < now) → answer = .error expiredKey)) ∧
    ((∀ row, ¬ Issued hashing start requests rawKey row) → answer = .error invalidKey) := by
  intro answer
  rcases authenticate_cases hashing empty requests env bcrypt rawKey now with
    ⟨refused, revoked⟩ | ⟨held, issued, live, accepted⟩
  · refine ⟨?_, fun _ => refused⟩
    intro row issued
    refine ⟨fun _ => refused, ?_, ?_⟩
    · intro live
      exact absurd (revoked row issued) live
    · intro live
      exact absurd (revoked row issued) live
  · refine ⟨?_, ?_⟩
    · intro row this
      obtain rfl := issued_unique distinct this issued
      refine ⟨fun revoked => absurd revoked live, ?_, ?_⟩
      · intro _ current
        have unexpired : ¬ ∃ expiry ∈ row.expiresAt, expiry < now := by
          rintro ⟨expiry, member, earlier⟩
          exact absurd (current expiry member) (not_le.mpr earlier)
        exact accepted.trans (if_neg unexpired)
      · intro _ expired
        exact accepted.trans (if_pos expired)
    · intro none
      exact absurd issued (none held)

/-! ## A key that is created and revoked -/

/-- Hashes without a salt. -/
def plainHashing : KeyHashing where
  hashpw key _ := "$2b$12$" ++ key
  verifyApiKey rawKey storedHash := storedHash = "$2b$12$" ++ rawKey
  verify_hashpw rawKey tokenPart _ := by
    rw [decide_eq_decide, String.append_right_inj]
    exact eq_comm

def plainCredentials : CredentialEnvironment :=
  { oneTokenCredentials with verifyApiKey := plainHashing.verifyApiKey }

def noKeys : Platform where
  users := .empty
  organizations := .empty
  members := .empty
  apiKeys := .empty
  workspace := ⟨.empty, .empty, .empty, .empty, .empty, .empty, .empty, .empty, .empty, .empty,
    .empty, .empty, .empty, .empty, .empty, .empty⟩
  community := ⟨.empty, .empty, .empty, .empty, .empty, .empty, .empty⟩
  partners := ⟨.empty, .empty, .empty, .empty⟩

def tokenText : String := "c3c3c3c3c3c3c3c3c3c3c3c3c3c3c3c3c3c3c3c3"

def reader : ApiKeyCreateRequest := ⟨"reader", ["read:incidents"], some 90⟩

/-- Organization 1 creates a key, and organization 2 tries to revoke it. -/
def readerCreated : List KeyRequest :=
  [.create (plainServer plainCredentials) 1 reader tokenText "", .revoke 2 100]

theorem readerCreated_issued : Issued plainHashing noKeys readerCreated (fullKeyOf tokenText)
    (createdRow plainHashing (plainServer plainCredentials) 1 reader tokenText "") :=
  ⟨[], _, [.revoke 2 100], rfl, _, _, _, _, _, rfl, ⟨_, rfl⟩, rfl, rfl⟩

theorem readerCreated_not_revoked : ¬ Revoked plainHashing noKeys readerCreated 100 := by
  intro revoked
  rcases (happened_concat _ [_] _).mp revoked with earlier | ⟨orgId, request, after, success⟩
  · rcases (happened_concat _ [] _).mp earlier with none | ⟨_, request, _⟩
    · exact happened_nil _ none
    · cases request
  · cases request
    cases success

theorem key_lifecycle_reader :
    authenticateKey plainCredentials (platformAfter plainHashing noKeys readerCreated).directory
        (fullKeyOf tokenText) 30 =
      .ok (createdRow plainHashing (plainServer plainCredentials) 1 reader tokenText "") := by
  have lifecycle := key_lifecycle plainHashing noKeys rfl readerCreated (by decide)
    plainCredentials rfl (fullKeyOf tokenText) 30
  apply (lifecycle.1 _ readerCreated_issued).2.1 readerCreated_not_revoked
  intro expiry member
  cases member
  decide

end Reliastra.Guarantees.KeyLifecycle
