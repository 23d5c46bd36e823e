import Reliastra.Source.Api.ConcurrentMembers

/-!
# Does every organization keep an owner?

Only the removal of an owner asks whether there is another one, and it asks
before it writes. `owner_kept_iff` says which commits leave an organization an
owner: a change of role asks nothing, and the guard of a removal holds for the
members it has listed.
-/

namespace Reliastra.Guarantees.OwnersKept

open Reliastra.Library Source Source.Organizations Source.Api

def IsOwnerOf (X : Uuid) (m : OrganizationMember) : Prop :=
  m.orgId = X ∧ m.role = .owner ∧ m.isDeleted = false

instance (X : Uuid) : DecidablePred (IsOwnerOf X) := fun m =>
  inferInstanceAs (Decidable (m.orgId = X ∧ m.role = .owner ∧ m.isDeleted = false))

def HasOwner (X : Uuid) (s : Platform) : Prop := ∃ m ∈ s.members.rows, IsOwnerOf X m

instance (X : Uuid) (s : Platform) : Decidable (HasOwner X s) :=
  inferInstanceAs (Decidable (∃ m ∈ s.members.rows, IsOwnerOf X m))

/-- The member is an owner of the organization, and no other is. -/
def LastOwner (X : Uuid) (s : Platform) (memberId : Uuid) : Prop :=
  (∃ m ∈ s.members.rows, m.id = memberId ∧ IsOwnerOf X m) ∧
    ∀ m ∈ s.members.rows, IsOwnerOf X m → m.id = memberId

/-- The write is no demotion of the last owner, and where it comes from a
request that looked first, what it saw is still so or the member is not the last
owner. -/
def Spares (X : Uuid) (s : Platform) : MemberWrite → Prop
  | .add _ => True
  | .changeRole member role =>
    role = .owner ∨ role = member.role ∨ ¬ LastOwner X s member.id
  | .restore member role =>
    member ∈ s.members.rows ∨ role = .owner ∨ role = member.role ∨ ¬ LastOwner X s member.id
  | .remove member listed =>
    (∀ m ∈ member :: listed, m ∈ s.members.rows) ∨ ¬ LastOwner X s member.id

abbrev MemberWorld (ι : Type) := World Platform ι MemberPhase

/-- Every request starts in a session of its own. -/
def idle (ι : Type) (s : Platform) : MemberWorld ι := ⟨s, fun _ => .idle⟩

section Interleavings
variable {ι : Type} [DecidableEq ι]

def memberMove (w : MemberWorld ι) (m : ι × MemberAct) : MemberWorld ι :=
  w.move (fun _ => memberAct) m

def SparesOwner (X : Uuid) (w : MemberWorld ι) (m : ι × MemberAct) : Prop :=
  match m.2, w.locals m.1 with
  | .commit, .writing write => Spares X w.shared write
  | _, _ => True

end Interleavings

/-! ## What a request knows when it writes -/

/-- The loaded row was what the request asked for, and the guard of an owner's
removal saw another owner. -/
def Sound : MemberPhase → Prop
  | .idle => True
  | .listing member => member.isDeleted = false
  | .writing (.add _) => True
  | .writing (.restore member _) => member.isDeleted = true
  | .writing (.changeRole member _) => member.isDeleted = false
  | .writing (.remove member listed) => member.isDeleted = false ∧
    (member.role = .owner → ∃ other ∈ listed, other.id ≠ member.id ∧ IsOwnerOf member.orgId other)

variable {X : Uuid} {s : Platform}

theorem readMember_sound {request : MemberRequest} {next : MemberPhase}
    (read : readMember s request = .ok next) : Sound next := by
  cases request with
  | invite env orgId request =>
    obtain ⟨user, _, read⟩ := bind_eq_ok read
    obtain ⟨existing, _, read⟩ := bind_eq_ok read
    cases existing with
    | none =>
      cases read
      trivial
    | some member =>
      obtain ⟨_, deleted, read⟩ := bind_eq_ok read
      cases read
      exact Bool.eq_true_of_not_eq_false (refuseIf_eq_ok.mp deleted)
  | changeRole orgId memberId role =>
    obtain ⟨member, found, read⟩ := bind_eq_ok read
    cases read
    exact (memberById_eq_some (requireOwned_eq_ok.mp found).1).2.2
  | remove orgId memberId =>
    obtain ⟨member, found, read⟩ := bind_eq_ok read
    have alive := (memberById_eq_some (requireOwned_eq_ok.mp found).1).2.2
    cases read
    split
    · exact alive
    · next other => exact ⟨alive, fun owner => absurd owner other⟩

/-- Members that are listed keep their ids, and only the loaded one is replaced. -/
theorem mem_listedWith {member m : OrganizationMember} (listed : m ∈ listedWith s member)
    (other : m.id ≠ member.id) :
    m ∈ s.members.rows ∧ m.orgId = member.orgId ∧ m.isDeleted = false := by
  obtain ⟨row, place, rfl⟩ := List.mem_map.mp listed
  obtain ⟨stored, fits⟩ := List.mem_filter.mp ((List.mem_insertionSort _).mp place)
  split at other
  · exact absurd rfl other
  · next distinct =>
    rw [if_neg distinct]
    exact ⟨stored, (of_decide_eq_true fits).1, (of_decide_eq_true fits).2⟩

theorem listedWith_ids (s : Platform) (member : OrganizationMember) :
    ((listedWith s member).map (·.id)).Nodup := by
  have ids : (fun m : OrganizationMember => m.id) ∘
      (fun m => if m.id = member.id then member else m) = fun m => m.id := by
    funext m
    simp only [Function.comp_apply]
    split
    · next here => exact here.symm
    · rfl
  have sorted := (List.perm_insertionSort joinedBefore (s.members.rows.filter
    (fun m => m.orgId = member.orgId ∧ m.isDeleted = false))).map (fun m => m.id)
  unfold listedWith
  rw [List.map_map, ids]
  exact sorted.nodup_iff.mpr (s.members.unique.sublist (List.filter_sublist.map _))

/-- Of two rows with different keys at most one has a given key. -/
theorem exists_other_key {rows : List OrganizationMember} (distinct : (rows.map (·.id)).Nodup)
    (two : 1 < rows.length) (id : Uuid) : ∃ row ∈ rows, row.id ≠ id := by
  match rows with
  | [] => exact absurd two (by decide)
  | [_] => exact absurd two (lt_irrefl 1)
  | first :: second :: rest =>
    by_cases here : first.id = id
    · refine ⟨second, List.mem_cons_of_mem _ List.mem_cons_self, fun there => ?_⟩
      have repeated : first.id ∈ (second :: rest).map (·.id) := by
        rw [here, ← there]
        exact List.mem_cons_self
      exact (List.nodup_cons.mp distinct).1 repeated
    · exact ⟨first, List.mem_cons_self, here⟩

theorem listOwners_sound {member : OrganizationMember} {next : MemberPhase}
    (alive : member.isDeleted = false) (listed : listOwners s member = .ok next) : Sound next := by
  obtain ⟨_, several, listed⟩ := bind_eq_ok listed
  cases listed
  refine ⟨alive, fun _ => ?_⟩
  have distinct : (((listedWith s member).filter (fun m => m.role = .owner)).map (·.id)).Nodup :=
    (listedWith_ids s member).sublist (List.filter_sublist.map _)
  obtain ⟨other, place, elsewhere⟩ :=
    exists_other_key distinct (not_le.mp (refuseIf_eq_ok.mp several)) member.id
  obtain ⟨seen, owner⟩ := List.mem_filter.mp place
  obtain ⟨_, orgId, alive⟩ := mem_listedWith seen elsewhere
  exact ⟨other, seen, elsewhere, orgId, of_decide_eq_true owner, alive⟩

/-! ## Updates of one row -/

section Updates
variable {memberId : Uuid} {f : OrganizationMember → OrganizationMember}
  {keeps : ∀ row, (f row).id = row.id}

theorem hasOwner_updateKey (owned : HasOwner X s)
    (spares : LastOwner X s memberId → ∀ m ∈ s.members.rows, m.id = memberId → IsOwnerOf X m →
      IsOwnerOf X (f m)) :
    HasOwner X { s with members := s.members.updateKey memberId f keeps } := by
  have updated {m : OrganizationMember} (place : m ∈ s.members.rows) :
      (if m.id = memberId then f m else m) ∈ (s.members.updateKey memberId f keeps).rows := by
    rw [Table.updateKey_rows]
    exact List.mem_map_of_mem place
  by_cases others : ∃ m ∈ s.members.rows, IsOwnerOf X m ∧ m.id ≠ memberId
  · obtain ⟨m, place, owner, elsewhere⟩ := others
    have kept := updated place
    rw [if_neg elsewhere] at kept
    exact ⟨m, kept, owner⟩
  · have only : ∀ m ∈ s.members.rows, IsOwnerOf X m → m.id = memberId := by
      intro m place owner
      by_contra elsewhere
      exact others ⟨m, place, owner, elsewhere⟩
    obtain ⟨m, place, owner⟩ := owned
    have here := only m place owner
    have kept := updated place
    rw [if_pos here] at kept
    exact ⟨f m, kept, spares ⟨⟨m, place, here, owner⟩, only⟩ m place here owner⟩

theorem not_hasOwner_updateKey (last : LastOwner X s memberId) (loses : ∀ m, ¬ IsOwnerOf X (f m)) :
    ¬ HasOwner X { s with members := s.members.updateKey memberId f keeps } := by
  intro ⟨m, place, owner⟩
  have place : m ∈ (s.members.updateKey memberId f keeps).rows := place
  rw [Table.updateKey_rows] at place
  obtain ⟨row, stored, rfl⟩ := List.mem_map.mp place
  split at owner
  · exact loses row owner
  · next elsewhere => exact elsewhere (last.2 row stored owner)

end Updates

/-! ## Commits -/

theorem flushColumns_owner {loaded m : OrganizationMember} {role : Role} {isDeleted : Bool}
    (kept : role = .owner ∨ role = loaded.role) (alive : isDeleted = false)
    (owner : IsOwnerOf X m) : IsOwnerOf X (flushColumns loaded role isDeleted m) := by
  obtain ⟨org, owns, here⟩ := owner
  refine ⟨org, ?_, ?_⟩
  · unfold flushColumns
    dsimp only
    split
    · exact owns
    · next moved => exact kept.resolve_right moved
  · unfold flushColumns
    dsimp only
    split
    · exact here
    · exact alive

theorem flushColumns_role {loaded m : OrganizationMember} {role : Role} {isDeleted : Bool}
    (other : role ≠ .owner) (moved : role ≠ loaded.role) :
    ¬ IsOwnerOf X (flushColumns loaded role isDeleted m) := by
  intro ⟨_, owns, _⟩
  unfold flushColumns at owns
  rw [if_neg moved] at owns
  exact other owns

theorem flushColumns_deleted {loaded m : OrganizationMember} {role : Role}
    (alive : loaded.isDeleted = false) : ¬ IsOwnerOf X (flushColumns loaded role true m) := by
  intro ⟨_, _, here⟩
  simp [flushColumns, alive] at here

theorem commit_keeps {write : MemberWrite} {members : Table OrganizationMember.id}
    (owned : HasOwner X s) (sound : Sound (.writing write)) (spares : Spares X s write)
    (flushed : write.flush s.members = .ok members) : HasOwner X { s with members := members } := by
  cases write with
  | add row =>
    simp only [MemberWrite.flush] at flushed
    split at flushed
    · cases flushed
    · obtain ⟨m, place, owner⟩ := owned
      have rows := (Table.insert_eq_some (flushNew_eq_ok.mp flushed)).2
      refine ⟨m, ?_, owner⟩
      dsimp only
      rw [rows]
      exact List.mem_append_left _ place
  | changeRole member role =>
    cases flushed
    apply hasOwner_updateKey owned
    intro last m _ _ owner
    rcases spares with owns | same | other
    · exact flushColumns_owner (.inl owns) sound owner
    · exact flushColumns_owner (.inr same) sound owner
    · exact absurd last other
  | restore member role =>
    cases flushed
    apply hasOwner_updateKey owned
    intro last m place here owner
    rcases spares with unchanged | owns | same | other
    · -- the loaded row is deleted, an owner's is not
      have same := Table.eq_of_key place unchanged here
      rw [same, IsOwnerOf, sound] at owner
      exact absurd owner.2.2 (by decide)
    · exact flushColumns_owner (.inl owns) rfl owner
    · exact flushColumns_owner (.inr same) rfl owner
    · exact absurd last other
  | remove member listed =>
    cases flushed
    apply hasOwner_updateKey owned
    intro last m place here owner
    obtain ⟨_, guard⟩ := sound
    rcases spares with unchanged | other
    · have same := Table.eq_of_key place (unchanged member List.mem_cons_self) here
      rw [same] at owner
      obtain ⟨other, seen, elsewhere, theirs⟩ := guard owner.2.1
      rw [owner.1] at theirs
      have stored := unchanged other (List.mem_cons_of_mem _ seen)
      exact absurd (last.2 other stored theirs) elsewhere
    · exact absurd last other

theorem commit_breaks {write : MemberWrite} {members : Table OrganizationMember.id}
    (sound : Sound (.writing write)) (takes : ¬ Spares X s write)
    (flushed : write.flush s.members = .ok members) : ¬ HasOwner X { s with members := members } := by
  cases write with
  | add row => exact absurd trivial takes
  | changeRole member role =>
    cases flushed
    simp only [Spares, not_or, not_not] at takes
    obtain ⟨other, moved, last⟩ := takes
    exact not_hasOwner_updateKey last (fun m => flushColumns_role other moved)
  | restore member role =>
    cases flushed
    simp only [Spares, not_or, not_not] at takes
    obtain ⟨_, other, moved, last⟩ := takes
    exact not_hasOwner_updateKey last (fun m => flushColumns_role other moved)
  | remove member listed =>
    cases flushed
    simp only [Spares, not_or, not_not] at takes
    exact not_hasOwner_updateKey takes.2 (fun m => flushColumns_deleted sound.1)

/-! ## Interleavings -/

section Runs
variable {ι : Type} [DecidableEq ι]

/-- The organization has an owner, and every request wrote down what it saw. -/
structure Invariant (X : Uuid) (w : MemberWorld ι) : Prop where
  owned : HasOwner X w.shared
  sound : ∀ i, Sound (w.locals i)

theorem sound_update {w : MemberWorld ι} (sound : ∀ i, Sound (w.locals i)) (i : ι)
    {phase : MemberPhase} (next : Sound phase) (j : ι) :
    Sound (Function.update w.locals i phase j) := by
  by_cases here : j = i
  · subst here
    rw [Function.update_self]
    exact next
  · rw [Function.update_of_ne here]
    exact sound j

theorem memberAct_sound {phase : MemberPhase} (sound : Sound phase) (a : MemberAct) :
    Sound (memberAct s phase a).2 := by
  cases a with
  | read request =>
    cases phase with
    | idle =>
      simp only [memberAct]
      cases read : readMember s request with
      | ok next => exact readMember_sound read
      | error failure => trivial
    | _ => exact sound
  | list =>
    cases phase with
    | listing member =>
      simp only [memberAct]
      cases listed : listOwners s member with
      | ok next => exact listOwners_sound sound listed
      | error failure => trivial
    | _ => exact sound
  | commit =>
    cases phase with
    | writing write =>
      simp only [memberAct]
      cases write.flush s.members <;> trivial
    | _ => exact sound
  | abort => trivial

/-- Only a commit writes. -/
theorem memberAct_shared {phase : MemberPhase} {a : MemberAct}
    (reads : ∀ write, a = .commit → phase ≠ .writing write) : (memberAct s phase a).1 = s := by
  cases a with
  | read request =>
    cases phase with
    | idle =>
      simp only [memberAct]
      cases readMember s request <;> rfl
    | _ => rfl
  | list =>
    cases phase with
    | listing member =>
      simp only [memberAct]
      cases listOwners s member <;> rfl
    | _ => rfl
  | commit =>
    cases phase with
    | writing write => exact absurd rfl (reads write rfl)
    | _ => rfl
  | abort => rfl

omit [DecidableEq ι] in
theorem sparesOwner_commit {w : MemberWorld ι} {i : ι} {write : MemberWrite}
    (phase : w.locals i = .writing write) :
    SparesOwner X w (i, .commit) ↔ Spares X w.shared write := by
  simp only [SparesOwner, phase]

theorem memberAct_commit {write : MemberWrite} :
    (memberAct s (.writing write) .commit).1 =
      match write.flush s.members with
      | .ok members => { s with members := members }
      | .error _ => s := by
  simp only [memberAct]
  cases write.flush s.members <;> rfl

theorem move_keeps (w : MemberWorld ι) (m : ι × MemberAct) (inv : Invariant X w)
    (spares : SparesOwner X w m) : Invariant X (memberMove w m) := by
  obtain ⟨i, a⟩ := m
  refine ⟨?_, fun j => sound_update inv.sound i (memberAct_sound (inv.sound i) a) j⟩
  have sound := inv.sound i
  have owned : HasOwner X (memberAct w.shared (w.locals i) a).1 := by
    by_cases commits : ∃ write, a = .commit ∧ w.locals i = .writing write
    · obtain ⟨write, rfl, phase⟩ := commits
      rw [phase] at sound
      rw [phase, memberAct_commit]
      cases flushed : write.flush w.shared.members with
      | error failure => exact inv.owned
      | ok members =>
        exact commit_keeps inv.owned sound ((sparesOwner_commit phase).mp spares) flushed
    · rw [memberAct_shared (fun write commit phase => commits ⟨write, commit, phase⟩)]
      exact inv.owned
  exact owned

theorem move_breaks (w : MemberWorld ι) (m : ι × MemberAct) (inv : Invariant X w)
    (takes : ¬ SparesOwner X w m) : ¬ HasOwner X (memberMove w m).shared := by
  obtain ⟨i, a⟩ := m
  have sound := inv.sound i
  have commits : ∃ write, a = .commit ∧ w.locals i = .writing write := by
    by_contra reads
    apply takes
    unfold SparesOwner
    dsimp only
    split
    · next write phase => exact absurd ⟨write, rfl, phase⟩ reads
    · trivial
  obtain ⟨write, rfl, phase⟩ := commits
  rw [phase] at sound
  rw [sparesOwner_commit phase] at takes
  have left : ¬ HasOwner X (memberAct w.shared (w.locals i) .commit).1 := by
    rw [phase, memberAct_commit]
    cases flushed : write.flush w.shared.members with
    | error failure =>
      -- only a new row can be refused, and that spares every owner
      cases write with
      | add row => exact absurd trivial takes
      | restore member role => cases flushed
      | changeRole member role => cases flushed
      | remove member listed => cases flushed
    | ok members => exact commit_breaks sound takes flushed
  exact left

end Runs

/-! ## From the creation on -/

/-- Whoever creates an organization owns it. -/
theorem createOrg_hasOwner {env : ServiceEnvironment} {userId : Uuid}
    {request : OrganizationCreateRequest} {s after : Platform}
    (created : createOrg env userId request s = .ok after) :
    HasOwner (newOrganization env request).id after := by
  obtain ⟨_, _, created⟩ := bind_eq_ok created
  obtain ⟨organizations, _, created⟩ := bind_eq_ok created
  obtain ⟨members, added, created⟩ := bind_eq_ok created
  obtain ⟨applications, _, created⟩ := bind_eq_ok created
  cases created
  have rows := (Table.insert_eq_some (flushNew_eq_ok.mp added)).2
  refine ⟨newMember env (env.newId 1) (newOrganization env request).id userId .owner, ?_, rfl, rfl,
    rfl⟩
  dsimp only
  rw [rows]
  exact List.mem_append_right _ List.mem_cons_self

/-- Over every interleaving of member requests after an organization was
created, it has an owner all along exactly when every commit spares its last
owner. -/
theorem owner_kept_iff {ι : Type} [DecidableEq ι] (env : ServiceEnvironment) (userId : Uuid)
    (request : OrganizationCreateRequest) (s : Platform) (run : List (ι × MemberAct)) :
    (∀ after, createOrg env userId request s = .ok after → ∀ before rest, run = before ++ rest →
      HasOwner (newOrganization env request).id (Run.exec memberMove (idle ι after) before).shared) ↔
      ∀ after, createOrg env userId request s = .ok after →
        Run.AllSteps memberMove (SparesOwner (newOrganization env request).id) (idle ι after)
          run := by
  refine forall_congr' (fun after => imp_congr_right (fun created => ?_))
  have initial : Invariant (newOrganization env request).id (idle ι after) :=
    ⟨createOrg_hasOwner created, fun _ => trivial⟩
  have states := Run.forall_states_iff_allSteps
    (fun (w : MemberWorld ι) (inv : Invariant (newOrganization env request).id w) => inv.owned)
    move_keeps move_breaks (idle ι after) run initial
  exact states

/-! ## Two ways to lose every owner -/

def memberServer : ServiceEnvironment := plainServer
  { host := ⟨fun _ => "", fun _ => none, fun _ => none, fun _ => none, fun _ _ => ""⟩
    decodeToken := fun _ _ => .error (.app (unauthorizedException "Invalid token"))
    sha256Hex := fun _ => ""
    httpBearer := fun _ => none
    verifyApiKey := fun _ _ => false
    enforceRateLimit := fun _ => .ok () }

/-- Two users and no organization. -/
def twoUsers : Platform where
  users := ⟨[⟨11, "a@acme.example", "A", "hash", true, false, false, 0⟩,
    ⟨12, "b@acme.example", "B", "hash", true, false, false, 0⟩], by decide⟩
  organizations := .empty
  members := .empty
  apiKeys := .empty
  workspace := ⟨.empty, .empty, .empty, .empty, .empty, .empty, .empty, .empty, .empty, .empty,
    .empty, .empty, .empty, .empty, .empty, .empty⟩
  community := ⟨.empty, .empty, .empty, .empty, .empty, .empty, .empty⟩
  partners := ⟨.empty, .empty, .empty, .empty⟩

def acme : OrganizationCreateRequest := ⟨"Acme", some "acme"⟩

/-- The owner takes a lower role. -/
def demotion : List (Nat × MemberAct) :=
  [(0, .read (.changeRole 100 101 .viewer)), (0, .commit)]

/-- A second owner joins, and both are removed side by side. -/
def removals : List (Nat × MemberAct) :=
  [(0, .read (.invite { memberServer with newId := fun n => 200 + n } 100
      ⟨"b@acme.example", .owner⟩)), (0, .commit),
    (0, .read (.remove 100 101)), (1, .read (.remove 100 200)), (0, .list), (1, .list),
    (0, .commit), (1, .commit)]

/-- After the run a created organization still has its owner. -/
def KeepsCreator (run : List (Nat × MemberAct)) : Prop :=
  ∀ after, createOrg memberServer 11 acme twoUsers = .ok after →
    HasOwner (newOrganization memberServer acme).id
      (Run.exec memberMove (idle Nat after) run).shared

theorem creator_lost {run : List (Nat × MemberAct)} (listed : run ∈ [demotion, removals]) :
    ¬ KeepsCreator run := by
  have lost : ∀ run ∈ [demotion, removals],
      (match createOrg memberServer 11 acme twoUsers with
      | .ok after => decide (¬ HasOwner (newOrganization memberServer acme).id
          (Run.exec memberMove (idle Nat after) run).shared)
      | .error _ => false) = true := by decide
  intro owned
  have left := lost run listed
  cases created : createOrg memberServer 11 acme twoUsers with
  | error failure =>
    rw [created] at left
    cases left
  | ok after =>
    rw [created] at left
    exact of_decide_eq_true left (owned after created)

/-- The organization is left without an owner. -/
theorem owners_lost : ¬ KeepsCreator demotion ∧ ¬ KeepsCreator removals := by
  constructor
  · exact creator_lost (by simp)
  · exact creator_lost (by simp)

end Reliastra.Guarantees.OwnersKept
