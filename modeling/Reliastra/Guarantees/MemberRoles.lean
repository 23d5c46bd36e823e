import Reliastra.Source.Api.Ownership

/-!
# Can a role be raised above its giver's?

The member routes ask for a role of the actor and for nothing of the role that
is given or of the member it is taken from. `no_escalation_iff` says which
requests keep to roles up to the actor's.
-/

namespace Reliastra.Guarantees.MemberRoles

open Reliastra.Library Reliastra.Source Reliastra.Source.Organizations Reliastra.Source.Api

/-- A member has a role now that it did not have before. -/
def Given (before after : Platform) (m : OrganizationMember) : Prop :=
  m ∈ after.members.rows ∧ m.isDeleted = false ∧
    ¬ ∃ old ∈ before.members.rows, old.id = m.id ∧ old.isDeleted = false ∧ old.role = m.role

/-- A member was removed or has a lower role now. -/
def Taken (before after : Platform) (m : OrganizationMember) : Prop :=
  m ∈ before.members.rows ∧ m.isDeleted = false ∧
    ¬ ∃ new ∈ after.members.rows, new.id = m.id ∧ new.isDeleted = false ∧
      m.role.level ≤ new.role.level

/-- Nobody is given a role above this one, and from nobody above it one is
taken. -/
structure WithinRole (role : Role) (before after : Platform) : Prop where
  given : ∀ m, Given before after m → m.role.level ≤ role.level
  taken : ∀ m, Taken before after m → m.role.level ≤ role.level

inductive MemberRoute where
  | invite (request : OrganizationMemberInviteRequest)
  | changeRole (memberId : Uuid) (role : Role)
  | remove (memberId : Uuid)

def MemberRoute.endpoint : MemberRoute → OrgEndpoint
  | .invite request => .inviteOrganizationMember request
  | .changeRole memberId role => .changeOrganizationMemberRole memberId role
  | .remove memberId => .removeOrganizationMember memberId

structure MemberCall where
  env : ServiceEnvironment
  request : Request
  route : MemberRoute

def memberStep (s : Platform) (call : MemberCall) : Platform :=
  serve call.env s ⟨call.request, .byOrganization call.route.endpoint⟩

/-- Whoever makes the call and passes the guard of its route stays within the
role it has in the organization. -/
def NoEscalation (s : Platform) (call : MemberCall) : Prop :=
  ∀ user org role, ActsAs call.env s call.request user org role →
    requireRole role call.route.endpoint.minRole = .ok () →
    WithinRole role s (memberStep s call)

/-- The invitation goes through: the user exists and is no member. -/
def Invites (env : ServiceEnvironment) (s : Platform) (orgId : Uuid)
    (request : OrganizationMemberInviteRequest) : Prop :=
  ∃ user, userByEmail env s request.email = some user ∧
    ((∃ member, membership s orgId user.id = .ok (some member) ∧ member.isDeleted = true) ∨
      (membership s orgId user.id = .ok none ∧ env.newId 0 ∉ s.members.rows.map (·.id)))

/-- The removal goes through: not of the last owner. -/
def Removes (s : Platform) (orgId memberId : Uuid) (member : OrganizationMember) : Prop :=
  memberById s memberId = some member ∧ member.orgId = orgId ∧
    ¬ (member.role = .owner ∧
      ((listMembers s.members.rows orgId).filter (fun m => m.role = .owner)).length ≤ 1)

/-- An invitation that goes through is to no higher role than the actor's, and a
removal that goes through is of no higher member. -/
def StaysBelow (s : Platform) (call : MemberCall) : Prop :=
  ∀ user org role, ActsAs call.env s call.request user org role →
    requireRole role call.route.endpoint.minRole = .ok () → call.env.accepts = true →
    match call.route with
    | .invite request => Invites call.env s org.id request → request.role.level ≤ role.level
    | .changeRole _ _ => True
    | .remove memberId => ∀ member, Removes s org.id memberId member →
      member.role.level ≤ role.level

/-! ## Writes to one member -/

variable {s : Platform} {role : Role}

theorem WithinRole.refl (role : Role) (s : Platform) : WithinRole role s s := by
  refine ⟨?_, ?_⟩
  · intro m ⟨place, alive, fresh⟩
    exact absurd ⟨m, place, rfl, alive, rfl⟩ fresh
  · intro m ⟨place, alive, gone⟩
    exact absurd ⟨m, place, rfl, alive, le_rfl⟩ gone

section Updates
variable {member : OrganizationMember} {f : OrganizationMember → OrganizationMember}
  (keeps : ∀ row, (f row).id = row.id)

theorem mem_updateKey_self (place : member ∈ s.members.rows) :
    f member ∈ (s.members.updateKey member.id f keeps).rows := by
  rw [Table.updateKey_rows]
  exact List.mem_map.mpr ⟨member, place, if_pos rfl⟩

/-- The updated row, or one of the others. -/
theorem mem_updateKey (place : member ∈ s.members.rows) {m : OrganizationMember}
    (there : m ∈ (s.members.updateKey member.id f keeps).rows) :
    m = f member ∨ m.id ≠ member.id ∧ m ∈ s.members.rows := by
  rw [Table.updateKey_rows] at there
  obtain ⟨row, stored, rfl⟩ := List.mem_map.mp there
  split
  · next here => exact .inl (congrArg f (Table.eq_of_key stored place here))
  · next elsewhere => exact .inr ⟨elsewhere, stored⟩

/-- Of an update of one row only that row counts. -/
theorem withinRole_updateKey_iff (place : member ∈ s.members.rows) :
    WithinRole role s { s with members := s.members.updateKey member.id f keeps } ↔
      ((f member).isDeleted = false → ¬ (member.isDeleted = false ∧ member.role = (f member).role) →
        (f member).role.level ≤ role.level) ∧
      (member.isDeleted = false →
        ¬ ((f member).isDeleted = false ∧ member.role.level ≤ (f member).role.level) →
        member.role.level ≤ role.level) := by
  constructor
  · intro ⟨given, taken⟩
    refine ⟨fun alive moved => ?_, fun alive lost => ?_⟩
    · apply given
      refine ⟨mem_updateKey_self keeps place, alive, ?_⟩
      intro ⟨old, stored, here, was, same⟩
      rw [keeps] at here
      rw [Table.eq_of_key stored place here] at was same
      exact moved ⟨was, same⟩
    · apply taken
      refine ⟨place, alive, ?_⟩
      intro ⟨new, there, here, still, level⟩
      rcases mem_updateKey keeps place there with rfl | ⟨elsewhere, _⟩
      · exact lost ⟨still, level⟩
      · exact elsewhere here
  · intro ⟨own, lost⟩
    refine ⟨?_, ?_⟩
    · intro m ⟨there, alive, fresh⟩
      rcases mem_updateKey keeps place there with rfl | ⟨_, stored⟩
      · apply own alive
        intro ⟨was, same⟩
        exact fresh ⟨member, place, (keeps member).symm, was, same⟩
      · exact absurd ⟨m, stored, rfl, alive, rfl⟩ fresh
    · intro m ⟨stored, alive, gone⟩
      by_cases here : m.id = member.id
      · obtain rfl := Table.eq_of_key stored place here
        apply lost alive
        intro ⟨still, level⟩
        exact gone ⟨f m, mem_updateKey_self keeps place, keeps m, still, level⟩
      · have kept : m ∈ (s.members.updateKey member.id f keeps).rows := by
          rw [Table.updateKey_rows]
          exact List.mem_map.mpr ⟨m, stored, if_neg here⟩
        exact absurd ⟨m, kept, rfl, alive, le_rfl⟩ gone

end Updates

theorem withinRole_insert_iff {members : Table OrganizationMember.id} {row : OrganizationMember}
    (alive : row.isDeleted = false) (inserted : s.members.insert row = some members) :
    WithinRole role s { s with members := members } ↔ row.role.level ≤ role.level := by
  obtain ⟨fresh, rows⟩ := Table.insert_eq_some inserted
  constructor
  · intro ⟨given, _⟩
    apply given
    refine ⟨?_, alive, ?_⟩
    · dsimp only
      rw [rows]
      exact List.mem_append_right _ List.mem_cons_self
    · intro ⟨old, stored, here, _⟩
      exact fresh (here ▸ List.mem_map_of_mem stored)
  · intro below
    refine ⟨?_, ?_⟩
    · intro m ⟨there, living, new⟩
      have there : m ∈ members.rows := there
      rw [rows] at there
      rcases List.mem_append.mp there with stored | added
      · exact absurd ⟨m, stored, rfl, living, rfl⟩ new
      · rw [List.mem_singleton.mp added]
        exact below
    · intro m ⟨stored, living, gone⟩
      have kept : m ∈ members.rows := by
        rw [rows]
        exact List.mem_append_left _ stored
      exact absurd ⟨m, kept, rfl, living, le_rfl⟩ gone

/-! ## One route at a time -/

variable {env : ServiceEnvironment} {orgId : Uuid}

/-- A former member invited again. -/
def restored (s : Platform) (member : OrganizationMember) (target : Role) : Platform :=
  let members := s.members.updateKey member.id
    (fun m => { m with isDeleted := false, role := target }) (fun _ => rfl)
  { s with members := members }

theorem deleted_keeps (member : OrganizationMember) :
    ({ member with isDeleted := true } : OrganizationMember).id = member.id := rfl

def without (s : Platform) (member : OrganizationMember) : Platform :=
  let members := s.members.updateKey member.id
    (fun m => { m with isDeleted := true }) deleted_keeps
  { s with members := members }

theorem restored_within_iff {member : OrganizationMember} {target : Role}
    (place : member ∈ s.members.rows) (deleted : member.isDeleted = true) :
    WithinRole role s (restored s member target) ↔ target.level ≤ role.level := by
  unfold restored
  rw [withinRole_updateKey_iff _ place]
  simp [deleted]

theorem without_within_iff {member : OrganizationMember}
    (place : member ∈ s.members.rows) (alive : member.isDeleted = false) :
    WithinRole role s (without s member) ↔ member.role.level ≤ role.level := by
  unfold without
  rw [withinRole_updateKey_iff _ place]
  simp [alive]

theorem inviteMember_within_iff {request : OrganizationMemberInviteRequest} :
    (∀ after, inviteMember env orgId request s = .ok after → WithinRole role s after) ↔
      (Invites env s orgId request → request.role.level ≤ role.level) := by
  constructor
  · rintro within ⟨user, known, ⟨member, found, deleted⟩ | ⟨unknown, fresh⟩⟩
    · have place := (mem_of_membership found).1
      have success : inviteMember env orgId request s = .ok (restored s member request.role) := by
        simp [inviteMember, restored, known, found, deleted, require, refuseIf, bind, Except.bind,
          pure, Except.pure]
      exact (restored_within_iff place deleted).mp (within _ success)
    · obtain ⟨members, inserted⟩ := (Table.insert_isSome_iff s.members
        (newMember env (env.newId 0) orgId user.id request.role)).mpr fresh
      have success : inviteMember env orgId request s = .ok { s with members := members } := by
        simp [inviteMember, known, unknown, require, flushNew, inserted, bind, Except.bind, pure,
          Except.pure]
      exact (withinRole_insert_iff rfl inserted).mp (within _ success)
  · intro below after success
    obtain ⟨user, known, success⟩ := bind_eq_ok success
    obtain ⟨existing, found, success⟩ := bind_eq_ok success
    have known := require_eq_ok.mp known
    cases existing with
    | some member =>
      obtain ⟨_, deleted, success⟩ := bind_eq_ok success
      have deleted := Bool.eq_true_of_not_eq_false (refuseIf_eq_ok.mp deleted)
      cases success
      apply (restored_within_iff (mem_of_membership found).1 deleted).mpr
      exact below ⟨user, known, .inl ⟨member, found, deleted⟩⟩
    | none =>
      obtain ⟨members, flushed, success⟩ := bind_eq_ok success
      cases success
      have inserted := flushNew_eq_ok.mp flushed
      apply (withinRole_insert_iff rfl inserted).mpr
      exact below ⟨user, known, .inr ⟨found, (Table.insert_eq_some inserted).1⟩⟩

theorem level_le_owner (role : Role) : role.level ≤ Role.owner.level := by
  cases role <;> decide

theorem withinRole_owner (s after : Platform) : WithinRole .owner s after :=
  ⟨fun m _ => level_le_owner m.role, fun m _ => level_le_owner m.role⟩

theorem removeMember_within_iff {memberId : Uuid} :
    (∀ after, removeMember orgId memberId s = .ok after → WithinRole role s after) ↔
      ∀ member, Removes s orgId memberId member → member.role.level ≤ role.level := by
  constructor
  · intro within member ⟨found, owned, guarded⟩
    obtain ⟨stored, alive⟩ := Option.filter_eq_some_iff.mp found
    have place := ((Table.get?_eq_some_iff _ _ _).mp stored).1
    have success : removeMember orgId memberId s = .ok (without s member) := by
      simp only [removeMember, without, found, requireOwned, owned, if_true, refuseIf,
        if_neg guarded, bind, Except.bind, pure, Except.pure]
    exact (without_within_iff place (of_decide_eq_true alive)).mp (within _ success)
  · intro below after success
    obtain ⟨member, found, success⟩ := bind_eq_ok success
    obtain ⟨_, guarded, success⟩ := bind_eq_ok success
    obtain ⟨found, owned⟩ := requireOwned_eq_ok.mp found
    obtain ⟨stored, alive⟩ := Option.filter_eq_some_iff.mp found
    have place := ((Table.get?_eq_some_iff _ _ _).mp stored).1
    cases success
    apply (without_within_iff place (of_decide_eq_true alive)).mpr
    exact below member ⟨found, owned, refuseIf_eq_ok.mp guarded⟩

/-! ## Runs -/

theorem requireRole_owner (permitted : requireRole role (some .owner) = .ok ()) :
    role = .owner := by
  cases role <;> first | rfl | cases permitted

theorem committed_within_iff {result : Except Failure Platform} :
    WithinRole role s (committed env s result) ↔
      (env.accepts = true → ∀ after, result = .ok after → WithinRole role s after) := by
  unfold committed
  cases result with
  | error failure => simp [WithinRole.refl]
  | ok after =>
    cases env.accepts with
    | false => simp [WithinRole.refl]
    | true => simp

theorem step_iff (s : Platform) (call : MemberCall) : NoEscalation s call ↔ StaysBelow s call := by
  obtain ⟨env, request, route⟩ := call
  refine forall_congr' (fun user => forall_congr' (fun org => forall_congr' (fun role =>
    imp_congr_right (fun acts => imp_congr_right (fun permitted => ?_)))))
  unfold memberStep
  rw [serve_byOrganization route.endpoint acts permitted, committed_within_iff]
  refine imp_congr_right (fun accepts => ?_)
  cases route with
  | invite request => exact inviteMember_within_iff
  | changeRole memberId target =>
    -- only owners pass the guard, and nothing is above an owner
    refine iff_of_true (fun after _ => ?_) trivial
    rw [requireRole_owner permitted]
    exact withinRole_owner s after
  | remove memberId => exact removeMember_within_iff

/-- Over every run of member requests, nobody gives or takes a role above its own
exactly when no request of the run reaches above its actor. -/
theorem no_escalation_iff (s : Platform) (run : List MemberCall) :
    Run.AllSteps memberStep NoEscalation s run ↔ Run.AllSteps memberStep StaysBelow s run := by
  have agree : NoEscalation = StaysBelow := by
    funext s call
    exact propext (step_iff s call)
  rw [agree]

/-! ## An admin invites a second account as owner -/

/-- Acme with an admin, the admin's second account, and an owner. -/
def acmeWithAdmin : Platform where
  users := ⟨[⟨11, "m@acme.example", "M", "hash", true, false, false, 0⟩,
    ⟨12, "m2@acme.example", "M", "hash", true, false, false, 0⟩,
    ⟨13, "o@acme.example", "O", "hash", true, false, false, 0⟩], by decide⟩
  organizations := .single ⟨1, "Acme", "acme", .free, false, 0⟩
  members := ⟨[⟨31, 1, 11, .admin, 0, false⟩, ⟨33, 1, 13, .owner, 0, false⟩], by decide⟩
  apiKeys := .empty
  workspace := ⟨.empty, .empty, .empty, .empty, .empty, .empty, .empty, .empty, .empty, .empty,
    .empty, .empty, .empty, .empty, .empty, .empty⟩
  community := ⟨.empty, .empty, .empty, .empty, .empty, .empty, .empty⟩
  partners := ⟨.empty, .empty, .empty, .empty⟩

def ownerInvite : MemberCall where
  env := plainServer oneTokenCredentials
  request :=
    { method := "POST"
      path := "/v1/organizations/members"
      authorization := some "Bearer eyJ.access"
      apiKey := none
      organizationId := some acmeIdText
      reliastraOrganization := none
      idempotencyKey := none
      clientHost := some "203.0.113.5" }
  route := .invite ⟨"m2@acme.example", .owner⟩

/-- The admin's second account becomes an owner. -/
theorem admin_makes_owner :
    ¬ Run.AllSteps memberStep NoEscalation acmeWithAdmin [ownerInvite] := by
  intro ⟨step, _⟩
  have acts : ActsAs ownerInvite.env acmeWithAdmin ownerInvite.request
      ⟨11, "m@acme.example", "M", "hash", true, false, false, 0⟩
      ⟨1, "Acme", "acme", .free, false, 0⟩ .admin :=
    ⟨some 1, .jwt 11, by decide, by decide, by decide⟩
  have given : Given acmeWithAdmin (memberStep acmeWithAdmin ownerInvite)
      ⟨100, 1, 12, .owner, 0, false⟩ :=
    ⟨by decide, rfl, by decide⟩
  have level := (step _ _ _ acts (by decide)).given _ given
  exact absurd level (by decide)

end Reliastra.Guarantees.MemberRoles
