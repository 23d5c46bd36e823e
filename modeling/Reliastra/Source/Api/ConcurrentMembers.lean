import Reliastra.Library.Interleaving
import Reliastra.Source.Api.Accounts

/-!
# Member requests side by side

`invite_member`, `change_member_role` and `remove_member` of
`app/modules/organizations/service.py` statement by statement. Each request runs
in a READ COMMITTED transaction of its own: it reads what is committed at that
moment, and its update is seen by others from its commit on. A flush sets, by
primary key, the columns that differ from the loaded row; the others keep what
is committed in the meantime.
-/

namespace Reliastra.Source.Api

open Reliastra.Library Organizations

inductive MemberRequest where
  | invite (env : ServiceEnvironment) (orgId : Uuid) (request : OrganizationMemberInviteRequest)
  | changeRole (orgId memberId : Uuid) (role : Role)
  | remove (orgId memberId : Uuid)

/-- What a request has left to flush, with the rows it has read. -/
inductive MemberWrite where
  | add (row : OrganizationMember)
  | restore (member : OrganizationMember) (role : Role)
  | changeRole (member : OrganizationMember) (role : Role)
  /-- `listed` is what the guard of an owner's removal saw. -/
  | remove (member : OrganizationMember) (listed : List OrganizationMember)

inductive MemberPhase where
  | idle
  /-- The removal of an owner, before `list_members`. -/
  | listing (member : OrganizationMember)
  | writing (write : MemberWrite)

inductive MemberAct where
  | read (request : MemberRequest)
  | list
  | commit
  /-- The request or its worker ends without a commit. -/
  | abort

/-! ## Statements -/

/-- Up to the first statement that depends on what was read. -/
def readMember (s : Platform) : MemberRequest → Except Failure MemberPhase
  | .invite env orgId request => do
    let user ← require (userByEmail env s request.email)
      (notFound ("User with email '" ++ request.email ++ "' not found"))
    let existing ← membership s orgId user.id
    match existing with
    | some member => do
      refuseIf (member.isDeleted = false)
        (conflict "User is already a member of this organization")
      return .writing (.restore member request.role)
    | none => return .writing (.add (newMember env (env.newId 0) orgId user.id request.role))
  | .changeRole orgId memberId role => do
    let member ← requireOwned (memberById s memberId) (·.orgId) orgId
      "Organization member not found"
    return .writing (.changeRole member role)
  | .remove orgId memberId => do
    let member ← requireOwned (memberById s memberId) (·.orgId) orgId
      "Organization member not found"
    return if member.role = .owner then .listing member else .writing (.remove member [])

/-- `list_members` in a session that holds `member`: its row is not refreshed. -/
def listedWith (s : Platform) (member : OrganizationMember) : List OrganizationMember :=
  (listMembers s.members.rows member.orgId).map (fun m => if m.id = member.id then member else m)

/-- The guard of the removal of an owner. -/
def listOwners (s : Platform) (member : OrganizationMember) : Except Failure MemberPhase := do
  let owners := (listedWith s member).filter (fun m => m.role = .owner)
  refuseIf (owners.length ≤ 1)
    (forbidden ("Cannot remove the last owner of the organization. " ++
      "Transfer ownership to another member first."))
  return .writing (.remove member (listedWith s member))

/-- The columns of a flushed object that differ from what was loaded. -/
def flushColumns (loaded : OrganizationMember) (role : Role) (isDeleted : Bool)
    (row : OrganizationMember) : OrganizationMember :=
  { row with
    role := if role = loaded.role then row.role else role
    isDeleted := if isDeleted = loaded.isDeleted then row.isDeleted else isDeleted }

def MemberWrite.flush (t : Table OrganizationMember.id) :
    MemberWrite → Except Failure (Table OrganizationMember.id)
  | .add row =>
    if ∃ m ∈ t.rows, m.orgId = row.orgId ∧ m.userId = row.userId then
      .error (.flush "uq_organization_members_org_id_user_id")
    else flushNew t row
  | .restore member role =>
    .ok (t.updateKey member.id (flushColumns member role false) (fun _ => rfl))
  | .changeRole member role =>
    .ok (t.updateKey member.id (flushColumns member role member.isDeleted) (fun _ => rfl))
  | .remove member _ =>
    .ok (t.updateKey member.id (flushColumns member member.role true) (fun _ => rfl))

def memberAct (s : Platform) (phase : MemberPhase) : MemberAct → Platform × MemberPhase
  | .read request =>
    match phase with
    | .idle =>
      match readMember s request with
      | .ok next => (s, next)
      | .error _ => (s, .idle)
    | _ => (s, phase)
  | .list =>
    match phase with
    | .listing member =>
      match listOwners s member with
      | .ok next => (s, next)
      | .error _ => (s, .idle)
    | _ => (s, phase)
  | .commit =>
    match phase with
    | .writing write =>
      match write.flush s.members with
      | .ok members => ({ s with members := members }, .idle)
      | .error _ => (s, .idle)
    | _ => (s, phase)
  | .abort => (s, .idle)

/-! ## One request alone -/

/-- The rest of a request on the state it was read in. -/
def completeMember (s : Platform) : MemberPhase → Except Failure Platform
  | .idle => .ok s
  | .listing member => do
    let next ← listOwners s member
    match next with
    | .writing write => (write.flush s.members).map (fun members => { s with members := members })
    | _ => .ok s
  | .writing write => (write.flush s.members).map (fun members => { s with members := members })

theorem memberById_eq_some {s : Platform} {memberId : Uuid} {member : OrganizationMember}
    (found : memberById s memberId = some member) :
    member ∈ s.members.rows ∧ member.id = memberId ∧ member.isDeleted = false := by
  obtain ⟨stored, alive⟩ := Option.filter_eq_some_iff.mp found
  obtain ⟨place, here⟩ := (Table.get?_eq_some_iff _ _ _).mp stored
  exact ⟨place, here, of_decide_eq_true alive⟩

/-- Updates that agree on the loaded row are one update. -/
theorem updateKey_congr {t : Table OrganizationMember.id} {member : OrganizationMember}
    (place : member ∈ t.rows) {f g : OrganizationMember → OrganizationMember}
    (keepsF : ∀ row, (f row).id = row.id) (keepsG : ∀ row, (g row).id = row.id)
    (same : f member = g member) :
    t.updateKey member.id f keepsF = t.updateKey member.id g keepsG := by
  apply Table.ext
  rw [Table.updateKey_rows, Table.updateKey_rows]
  apply List.map_congr_left
  intro row here
  by_cases key : row.id = member.id
  · rw [if_pos key, if_pos key, Table.eq_of_key here place key, same]
  · rw [if_neg key, if_neg key]

theorem changeMemberRole_eq_statements (orgId memberId : Uuid) (role : Role) (s : Platform) :
    changeMemberRole orgId memberId role s =
      readMember s (.changeRole orgId memberId role) >>= completeMember s := by
  unfold changeMemberRole
  simp only [readMember]
  cases found : requireOwned (memberById s memberId) (·.orgId) orgId
      "Organization member not found" with
  | error failure => rfl
  | ok member =>
    obtain ⟨stored, _⟩ := requireOwned_eq_ok.mp found
    have same : flushColumns member role member.isDeleted member = { member with role := role } := by
      by_cases kept : role = member.role <;> simp [flushColumns, kept]
    have updates := updateKey_congr (memberById_eq_some stored).1
      (f := flushColumns member role member.isDeleted) (g := fun m => { m with role := role })
      (fun _ => rfl) (fun _ => rfl) same
    simp only [bind, Except.bind, pure, Except.pure, completeMember, MemberWrite.flush, Except.map,
      updates]

theorem removeMember_eq_statements (orgId memberId : Uuid) (s : Platform) :
    removeMember orgId memberId s = readMember s (.remove orgId memberId) >>= completeMember s := by
  unfold removeMember
  simp only [readMember]
  cases found : requireOwned (memberById s memberId) (·.orgId) orgId
      "Organization member not found" with
  | error failure => rfl
  | ok member =>
    obtain ⟨stored, rfl⟩ := requireOwned_eq_ok.mp found
    obtain ⟨place, _, alive⟩ := memberById_eq_some stored
    have same : flushColumns member member.role true member = { member with isDeleted := true } := by
      simp [flushColumns, alive]
    have updates := updateKey_congr place (f := flushColumns member member.role true)
      (g := fun m => { m with isDeleted := true }) (fun _ => rfl) (fun _ => rfl) same
    have listed : listedWith s member = listMembers s.members.rows member.orgId := by
      unfold listedWith
      rw [List.map_congr_left (g := id), List.map_id]
      intro m here
      have stored : m ∈ s.members.rows :=
        (List.mem_filter.mp ((List.mem_insertionSort _).mp here)).1
      split
      · next key => exact (Table.eq_of_key stored place key).symm
      · rfl
    by_cases owner : member.role = .owner
    · simp only [owner, true_and, if_true, bind, Except.bind, pure, Except.pure, completeMember,
        listOwners, listed, refuseIf]
      by_cases last : ((listMembers s.members.rows member.orgId).filter
          (fun m => m.role = .owner)).length ≤ 1
      · simp only [last, if_true]
      · simp only [last, if_false, MemberWrite.flush, Except.map, ← updates, owner]
    · simp only [owner, false_and, if_false, bind, Except.bind, pure, Except.pure, completeMember,
        MemberWrite.flush, Except.map, updates, refuseIf]

theorem inviteMember_eq_statements (env : ServiceEnvironment) (orgId : Uuid)
    (request : OrganizationMemberInviteRequest) (s : Platform) :
    inviteMember env orgId request s =
      readMember s (.invite env orgId request) >>= completeMember s := by
  unfold inviteMember
  simp only [readMember]
  cases require (userByEmail env s request.email)
      (notFound ("User with email '" ++ request.email ++ "' not found")) with
  | error failure => rfl
  | ok user =>
    simp only [bind, Except.bind]
    cases existing : membership s orgId user.id with
    | error failure => rfl
    | ok found =>
      cases found with
      | some member =>
        have place := (List.mem_filter.mp (mem_of_oneOrNone existing)).1
        by_cases alive : member.isDeleted = false
        · simp only [refuseIf, if_pos alive]
        · have same : flushColumns member request.role false member =
              { member with isDeleted := false, role := request.role } := by
            by_cases kept : request.role = member.role <;> simp [flushColumns, Ne.symm alive, kept]
          have updates := updateKey_congr place (f := flushColumns member request.role false)
            (g := fun m => { m with isDeleted := false, role := request.role })
            (fun _ => rfl) (fun _ => rfl) same
          simp only [refuseIf, if_neg alive, completeMember, MemberWrite.flush, pure, Except.pure,
            Except.map, updates]
      | none =>
        have unknown : ¬ ∃ m ∈ s.members.rows, m.orgId = orgId ∧ m.userId = user.id := by
          intro ⟨m, place, theirs⟩
          have selected : m ∈ s.members.rows.filter
              (fun m => m.orgId = orgId ∧ m.userId = user.id) :=
            List.mem_filter.mpr ⟨place, decide_eq_true theirs⟩
          rw [nil_of_oneOrNone existing] at selected
          cases selected
        simp only [pure, Except.pure, completeMember, MemberWrite.flush, newMember]
        rw [if_neg unknown]
        cases flushNew s.members ⟨env.newId 0, orgId, user.id, request.role, env.now, false⟩ <;> rfl

end Reliastra.Source.Api
