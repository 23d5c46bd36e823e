import Mathlib.Data.String.Basic
import Reliastra.Source.Api.Listings

/-!
# Keyset paging shows every row once

Three listings go on after the row their cursor names, by a column and the
primary key among its ties: members by `joined_at`, incidents by `started_at`
downwards, public vendors by `display_name`. Whoever passes the id of the last row
of a page until a page is empty sees every row once, in the order of the listing.
`hasMore_iff` adds that the extra row `list_members` asks for tells the truth.
-/

namespace Reliastra.Guarantees.KeysetPaging

open Reliastra.Library Source Source.Api Organizations Paging

/-! ## The property -/

/-- Passing the key of the last row until a page is empty comes to an end and shows
the rows that qualify, each once and in order. -/
def Exact {ρ : Type} (list : Option Uuid → List ρ) (key : ρ → Uuid) (qualifies : ρ → Prop)
    (le : ρ → ρ → Prop) : Prop :=
  ∃ seen, Visits (fun cursor => some (upTo key (list cursor))) none seen ∧
    seen.Nodup ∧ (∀ row, row ∈ seen ↔ qualifies row) ∧ seen.Pairwise le

/-- A listing of the rows of a table, after the row its cursor names. -/
theorem exact_of_keyset {ρ : Type} {key : ρ → Uuid} (table : Table key) (le : ρ → ρ → Prop)
    [DecidableRel le] [Std.Total le] [IsTrans ρ le]
    (antisymm : ∀ a b, le a b → le b a → key a = key b) (p : ρ → Prop) [DecidablePred p] {n : Nat}
    (positive : 0 < n) {list : Option Uuid → List ρ}
    (lists : ∀ cursor, list cursor = ((table.rows.filter (fun r => p r ∧
      ∀ last ∈ cursor.bind table.get?, ¬ le r last)).insertionSort le).take n) :
    Exact list key (fun row => row ∈ table.rows ∧ p row) le := by
  have distinct : (table.rows.filter p).Nodup := table.unique.of_map.filter _
  have strict : ∀ a ∈ table.rows.filter p, ∀ b ∈ table.rows.filter p, le a b → le b a → a = b :=
    fun a left b right before after => table.eq_of_key (List.mem_filter.mp left).1
      (List.mem_filter.mp right).1 (antisymm a b before after)
  have first : some (upTo key (list none)) =
      some (upTo key (((table.rows.filter p).insertionSort le).take n)) := by
    rw [lists]
    simp
  have later : ∀ row ∈ table.rows.filter p, some (upTo key (list (some (key row)))) =
      some (upTo key ((((table.rows.filter p).filter
        (fun r => ¬ le r row)).insertionSort le).take n)) := by
    intro row member
    have found : table.get? (key row) = some row :=
      (table.get?_eq_some_iff _ _).mpr ⟨(List.mem_filter.mp member).1, rfl⟩
    rw [lists, List.filter_filter]
    congr 4
    refine List.filter_congr (fun r _ => ?_)
    simp [found, Bool.and_comm]
  refine ⟨(table.rows.filter p).insertionSort le, visits_keyset positive distinct strict first later,
    ?_, ?_, List.pairwise_insertionSort le _⟩
  · exact (List.perm_insertionSort le _).nodup_iff.mpr distinct
  · intro row
    rw [List.mem_insertionSort, List.mem_filter, decide_eq_true_iff]

/-! ## Members -/

section Members
variable (members : Table OrganizationMember.id) (orgId : Uuid)

/-- The rows of an organization that are not deleted. -/
def Belongs (m : OrganizationMember) : Prop :=
  m ∈ members.rows ∧ m.orgId = orgId ∧ m.isDeleted = false

instance : Std.Total joinedBefore :=
  inferInstanceAs (Std.Total (ColumnThenKey OrganizationMember.joinedAt OrganizationMember.id))

instance : IsTrans OrganizationMember joinedBefore :=
  inferInstanceAs (IsTrans _ (ColumnThenKey OrganizationMember.joinedAt OrganizationMember.id))

theorem not_joinedBefore_iff (m last : OrganizationMember) : ¬ joinedBefore m last ↔
    last.joinedAt < m.joinedAt ∨ m.joinedAt = last.joinedAt ∧ last.id < m.id :=
  not_columnThenKey_iff m last

/-- The members after the one a cursor names. -/
def membersAfter (cursor : Option Uuid) : List OrganizationMember :=
  members.rows.filter (fun m => (m.orgId = orgId ∧ m.isDeleted = false) ∧
    ∀ last ∈ cursor.bind members.get?, ¬ joinedBefore m last)

theorem listMembersFrom_eq (limit : Option Nat) (cursor : Option Uuid) :
    listMembersFrom members orgId limit cursor =
      limited limit ((membersAfter members orgId cursor).insertionSort joinedBefore) := by
  unfold listMembersFrom membersAfter
  simp only [not_joinedBefore_iff]

theorem members_exact {limit : Nat} (positive : 0 < limit) :
    Exact (listMembersFrom members orgId (some limit)) OrganizationMember.id
      (Belongs members orgId) joinedBefore := by
  exact exact_of_keyset members joinedBefore
    (fun _ _ before after => ColumnThenKey.key_eq before after)
    (fun m => m.orgId = orgId ∧ m.isDeleted = false) positive
    (listMembersFrom_eq members orgId (some limit))

/-- The items of a page are the rows without the extra one. -/
theorem listMembersPage_data (limit : Nat) (cursor : Option Uuid) :
    (listMembersPage members orgId limit cursor).data =
      listMembersFrom members orgId (some limit) cursor := by
  simp only [listMembersPage, slicePage, listMembersFrom_eq, limited, List.take_take]
  rw [Nat.min_eq_left (Nat.le_succ limit)]

theorem mem_membersAfter {cursor : Option Uuid} {m : OrganizationMember} :
    m ∈ membersAfter members orgId cursor ↔
      Belongs members orgId m ∧ ∀ last ∈ cursor.bind members.get?, ¬ joinedBefore m last := by
  unfold membersAfter Belongs
  rw [List.mem_filter, decide_eq_true_iff]
  tauto

/-- The members after one that a listing showed are among those of that listing. -/
theorem mem_membersAfter_some {cursor : Option Uuid} {last m : OrganizationMember}
    (shown : last ∈ membersAfter members orgId cursor) :
    m ∈ membersAfter members orgId (some last.id) ↔
      m ∈ membersAfter members orgId cursor ∧ ¬ joinedBefore m last := by
  have found : members.get? last.id = some last :=
    (members.get?_eq_some_iff _ _).mpr ⟨((mem_membersAfter ..).mp shown).1.1, rfl⟩
  rw [mem_membersAfter, mem_membersAfter, Option.bind_some, found]
  constructor
  · intro ⟨belongs, after⟩
    have past : ¬ joinedBefore m last := after last rfl
    have later : joinedBefore last m := (Std.Total.total m last).resolve_left past
    refine ⟨⟨belongs, fun row named before => ?_⟩, past⟩
    exact ((mem_membersAfter ..).mp shown).2 row named (IsTrans.trans _ _ _ later before)
  · intro ⟨⟨belongs, _⟩, past⟩
    refine ⟨belongs, fun row named => ?_⟩
    cases named
    exact past

/-- `has_more` tells whether anything is left after the last item of a page. -/
theorem hasMore_iff {limit : Nat} (positive : 0 < limit) (cursor : Option Uuid) :
    (listMembersPage members orgId limit cursor).hasMore = true ↔
      ∃ last ∈ (listMembersPage members orgId limit cursor).data.getLast?,
        listMembersFrom members orgId none (some last.id) ≠ [] := by
  have ordered := List.pairwise_insertionSort joinedBefore (membersAfter members orgId cursor)
  have distinct := (List.perm_insertionSort joinedBefore _).nodup_iff.mpr
    ((members.unique.of_map _).filter _ : (membersAfter members orgId cursor).Nodup)
  have inside {m : OrganizationMember}
      (shown : m ∈ (membersAfter members orgId cursor).insertionSort joinedBefore) :
      m ∈ members.rows :=
    ((mem_membersAfter ..).mp ((List.mem_insertionSort _).mp shown)).1.1
  have more : (listMembersPage members orgId limit cursor).hasMore = true ↔
      limit < ((membersAfter members orgId cursor).insertionSort joinedBefore).length := by
    simp only [listMembersPage, slicePage, listMembersFrom_eq, limited]
    rw [decide_eq_true_iff, List.length_take]
    omega
  rw [more, lt_length_iff_left positive ordered (fun a left b right before after =>
    members.eq_of_key (inside left) (inside right) (ColumnThenKey.key_eq before after)) distinct,
    listMembersPage_data, listMembersFrom_eq, limited]
  refine exists_congr (fun last => and_congr_right (fun found => ?_))
  have shown : last ∈ membersAfter members orgId cursor :=
    (List.mem_insertionSort _).mp (List.mem_of_mem_take (List.mem_of_getLast? found))
  rw [listMembersFrom_eq, limited, Ne, List.eq_nil_iff_forall_not_mem]
  simp only [not_forall, not_not, List.mem_insertionSort, mem_membersAfter_some members orgId shown]

end Members

/-! ## Incidents -/

section Incidents
variable (incidents : Table Incident.id) (orgId : Uuid)

instance : Std.Total startedAfter :=
  inferInstanceAs (Std.Total (ColumnThenKey (fun i : Incident => OrderDual.toDual i.startedAt)
    (fun i => OrderDual.toDual i.id)))

instance : IsTrans Incident startedAfter :=
  inferInstanceAs (IsTrans _ (ColumnThenKey (fun i : Incident => OrderDual.toDual i.startedAt)
    (fun i => OrderDual.toDual i.id)))

theorem not_startedAfter_iff (i last : Incident) : ¬ startedAfter i last ↔
    i.startedAt < last.startedAt ∨ i.startedAt = last.startedAt ∧ i.id < last.id :=
  (not_columnThenKey_iff i last).trans (or_congr Iff.rfl (and_congr_left' OrderDual.toDual_inj))

variable {confidence : IncidentCorrelation → Int} (order : OrderBy confidence)
  (correlations : Table IncidentCorrelation.id)

theorem incidents_exact {limit : Nat} (positive : 0 < limit) :
    Exact (fun cursor => (listWithCorrelationsForOrg order incidents correlations orgId limit
      cursor).map (·.1)) Incident.id (fun i => i ∈ incidents.rows ∧ i.orgId = orgId)
      startedAfter := by
  refine exact_of_keyset incidents startedAfter
    (fun i other before after => ?_) (fun i => i.orgId = orgId) positive (fun cursor => ?_)
  · have ordered : ColumnThenKey (fun i : Incident => OrderDual.toDual i.startedAt)
        (fun i => OrderDual.toDual i.id) i other := before
    exact OrderDual.toDual_inj.mp (ordered.key_eq after)
  unfold listWithCorrelationsForOrg
  simp only [List.map_map, not_startedAfter_iff]
  exact List.map_id _

/-- An incident is listed with all its correlations. -/
theorem correlations_complete (limit : Nat) (cursor : Option Uuid) :
    ∀ row ∈ listWithCorrelationsForOrg order incidents correlations orgId limit cursor,
      row.2.Perm (correlations.rows.filter (fun c => c.incidentId = row.1.id)) := by
  unfold listWithCorrelationsForOrg
  intro row member
  obtain ⟨incident, inside, rfl⟩ := List.mem_map.mp member
  refine ((order.perm _).filter _).trans (List.Perm.of_eq ?_)
  rw [List.filter_filter]
  refine List.filter_congr (fun c _ => ?_)
  by_cases own : c.incidentId = incident.id
  · have listed := List.mem_map_of_mem (f := Incident.id) inside
    rw [decide_eq_true own, Bool.true_and]
    exact decide_eq_true (own ▸ listed)
  · simp [own]

end Incidents

/-! ## Public vendors -/

section Vendors
variable {α : Type} [LinearOrder α] (collation : Collation α) (vendors : Table VendorTracking.id)

instance : Std.Total (displayedBefore collation) :=
  inferInstanceAs (Std.Total (ColumnThenKey (fun v : VendorTracking =>
    collation.sortKey v.displayName) VendorTracking.id))

instance : IsTrans VendorTracking (displayedBefore collation) :=
  inferInstanceAs (IsTrans _ (ColumnThenKey (fun v : VendorTracking =>
    collation.sortKey v.displayName) VendorTracking.id))

theorem not_displayedBefore_iff (v last : VendorTracking) : ¬ displayedBefore collation v last ↔
    collation.sortKey last.displayName < collation.sortKey v.displayName ∨
      v.displayName = last.displayName ∧ last.id < v.id :=
  (not_columnThenKey_iff v last).trans
    (or_congr Iff.rfl (and_congr_left' collation.injective.eq_iff))

theorem vendors_exact {limit : Nat} (positive : 0 < limit) :
    Exact (listPublic collation vendors (some limit)) VendorTracking.id
      (fun v => v ∈ vendors.rows ∧ v.isPublic = true) (displayedBefore collation) := by
  refine exact_of_keyset vendors (displayedBefore collation)
    (fun _ _ before after => ColumnThenKey.key_eq before after)
    (fun v => v.isPublic = true) positive (fun cursor => ?_)
  unfold listPublic
  simp only [limited, not_displayedBefore_iff]

end Vendors

/-! ## The three listings -/

/-- Every page size from one on: members, incidents and public vendors are each shown
once and in order, incidents with all their correlations, and `has_more` of
`list_members` is true exactly when rows remain. -/
theorem keyset_exact {α : Type} [LinearOrder α] (collation : Collation α)
    {confidence : IncidentCorrelation → Int} (order : OrderBy confidence)
    (members : Table OrganizationMember.id) (incidents : Table Incident.id)
    (correlations : Table IncidentCorrelation.id) (vendors : Table VendorTracking.id)
    (orgId : Uuid) (limit : Nat) (positive : 0 < limit) :
    Exact (listMembersFrom members orgId (some limit)) OrganizationMember.id
      (Belongs members orgId) joinedBefore ∧
    Exact (fun cursor => (listMembersPage members orgId limit cursor).data) OrganizationMember.id
      (Belongs members orgId) joinedBefore ∧
    (∀ cursor, (listMembersPage members orgId limit cursor).hasMore = true ↔
      ∃ last ∈ (listMembersPage members orgId limit cursor).data.getLast?,
        listMembersFrom members orgId none (some last.id) ≠ []) ∧
    Exact (fun cursor => (listWithCorrelationsForOrg order incidents correlations orgId limit
      cursor).map (·.1)) Incident.id (fun i => i ∈ incidents.rows ∧ i.orgId = orgId)
      startedAfter ∧
    (∀ cursor, ∀ row ∈ listWithCorrelationsForOrg order incidents correlations orgId limit cursor,
      row.2.Perm (correlations.rows.filter (fun c => c.incidentId = row.1.id))) ∧
    Exact (listPublic collation vendors (some limit)) VendorTracking.id
      (fun v => v ∈ vendors.rows ∧ v.isPublic = true) (displayedBefore collation) := by
  refine ⟨members_exact members orgId positive, ?_, hasMore_iff members orgId positive,
    incidents_exact incidents orgId order correlations positive,
    correlations_complete incidents orgId order correlations limit,
    vendors_exact collation vendors positive⟩
  simp only [listMembersPage_data]
  exact members_exact members orgId positive

/-- Two members who joined at the same time. -/
def twoMembers : Table OrganizationMember.id where
  rows := [1, 2].map (fun id =>
    { id, orgId := 1, userId := id, role := .viewer, joinedAt := 100, isDeleted := false })
  unique := by decide

/-- Texts compared by code points. -/
def codePoints : Collation String where
  sortKey text := text
  injective := Function.injective_id

theorem keyset_exact_two :
    Exact (listMembersFrom twoMembers 1 (some 1)) OrganizationMember.id (Belongs twoMembers 1)
      joinedBefore ∧
    Exact (listPublic codePoints ⟨[], by decide⟩ (some 1)) VendorTracking.id
      (fun v => v ∈ [] ∧ v.isPublic = true) (displayedBefore codePoints) :=
  have all := keyset_exact codePoints (OrderBy.stable (fun _ => 0)) twoMembers ⟨[], by decide⟩
    ⟨[], by decide⟩ ⟨[], by decide⟩ 1 1 (by decide)
  ⟨all.1, all.2.2.2.2.2⟩

end Reliastra.Guarantees.KeysetPaging
