import Reliastra.Library.Paging
import Reliastra.Source.Admin.Customers

/-!
# Is the filtered customer listing exact?

`list_customers` cuts the page and counts the total by the filters of the query,
and drops the users that the plan and health filters refuse afterwards: from pages
already cut, and not from the total. `exactListing_iff` says that the listing is
exact just when these two filters refuse nobody the query selects.
-/

namespace Reliastra.Guarantees.CustomerListing

open Reliastra.Library Source Source.Admin

/-! ## The property -/

/-- The customer matches all the filters. -/
def Matches (db : Database) (now : Instant) (s : Store) (filters : CustomerFilters) (user : User) :
    Prop :=
  QueryMatches db filters user ∧ KeptByLoop db now s filters user

instance (db : Database) (now : Instant) (s : Store) (filters : CustomerFilters) :
    DecidablePred (Matches db now s filters) := fun user =>
  inferInstanceAs (Decidable (QueryMatches db filters user ∧ KeptByLoop db now s filters user))

def matching (db : Database) (now : Instant) (s : Store) (filters : CustomerFilters) : List User :=
  s.users.rows.filter (Matches db now s filters)

/-- How many pages a total fills. -/
def pageCount (total pageSize : Nat) : Nat := (total + pageSize - 1) / pageSize

/-- What the pages of a listing come to, put together. -/
structure ExactListing (expected : List CustomerListItem) (pages : Nat → CustomerListResponse)
    (pageSize : Nat) : Prop where
  together : ((List.range (pageCount (pages 1).total pageSize)).flatMap
    (fun i => (pages (i + 1)).items)).Perm expected
  full : ∀ page, 0 < page → page < pageCount (pages 1).total pageSize →
    (pages page).items.length = pageSize
  total : ∀ page, (pages page).total = expected.length

/-! ## Pages that nothing is dropped from -/

section Pages
variable {ρ : Type} {rows : List ρ} {pageSize : Nat}

theorem le_pageCount_mul (positive : 0 < pageSize) (total : Nat) :
    total ≤ pageCount total pageSize * pageSize := by
  unfold pageCount
  have cut := Nat.div_add_mod (total + pageSize - 1) pageSize
  have rest := Nat.mod_lt (total + pageSize - 1) positive
  rw [Nat.mul_comm] at cut
  omega

theorem page_full (positive : 0 < pageSize) {page : Nat} (first : 0 < page)
    (before : page < pageCount rows.length pageSize) :
    ((rows.drop ((page - 1) * pageSize)).take pageSize).length = pageSize := by
  have enough : page * pageSize ≤ rows.length - 1 := by
    have reached : (page + 1) * pageSize ≤ rows.length + pageSize - 1 :=
      (Nat.le_div_iff_mul_le positive).mp before
    rw [Nat.succ_mul] at reached
    omega
  have size := Nat.le_mul_of_pos_left pageSize first
  rw [List.length_take, List.length_drop, Nat.sub_mul, one_mul]
  omega

end Pages

/-- Users told apart by the sort column come in one order. -/
theorem arrange_eq {column : User → Int} (first second : OrderBy column) {rows : List User}
    (distinct : ∀ a ∈ rows, ∀ b ∈ rows, column a = column b → a = b) :
    first.arrange rows = second.arrange rows := by
  refine List.Perm.eq_of_pairwise ?_ (first.sorted rows) (second.sorted rows)
    ((first.perm rows).trans (second.perm rows).symm)
  intro a b left right before after
  exact distinct a ((first.mem_arrange rows a).mp left) b ((second.mem_arrange rows b).mp right)
    (le_antisymm before after)

/-! ## The listing -/

variable {db : Database} {now : Instant} {s : Store} {filters : CustomerFilters} {sort : String}
  {pageSize : Nat}

theorem matching_eq_selected
    (kept : ∀ user ∈ s.users.rows, QueryMatches db filters user → KeptByLoop db now s filters user) :
    matching db now s filters = s.users.rows.filter (QueryMatches db filters) :=
  List.filter_congr (fun user member => decide_eq_decide.mpr
    (and_iff_left_of_imp (kept user member)))

/-- Nobody is dropped from a page. -/
theorem items_of_kept (order : OrderBy (sortKey db sort))
    (kept : ∀ user ∈ s.users.rows, QueryMatches db filters user → KeptByLoop db now s filters user)
    (page : Nat) :
    (listCustomers db now s filters sort order page pageSize).items =
      (((order.arrange (s.users.rows.filter (QueryMatches db filters))).drop
        ((page - 1) * pageSize)).take pageSize).map (customerItem db now s) := by
  unfold listCustomers
  dsimp only
  congr 1
  rw [List.filter_eq_self]
  intro user member
  have selected := (order.mem_arrange _ user).mp (List.mem_of_mem_drop (List.mem_of_mem_take member))
  obtain ⟨there, query⟩ := List.mem_filter.mp selected
  exact decide_eq_true (kept user there (of_decide_eq_true query))

theorem exactListing_of_kept (orders : Nat → OrderBy (sortKey db sort)) (positive : 0 < pageSize)
    (distinct : ∀ a ∈ s.users.rows, ∀ b ∈ s.users.rows, sortKey db sort a = sortKey db sort b → a = b)
    (kept : ∀ user ∈ s.users.rows, QueryMatches db filters user → KeptByLoop db now s filters user) :
    ExactListing ((matching db now s filters).map (customerItem db now s))
      (fun page => listCustomers db now s filters sort (orders page) page pageSize) pageSize := by
  have same (page : Nat) : (orders page).arrange (s.users.rows.filter (QueryMatches db filters)) =
      (orders 0).arrange (s.users.rows.filter (QueryMatches db filters)) :=
    arrange_eq _ _ (fun a left b right => distinct a (List.mem_filter.mp left).1 b
      (List.mem_filter.mp right).1)
  have perm := (orders 0).perm (s.users.rows.filter (QueryMatches db filters))
  rw [matching_eq_selected kept]
  refine ⟨?_, ?_, ?_⟩
  · simp only [items_of_kept _ kept, same, Nat.add_sub_cancel]
    rw [← List.map_flatMap, Paging.flatMap_offsets, List.take_of_length_le]
    · exact perm.map _
    · rw [perm.length_eq]
      exact le_pageCount_mul positive _
  · intro page first before
    simp only [items_of_kept _ kept, same, List.length_map]
    exact page_full positive first (perm.length_eq ▸ before)
  · intro page
    exact (List.length_map _).symm

/-- The listing is exact just if the plan and health filters refuse nobody whom the
query selects. -/
theorem exactListing_iff (db : Database) (now : Instant) (s : Store) (filters : CustomerFilters)
    (sort : String) (orders : Nat → OrderBy (sortKey db sort)) (pageSize : Nat)
    (positive : 0 < pageSize)
    (distinct : ∀ a ∈ s.users.rows, ∀ b ∈ s.users.rows,
      sortKey db sort a = sortKey db sort b → a = b) :
    ExactListing ((matching db now s filters).map (customerItem db now s))
      (fun page => listCustomers db now s filters sort (orders page) page pageSize) pageSize ↔
      ∀ user ∈ s.users.rows, QueryMatches db filters user → KeptByLoop db now s filters user := by
  constructor
  · intro exact user member query
    have total := exact.total 1
    rw [List.length_map] at total
    -- a filter that leaves as many users as a weaker one leaves the same
    have weaker : matching db now s filters =
        (s.users.rows.filter (QueryMatches db filters)).filter (KeptByLoop db now s filters) := by
      rw [List.filter_filter]
      refine List.filter_congr (fun u _ => ?_)
      rw [Bool.and_comm, ← Bool.decide_and]
      rfl
    rw [weaker] at total
    have all := List.length_filter_eq_length_iff.mp total.symm user
      (List.mem_filter.mpr ⟨member, decide_eq_true query⟩)
    exact of_decide_eq_true all
  · exact exactListing_of_kept orders positive distinct

/-! ## One active and one deactivated user -/

def plainDatabase : Database where
  ilike _ _ := false
  rank _ := 0
  unordered := OrderBy.stable _

def twoUsers : Store where
  users := ⟨[⟨1, "a@b.example", "A", true, none, none, 100⟩,
    ⟨2, "c@d.example", "C", false, none, none, 200⟩], by decide⟩
  organizations := ⟨[], by decide⟩
  members := ⟨[], by decide⟩

/-- `?health=inactive`. -/
def inactiveOnly : CustomerFilters := ⟨none, none, none, some "inactive", none, none⟩

def twoUsersPage (filters : CustomerFilters) (page : Nat) : CustomerListResponse :=
  listCustomers plainDatabase 1000 twoUsers filters "created_at_desc"
    (OrderBy.stable (sortKey plainDatabase "created_at_desc")) page 1

def twoUsersMatching (filters : CustomerFilters) : List CustomerListItem :=
  (matching plainDatabase 1000 twoUsers filters).map (customerItem plainDatabase 1000 twoUsers)

theorem exactListing_iff_two :
    ExactListing (twoUsersMatching inactiveOnly) (twoUsersPage inactiveOnly) 1 ↔
      ∀ user ∈ twoUsers.users.rows, QueryMatches plainDatabase inactiveOnly user →
        KeptByLoop plainDatabase 1000 twoUsers inactiveOnly user :=
  exactListing_iff plainDatabase 1000 twoUsers inactiveOnly "created_at_desc"
    (fun _ => OrderBy.stable _) 1 (by decide) (by decide)

/-- The total counts both users, and the second page is empty. -/
theorem total_counts_dropped :
    ¬ ExactListing (twoUsersMatching inactiveOnly) (twoUsersPage inactiveOnly) 1 ∧
      (twoUsersPage inactiveOnly 1).total = 2 ∧ (twoUsersPage inactiveOnly 2).items = [] := by
  refine ⟨fun exact => ?_, rfl, by decide⟩
  have total := exact.total 1
  exact absurd total (by decide)

end Reliastra.Guarantees.CustomerListing
