import Mathlib.Data.List.Sort
import Mathlib.Order.Basic
import Reliastra.Library.Table

/-!
# Listings page by page

A listing answers a cursor with a page of rows and, unless it is the last, the
cursor of the next page; no cursor asks for the first one. `Visits` says what
following the cursors shows, and that it comes to an end: a listing that sends
the reader round in circles visits nothing.

Three ways to page are compared with the rows in their order. A listing that
ignores its cursor ends only where one page holds everything. One that compares
the sort column alone with its cursor loses the rows on the far side of a tie. A
keyset listing goes on after the row it stopped at, and shows every row once
whatever rows share a sort key. Pages cut at offsets put together are the rows
cut.
-/

namespace Reliastra.Library.Paging

variable {ρ κ : Type*}

/-- Rows, and the cursor of what follows. -/
abbrev Page (ρ κ : Type*) := List ρ × Option κ

/-- Following the cursors from here on comes to an end and shows these rows. -/
inductive Visits (page : Option κ → Option (Page ρ κ)) : Option κ → List ρ → Prop
  | last {cursor : Option κ} {rows : List ρ} (answer : page cursor = some (rows, none)) :
      Visits page cursor rows
  | more {cursor : Option κ} {rows rest : List ρ} {next : κ}
      (answer : page cursor = some (rows, some next)) (later : Visits page (some next) rest) :
      Visits page cursor (rows ++ rest)

variable {page : Option κ → Option (Page ρ κ)} {cursor : Option κ} {rows seen : List ρ}

theorem visits_last_iff (answer : page cursor = some (rows, none)) :
    Visits page cursor seen ↔ seen = rows := by
  constructor
  · intro visits
    cases visits with
    | last here =>
      rw [answer] at here
      cases here
      rfl
    | more here _ =>
      rw [answer] at here
      cases here
  · rintro rfl
    exact .last answer

theorem visits_more_iff {next : κ} (answer : page cursor = some (rows, some next)) :
    Visits page cursor seen ↔ ∃ rest, Visits page (some next) rest ∧ seen = rows ++ rest := by
  constructor
  · intro visits
    cases visits with
    | last here =>
      rw [answer] at here
      cases here
    | more here later =>
      rw [answer] at here
      cases here
      exact ⟨_, later, rfl⟩
  · rintro ⟨rest, later, rfl⟩
    exact .more answer later

/-- Only one list is visited. -/
theorem Visits.unique {other : List ρ} (visits : Visits page cursor seen)
    (visits' : Visits page cursor other) : seen = other := by
  induction visits generalizing other with
  | last answer => exact ((visits_last_iff answer).mp visits').symm
  | more answer later ih =>
    obtain ⟨rest, later', rfl⟩ := (visits_more_iff answer).mp visits'
    rw [ih later']

/-- Following the cursors from the first page shows each of the rows once. -/
def EachOnce (page : Option κ → Option (Page ρ κ)) (rows : List ρ) : Prop :=
  ∃ seen, Visits page none seen ∧ seen.Perm rows

section Cut
variable {key : ρ → κ} {n : Nat}

/-- `n` rows, and the key of the last of them if there are others. -/
def cutAt (key : ρ → κ) (n : Nat) (rows : List ρ) : Page ρ κ :=
  (rows.take n, if n < rows.length then (rows.take n).getLast?.map key else none)

theorem cutAt_last (short : rows.length ≤ n) : cutAt key n rows = (rows, none) := by
  simp [cutAt, List.take_of_length_le short, Nat.not_lt_of_le short]

theorem cutAt_more {first rest : List ρ} {last : ρ} (size : (first ++ [last]).length = n)
    (others : rest ≠ []) :
    cutAt key n (first ++ last :: rest) = (first ++ [last], some (key last)) := by
  have positive := List.length_pos_iff.mpr others
  have whole : first ++ last :: rest = first ++ [last] ++ rest := by simp
  unfold cutAt
  rw [whole, List.take_left' size, if_pos (by rw [List.length_append]; omega)]
  simp

end Cut

/-! ## A cursor that is ignored -/

theorem not_visits_of_ignored {next : κ} (ignored : ∀ c, page c = some (rows, some next)) :
    ¬ Visits page cursor seen := by
  intro visits
  induction visits with
  | last answer =>
    rw [ignored] at answer
    cases answer
  | more _ _ ih => exact ih

/-- Every cursor is answered with the first page. -/
theorem eachOnce_iff_of_ignored {key : ρ → κ} {n : Nat} {arranged : List ρ} (positive : 0 < n)
    (perm : arranged.Perm rows) (ignored : ∀ c, page c = some (cutAt key n arranged)) :
    EachOnce page rows ↔ rows.length ≤ n := by
  rw [← perm.length_eq]
  constructor
  · intro ⟨seen, visits, _⟩
    by_contra long
    have long := Nat.lt_of_not_le long
    have nonempty : arranged.take n ≠ [] := by
      intro empty
      have length := congrArg List.length empty
      rw [List.length_take, List.length_nil] at length
      omega
    have more : cutAt key n arranged =
        (arranged.take n, some (key ((arranged.take n).getLast nonempty))) := by
      rw [cutAt, if_pos long, List.getLast?_eq_some_getLast nonempty, Option.map_some]
    exact not_visits_of_ignored (fun c => by rw [ignored, more]) visits
  · intro short
    exact ⟨arranged, .last (by rw [ignored, cutAt_last short]), perm⟩

/-! ## A cursor compared with the sort column alone -/

section Column
variable {column : ρ → Int} {key : ρ → κ} {n : Nat}

/-- From this cursor on `rows` are left, and a cursor leaves those past its row by
the column. -/
structure ByColumn (page : Option κ → Option (Page ρ κ)) (key : ρ → κ) (n : Nat)
    (order : OrderBy column) (cursor : Option κ) (rows : List ρ) : Prop where
  here : page cursor = some (cutAt key n (order.arrange rows))
  later : ∀ row ∈ rows, page (some (key row)) =
    some (cutAt key n (order.arrange (rows.filter (fun r => column row < column r))))

/-- No page ends between two rows with the same value in the column. -/
def NoTieAtPageEnd (column : ρ → Int) (n : Nat) (rows : List ρ) : Prop :=
  ∀ pages value, ¬ (rows.countP (fun r => column r < value) < pages * n ∧
    pages * n < rows.countP (fun r => column r ≤ value))

variable {order : OrderBy column}

theorem ByColumn.past (listing : ByColumn page key n order cursor rows) {row : ρ}
    (member : row ∈ rows) : ByColumn page key n order (some (key row))
      (rows.filter (fun r => column row < column r)) where
  here := listing.later row member
  later next inside := by
    obtain ⟨original, after⟩ := List.mem_filter.mp inside
    have after := of_decide_eq_true after
    rw [listing.later next original, List.filter_filter]
    congr 3
    refine List.filter_congr (fun r _ => ?_)
    have further : column next < column r → column row < column r := lt_trans after
    by_cases past : column next < column r
    · simp [past, further past]
    · simp [past]

/-- A page that is not the last: the rows of the page, then the others. -/
theorem split_of_long (order : OrderBy column) (positive : 0 < n)
    (long : n < rows.length) : ∃ first last rest, order.arrange rows = first ++ last :: rest ∧
      (first ++ [last]).length = n ∧ rest ≠ [] ∧ (∀ r ∈ first, column r ≤ column last) ∧
      ∀ r ∈ rest, column last ≤ column r := by
  have length := (order.perm rows).length_eq
  have inside : n - 1 < (order.arrange rows).length := by omega
  have cut : order.arrange rows = (order.arrange rows).take (n - 1) ++
      (order.arrange rows)[n - 1] :: (order.arrange rows).drop n := by
    have drop := List.drop_eq_getElem_cons inside
    rw [Nat.sub_add_cancel positive] at drop
    rw [← drop, List.take_append_drop]
  have sorted := order.sorted rows
  rw [cut] at sorted
  obtain ⟨_, tail, cross⟩ := List.pairwise_append.mp sorted
  refine ⟨_, _, _, cut, ?_, ?_, ?_, ?_⟩
  · rw [List.length_append, List.length_take, List.length_singleton]
    omega
  · intro empty
    have none := congrArg List.length empty
    rw [List.length_drop, List.length_nil] at none
    omega
  · exact fun r member => cross r member _ List.mem_cons_self
  · exact (List.pairwise_cons.mp tail).1

theorem noTieAtPageEnd_of_short (short : rows.length ≤ n) : NoTieAtPageEnd column n rows := by
  intro pages value ⟨below, reached⟩
  have atMost := List.countP_le_length (p := fun r => decide (column r ≤ value)) (l := rows)
  have none : pages = 0 := by
    by_contra some
    have := Nat.le_mul_of_pos_left n (Nat.pos_of_ne_zero some)
    omega
  rw [none] at below
  omega

/-- Beyond a page end without a tie, the ends are those of the rows that are left. -/
theorem noTieAtPageEnd_append {page rest : List ρ} {bound : Int}
    (perm : (page ++ rest).Perm rows) (size : page.length = n)
    (upTo : ∀ r ∈ page, column r ≤ bound) (past : ∀ r ∈ rest, bound < column r) :
    NoTieAtPageEnd column n rows ↔ NoTieAtPageEnd column n rest := by
  have split (p : ρ → Bool) : rows.countP p = page.countP p + rest.countP p := by
    rw [← perm.countP_eq, List.countP_append]
  have whole {p : ρ → Bool} (holds : ∀ r, column r ≤ bound → p r = true) :
      page.countP p = n := by
    rw [← size, List.countP_eq_length]
    exact fun r member => holds r (upTo r member)
  have none {p : ρ → Bool} (fails : ∀ r, bound < column r → p r = false) :
      rest.countP p = 0 := by
    rw [List.countP_eq_zero]
    intro r member
    simp [fails r (past r member)]
  constructor
  · intro free pages value ⟨below, reached⟩
    -- some row that is left has the value or less
    have above : bound < value := by
      by_contra least
      rw [none (fun r after => by simp; omega)] at reached
      omega
    apply free (pages + 1) value
    rw [split, split, whole (fun r before => by simp; omega),
      whole (fun r before => by simp; omega), Nat.succ_mul]
    omega
  · intro free pages value ⟨below, reached⟩
    rw [split] at below reached
    rcases Nat.eq_zero_or_pos pages with rfl | later
    · omega
    · have beyond := Nat.le_mul_of_pos_left n later
      have above : bound < value := by
        by_contra least
        rw [none (fun r after => by simp; omega)] at reached
        have := List.countP_le_length (p := fun r => decide (column r ≤ value)) (l := page)
        omega
      rw [whole (fun r before => by simp; omega)] at below reached
      obtain ⟨pages, rfl⟩ := Nat.exists_eq_succ_of_ne_zero (Nat.ne_of_gt later)
      rw [Nat.succ_mul] at below reached
      exact free pages value (by omega)

theorem not_noTieAtPageEnd_of_tie {page rest : List ρ} {last other : ρ}
    (perm : (page ++ rest).Perm rows) (size : page.length = n) (ending : last ∈ page)
    (upTo : ∀ r ∈ page, column r ≤ column last) (after : ∀ r ∈ rest, column last ≤ column r)
    (left : other ∈ rest) (tied : column other = column last) :
    ¬ NoTieAtPageEnd column n rows := by
  intro free
  refine free 1 (column last) ⟨?_, ?_⟩
  · rw [← perm.countP_eq, List.countP_append, one_mul, ← size]
    have strictly : page.countP (fun r => decide (column r < column last)) < page.length := by
      refine lt_of_le_of_ne List.countP_le_length (fun all => ?_)
      simpa using List.countP_eq_length.mp all last ending
    have none : rest.countP (fun r => decide (column r < column last)) = 0 := by
      rw [List.countP_eq_zero]
      intro r inside
      simpa using after r inside
    omega
  · rw [← perm.countP_eq, List.countP_append, one_mul]
    have whole : page.countP (fun r => decide (column r ≤ column last)) = n := by
      rw [← size, List.countP_eq_length]
      exact fun r inside => by simpa using upTo r inside
    have some : 0 < rest.countP (fun r => decide (column r ≤ column last)) :=
      List.countP_pos_iff.mpr ⟨other, left, by simp [tied]⟩
    omega

/-- What the next page is taken from. -/
theorem filter_past_perm {page rest : List ρ} {last : ρ} (perm : (page ++ rest).Perm rows)
    (upTo : ∀ r ∈ page, column r ≤ column last) (past : ∀ r ∈ rest, column last < column r) :
    (rows.filter (fun r => column last < column r)).Perm rest := by
  refine (perm.symm.filter _).trans (List.Perm.of_eq ?_)
  have none : page.filter (fun r => column last < column r) = [] := by
    rw [List.filter_eq_nil_iff]
    intro r inside
    simpa using upTo r inside
  have all : rest.filter (fun r => column last < column r) = rest := by
    rw [List.filter_eq_self]
    exact fun r inside => by simpa using past r inside
  rw [List.filter_append, none, all, List.nil_append]

/-- A listing by a column ends, and shows each row that is left once just if no
page ends at a tie. -/
theorem ByColumn.visits (positive : 0 < n)
    (listing : ByColumn page key n order cursor rows) :
    (∀ seen, Visits page cursor seen → ∀ r ∈ seen, r ∈ rows) ∧
      ((∃ seen, Visits page cursor seen ∧ seen.Perm rows) ↔ NoTieAtPageEnd column n rows) := by
  induction size : rows.length using Nat.strong_induction_on generalizing rows cursor with
  | _ m ih =>
    have perm := order.perm rows
    rcases Nat.lt_or_ge n rows.length with long | short
    · obtain ⟨first, last, rest, cut, full, others, before, after⟩ :=
        split_of_long order positive long
      have whole : first ++ last :: rest = first ++ [last] ++ rest := by simp
      have here := listing.here
      rw [cut, cutAt_more full others] at here
      rw [cut, whole] at perm
      have member : last ∈ rows := perm.mem_iff.mp (by simp)
      have upTo : ∀ r ∈ first ++ [last], column r ≤ column last := by
        intro r inside
        rcases List.mem_append.mp inside with early | final
        · exact before r early
        · rw [List.mem_singleton.mp final]
      have fewer : (rows.filter (fun r => column last < column r)).length < m := by
        rw [← size, List.length_filter_lt_length_iff_exists]
        exact ⟨last, member, by simp⟩
      obtain ⟨subset, once⟩ := ih _ fewer (listing.past member) rfl
      constructor
      · intro seen visits r shown
        obtain ⟨more, later, rfl⟩ := (visits_more_iff here).mp visits
        rcases List.mem_append.mp shown with now | then'
        · exact perm.mem_iff.mp (List.mem_append_left _ now)
        · exact (List.mem_filter.mp (subset more later r then')).1
      · have shape : (∃ seen, Visits page cursor seen ∧ seen.Perm rows) ↔
            ∃ more, Visits page (some (key last)) more ∧ more.Perm rest := by
          constructor
          · intro ⟨seen, visits, same⟩
            obtain ⟨more, later, rfl⟩ := (visits_more_iff here).mp visits
            exact ⟨more, later, (List.perm_append_left_iff _).mp (same.trans perm.symm)⟩
          · intro ⟨more, later, same⟩
            exact ⟨_, .more here later, (same.append_left _).trans perm⟩
        rw [shape]
        by_cases tie : ∃ r ∈ rest, column r = column last
        · obtain ⟨r, left, tied⟩ := tie
          constructor
          · intro ⟨more, later, same⟩
            have shown := subset more later r (same.mem_iff.mpr left)
            have past := of_decide_eq_true (List.mem_filter.mp shown).2
            omega
          · exact fun free => absurd free
              (not_noTieAtPageEnd_of_tie perm full (by simp) upTo after left tied)
        · have past : ∀ r ∈ rest, column last < column r := by
            intro r inside
            have least := after r inside
            have other : column r ≠ column last := fun same => tie ⟨r, inside, same⟩
            omega
          have left := filter_past_perm perm upTo past
          have ends := noTieAtPageEnd_append
            ((left.append_left _).trans perm) full upTo
            (fun r inside => past r (left.mem_iff.mp inside))
          rw [ends, ← once]
          refine exists_congr (fun more => and_congr_right (fun _ => ?_))
          exact ⟨fun same => same.trans left.symm, fun same => same.trans left⟩
    · have here := listing.here
      rw [cutAt_last (perm.length_eq.trans_le short)] at here
      have ends : NoTieAtPageEnd column n rows := noTieAtPageEnd_of_short short
      constructor
      · intro seen visits r shown
        rw [(visits_last_iff here).mp visits] at shown
        exact perm.mem_iff.mp shown
      · exact ⟨fun _ => ends, fun _ => ⟨_, .last here, perm⟩⟩

end Column

/-! ## Keyset paging -/

section Keyset
variable {key : ρ → κ}

/-- A page whose cursor is the key of its last row. -/
def upTo (key : ρ → κ) (rows : List ρ) : Page ρ κ := (rows, rows.getLast?.map key)

/-- A listing that goes on where it stopped shows everything. -/
theorem visits_of_suffixes {n : Nat} (positive : 0 < n)
    (answers : ∀ before rest, rows = before ++ rest →
      page (before.getLast?.map key) = some (upTo key (rest.take n))) :
    Visits page none rows := by
  suffices later : ∀ m before rest, rest.length ≤ m → rows = before ++ rest →
      Visits page (before.getLast?.map key) rest from
    later rows.length [] rows le_rfl rfl
  intro m
  induction m with
  | zero =>
    intro before rest short split
    obtain rfl := List.eq_nil_of_length_eq_zero (Nat.le_zero.mp short)
    have here := answers before [] split
    rw [List.take_nil] at here
    exact .last here
  | succ m ih =>
    intro before rest short split
    have here := answers before rest split
    cases rest with
    | nil =>
      rw [List.take_nil] at here
      exact .last here
    | cons first others =>
      obtain ⟨k, rfl⟩ := Nat.exists_eq_succ_of_ne_zero (Nat.ne_of_gt positive)
      have nonempty : (first :: others).take (k + 1) ≠ [] := by
        rw [List.take_succ_cons]
        exact List.cons_ne_nil _ _
      have stopped : (before ++ (first :: others).take (k + 1)).getLast? =
          some (((first :: others).take (k + 1)).getLast nonempty) := by
        rw [List.getLast?_append, List.getLast?_eq_some_getLast nonempty, Option.some_or]
      have cut : rows = before ++ (first :: others).take (k + 1) ++
          (first :: others).drop (k + 1) := by
        rw [List.append_assoc, List.take_append_drop]
        exact split
      have fewer : ((first :: others).drop (k + 1)).length ≤ m := by
        rw [List.length_drop]
        omega
      have later := ih _ _ fewer cut
      rw [stopped, Option.map_some] at later
      rw [← List.take_append_drop (k + 1) (first :: others)]
      refine .more ?_ later
      rw [here, upTo, List.getLast?_eq_some_getLast nonempty, Option.map_some]

variable {le : ρ → ρ → Prop} [DecidableRel le] [Std.Total le] [IsTrans ρ le]

/-- Filtering sorted rows and sorting filtered rows is the same where no two rows
tie. -/
theorem insertionSort_filter (strict : ∀ a ∈ rows, ∀ b ∈ rows, le a b → le b a → a = b)
    (p : ρ → Bool) : (rows.filter p).insertionSort le = (rows.insertionSort le).filter p := by
  have sorted := List.pairwise_insertionSort le (rows.filter p)
  have sorted' := (List.pairwise_insertionSort le rows).filter p
  have perm := (List.perm_insertionSort le (rows.filter p)).trans
    ((List.perm_insertionSort le rows).filter p).symm
  refine List.Perm.eq_of_pairwise ?_ sorted sorted' perm
  intro a b left right
  have inside : a ∈ rows := (List.mem_filter.mp ((List.mem_insertionSort _).mp left)).1
  have inside' : b ∈ rows := (List.mem_insertionSort _).mp (List.mem_filter.mp right).1
  exact strict a inside b inside'

omit [IsTrans ρ le] in
/-- What comes after a row of a sorted list. -/
theorem filter_after {before rest : List ρ} {row : ρ}
    (sorted : (before ++ row :: rest).Pairwise le)
    (strict : ∀ a ∈ before ++ row :: rest, ∀ b ∈ before ++ row :: rest, le a b → le b a → a = b)
    (distinct : (before ++ row :: rest).Nodup) :
    (before ++ row :: rest).filter (fun r => ¬ le r row) = rest := by
  obtain ⟨_, tail, cross⟩ := List.pairwise_append.mp sorted
  obtain ⟨_, apart, crossDistinct⟩ := List.nodup_append.mp distinct
  have reflexive : le row row := (Std.Total.total (r := le) row row).elim id id
  have earlier : before.filter (fun r => ¬ le r row) = [] := by
    rw [List.filter_eq_nil_iff]
    intro r member
    simpa using cross r member row List.mem_cons_self
  have later : rest.filter (fun r => ¬ le r row) = rest := by
    rw [List.filter_eq_self]
    intro r member
    have after := (List.pairwise_cons.mp tail).1 r member
    have there : r ∈ before ++ row :: rest := by simp [member]
    have here : row ∈ before ++ row :: rest := by simp
    have other : row ≠ r := fun same => (List.nodup_cons.mp apart).1 (same ▸ member)
    simpa using fun back => other (strict row here r there after back)
  rw [List.filter_append, earlier, List.nil_append, List.filter_cons, later]
  simp [reflexive]

omit [IsTrans ρ le] [DecidableRel le] in
/-- More rows than a page takes: there is one after the last of the page. -/
theorem lt_length_iff_left {n : Nat} (positive : 0 < n) (sorted : rows.Pairwise le)
    (strict : ∀ a ∈ rows, ∀ b ∈ rows, le a b → le b a → a = b) (distinct : rows.Nodup) :
    n < rows.length ↔ ∃ last ∈ (rows.take n).getLast?, ∃ row ∈ rows, ¬ le row last := by
  constructor
  · intro long
    have split : rows = rows.take n ++ rows[n] :: rows.drop (n + 1) := by
      rw [← List.drop_eq_getElem_cons long, List.take_append_drop]
    have some : rows.take n ≠ [] := by
      intro empty
      have length := congrArg List.length empty
      rw [List.length_take, List.length_nil] at length
      omega
    have found := List.getLast?_eq_some_getLast some
    have here := List.getLast_mem some
    rw [split] at sorted distinct
    have before := (List.pairwise_append.mp sorted).2.2 _ here _ List.mem_cons_self
    have other := (List.nodup_append.mp distinct).2.2 _ here _ List.mem_cons_self
    refine ⟨_, found, rows[n], List.getElem_mem long, fun back => other ?_⟩
    exact strict _ (List.mem_of_mem_take here) _ (List.getElem_mem long) before back
  · intro ⟨last, found, row, inside, past⟩
    by_contra short
    rw [List.take_of_length_le (Nat.le_of_not_lt short)] at found
    obtain ⟨earlier, rfl⟩ := List.getLast?_eq_some_iff.mp found
    rcases List.mem_append.mp inside with early | final
    · exact past ((List.pairwise_append.mp sorted).2.2 row early last List.mem_cons_self)
    · rw [List.mem_singleton.mp final] at past
      exact past ((Std.Total.total (r := le) last last).elim id id)

/-- Keyset paging: a page has the first rows after the row its cursor names, in a
total order. It shows every row once, in order. -/
theorem visits_keyset {n : Nat} (positive : 0 < n) (distinct : rows.Nodup)
    (strict : ∀ a ∈ rows, ∀ b ∈ rows, le a b → le b a → a = b)
    (first : page none = some (upTo key ((rows.insertionSort le).take n)))
    (later : ∀ row ∈ rows, page (some (key row)) =
      some (upTo key (((rows.filter (fun r => ¬ le r row)).insertionSort le).take n))) :
    Visits page none (rows.insertionSort le) := by
  have sorted := List.pairwise_insertionSort le rows
  have member (r : ρ) : r ∈ rows.insertionSort le ↔ r ∈ rows := List.mem_insertionSort le
  have answers : ∀ before rest, rows.insertionSort le = before ++ rest →
      page (before.getLast?.map key) = some (upTo key (rest.take n)) := by
    intro before rest split
    cases found : before.getLast? with
    | none =>
      obtain rfl := List.getLast?_eq_none_iff.mp found
      rw [List.nil_append] at split
      rw [Option.map_none, first, split]
    | some row =>
      obtain ⟨earlier, rfl⟩ := List.getLast?_eq_some_iff.mp found
      rw [List.append_assoc, List.singleton_append] at split
      have here : row ∈ rows := (member row).mp (by rw [split]; simp)
      have strict' : ∀ a ∈ earlier ++ row :: rest, ∀ b ∈ earlier ++ row :: rest,
          le a b → le b a → a = b := by
        rw [← split]
        exact fun a left b right => strict a ((member a).mp left) b ((member b).mp right)
      have distinct' : (earlier ++ row :: rest).Nodup := by
        rw [← split]
        exact (List.perm_insertionSort le rows).nodup_iff.mpr distinct
      rw [Option.map_some, later row here, insertionSort_filter strict, split,
        filter_after (split ▸ sorted) strict' distinct']
  exact visits_of_suffixes positive answers

/-! ### A column, and the primary key among its ties -/

section Columns
variable {α : Type*} [LinearOrder α] [LinearOrder κ] {column : ρ → α}

/-- `ORDER BY column, key`. -/
def ColumnThenKey (column : ρ → α) (key : ρ → κ) (first second : ρ) : Prop :=
  column first < column second ∨ column first = column second ∧ key first ≤ key second

instance : DecidableRel (ColumnThenKey column key) := fun first second =>
  inferInstanceAs (Decidable (column first < column second ∨
    column first = column second ∧ key first ≤ key second))

/-- The comparison with the row of a cursor. -/
theorem not_columnThenKey_iff (first second : ρ) : ¬ ColumnThenKey column key first second ↔
    column second < column first ∨ column first = column second ∧ key second < key first := by
  unfold ColumnThenKey
  rcases lt_trichotomy (column first) (column second) with before | same | after
  · simp [before, not_lt_of_gt before, ne_of_lt before]
  · simp [same]
  · simp [after, not_lt_of_gt after, ne_of_gt after]

instance : Std.Total (ColumnThenKey column key) where
  total first second := by
    by_contra neither
    obtain ⟨left, right⟩ := not_or.mp neither
    rcases (not_columnThenKey_iff _ _).mp left with before | ⟨same, before⟩
    · exact right (.inl before)
    · exact right (.inr ⟨same.symm, before.le⟩)

instance : IsTrans ρ (ColumnThenKey column key) where
  trans first second third := by
    rintro (left | ⟨same, left⟩) (right | ⟨same', right⟩)
    · exact .inl (left.trans right)
    · exact .inl (same' ▸ left)
    · exact .inl (same ▸ right)
    · exact .inr ⟨same.trans same', left.trans right⟩

theorem ColumnThenKey.key_eq {first second : ρ} (left : ColumnThenKey column key first second)
    (right : ColumnThenKey column key second first) : key first = key second := by
  rcases left with before | ⟨same, before⟩
  · rcases right with after | ⟨same, _⟩
    · exact absurd after (not_lt_of_gt before)
    · exact absurd same.symm (ne_of_lt before)
  · rcases right with after | ⟨_, after⟩
    · exact absurd same.symm (ne_of_lt after)
    · exact le_antisymm before after

end Columns

end Keyset

/-! ## Pages at offsets -/

/-- The pages of a list put together. -/
theorem flatMap_offsets (rows : List ρ) (size count : Nat) :
    (List.range count).flatMap (fun i => (rows.drop (i * size)).take size) =
      rows.take (count * size) := by
  induction count with
  | zero => simp
  | succ count ih =>
    rw [List.range_succ, List.flatMap_append, ih, List.flatMap_singleton, Nat.succ_mul,
      List.take_add]

end Reliastra.Library.Paging
