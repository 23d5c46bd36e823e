import Mathlib.Data.List.Nodup
import Mathlib.Data.List.Perm.Basic
import Mathlib.Data.List.Sort
import Mathlib.Algebra.Order.Group.Int
import Mathlib.Logic.Equiv.Basic
import Mathlib.Tactic.Ring

/-!
# Tables with a primary key

A table is its list of rows together with the proof that no two rows share a
primary key, so a state with a duplicate key cannot be built. `insert` answers
`none` where the database answers with a unique violation, and the updates take
the proof that they leave the key alone.

`sumWhere` is `SELECT sum(column) WHERE p`; its lemmas say what appending rows,
rewriting rows and splitting the filter do to the sum.
-/

namespace Reliastra.Library

variable {ρ κ : Type*}

/-! ## Sums over the rows that satisfy a filter -/

def sumWhere (p : ρ → Prop) [DecidablePred p] (column : ρ → Int) : List ρ → Int
  | [] => 0
  | row :: rest => (if p row then column row else 0) + sumWhere p column rest

section Sums
variable {p q : ρ → Prop} [DecidablePred p] [DecidablePred q] {column : ρ → Int}

@[simp] theorem sumWhere_nil : sumWhere p column [] = 0 := rfl

theorem sumWhere_cons (row : ρ) (rest : List ρ) :
    sumWhere p column (row :: rest) =
      (if p row then column row else 0) + sumWhere p column rest := rfl

theorem sumWhere_append (rows more : List ρ) :
    sumWhere p column (rows ++ more) = sumWhere p column rows + sumWhere p column more := by
  induction rows with
  | nil => simp
  | cons row rest ih => simp only [List.cons_append, sumWhere_cons, ih]; ring

theorem sumWhere_map (f : ρ → ρ) (rows : List ρ) :
    sumWhere p column (rows.map f) =
      sumWhere (fun row => p (f row)) (fun row => column (f row)) rows := by
  induction rows with
  | nil => rfl
  | cons row rest ih => simp only [List.map_cons, sumWhere_cons, ih]

theorem sumWhere_congr {column' : ρ → Int} (rows : List ρ)
    (same : ∀ row ∈ rows, (p row ↔ q row) ∧ (p row → column row = column' row)) :
    sumWhere p column rows = sumWhere q column' rows := by
  induction rows with
  | nil => rfl
  | cons row rest ih =>
    have head := same row (by simp)
    rw [sumWhere_cons, sumWhere_cons, ih (fun r member => same r (by simp [member]))]
    by_cases holds : p row
    · rw [if_pos holds, if_pos (head.1.mp holds), head.2 holds]
    · rw [if_neg holds, if_neg (fun other => holds (head.1.mpr other))]

/-- Splitting a filter into two that exclude each other splits the sum. -/
theorem sumWhere_or (rows : List ρ) (disjoint : ∀ row ∈ rows, p row → ¬ q row) :
    sumWhere (fun row => p row ∨ q row) column rows =
      sumWhere p column rows + sumWhere q column rows := by
  induction rows with
  | nil => rfl
  | cons row rest ih =>
    have head := disjoint row (by simp)
    rw [sumWhere_cons, sumWhere_cons, sumWhere_cons,
      ih (fun r member => disjoint r (by simp [member]))]
    by_cases first : p row
    · simp only [first, head first, or_false, if_true, if_false]; ring
    · simp only [first, false_or, if_false]; ring

theorem sumWhere_eq_zero (rows : List ρ) (none : ∀ row ∈ rows, ¬ p row) :
    sumWhere p column rows = 0 := by
  induction rows with
  | nil => rfl
  | cons row rest ih =>
    rw [sumWhere_cons, if_neg (none row (by simp)),
      ih (fun r member => none r (by simp [member])), add_zero]

theorem sumWhere_nonneg (rows : List ρ) (nonneg : ∀ row ∈ rows, p row → 0 ≤ column row) :
    0 ≤ sumWhere p column rows := by
  induction rows with
  | nil => exact le_refl 0
  | cons row rest ih =>
    have head := nonneg row (by simp)
    have tail := ih (fun r member => nonneg r (by simp [member]))
    rw [sumWhere_cons]
    split
    · next holds => have := head holds; omega
    · omega

/-- A wider filter and a larger column make the sum no smaller. -/
theorem sumWhere_mono {column' : ρ → Int} (rows : List ρ)
    (wider : ∀ row ∈ rows, p row → q row ∧ column row ≤ column' row)
    (nonneg : ∀ row ∈ rows, q row → 0 ≤ column' row) :
    sumWhere p column rows ≤ sumWhere q column' rows := by
  induction rows with
  | nil => exact le_refl 0
  | cons row rest ih =>
    have head := wider row (by simp)
    have spare := nonneg row (by simp)
    have tail := ih (fun r member => wider r (by simp [member]))
      (fun r member => nonneg r (by simp [member]))
    rw [sumWhere_cons, sumWhere_cons]
    by_cases holds : p row
    · obtain ⟨other, larger⟩ := head holds
      rw [if_pos holds, if_pos other]
      omega
    · rw [if_neg holds]
      split
      · next other => have := spare other; omega
      · omega

/-- Narrowing the filter past a positive row makes the sum smaller. -/
theorem sumWhere_lt_of_drop (rows : List ρ) (narrower : ∀ row ∈ rows, q row → p row)
    (positive : ∀ row ∈ rows, p row → 0 < column row)
    (dropped : ∃ row ∈ rows, p row ∧ ¬ q row) :
    sumWhere q column rows < sumWhere p column rows := by
  have split : sumWhere p column rows =
      sumWhere q column rows + sumWhere (fun row => p row ∧ ¬ q row) column rows := by
    rw [← sumWhere_or rows (fun row _ holds other => other.2 holds)]
    refine sumWhere_congr rows (fun row member => ⟨?_, fun _ => rfl⟩)
    have := narrower row member
    tauto
  have rest : 0 < sumWhere (fun row => p row ∧ ¬ q row) column rows := by
    obtain ⟨row, member, holds⟩ := dropped
    obtain ⟨before, after, rfl⟩ := List.append_of_mem member
    have value := positive row member holds.1
    have left : 0 ≤ sumWhere (fun row => p row ∧ ¬ q row) column before :=
      sumWhere_nonneg before (fun r m h => (positive r (by simp [m]) h.1).le)
    have right : 0 ≤ sumWhere (fun row => p row ∧ ¬ q row) column after :=
      sumWhere_nonneg after (fun r m h => (positive r (by simp [m]) h.1).le)
    rw [sumWhere_append, sumWhere_cons, if_pos holds]
    omega
  omega

/-- With the key unique, the filter on one key selects exactly that row. -/
theorem sumWhere_key {key : ρ → κ} [DecidableEq κ] (rows : List ρ)
    (unique : (rows.map key).Nodup) (row : ρ) (member : row ∈ rows) :
    sumWhere (fun r => key r = key row) column rows = column row := by
  obtain ⟨before, after, rfl⟩ := List.append_of_mem member
  rw [List.map_append, List.map_cons, List.nodup_middle, List.nodup_cons] at unique
  have absent : ∀ r, r ∈ before ∨ r ∈ after → key r ≠ key row := by
    intro r place equal
    apply unique.1
    rw [← equal, ← List.map_append]
    exact List.mem_map_of_mem (List.mem_append.mpr place)
  rw [sumWhere_append, sumWhere_cons, if_pos rfl,
    sumWhere_eq_zero before (fun r m => absent r (Or.inl m)),
    sumWhere_eq_zero after (fun r m => absent r (Or.inr m))]
  ring

/-- Selecting rows by the keys of copies that agree on the column sums the copies. -/
theorem sumWhere_copies {key : ρ → κ} [DecidableEq κ] (rows : List ρ)
    (unique : (rows.map key).Nodup) (copies : List ρ) (distinct : (copies.map key).Nodup)
    (known : ∀ copy ∈ copies, ∃ row ∈ rows, key row = key copy ∧ column row = column copy) :
    sumWhere (fun r => key r ∈ copies.map key) column rows = (copies.map column).sum := by
  induction copies with
  | nil => exact sumWhere_eq_zero rows (by simp)
  | cons first rest ih =>
    rw [List.map_cons] at distinct
    obtain ⟨absent, distinct⟩ := List.nodup_cons.mp distinct
    obtain ⟨row, member, same, equal⟩ := known first (by simp)
    have split : sumWhere (fun r => key r ∈ (first :: rest).map key) column rows =
        sumWhere (fun r => key r = key row ∨ key r ∈ rest.map key) column rows :=
      sumWhere_congr rows (fun r _ => ⟨by simp [same], fun _ => rfl⟩)
    rw [split, sumWhere_or, sumWhere_key rows unique row member,
      ih distinct (fun copy place => known copy (by simp [place])), List.map_cons, List.sum_cons,
      equal]
    intro other place here later
    exact absent (same ▸ here ▸ later)

/-- Selecting rows by the keys of some of them sums those. -/
theorem sumWhere_mem_keys {key : ρ → κ} [DecidableEq κ] (rows : List ρ)
    (unique : (rows.map key).Nodup) (selected : List ρ) (distinct : selected.Nodup)
    (subset : ∀ row ∈ selected, row ∈ rows) :
    sumWhere (fun r => key r ∈ selected.map key) column rows = (selected.map column).sum := by
  refine sumWhere_copies rows unique selected ?_ (fun row place => ⟨row, subset row place, rfl, rfl⟩)
  exact (List.nodup_map_iff_inj_on distinct).mpr (fun a first b second equal =>
    List.inj_on_of_nodup_map unique (subset a first) (subset b second) equal)

/-- Summing, over the parent rows a filter selects, what their children add up
to counts each child of a selected parent once. -/
theorem sumWhere_children {π : Type*} {key : π → κ} [DecidableEq κ] {q : π → Prop}
    [DecidablePred q] {parent : ρ → Option κ} (parents : List π) (unique : (parents.map key).Nodup)
    (rows : List ρ) :
    sumWhere q (fun t => sumWhere (fun row => parent row = some (key t)) column rows) parents =
      sumWhere (fun row => ∃ t ∈ parents, q t ∧ parent row = some (key t)) column rows := by
  induction parents with
  | nil => exact (sumWhere_eq_zero rows (by simp)).symm
  | cons first rest ih =>
    obtain ⟨absent, unique⟩ := List.nodup_cons.mp unique
    have split : sumWhere (fun row => ∃ t ∈ first :: rest, q t ∧ parent row = some (key t))
          column rows =
        sumWhere (fun row => (q first ∧ parent row = some (key first)) ∨
          ∃ t ∈ rest, q t ∧ parent row = some (key t)) column rows :=
      sumWhere_congr rows (fun row _ => ⟨by simp, fun _ => rfl⟩)
    rw [sumWhere_cons, ih unique, split, sumWhere_or]
    · by_cases holds : q first
      · simp only [holds, true_and, if_true]
      · have none : sumWhere (fun row => q first ∧ parent row = some (key first)) column rows = 0 :=
          sumWhere_eq_zero rows (fun row _ both => holds both.1)
        rw [if_neg holds, none]
    · intro row _ ⟨_, here⟩ ⟨t, member, _, there⟩
      have same : key first = key t := Option.some.inj (here.symm.trans there)
      exact absent (same ▸ List.mem_map_of_mem member)

theorem sumWhere_filter (rows : List ρ) :
    ((rows.filter (fun row => decide (p row))).map column).sum = sumWhere p column rows := by
  induction rows with
  | nil => rfl
  | cons first rest ih =>
    rw [sumWhere_cons, ← ih, List.filter_cons]
    by_cases here : p first
    · simp [here]
    · simp [here]

/-- An amount between nothing and a sum is a sum of parts. -/
theorem sumWhere_exists_parts [DecidableEq ρ] (amount : Int) (rows : List ρ)
    (distinct : rows.Nodup) (nonneg : 0 ≤ amount) (positive : ∀ row ∈ rows, 0 ≤ column row)
    (atMost : amount ≤ sumWhere p column rows) :
    ∃ part : ρ → Int, (∀ row ∈ rows, 0 ≤ part row ∧ part row ≤ column row) ∧
      amount = sumWhere p part rows := by
  induction rows generalizing amount with
  | nil =>
    rw [sumWhere_nil] at atMost
    exact ⟨fun _ => 0, fun _ member => absurd member List.not_mem_nil, by rw [sumWhere_nil]; omega⟩
  | cons first rest ih =>
    obtain ⟨absent, distinct⟩ := List.nodup_cons.mp distinct
    have own := positive first List.mem_cons_self
    rw [sumWhere_cons] at atMost
    -- the first row gives what it can
    let share := if p first then min (column first) amount else 0
    have shareOk : 0 ≤ share ∧ share ≤ column first ∧ share ≤ amount := by
      unfold share
      split <;> omega
    obtain ⟨part, within, sum⟩ := ih (amount - share) distinct (by omega)
      (fun row member => positive row (List.mem_cons_of_mem _ member)) (by
        unfold share
        have rest_nonneg := sumWhere_nonneg (p := p) rest
          (fun row member _ => positive row (List.mem_cons_of_mem _ member))
        split at atMost
        · next here =>
          rw [if_pos here]
          omega
        · next here =>
          rw [if_neg here]
          omega)
    have elsewhere (row : ρ) (member : row ∈ rest) : row ≠ first :=
      fun same => absent (same ▸ member)
    refine ⟨fun row => if row = first then share else part row, ?_, ?_⟩
    · intro row member
      dsimp only
      split
      · next here =>
        rw [here]
        exact ⟨shareOk.1, shareOk.2.1⟩
      · next here => exact within row ((List.mem_cons.mp member).resolve_left here)
    · have tail : sumWhere p (fun row => if row = first then share else part row) rest =
          sumWhere p part rest :=
        sumWhere_congr rest (fun row member => ⟨Iff.rfl, fun _ => if_neg (elsewhere row member)⟩)
      rw [sumWhere_cons, tail, ← sum, if_pos rfl]
      split
      · omega
      · next here =>
        have none : share = 0 := if_neg here
        omega

end Sums

/-! ## Tables -/

structure Table (key : ρ → κ) where
  rows : List ρ
  unique : (rows.map key).Nodup

namespace Table

variable {key : ρ → κ}

@[ext] theorem ext {t u : Table key} (same : t.rows = u.rows) : t = u := by
  cases t
  cases u
  cases same
  rfl

def empty : Table key := ⟨[], List.nodup_nil⟩

@[simp] theorem empty_rows : (empty : Table key).rows = [] := rfl

/-- A table with one row. -/
def single (row : ρ) : Table key := ⟨[row], List.nodup_singleton _⟩

@[simp] theorem single_rows (row : ρ) : (single row : Table key).rows = [row] := rfl

theorem eq_of_key {t : Table key} {row other : ρ} (member : row ∈ t.rows)
    (member' : other ∈ t.rows) (same : key row = key other) : row = other :=
  List.inj_on_of_nodup_map t.unique member member' same

/-- `INSERT`; `none` is the unique violation on the primary key. -/
def insert [DecidableEq κ] (t : Table key) (row : ρ) : Option (Table key) :=
  if fresh : key row ∈ t.rows.map key then none
  else some ⟨t.rows ++ [row], by
    rw [List.map_append, List.map_singleton]
    exact List.nodup_append.mpr ⟨t.unique, List.nodup_singleton _, fun a left b right equal =>
      fresh (by rw [List.mem_singleton] at right; rw [← right, ← equal]; exact left)⟩⟩

theorem insert_eq_some [DecidableEq κ] {t u : Table key} {row : ρ}
    (success : t.insert row = some u) :
    key row ∉ t.rows.map key ∧ u.rows = t.rows ++ [row] := by
  unfold insert at success
  split at success
  · cases success
  · next fresh =>
    cases success
    exact ⟨fresh, rfl⟩

theorem insert_isSome_iff [DecidableEq κ] (t : Table key) (row : ρ) :
    (∃ u, t.insert row = some u) ↔ key row ∉ t.rows.map key := by
  unfold insert
  split
  · next taken => simp [taken]
  · next fresh => simp [fresh]

/-- `UPDATE`: rewrite every row by a function that leaves the key alone. -/
def mapRows (t : Table key) (f : ρ → ρ) (keeps : ∀ row, key (f row) = key row) : Table key :=
  ⟨t.rows.map f, by
    rw [List.map_map, show key ∘ f = key from funext keeps]
    exact t.unique⟩

@[simp] theorem mapRows_rows (t : Table key) (f : ρ → ρ) (keeps : ∀ row, key (f row) = key row) :
    (t.mapRows f keeps).rows = t.rows.map f := rfl

/-- `UPDATE ... WHERE key = k`, which is what flushing one changed object does. -/
def updateKey [DecidableEq κ] (t : Table key) (k : κ) (f : ρ → ρ)
    (keeps : ∀ row, key (f row) = key row) : Table key :=
  t.mapRows (fun row => if key row = k then f row else row)
    (fun row => by split; exacts [keeps row, rfl])

theorem updateKey_rows [DecidableEq κ] (t : Table key) (k : κ) (f : ρ → ρ)
    (keeps : ∀ row, key (f row) = key row) :
    (t.updateKey k f keeps).rows = t.rows.map (fun row => if key row = k then f row else row) :=
  rfl

theorem mem_updateKey_of_ne [DecidableEq κ] {t : Table key} {k : κ} {f : ρ → ρ}
    (keeps : ∀ row, key (f row) = key row) {row : ρ} (stored : row ∈ t.rows) (other : key row ≠ k) :
    row ∈ (t.updateKey k f keeps).rows := by
  rw [updateKey_rows, List.mem_map]
  exact ⟨row, stored, if_neg other⟩

/-- An update of the key of a stored row replaces it and nothing else. -/
theorem mem_updateKey_iff [DecidableEq κ] {t : Table key} {p row : ρ} {f : ρ → ρ}
    (keeps : ∀ r, key (f r) = key r) (member : p ∈ t.rows) :
    row ∈ (t.updateKey (key p) f keeps).rows ↔ row = f p ∨ row ∈ t.rows ∧ row ≠ p := by
  rw [updateKey_rows, List.mem_map]
  constructor
  · rintro ⟨old, stored, rfl⟩
    split
    · next same => exact .inl (congrArg f (eq_of_key stored member same))
    · next other => exact .inr ⟨stored, fun same => other (congrArg key same)⟩
  · rintro (rfl | ⟨stored, other⟩)
    · exact ⟨p, member, if_pos rfl⟩
    · exact ⟨row, stored, if_neg (fun same => other (eq_of_key stored member same))⟩

/-- An update of one row changes how many rows a condition counts by that row's share. -/
theorem countP_updateKey [DecidableEq κ] {t : Table key} {p : ρ} {f : ρ → ρ}
    (keeps : ∀ r, key (f r) = key r) (member : p ∈ t.rows) (counted : ρ → Bool) :
    (t.updateKey (key p) f keeps).rows.countP counted + (if counted p then 1 else 0) =
      t.rows.countP counted + (if counted (f p) then 1 else 0) := by
  obtain ⟨before, behind, split⟩ := List.append_of_mem member
  have unique := t.unique
  rw [split, List.map_append, List.map_cons, List.nodup_append] at unique
  have kept (rows : List ρ) (others : ∀ row ∈ rows, key row ≠ key p) :
      rows.map (fun row => if key row = key p then f row else row) = rows := by
    refine (List.map_congr_left (fun row inside => ?_)).trans (List.map_id rows)
    exact if_neg (others row inside)
  have first : ∀ row ∈ before, key row ≠ key p := fun row inside =>
    unique.2.2 _ (List.mem_map_of_mem inside) _ List.mem_cons_self
  have last : ∀ row ∈ behind, key row ≠ key p := by
    intro row inside same
    exact (List.nodup_cons.mp unique.2.1).1 (same ▸ List.mem_map_of_mem inside)
  rw [updateKey_rows, split, List.map_append, List.map_cons, kept before first, kept behind last,
    if_pos rfl]
  simp only [List.countP_append, List.countP_cons]
  omega

/-- `DELETE` of the rows with these keys. -/
def deleteKeys [DecidableEq κ] (t : Table key) (keys : List κ) : Table key :=
  ⟨t.rows.filter (fun row => key row ∉ keys), t.unique.sublist (List.filter_sublist.map key)⟩

theorem mem_deleteKeys [DecidableEq κ] {t : Table key} {keys : List κ} {row : ρ} :
    row ∈ (t.deleteKeys keys).rows ↔ row ∈ t.rows ∧ key row ∉ keys := by
  simp [deleteKeys]

/-- A table is what a deletion takes and what it leaves. -/
theorem deleteKeys_perm [DecidableEq κ] (t : Table key) (taken : List ρ)
    (stored : ∀ row ∈ taken, row ∈ t.rows) (distinct : (taken.map key).Nodup) :
    t.rows.Perm (taken ++ (t.deleteKeys (taken.map key)).rows) := by
  have apart : (taken ++ (t.deleteKeys (taken.map key)).rows).Nodup := by
    refine List.nodup_append.mpr ⟨distinct.of_map, (t.deleteKeys _).unique.of_map, ?_⟩
    rintro row here other there rfl
    exact (mem_deleteKeys.mp there).2 (List.mem_map_of_mem here)
  refine (List.perm_ext_iff_of_nodup t.unique.of_map apart).mpr (fun row => ?_)
  rw [List.mem_append, mem_deleteKeys]
  constructor
  · intro member
    by_cases gone : key row ∈ taken.map key
    · obtain ⟨other, here, same⟩ := List.mem_map.mp gone
      rw [← eq_of_key (stored other here) member same]
      exact Or.inl here
    · exact Or.inr ⟨member, gone⟩
  · rintro (here | ⟨member, _⟩)
    · exact stored row here
    · exact member

/-- The loop that flushes the same change for each of the selected objects. -/
def updateEach [DecidableEq κ] (t : Table key) (selected : List ρ) (f : ρ → ρ)
    (keeps : ∀ row, key (f row) = key row) : Table key :=
  selected.foldl (fun t row => t.updateKey (key row) f keeps) t

/-- Where a second application of the change does nothing, the loop rewrites
exactly the rows whose key was selected. -/
theorem updateEach_rows [DecidableEq κ] (t : Table key) (selected : List ρ) (f : ρ → ρ)
    (keeps : ∀ row, key (f row) = key row) (settles : ∀ row, f (f row) = f row) :
    (t.updateEach selected f keeps).rows =
      t.rows.map (fun row => if key row ∈ selected.map key then f row else row) := by
  unfold updateEach
  induction selected generalizing t with
  | nil => simp
  | cons first rest ih =>
    rw [List.foldl_cons, ih, updateKey_rows, List.map_map]
    refine List.map_congr_left (fun row _ => ?_)
    simp only [Function.comp_apply, List.map_cons, List.mem_cons]
    by_cases now : key row = key first
    · rw [if_pos now, if_pos (Or.inl now), keeps]
      split
      · exact settles row
      · rfl
    · rw [if_neg now]
      exact if_congr (by simp [now]) rfl rfl

/-- A loop over the result of a `SELECT ... WHERE p` rewrites the rows that
satisfy `p`. -/
theorem updateEach_filter_rows [DecidableEq κ] (t : Table key) (p : ρ → Prop) [DecidablePred p]
    (f : ρ → ρ) (keeps : ∀ row, key (f row) = key row) (settles : ∀ row, f (f row) = f row) :
    (t.updateEach (t.rows.filter (fun row => decide (p row))) f keeps).rows =
      t.rows.map (fun row => if p row then f row else row) := by
  rw [updateEach_rows t _ f keeps settles]
  refine List.map_congr_left (fun row member => ?_)
  have selected : key row ∈ (t.rows.filter (fun row => decide (p row))).map key ↔ p row := by
    constructor
    · intro found
      obtain ⟨other, place, same⟩ := List.mem_map.mp found
      obtain ⟨place, holds⟩ := List.mem_filter.mp place
      rw [eq_of_key member place same.symm]
      exact of_decide_eq_true holds
    · intro holds
      exact List.mem_map_of_mem (List.mem_filter.mpr ⟨member, decide_eq_true holds⟩)
  simp only [selected]

/-- `SELECT ... WHERE key = k`. -/
def get? [DecidableEq κ] (t : Table key) (k : κ) : Option ρ :=
  t.rows.find? (fun row => decide (key row = k))

theorem get?_eq_some_iff [DecidableEq κ] (t : Table key) (k : κ) (row : ρ) :
    t.get? k = some row ↔ row ∈ t.rows ∧ key row = k := by
  unfold get?
  constructor
  · intro found
    exact ⟨List.mem_of_find?_eq_some found, by simpa using List.find?_some found⟩
  · rintro ⟨member, rfl⟩
    cases found : t.rows.find? (fun r => decide (key r = key row)) with
    | none =>
      have := List.find?_eq_none.mp found row member
      simp at this
    | some other =>
      have same : key other = key row := by simpa using List.find?_some found
      rw [eq_of_key (List.mem_of_find?_eq_some found) member same]

theorem get?_eq_none_iff [DecidableEq κ] (t : Table key) (k : κ) :
    t.get? k = none ↔ ∀ row ∈ t.rows, key row ≠ k := by
  simp [get?]

theorem get?_updateKey [DecidableEq κ] (t : Table key) (k : κ) (f : ρ → ρ)
    (keeps : ∀ row, key (f row) = key row) (j : κ) :
    (t.updateKey k f keeps).get? j = (t.get? j).map (fun row => if j = k then f row else row) := by
  have selected : (fun row => decide (key row = j)) ∘ (fun row => if key row = k then f row else row)
      = fun row => decide (key row = j) := by
    funext row
    simp only [Function.comp_apply]
    split
    · rw [keeps]
    · rfl
  unfold get?
  rw [updateKey_rows, List.find?_map, selected]
  cases found : t.rows.find? (fun row => decide (key row = j)) with
  | none => rfl
  | some row =>
    have here : key row = j := by simpa using List.find?_some found
    rw [Option.map_some, Option.map_some, here]

theorem get?_insert [DecidableEq κ] {t u : Table key} {row : ρ} (success : t.insert row = some u)
    (j : κ) : u.get? j = if key row = j then some row else t.get? j := by
  obtain ⟨fresh, rows⟩ := insert_eq_some success
  split
  · next here => exact (get?_eq_some_iff u j row).mpr ⟨by rw [rows]; simp, here⟩
  · next other =>
    unfold get?
    rw [rows, List.find?_append, List.find?_singleton, decide_eq_false other]
    cases t.rows.find? (fun row => decide (key row = j)) <;> rfl

theorem updateKey_eq_self [DecidableEq κ] {t : Table key} {k : κ} {f : ρ → ρ}
    (keeps : ∀ row, key (f row) = key row) (fixed : ∀ row ∈ t.rows, key row = k → f row = row) :
    t.updateKey k f keeps = t := by
  apply ext
  rw [updateKey_rows]
  conv_rhs => rw [← List.map_id t.rows]
  refine List.map_congr_left (fun row member => ?_)
  split
  · next here => exact fixed row member here
  · rfl

end Table

/-! ## Order of a result set -/

/-- The rows of an `ORDER BY` query: some arrangement of the selected rows in
which the column does not decrease. The database is free in the order of rows
with equal values, so an arrangement is an input of the query, not computed. -/
structure OrderBy (column : ρ → Int) where
  arrange : List ρ → List ρ
  perm : ∀ rows, (arrange rows).Perm rows
  sorted : ∀ rows, (arrange rows).Pairwise (fun first second => column first ≤ column second)

theorem OrderBy.mem_arrange {column : ρ → Int} (order : OrderBy column) (rows : List ρ) (row : ρ) :
    row ∈ order.arrange rows ↔ row ∈ rows := (order.perm rows).mem_iff

/-- Two arrangements begin with the same `n` rows when rows with equal values only
come after `n` others. -/
theorem take_eq_of_sorted {column : ρ → Int} {first second : List ρ} (n : Nat)
    (perm : first.Perm second) (sorted : first.Pairwise (fun a b => column a ≤ column b))
    (sorted' : second.Pairwise (fun a b => column a ≤ column b))
    (ties : ∀ a ∈ first, ∀ b ∈ first, a ≠ b → column a = column b →
      n ≤ first.countP (fun row => column row < column a)) :
    first.take n = second.take n := by
  induction n generalizing first second with
  | zero => rfl
  | succ n ih =>
    cases first with
    | nil => rw [perm.nil_eq]
    | cons x rest =>
      cases second with
      | nil => exact absurd perm.eq_nil (List.cons_ne_nil x rest)
      | cons y others =>
        obtain ⟨least, restSorted⟩ := List.pairwise_cons.mp sorted
        obtain ⟨least', othersSorted⟩ := List.pairwise_cons.mp sorted'
        have xThere : x ∈ y :: others := perm.mem_iff.mp List.mem_cons_self
        have yHere : y ∈ x :: rest := perm.mem_iff.mpr List.mem_cons_self
        have same : x = y := by
          by_contra different
          have below : column x ≤ column y :=
            least y ((List.mem_cons.mp yHere).resolve_left (Ne.symm different))
          have above : column y ≤ column x :=
            least' x ((List.mem_cons.mp xThere).resolve_left different)
          have many := ties x List.mem_cons_self y yHere different (le_antisymm below above)
          have none : (x :: rest).countP (fun row => column row < column x) = 0 := by
            rw [List.countP_eq_zero]
            intro row member
            rcases List.mem_cons.mp member with rfl | later
            · simp
            · simpa using least row later
          omega
        subst same
        rw [List.take_succ_cons, List.take_succ_cons]
        congr 1
        apply ih (List.Perm.cons_inv perm) restSorted othersSorted
        intro a member b member' different equal
        have many := ties a (List.mem_cons_of_mem _ member) b (List.mem_cons_of_mem _ member')
          different equal
        have counted := List.countP_cons (p := fun row => decide (column row < column a)) (a := x)
          (l := rest)
        have atMost : (if decide (column x < column a) = true then 1 else 0) ≤ 1 := by
          split <;> omega
        omega

section Swap
open Classical

/-- The arrangement with two rows of equal value in each other's place. -/
noncomputable def OrderBy.swapped {column : ρ → Int} (order : OrderBy column) (c d : ρ)
    (tied : column c = column d) : OrderBy column where
  arrange rows :=
    if rows.Nodup ∧ c ∈ rows ∧ d ∈ rows then (order.arrange rows).map (Equiv.swap c d)
    else order.arrange rows
  perm rows := by
    split
    · next both =>
      have stays (row : ρ) (member : row ∈ rows) : Equiv.swap c d row ∈ rows := by
        rw [Equiv.swap_apply_def]
        split
        · exact both.2.2
        · split
          · exact both.2.1
          · exact member
      have moved : (rows.map (Equiv.swap c d)).Perm rows := by
        apply (List.perm_ext_iff_of_nodup (both.1.map (Equiv.swap c d).injective) both.1).mpr
        intro row
        rw [List.mem_map]
        constructor
        · rintro ⟨old, member, rfl⟩
          exact stays old member
        · intro member
          exact ⟨Equiv.swap c d row, stays row member, Equiv.swap_apply_self c d row⟩
      exact ((order.perm rows).map _).trans moved
    · exact order.perm rows
  sorted rows := by
    have unmoved (row : ρ) : column (Equiv.swap c d row) = column row := by
      rw [Equiv.swap_apply_def]
      split
      · next same => rw [same, tied]
      · split
        · next same => rw [same, tied]
        · rfl
    split
    · rw [List.pairwise_map]
      simp only [unmoved]
      exact order.sorted rows
    · exact order.sorted rows

theorem OrderBy.swapped_arrange {column : ρ → Int} (order : OrderBy column) {c d : ρ}
    (tied : column c = column d) {rows : List ρ} (nodup : rows.Nodup) (left : c ∈ rows)
    (right : d ∈ rows) :
    (order.swapped c d tied).arrange rows = (order.arrange rows).map (Equiv.swap c d) := by
  unfold OrderBy.swapped
  exact if_pos ⟨nodup, left, right⟩

end Swap

/-- A row with fewer than `n` rows before its value has one of its value among the
first `n`. -/
theorem OrderBy.exists_among {column : ρ → Int} (order : OrderBy column) {rows : List ρ} {n : Nat}
    {a : ρ} (member : a ∈ rows) (few : rows.countP (fun row => column row < column a) < n) :
    ∃ c ∈ (order.arrange rows).take n, column c = column a := by
  by_contra none
  have here : a ∈ order.arrange rows := (order.mem_arrange rows a).mpr member
  have split := List.take_append_drop n (order.arrange rows)
  have outside : a ∉ (order.arrange rows).take n := fun inside => none ⟨a, inside, rfl⟩
  rw [← split, List.mem_append] at here
  have later : a ∈ (order.arrange rows).drop n := here.resolve_left outside
  have sorted := order.sorted rows
  rw [← split, List.pairwise_append] at sorted
  -- the first `n` rows all come before the value of `a`
  have before : ∀ c ∈ (order.arrange rows).take n, column c < column a := by
    intro c inside
    have atMost := sorted.2.2 c inside a later
    exact lt_of_le_of_ne atMost fun equal => none ⟨c, inside, equal⟩
  have counted : ((order.arrange rows).take n).countP (fun row => column row < column a) =
      ((order.arrange rows).take n).length := by
    rw [List.countP_eq_length]
    intro c inside
    exact decide_eq_true (before c inside)
  have long : n < (order.arrange rows).length := by
    have positive := List.length_pos_of_mem later
    rw [List.length_drop] at positive
    omega
  have full : ((order.arrange rows).take n).length = n := by
    rw [List.length_take]
    omega
  have part := (List.take_sublist n (order.arrange rows)).countP_le
    (p := fun row => decide (column row < column a))
  rw [(order.perm rows).countP_eq] at part
  omega

/-- Ties in the order the rows were inserted. -/
def OrderBy.stable (column : ρ → Int) : OrderBy column where
  arrange rows := rows.insertionSort (fun first second => column first ≤ column second)
  perm rows := List.perm_insertionSort _ rows
  sorted rows := by
    have : Std.Total (fun first second : ρ => column first ≤ column second) :=
      ⟨fun first second => le_total (column first) (column second)⟩
    have : IsTrans ρ (fun first second => column first ≤ column second) :=
      ⟨fun _ _ _ left right => le_trans left right⟩
    exact List.pairwise_insertionSort _ rows

end Reliastra.Library
