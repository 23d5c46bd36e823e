import Reliastra.Library.Table

/-!
# What a change leaves alone

A change is confined to an owner when every row that is not the owner's is
stored after it exactly if it was stored before. The rules say so for the
statements a session flushes, one statement at a time; a change that flushes
several composes them.
-/

namespace Reliastra.Library

variable {ρ κ τ : Type*}

/-- The contents differ at most in rows that are `mine`. -/
def SameOutside (mine : ρ → Prop) (before after : List ρ) : Prop :=
  ∀ row, ¬ mine row → (row ∈ after ↔ row ∈ before)

namespace SameOutside

variable {mine : ρ → Prop} {before between after : List ρ}

theorem refl (mine : ρ → Prop) (rows : List ρ) : SameOutside mine rows rows :=
  fun _ _ => Iff.rfl

theorem trans (first : SameOutside mine before between) (second : SameOutside mine between after) :
    SameOutside mine before after :=
  fun row foreign => (second row foreign).trans (first row foreign)

theorem append {row : ρ} (owned : mine row) : SameOutside mine before (before ++ [row]) := by
  intro other foreign
  have different : other ≠ row := fun same => foreign (same ▸ owned)
  simp [different]

/-- A rewriting that only touches rows of the owner, and leaves them with it. -/
theorem map {f : ρ → ρ} (owned : ∀ row ∈ before, f row = row ∨ (mine row ∧ mine (f row))) :
    SameOutside mine before (before.map f) := by
  intro other foreign
  constructor
  · intro found
    obtain ⟨row, place, same⟩ := List.mem_map.mp found
    rcases owned row place with untouched | ⟨_, still⟩
    · rw [← same, untouched]
      exact place
    · exact absurd (same ▸ still) foreign
  · intro place
    rcases owned other place with untouched | ⟨owner, _⟩
    · exact List.mem_map.mpr ⟨other, place, untouched⟩
    · exact absurd owner foreign

theorem filter {keep : ρ → Bool} (owned : ∀ row ∈ before, keep row = false → mine row) :
    SameOutside mine before (before.filter keep) := by
  intro other foreign
  constructor
  · exact fun found => (List.mem_filter.mp found).1
  · intro place
    refine List.mem_filter.mpr ⟨place, ?_⟩
    by_contra dropped
    exact foreign (owned other place (Bool.eq_false_iff.mpr dropped))

end SameOutside

namespace Table

variable {key : ρ → κ} [DecidableEq κ]

/-- `DELETE ... WHERE key = k`. -/
def deleteKey (t : Table key) (k : κ) : Table key :=
  ⟨t.rows.filter (fun row => decide (key row ≠ k)),
    List.Nodup.sublist (List.filter_sublist.map key) t.unique⟩

/-- The columns `f` of every row, under the same keys. -/
def project {key' : τ → κ} (t : Table key) (f : ρ → τ) (keeps : ∀ row, key' (f row) = key row) :
    Table key' :=
  ⟨t.rows.map f, by
    rw [List.map_map, show key' ∘ f = key from funext keeps]
    exact t.unique⟩

omit [DecidableEq κ] in
@[simp] theorem project_rows {key' : τ → κ} (t : Table key) (f : ρ → τ)
    (keeps : ∀ row, key' (f row) = key row) : (t.project f keeps).rows = t.rows.map f := rfl

theorem get?_project {key' : τ → κ} (t : Table key) (f : ρ → τ)
    (keeps : ∀ row, key' (f row) = key row) (k : κ) :
    (t.project f keeps).get? k = (t.get? k).map f := by
  have selected : (fun row => decide (key' row = k)) ∘ f = fun row => decide (key row = k) := by
    funext row
    simp only [Function.comp_apply, keeps]
  unfold get?
  rw [project_rows, List.find?_map, selected]

variable {mine : ρ → Prop}

theorem sameOutside_insert {t u : Table key} {row : ρ} (success : t.insert row = some u)
    (owned : mine row) : SameOutside mine t.rows u.rows := by
  rw [(insert_eq_some success).2]
  exact SameOutside.append owned

theorem sameOutside_updateKey (t : Table key) {k : κ} {f : ρ → ρ}
    (keeps : ∀ row, key (f row) = key row)
    (owned : ∀ row ∈ t.rows, key row = k → mine row ∧ mine (f row)) :
    SameOutside mine t.rows (t.updateKey k f keeps).rows := by
  rw [updateKey_rows]
  refine SameOutside.map (fun row place => ?_)
  split
  · next here => exact Or.inr (owned row place here)
  · exact Or.inl rfl

/-- The row a lookup found is the only one an update of its key reaches. -/
theorem sameOutside_updateFound {t : Table key} {row : ρ} {f : ρ → ρ} (place : row ∈ t.rows)
    (owned : mine row) (still : mine (f row)) :
    SameOutside mine t.rows
      (t.rows.map (fun other => if key other = key row then f other else other)) := by
  refine SameOutside.map (fun other there => ?_)
  split
  · next same =>
    rw [eq_of_key there place same]
    exact Or.inr ⟨owned, still⟩
  · exact Or.inl rfl

theorem sameOutside_deleteFound {t : Table key} {row : ρ} (place : row ∈ t.rows)
    (owned : mine row) : SameOutside mine t.rows (t.deleteKey (key row)).rows := by
  refine SameOutside.filter (fun other there dropped => ?_)
  have same : key other = key row := by simpa using dropped
  rw [eq_of_key there place same]
  exact owned

/-- Where the owner is a key, other lookups tell. -/
theorem sameOutside_key_iff {t u : Table key} (k : κ) :
    SameOutside (fun row => key row = k) t.rows u.rows ↔ ∀ j ≠ k, u.get? j = t.get? j := by
  constructor
  · intro same j other
    cases found : t.get? j with
    | some row =>
      obtain ⟨place, here⟩ := (get?_eq_some_iff t j row).mp found
      have foreign : key row ≠ k := fun equal => other (here.symm.trans equal)
      exact (get?_eq_some_iff u j row).mpr ⟨(same row foreign).mpr place, here⟩
    | none =>
      refine (get?_eq_none_iff u j).mpr (fun row place here => ?_)
      have foreign : key row ≠ k := fun equal => other (here.symm.trans equal)
      exact (get?_eq_none_iff t j).mp found row ((same row foreign).mp place) here
  · intro same row foreign
    have lookups := same (key row) foreign
    constructor
    · intro place
      have found := (get?_eq_some_iff u (key row) row).mpr ⟨place, rfl⟩
      exact ((get?_eq_some_iff t (key row) row).mp (lookups.symm.trans found)).1
    · intro place
      have found := (get?_eq_some_iff t (key row) row).mpr ⟨place, rfl⟩
      exact ((get?_eq_some_iff u (key row) row).mp (lookups.trans found)).1

end Table

end Reliastra.Library
