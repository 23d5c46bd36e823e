import Mathlib.Data.List.Nodup

/-!
# Assigning to a dictionary

A dictionary is the list of its entries in the order in which their keys were first
assigned. The rules say which entries a run of assignments leaves: keys that are new
are appended, an entry assigned last under its key is there, and what is looked up by
a property of the keys depends on the assignments to such keys only.
-/

namespace Reliastra.Library.Dictionaries

variable {κ ν : Type*} [DecidableEq κ] {entries assigned : List (κ × ν)} {entry kept : κ × ν}

/-- `entries[key] = value`. -/
def assign (entries : List (κ × ν)) (entry : κ × ν) : List (κ × ν) :=
  if entry.1 ∈ entries.map Prod.fst then
    entries.map (fun old => if old.1 = entry.1 then entry else old)
  else entries ++ [entry]

/-! ## One assignment -/

theorem assign_new (new : entry.1 ∉ entries.map Prod.fst) :
    assign entries entry = entries ++ [entry] :=
  if_neg new

theorem mem_assign (entries : List (κ × ν)) (entry : κ × ν) : entry ∈ assign entries entry := by
  unfold assign
  split
  · next present =>
    obtain ⟨old, member, here⟩ := List.mem_map.mp present
    exact List.mem_map.mpr ⟨old, member, if_pos here⟩
  · simp

theorem mem_assign_of_ne (member : kept ∈ entries) (other : kept.1 ≠ entry.1) :
    kept ∈ assign entries entry := by
  unfold assign
  split
  · exact List.mem_map.mpr ⟨kept, member, if_neg other⟩
  · exact List.mem_append_left _ member

theorem key_mem_assign {key : κ} (member : key ∈ entries.map Prod.fst) (entry : κ × ν) :
    key ∈ (assign entries entry).map Prod.fst := by
  obtain ⟨old, present, rfl⟩ := List.mem_map.mp member
  by_cases here : old.1 = entry.1
  · rw [here]
    exact List.mem_map_of_mem (mem_assign entries entry)
  · exact List.mem_map_of_mem (mem_assign_of_ne present here)

theorem assign_distinct (distinct : (entries.map Prod.fst).Nodup) (entry : κ × ν) :
    ((assign entries entry).map Prod.fst).Nodup := by
  unfold assign
  split
  · have keys : (entries.map (fun old => if old.1 = entry.1 then entry else old)).map Prod.fst =
        entries.map Prod.fst := by
      rw [List.map_map]
      apply List.map_congr_left
      intro old _
      by_cases here : old.1 = entry.1
      · simp [here]
      · simp [here]
    rw [keys]
    exact distinct
  · next new =>
    rw [List.map_append, List.nodup_append]
    refine ⟨distinct, by simp, ?_⟩
    intro key member other single equal
    simp only [List.map_cons, List.map_nil, List.mem_singleton] at single
    exact new (single ▸ equal ▸ member)

/-- What holds of the entries there are and of those assigned holds of those left. -/
theorem assign_all {p : κ × ν → Prop} (all : ∀ e ∈ entries, p e) (holds : p entry) :
    ∀ e ∈ assign entries entry, p e := by
  intro e member
  unfold assign at member
  split at member
  · obtain ⟨old, present, rfl⟩ := List.mem_map.mp member
    split
    · exact holds
    · exact all old present
  · rcases List.mem_append.mp member with present | single
    · exact all e present
    · rw [List.mem_singleton.mp single]
      exact holds

theorem filter_assign (p : κ → Bool) (entries : List (κ × ν)) (entry : κ × ν) :
    (assign entries entry).filter (fun e => p e.1) =
      if p entry.1 then assign (entries.filter (fun e => p e.1)) entry
      else entries.filter (fun e => p e.1) := by
  have replaced : (entries.map (fun old => if old.1 = entry.1 then entry else old)).filter
      (fun e => p e.1) =
        (entries.filter (fun e => p e.1)).map
          (fun old => if old.1 = entry.1 then entry else old) := by
    rw [List.filter_map]
    congr 1
    refine List.filter_congr (fun old _ => ?_)
    by_cases here : old.1 = entry.1
    · simp [here]
    · simp [here]
  unfold assign
  by_cases wanted : p entry.1 = true
  · have present : entry.1 ∈ (entries.filter (fun e => p e.1)).map Prod.fst ↔
        entry.1 ∈ entries.map Prod.fst := by
      simp [wanted]
    simp only [wanted, if_true, present]
    split
    · exact replaced
    · rw [List.filter_append]
      simp [wanted]
  · rw [if_neg wanted]
    split
    · rw [replaced]
      refine (List.map_congr_left (fun old member => ?_)).trans (List.map_id _)
      have holds := (List.mem_filter.mp member).2
      rw [if_neg (fun here => wanted (by rw [← here]; exact holds))]
      rfl
    · rw [List.filter_append]
      simp [wanted]

/-! ## A run of assignments -/

theorem filter_foldl_assign (p : κ → Bool) (entries assigned : List (κ × ν)) :
    (assigned.foldl assign entries).filter (fun e => p e.1) =
      (assigned.filter (fun e => p e.1)).foldl assign (entries.filter (fun e => p e.1)) := by
  induction assigned generalizing entries with
  | nil => rfl
  | cons entry rest ih =>
    rw [List.foldl_cons, ih, filter_assign, List.filter_cons]
    split
    · rfl
    · rfl

theorem key_mem_foldl_assign {key : κ} (member : key ∈ entries.map Prod.fst)
    (assigned : List (κ × ν)) : key ∈ (assigned.foldl assign entries).map Prod.fst := by
  induction assigned generalizing entries with
  | nil => exact member
  | cons entry rest ih => exact ih (key_mem_assign member entry)

theorem mem_foldl_assign_of_ne (member : kept ∈ entries)
    (others : ∀ entry ∈ assigned, kept.1 ≠ entry.1) : kept ∈ assigned.foldl assign entries := by
  induction assigned generalizing entries with
  | nil => exact member
  | cons entry rest ih =>
    rw [List.forall_mem_cons] at others
    exact ih (mem_assign_of_ne member others.1) others.2

/-- With keys of their own, all that is assigned is there at the end. -/
theorem mem_foldl_assign (distinct : (assigned.map Prod.fst).Nodup) (member : entry ∈ assigned) :
    entry ∈ assigned.foldl assign entries := by
  induction assigned generalizing entries with
  | nil => cases member
  | cons first rest ih =>
    rw [List.map_cons, List.nodup_cons] at distinct
    cases List.mem_cons.mp member with
    | inl here =>
      subst here
      have others : ∀ other ∈ rest, entry.1 ≠ other.1 := by
        intro other there same
        exact distinct.1 (same ▸ List.mem_map_of_mem there)
      rw [List.foldl_cons]
      exact mem_foldl_assign_of_ne (mem_assign entries entry) others
    | inr there => exact ih distinct.2 there

theorem foldl_assign_new (distinct : ((entries ++ assigned).map Prod.fst).Nodup) :
    assigned.foldl assign entries = entries ++ assigned := by
  induction assigned generalizing entries with
  | nil => exact (List.append_nil _).symm
  | cons entry rest ih =>
    have new : entry.1 ∉ entries.map Prod.fst := by
      rw [List.map_append, List.map_cons, List.nodup_middle, List.nodup_cons] at distinct
      exact fun old => distinct.1 (List.mem_append_left _ old)
    rw [List.foldl_cons, assign_new new, ih (by simpa using distinct), List.append_assoc]
    rfl

/-- Assigning what is there already changes nothing. -/
theorem foldl_assign_same (all : ∀ entry ∈ assigned, entry = kept) :
    assigned.foldl assign [kept] = [kept] := by
  induction assigned with
  | nil => rfl
  | cons entry rest ih =>
    rw [List.forall_mem_cons] at all
    have written : assign [kept] entry = [kept] := by
      rw [all.1]
      simp [assign]
    rw [List.foldl_cons, written]
    exact ih all.2

theorem foldl_assign_distinct (distinct : (entries.map Prod.fst).Nodup)
    (assigned : List (κ × ν)) : ((assigned.foldl assign entries).map Prod.fst).Nodup := by
  induction assigned generalizing entries with
  | nil => exact distinct
  | cons entry rest ih => exact ih (assign_distinct distinct entry)

theorem foldl_assign_all {p : κ × ν → Prop} (all : ∀ e ∈ entries, p e)
    (assigned : List (κ × ν)) (holds : ∀ e ∈ assigned, p e) :
    ∀ e ∈ assigned.foldl assign entries, p e := by
  induction assigned generalizing entries with
  | nil => exact all
  | cons entry rest ih =>
    apply ih (assign_all all (holds entry (by simp)))
    intro e member
    exact holds e (by simp [member])

end Reliastra.Library.Dictionaries
