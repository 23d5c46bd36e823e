import Mathlib.Data.List.DropRight
import Mathlib.Algebra.Order.Group.Defs
import Mathlib.Data.List.Basic
import Mathlib.Data.List.Induction

/-!
# What a history ends in

A history grows at its end. `trailing a h` counts the occurrences of `a` a history
ends in, and `Unanswered` says that some run of `m` occurrences of one event has
not been followed by `n` occurrences of another in a row. Both are kept up to date
event by event: a monitor that counts the current runs knows which thresholds a
history has passed.
-/

namespace Reliastra.Library.History

variable {α : Type*} {a b : α} {m n : Nat}

section Trailing

variable [DecidableEq α]

/-! ## Trailing occurrences -/

/-- How many occurrences of `a` the history ends in. -/
def trailing (a : α) (h : List α) : Nat := (h.rtakeWhile (fun x => decide (x = a))).length

@[simp] theorem trailing_nil (a : α) : trailing a [] = 0 := rfl

@[simp] theorem trailing_concat_self (a : α) (h : List α) :
    trailing a (h ++ [a]) = trailing a h + 1 := by
  unfold trailing
  rw [List.rtakeWhile_concat_pos _ _ _ (by simp), List.length_append]
  rfl

theorem trailing_concat_of_ne (different : b ≠ a) (h : List α) : trailing a (h ++ [b]) = 0 := by
  unfold trailing
  rw [List.rtakeWhile_concat_neg _ _ _ (by simpa using different)]
  rfl

theorem replicate_suffix_iff (a : α) (n : Nat) (h : List α) :
    List.replicate n a <:+ h ↔ n ≤ trailing a h := by
  induction h using List.reverseRecOn generalizing n with
  | nil => simp
  | append_singleton h x ih =>
    cases n with
    | zero => simp
    | succ n =>
      rw [List.replicate_succ', List.suffix_concat_iff]
      by_cases same : x = a
      · subst same
        rw [trailing_concat_self, Nat.succ_le_succ_iff, ← ih]
        simp
      · rw [trailing_concat_of_ne same]
        simp [Ne.symm same]

/-- What comes before an event of another kind does not count. -/
theorem trailing_append_of_zero {h : List α} (ended : trailing a h = 0) (after : List α) :
    trailing a (h ++ after) = trailing a after := by
  induction after using List.reverseRecOn with
  | nil => rw [List.append_nil, ended, trailing_nil]
  | append_singleton after x ih =>
    rw [← List.append_assoc]
    by_cases same : x = a
    · subst same
      rw [trailing_concat_self, trailing_concat_self, ih]
    · rw [trailing_concat_of_ne same, trailing_concat_of_ne same]

end Trailing

/-! ## Runs that wait for an answer -/

/-- Some run of at least `m` occurrences of `a` is not followed later by `n`
occurrences of `b` in a row. -/
def Unanswered (a : α) (m : Nat) (b : α) (n : Nat) (h : List α) : Prop :=
  ∃ before count after, m ≤ count ∧ h = before ++ List.replicate count a ++ after ∧
    ¬ List.replicate n b <:+: after

theorem not_unanswered_nil (positive : 0 < m) : ¬ Unanswered a m b n [] := by
  intro ⟨before, count, after, enough, split, _⟩
  have lengths := congrArg List.length split
  simp only [List.length_nil, List.length_append, List.length_replicate] at lengths
  omega

variable [DecidableEq α]

theorem unanswered_concat_trigger (different : a ≠ b) (positive : 0 < n) (h : List α) :
    Unanswered a m b n (h ++ [a]) ↔ Unanswered a m b n h ∨ m ≤ trailing a (h ++ [a]) := by
  constructor
  · intro ⟨before, count, after, enough, split, unanswered⟩
    induction after using List.reverseRecOn with
    | nil =>
      refine .inr (enough.trans ((replicate_suffix_iff a count _).mp ?_))
      rw [split, List.append_nil]
      exact List.suffix_append _ _
    | append_singleton after x _ =>
      rw [← List.append_assoc] at split
      obtain ⟨rfl, _⟩ := List.append_inj' split rfl
      exact .inl ⟨before, count, after, enough, rfl,
        fun answered => unanswered (List.infix_concat_iff.mpr (.inr answered))⟩
  · rintro (⟨before, count, after, enough, rfl, unanswered⟩ | long)
    · refine ⟨before, count, after ++ [a], enough, by rw [List.append_assoc _ after], ?_⟩
      intro answered
      rcases List.infix_concat_iff.mp answered with ending | inside
      · have reached := (replicate_suffix_iff b n _).mp ending
        rw [trailing_concat_of_ne different] at reached
        omega
      · exact unanswered inside
    · obtain ⟨before, split⟩ := (replicate_suffix_iff a m _).mpr long
      refine ⟨before, m, [], le_refl m, by rw [split, List.append_nil], ?_⟩
      intro answered
      have short := answered.length_le
      rw [List.length_replicate, List.length_nil] at short
      omega

theorem unanswered_concat_reset (different : a ≠ b) (positive : 0 < m) (h : List α) :
    Unanswered a m b n (h ++ [b]) ↔ Unanswered a m b n h ∧ trailing b (h ++ [b]) < n := by
  constructor
  · intro ⟨before, count, after, enough, split, unanswered⟩
    obtain ⟨count, rfl⟩ : ∃ c, count = c + 1 := ⟨count - 1, by omega⟩
    have ended : trailing b (before ++ List.replicate (count + 1) a) = 0 := by
      rw [List.replicate_succ', ← List.append_assoc, trailing_concat_of_ne different]
    refine ⟨?_, ?_⟩
    · induction after using List.reverseRecOn with
      | nil =>
        rw [List.append_nil] at split
        rw [← split, trailing_concat_self] at ended
        omega
      | append_singleton after x _ =>
        rw [← List.append_assoc] at split
        obtain ⟨rfl, _⟩ := List.append_inj' split rfl
        exact ⟨before, count + 1, after, enough, rfl,
          fun answered => unanswered (List.infix_concat_iff.mpr (.inr answered))⟩
    · by_contra reached
      rw [split, trailing_append_of_zero ended, not_lt, ← replicate_suffix_iff] at reached
      exact unanswered reached.isInfix
  · rintro ⟨⟨before, count, after, enough, rfl, unanswered⟩, few⟩
    refine ⟨before, count, after ++ [b], enough, by rw [List.append_assoc _ after], ?_⟩
    intro answered
    rcases List.infix_concat_iff.mp answered with ending | inside
    · have longer : List.replicate n b <:+ before ++ List.replicate count a ++ after ++ [b] := by
        rw [List.append_assoc _ after]
        exact ending.trans (List.suffix_append _ _)
      exact absurd ((replicate_suffix_iff b n _).mp longer) (not_le.mpr few)
    · exact unanswered inside

end Reliastra.Library.History

/-!
## Calls accepted in a sliding window

Calls come one after the other at times that do not decrease, and each is accepted
or refused by what came before it. If an accepted call always finds fewer than
`limit` earlier calls in the window that ends with it, no window of that width has
more than `limit` accepted calls, wherever it lies.
-/

namespace Reliastra.Library.Windows

variable {α τ : Type*} [AddCommGroup τ] [LinearOrder τ] [IsOrderedAddMonoid τ]

section Accepted

variable (accept : List α → α → Prop) [∀ before call, Decidable (accept before call)]

/-- The accepted calls among `rest`, made after the calls `before`. -/
def acceptedAfter (before : List α) : List α → List α
  | [] => []
  | call :: rest =>
    if accept before call then call :: acceptedAfter (before ++ [call]) rest
    else acceptedAfter (before ++ [call]) rest

def accepted (calls : List α) : List α := acceptedAfter accept [] calls

theorem acceptedAfter_concat (before rest : List α) (call : α) :
    acceptedAfter accept before (rest ++ [call]) =
      acceptedAfter accept before rest ++ if accept (before ++ rest) call then [call] else [] := by
  induction rest generalizing before with
  | nil => simp [acceptedAfter]
  | cons first rest ih =>
    have later := ih (before ++ [first])
    rw [List.append_assoc, List.singleton_append] at later
    simp only [List.cons_append, acceptedAfter, later]
    split
    · rw [List.cons_append]
    · rfl

theorem accepted_concat (calls : List α) (call : α) :
    accepted accept (calls ++ [call]) =
      accepted accept calls ++ if accept calls call then [call] else [] :=
  acceptedAfter_concat accept [] calls call

theorem accepted_sublist (calls : List α) : (accepted accept calls).Sublist calls := by
  induction calls using List.reverseRecOn with
  | nil => exact .slnil
  | append_singleton calls call ih =>
    rw [accepted_concat]
    split
    · exact ih.append (.refl _)
    · rw [List.append_nil]
      exact ih.trans (List.sublist_append_left calls [call])

end Accepted

/-- The calls of the half-open window of a width that ends at `t`. -/
def inWindow (time : α → τ) (width t : τ) (calls : List α) : List α :=
  calls.filter (fun call => t - width < time call ∧ time call ≤ t)

/-- The calls not more than a width before `t`. -/
def recent (time : α → τ) (width t : τ) (calls : List α) : List α :=
  calls.filter (fun call => t - width < time call)

variable {time : α → τ} {width : τ} {limit : Nat}
  {accept : List α → α → Prop} [∀ before call, Decidable (accept before call)]

/-- A window that holds the last call holds no earlier call that is not recent for it. -/
theorem inWindow_length_le_recent (width : τ) {t : τ} {call : α} (inside : time call ≤ t)
    {calls kept : List α} (sub : kept.Sublist calls) :
    (inWindow time width t kept).length ≤ (recent time width (time call) calls).length := by
  apply List.Sublist.length_le
  refine (List.Sublist.filter _ sub).trans ?_
  apply List.monotone_filter_right
  intro earlier holds
  simp only [decide_eq_true_eq] at holds ⊢
  exact (sub_le_sub_right inside width).trans_lt holds.1

/-- The bound over every window. The induction is on the last call: a window without
it is bounded already, and one with it has the accepted calls that were recent. -/
theorem accepted_inWindow_le (t : τ) (calls : List α)
    (few : ∀ before call, before ++ [call] <+: calls → accept before call →
      (recent time width (time call) before).length < limit) :
    (inWindow time width t (accepted accept calls)).length ≤ limit := by
  induction calls using List.reverseRecOn with
  | nil => exact Nat.zero_le _
  | append_singleton calls call ih =>
    have earlier := ih (fun before other isPrefix =>
      few before other (isPrefix.trans (List.prefix_append calls [call])))
    rw [accepted_concat]
    by_cases taken : accept calls call
    · have fewer := few calls call List.prefix_rfl taken
      rw [if_pos taken]
      unfold inWindow at earlier ⊢
      rw [List.filter_append, List.length_append]
      by_cases inside : t - width < time call ∧ time call ≤ t
      · have bounded := inWindow_length_le_recent width inside.2
          (accepted_sublist accept calls)
        unfold inWindow at bounded
        rw [List.filter_cons_of_pos (by simpa using inside), List.filter_nil,
          List.length_singleton]
        omega
      · rw [List.filter_cons_of_neg (by simpa using inside), List.filter_nil, List.length_nil]
        exact earlier
    · rw [if_neg taken, List.append_nil]
      exact earlier

end Reliastra.Library.Windows
