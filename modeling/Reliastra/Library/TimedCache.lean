import Mathlib.Data.List.Induction
import Reliastra.Library.Interleaving

/-!
# Values cached for a while

A request looks a key up in a cache that all requests share and takes the value there if
it is young enough. Otherwise it makes some readings of the world outside, one after
another, and assembles a value from them; the value is stored under the key with the
time at which the request began. Requests do so at once in any number, and the world
outside changes in any way in between.

Whatever the interleaving, a request is answered with a value assembled from readings
that were made, in order, after some request for the same key began; and at the time the
answered request began, that beginning was young enough.
-/

namespace Reliastra.Library.TimedCache

/-- How the values are made, and the ages at which one is still used. -/
structure Recipe (κ σ ρ ν : Type*) where
  readings : κ → List (σ → ρ)
  assemble : κ → List ρ → ν
  fresh : Int → Bool
  fresh_zero : fresh 0 = true

structure Entry (ν : Type*) where
  value : ν
  stamp : Int

structure Store (κ σ ν : Type*) where
  outside : σ
  cache : κ → Option (Entry ν)

/-- Where a request stands. -/
inductive Phase (κ ρ ν : Type*) where
  | idle
  | making (key : κ) (now : Int) (made : List ρ)
  | answered (key : κ) (now : Int) (value : ν)
  | dropped

inductive Act (κ σ : Type*) where
  | ask (key : κ) (now : Int)
  /-- The next reading is made. -/
  | observe
  | store
  /-- The request fails or is cancelled. -/
  | drop
  /-- The world outside changes. -/
  | outside (after : σ)

section Requests
variable {κ σ ρ ν ι : Type*} [DecidableEq κ] (recipe : Recipe κ σ ρ ν)

def look (s : Store κ σ ν) (key : κ) (now : Int) : Phase κ ρ ν :=
  match s.cache key with
  | some entry =>
    if recipe.fresh (now - entry.stamp) then .answered key now entry.value else .making key now []
  | none => .making key now []

def act (s : Store κ σ ν) (phase : Phase κ ρ ν) : Act κ σ → Store κ σ ν × Phase κ ρ ν
  | .ask key now =>
    match phase with
    | .idle => (s, look recipe s key now)
    | _ => (s, phase)
  | .observe =>
    match phase with
    | .making key now made =>
      match (recipe.readings key)[made.length]? with
      | some reading => (s, .making key now (made ++ [reading s.outside]))
      | none => (s, phase)
    | _ => (s, phase)
  | .store =>
    match phase with
    | .making key now made =>
      if made.length = (recipe.readings key).length then
        let value := recipe.assemble key made
        ({ s with cache := Function.update s.cache key (some ⟨value, now⟩) },
          .answered key now value)
      else (s, phase)
    | _ => (s, phase)
  | .drop =>
    match phase with
    | .making _ _ _ => (s, .dropped)
    | _ => (s, phase)
  | .outside after => ({ s with outside := after }, phase)

abbrev Requests (κ σ ρ ν ι : Type*) := World (Store κ σ ν) ι (Phase κ ρ ν)

variable [DecidableEq ι]

/-- The state after an interleaving. -/
def after (w : Requests κ σ ρ ν ι) (run : List (ι × Act κ σ)) : Requests κ σ ρ ν ι :=
  Run.exec (World.move (fun _ => act recipe)) w run

/-- Nothing is cached and nobody has asked. -/
def starting (outside : σ) : Requests κ σ ρ ν ι := ⟨⟨outside, fun _ => none⟩, fun _ => .idle⟩

/-! ## Where a value comes from -/

/-- Readings with their results, each made at some point of the run, in order. -/
def ReadIn : Requests κ σ ρ ν ι → List (σ → ρ) → List ρ → List (ι × Act κ σ) → Prop
  | _, [], [], _ => True
  | w, reading :: later, result :: results, run =>
    ∃ early late, run = early ++ late ∧ result = reading (after recipe w early).shared.outside ∧
      ReadIn (after recipe w early) later results late
  | _, _, _, _ => False

/-- A request for the key began at that time in the run and made these of its readings
since. -/
def Began (w : Requests κ σ ρ ν ι) (run : List (ι × Act κ σ)) (key : κ) (stamp : Int)
    (readings : List (σ → ρ)) (made : List ρ) : Prop :=
  ∃ i before behind, run = before ++ (i, .ask key stamp) :: behind ∧
    ReadIn recipe (after recipe w (before ++ [(i, .ask key stamp)])) readings made behind

/-- The value of the key was assembled in the run, from readings that were made after a
request for the key had begun at that time. -/
def Made (w : Requests κ σ ρ ν ι) (run : List (ι × Act κ σ)) (key : κ) (stamp : Int) (value : ν) :
    Prop :=
  ∃ made, value = recipe.assemble key made ∧
    Began recipe w run key stamp (recipe.readings key) made

variable {recipe}

theorem readIn_append {w : Requests κ σ ρ ν ι} {readings : List (σ → ρ)} {made : List ρ}
    {run : List (ι × Act κ σ)} (read : ReadIn recipe w readings made run)
    (more : List (ι × Act κ σ)) : ReadIn recipe w readings made (run ++ more) := by
  induction readings generalizing w made run with
  | nil =>
    cases made with
    | nil => trivial
    | cons _ _ => exact read
  | cons reading later ih =>
    cases made with
    | nil => exact read
    | cons result results =>
      obtain ⟨early, late, rfl, here, rest⟩ := read
      exact ⟨early, late ++ more, List.append_assoc .., here, ih rest⟩

/-- Every reading has its result. -/
theorem readIn_length {w : Requests κ σ ρ ν ι} {readings : List (σ → ρ)} {made : List ρ}
    {run : List (ι × Act κ σ)} (read : ReadIn recipe w readings made run) :
    made.length = readings.length := by
  induction readings generalizing w made run with
  | nil =>
    cases made with
    | nil => rfl
    | cons _ _ => exact read.elim
  | cons reading later ih =>
    cases made with
    | nil => exact read.elim
    | cons result results =>
      obtain ⟨early, late, _, _, rest⟩ := read
      rw [List.length_cons, List.length_cons, ih rest]

/-- One more reading, made at the end of the run. -/
theorem readIn_concat {w : Requests κ σ ρ ν ι} {readings : List (σ → ρ)} {made : List ρ}
    {run : List (ι × Act κ σ)} (read : ReadIn recipe w readings made run) (reading : σ → ρ)
    (more : List (ι × Act κ σ)) :
    ReadIn recipe w (readings ++ [reading])
      (made ++ [reading (after recipe w run).shared.outside]) (run ++ more) := by
  induction readings generalizing w made run with
  | nil =>
    cases made with
    | nil => exact ⟨run, more, rfl, rfl, trivial⟩
    | cons _ _ => exact read.elim
  | cons first later ih =>
    cases made with
    | nil => exact read.elim
    | cons result results =>
      obtain ⟨early, late, rfl, here, rest⟩ := read
      refine ⟨early, late ++ more, List.append_assoc .., here, ?_⟩
      have end_ : after recipe w (early ++ late) = after recipe (after recipe w early) late :=
        Run.exec_append ..
      rw [end_]
      exact ih rest

theorem Began.append {w : Requests κ σ ρ ν ι} {run : List (ι × Act κ σ)} {key : κ} {stamp : Int}
    {readings : List (σ → ρ)} {made : List ρ} (began : Began recipe w run key stamp readings made)
    (more : List (ι × Act κ σ)) : Began recipe w (run ++ more) key stamp readings made := by
  obtain ⟨i, before, behind, rfl, read⟩ := began
  exact ⟨i, before, behind ++ more, by simp, readIn_append read more⟩

theorem Began.concat {w : Requests κ σ ρ ν ι} {run : List (ι × Act κ σ)} {key : κ} {stamp : Int}
    {readings : List (σ → ρ)} {made : List ρ} (began : Began recipe w run key stamp readings made)
    (reading : σ → ρ) (more : List (ι × Act κ σ)) :
    Began recipe w (run ++ more) key stamp (readings ++ [reading])
      (made ++ [reading (after recipe w run).shared.outside]) := by
  obtain ⟨i, before, behind, rfl, read⟩ := began
  have end_ : after recipe w (before ++ (i, .ask key stamp) :: behind) =
      after recipe (after recipe w (before ++ [(i, .ask key stamp)])) behind := by
    rw [List.append_cons]
    exact Run.exec_append ..
  refine ⟨i, before, behind ++ more, by simp, ?_⟩
  rw [end_]
  exact readIn_concat read reading more

theorem Began.length {w : Requests κ σ ρ ν ι} {run : List (ι × Act κ σ)} {key : κ} {stamp : Int}
    {readings : List (σ → ρ)} {made : List ρ} (began : Began recipe w run key stamp readings made) :
    made.length = readings.length := by
  obtain ⟨_, _, _, _, read⟩ := began
  exact readIn_length read

theorem Made.append {w : Requests κ σ ρ ν ι} {run : List (ι × Act κ σ)} {key : κ} {stamp : Int}
    {value : ν} (made : Made recipe w run key stamp value) (more : List (ι × Act κ σ)) :
    Made recipe w (run ++ more) key stamp value := by
  obtain ⟨results, assembled, began⟩ := made
  exact ⟨results, assembled, began.append more⟩

/-! ## The invariant of the interleavings -/

variable (recipe)

/-- What is known of a request after a run. -/
def Accounted (w : Requests κ σ ρ ν ι) (run : List (ι × Act κ σ)) : Phase κ ρ ν → Prop
  | .making key now made =>
    made.length ≤ (recipe.readings key).length ∧
      Began recipe w run key now ((recipe.readings key).take made.length) made
  | .answered key now value =>
    ∃ stamp, recipe.fresh (now - stamp) = true ∧ Made recipe w run key stamp value
  | _ => True

structure Traced (w : Requests κ σ ρ ν ι) (run : List (ι × Act κ σ)) (here : Requests κ σ ρ ν ι) :
    Prop where
  cache : ∀ key entry, here.shared.cache key = some entry →
    Made recipe w run key entry.stamp entry.value
  requests : ∀ i, Accounted recipe w run (here.locals i)

variable {recipe}

theorem Accounted.append {w : Requests κ σ ρ ν ι} {run : List (ι × Act κ σ)} {phase : Phase κ ρ ν}
    (accounted : Accounted recipe w run phase) (more : List (ι × Act κ σ)) :
    Accounted recipe w (run ++ more) phase := by
  cases phase with
  | idle => trivial
  | making key now made => exact ⟨accounted.1, accounted.2.append more⟩
  | answered key now value =>
    obtain ⟨stamp, young, made⟩ := accounted
    exact ⟨stamp, young, made.append more⟩
  | dropped => trivial

/-- The end of a run, with the request that began there. -/
theorem began_ask (w : Requests κ σ ρ ν ι) (run : List (ι × Act κ σ)) (i : ι) (key : κ)
    (now : Int) : Began recipe w (run ++ [(i, .ask key now)]) key now [] [] :=
  ⟨i, run, [], rfl, trivial⟩

theorem accounted_look {w here : Requests κ σ ρ ν ι} {run : List (ι × Act κ σ)}
    (traced : Traced recipe w run here) (i : ι) (key : κ) (now : Int) :
    Accounted recipe w (run ++ [(i, .ask key now)])
      (look recipe here.shared key now) := by
  have missed : Accounted recipe w (run ++ [(i, .ask key now)])
      (.making key now []) := by
    refine ⟨Nat.zero_le _, ?_⟩
    rw [List.length_nil, List.take_zero]
    exact began_ask w run i key now
  unfold look
  cases cached : here.shared.cache key with
  | none => exact missed
  | some entry =>
    dsimp only
    by_cases young : recipe.fresh (now - entry.stamp) = true
    · rw [if_pos young]
      exact ⟨entry.stamp, young, (traced.cache key entry cached).append _⟩
    · rw [if_neg young]
      exact missed

/-- What a request leaves in the cache, and what is known of it then. -/
theorem traced_act {w here : Requests κ σ ρ ν ι} {run : List (ι × Act κ σ)}
    (reached : here = after recipe w run) (traced : Traced recipe w run here) (i : ι)
    {phase : Phase κ ρ ν} (known : Accounted recipe w run phase) (a : Act κ σ) :
    (∀ key entry, (act recipe here.shared phase a).1.cache key = some entry →
        Made recipe w (run ++ [(i, a)]) key entry.stamp entry.value) ∧
      Accounted recipe w (run ++ [(i, a)]) (act recipe here.shared phase a).2 := by
  have kept : ∀ key entry, here.shared.cache key = some entry →
      Made recipe w (run ++ [(i, a)]) key entry.stamp entry.value :=
    fun key entry cached => (traced.cache key entry cached).append _
  have still := known.append [(i, a)]
  cases a with
  | ask key now =>
    cases phase with
    | idle => exact ⟨kept, accounted_look traced i key now⟩
    | _ => exact ⟨kept, still⟩
  | observe =>
    cases phase with
    | making key now made =>
      unfold act
      dsimp only
      cases next : (recipe.readings key)[made.length]? with
      | none => exact ⟨kept, still⟩
      | some reading =>
        obtain ⟨inside, at_⟩ := List.getElem?_eq_some_iff.mp next
        refine ⟨kept, ?_, ?_⟩
        · rw [List.length_append, List.length_singleton]
          omega
        · rw [List.length_append, List.length_singleton, ← List.take_append_getElem inside, at_,
            reached]
          exact known.2.concat reading _
    | _ => exact ⟨kept, still⟩
  | store =>
    cases phase with
    | making key now made =>
      unfold act
      dsimp only
      by_cases complete : made.length = (recipe.readings key).length
      · have began := still.2
        rw [complete, List.take_length] at began
        have assembled : Made recipe w (run ++ [(i, .store)]) key now (recipe.assemble key made) :=
          ⟨made, rfl, began⟩
        rw [if_pos complete]
        refine ⟨?_, now, ?_, assembled⟩
        · intro other entry cached
          dsimp only at cached
          by_cases same : other = key
          · subst same
            rw [Function.update_self] at cached
            cases cached
            exact assembled
          · rw [Function.update_of_ne same] at cached
            exact kept other entry cached
        · rw [Int.sub_self]
          exact recipe.fresh_zero
      · rw [if_neg complete]
        exact ⟨kept, still⟩
    | _ => exact ⟨kept, still⟩
  | drop =>
    cases phase with
    | making _ _ _ => exact ⟨kept, trivial⟩
    | _ => exact ⟨kept, still⟩
  | outside now => exact ⟨kept, still⟩

theorem traced_move {w here : Requests κ σ ρ ν ι} {run : List (ι × Act κ σ)}
    (reached : here = after recipe w run) (traced : Traced recipe w run here)
    (m : ι × Act κ σ) :
    Traced recipe w (run ++ [m]) (here.move (fun _ => act recipe) m) := by
  obtain ⟨i, a⟩ := m
  have moved := traced_act reached traced i (traced.requests i) a
  refine ⟨moved.1, fun j => ?_⟩
  by_cases same : j = i
  · subst same
    rw [World.move_locals_self]
    exact moved.2
  · rw [World.move_locals_of_ne here a same]
    exact (traced.requests j).append _

theorem traced_after (outside : σ) (run : List (ι × Act κ σ)) :
    Traced recipe (starting outside) run (after recipe (starting outside) run) := by
  induction run using List.reverseRecOn with
  | nil => exact ⟨fun _ _ cached => (by cases cached), fun _ => trivial⟩
  | append_singleton run m ih =>
    have step : after recipe (starting outside) (run ++ [m]) =
        (after recipe (starting outside) run).move (fun _ => act recipe) m := Run.exec_concat ..
    rw [step]
    exact traced_move rfl ih m

/-- Every answer was assembled from readings made after the beginning of a request for the
same key, and that beginning was young enough when the answered request began. -/
theorem answered_made (outside : σ) (run : List (ι × Act κ σ)) {i : ι} {key : κ} {now : Int}
    {value : ν} (answered : (after recipe (starting outside) run).locals i = .answered key now value) :
    ∃ stamp, recipe.fresh (now - stamp) = true ∧
      Made recipe (starting outside) run key stamp value := by
  have traced : Traced recipe (starting outside) run (after recipe (starting outside) run) :=
    traced_after outside run
  have known := traced.requests i
  rw [answered] at known
  exact known

end Requests

end Reliastra.Library.TimedCache
