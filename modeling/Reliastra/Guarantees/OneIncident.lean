import Reliastra.Source.Checks.Quorum

/-!
# One incident per outage

The lock is taken after the transaction's own result is flushed and before the
quorum read, and held until the commit. So of two transactions that both read
the quorum, the later one reads it after the earlier one has committed, and sees
its result unless the result has left the window. The open incident is read and
inserted under the same lock, so a second incident is never created.
-/

namespace Reliastra.Guarantees.OneIncident

open Reliastra.Library Source Source.Checks

/-! ## What a transaction has seen and written -/

/-- The result of a transaction that has read the quorum, and when it read it. -/
def evaluation (phase : Phase) : Option (CheckResult × Instant) :=
  match phase with
  | .confirmed result readAt | .opening result readAt | .recovering result readAt _ =>
    some (result, readAt)
  | .ready result readAt _ | .committed result readAt _ => readAt.map (fun at' => (result, at'))
  | _ => none

/-- The transaction has created an incident. -/
def Creates (phase : Phase) : Prop :=
  match phase with
  | .ready _ _ (.create _) | .committed _ _ (.create _) => True
  | _ => False

/-- Every transaction has committed, after a quorum read within the window of
every result. -/
structure AllCommitted {ι : Type} (w : World (CheckDatabase ι) ι Phase) : Prop where
  committed : ∀ t, ∃ result readAt write, w.locals t = .committed result (some readAt) write
  window : ∀ t u result readAt other otherReadAt,
    evaluation (w.locals t) = some (result, readAt) →
    evaluation (w.locals u) = some (other, otherReadAt) →
    readAt ≤ other.executedAt + secondsToMicros quorumWindowSeconds

/-- No transaction has begun, and no incident of the dependency is open. -/
structure Untouched {ι : Type} (dep : Dependency) (w : World (CheckDatabase ι) ι Phase) : Prop where
  probing : ∀ t, w.locals t = .probing
  unlocked : w.shared.lockHolder = none
  noneOpen : w.shared.openIncidents dep.id = []

variable {ι : Type} {dep : Dependency} {probes : ι → Probe}

/-! ## The open incidents along a step -/

private theorem openIncidents_publish_create (db : CheckDatabase ι) (result : CheckResult)
    (incident : Incident) (fresh : db.incidents.get? incident.id = none)
    (here : incident.dependencyId = dep.id) (isOpen : incident.status = .opened) :
    (db.publish result (.create incident)).openIncidents dep.id =
      db.openIncidents dep.id ++ [incident] := by
  have absent : incident.id ∉ db.incidents.rows.map Incident.id := by
    intro taken
    obtain ⟨row, member, same⟩ := List.mem_map.mp taken
    exact (Table.get?_eq_none_iff _ _).mp fresh row member same
  obtain ⟨inserted, success⟩ := (Table.insert_isSome_iff db.incidents incident).mpr absent
  have rows := (Table.insert_eq_some success).2
  simp [CheckDatabase.publish, CheckDatabase.openIncidents, success, rows, here, isOpen]

/-! ## The invariant -/

def AtMostOneOpen (dep : Dependency) (db : CheckDatabase ι) : Prop :=
  (db.openIncidents dep.id).length ≤ 1

/-- The row is the failed check of this transaction, and the quorum read lists it. -/
structure OwnFailure (dep : Dependency) (probe : Probe) (result : CheckResult) : Prop where
  dependencyId : result.dependencyId = dep.id
  region : result.region = probe.region
  down : result.isUp = false
  listed : dep.isDeleted = false

/-- What holds of a transaction and the database. -/
def Own (dep : Dependency) (probes : ι → Probe) (t : ι) (db : CheckDatabase ι) :
    Phase → Prop
  | .probing | .skipped | .aborted => True
  | .recorded result => OwnFailure dep (probes t) result ∧ result.quorumConfirmed = false
  | .locked result =>
    OwnFailure dep (probes t) result ∧ result.quorumConfirmed = false ∧ db.lockHolder = some t
  | .confirmed result _ | .opening result _ =>
    OwnFailure dep (probes t) result ∧ db.lockHolder = some t
  | .recovering .. => False
  | .ready result _ .unchanged =>
    OwnFailure dep (probes t) result ∧ db.lockHolder = some t ∧
      (result.quorumConfirmed = true → db.openIncidents dep.id ≠ [])
  | .ready result _ (.create incident) =>
    OwnFailure dep (probes t) result ∧ db.lockHolder = some t ∧
      db.openIncidents dep.id = [] ∧ db.incidents.get? incident.id = none ∧
      incident.dependencyId = dep.id ∧ incident.status = .opened
  | .ready _ _ (.resolve ..) => False
  | .committed result _ write =>
    OwnFailure dep (probes t) result ∧ result ∈ db.results ∧
      (result.quorumConfirmed = true → db.openIncidents dep.id ≠ []) ∧
      (∀ incident, write = .create incident → db.openIncidents dep.id ≠ [])

/-- Of two transactions that read the quorum one has confirmed it, unless they
check the same region or one read after the other's result had left the window. -/
def Noticed (first second : Phase) : Prop :=
  ∀ result readAt other otherReadAt, evaluation first = some (result, readAt) →
    evaluation second = some (other, otherReadAt) →
    result.quorumConfirmed = true ∨ other.quorumConfirmed = true ∨
      result.region = other.region ∨
      other.executedAt + secondsToMicros quorumWindowSeconds < readAt ∨
      result.executedAt + secondsToMicros quorumWindowSeconds < otherReadAt

def Pair (first second : Phase) : Prop :=
  Noticed first second ∧ ¬ (Creates first ∧ Creates second)

def Invariant (dep : Dependency) (probes : ι → Probe) :
    World (CheckDatabase ι) ι Phase → Prop :=
  World.Holds (AtMostOneOpen dep) (Own dep probes) Pair

theorem pair_symm (first second : Phase) (pair : Pair first second) :
    Pair second first := by
  refine ⟨?_, fun both => pair.2 both.symm⟩
  intro result readAt other otherReadAt here there
  rcases pair.1 other otherReadAt result readAt there here with h | h | h | h | h
  · exact .inr (.inl h)
  · exact .inl h
  · exact .inr (.inr (.inl h.symm))
  · exact .inr (.inr (.inr (.inr h)))
  · exact .inr (.inr (.inr (.inl h)))

/-- A phase with nothing seen and nothing created goes with every other. -/
private theorem pair_of_none {first : Phase} (second : Phase) (unseen : evaluation first = none)
    (idle : ¬ Creates first) : Pair first second := by
  refine ⟨?_, fun both => idle both.1⟩
  intro result readAt other otherReadAt here
  rw [unseen] at here
  cases here

private theorem pair_congr {before after second : Phase} (same : evaluation after = evaluation before)
    (writes : Creates after → Creates before) (pair : Pair before second) : Pair after second := by
  refine ⟨?_, fun both => pair.2 ⟨writes both.1, both.2⟩⟩
  intro result readAt other otherReadAt here
  rw [same] at here
  exact pair.1 result readAt other otherReadAt here

private theorem invariant_untouched {w : World (CheckDatabase ι) ι Phase}
    (untouched : Untouched dep w) : Invariant dep probes w := by
  refine ⟨?_, ?_, ?_⟩
  · unfold AtMostOneOpen
    rw [untouched.noneOpen]
    exact Nat.zero_le 1
  · intro t
    rw [untouched.probing t]
    trivial
  · intro t u _
    rw [untouched.probing t]
    exact pair_of_none _ rfl id

/-! ## The other transactions during a step -/

/-- How the database may change for a transaction that does not move. -/
structure Undisturbed (dep : Dependency) (j : ι) (db after : CheckDatabase ι) : Prop where
  results : ∀ result ∈ db.results, result ∈ after.results
  held : db.lockHolder = some j → after.lockHolder = some j ∧ after.incidents = db.incidents
  stillOpen : db.openIncidents dep.id ≠ [] → after.openIncidents dep.id ≠ []

private theorem own_undisturbed {j : ι} {db after : CheckDatabase ι} {phase : Phase}
    (change : Undisturbed dep j db after) (own : Own dep probes j db phase) :
    Own dep probes j after phase := by
  match phase with
  | .probing | .skipped | .aborted => trivial
  | .recorded _ => exact own
  | .locked _ => exact ⟨own.1, own.2.1, (change.held own.2.2).1⟩
  | .confirmed .. | .opening .. => exact ⟨own.1, (change.held own.2).1⟩
  | .recovering .. => exact own.elim
  | .ready _ _ .unchanged =>
    exact ⟨own.1, (change.held own.2.1).1, fun seen => change.stillOpen (own.2.2 seen)⟩
  | .ready _ _ (.create _) =>
    obtain ⟨failure, holder, noneOpen, fresh, row⟩ := own
    obtain ⟨still, same⟩ := change.held holder
    refine ⟨failure, still, ?_, by rw [same]; exact fresh, row⟩
    rw [← noneOpen]
    simp only [CheckDatabase.openIncidents, same]
  | .ready _ _ (.resolve ..) => exact own.elim
  | .committed .. =>
    obtain ⟨failure, member, seen, wrote⟩ := own
    exact ⟨failure, change.results _ member, fun h => change.stillOpen (seen h),
      fun i h => change.stillOpen (wrote i h)⟩

private theorem undisturbed_refl (j : ι) (db : CheckDatabase ι) : Undisturbed dep j db db :=
  ⟨fun _ member => member, fun held => ⟨held, rfl⟩, id⟩

/-- The holder of the lock may do anything that keeps the results and does not
close an incident. -/
private theorem undisturbed_of_holder {t j : ι} {db after : CheckDatabase ι} (other : j ≠ t)
    (holder : db.lockHolder = some t) (results : ∀ result ∈ db.results, result ∈ after.results)
    (stillOpen : db.openIncidents dep.id ≠ [] → after.openIncidents dep.id ≠ []) :
    Undisturbed dep j db after := by
  refine ⟨results, fun held => ?_, stillOpen⟩
  rw [holder] at held
  exact absurd (Option.some.inj held).symm other

private theorem undisturbed_release [DecidableEq ι] {t j : ι} (other : j ≠ t)
    (db : CheckDatabase ι) : Undisturbed dep j db (db.release t) := by
  refine ⟨fun _ member => member, fun held => ⟨?_, rfl⟩, id⟩
  have free : db.lockHolder ≠ some t := by
    rw [held]
    exact fun same => other (Option.some.inj same)
  exact (if_neg free).trans held

/-- While another transaction holds the lock, whoever has read the quorum has
committed, and its result is there to be read. -/
private theorem evaluated_committed {t u : ι} {db : CheckDatabase ι} {phase : Phase}
    {result : CheckResult} {readAt : Instant} (other : u ≠ t) (holder : db.lockHolder = some t)
    (own : Own dep probes u db phase) (seen : evaluation phase = some (result, readAt)) :
    result ∈ db.results ∧ result.dependencyId = dep.id ∧ result.isUp = false := by
  have elsewhere : db.lockHolder ≠ some u := by
    rw [holder]
    exact fun same => other (Option.some.inj same).symm
  match phase with
  | .probing | .skipped | .aborted | .recorded _ | .locked _ => cases seen
  | .confirmed .. | .opening .. => exact absurd own.2 elsewhere
  | .recovering .. => exact own.elim
  | .ready _ _ .unchanged | .ready _ _ (.create _) => exact absurd own.2.1 elsewhere
  | .ready _ _ (.resolve ..) => exact own.elim
  | .committed stored (some at') write =>
    cases seen
    exact ⟨own.2.1, own.1.dependencyId, own.1.down⟩

/-- The quorum read of a transaction against a result already there. -/
private theorem quorum_of_failure {visible : List CheckResult} {now : Instant}
    {recent : List CheckResult} {region : String} {other : CheckResult}
    (listed : dep.isDeleted = false)
    (answer : RecentForDependency dep visible
      (now - secondsToMicros quorumWindowSeconds) recent)
    (there : other ∈ visible) (here : other.dependencyId = dep.id) (down : other.isUp = false)
    (inWindow : now ≤ other.executedAt + secondsToMicros quorumWindowSeconds)
    (apart : region ≠ other.region) :
    quorumMinRegions ≤ (failingRegions region recent).card := by
  have read : other ∈ recent := by
    rw [answer.1.mem_iff, List.mem_filter, decide_eq_true_iff]
    exact ⟨there, here, sub_le_iff_le_add.mpr inWindow, listed⟩
  have counted : other.region ∈ failingRegions region recent := by
    refine Finset.mem_insert_of_mem (List.mem_toFinset.mpr (List.mem_map.mpr ⟨other, ?_, rfl⟩))
    simp [read, down]
  have two : 1 < (failingRegions region recent).card :=
    Finset.one_lt_card.mpr ⟨region, Finset.mem_insert_self _ _, other.region, counted, apart⟩
  exact two

/-! ## One step -/

/-- A step that moves no row: it keeps what the transaction has seen and created. -/
private theorem keeps_quiet {w : World (CheckDatabase ι) ι Phase} {t : ι} {phase next : Phase}
    {db : CheckDatabase ι} (inv : Invariant dep probes w) (here : w.locals t = phase)
    (rows : db.incidents = w.shared.incidents)
    (others : ∀ j, j ≠ t → Undisturbed dep j w.shared db)
    (own : Own dep probes t db next) (same : evaluation next = evaluation phase)
    (writes : Creates next → Creates phase) :
    World.Keeps (AtMostOneOpen dep) (Own dep probes) Pair w t
      (db, next) := by
  refine ⟨?_, own, ?_, ?_⟩
  · have store := inv.store
    simpa only [AtMostOneOpen, CheckDatabase.openIncidents, rows] using store
  · intro j other
    exact own_undisturbed (others j other) (inv.own j)
  · intro j other
    have pair := inv.pair t j other.symm
    rw [here] at pair
    exact pair_congr same writes pair

/-- The quorum read: every earlier reader has committed, and its result is seen
or out of the window. -/
private theorem keeps_quorumRead {w : World (CheckDatabase ι) ι Phase} {t : ι} {next : Phase}
    {result read : CheckResult} {now : Instant} {recent : List CheckResult}
    (inv : Invariant dep probes w) (here : w.locals t = .locked result)
    (answer : RecentForDependency dep (w.shared.results ++ [result])
      (now - secondsToMicros quorumWindowSeconds) recent)
    (seen : evaluation next = some (read, now)) (region : read.region = result.region)
    (decided : quorumMinRegions ≤ (failingRegions result.region recent).card →
      read.quorumConfirmed = true)
    (own : Own dep probes t w.shared next) (idle : ¬ Creates next) :
    World.Keeps (AtMostOneOpen dep) (Own dep probes) Pair w t
      (w.shared, next) := by
  have mine := inv.own t
  rw [here] at mine
  obtain ⟨failure, -, holder⟩ := mine
  refine ⟨inv.store, own, fun j _ => inv.own j, ?_⟩
  intro j different
  refine ⟨?_, fun both => idle both.1⟩
  intro row readAt other otherReadAt first second
  rw [seen] at first
  cases first
  obtain ⟨there, dependency, down⟩ := evaluated_committed different holder (inv.own j) second
  by_cases inWindow : now ≤ other.executedAt + secondsToMicros quorumWindowSeconds
  · by_cases apart : result.region = other.region
    · exact .inr (.inr (.inl (region.trans apart)))
    · exact .inl (decided (quorum_of_failure failure.listed answer
        (List.mem_append_left _ there) dependency down inWindow apart))
  · exact .inr (.inr (.inr (.inl (not_le.mp inWindow))))

/-- The insertion: nothing is open, so nobody has created an incident before. -/
private theorem keeps_create {w : World (CheckDatabase ι) ι Phase} {t : ι}
    {result : CheckResult} {readAt : Instant} (newId : Uuid) (now : Instant)
    (inv : Invariant dep probes w) (here : w.locals t = .opening result readAt)
    (noneOpen : w.shared.openIncidents dep.id = []) (fresh : w.shared.incidents.get? newId = none) :
    World.Keeps (AtMostOneOpen dep) (Own dep probes) Pair w t
      ({ w.shared with indexWriter := some t },
        .ready result (some readAt) (.create (newIncident dep result newId now))) := by
  have mine := inv.own t
  rw [here] at mine
  obtain ⟨failure, holder⟩ := mine
  refine ⟨inv.store, ⟨failure, holder, noneOpen, fresh, rfl, rfl⟩, ?_, ?_⟩
  · intro j other
    exact own_undisturbed (undisturbed_of_holder other holder (fun _ member => member) id)
      (inv.own j)
  · intro j other
    have pair := inv.pair t j other.symm
    rw [here] at pair
    refine ⟨pair.1, ?_⟩
    rintro ⟨-, creates⟩
    have own := inv.own j
    have elsewhere : w.shared.lockHolder ≠ some j := by
      rw [holder]
      exact fun same => other (Option.some.inj same).symm
    match phase : w.locals j with
    | .ready _ _ (.create _) =>
      rw [phase] at own
      exact elsewhere own.2.1
    | .committed _ _ (.create incident) =>
      rw [phase] at own
      exact own.2.2.2 incident rfl noneOpen
    | .ready _ _ .unchanged | .ready _ _ (.resolve ..) | .committed _ _ .unchanged
    | .committed _ _ (.resolve ..) | .probing | .skipped | .aborted | .recorded _ | .locked _
    | .confirmed .. | .opening .. | .recovering .. =>
      rw [phase] at creates
      exact creates

section Step
variable [DecidableEq ι]

/-- The commit publishes the result, and the incident where one was created. -/
private theorem keeps_commit {w : World (CheckDatabase ι) ι Phase} {t : ι}
    {result : CheckResult} {readAt : Option Instant} {write : IncidentWrite}
    (inv : Invariant dep probes w) (here : w.locals t = .ready result readAt write) :
    World.Keeps (AtMostOneOpen dep) (Own dep probes) Pair w t
      ((w.shared.publish result write).release t, .committed result readAt write) := by
  have mine := inv.own t
  rw [here] at mine
  have published : ∀ row ∈ w.shared.results,
      row ∈ ((w.shared.publish result write).release t).results :=
    fun row member => List.mem_append_left [result] member
  have included : result ∈ ((w.shared.publish result write).release t).results :=
    List.mem_append_right w.shared.results (List.mem_singleton.mpr rfl)
  cases write with
  | resolve incidentId resolvedAt => exact mine.elim
  | unchanged =>
    obtain ⟨failure, holder, seen⟩ := mine
    refine keeps_quiet inv here rfl ?_ ⟨failure, included, seen, ?_⟩ rfl id
    · intro j other
      exact undisturbed_of_holder other holder published id
    · intro incident impossible
      cases impossible
  | create incident =>
    obtain ⟨failure, holder, noneOpen, fresh, dependency, isOpen⟩ := mine
    have opened : ((w.shared.publish result (.create incident)).release t).openIncidents dep.id =
        [incident] := by
      have added := openIncidents_publish_create w.shared result incident fresh dependency isOpen
      rw [noneOpen, List.nil_append] at added
      exact added
    have nonempty : ((w.shared.publish result (.create incident)).release t).openIncidents dep.id ≠
        [] := by
      rw [opened]
      exact List.cons_ne_nil _ _
    refine ⟨?_, ⟨failure, included, fun _ => nonempty, fun _ _ => nonempty⟩, ?_, ?_⟩
    · unfold AtMostOneOpen
      rw [opened, List.length_singleton]
    · intro j other
      exact own_undisturbed (undisturbed_of_holder other holder published (fun _ => nonempty))
        (inv.own j)
    · intro j other
      have pair := inv.pair t j other.symm
      rw [here] at pair
      exact pair_congr rfl id pair

theorem invariant_step (failing : ∀ t, ∃ message, (probes t).outcome = .down message)
    (w : World (CheckDatabase ι) ι Phase) (t : ι) (action : CheckAction)
    (inv : Invariant dep probes w) :
    World.Keeps (AtMostOneOpen dep) (Own dep probes) Pair w t
      (executeCheck dep probes t w.shared (w.locals t) action) := by
  have effect := executeCheck_effect dep probes t w.shared (w.locals t) action
  have mine := inv.own t
  generalize executeCheck dep probes t w.shared (w.locals t) action = after at effect ⊢
  generalize here : w.locals t = phase at effect mine
  have unmoved : ∀ j, j ≠ t → Undisturbed dep j w.shared w.shared :=
    fun j _ => undisturbed_refl j w.shared
  cases effect with
  | wait => exact keeps_quiet inv here rfl unmoved mine rfl id
  | skip => exact keeps_quiet inv here rfl unmoved trivial rfl id
  | block now reason refused =>
    obtain ⟨message, down⟩ := failing t
    rw [down] at refused
    cases refused
  | record now listed =>
    obtain ⟨message, down⟩ := failing t
    have failure : OwnFailure dep (probes t) ((probes t).result dep now) :=
      ⟨rfl, rfl, by simp [Probe.result, down], listed⟩
    exact keeps_quiet inv here rfl unmoved ⟨failure, rfl⟩ rfl id
  | lock result free =>
    refine keeps_quiet inv here rfl ?_ ⟨mine.1, mine.2, rfl⟩ rfl id
    intro j other
    refine ⟨fun _ member => member, fun held => ?_, id⟩
    rw [free] at held
    cases held
  | confirm result now recent answer quorum =>
    refine keeps_quorumRead inv here answer rfl rfl (fun _ => rfl) ?_ id
    exact ⟨⟨mine.1.dependencyId, mine.1.region, mine.1.down, mine.1.listed⟩, mine.2.2⟩
  | noQuorum result now recent answer few =>
    refine keeps_quorumRead inv here answer rfl rfl (fun quorum => ?_) ?_ id
    · omega
    · refine ⟨mine.1, mine.2.2, fun confirmed => ?_⟩
      rw [mine.2.1] at confirmed
      cases confirmed
  | found result readAt existsOpen =>
    exact keeps_quiet inv here rfl unmoved ⟨mine.1, mine.2, fun _ => existsOpen⟩ rfl id
  | notFound result readAt => exact keeps_quiet inv here rfl unmoved mine rfl id
  | reuse result readAt existsOpen =>
    exact keeps_quiet inv here rfl unmoved ⟨mine.1, mine.2, fun _ => existsOpen⟩ rfl id
  | create result readAt newId now noneOpen fresh =>
    exact keeps_create newId now inv here noneOpen fresh
  | recover result now recent up =>
    rw [mine.1.down] at up
    cases up
  | leave => exact mine.elim
  | resolve => exact mine.elim
  | commit result readAt write => exact keeps_commit inv here
  | abort =>
    refine ⟨inv.store, trivial, ?_, ?_⟩
    · intro j other
      exact own_undisturbed (undisturbed_release other w.shared) (inv.own j)
    · intro j other
      exact pair_of_none _ rfl id

/-! ## Whole interleavings -/

omit [DecidableEq ι] in
theorem open_of_confirmed {w : World (CheckDatabase ι) ι Phase} (inv : Invariant dep probes w)
    {t : ι} {result : CheckResult} {readAt : Option Instant} {write : IncidentWrite}
    (here : w.locals t = .committed result readAt write)
    (confirmed : result.quorumConfirmed = true) : w.shared.openIncidents dep.id ≠ [] := by
  have own := inv.own t
  rw [here] at own
  exact own.2.2.1 confirmed

omit [DecidableEq ι] in
/-- Of two failing checks in different regions that have both read the quorum in
time one has confirmed it. -/
theorem confirmed_of_regions {w : World (CheckDatabase ι) ι Phase}
    (inv : Invariant dep probes w) (all : AllCommitted w) {t u : ι}
    (apart : (probes t).region ≠ (probes u).region) :
    ∃ r result readAt write, w.locals r = .committed result readAt write ∧
      result.quorumConfirmed = true := by
  obtain ⟨result, readAt, write, here⟩ := all.committed t
  obtain ⟨other, otherReadAt, otherWrite, there⟩ := all.committed u
  have seen : evaluation (w.locals t) = some (result, readAt) := by rw [here]; rfl
  have otherSeen : evaluation (w.locals u) = some (other, otherReadAt) := by rw [there]; rfl
  have own := inv.own t
  have otherOwn := inv.own u
  rw [here] at own
  rw [there] at otherOwn
  have different : t ≠ u := fun same => apart (by rw [same])
  have window := all.window t u result readAt other otherReadAt seen otherSeen
  have otherWindow := all.window u t other otherReadAt result readAt otherSeen seen
  rcases (inv.pair t u different).1 _ _ _ _ seen otherSeen with h | h | h | h | h
  · exact ⟨t, result, _, write, here, h⟩
  · exact ⟨u, other, _, otherWrite, there, h⟩
  · rw [own.1.region, otherOwn.1.region] at h
    exact absurd h apart
  · exact absurd window (not_le.mpr h)
  · exact absurd otherWindow (not_le.mpr h)

/-- Checks that fail in two regions and commit, in any interleaving, leave one
open incident: one of them at least has confirmed the quorum, and at most one
has created an incident. -/
theorem one_incident_per_outage (dep : Dependency) (probes : ι → Probe)
    (w : World (CheckDatabase ι) ι Phase) (untouched : Untouched dep w)
    (failing : ∀ t, ∃ message, (probes t).outcome = .down message)
    (regions : ∃ t u, (probes t).region ≠ (probes u).region)
    (run : List (ι × CheckAction))
    (all : AllCommitted (Run.exec (World.move (executeCheck dep probes)) w run)) :
    let final := Run.exec (World.move (executeCheck dep probes)) w run
    (∃ incident, final.shared.openIncidents dep.id = [incident]) ∧
      (∃ t result readAt write, final.locals t = .committed result readAt write ∧
        result.quorumConfirmed = true) ∧
      ∀ t u, Creates (final.locals t) → Creates (final.locals u) → t = u := by
  intro final
  have inv : Invariant dep probes final :=
    World.Holds.exec pair_symm (invariant_step failing) w run (invariant_untouched untouched)
  obtain ⟨t, u, apart⟩ := regions
  obtain ⟨r, result, readAt, write, here, confirmed⟩ := confirmed_of_regions inv all apart
  have isOpen := open_of_confirmed inv here confirmed
  refine ⟨?_, ⟨r, result, readAt, write, here, confirmed⟩, ?_⟩
  · have atMostOne : (final.shared.openIncidents dep.id).length ≤ 1 := inv.store
    have atLeastOne := List.length_pos_of_ne_nil isOpen
    exact List.length_eq_one_iff.mp (by omega)
  · intro first second creates otherCreates
    by_contra distinct
    exact (inv.pair first second distinct).2 ⟨creates, otherCreates⟩

end Step

/-! ## Two workers that overlap -/

def sampleDependency : Dependency := ⟨7, 1, true, false⟩

def sampleProbes (t : Fin 2) : Probe :=
  if t = 0 then ⟨"us-east", .down "Unexpected status code: 503"⟩ else ⟨"eu-west", .down ""⟩

def sampleWorld : World (CheckDatabase (Fin 2)) (Fin 2) Phase :=
  ⟨⟨[], .empty, none, none⟩, fun _ => .probing⟩

/-- The failed check of worker `t`, `seconds` after the epoch. -/
def sampleResult (t : Fin 2) (seconds : Int) : CheckResult :=
  (sampleProbes t).result sampleDependency (secondsToMicros seconds)

/-- Both flush their results before either locks; worker 1 waits for the lock. -/
def sampleRun : List (Fin 2 × CheckAction) :=
  [(0, .record (secondsToMicros 1)), (1, .record (secondsToMicros 2)), (0, .lock), (1, .lock),
    (0, .readQuorum (secondsToMicros 3) [sampleResult 0 1]), (0, .commit), (1, .lock),
    (1, .readQuorum (secondsToMicros 4) [sampleResult 1 2, sampleResult 0 1]),
    (1, .readOpenIncident none (secondsToMicros 4)), (1, .createIncident 21 (secondsToMicros 5)),
    (1, .commit)]

def sampleFinal (t : Fin 2) : CheckResult × Instant × IncidentWrite :=
  if t = 0 then (sampleResult 0 1, secondsToMicros 3, .unchanged)
  else
    ({ sampleResult 1 2 with quorumConfirmed := true }, secondsToMicros 4,
      .create (newIncident sampleDependency (sampleResult 1 2) 21 (secondsToMicros 5)))

private theorem sampleRun_final : ∀ t : Fin 2,
    (Run.exec (World.move (executeCheck sampleDependency sampleProbes)) sampleWorld
      sampleRun).locals t =
        .committed (sampleFinal t).1 (some (sampleFinal t).2.1) (sampleFinal t).2.2 := by
  decide

private theorem sampleRun_allCommitted : AllCommitted
    (Run.exec (World.move (executeCheck sampleDependency sampleProbes)) sampleWorld
      sampleRun) := by
  constructor
  · intro t
    exact ⟨_, _, _, sampleRun_final t⟩
  · intro t u result readAt other otherReadAt seen otherSeen
    rw [sampleRun_final] at seen otherSeen
    cases seen
    cases otherSeen
    revert t u
    decide

theorem one_incident_per_outage_sample :
    let final := Run.exec (World.move (executeCheck sampleDependency sampleProbes)) sampleWorld
      sampleRun
    (∃ incident, final.shared.openIncidents 7 = [incident]) ∧
      (∃ t result readAt write, final.locals t = .committed result readAt write ∧
        result.quorumConfirmed = true) ∧
      ∀ t u, Creates (final.locals t) → Creates (final.locals u) → t = u :=
  one_incident_per_outage sampleDependency sampleProbes sampleWorld
    ⟨fun _ => rfl, rfl, rfl⟩
    (fun t => if h : t = 0 then ⟨"Unexpected status code: 503", by rw [h]; rfl⟩
      else ⟨"", by unfold sampleProbes; rw [if_neg h]⟩)
    ⟨0, 1, by decide⟩ sampleRun sampleRun_allCommitted

end Reliastra.Guarantees.OneIncident
