import Mathlib.Data.String.Basic
import Reliastra.Source.Vendors.Service

/-!
# The status board and the single vendor

The board shows of each vendor the latest observation of each URL that no vendor
before it claims, among the newest two hundred of all vendors; the single lookup the
newest five observations of its URLs. The endpoints are always the same.
`board_agrees_iff` says of every database when the status is.
-/

namespace Reliastra.Guarantees.VendorDetails

open Reliastra.Library Source Source.Api Source.Vendors Source.Observations

section Board
variable {α : Type} [LinearOrder α] (q : VendorQueries α) (db : VendorDatabase)

/-- The vendor is on the board, with the status and the endpoints of the lookup. -/
def Agrees (vendor : VendorTracking) : Prop :=
  (∃ detail ∈ getVendorDetailsBulk q db, detail.vendor = vendor) ∧
  ∀ detail ∈ getVendorDetailsBulk q db, detail.vendor = vendor → ∃ alone,
    getVendorDetail q db vendor.vendorName = .ok alone ∧
      alone.recentStatus = detail.recentStatus ∧ alone.endpoints = detail.endpoints

/-- No vendor before it in the list has the URL. -/
def FirstWith (vendor : VendorTracking) (url : String) : Prop :=
  ∃ before after, publicVendors q db = before ++ vendor :: after ∧
    url ∈ vendorUrls q db vendor ∧ ∀ other ∈ before, url ∉ vendorUrls q db other

/-- The newest observation of one of the vendor's own URLs, among the newest of all. -/
def OnBoard (vendor : VendorTracking) (obs : Observation) : Prop :=
  FirstWith q db vendor obs.fields.endpointUrl ∧ ∃ before after,
    listForEndpoints q db ((urlPairs q db).map (·.1)) 200 = before ++ obs :: after ∧
      ∀ newer ∈ before, newer.fields.endpointUrl ≠ obs.fields.endpointUrl

/-- The newest five observations of the vendor's URLs. -/
def newestOwn (vendor : VendorTracking) : List Observation :=
  listForEndpoints q db (vendorUrls q db vendor) 5

def legacyChecks (vendor : VendorTracking) : List Source.Observations.CheckResult :=
  getVendorRecentStatus q db vendor.endpointUrl 5

/-- A vendor with observations: failures show on both sides or on none; without one on
the board, the legacy checks tell the same. -/
def SameStatus (vendor : VendorTracking) : Prop :=
  newestOwn q db vendor ≠ [] →
    ((∃ obs, OnBoard q db vendor obs) →
      ((∃ obs, OnBoard q db vendor obs ∧ Failed obs) ↔ ∃ obs ∈ newestOwn q db vendor, Failed obs)) ∧
    ((¬ ∃ obs, OnBoard q db vendor obs) →
      legacyChecks q db vendor ≠ [] ∧ ((∀ result ∈ legacyChecks q db vendor, result.isUp) ↔
        ¬ ∃ obs ∈ newestOwn q db vendor, Failed obs))

end Board

/-! ## Statuses -/

theorem observedStatus_eq_iff (first second : List Observation) :
    observedStatus first = observedStatus second ↔
      ((∃ obs ∈ first, Failed obs) ↔ ∃ obs ∈ second, Failed obs) := by
  unfold observedStatus
  by_cases left : ∃ obs ∈ first, Failed obs
  · rw [if_pos left, iff_true_left left]
    by_cases right : ∃ obs ∈ second, Failed obs
    · rw [if_pos right]
      exact iff_of_true rfl right
    · rw [if_neg right]
      exact iff_of_false (by decide) right
  · rw [if_neg left, iff_false_left left]
    by_cases right : ∃ obs ∈ second, Failed obs
    · rw [if_pos right]
      exact iff_of_false (by decide) (not_not.mpr right)
    · rw [if_neg right]
      exact iff_of_true rfl right

theorem observed_eq_legacy_iff (observations : List Observation)
    (legacy : List Source.Observations.CheckResult) :
    observedStatus observations = legacyStatus legacy ↔
      legacy ≠ [] ∧ ((∀ result ∈ legacy, result.isUp) ↔ ¬ ∃ obs ∈ observations, Failed obs) := by
  by_cases checked : legacy ≠ []
  · have known : legacyStatus legacy =
        if ∀ result ∈ legacy, result.isUp then "operational" else "degraded" := by
      simp [legacyStatus, checked]
    rw [known, observedStatus, and_iff_right checked]
    by_cases failed : ∃ obs ∈ observations, Failed obs
    · rw [if_pos failed, iff_false_right (not_not.mpr failed)]
      by_cases up : ∀ result ∈ legacy, result.isUp
      · rw [if_pos up]
        exact iff_of_false (by decide) (not_not.mpr up)
      · rw [if_neg up]
        exact iff_of_true rfl up
    · rw [if_neg failed, iff_true_right failed]
      by_cases up : ∀ result ∈ legacy, result.isUp
      · rw [if_pos up]
        exact iff_of_true rfl up
      · rw [if_neg up]
        exact iff_of_false (by decide) up
  · have unknown : legacyStatus legacy = "unknown" := by
      rw [legacyStatus, if_neg (fun both => checked both.1), if_neg checked]
    rw [unknown, observedStatus]
    refine iff_of_false ?_ (fun both => checked both.1)
    split
    · decide
    · decide

/-! ## What is on the board -/

theorem mem_latestByUrl_iff (observations : List Observation) (obs : Observation) :
    obs ∈ latestByUrl observations ↔ ∃ before after, observations = before ++ obs :: after ∧
      ∀ newer ∈ before, newer.fields.endpointUrl ≠ obs.fields.endpointUrl := by
  induction observations with
  | nil => simp [latestByUrl]
  | cons first rest ih =>
    simp only [latestByUrl, List.mem_cons, List.mem_filter, ih, decide_eq_true_eq]
    constructor
    · rintro (rfl | ⟨⟨before, after, rfl, latest⟩, other⟩)
      · exact ⟨[], rest, rfl, fun _ member => absurd member List.not_mem_nil⟩
      · refine ⟨first :: before, after, rfl, fun newer member => ?_⟩
        rcases List.mem_cons.mp member with rfl | later
        · exact other.symm
        · exact latest newer later
    · rintro ⟨before, after, split, latest⟩
      cases before with
      | nil =>
        cases split
        exact .inl rfl
      | cons newer before =>
        cases split
        exact .inr ⟨⟨before, after, rfl, fun row member => latest row (List.mem_cons_of_mem _ member)⟩,
          (latest _ List.mem_cons_self).symm⟩

theorem lookup_named (urls : List String) (name url : String) :
    (urls.map (fun url => (url, name))).lookup url = if url ∈ urls then some name else none := by
  induction urls with
  | nil => rfl
  | cons first rest ih =>
    rw [List.map_cons, List.lookup_cons]
    by_cases same : url = first
    · subst same
      simp
    · have differ : (url == first) = false := beq_eq_false_iff_ne.mpr same
      rw [differ, ih]
      simp [same]

/-- The vendor kept for a URL is the first one with it. -/
theorem lookup_pairs_iff (urls : VendorTracking → List String) (vendors : List VendorTracking)
    (url name : String) :
    (vendors.flatMap (fun vendor => (urls vendor).map (fun url => (url, vendor.vendorName)))).lookup
        url = some name ↔
      ∃ before vendor after, vendors = before ++ vendor :: after ∧ vendor.vendorName = name ∧
        url ∈ urls vendor ∧ ∀ other ∈ before, url ∉ urls other := by
  induction vendors with
  | nil => simp
  | cons first rest ih =>
    rw [List.flatMap_cons, List.lookup_append, lookup_named]
    by_cases here : url ∈ urls first
    · rw [if_pos here, Option.some_or]
      constructor
      · intro same
        exact ⟨[], first, rest, rfl, Option.some.inj same, here,
          fun _ member => absurd member List.not_mem_nil⟩
      · intro ⟨before, vendor, after, split, named, _, earlier⟩
        cases before with
        | nil =>
          cases split
          rw [named]
        | cons other before =>
          cases split
          exact absurd here (earlier _ List.mem_cons_self)
    · rw [if_neg here, Option.none_or, ih]
      constructor
      · rintro ⟨before, vendor, after, rfl, named, there, earlier⟩
        refine ⟨first :: before, vendor, after, rfl, named, there, fun other member => ?_⟩
        rcases List.mem_cons.mp member with rfl | later
        · exact here
        · exact earlier other later
      · intro ⟨before, vendor, after, split, named, there, earlier⟩
        cases before with
        | nil =>
          cases split
          exact absurd there here
        | cons other before =>
          cases split
          exact ⟨before, vendor, after, rfl, named, there,
            fun row member => earlier row (List.mem_cons_of_mem _ member)⟩

section Board
variable {α : Type} [LinearOrder α] (q : VendorQueries α) (db : VendorDatabase)
  {vendor : VendorTracking}

theorem mem_publicVendors :
    vendor ∈ publicVendors q db ↔ vendor ∈ db.vendors.rows ∧ vendor.isPublic = true := by
  unfold publicVendors listPublic limited
  simp [List.mem_insertionSort]

theorem urlToVendor_iff (stored : vendor ∈ db.vendors.rows) (url : String) :
    urlToVendor q db url = some vendor.vendorName ↔ FirstWith q db vendor url := by
  unfold urlToVendor urlPairs FirstWith
  rw [lookup_pairs_iff]
  constructor
  · intro ⟨before, other, after, split, named, there, earlier⟩
    have listed : other ∈ publicVendors q db := by
      rw [split]
      simp
    obtain rfl := db.unique other ((mem_publicVendors q db).mp listed).1 vendor stored named
    exact ⟨before, after, split, there, earlier⟩
  · intro ⟨before, after, split, there, earlier⟩
    exact ⟨before, vendor, after, split, rfl, there, earlier⟩

theorem mem_vendorObservations (stored : vendor ∈ db.vendors.rows) (obs : Observation) :
    obs ∈ vendorObservations q db vendor ↔ OnBoard q db vendor obs := by
  unfold vendorObservations OnBoard
  rw [List.mem_filter, mem_latestByUrl_iff, decide_eq_true_eq, urlToVendor_iff q db stored,
    and_comm]

omit [LinearOrder α] in
theorem mem_listForEndpoints {urls : List String} {limit : Nat} {obs : Observation}
    (listed : obs ∈ listForEndpoints q db urls limit) :
    obs ∈ db.observations ∧ obs.fields.endpointUrl ∈ urls ∧
      obs.fields.sourceType = "customer_check" := by
  unfold listForEndpoints at listed
  split at listed
  · cases listed
  · have selected := (q.newest.mem_arrange _ obs).mp (List.mem_of_mem_take listed)
    rw [List.mem_filter, decide_eq_true_eq] at selected
    exact ⟨selected.1, selected.2.1, selected.2.2⟩

/-- Whoever is on the board has observations of its own. -/
theorem newest_of_onBoard {obs : Observation} (shown : OnBoard q db vendor obs) :
    newestOwn q db vendor ≠ [] := by
  obtain ⟨⟨_, _, _, own, _⟩, before, after, split, _⟩ := shown
  have listed : obs ∈ listForEndpoints q db ((urlPairs q db).map (·.1)) 200 := by
    rw [split]
    simp
  obtain ⟨stored, _, source⟩ := mem_listForEndpoints q db listed
  unfold newestOwn listForEndpoints
  rw [if_neg (List.ne_nil_of_mem own)]
  intro none
  have selected : obs ∈ db.observations.filter (fun obs =>
      obs.fields.endpointUrl ∈ vendorUrls q db vendor ∧
        obs.fields.sourceType = "customer_check") := by
    rw [List.mem_filter, decide_eq_true_eq]
    exact ⟨stored, own, source⟩
  have arranged := (q.newest.mem_arrange _ obs).mpr selected
  rcases List.take_eq_nil_iff.mp none with zero | empty
  · cases zero
  · rw [empty] at arranged
    cases arranged

theorem sameStatus_iff (stored : vendor ∈ db.vendors.rows) :
    recentStatus q db vendor (newestOwn q db vendor) =
        recentStatus q db vendor (vendorObservations q db vendor) ↔ SameStatus q db vendor := by
  have shown := mem_vendorObservations q db stored
  have any : vendorObservations q db vendor ≠ [] ↔ ∃ obs, OnBoard q db vendor obs := by
    constructor
    · intro nonempty
      obtain ⟨obs, here⟩ := List.exists_mem_of_ne_nil _ nonempty
      exact ⟨obs, (shown obs).mp here⟩
    · intro ⟨obs, here⟩
      exact List.ne_nil_of_mem ((shown obs).mpr here)
  have failed : (∃ obs ∈ vendorObservations q db vendor, Failed obs) ↔
      ∃ obs, OnBoard q db vendor obs ∧ Failed obs :=
    exists_congr (fun obs => and_congr_left' (shown obs))
  unfold SameStatus recentStatus
  by_cases observed : newestOwn q db vendor ≠ []
  · rw [if_pos observed, forall_prop_of_true observed]
    by_cases board : ∃ obs, OnBoard q db vendor obs
    · rw [if_pos (any.mpr board), observedStatus_eq_iff, failed, forall_prop_of_true board]
      simp only [board, not_true_eq_false, false_implies, and_true]
      exact iff_comm
    · rw [if_neg (fun nonempty => board (any.mp nonempty)), observed_eq_legacy_iff]
      simp only [board, false_implies, true_and, not_false_eq_true, forall_const]
      rfl
  · have absent : ¬ vendorObservations q db vendor ≠ [] := fun nonempty => by
      obtain ⟨obs, here⟩ := any.mp nonempty
      exact observed (newest_of_onBoard q db here)
    rw [if_neg observed, if_neg absent]
    exact iff_of_true rfl (fun here => absurd here observed)

theorem getVendorDetail_eq (stored : vendor ∈ db.vendors.rows) (listable : vendor.isPublic = true) :
    getVendorDetail q db vendor.vendorName =
      .ok ⟨vendor, recentStatus q db vendor (newestOwn q db vendor),
        listVendorEndpoints q db vendor.vendorName⟩ := by
  have found : getByName db vendor.vendorName = some vendor := by
    unfold getByName
    rw [db.lowered vendor stored]
    cases here : db.vendors.rows.find? (fun v => v.vendorName = vendor.vendorName) with
    | none =>
      have missing := List.find?_eq_none.mp here vendor stored
      exact absurd (decide_eq_true rfl) missing
    | some other =>
      have named : other.vendorName = vendor.vendorName := by simpa using List.find?_some here
      rw [db.unique other (List.mem_of_find?_eq_some here) vendor stored named]
  simp only [getVendorDetail, found, listable, if_true]
  rfl

theorem mem_bulk_iff (detail : VendorDetail) :
    detail ∈ getVendorDetailsBulk q db ↔ detail.vendor ∈ publicVendors q db ∧
      detail = ⟨detail.vendor, recentStatus q db detail.vendor
        (vendorObservations q db detail.vendor),
          listVendorEndpoints q db detail.vendor.vendorName⟩ := by
  unfold getVendorDetailsBulk
  rw [List.mem_map]
  constructor
  · rintro ⟨vendor, listed, rfl⟩
    exact ⟨listed, rfl⟩
  · intro ⟨listed, same⟩
    exact ⟨detail.vendor, listed, same.symm⟩

/-- The board agrees with the lookup exactly for the vendors whose observations on the
board fail just if one of their newest five does; the endpoints agree for all. -/
theorem board_agrees_iff (stored : vendor ∈ db.vendors.rows) (listable : vendor.isPublic = true) :
    (Agrees q db vendor ↔ SameStatus q db vendor) ∧
      ∀ detail ∈ getVendorDetailsBulk q db, detail.vendor = vendor → ∃ alone,
        getVendorDetail q db vendor.vendorName = .ok alone ∧
          alone.endpoints = detail.endpoints := by
  have alone := getVendorDetail_eq q db stored listable
  have listed : vendor ∈ publicVendors q db := (mem_publicVendors q db).mpr ⟨stored, listable⟩
  refine ⟨?_, fun detail member same => ?_⟩
  · rw [← sameStatus_iff q db stored]
    constructor
    · intro ⟨⟨detail, member, own⟩, all⟩
      obtain ⟨single, found, status, _⟩ := all detail member own
      obtain ⟨_, shape⟩ := (mem_bulk_iff q db detail).mp member
      rw [alone] at found
      cases found
      rw [shape, own] at status
      exact status
    · intro status
      refine ⟨⟨_, List.mem_map.mpr ⟨vendor, listed, rfl⟩, rfl⟩,
        fun detail member own => ⟨_, alone, ?_, ?_⟩⟩
      · rw [((mem_bulk_iff q db detail).mp member).2, own]
        exact status
      · rw [((mem_bulk_iff q db detail).mp member).2, own]
  · refine ⟨_, alone, ?_⟩
    rw [((mem_bulk_iff q db detail).mp member).2, same]

end Board

/-! ## Two vendors on the board -/

def acme : VendorTracking := ⟨1, "acme", "Acme", "https://a.example", "cloud", true⟩

/-- Another vendor with the URL of the first. -/
def zeta : VendorTracking := ⟨2, "zeta", "Zeta", "https://a.example", "cloud", true⟩

def customerCheck (timestamp : Instant) (statusCode : Option Int) : Observation where
  timestamp := timestamp
  fields :=
    { timestamp := some timestamp
      sourceType := "customer_check"
      sourceId := none
      orgId := none
      region := "us-east"
      endpointUrl := "https://a.example"
      latencyMs := 0
      statusCode := statusCode
      responseTimeMs := none
      tlsVersion := none
      tlsCertificateIssuer := none
      tlsCertificateExpiry := none
      errorType := none
      errorMessage := none
      metadata := none }

/-- The last check came back, the one before did not. -/
def recovered : VendorDatabase where
  vendors := ⟨[acme, zeta], by decide⟩
  endpoints := .empty
  dependencies := .empty
  checkResults := []
  observations := [customerCheck 1 none, customerCheck 2 (some 200)]
  unique := by decide
  lowered := by decide

def byText : VendorQueries String where
  collation := ⟨id, Function.injective_id⟩
  newest := OrderBy.stable _
  recent := OrderBy.stable _

theorem board_agrees_iff_acme :
    (Agrees byText recovered acme ↔ SameStatus byText recovered acme) ∧
      ∀ detail ∈ getVendorDetailsBulk byText recovered, detail.vendor = acme → ∃ alone,
        getVendorDetail byText recovered acme.vendorName = .ok alone ∧
          alone.endpoints = detail.endpoints :=
  board_agrees_iff byText recovered (by decide) rfl

/-- The board calls the first vendor operational and knows nothing of the second; both
lookups say degraded. -/
theorem board_differs :
    ¬ Agrees byText recovered acme ∧ ¬ Agrees byText recovered zeta := by
  constructor
  · intro ⟨_, all⟩
    obtain ⟨alone, found, status, _⟩ := all ⟨acme, "operational", []⟩ (.head _) rfl
    cases found
    exact absurd status (by decide)
  · intro ⟨_, all⟩
    obtain ⟨alone, found, status, _⟩ := all ⟨zeta, "unknown", []⟩ (.tail _ (.head _)) rfl
    cases found
    exact absurd status (by decide)

end Reliastra.Guarantees.VendorDetails
