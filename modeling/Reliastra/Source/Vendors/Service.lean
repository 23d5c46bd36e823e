import Reliastra.Source.Api.Community
import Reliastra.Source.Api.Listings
import Reliastra.Source.Observations.Schema

/-!
# Status of public vendors

`get_vendor_details_bulk` and `get_vendor_detail` of
`app/modules/vendors/service.py`, with the queries of the vendor, observation and
check repositories. A query leaves the database free in the order of equal rows, and
texts are ordered by its collation: `VendorQueries` is what it does with the rows
selected, the same in both functions.
-/

namespace Reliastra.Source.Vendors

open Reliastra.Library Api Observations

structure VendorDatabase where
  vendors : Table VendorTracking.id
  endpoints : Table VendorEndpoint.id
  dependencies : Table Dependency.id
  checkResults : List Observations.CheckResult
  observations : List Observation
  /-- The unique constraint on `vendor_name`. -/
  unique : ∀ v ∈ vendors.rows, ∀ other ∈ vendors.rows, v.vendorName = other.vendorName → v = other
  /-- `create` and the approval of a submission write names in lower case. -/
  lowered : ∀ v ∈ vendors.rows, Text.lower v.vendorName = v.vendorName

structure VendorDetail where
  vendor : VendorTracking
  recentStatus : String
  endpoints : List VendorEndpoint

structure VendorQueries (α : Type) where
  collation : Collation α
  newest : OrderBy (fun obs : Observation => -obs.timestamp)
  recent : OrderBy (fun result : Observations.CheckResult => -result.executedAt)

section Queries
variable {α : Type} [LinearOrder α] (q : VendorQueries α) (db : VendorDatabase)

/-- `list_public` without a limit. -/
def publicVendors : List VendorTracking := listPublic q.collation db.vendors none none

/-- `VendorRepository.get_by_name`. -/
def getByName (vendorName : String) : Option VendorTracking :=
  db.vendors.rows.find? (fun vendor => vendor.vendorName = Text.lower vendorName)

def listVendorEndpoints (vendorName : String) : List VendorEndpoint :=
  (db.endpoints.rows.filter (fun endpoint => ∃ vendor ∈ db.vendors.rows,
    endpoint.vendorId = vendor.id ∧ vendor.vendorName = Text.lower vendorName)).insertionSort
      (fun first second =>
        q.collation.sortKey first.endpointUrl ≤ q.collation.sortKey second.endpointUrl)

/-- `ObservationRepository.list_for_endpoints` for customer checks. -/
def listForEndpoints (endpointUrls : List String) (limit : Nat) : List Observation :=
  if endpointUrls = [] then []
  else (q.newest.arrange (db.observations.filter (fun obs =>
    obs.fields.endpointUrl ∈ endpointUrls ∧ obs.fields.sourceType = "customer_check"))).take limit

/-- `CheckRepository.get_vendor_recent_status`. -/
def getVendorRecentStatus (endpointUrl : String) (limit : Nat) : List Observations.CheckResult :=
  (q.recent.arrange (db.checkResults.filter (fun result => ∃ dep ∈ db.dependencies.rows,
    result.dependencyId = dep.id ∧ dep.endpointUrl = endpointUrl ∧ dep.isDeleted = false))).take limit

/-- `dict.fromkeys([vendor.endpoint_url] + ...)`. -/
def vendorUrls (vendor : VendorTracking) : List String :=
  (vendor.endpointUrl ::
    (listVendorEndpoints q db vendor.vendorName).map (·.endpointUrl)).eraseDups

end Queries

/-! ## The status of one vendor -/

/-- `item.error_type or item.status_code is None`. -/
def Failed (obs : Observation) : Prop :=
  nonempty obs.fields.errorType ≠ none ∨ obs.fields.statusCode = none

instance (obs : Observation) : Decidable (Failed obs) :=
  inferInstanceAs (Decidable (nonempty obs.fields.errorType ≠ none ∨ obs.fields.statusCode = none))

def observedStatus (observations : List Observation) : String :=
  if ∃ obs ∈ observations, Failed obs then "degraded" else "operational"

/-- The branch for legacy rows. -/
def legacyStatus (legacy : List Observations.CheckResult) : String :=
  if legacy ≠ [] ∧ ∀ result ∈ legacy, result.isUp then "operational"
  else if legacy ≠ [] then "degraded" else "unknown"

section Details
variable {α : Type} [LinearOrder α] (q : VendorQueries α) (db : VendorDatabase)

def recentStatus (vendor : VendorTracking) (observations : List Observation) : String :=
  if observations ≠ [] then observedStatus observations
  else legacyStatus (getVendorRecentStatus q db vendor.endpointUrl 5)

/-! ## `get_vendor_detail` -/

def getVendorDetail (vendorName : String) :
    Except Failure VendorDetail :=
  match getByName db vendorName with
  | none => .error (notFound ("Vendor '" ++ vendorName ++ "' not found"))
  | some vendor =>
    if vendor.isPublic then
      .ok ⟨vendor, recentStatus q db vendor (listForEndpoints q db (vendorUrls q db vendor) 5),
        listVendorEndpoints q db vendor.vendorName⟩
    else .error (notFound ("Vendor '" ++ vendorName ++ "' not found"))

/-! ## `get_vendor_details_bulk` -/

/-- Each URL of each vendor in the order of the loops. -/
def urlPairs : List (String × String) :=
  (publicVendors q db).flatMap (fun vendor =>
    (vendorUrls q db vendor).map (fun url => (url, vendor.vendorName)))

/-- `url_to_vendor.get(url)`: `setdefault` keeps the first vendor. -/
def urlToVendor (url : String) : Option String :=
  (urlPairs q db).lookup url

/-- The values of `latest_by_url`: the first observation of each URL. -/
def latestByUrl : List Observation → List Observation
  | [] => []
  | obs :: rest =>
    obs :: (latestByUrl rest).filter (fun other => other.fields.endpointUrl ≠ obs.fields.endpointUrl)

def vendorObservations (vendor : VendorTracking) : List Observation :=
  (latestByUrl (listForEndpoints q db ((urlPairs q db).map (·.1)) 200)).filter
    (fun obs => urlToVendor q db obs.fields.endpointUrl = some vendor.vendorName)

def getVendorDetailsBulk : List VendorDetail :=
  (publicVendors q db).map (fun vendor =>
    ⟨vendor, recentStatus q db vendor (vendorObservations q db vendor),
      listVendorEndpoints q db vendor.vendorName⟩)

end Details

end Reliastra.Source.Vendors
