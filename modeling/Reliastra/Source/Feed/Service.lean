import Reliastra.Library.Calendar
import Reliastra.Library.ElementTree
import Reliastra.Library.TimedCache
import Reliastra.Source.Api.Listings
import Reliastra.Source.Core.Http

/-!
# Feeds of the vendors' status

Source: `app/modules/feed/service.py` and `app/modules/feed/router.py`, behind the rate
limit. The status and the latency of a vendor are coroutines that nothing awaits, so what
a title and a summary show for them is how Python prints a coroutine; that text is one of
the inputs.
-/

namespace Reliastra.Source.Feed

open Reliastra.Library Api

/-! ## Dates as texts -/

/-- An instant in UTC, taken apart. -/
structure CivilTime where
  year : Int
  month : Int
  day : Int
  /-- Monday is 0. -/
  weekday : Int
  hour : Int
  minute : Int
  second : Int
  microsecond : Int

def civilTime (moment : Instant) : CivilTime :=
  let days := moment / daysToMicros 1
  let rest := moment % daysToMicros 1
  let (year, month) := yearMonthOfDay days
  -- the first of January 1970 is day 719163 of the calendar, and day 1 is a Monday
  let number := days + 719163
  { year := year
    month := month
    day := number - Calendar.dayNumber year month.toNat 0
    weekday := (number - 1) % 7
    hour := rest / secondsToMicros 3600
    minute := rest / secondsToMicros 60 % 60
    second := rest / secondsToMicros 1 % 60
    microsecond := rest % secondsToMicros 1 }

/-- `%Y-%m-%dT%H:%M:%S`, a year with four digits. -/
def dateAndTime (t : CivilTime) : String :=
  zeroPadded 4 t.year ++ "-" ++ zeroPadded 2 t.month ++ "-" ++ zeroPadded 2 t.day ++ "T" ++
    zeroPadded 2 t.hour ++ ":" ++ zeroPadded 2 t.minute ++ ":" ++ zeroPadded 2 t.second

/-- `datetime.isoformat()` in UTC. -/
def isoformat (moment : Instant) : String :=
  let t := civilTime moment
  let fraction := if t.microsecond = 0 then "" else "." ++ zeroPadded 6 t.microsecond
  dateAndTime t ++ fraction ++ "+00:00"

/-- `strftime("%Y-%m-%dT%H:%M:%S+00:00")`. -/
def atomTime (moment : Instant) : String := dateAndTime (civilTime moment) ++ "+00:00"

def weekdayNames : List String := ["Mon", "Tue", "Wed", "Thu", "Fri", "Sat", "Sun"]

def monthNames : List String :=
  ["Jan", "Feb", "Mar", "Apr", "May", "Jun", "Jul", "Aug", "Sep", "Oct", "Nov", "Dec"]

/-- `strftime("%a, %d %b %Y %H:%M:%S GMT")`. -/
def rssTime (moment : Instant) : String :=
  let t := civilTime moment
  weekdayNames.getD t.weekday.toNat "" ++ ", " ++ zeroPadded 2 t.day ++ " " ++
    monthNames.getD (t.month - 1).toNat "" ++ " " ++ zeroPadded 4 t.year ++ " " ++
    zeroPadded 2 t.hour ++ ":" ++ zeroPadded 2 t.minute ++ ":" ++ zeroPadded 2 t.second ++ " GMT"

/-- `str()` of an identifier. -/
def uuidText (id : Uuid) : String :=
  let digits := Nat.toDigits 16 id
  let padded := List.replicate (32 - digits.length) '0' ++ digits
  String.ofList (padded.take 8 ++ '-' :: (padded.drop 8).take 4 ++ '-' :: (padded.drop 12).take 4 ++
    '-' :: (padded.drop 16).take 4 ++ '-' :: padded.drop 20)

/-! ## Entries -/

/-- A row of `vendor_trackings` with the columns the feeds read. -/
structure FeedVendor extends VendorTracking where
  lastCheckAt : Option Instant
  updatedAt : Instant
  deriving DecidableEq, Repr

structure Entry where
  title : String
  id : String
  link : String
  updated : Instant
  summary : String
  deriving DecidableEq, Repr

/-- How Python prints the two coroutines made for a vendor. -/
structure Unawaited where
  status : String
  latency : String

def baseUrl : String := "https://reliastra.com"

def feedTitle : String := "Reliastra Vendor Status Feed"

def feedSubtitle : String := "Real-time status monitoring for tracked vendors"

/-- `vendor.last_check_at or vendor.updated_at`. -/
def FeedVendor.latestTs (vendor : FeedVendor) : Instant := vendor.lastCheckAt.getD vendor.updatedAt

/-- The entry of `generate_vendor_feed` for a vendor. -/
def vendorEntry (printed : Unawaited) (vendor : FeedVendor) : Entry where
  title := vendor.displayName ++ ": " ++ printed.status ++ " (latency: " ++ printed.latency ++ "ms)"
  id := "urn:reliastra:vendor:" ++ vendor.vendorName
  link := baseUrl ++ "/vendors/" ++ vendor.vendorName
  updated := vendor.latestTs
  summary := "Status: " ++ printed.status ++ ". Category: " ++ vendor.category ++
    ". Last checked: " ++ isoformat vendor.latestTs ++ "."

/-- The first entry of `generate_vendor_detail_feed`. -/
def currentEntry (printed : Unawaited) (vendor : FeedVendor) : Entry where
  title := vendor.displayName ++ ": " ++ printed.status ++ " (latency: " ++ printed.latency ++ "ms)"
  id := "urn:reliastra:vendor:" ++ vendor.vendorName ++ ":current"
  link := baseUrl ++ "/vendors/" ++ vendor.vendorName
  updated := vendor.latestTs
  summary := "Current status: " ++ printed.status ++ ". Category: " ++ vendor.category ++
    ". Last checked: " ++ isoformat vendor.latestTs ++ "."

/-- The value of the column `status`. -/
def statusText : Checks.IncidentStatus → String
  | .opened => "open"
  | .resolved => "resolved"
  | .falsePositive => "false_positive"

/-- `inc.description or inc.root_cause`. -/
def incidentReason (incident : Incident) : String :=
  match incident.description with
  | some description => if description = "" then incident.rootCause else description
  | none => incident.rootCause

def incidentEntry (vendor : FeedVendor) (incident : Incident) : Entry where
  title := vendor.displayName ++ ": " ++ Text.upper incident.severity ++ " incident" ++
    (if incident.resolvedAt.isSome then " [RESOLVED]" else " [ACTIVE]") ++ " — " ++
    incidentReason incident
  id := "urn:reliastra:incident:" ++ uuidText incident.id
  link := baseUrl ++ "/vendors/" ++ vendor.vendorName ++ "#incident-" ++ uuidText incident.id
  updated := incident.resolvedAt.getD incident.startedAt
  summary := "Severity: " ++ incident.severity ++ ". Status: " ++ statusText incident.status ++
    ". Started: " ++ isoformat incident.startedAt ++ "." ++
    (match incident.resolvedAt with
      | some resolved => " Resolved: " ++ isoformat resolved ++ "."
      | none => "")

/-- `max` over the entries; the clock where there is none. -/
def lastUpdated (now : Instant) : List Entry → Instant
  | [] => now
  | first :: rest => rest.foldl (fun latest e => max latest e.updated) first.updated

/-! ## Documents -/

open ElementTree

def textElement (tag : Tag) (text : String) : Element := ⟨tag, [], text.toList, .nil⟩

def atomNs : List Char := "http://www.w3.org/2005/Atom".toList

def atomTag (name : String) : Tag := ⟨atomNs, name.toList⟩

def linkElement (items : List (String × String)) : Element :=
  ⟨atomTag "link", items.map (fun item => (item.1.toList, item.2.toList)), [], .nil⟩

def atomEntry (e : Entry) : Element :=
  ⟨atomTag "entry", [], [], .ofElements
    [textElement (atomTag "title") e.title,
      textElement (atomTag "id") e.id,
      linkElement [("href", e.link)],
      textElement (atomTag "updated") (atomTime e.updated),
      textElement (atomTag "summary") e.summary]⟩

/-- The tree of `_build_atom`. -/
def atomTree (entries : List Entry) (updated : Instant) (title : String) : Element :=
  ⟨atomTag "feed", [], [], .ofElements
    (textElement (atomTag "title") title ::
      textElement (atomTag "subtitle") feedSubtitle ::
      linkElement [("href", baseUrl ++ "/feed/vendors"), ("rel", "self")] ::
      linkElement [("href", baseUrl)] ::
      textElement (atomTag "id") "urn:reliastra:feed:vendors" ::
      textElement (atomTag "updated") (atomTime updated) ::
      entries.map atomEntry)⟩

/-- `_build_atom`; an empty title is none. -/
def buildAtom (entries : List Entry) (updated : Instant) (title : Option String) : List Char :=
  (atomTree entries updated
    (match title with
      | some title => if title = "" then feedTitle else title
      | none => feedTitle)).toText

def rssTag (name : String) : Tag := ⟨[], name.toList⟩

def rssItem (e : Entry) : Element :=
  ⟨rssTag "item", [], [], .ofElements
    [textElement (rssTag "title") e.title,
      textElement (rssTag "link") e.link,
      ⟨rssTag "guid", [("isPermaLink".toList, "false".toList)], e.id.toList, .nil⟩,
      textElement (rssTag "description") e.summary,
      textElement (rssTag "pubDate") (rssTime e.updated)]⟩

def rssChannel (entries : List Entry) (updated : Instant) : Element :=
  ⟨rssTag "channel", [], [], .ofElements
    (textElement (rssTag "title") feedTitle ::
      textElement (rssTag "description") feedSubtitle ::
      textElement (rssTag "link") baseUrl ::
      textElement (rssTag "language") "en-us" ::
      textElement (rssTag "lastBuildDate") (rssTime updated) ::
      textElement (rssTag "generator") "Reliastra Feed Generator" ::
      entries.map rssItem)⟩

/-- The tree of `_build_rss`. -/
def rssTree (entries : List Entry) (updated : Instant) : Element :=
  ⟨rssTag "rss", [("version".toList, "2.0".toList)], [], .ofElements [rssChannel entries updated]⟩

def buildRss (entries : List Entry) (updated : Instant) : List Char :=
  (rssTree entries updated).toText

/-! ## Validators of a response -/

/-- `get_etag`, over `hashlib.sha256(...).hexdigest()`. -/
def getEtag (sha256Hex : String → String) (xml : List Char) : String :=
  "W/\"" ++ Text.slice (sha256Hex (String.ofList xml)) 32 ++ "\""

/-- `element is not None and element.text`. -/
def textOf (e : Option Element) : Option (List Char) :=
  (e.map Element.text).filter (fun text => text ≠ [])

/-- `find("channel/lastBuildDate")`. -/
def findLastBuild (root : Element) : Option Element :=
  (root.inner.elements.filter (fun e => e.tag = rssTag "channel")).findSome?
    (fun channel => channel.inner.find (rssTag "lastBuildDate"))

/-- `get_last_modified`; a document that cannot be parsed gives the time it is. -/
def getLastModified (xml : List Char) (now : Instant) : String :=
  match (fromText xml).bind (fun root =>
      (textOf (root.inner.find (atomTag "updated"))).or (textOf (findLastBuild root))) with
  | some text => String.ofList text
  | none => rssTime now

/-! ## The feed of all vendors -/

/-- `ORDER BY display_name`, as the database arranges rows of one name. -/
structure NameOrder {α : Type} [LinearOrder α] (collation : Collation α) where
  arrange : List FeedVendor → List FeedVendor
  perm : ∀ rows, (arrange rows).Perm rows
  sorted : ∀ rows, (arrange rows).Pairwise (fun first second =>
    collation.sortKey first.displayName ≤ collation.sortKey second.displayName)

/-- The vendors that a feed is about; an empty category is none. -/
def InFeed (category : Option String) (vendor : FeedVendor) : Prop :=
  vendor.isPublic = true ∧ ∀ wanted ∈ category, wanted = "" ∨ vendor.category = wanted

instance (category : Option String) : DecidablePred (InFeed category) := fun vendor =>
  inferInstanceAs (Decidable (vendor.isPublic = true ∧
    ∀ wanted ∈ category, wanted = "" ∨ vendor.category = wanted))

/-- The key of `_cache`. -/
structure FeedKey where
  formatType : String
  category : Option String
  deriving DecidableEq, Repr

/-- What a request reads outside the cache of its process. -/
structure FeedWorld where
  vendors : List FeedVendor
  now : Instant
  printed : Uuid → Unawaited

section Feed
variable {α : Type} [LinearOrder α] {collation : Collation α} (order : NameOrder collation)

def feedEntries (category : Option String) (queried formatted : FeedWorld) : List Entry :=
  (order.arrange (queried.vendors.filter (fun vendor => decide (InFeed category vendor)))).map
    (fun vendor => vendorEntry (formatted.printed vendor.id) vendor)

/-- The part of `generate_vendor_feed` behind the cache: the rows come from the query, the
clock and the coroutines from the time the entries are put together. -/
def vendorFeed (key : FeedKey) (queried formatted : FeedWorld) : List Char :=
  let entries := feedEntries order key.category queried formatted
  let updated := lastUpdated formatted.now entries
  if key.formatType = "rss" then buildRss entries updated else buildAtom entries updated none

/-- `_CACHE_TTL_SECONDS`. -/
def cacheTtl : Int := secondsToMicros 300

/-- `generate_vendor_feed` with its cache. -/
def feedRecipe : TimedCache.Recipe FeedKey FeedWorld FeedWorld (List Char) where
  readings _ := [id, id]
  assemble key
    | [queried, formatted] => vendorFeed order key queried formatted
    | _ => []
  fresh age := decide (age < cacheTtl)
  fresh_zero := rfl

end Feed

/-! ## The feed of one vendor -/

/-- `generate_vendor_detail_feed`; the incidents are the newest twenty of the dependencies
with the vendor's URL. -/
def vendorDetailFeed (incidentOrder : OrderBy (fun i : Incident => -i.startedAt))
    (world : FeedWorld) (dependencies : List Dependency) (incidents : List Incident)
    (vendorName : String) : Except Failure (List Char) :=
  match world.vendors.find? (fun v => v.vendorName = Text.lower vendorName ∧ v.isPublic = true) with
  | none => .error (.app (resourceNotFoundException ("Vendor '" ++ vendorName ++ "' not found")))
  | some vendor =>
    let depIds := (dependencies.filter (fun d => d.endpointUrl = vendor.endpointUrl)).map (·.id)
    let selected := (incidentOrder.arrange
      (incidents.filter (fun i => i.dependencyId ∈ depIds))).take 20
    let entries := currentEntry (world.printed vendor.id) vendor ::
      selected.map (incidentEntry vendor)
    .ok (buildAtom entries (lastUpdated world.now entries) (some (vendor.displayName ++ " Status Feed")))

/-! ## The router -/

def contentTypes : List (String × String) :=
  [("atom", "application/atom+xml; charset=utf-8"), ("rss", "application/rss+xml; charset=utf-8")]

/-- The key of `get_vendor_feed`, with the media type of its format. -/
def feedKey (format : String) (category : Option String) : Except Failure (FeedKey × String) :=
  let fmt := Text.strip (Text.lower format)
  match contentTypes.lookup fmt with
  | none => .error (.app (validationException
      ("Unsupported format '" ++ format ++ "'. Supported: atom, rss")))
  | some mediaType => .ok (⟨fmt, category⟩, mediaType)

structure FeedResponse where
  statusCode : Nat
  content : Option (List Char)
  mediaType : Option String
  headers : List (String × String)
  deriving DecidableEq, Repr

/-- The answer with a document, or that the caller's is still the one. -/
def feedResponse (sha256Hex : String → String) (mediaType : String) (xml : List Char)
    (ifNoneMatch : Option String) (now : Instant) : FeedResponse :=
  let etag := getEtag sha256Hex xml
  if ifNoneMatch = some etag then ⟨304, none, none, [("ETag", etag)]⟩
  else ⟨200, some xml, some mediaType, [("ETag", etag), ("Last-Modified", getLastModified xml now),
    ("Cache-Control", "public, max-age=300")]⟩

end Reliastra.Source.Feed
