import Reliastra.Source.Badges.Renderers
import Reliastra.Source.Core.Http
import Reliastra.Source.Vendors.Service

/-!
# Badges of a vendor

Source: `generate_badge_svg` of `app/modules/badges/service.py` and `get_vendor_badge` of
its router, after the rate limit. The image is cached and the cache read, but what is
read is not used, so the cache is left out; impressions are recorded outside the request.
-/

namespace Reliastra.Source.Badges

open Reliastra.Library Vendors Api Observations

/-- `_STATUS_COLORS.get(status, "#8b949e")`. -/
def statusColor (status : String) : String :=
  let colors := [("up", "#2ea043"), ("operational", "#2ea043"), ("degraded", "#d29922"),
    ("down", "#f85149"), ("outage", "#f85149"), ("unknown", "#8b949e"), ("maintenance", "#1f6feb")]
  (colors.lookup status).getD "#8b949e"

/-- `_STATUS_LABELS.get(status, "Unknown")`. -/
def statusLabel (status : String) : String :=
  let labels := [("up", "Operational"), ("operational", "Operational"), ("degraded", "Degraded"),
    ("down", "Down"), ("outage", "Outage"), ("unknown", "Unknown"), ("maintenance", "Maintenance")]
  (labels.lookup status).getD "Unknown"

/-- `str.lower()` and `str.upper()`. -/
structure TextCase where
  lower : String → String
  upper : String → String

/-- The status and the latency of the newest observation. -/
def badgeStatus (latest : Option Observation) : String × Option Rat :=
  match latest with
  | none => ("unknown", none)
  | some obs =>
    if obs.fields.statusCode ≠ none ∧ obs.fields.errorType = none then
      ("operational", some obs.fields.latencyMs)
    else ("degraded", none)

section Service
variable {α : Type} [LinearOrder α] (text : TextCase) (q : VendorQueries α) (db : VendorDatabase)

/-- `VendorRepository.get_by_name`; the server takes no text with a NUL. -/
def selectByName (vendorName : String) : Except Failure (Option VendorTracking) :=
  let name := text.lower vendorName
  if '\x00' ∈ name.toList then .error (.python "CharacterNotInRepertoireError")
  else .ok (db.vendors.rows.find? (fun vendor => vendor.vendorName = name))

/-- `ObservationRepository.get_latest_observation` for the URLs of a vendor. -/
def latestObservation (vendor : VendorTracking) : Option Observation :=
  (listForEndpoints q db (vendorUrls q db vendor) 1).head?

/-- What a badge is about: the name to show, the status and the latency. -/
structure BadgeSubject where
  displayName : String
  status : String
  latencyMs : Option Rat

def badgeSubject (vendorName : String) (vendor : Option VendorTracking) : BadgeSubject :=
  match vendor.filter (·.isPublic) with
  | none => ⟨vendorName, "unknown", none⟩
  | some vendor =>
    let (status, latencyMs) := badgeStatus (latestObservation q db vendor)
    ⟨vendor.displayName, status, latencyMs⟩

/-- The image of a badge; an unknown style is the flat one. -/
def badgeSvg (style label : String) (showLatency : Bool) (subject : BadgeSubject) : String :=
  ((BadgeStyle.ofText style).getD .flat).render text.upper
    ⟨label, statusLabel subject.status, statusColor subject.status, showLatency, subject.latencyMs⟩

/-- `generate_badge_svg`: the image, the status and the name. -/
def generateBadgeSvg (vendorName style label : String) (showLatency : Bool) :
    Except Failure (String × String × String) := do
  let vendor ← selectByName text db vendorName
  let subject := badgeSubject q db vendorName vendor
  .ok (badgeSvg text style label showLatency subject, subject.status, subject.displayName)

structure SvgResponse where
  content : String
  headers : List (String × String)

/-- `get_vendor_badge`. -/
def getVendorBadge (vendorName style label : String) (showLatency : Bool) :
    Except Failure SvgResponse := do
  let (svg, status, displayName) ← generateBadgeSvg text q db vendorName style label showLatency
  let headers ← initHeaders
    [("Cache-Control", "public, max-age=60, s-maxage=60"), ("X-Badge-Status", status),
      ("X-Vendor-Name", displayName)]
  .ok ⟨svg, headers⟩

/-- What the response says of a vendor that could be looked up. -/
def badgeHeaders (subject : BadgeSubject) : List (String × String) :=
  [("Cache-Control", "public, max-age=60, s-maxage=60"), ("X-Badge-Status", subject.status),
    ("X-Vendor-Name", subject.displayName)]

theorem getVendorBadge_eq_ok {vendorName style label : String} {showLatency : Bool}
    {response : SvgResponse}
    (success : getVendorBadge text q db vendorName style label showLatency = .ok response) :
    ∃ vendor, selectByName text db vendorName = .ok vendor ∧
      initHeaders (badgeHeaders (badgeSubject q db vendorName vendor)) = .ok response.headers := by
  obtain ⟨⟨svg, status, displayName⟩, generated, rest⟩ := bind_eq_ok success
  obtain ⟨vendor, selected, made⟩ := bind_eq_ok generated
  obtain ⟨headers, encoded, answered⟩ := bind_eq_ok rest
  cases made
  cases answered
  exact ⟨vendor, selected, encoded⟩

theorem getVendorBadge_of_headers {vendorName : String} {vendor : Option VendorTracking}
    {headers : List (String × String)} (selected : selectByName text db vendorName = .ok vendor)
    (encoded : initHeaders (badgeHeaders (badgeSubject q db vendorName vendor)) = .ok headers)
    (style label : String) (showLatency : Bool) :
    getVendorBadge text q db vendorName style label showLatency =
      .ok ⟨badgeSvg text style label showLatency (badgeSubject q db vendorName vendor), headers⟩ := by
  refine bind_eq_ok_iff.mpr ⟨_, bind_eq_ok_iff.mpr ⟨vendor, selected, rfl⟩, ?_⟩
  exact bind_eq_ok_iff.mpr ⟨headers, encoded, rfl⟩

theorem badgeStatus_known (latest : Option Observation) :
    (badgeStatus latest).1 ∈ ["unknown", "operational", "degraded"] := by
  unfold badgeStatus
  split
  · simp
  · split <;> simp

/-- A status is one of three words. -/
theorem badgeSubject_status (vendorName : String) (vendor : Option VendorTracking) :
    (badgeSubject q db vendorName vendor).status ∈ ["unknown", "operational", "degraded"] := by
  unfold badgeSubject
  cases vendor.filter (·.isPublic) with
  | none => simp
  | some vendor => exact badgeStatus_known _

end Service

end Reliastra.Source.Badges

/-!
## Embedding a badge

Source: `get_embed_code` of `app/modules/badges/service.py`, and `get_badge_embed_code` of
its router after the rate limit.
-/

namespace Reliastra.Source.Badges

open Vendors Api

def htmlEscapeChar (c : Char) : List Char :=
  if c = '&' then "&amp;".toList
  else if c = '<' then "&lt;".toList
  else if c = '>' then "&gt;".toList
  else if c = '"' then "&quot;".toList
  else if c = '\'' then "&#x27;".toList
  else [c]

theorem htmlEscapeChar_cases (c : Char) :
    c = '&' ∧ htmlEscapeChar c = "&amp;".toList ∨ c = '<' ∧ htmlEscapeChar c = "&lt;".toList ∨
      c = '>' ∧ htmlEscapeChar c = "&gt;".toList ∨ c = '"' ∧ htmlEscapeChar c = "&quot;".toList ∨
      c = '\'' ∧ htmlEscapeChar c = "&#x27;".toList ∨
      c ≠ '&' ∧ c ≠ '"' ∧ htmlEscapeChar c = [c] := by
  unfold htmlEscapeChar
  by_cases amp : c = '&'
  · exact Or.inl ⟨amp, if_pos amp⟩
  by_cases lt : c = '<'
  · simp [lt]
  by_cases gt : c = '>'
  · simp [gt]
  by_cases quote : c = '"'
  · simp [quote]
  by_cases apostrophe : c = '\''
  · simp [apostrophe]
  · simp [amp, lt, gt, quote, apostrophe]

/-- `html.escape`. -/
def htmlEscape (text : String) : String := String.ofList (text.toList.flatMap htmlEscapeChar)

structure BadgeEmbedResponse where
  html : String
  markdown : String
  url : String
  vendorName : String
  displayName : String
  status : String

/-- The address of a badge. The parameters are joined as HTML would have them. -/
def badgeUrl (baseUrl vendorName style label : String) (showLatency : Bool) : String :=
  let params := ["style=" ++ style, "label=" ++ label] ++
    if showLatency then ["show_latency=true"] else []
  baseUrl ++ "/v1/public/vendors/" ++ vendorName ++ "/badge.svg?" ++ "&amp;".intercalate params

def badgeHtml (url displayName status : String) : String :=
  "<img src=\"" ++ htmlEscape url ++ "\" alt=\"" ++ htmlEscape displayName ++ " status: " ++
    htmlEscape status ++ "\">"

section Service
variable {α : Type} [LinearOrder α] (text : TextCase) (q : VendorQueries α) (db : VendorDatabase)

/-- `get_embed_code`. -/
def getEmbedCode (vendorName style label : String) (showLatency : Bool) (baseUrl : String) :
    Except Failure BadgeEmbedResponse := do
  let (_, status, displayName) ← generateBadgeSvg text q db vendorName style label showLatency
  let url := badgeUrl baseUrl vendorName style label showLatency
  .ok
    { html := badgeHtml url displayName status
      markdown := "![" ++ displayName ++ " status: " ++ status ++ "](" ++ url ++ ")"
      url := url
      vendorName := vendorName
      displayName := displayName
      status := status }

/-- The default of `base_url`. -/
def reliastraUrl : String := "https://reliastra.com"

/-- `get_badge_embed_code`. -/
def getBadgeEmbedCode (vendorName style label : String) (showLatency : Bool) :
    Except Failure BadgeEmbedResponse :=
  getEmbedCode text q db vendorName style label showLatency reliastraUrl

/-- What a response says, whatever the name. -/
theorem getEmbedCode_eq_ok {vendorName style label baseUrl : String} {showLatency : Bool}
    {response : BadgeEmbedResponse}
    (success : getEmbedCode text q db vendorName style label showLatency baseUrl = .ok response) :
    response.url = badgeUrl baseUrl vendorName style label showLatency ∧
      response.html = badgeHtml response.url response.displayName response.status := by
  obtain ⟨⟨_, status, displayName⟩, _, made⟩ := bind_eq_ok success
  cases made
  exact ⟨rfl, rfl⟩

end Service

end Reliastra.Source.Badges
