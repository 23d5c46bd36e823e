import Reliastra.Guarantees.VendorDetails
import Reliastra.Source.TimelineShare.Service

/-!
# Shared images match their requests

A call for a public vendor should return the rendering for its own parameters, over a
timeline fetched at most the lifetime of the cache ago. The renderer is no coroutine and
is awaited like one, so every call that gets to it raises, and nothing is ever cached.
-/

namespace Reliastra.Guarantees.SharedImages

open Reliastra.Library Source Source.Api Source.Vendors Source.TimelineShare

section Share
variable {α : Type} [LinearOrder α] (lib : ShareLibrary) (q : TimelineQueries α)
  (db : TimelineDatabase)

/-- The state after some operations of a process. -/
def after (before : List ShareOp) : ShareState :=
  Run.exec (shareStep lib q) (.starting db) before

/-- The call is for a vendor that is stored and public. -/
def ForPublicVendor (s : ShareState) (call : PngCall) : Prop :=
  ∃ vendor, getByName s.timeline.db.toVendorDatabase call.vendorName = some vendor ∧
    vendor.isPublic = true

/-- A timeline that a call of the process fetched for the vendor, window and region. -/
def Fetched (before : List ShareOp) (call : PngCall) (points : List TimelineBucket)
    (fetchedAt : Int) : Prop :=
  ∃ earlier fetcher, earlier ++ [.call fetcher] <+: before ++ [.call call] ∧
    pngKey lib fetcher = pngKey lib call ∧ fetcher.checkedAt = fetchedAt ∧
    ∃ entry, (getVendorTimeline q (after lib q db earlier).timeline (timelineRequest fetcher)).1 =
      .ok entry ∧ entry.response.points = points

/-- The call returns the rendering for its own parameters of a timeline that is at most
the lifetime of the cache old. -/
def ReturnsOwnImage (before : List ShareOp) (call : PngCall) : Prop :=
  ∃ pngBytes points fetchedAt displayName renderedAt,
    (generateTimelinePng lib q (after lib q db before) call).1 = .ok (pngBytes, "image/png") ∧
      Fetched lib q db before call points fetchedAt ∧ call.checkedAt - fetchedAt ≤ pngCacheTtl ∧
      lib.renderChart (chartInput call displayName points) renderedAt = .ok pngBytes

/-- Every call for a public vendor returns its own image. -/
def ImagesMatch (run : List ShareOp) : Prop :=
  ∀ before call behind, run = before ++ .call call :: behind →
    ForPublicVendor (after lib q db before) call → ReturnsOwnImage lib q db before call

theorem not_returnsOwnImage (before : List ShareOp) (call : PngCall) :
    ¬ ReturnsOwnImage lib q db before call := by
  intro ⟨pngBytes, _, _, _, _, answered, _⟩
  exact (generateTimelinePng_raises lib q (nothingCached_exec lib q db before) call).1 _ answered

theorem imagesMatch_iff (run : List ShareOp) :
    ImagesMatch lib q db run ↔ ∀ before call behind, run = before ++ .call call :: behind →
      ¬ ForPublicVendor (after lib q db before) call := by
  constructor
  · intro all before call behind split vendor
    exact not_returnsOwnImage lib q db before call (all before call behind split vendor)
  · intro none before call behind split vendor
    exact absurd vendor (none before call behind split)

end Share

/-- In every sequence of calls, among whatever else changes the tables, images match
their requests exactly when no call is for a vendor that exists and is public. -/
theorem shared_images_iff {α : Type} [LinearOrder α] (lib : ShareLibrary) (q : TimelineQueries α)
    (db : TimelineDatabase) (run : List ShareOp) :
    ImagesMatch lib q db run ↔ ∀ before call behind, run = before ++ .call call :: behind →
      ¬ ForPublicVendor (after lib q db before) call :=
  imagesMatch_iff lib q db run

/-! ## One call for a public vendor -/

/-- A renderer that always succeeds. -/
def blankCharts : ShareLibrary := ⟨fun _ _ => .ok [137, 80, 78, 71], Text.lower, id⟩

def imageQueries : TimelineQueries String where
  toVendorQueries := VendorDetails.byText
  byStart := OrderBy.stable _
  average _ := 0
  round2 := id

def publicVendors : TimelineDatabase := { VendorDetails.recovered with incidents := .empty }

def acmePng : PngCall :=
  ⟨"acme", "24h", "us-east", 1200, 630, true, none, secondsToMicros 60, 0, 0, true, true⟩

theorem acme_image_fails : ¬ ImagesMatch blankCharts imageQueries publicVendors [.call acmePng] := by
  rw [imagesMatch_iff]
  intro none
  refine none [] acmePng [] rfl ⟨VendorDetails.acme, ?_, rfl⟩
  decide +kernel

end Reliastra.Guarantees.SharedImages
