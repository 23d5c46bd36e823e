import Reliastra.Source.Vendors.Timeline

/-!
# Shared timeline images

Source: `generate_timeline_png`, `_fetch_timeline_data`, `_get_vendor_display_name` and
`_prune_cache` of `app/modules/timeline_share/service.py`. The image library is a
parameter. `_render_chart` is a plain function and its result is awaited, so what `await`
does with a value is part of the model.
-/

namespace Reliastra.Source.TimelineShare

open Reliastra.Library Vendors Api

abbrev Bytes := List UInt8

/-- The keyword arguments of `_render_chart`. -/
structure ChartInput where
  displayName : String
  window : String
  region : String
  width : Int
  height : Int
  includeQr : Bool
  utmSource : Option String
  vendorName : String
  points : List TimelineBucket
  deriving DecidableEq

/-- What the service calls outside the repository. -/
structure ShareLibrary where
  /-- `_render_chart` at an instant, which the footer of the image shows. -/
  renderChart : ChartInput → Instant → Except Failure Bytes
  /-- `str.lower()`. -/
  lower : String → String
  /-- `vendor_name.replace("-", " ").title()`. -/
  title : String → String

/-- The arguments of a call, and its readings of the clocks. -/
structure PngCall where
  vendorName : String
  window : String
  region : String
  width : Int
  height : Int
  includeQr : Bool
  utmSource : Option String
  now : Instant
  /-- `time.monotonic()` at the cache, and at its pruning. -/
  checkedAt : Int
  prunedAt : Int
  redisReads : Bool
  redisWrites : Bool

/-- The key of `_png_cache`. -/
structure PngKey where
  vendorName : String
  window : String
  region : String
  deriving DecidableEq

structure ShareState where
  timeline : TimelineState
  pngCache : PngKey → Option (Bytes × Int)

/-- `_PNG_CACHE_TTL_SECONDS`. -/
def pngCacheTtl : Int := secondsToMicros 300

/-! ## Awaiting -/

/-- What an expression under `await` can be: something awaitable with its outcome, or
any other object. -/
inductive Awaited (α : Type) where
  | awaitable (outcome : Except Failure α)
  | plain (value : α)

/-- `await`: an object that is not awaitable is a `TypeError`. -/
def Awaited.await {α : Type} : Awaited α → Except Failure α
  | .awaitable outcome => outcome
  | .plain _ => .error (.python "TypeError")

/-! ## The call -/

def pngKey (lib : ShareLibrary) (call : PngCall) : PngKey :=
  ⟨lib.lower call.vendorName, call.window, call.region⟩

/-- The timeline `_fetch_timeline_data` asks for. -/
def timelineRequest (call : PngCall) : TimelineRequest where
  vendorName := call.vendorName
  window := call.window
  resolution := "auto"
  region := some call.region
  now := call.now
  redisReads := call.redisReads
  redisWrites := call.redisWrites

def vendorDisplayName (lib : ShareLibrary) (db : VendorDatabase) (vendorName : String) : String :=
  match getByName db vendorName with
  | some vendor => vendor.displayName
  | none => lib.title vendorName

def chartInput (call : PngCall) (displayName : String) (points : List TimelineBucket) : ChartInput :=
  ⟨displayName, call.window, call.region, call.width, call.height, call.includeQr, call.utmSource,
    call.vendorName, points⟩

/-- `_prune_cache`. -/
def pruneCache (cache : PngKey → Option (Bytes × Int)) (now : Int) : PngKey → Option (Bytes × Int) :=
  fun key => (cache key).filter (fun entry => now - entry.2 < pngCacheTtl)

section Share
variable {α : Type} [LinearOrder α] (lib : ShareLibrary) (q : TimelineQueries α)

/-- The part after the cache: fetch, render, await, store. -/
def generateFresh (s : ShareState) (call : PngCall) : Except Failure (Bytes × String) × ShareState :=
  let (answer, timeline) := getVendorTimeline q s.timeline (timelineRequest call)
  let fetched := { s with timeline := timeline }
  match answer with
  | .error failure => (.error failure, fetched)
  | .ok entry =>
    let displayName := vendorDisplayName lib timeline.db.toVendorDatabase call.vendorName
    match lib.renderChart (chartInput call displayName entry.response.points) call.now with
    | .error failure => (.error failure, fetched)
    | .ok rendered =>
      match (Awaited.plain rendered).await with
      | .error failure => (.error failure, fetched)
      | .ok pngBytes =>
        let stored := Function.update s.pngCache (pngKey lib call) (some (pngBytes, call.prunedAt))
        (.ok (pngBytes, "image/png"),
          { fetched with pngCache := pruneCache stored call.prunedAt })

/-- `generate_timeline_png`. -/
def generateTimelinePng (s : ShareState) (call : PngCall) :
    Except Failure (Bytes × String) × ShareState :=
  match s.pngCache (pngKey lib call) with
  | some (cachedBytes, cachedAt) =>
    if call.checkedAt - cachedAt < pngCacheTtl then (.ok (cachedBytes, "image/png"), s)
    else
      let evicted := { s with pngCache := Function.update s.pngCache (pngKey lib call) none }
      generateFresh lib q evicted call
  | none => generateFresh lib q s call

/-! ## Runs -/

inductive ShareOp where
  | call (call : PngCall)
  /-- What other requests do to the tables and to Redis. -/
  | timeline (op : TimelineOp)

def shareStep (s : ShareState) : ShareOp → ShareState
  | .call call => (generateTimelinePng lib q s call).2
  | .timeline op => { s with timeline := timelineStep q s.timeline op }

/-- A process that has just started, with Redis empty. -/
def ShareState.starting (db : TimelineDatabase) : ShareState := ⟨⟨db, fun _ => none⟩, fun _ => none⟩

/-- Without a cached image no call returns one, and none is cached. -/
theorem generateTimelinePng_raises {s : ShareState} (empty : s.pngCache = fun _ => none)
    (call : PngCall) : (∀ answer, (generateTimelinePng lib q s call).1 ≠ .ok answer) ∧
      (generateTimelinePng lib q s call).2.pngCache = fun _ => none := by
  have missed : s.pngCache (pngKey lib call) = none := by rw [empty]
  unfold generateTimelinePng
  rw [missed]
  dsimp only
  unfold generateFresh
  dsimp only
  cases (getVendorTimeline q s.timeline (timelineRequest call)).1 with
  | error failure => exact ⟨by simp, empty⟩
  | ok entry =>
    dsimp only
    cases lib.renderChart _ call.now with
    | error failure => exact ⟨by simp, empty⟩
    | ok rendered => exact ⟨by simp [Awaited.await], empty⟩

def NothingCached (s : ShareState) : Prop := s.pngCache = fun _ => none

/-- No run ever caches an image. -/
theorem nothingCached_exec (db : TimelineDatabase) (run : List ShareOp) :
    NothingCached (Run.exec (shareStep lib q) (.starting db) run) := by
  have keeps (s : ShareState) (op : ShareOp) (empty : NothingCached s) :
      NothingCached (shareStep lib q s op) := by
    cases op with
    | call call => exact (generateTimelinePng_raises lib q empty call).2
    | timeline op => exact empty
  exact Run.exec_invariant keeps _ run rfl

end Share

end Reliastra.Source.TimelineShare
