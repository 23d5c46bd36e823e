import Reliastra.Source.Checks.TransportRequests

/-!
# The pinned transport and the ordinary one

The pinned transport passes the method, the target and the body on. It builds the
extensions anew, with the host name alone, so what the caller put there is lost:
the timeouts above all, which the HTTP client passes nowhere else. The headers go
through their text form, where a repeated name is joined.
-/

namespace Reliastra.Guarantees.TransparentTransport

open Reliastra.Source.Checks

/-- The request on a connection to the pinned address, under the name of the host. -/
def pinned (transport : PinnedTransport) (request : PoolRequest) : PoolRequest :=
  { request with
    origin := { request.origin with host := transport.ip }
    extensions :=
      Function.update request.extensions "sni_hostname" (some (.text transport.hostname)) }

/-- The pool sees what it would see of the ordinary transport, but for the address
and the name. -/
def Transparent (lib : HttpxLibrary) (transport : PinnedTransport) (request : HttpxRequest) :
    Prop :=
  (transport.handleAsyncRequest lib request).map CoreRequest.seen =
    (ordinaryRequest request).map (fun core => pinned transport core.seen)

/-- The bytes are those of their text in Latin-1. -/
def ReadsAsLatin1 (lib : HttpxLibrary) (request : HttpxRequest) (bytes : Bytes) : Prop :=
  encodeLatin1 (lib.decode request.headers bytes) = some bytes

structure PassesThrough (lib : HttpxLibrary) (transport : PinnedTransport)
    (request : HttpxRequest) : Prop where
  scheme : request.url.rawScheme = transport.scheme
  port : request.url.port.orElse (fun _ => defaultPort request.url.rawScheme) =
    some transport.port
  names : (request.headers.map Prod.fst).Nodup
  latin1 : ∀ header ∈ request.headers,
    ReadsAsLatin1 lib request header.1 ∧ ReadsAsLatin1 lib request header.2
  extensions : ∀ name, name ≠ "sni_hostname" → request.extensions name = none

variable (lib : HttpxLibrary) (transport : PinnedTransport) (request : HttpxRequest)

/-! ## Headers -/

theorem encodeHeaders_same_iff (read : Bytes → String) (headers : List Header) :
    encodeHeaders (headers.map (fun header => (read header.1, read header.2))) = some headers ↔
      ∀ header ∈ headers,
        encodeLatin1 (read header.1) = some header.1 ∧
          encodeLatin1 (read header.2) = some header.2 := by
  rw [encodeHeaders, mapM_eq_some_iff, List.forall₂_map_left_iff, List.forall₂_same]
  refine forall₂_congr (fun header _ => ?_)
  rcases header with ⟨name, value⟩
  cases encodedName : encodeLatin1 (read name) <;>
    cases encodedValue : encodeLatin1 (read value) <;> simp

/-- A name that occurs twice is not among the headers handed over. -/
theorem encodeHeaders_nodup {headers : List Header}
    (encoded : encodeHeaders (lib.items request.headers) = some headers) :
    (headers.map Prod.fst).Nodup := by
  have names := lib.joined request.headers
  rw [← encodeHeaders_reads encoded, List.map_map] at names
  have split : Prod.fst ∘ (fun header : Header => (latin1Text header.1, latin1Text header.2)) =
      latin1Text ∘ Prod.fst := rfl
  rw [split, ← List.map_map] at names
  exact List.Nodup.of_map latin1Text names

theorem headers_same_iff :
    encodeHeaders (lib.items request.headers) = some request.headers ↔
      (request.headers.map Prod.fst).Nodup ∧ ∀ header ∈ request.headers,
        ReadsAsLatin1 lib request header.1 ∧ ReadsAsLatin1 lib request header.2 := by
  constructor
  · intro encoded
    have names := encodeHeaders_nodup lib request encoded
    rw [lib.plain _ names, encodeHeaders_same_iff] at encoded
    exact ⟨names, encoded⟩
  · intro ⟨names, latin1⟩
    rw [lib.plain _ names, encodeHeaders_same_iff]
    exact latin1

/-! ## Extensions -/

theorem extensions_same_iff (hostname : Option Extension)
    (extensions : String → Option Extension) :
    (fun name => if name = "sni_hostname" then hostname else none) =
        Function.update extensions "sni_hostname" hostname ↔
      ∀ name, name ≠ "sni_hostname" → extensions name = none := by
  rw [Function.eq_update_iff]
  constructor
  · rintro ⟨-, others⟩ name other
    rw [← others name other, if_neg other]
  · intro empty
    refine ⟨if_pos rfl, fun name other => ?_⟩
    rw [if_neg other, empty name other]

/-- No timeout of the caller reaches the pool. -/
theorem timeouts_lost {core : CoreRequest}
    (handed : transport.handleAsyncRequest lib request = .ok core) :
    core.seen.timeouts = ⟨none, none, none, none⟩ := by
  unfold PinnedTransport.handleAsyncRequest at handed
  cases asserted : assertAsync request.stream with
  | error _ => rw [asserted] at handed; cases handed
  | ok _ =>
    cases encoded : encodeHeaders (lib.items request.headers) with
    | none => rw [asserted, encoded] at handed; cases handed
    | some headers =>
      rw [asserted, encoded] at handed
      obtain rfl := Except.ok.inj handed
      rfl

/-! ## Requests that pass -/

theorem transparent_of_sync (sync : request.stream.isAsync = false) :
    Transparent lib transport request := by
  have refused : assertAsync request.stream = .error "AssertionError" := by
    rw [assertAsync, sync]
    rfl
  rw [Transparent, PinnedTransport.handleAsyncRequest, ordinaryRequest, refused]
  rfl

/-- Once the headers are encoded the requests are compared field by field. -/
theorem transparent_iff_of_encoded {headers : List Header}
    (async : request.stream.isAsync = true)
    (encoded : encodeHeaders (lib.items request.headers) = some headers) :
    Transparent lib transport request ↔
      request.url.rawScheme = transport.scheme ∧
        request.url.port.orElse (fun _ => defaultPort request.url.rawScheme) =
          some transport.port ∧
        headers = request.headers ∧
        ∀ name, name ≠ "sni_hostname" → request.extensions name = none := by
  have asserted : assertAsync request.stream = .ok () := by
    rw [assertAsync, async]
    rfl
  have handed : (transport.handleAsyncRequest lib request).map CoreRequest.seen = .ok
      { method := request.method
        origin := ⟨transport.scheme, transport.ip, some transport.port⟩
        target := request.url.rawPath
        headers := headers
        content := request.stream
        extensions := fun name =>
          if name = "sni_hostname" then some (.text transport.hostname) else none } := by
    rw [PinnedTransport.handleAsyncRequest, asserted, encoded]
    rfl
  have ordinary : (ordinaryRequest request).map (fun core => pinned transport core.seen) = .ok
      { method := request.method
        origin := ⟨request.url.rawScheme, transport.ip,
          request.url.port.orElse (fun _ => defaultPort request.url.rawScheme)⟩
        target := request.url.rawPath
        headers := request.headers
        content := request.stream
        extensions :=
          Function.update request.extensions "sni_hostname" (some (.text transport.hostname)) } := by
    rw [ordinaryRequest, asserted]
    rfl
  rw [Transparent, handed, ordinary, Except.ok.injEq, PoolRequest.mk.injEq, Origin.mk.injEq,
    extensions_same_iff]
  constructor
  · rintro ⟨-, ⟨scheme, -, port⟩, -, same, -, extensions⟩
    exact ⟨scheme.symm, port.symm, same, extensions⟩
  · intro ⟨scheme, port, same, extensions⟩
    exact ⟨rfl, ⟨scheme.symm, rfl, port.symm⟩, rfl, same, rfl, extensions⟩

/-- The ordinary transport encodes no headers. -/
theorem not_transparent_of_unencoded (async : request.stream.isAsync = true)
    (failed : encodeHeaders (lib.items request.headers) = none) :
    ¬ Transparent lib transport request := by
  have asserted : assertAsync request.stream = .ok () := by
    rw [assertAsync, async]
    rfl
  rw [Transparent, PinnedTransport.handleAsyncRequest, ordinaryRequest, asserted, failed]
  intro same
  cases same

theorem transparent_iff_of_async (async : request.stream.isAsync = true) :
    Transparent lib transport request ↔ PassesThrough lib transport request := by
  cases encoded : encodeHeaders (lib.items request.headers) with
  | none =>
    constructor
    · intro same
      exact absurd same (not_transparent_of_unencoded lib transport request async encoded)
    · intro passes
      have same := (headers_same_iff lib request).mpr ⟨passes.names, passes.latin1⟩
      rw [encoded] at same
      cases same
  | some headers =>
    rw [transparent_iff_of_encoded lib transport request async encoded]
    constructor
    · rintro ⟨scheme, port, rfl, extensions⟩
      obtain ⟨names, latin1⟩ := (headers_same_iff lib request).mp encoded
      exact ⟨scheme, port, names, latin1, extensions⟩
    · intro passes
      have same := (headers_same_iff lib request).mpr ⟨passes.names, passes.latin1⟩
      rw [encoded] at same
      exact ⟨passes.scheme, passes.port, Option.some.inj same, passes.extensions⟩

/-- The pinned transport is transparent exactly for requests that name the scheme and
the port of the target, whose headers are distinct names in Latin-1, and that have no
extension but a host name. -/
theorem pinned_transparent_iff :
    Transparent lib transport request ↔
      (request.stream.isAsync = true → PassesThrough lib transport request) := by
  cases async : request.stream.isAsync with
  | false => simpa using transparent_of_sync lib transport request async
  | true => simpa using transparent_iff_of_async lib transport request async

/-! ## A request of a check -/

theorem latin1Text_injective : Function.Injective latin1Text := by
  intro first second same
  have read := encodeLatin1_latin1Text first
  rw [same, encodeLatin1_latin1Text] at read
  exact (Option.some.inj read).symm

private theorem filter_name {headers : List Header} (names : (headers.map Prod.fst).Nodup)
    {header : Header} (present : header ∈ headers) :
    headers.filter (fun other => other.1 = header.1) = [header] := by
  induction headers with
  | nil => cases present
  | cons first rest ih =>
    rw [List.map_cons, List.nodup_cons] at names
    rcases List.mem_cons.mp present with rfl | later
    · rw [List.filter_cons_of_pos (by simp), List.filter_eq_nil_iff.mpr]
      intro other member
      have named := List.mem_map_of_mem (f := Prod.fst) member
      simp only [decide_eq_true_eq]
      intro same
      exact names.1 (same ▸ named)
    · have named := List.mem_map_of_mem (f := Prod.fst) later
      rw [List.filter_cons_of_neg, ih names.2 later]
      simp only [decide_eq_true_eq]
      intro same
      exact names.1 (same ▸ named)

/-- A client that reads every header in Latin-1. -/
def latin1Library : HttpxLibrary where
  decode := fun _ bytes => latin1Text bytes
  items := fun headers => (headers.map Prod.fst).dedup.map (fun name =>
    (latin1Text name, ", ".intercalate
      ((headers.filter (fun header => header.1 = name)).map (fun header => latin1Text header.2))))
  joined := by
    intro headers
    have names := (headers.map Prod.fst).nodup_dedup.map latin1Text_injective
    simpa [List.map_map, Function.comp_def] using names
  plain := by
    intro headers names
    rw [List.dedup_eq_self.mpr names, List.map_map]
    refine List.map_congr_left (fun header present => ?_)
    simp [filter_name names present]

/-- `GET https://api.example.com/health`, with the timeouts of the client. -/
def healthRequest : HttpxRequest where
  method := "GET".toUTF8.toList
  url := ⟨"https", "api.example.com", none, "/health".toUTF8.toList⟩
  headers := []
  stream := ⟨true, []⟩
  extensions := fun name =>
    if name = "timeout" then some (.timeouts ⟨some 30, some 30, some 30, some 30⟩) else none

theorem health_request_altered :
    ¬ Transparent latin1Library ⟨"api.example.com", 443, true, "93.184.216.34"⟩ healthRequest := by
  rw [transparent_iff_of_async _ _ _ rfl]
  intro passes
  have none_left := passes.extensions "timeout" (by decide)
  cases none_left

end Reliastra.Guarantees.TransparentTransport
