import Mathlib.Logic.Function.Basic
import Reliastra.Source.Checks.PinnedProbe
import Reliastra.Source.Core.Json

/-!
# The request a transport hands to the connection pool

Source: `_PinnedIPTransport.handle_async_request` of `app/core/ssrf_protection.py`.
Beside it is what the transport of `httpx` hands over for the same request: its
method, URL, raw headers, stream and extensions as they are.

Schemes and hosts are ASCII texts, and header names are in lower case: HTTP does
not tell cases apart. The text form of a header list belongs to the HTTP client and
is a parameter, with what its documentation says of it.
-/

namespace Reliastra.Source.Checks

open SsrfProtection

abbrev Bytes := List UInt8

abbrev Header := Bytes × Bytes

/-! ## Requests -/

structure ByteStream where
  /-- It is an `httpx.AsyncByteStream`. -/
  isAsync : Bool
  chunks : List Bytes
  deriving DecidableEq, Repr

/-- The limits on connecting, reading, writing and waiting for a connection, in
microseconds. -/
structure Timeouts where
  connect : Option Nat
  read : Option Nat
  write : Option Nat
  pool : Option Nat
  deriving DecidableEq, Repr

/-- A value of `request.extensions`. -/
inductive Extension where
  | text (value : String)
  | timeouts (value : Timeouts)
  | other (value : Json)

/-- `httpx.URL`; `raw_path` is the path with the query. -/
structure HttpxUrl where
  rawScheme : String
  rawHost : String
  port : Option Nat
  rawPath : Bytes
  deriving DecidableEq, Repr

structure HttpxRequest where
  method : Bytes
  url : HttpxUrl
  /-- `headers.raw`. -/
  headers : List Header
  stream : ByteStream
  extensions : String → Option Extension

/-- `httpcore.URL`. -/
structure CoreUrl where
  scheme : String
  host : String
  port : Option Nat
  target : Bytes
  deriving DecidableEq, Repr

/-- `httpcore.Request`. -/
structure CoreRequest where
  method : Bytes
  url : CoreUrl
  headers : List Header
  content : ByteStream
  extensions : String → Option Extension

structure Origin where
  scheme : String
  host : String
  port : Option Nat
  deriving DecidableEq, Repr

def defaultPort (scheme : String) : Option Nat :=
  if scheme = "https" then some 443 else if scheme = "http" then some 80 else none

/-- The key of a pooled connection. -/
def CoreUrl.origin (url : CoreUrl) : Origin :=
  ⟨url.scheme, url.host, url.port.orElse (fun _ => defaultPort url.scheme)⟩

/-! ## Header lists as texts -/

structure HttpxLibrary where
  /-- The text of bytes in the encoding guessed for a header list. -/
  decode : List Header → Bytes → String
  /-- `Headers.items()`. -/
  items : List Header → List (String × String)
  /-- The values of a name that occurs several times are joined into one. -/
  joined : ∀ headers, ((items headers).map Prod.fst).Nodup
  /-- Names that occur once each stand with their values. -/
  plain : ∀ headers, (headers.map Prod.fst).Nodup →
    items headers = headers.map (fun header => (decode headers header.1, decode headers header.2))

/-- `text.encode("latin-1")`; `none` is a `UnicodeEncodeError`. -/
def encodeLatin1 (text : String) : Option Bytes :=
  text.toList.mapM (fun c => if c.toNat < 256 then some (UInt8.ofNat c.toNat) else none)

/-- `[(k.encode("latin-1"), v.encode("latin-1")) for k, v in items]`. -/
def encodeHeaders (items : List (String × String)) : Option (List Header) :=
  items.mapM (fun item => do
    let name ← encodeLatin1 item.1
    let value ← encodeLatin1 item.2
    return (name, value))

/-- Bytes read as Latin-1. -/
def latin1Text (bytes : Bytes) : String :=
  String.ofList (bytes.map (fun byte => Char.ofNat byte.toNat))

theorem mapM_eq_some_iff {α β : Type} (f : α → Option β) (xs : List α) (ys : List β) :
    xs.mapM f = some ys ↔ List.Forall₂ (fun x y => f x = some y) xs ys := by
  induction xs generalizing ys with
  | nil => cases ys <;> simp
  | cons x rest ih =>
    rw [List.mapM_cons]
    cases first : f x with
    | none => cases ys <;> simp [first]
    | some y =>
      cases later : rest.mapM f with
      | none =>
        cases ys with
        | nil => simp
        | cons z zs => simp [← ih, later]
      | some tail =>
        cases ys with
        | nil => simp
        | cons z zs => simp [← ih, first, later]

/-- What is undone item by item is undone for the list. -/
theorem map_of_mapM {α β : Type} {f : α → Option β} {g : β → α}
    (undone : ∀ x y, f x = some y → g y = x) {xs : List α} {ys : List β}
    (mapped : xs.mapM f = some ys) : ys.map g = xs := by
  rw [mapM_eq_some_iff] at mapped
  induction mapped with
  | nil => rfl
  | cons first _ ih => rw [List.map_cons, undone _ _ first, ih]

theorem encodeLatin1_reads {text : String} {bytes : Bytes}
    (encoded : encodeLatin1 text = some bytes) : latin1Text bytes = text := by
  have undone : ∀ (c : Char) (byte : UInt8),
      (if c.toNat < 256 then some (UInt8.ofNat c.toNat) else none) = some byte →
      Char.ofNat byte.toNat = c := by
    intro c byte one
    split at one
    · next small =>
      obtain rfl := Option.some.inj one
      rw [UInt8.toNat_ofNat_of_lt' small, Char.ofNat_toNat]
    · cases one
  rw [latin1Text, map_of_mapM undone encoded, String.ofList_toList]

theorem encodeLatin1_latin1Text (bytes : Bytes) : encodeLatin1 (latin1Text bytes) = some bytes := by
  rw [encodeLatin1, latin1Text, String.toList_ofList, mapM_eq_some_iff, List.forall₂_map_left_iff,
    List.forall₂_same]
  intro byte _
  have small : byte.toNat < 256 := byte.toNat_lt
  have valid : byte.toNat.isValidChar := .inl (by omega)
  have same : (Char.ofNat byte.toNat).toNat = byte.toNat := by
    rw [Char.ofNat, dif_pos valid]
    rfl
  rw [same, if_pos small, UInt8.ofNat_toNat]

theorem encodeHeaders_reads {items : List (String × String)} {headers : List Header}
    (encoded : encodeHeaders items = some headers) :
    headers.map (fun header => (latin1Text header.1, latin1Text header.2)) = items := by
  refine map_of_mapM ?_ encoded
  intro ⟨name, value⟩ ⟨nameBytes, valueBytes⟩ one
  simp only [Option.bind_eq_bind, Option.bind_eq_some_iff, Option.pure_def, Option.some.injEq,
    Prod.mk.injEq] at one
  obtain ⟨_, encodedName, _, encodedValue, rfl, rfl⟩ := one
  rw [encodeLatin1_reads encodedName, encodeLatin1_reads encodedValue]

/-! ## The two transports -/

/-- `assert isinstance(request.stream, httpx.AsyncByteStream)`. -/
def assertAsync (stream : ByteStream) : Except String Unit :=
  if stream.isAsync then .ok () else .error "AssertionError"

/-- `httpx.AsyncHTTPTransport.handle_async_request`, up to the pool. -/
def ordinaryRequest (request : HttpxRequest) : Except String CoreRequest := do
  assertAsync request.stream
  return {
    method := request.method
    url := ⟨request.url.rawScheme, request.url.rawHost, request.url.port, request.url.rawPath⟩
    headers := request.headers
    content := request.stream
    extensions := request.extensions }

/-- The scheme of `_origin`. -/
def PinnedTransport.scheme (transport : PinnedTransport) : String :=
  if transport.useSsl then "https" else "http"

/-- `_PinnedIPTransport.handle_async_request`, up to the pool. -/
def PinnedTransport.handleAsyncRequest (lib : HttpxLibrary) (transport : PinnedTransport)
    (request : HttpxRequest) : Except String CoreRequest := do
  assertAsync request.stream
  match encodeHeaders (lib.items request.headers) with
  | none => .error "UnicodeEncodeError"
  | some headers =>
    return {
      method := request.method
      url := ⟨transport.scheme, transport.ip, some transport.port, request.url.rawPath⟩
      headers := headers
      content := request.stream
      extensions := fun name =>
        if name = "sni_hostname" then some (.text transport.hostname) else none }

/-! ## What the pool makes of a request -/

/-- The pool reads the origin of a URL, and its target. -/
structure PoolRequest where
  method : Bytes
  origin : Origin
  target : Bytes
  headers : List Header
  content : ByteStream
  extensions : String → Option Extension

def CoreRequest.seen (request : CoreRequest) : PoolRequest where
  method := request.method
  origin := request.url.origin
  target := request.url.target
  headers := request.headers
  content := request.content
  extensions := request.extensions

/-- `httpcore` applies the timeouts it finds among the extensions, and no others. -/
def PoolRequest.timeouts (request : PoolRequest) : Timeouts :=
  match request.extensions "timeout" with
  | some (.timeouts timeouts) => timeouts
  | _ => ⟨none, none, none, none⟩

end Reliastra.Source.Checks
