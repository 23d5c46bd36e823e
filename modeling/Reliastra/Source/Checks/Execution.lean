import Reliastra.Source.Core.SsrfProtection
import Reliastra.Source.Observations.Schema

/-!
# The probe of a check and the rows it leaves

Source: `execute_check` and `_record_blocked_result` of
`app/modules/checks/service.py` up to the quorum, with the columns of
`app/modules/dependencies/models.py` and the constraints under which
`app/modules/dependencies/schemas.py` stores them. What the network does is an
input: an exchange may raise any exception, and name resolution may change
between two questions.
-/

namespace Reliastra.Source.Checks

open SsrfProtection Observations

/-! ## Dependencies -/

/-- `ALLOWED_REGIONS`. -/
def allowedRegions : List String := ["us-east", "eu-west", "ap-south", "sa-east"]

abbrev Region := { region : String // region ∈ allowedRegions }

/-- `HttpMethod`. -/
inductive HttpMethod where
  | get | head | post
  deriving DecidableEq, Repr

def HttpMethod.value : HttpMethod → String
  | .get => "GET"
  | .head => "HEAD"
  | .post => "POST"

/-- A stored dependency, with what its validators and columns guarantee. -/
structure StoredDependency extends Dependency where
  endpointUrl : String
  method : HttpMethod
  expectedStatusCodes : List Int
  urlScheme : Text.startsWith endpointUrl "http://" ∨ Text.startsWith endpointUrl "https://"
  urlFits : FitsText 500 endpointUrl

/-! ## The network -/

/-- A status line has three digits. -/
abbrev HttpStatus := Fin 1000

/-- One request. An exception is its text. -/
inductive Exchange where
  | raises (error : String)
  | response (status : HttpStatus) (location : Option String)
  deriving DecidableEq, Repr

/-- Name resolution for one target, asked twice, and the request to it. -/
structure Hop where
  resolve : Resolver
  pin : Resolver
  exchange : Exchange

/-- The target of the check is hop 0. -/
abbrev Network := Nat → Hop

/-! ## The probe -/

def maxRedirects : Nat := 5

def redirectStatuses : List Nat := [301, 302, 303, 307, 308]

/-- What a probe came to, with the status code the row gets. -/
structure ProbeReport where
  outcome : ProbeOutcome
  statusCode : Option Int
  deriving DecidableEq, Repr

/-- The response asks for another request. -/
def redirectTarget (status : HttpStatus) (location : Option String) : Option String :=
  if status.val ∈ redirectStatuses then location.filter (· ≠ "") else none

/-- The `while` loop, with the redirects it may still follow. -/
def followRedirects (lib : UrlLibrary) (net : Network) (dep : StoredDependency) :
    Nat → Nat → String → ProbeReport
  | left, hop, currentUrl =>
    match (net hop).exchange with
    | .raises error => ⟨.down error, none⟩
    | .response status location =>
      match redirectTarget status location with
      | none =>
        if (status.val : Int) ∈
            (if dep.expectedStatusCodes = [] then [200] else dep.expectedStatusCodes) then
          ⟨.up, some status.val⟩
        else ⟨.down ("Unexpected status code: " ++ toString status.val), some status.val⟩
      | some location =>
        match left with
        | 0 => ⟨.down ("Too many redirects (> " ++ toString maxRedirects ++ ")"), some status.val⟩
        | left + 1 =>
          match lib.urljoin currentUrl location with
          | .error error => ⟨.down error, none⟩
          | .ok nextUrl =>
            match resolvePinnedTarget lib (net (hop + 1)).resolve (net (hop + 1)).pin nextUrl with
            | .error refusal =>
              ⟨.down ("Redirect blocked by security policy: " ++ refusal.text), some status.val⟩
            | .ok _ => followRedirects lib net dep left (hop + 1) nextUrl

/-- What the loop can end in: an exception, an answer that is no redirect, one
redirect too many, or a target that is refused. -/
inductive Ended : ProbeReport → Prop
  | raised (error : String) : Ended ⟨.down error, none⟩
  | expected (status : HttpStatus) : Ended ⟨.up, some status.val⟩
  | unexpected (status : HttpStatus) :
      Ended ⟨.down ("Unexpected status code: " ++ toString status.val), some status.val⟩
  | tooMany (status : HttpStatus) :
      Ended ⟨.down ("Too many redirects (> " ++ toString maxRedirects ++ ")"), some status.val⟩
  | refused (status : HttpStatus) (refusal : Refusal) :
      Ended ⟨.down ("Redirect blocked by security policy: " ++ refusal.text), some status.val⟩

theorem ended_answer (asExpected : Prop) [Decidable asExpected] (status : HttpStatus) :
    Ended (if asExpected then ⟨.up, some (status.val : Int)⟩
      else ⟨.down ("Unexpected status code: " ++ toString status.val), some status.val⟩) := by
  split
  · exact .expected status
  · exact .unexpected status

theorem followRedirects_ended (lib : UrlLibrary) (net : Network) (dep : StoredDependency)
    (left hop : Nat) (currentUrl : String) :
    Ended (followRedirects lib net dep left hop currentUrl) := by
  induction left generalizing hop currentUrl with
  | zero =>
    unfold followRedirects
    cases (net hop).exchange with
    | raises error => exact .raised error
    | response status location =>
      dsimp only
      split
      · exact ended_answer _ status
      · exact .tooMany status
  | succ left ih =>
    unfold followRedirects
    cases (net hop).exchange with
    | raises error => exact .raised error
    | response status location =>
      dsimp only
      split
      · exact ended_answer _ status
      · next location _ =>
        cases lib.urljoin currentUrl location with
        | error error => exact .raised error
        | ok nextUrl =>
          dsimp only
          split
          · next refusal _ => exact .refused status refusal
          · exact ih (hop + 1) nextUrl

def probeDependency (lib : UrlLibrary) (net : Network) (dep : StoredDependency) : ProbeReport :=
  match resolvePinnedTarget lib (net 0).resolve (net 0).pin dep.endpointUrl with
  | .error refusal => ⟨.blocked refusal.text, none⟩
  | .ok _ => followRedirects lib net dep maxRedirects 0 dep.endpointUrl

/-- The row `CheckRepository.create` gets; a blocked check takes no time. -/
def checkRow (dep : StoredDependency) (region : Region) (report : ProbeReport) (now : Instant)
    (elapsedMs : Rat) (newId : Uuid) : Observations.CheckResult :=
  { Probe.result ⟨region.val, report.outcome⟩ dep.toDependency now with
    id := newId
    latencyMs :=
      match report.outcome with
      | .blocked _ => 0
      | _ => elapsedMs
    statusCode := report.statusCode }

/-! ## What the rows need -/

/-- The database takes the check result and the observation that the outbox
makes of it. -/
def Recordable (codec : PayloadCodec) (dep : StoredDependency) (result : Observations.CheckResult) :
    Prop :=
  result.Fits ∧ ∃ dto ∈ observationCreateDTO
    (checkObservation codec result dep.endpointUrl dep.method.value),
    dto.val.Storable [dep.orgId]

end Reliastra.Source.Checks
