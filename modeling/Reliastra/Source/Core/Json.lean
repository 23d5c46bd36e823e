import Reliastra.Source.Core.Basics

/-!
# JSON documents as Python handles them

A document is what `json.loads` returns, and the operations are the ones the
source applies to it without knowing its shape: `dict.get`, truth, `or`,
`str()` and `int()`. A number with a fraction or an exponent carries what these
observe of it, its text and what `int()` makes of it.

`Runtime` collects functions of Python's library that are used on foreign text.
Nothing is assumed about them.
-/

namespace Reliastra.Source

inductive Json where
  | null
  | bool (value : Bool)
  | int (value : Int)
  | float (text : String) (truncated : Option Int)
  | str (value : String)
  | arr (elements : List Json)
  | obj (members : List (String × Json))

structure Runtime where
  /-- `str()` of a list or a dict. -/
  containerText : Json → String
  /-- `uuid.UUID(text)`; `none` is `ValueError`. -/
  uuidOfText : String → Option Uuid
  /-- `int(text)`; `none` is `ValueError`. -/
  intOfText : String → Option Int
  /-- `datetime.fromisoformat(text)`; `none` is `ValueError`. -/
  fromisoformat : String → Option Instant
  /-- `hmac.new(secret, body, hashlib.sha512).hexdigest()`. -/
  hmacSha512Hex : String → String → String

namespace Json

/-- `x if isinstance(x, dict) else {}`. -/
def asDict : Json → Json
  | .obj members => .obj members
  | _ => .obj []

/-- `dict.get(key)`; `None` where the key is missing. -/
def get (document : Json) (key : String) : Json :=
  match document with
  | .obj members => (members.lookup key).getD .null
  | _ => .null

/-- The truth value of an object. -/
def truthy : Json → Bool
  | .null => false
  | .bool value => value
  | .int value => value != 0
  | .float text _ => text != "0.0" && text != "-0.0"
  | .str value => value != ""
  | .arr elements => !elements.isEmpty
  | .obj members => !members.isEmpty

/-- `first or second`. -/
def orElse (first second : Json) : Json := if first.truthy then first else second

/-- `str(x)`. -/
def text (host : Runtime) : Json → String
  | .null => "None"
  | .bool value => if value then "True" else "False"
  | .int value => toString value
  | .float text _ => text
  | .str value => value
  | .arr elements => host.containerText (.arr elements)
  | .obj members => host.containerText (.obj members)

/-- `int(x)`. -/
def toInt (host : Runtime) : Json → Except Failure Int
  | .bool value => .ok (if value then 1 else 0)
  | .int value => .ok value
  | .float _ truncated => match truncated with
    | some value => .ok value
    | none => .error (.python "OverflowError")
  | .str value => match host.intOfText value with
    | some value => .ok value
    | none => .error (.python "ValueError")
  | _ => .error (.python "TypeError")

end Json

end Reliastra.Source
