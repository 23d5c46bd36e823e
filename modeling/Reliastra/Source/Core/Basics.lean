import Mathlib.Algebra.Group.Int.Defs
import Mathlib.Algebra.Group.Nat.Defs
import Mathlib.Algebra.GroupWithZero.Nat

/-!
# Identifiers, instants and failures shared by the modules

Source: `app/core/exceptions.py`, `app/db/base.py`. Row identifiers are the
values `uuid.uuid4()` returns; the model receives each new one as an input of
the operation, so a collision is one of the inputs it has to answer. An instant
is the number of microseconds since the Unix epoch, the resolution of
`datetime`, and one operation reads its clock once.
-/

namespace Reliastra.Source

abbrev Uuid := Nat

abbrev Instant := Int

def secondsToMicros (seconds : Int) : Int := seconds * 1000000

def daysToMicros (days : Int) : Int := secondsToMicros (days * 86400)

/-- `AppException`: the response an exception handler turns it into. -/
structure AppException where
  message : String
  statusCode : Nat
  code : String
  deriving DecidableEq, Repr

def resourceNotFoundException (message : String) : AppException :=
  ⟨message, 404, "RESOURCE_NOT_FOUND"⟩

def forbiddenException (message : String) : AppException := ⟨message, 403, "FORBIDDEN"⟩

def unauthorizedException (message : String) : AppException := ⟨message, 401, "UNAUTHORIZED"⟩

def conflictException (message : String) : AppException := ⟨message, 409, "CONFLICT"⟩

def rateLimitExceededException (message : String) : AppException :=
  ⟨message, 429, "RATE_LIMIT_EXCEEDED"⟩

def validationException (message : String) : AppException := ⟨message, 422, "VALIDATION_ERROR"⟩

/-- How a handler can end without a result. `flush` is an error of the database
raised while rows are flushed (a unique violation, a value the column does not
take); `python` is any other exception, by its class. -/
inductive Failure where
  | app (exception : AppException)
  | flush (reason : String)
  | python (exceptionClass : String)
  deriving DecidableEq, Repr

/-- The numbers of three digits hold the status codes. -/
instance (priority := high) neZero_statusCodes : NeZero 1000 := ⟨by decide⟩

/-! ## Column types -/

/-- A text a `String(limit)` column takes. -/
def FitsText (limit : Nat) (text : String) : Prop :=
  text.length ≤ limit ∧ '\x00' ∉ text.toList

instance (limit : Nat) (text : String) : Decidable (FitsText limit text) :=
  inferInstanceAs (Decidable (text.length ≤ limit ∧ '\x00' ∉ text.toList))

/-- A number a `BigInteger` column takes. -/
def FitsBigint (value : Int) : Prop := -2 ^ 63 ≤ value ∧ value < 2 ^ 63

instance (value : Int) : Decidable (FitsBigint value) :=
  inferInstanceAs (Decidable (-2 ^ 63 ≤ value ∧ value < 2 ^ 63))

/-- A number an `Integer` column takes. -/
def FitsInteger (value : Int) : Prop := -2 ^ 31 ≤ value ∧ value < 2 ^ 31

instance (value : Int) : Decidable (FitsInteger value) :=
  inferInstanceAs (Decidable (-2 ^ 31 ≤ value ∧ value < 2 ^ 31))

/-! ## Calendar -/

/-- Year and month of a day counted from the epoch in the proleptic Gregorian
calendar, years starting in March inside the computation. -/
def yearMonthOfDay (day : Int) : Int × Int :=
  let shifted := day + 719468
  let era := shifted / 146097
  let dayOfEra := shifted % 146097
  let yearOfEra := (dayOfEra - dayOfEra / 1460 + dayOfEra / 36524 - dayOfEra / 146096) / 365
  let dayOfYear := dayOfEra - (365 * yearOfEra + yearOfEra / 4 - yearOfEra / 100)
  let monthFromMarch := (5 * dayOfYear + 2) / 153
  let month := if monthFromMarch < 10 then monthFromMarch + 3 else monthFromMarch - 9
  let year := yearOfEra + era * 400
  (if month ≤ 2 then year + 1 else year, month)

def zeroPadded (width : Nat) (value : Int) : String :=
  let digits := toString value
  String.ofList (List.replicate (width - digits.length) '0') ++ digits

/-- `_period_month`: the settlement bucket `YYYY-MM` of an instant in UTC. -/
def periodMonth (moment : Instant) : String :=
  let (year, month) := yearMonthOfDay (moment / daysToMicros 1)
  zeroPadded 4 year ++ "-" ++ zeroPadded 2 month

end Reliastra.Source

/-!
## The request's database session

Source: `get_db` in `app/db/session.py`. A handler flushes its writes as it
goes and then returns or raises; only a return commits them. A session that
flushed nothing ends in a rollback, which commits the same rows.
-/

namespace Reliastra.Source

/-- A handler run in a session: the rows it had flushed, and how it ended. -/
structure Attempt (σ α : Type) where
  flushed : σ
  outcome : Except Failure α

/-- What `get_db` leaves committed. -/
def getDb {σ α : Type} (committed : σ) (attempt : Attempt σ α) : σ :=
  match attempt.outcome with
  | .ok _ => attempt.flushed
  | .error _ => committed

/-- `raise` at this point of a handler. -/
def raising {σ α : Type} (flushed : σ) (failure : Failure) : Attempt σ α := ⟨flushed, .error failure⟩

def unauthorized {σ α : Type} (flushed : σ) (message : String) : Attempt σ α :=
  raising flushed (.app (unauthorizedException message))

/-- How code that a handler runs under `except Exception` leaves the session it
shares. A database error (a failed flush, or a statement the server refuses)
costs the whole transaction: later statements raise, and a commit persists
nothing. -/
inductive Swallowed (σ : Type) where
  /-- It returned, or raised something else. -/
  | done (flushed : σ)
  | databaseError

@[simp] theorem getDb_raising {σ α : Type} (committed flushed : σ) (failure : Failure) :
    getDb committed (raising flushed failure : Attempt σ α) = committed := rfl

@[simp] theorem getDb_unauthorized {σ α : Type} (committed flushed : σ) (message : String) :
    getDb committed (unauthorized flushed message : Attempt σ α) = committed := rfl

end Reliastra.Source
