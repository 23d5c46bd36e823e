import Reliastra.Source.Api.Schema

/-!
# Customers of the control plane

Source: `list_customers` and `_derive_health` of
`app/modules/admin/control_plane_service.py`, with `get_user_orgs` of
`app/modules/admin/repository.py`. `segment` is taken and never read.
-/

namespace Reliastra.Source.Admin

open Reliastra.Library Organizations

structure User where
  id : Uuid
  email : String
  fullName : String
  isActive : Bool
  source : Option String
  lastActivityAt : Option Instant
  createdAt : Instant
  deriving DecidableEq, Repr

structure Store where
  users : Table User.id
  organizations : Table (fun o : Api.Organization => o.id)
  members : Table OrganizationMember.id

/-- The query parameters of `GET /customers` that filter. -/
structure CustomerFilters where
  search : Option String
  status : Option String
  plan : Option String
  health : Option String
  createdFrom : Option Instant
  createdTo : Option Instant

structure CustomerListItem where
  customerId : Uuid
  email : String
  fullName : String
  isActive : Bool
  source : Option String
  plan : Option String
  orgId : Option Uuid
  orgName : Option String
  health : String
  mrr : Int
  lastActivityAt : Option Instant
  createdAt : Instant
  deriving DecidableEq, Repr

structure CustomerListResponse where
  items : List CustomerListItem
  total : Nat
  page : Nat
  pageSize : Nat
  deriving DecidableEq, Repr

/-- What PostgreSQL decides: whether a text is like a pattern, where a name stands
in its collation, and in what order rows come that no `ORDER BY` puts in one. -/
structure Database where
  ilike : String → String → Bool
  rank : String → Int
  unordered : OrderBy (fun _ : Api.Organization × Role => 0)

/-! ## What the service computes for a user -/

/-- `AdminUserRepository.get_user_orgs`. -/
def getUserOrgs (db : Database) (s : Store) (userId : Uuid) : List (Api.Organization × Role) :=
  db.unordered.arrange (s.organizations.rows.flatMap (fun org =>
    (s.members.rows.filter (fun m => m.orgId = org.id ∧ m.userId = userId)).map
      (fun m => (org, m.role))))

/-- `orgs[0] if orgs else None`. -/
def primaryOrg (db : Database) (s : Store) (user : User) : Option Api.Organization :=
  (getUserOrgs db s user.id).head?.map (·.1)

def orgPlan (db : Database) (s : Store) (user : User) : Option String :=
  (primaryOrg db s user).map (·.plan.value)

/-- `if plan and plan != "free"`. -/
def ChargedPlan (plan : Option String) : Prop := ∃ name ∈ plan, name ≠ "" ∧ name ≠ "free"

instance (plan : Option String) : Decidable (ChargedPlan plan) :=
  inferInstanceAs (Decidable (∃ name ∈ plan, name ≠ "" ∧ name ≠ "free"))

/-- `_derive_health`. -/
def deriveHealth (now : Instant) (isActive : Bool) (lastActivityAt : Option Instant)
    (plan : Option String) : String :=
  if isActive = false then "inactive"
  else match lastActivityAt with
    | none => "unknown"
    | some last =>
      if daysToMicros 30 < now - last ∧ ChargedPlan plan then "at_risk"
      else if daysToMicros 60 < now - last then "churning"
      else "healthy"

def customerHealth (db : Database) (now : Instant) (s : Store) (user : User) : String :=
  deriveHealth now user.isActive user.lastActivityAt (orgPlan db s user)

def customerItem (db : Database) (now : Instant) (s : Store) (user : User) : CustomerListItem where
  customerId := user.id
  email := user.email
  fullName := user.fullName
  isActive := user.isActive
  source := user.source
  plan := orgPlan db s user
  orgId := (primaryOrg db s user).map (·.id)
  orgName := (primaryOrg db s user).map (·.name)
  health := customerHealth db now s user
  mrr := if ChargedPlan (orgPlan db s user) then getPlanPriceUsd ((orgPlan db s user).getD "") else 0
  lastActivityAt := user.lastActivityAt
  createdAt := user.createdAt

/-! ## Filters -/

/-- `if value:` of an optional text. -/
def given (value : Option String) : Option String := value.filter (fun text => text ≠ "")

/-- Anything but `active`, `inactive` and `deactivated` filters nothing. -/
def activeFilter (status : Option String) : Option Bool :=
  if status = some "active" then some true
  else if status = some "inactive" ∨ status = some "deactivated" then some false
  else none

/-- The filters of the query. -/
def QueryMatches (db : Database) (filters : CustomerFilters) (user : User) : Prop :=
  (∀ search ∈ given filters.search, db.ilike user.email ("%" ++ search ++ "%") ∨
    db.ilike user.fullName ("%" ++ search ++ "%")) ∧
  (∀ active ∈ activeFilter filters.status, user.isActive = active) ∧
  (∀ earliest ∈ filters.createdFrom, earliest ≤ user.createdAt) ∧
  ∀ latest ∈ filters.createdTo, user.createdAt ≤ latest

instance (db : Database) (filters : CustomerFilters) : DecidablePred (QueryMatches db filters) :=
  fun user => inferInstanceAs (Decidable (
    (∀ search ∈ given filters.search, db.ilike user.email ("%" ++ search ++ "%") ∨
      db.ilike user.fullName ("%" ++ search ++ "%")) ∧
    (∀ active ∈ activeFilter filters.status, user.isActive = active) ∧
    (∀ earliest ∈ filters.createdFrom, earliest ≤ user.createdAt) ∧
    ∀ latest ∈ filters.createdTo, user.createdAt ≤ latest))

/-- The two `continue` of the loop. -/
def KeptByLoop (db : Database) (now : Instant) (s : Store) (filters : CustomerFilters)
    (user : User) : Prop :=
  (∀ plan ∈ given filters.plan, orgPlan db s user = some plan) ∧
  ∀ health ∈ given filters.health, customerHealth db now s user = health

instance (db : Database) (now : Instant) (s : Store) (filters : CustomerFilters) :
    DecidablePred (KeptByLoop db now s filters) := fun user =>
  inferInstanceAs (Decidable ((∀ plan ∈ given filters.plan, orgPlan db s user = some plan) ∧
    ∀ health ∈ given filters.health, customerHealth db now s user = health))

/-! ## The listing -/

/-- The `ORDER BY` that `sort` asks for. -/
def sortKey (db : Database) (sort : String) (user : User) : Int :=
  if sort = "created_at_asc" then user.createdAt
  else if sort = "name" then db.rank user.fullName
  else -user.createdAt

/-- `list_customers`. -/
def listCustomers (db : Database) (now : Instant) (s : Store) (filters : CustomerFilters)
    (sort : String) (order : OrderBy (sortKey db sort)) (page pageSize : Nat) :
    CustomerListResponse :=
  let selected := s.users.rows.filter (QueryMatches db filters)
  let users := ((order.arrange selected).drop ((page - 1) * pageSize)).take pageSize
  { items := (users.filter (KeptByLoop db now s filters)).map (customerItem db now s)
    total := selected.length
    page := page
    pageSize := pageSize }

end Reliastra.Source.Admin
