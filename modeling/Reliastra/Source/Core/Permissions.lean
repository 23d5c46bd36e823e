import Reliastra.Source.Core.Text
import Reliastra.Source.Core.Basics
import Mathlib.Data.List.Sort

/-!
# Plans

Source: `app/core/permissions.py` (the plan tables) and `PLAN_AMOUNTS` of
`app/modules/billing/service.py`. Retention periods and feature flags are left
out: no modelled operation reads them.
-/

namespace Reliastra.Source

inductive Plan where
  | free | starter | standard | professional | agency
  deriving DecidableEq, Repr

namespace Plan

def value : Plan → String
  | .free => "free"
  | .starter => "starter"
  | .standard => "standard"
  | .professional => "professional"
  | .agency => "agency"

def all : List Plan := [.free, .starter, .standard, .professional, .agency]

/-- The member whose value a text is. -/
def ofValue? (text : String) : Option Plan := all.find? (fun plan => plan.value = text)

/-- `PLAN_PRICES_USD`. -/
def priceUsd : Plan → Int
  | .free => 0
  | .starter => 19
  | .standard => 49
  | .professional => 99
  | .agency => 199

/-- `PLAN_AMOUNTS`; free has no entry, agency has an entry of zero. -/
def amount? : Plan → Option Int
  | .free => none
  | .starter => some 1900
  | .standard => some 4900
  | .professional => some 9900
  | .agency => some 0

/-- `PLAN_DEPENDENCY_LIMITS`. -/
def dependencyLimit : Plan → Nat
  | .free => 3
  | .starter => 10
  | .standard => 30
  | .professional => 100
  | .agency => 500

/-- `PLAN_CHECK_INTERVALS`, in seconds. -/
def checkInterval : Plan → Int
  | .free => 60
  | .starter => 60
  | .standard => 15
  | .professional => 5
  | .agency => 5

/-- A plan with a price. -/
def Paid (plan : Plan) : Prop := 0 < plan.priceUsd

instance : DecidablePred Paid := fun plan => inferInstanceAs (Decidable (0 < plan.priceUsd))

theorem ofValue?_value (plan : Plan) : ofValue? plan.value = some plan := by
  cases plan <;> decide

/-- Every checkout price but the agency's is the list price. -/
theorem amount?_eq_price (plan : Plan) (amount : Int) (listed : plan.amount? = some amount) :
    amount = 100 * plan.priceUsd ∨ plan = .agency := by
  cases plan <;> simp [amount?, priceUsd] at listed ⊢ <;> omega

end Plan

/-- `get_plan_price_usd`. -/
def getPlanPriceUsd (plan : String) : Int :=
  ((Plan.ofValue? (Text.lower plan)).map Plan.priceUsd).getD 0

/-- `is_paid_plan`. -/
def isPaidPlan (plan : String) : Bool := 0 < getPlanPriceUsd plan

end Reliastra.Source

/-!
## Organization members

Source: `app/core/permissions.py` (roles), `app/modules/organizations/models.py`,
`app/modules/organizations/repository.py`.
-/

namespace Reliastra.Source.Organizations

inductive Role where
  | owner | admin | member | viewer
  deriving DecidableEq, Repr

def Role.value : Role → String
  | .owner => "owner"
  | .admin => "admin"
  | .member => "member"
  | .viewer => "viewer"

/-- `ROLE_HIERARCHY`. -/
def Role.level : Role → Nat
  | .owner => 40
  | .admin => 30
  | .member => 20
  | .viewer => 10

def hasPermission (userRole requiredRole : Role) : Bool := requiredRole.level ≤ userRole.level

structure OrganizationMember where
  id : Uuid
  orgId : Uuid
  userId : Uuid
  role : Role
  joinedAt : Instant
  isDeleted : Bool
  deriving DecidableEq, Repr

/-- `ORDER BY joined_at, id`. -/
def joinedBefore (first second : OrganizationMember) : Prop :=
  first.joinedAt < second.joinedAt ∨ (first.joinedAt = second.joinedAt ∧ first.id ≤ second.id)

instance : DecidableRel joinedBefore := fun first second =>
  inferInstanceAs (Decidable (first.joinedAt < second.joinedAt ∨
    (first.joinedAt = second.joinedAt ∧ first.id ≤ second.id)))

/-- `OrganizationRepository.list_members` without paging. -/
def listMembers (members : List OrganizationMember) (orgId : Uuid) : List OrganizationMember :=
  (members.filter fun m => m.orgId = orgId ∧ m.isDeleted = false).insertionSort joinedBefore

end Reliastra.Source.Organizations
