import Mathlib.Data.List.Infix
import Reliastra.Source.Api.Schema
import Reliastra.Source.Core.Text
import Reliastra.Source.Partners.Schema

/-!
# Where a referral link leads

`resolve_referral` and `_safe_destination` of
`app/modules/partners/public_router.py`. The limiter in front of them is not part of
this; the partner who owns a code is looked up by a function of the code's id.
-/

namespace Reliastra.Source.Partners

open Reliastra.Library Api

/-- `_DEFAULT_DESTINATION`. -/
def defaultDestination : String := "/"

/-- `part in s`. -/
def Contains (s part : String) : Prop := part.toList <:+: s.toList

instance (s part : String) : Decidable (Contains s part) :=
  inferInstanceAs (Decidable (part.toList <:+: s.toList))

/-- `_safe_destination`. -/
def safeDestination (to' : Option String) : String :=
  match to' with
  | none => defaultDestination
  | some destination =>
    if destination = "" then defaultDestination
    else if Text.startsWith destination "/" = false ∨ Text.startsWith destination "//" ∨
        Contains destination "://" then defaultDestination
    else destination

structure ReferralResolveResponse where
  valid : Bool
  referralCode : Option String
  destination : String
  deriving DecidableEq, Repr

/-- `resolve_referral`, with the partner whose clicks it counts. -/
def resolveReferral (codes : Table ReferralCode.id) (partnerOf : Uuid → Option PartnerProfile)
    (referralCode : String) (to' : Option String) : ReferralResolveResponse × Option Uuid :=
  match codes.rows.find? (fun row => row.code = Text.upper referralCode ∧ row.isActive) with
  | none => (⟨false, none, defaultDestination⟩, none)
  | some code =>
    match (partnerOf code.id).filter (fun partner => partner.status ∈ earningStatuses) with
    | none => (⟨false, none, defaultDestination⟩, none)
    | some partner => (⟨true, some code.code, safeDestination to'⟩, some partner.id)

/-! ## What the filter lets through -/

/-- The filter passes a destination on. -/
structure Passes (destination : String) : Prop where
  slash : Text.startsWith destination "/" = true
  single : Text.startsWith destination "//" = false
  noScheme : ¬ Contains destination "://"

theorem safeDestination_of_passes {destination : String} (passes : Passes destination) :
    safeDestination (some destination) = destination := by
  have present : destination ≠ "" := by
    intro empty
    have slash := passes.slash
    rw [empty] at slash
    cases slash
  unfold safeDestination
  simp only [if_neg present]
  rw [if_neg]
  simp [passes.slash, passes.single, passes.noScheme]

theorem safeDestination_of_not_passes {to' : Option String}
    (fails : ∀ destination, to' = some destination → ¬ Passes destination) :
    safeDestination to' = defaultDestination := by
  unfold safeDestination
  split
  · rfl
  · next destination =>
    split
    · rfl
    · split
      · rfl
      · next filtered =>
        rw [not_or, not_or, Bool.not_eq_false, Bool.not_eq_true] at filtered
        exact (fails destination rfl ⟨filtered.1, filtered.2.1, filtered.2.2⟩).elim

/-- Every answer's destination is one of the filter's. -/
theorem resolveReferral_destination (codes : Table ReferralCode.id)
    (partnerOf : Uuid → Option PartnerProfile) (referralCode : String) (to' : Option String) :
    (resolveReferral codes partnerOf referralCode to').1.destination = safeDestination to' ∨
      (resolveReferral codes partnerOf referralCode to').1.destination = safeDestination none := by
  unfold resolveReferral
  split
  · exact .inr rfl
  · split
    · exact .inr rfl
    · exact .inl rfl

end Reliastra.Source.Partners
