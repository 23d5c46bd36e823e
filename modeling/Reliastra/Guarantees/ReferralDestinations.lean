import Reliastra.Library.UrlResolution
import Reliastra.Source.Partners.Destinations

/-!
# Referral destinations and the site's origin

A destination that passes the filter begins with one slash. Resolved the way browsers
resolve references, it stays on the site unless a second slash or backslash follows
once tabs and line ends are gone: what stands there is then read as an authority.
-/

namespace Reliastra.Guarantees

open Reliastra.Library UrlResolution Reliastra.Source Partners

variable {H : Type}

/-- The destination, resolved against the site, has the site's origin. -/
def StaysOnSite (hostParser : List Char → Option H) (site : Origin H) (destination : String) : Prop :=
  resolvedOrigin hostParser site destination.toList = some site

theorem toList_of_startsWith_slash {destination : String}
    (slash : Text.startsWith destination "/" = true) :
    ∃ rest, destination.toList = '/' :: rest := by
  unfold Text.startsWith at slash
  obtain ⟨rest, same⟩ := List.isPrefixOf_iff_prefix.mp slash
  exact ⟨rest, same.symm⟩

theorem default_staysOnSite (hostParser : List Char → Option H) (site : Origin H) :
    StaysOnSite hostParser site defaultDestination := rfl

theorem referral_destination_iff (hostParser : List Char → Option H) (site : Origin H)
    (to' : Option String) :
    StaysOnSite hostParser site (safeDestination to') ↔
      ∀ destination, to' = some destination → Passes destination →
        ∀ text, authorityText destination.toList = some text →
          networkOrigin hostParser site text = some site := by
  by_cases passes : ∃ destination, to' = some destination ∧ Passes destination
  · obtain ⟨destination, rfl, ok⟩ := passes
    obtain ⟨rest, list⟩ := toList_of_startsWith_slash ok.slash
    rw [safeDestination_of_passes ok, StaysOnSite, list, resolvedOrigin_eq_base_iff (.inl rfl)]
    constructor
    · intro stays destination' same _
      cases same
      rw [list]
      exact stays
    · intro stays
      rw [← list]
      exact stays destination rfl ok
  · have fails : ∀ destination, to' = some destination → ¬ Passes destination :=
      fun destination same ok => passes ⟨destination, same, ok⟩
    rw [safeDestination_of_not_passes fails]
    refine iff_of_true (default_staysOnSite hostParser site) ?_
    intro destination same ok
    exact (fails destination same ok).elim

/-- A backslash, or a tab before the second slash, makes the rest an authority. -/
theorem referral_destination_not_always :
    safeDestination (some "/\\evil.example/login") = "/\\evil.example/login" ∧
    resolvedOrigin some ⟨.https, "app.example".toList, none⟩ "/\\evil.example/login".toList =
      some ⟨.https, "evil.example".toList, none⟩ ∧
    ¬ StaysOnSite some ⟨.https, "app.example".toList, none⟩
      (safeDestination (some "/\\evil.example/login")) ∧
    safeDestination (some "/\t/evil.example") = "/\t/evil.example" ∧
    ¬ StaysOnSite some ⟨.https, "app.example".toList, none⟩
      (safeDestination (some "/\t/evil.example")) := by
  unfold StaysOnSite
  refine ⟨by decide, by decide, by decide, by decide, by decide⟩

end Reliastra.Guarantees
