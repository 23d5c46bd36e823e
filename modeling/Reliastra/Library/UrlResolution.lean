import Mathlib.Data.List.DropRight
import Mathlib.Data.List.Induction

/-!
# The origin of a reference that begins with a slash

The states of the URL parser of the web that decide the origin, for a reference whose
first character is a slash and a base whose scheme is `http` or `https`. Such a
scheme is special: a backslash counts as a slash. How a host is read (domains,
addresses, percent-encoding) is a parameter.
-/

namespace Reliastra.Library.UrlResolution

/-! ## The input -/

def IsSlash (c : Char) : Prop := c = '/' ∨ c = '\\'

instance (c : Char) : Decidable (IsSlash c) := inferInstanceAs (Decidable (_ ∨ _))

/-- C0 controls and the space. -/
def isTrimmed (c : Char) : Bool := c.toNat ≤ 0x20

def isTabOrNewline (c : Char) : Bool := c = '\t' || c = '\n' || c = '\r'

/-- What the parser removes before it starts. -/
def prepare (input : List Char) : List Char :=
  ((input.dropWhile isTrimmed).rdropWhile isTrimmed).filter (fun c => !isTabOrNewline c)

/-! ## Origins -/

inductive Scheme where
  | http
  | https
  deriving DecidableEq, Repr

def Scheme.defaultPort : Scheme → Nat
  | .http => 80
  | .https => 443

/-- The port is `none` where it is that of the scheme. -/
structure Origin (H : Type) where
  scheme : Scheme
  host : H
  port : Option Nat
  deriving DecidableEq

/-- The characters that end an authority. -/
def EndsAuthority (c : Char) : Prop := IsSlash c ∨ c = '?' ∨ c = '#'

instance (c : Char) : Decidable (EndsAuthority c) := inferInstanceAs (Decidable (_ ∨ _))

/-- The authority state: what the host state starts with, behind the last `@`. -/
def authorityState (atSignSeen : Bool) (buffer : List Char) : List Char → Option (List Char)
  | [] => if atSignSeen ∧ buffer = [] then none else some buffer
  | c :: rest =>
    if c = '@' then authorityState true [] rest
    else if EndsAuthority c then
      if atSignSeen ∧ buffer = [] then none else some (buffer ++ c :: rest)
    else authorityState atSignSeen (buffer ++ [c]) rest

/-- The host state: the text of the host, and what follows a colon outside brackets. -/
def hostState (insideBrackets : Bool) (buffer : List Char) :
    List Char → Option (List Char × Option (List Char))
  | [] => if buffer = [] then none else some (buffer, none)
  | c :: rest =>
    if c = ':' ∧ insideBrackets = false then
      if buffer = [] then none else some (buffer, some rest)
    else if EndsAuthority c then
      if buffer = [] then none else some (buffer, none)
    else
      hostState (if c = '[' then true else if c = ']' then false else insideBrackets)
        (buffer ++ [c]) rest

/-- The port state, with the digits read so far. -/
def portState (scheme : Scheme) (digits : List Char) : List Char → Option (Option Nat)
  | [] => finish
  | c :: rest =>
    if c.isDigit then portState scheme (digits ++ [c]) rest
    else if EndsAuthority c then finish
    else none
where
  finish : Option (Option Nat) :=
    let port := Nat.ofDigitChars 10 digits 0
    if digits = [] then some none
    else if port > 65535 then none
    else some (if port = scheme.defaultPort then none else some port)

section Resolution

variable {H : Type} (hostParser : List Char → Option H) (base : Origin H)

/-- The origin of what stands behind the slashes of an authority. -/
def networkOrigin (text : List Char) : Option (Origin H) := do
  let start ← authorityState false [] text
  let (hostText, portText) ← hostState false [] start
  let host ← hostParser hostText
  let port ← match portText with
    | some text => portState base.scheme [] text
    | none => some none
  some ⟨base.scheme, host, port⟩

/-- The relative slash state, behind the first slash. -/
def relativeSlashState : List Char → Option (Origin H)
  | [] => some base
  | c :: rest =>
    if IsSlash c then networkOrigin hostParser base (rest.dropWhile (fun c => IsSlash c))
    else some base

/-- The origin a reference is resolved to; `none` is the parser's failure, and a
reference that does not begin with a slash. -/
def resolvedOrigin (reference : List Char) : Option (Origin H) :=
  match prepare reference with
  | c :: rest => if IsSlash c then relativeSlashState hostParser base rest else none
  | [] => none

/-- What a reference names as its authority: the text behind two slashes, which
may be backslashes, with tabs and line ends between them. -/
def authorityText (reference : List Char) : Option (List Char) :=
  match prepare reference with
  | first :: second :: rest =>
    if IsSlash first ∧ IsSlash second then some (rest.dropWhile (fun c => IsSlash c)) else none
  | _ => none

variable {hostParser base}

theorem prepare_cons_slash {c : Char} (slash : IsSlash c) (rest : List Char) :
    ∃ kept, prepare (c :: rest) = c :: kept := by
  have visible : isTrimmed c = false ∧ isTabOrNewline c = false := by
    obtain rfl | rfl := slash
    · decide
    · decide
  unfold prepare
  rw [List.dropWhile_cons_of_neg (by simp [visible.1])]
  have kept : ∃ middle, (c :: rest).rdropWhile isTrimmed = c :: middle := by
    induction rest using List.reverseRecOn with
    | nil => exact ⟨[], List.rdropWhile_concat_neg isTrimmed [] c (by simp [visible.1])⟩
    | append_singleton rest last ih =>
      by_cases trimmed : isTrimmed last = true
      · rw [← List.cons_append, List.rdropWhile_concat_pos _ _ _ trimmed]
        exact ih
      · rw [← List.cons_append, List.rdropWhile_concat_neg _ _ _ trimmed]
        exact ⟨rest ++ [last], rfl⟩
  obtain ⟨middle, same⟩ := kept
  rw [same, List.filter_cons_of_pos (by simp [visible.2])]
  exact ⟨_, rfl⟩

/-- A reference that begins with a slash leaves the base's origin only through an
authority of its own. -/
theorem resolvedOrigin_eq_base_iff {c : Char} (slash : IsSlash c) (rest : List Char) :
    resolvedOrigin hostParser base (c :: rest) = some base ↔
      ∀ text, authorityText (c :: rest) = some text →
        networkOrigin hostParser base text = some base := by
  obtain ⟨kept, prepared⟩ := prepare_cons_slash slash rest
  unfold resolvedOrigin authorityText
  rw [prepared]
  simp only [if_pos slash]
  cases kept with
  | nil => simp [relativeSlashState]
  | cons second more =>
    by_cases network : IsSlash second
    · simp [relativeSlashState, slash, network]
    · simp [relativeSlashState, network]

end Resolution

end Reliastra.Library.UrlResolution
