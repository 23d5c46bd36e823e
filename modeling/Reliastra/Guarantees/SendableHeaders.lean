import Mathlib
import Reliastra.Source.Api.DependencySchemas

/-!
# Whether accepted headers can be sent

The validator of a dependency's headers refuses a few names, and the characters CR,
LF and colon in any. It asks nothing else of a name and nothing of a value. A request
can be written with the headers when every name is a token and every value a text of
visible characters, with blanks only between them.
-/

namespace Reliastra.Guarantees

open Reliastra.Source Api

/-! ## Header fields of a request -/

def IsTokenChar (c : Char) : Prop := c.isAlphanum = true ∨ c ∈ "!#$%&'*+-.^_`|~".toList

instance (c : Char) : Decidable (IsTokenChar c) := inferInstanceAs (Decidable (_ ∨ _))

/-- An HTTP token: the name of a header field. -/
def IsToken (name : String) : Prop := name ≠ "" ∧ ∀ c ∈ name.toList, IsTokenChar c

instance (name : String) : Decidable (IsToken name) := inferInstanceAs (Decidable (_ ∧ _))

def IsBlank (c : Char) : Prop := c = ' ' ∨ c = '\t'

instance (c : Char) : Decidable (IsBlank c) := inferInstanceAs (Decidable (_ ∨ _))

def IsVisible (c : Char) : Prop := 0x21 ≤ c.toNat ∧ c.toNat ≤ 0x7e

instance (c : Char) : Decidable (IsVisible c) := inferInstanceAs (Decidable (_ ∧ _))

/-- The value of a header field, in the characters the client encodes. -/
structure IsFieldValue (text : String) : Prop where
  characters : ∀ c ∈ text.toList, IsVisible c ∨ IsBlank c
  start : ∀ c ∈ text.toList.head?, ¬ IsBlank c
  stop : ∀ c ∈ text.toList.getLast?, ¬ IsBlank c

/-- The lines of a request for a dictionary of headers; `none` where the client raises,
or the request is no longer well formed. -/
def FieldLines (members : HeaderDict) (lines : List (String × String)) : Prop :=
  List.Forall₂ (fun entry line => entry.1 = line.1 ∧ entry.2 = .str line.2 ∧
    IsToken line.1 ∧ IsFieldValue line.2) members lines

/-! ## What is asked of a dictionary -/

/-- CR, LF and NUL. -/
def Injects (text : String) : Prop := ∃ c ∈ text.toList, c ∈ ['\r', '\n', '\x00']

/-- One header of the dictionary is as it should be. -/
structure IsProper (mapping : CaseMapping) (entry : String × Json) : Prop where
  name : IsToken entry.1
  value : ∃ text, entry.2 = .str text ∧ ¬ Injects text
  allowed : Text.strip (mapping.lower entry.1) ∉ forbiddenHeaders ∧
    ¬ HasForbiddenPrefix (Text.strip (mapping.lower entry.1))

/-- Accepted headers are proper, and a request can be written with them. -/
def AcceptsSendable (mapping : CaseMapping) (members : HeaderDict) : Prop :=
  validateHeaderDict mapping (some members) = .ok (some members) →
    (∀ entry ∈ members, IsProper mapping entry) ∧ ∃ lines, FieldLines members lines

section Tokens

theorem IsTokenChar.visible {c : Char} (token : IsTokenChar c) : IsVisible c := by
  cases token with
  | inl alphanum =>
    simp only [Char.isAlphanum, Char.isAlpha, Char.isUpper, Char.isLower, Char.isDigit,
      Bool.or_eq_true, Bool.and_eq_true, decide_eq_true_eq, UInt32.le_iff_toNat_le,
      ge_iff_le] at alphanum
    have numbers : (0x41 ≤ c.toNat ∧ c.toNat ≤ 0x5a ∨ 0x61 ≤ c.toNat ∧ c.toNat ≤ 0x7a) ∨
        0x30 ≤ c.toNat ∧ c.toNat ≤ 0x39 := alphanum
    unfold IsVisible
    omega
  | inr listed =>
    have all : "!#$%&'*+-.^_`|~".toList.all (fun c => decide (IsVisible c)) = true := by decide
    exact of_decide_eq_true (List.all_eq_true.mp all c listed)

theorem IsVisible.toLower {c : Char} (visible : IsVisible c) : IsVisible c.toLower := by
  unfold Char.toLower
  split
  · next upper =>
    obtain ⟨low, high⟩ := upper
    rw [ge_iff_le, UInt32.le_iff_toNat_le] at low
    rw [UInt32.le_iff_toNat_le] at high
    have bounds : 0x41 ≤ c.val.toNat ∧ c.val.toNat ≤ 0x5a := ⟨low, high⟩
    unfold IsVisible
    have number : (c.val + ('a'.val - 'A'.val)).toNat = c.val.toNat + 0x20 := by
      have shift : ('a'.val - 'A'.val).toNat = 0x20 := by decide
      rw [UInt32.toNat_add, shift]
      exact Nat.mod_eq_of_lt (by omega)
    change 0x21 ≤ (c.val + ('a'.val - 'A'.val)).toNat ∧ (c.val + ('a'.val - 'A'.val)).toNat ≤ 0x7e
    omega
  · exact visible

theorem IsVisible.not_space {c : Char} (visible : IsVisible c) : Text.isSpace c = false := by
  obtain ⟨low, high⟩ := visible
  unfold Text.isSpace
  simp only [Bool.or_eq_false_iff, Bool.and_eq_false_iff, decide_eq_false_iff_not, beq_eq_false_iff_ne]
  omega

theorem strip_of_visible {text : String} (visible : ∀ c ∈ text.toList, IsVisible c) :
    Text.strip text = text := by
  have noSpace (c : Char) (member : c ∈ text.toList) : ¬ Text.isSpace c = true := by
    simp [(visible c member).not_space]
  have head : text.toList.dropWhile Text.isSpace = text.toList := by
    rw [List.dropWhile_eq_self_iff]
    intro _
    exact noSpace _ (List.getElem_mem _)
  have last : text.toList.rdropWhile Text.isSpace = text.toList := by
    rw [List.rdropWhile_eq_self_iff]
    intro present
    exact noSpace _ (List.getLast_mem present)
  rw [Text.strip, head, last, String.ofList_toList]

/-- Lower-casing a token leaves no blank to trim. -/
theorem strip_lower_token {mapping : CaseMapping} {name : String} (token : IsToken name) :
    Text.strip (mapping.lower name) = mapping.lower name := by
  have visible : ∀ c ∈ name.toList, IsVisible c := fun c member => (token.2 c member).visible
  rw [mapping.ascii name (fun c member => by
    have high := (visible c member).2
    omega)]
  apply strip_of_visible
  intro c member
  rw [Text.lower, String.toList_ofList] at member
  obtain ⟨original, inName, rfl⟩ := List.mem_map.mp member
  exact (visible original inName).toLower

theorem IsFieldValue.not_injects {text : String} (field : IsFieldValue text) : ¬ Injects text := by
  intro ⟨c, member, listed⟩
  have none : ['\r', '\n', '\x00'].all (fun c => decide (¬ (IsVisible c ∨ IsBlank c))) = true := by
    decide
  exact of_decide_eq_true (List.all_eq_true.mp none c listed) (field.characters c member)

end Tokens

/-! ## What the validator lets through -/

/-- The name is one the validator looks for. -/
def Refused (mapping : CaseMapping) (name : String) : Prop :=
  mapping.lower name ∈ forbiddenHeaders ∨ HasForbiddenPrefix (mapping.lower name) ∨
    Malformed (mapping.lower name)

/-- The kinds of headers that cannot be sent. -/
inductive Unsendable : String × Json → Prop where
  | emptyName (value : Json) : Unsendable ("", value)
  | nameCharacter {name : String} {c : Char} (value : Json) :
    c ∈ name.toList → ¬ IsTokenChar c → Unsendable (name, value)
  | notText (name : String) {value : Json} : (∀ text, value ≠ .str text) → Unsendable (name, value)
  | valueCharacter (name : String) {text : String} {c : Char} :
    c ∈ text.toList → ¬ IsVisible c → ¬ IsBlank c → Unsendable (name, .str text)
  | blankAround (name : String) {text : String} {c : Char} :
    (text.toList.head? = some c ∨ text.toList.getLast? = some c) → IsBlank c →
      Unsendable (name, .str text)

theorem not_unsendable_iff {entry : String × Json} :
    ¬ Unsendable entry ↔ IsToken entry.1 ∧ ∃ text, entry.2 = .str text ∧ IsFieldValue text := by
  obtain ⟨name, value⟩ := entry
  constructor
  · intro fine
    have present : name ≠ "" := by
      intro empty
      subst empty
      exact fine (.emptyName value)
    have characters : ∀ c ∈ name.toList, IsTokenChar c :=
      fun c member => not_not.mp (fun bad => fine (.nameCharacter value member bad))
    have isText : ∃ text, value = .str text := by
      by_contra none
      exact fine (.notText name (fun text same => none ⟨text, same⟩))
    obtain ⟨text, rfl⟩ := isText
    refine ⟨⟨present, characters⟩, text, rfl, ?_, ?_, ?_⟩
    · intro c member
      by_contra bad
      rw [not_or] at bad
      exact fine (.valueCharacter name member bad.1 bad.2)
    · intro c first blank
      exact fine (.blankAround name (.inl first) blank)
    · intro c last blank
      exact fine (.blankAround name (.inr last) blank)
  · intro ⟨⟨present, characters⟩, text, same, field⟩ bad
    cases bad with
    | emptyName => exact present rfl
    | nameCharacter _ member bad => exact bad (characters _ member)
    | notText _ noText => exact noText text same
    | valueCharacter _ member notVisible notBlank =>
      cases same
      exact (field.characters _ member).elim notVisible notBlank
    | blankAround _ ends blank =>
      cases same
      cases ends with
      | inl first => exact field.start _ first blank
      | inr last => exact field.stop _ last blank

/-- The lines exist when every header can be sent. -/
theorem exists_fieldLines_iff {members : HeaderDict} :
    (∃ lines, FieldLines members lines) ↔ ∀ entry ∈ members, ¬ Unsendable entry := by
  induction members with
  | nil => simp [FieldLines]
  | cons entry rest ih =>
    unfold FieldLines at ih ⊢
    rw [List.forall_mem_cons, ← ih, not_unsendable_iff]
    constructor
    · intro ⟨lines, written⟩
      cases written with
      | cons line others =>
        obtain ⟨name, value, token, field⟩ := line
        rw [← name] at token
        exact ⟨⟨token, _, value, field⟩, _, others⟩
    · intro ⟨⟨token, text, value, field⟩, lines, others⟩
      exact ⟨(entry.1, text) :: lines, .cons ⟨rfl, value, token, field⟩ others⟩

theorem validate_ok_iff_not_refused {mapping : CaseMapping} {members : HeaderDict} :
    validateHeaderDict mapping (some members) = .ok (some members) ↔
      ¬ ∃ entry ∈ members, Refused mapping entry.1 := by
  rw [validateHeaderDict_eq_ok_iff, not_exists]
  unfold Refused
  refine forall_congr' (fun entry => ?_)
  rw [not_and, not_or, not_or]

theorem accepts_sendable_iff (mapping : CaseMapping) (members : HeaderDict) :
    AcceptsSendable mapping members ↔
      (∃ entry ∈ members, Refused mapping entry.1) ∨ ∀ entry ∈ members, ¬ Unsendable entry := by
  unfold AcceptsSendable
  rw [validate_ok_iff_not_refused, exists_fieldLines_iff, ← or_iff_not_imp_left]
  refine or_congr_right' ?_
  intro clean
  rw [← validate_ok_iff_not_refused, validateHeaderDict_eq_ok_iff] at clean
  constructor
  · intro ⟨_, sendable⟩
    exact sendable
  · intro sendable
    refine ⟨?_, sendable⟩
    intro entry member
    obtain ⟨token, text, value, field⟩ := not_unsendable_iff.mp (sendable entry member)
    obtain ⟨notForbidden, noPrefix, _⟩ := clean entry member
    refine ⟨token, ⟨text, value, field.not_injects⟩, ?_⟩
    rw [strip_lower_token token]
    exact ⟨notForbidden, noPrefix⟩

/-- The mapping of ASCII letters. -/
def asciiMapping : CaseMapping := .plain

/-- Accepted, and not to be sent: a blank behind a forbidden name, a value with a
line break, a value that is a number. -/
theorem accepts_sendable_not_always :
    ¬ AcceptsSendable asciiMapping [("Host ", .str "internal.example")] ∧
    ¬ AcceptsSendable asciiMapping [("X-Trace", .str "a\r\nX-Admin: 1")] ∧
    ¬ AcceptsSendable asciiMapping [("X-Retries", .int 3)] := by
  refine ⟨?_, ?_, ?_⟩
  · intro sendable
    obtain ⟨proper, _⟩ := sendable (validateHeaderDict_eq_ok_iff.mpr (by decide))
    exact (proper ("Host ", .str "internal.example") (by simp)).allowed.1 (by decide)
  · intro sendable
    obtain ⟨proper, _⟩ := sendable (validateHeaderDict_eq_ok_iff.mpr (by decide))
    obtain ⟨text, value, clean⟩ := (proper ("X-Trace", .str "a\r\nX-Admin: 1") (by simp)).value
    cases value
    exact clean ⟨'\r', by decide, by decide⟩
  · intro sendable
    obtain ⟨proper, _⟩ := sendable (validateHeaderDict_eq_ok_iff.mpr (by decide))
    obtain ⟨text, value, _⟩ := (proper ("X-Retries", .int 3) (by simp)).value
    cases value

end Reliastra.Guarantees
