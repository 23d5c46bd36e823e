import Mathlib.Data.List.TakeWhile
import Mathlib.Order.Basic

/-!
# The fields of a URL's query

A URL taken apart at its fragment and its query, and the query at `&` and `=`. How
percent-encoding is undone is a parameter: it never lengthens a text, and it leaves alone
a text without `%`. A value therefore never is longer than the piece it stands in, which
is how one tells which of two texts the other is written in.
-/

namespace Reliastra.Library.QueryStrings

/-- The undoing of percent-encoding. -/
structure UrlDecoder where
  unquote : List Char → List Char
  length_le : ∀ text, (unquote text).length ≤ text.length
  plain : ∀ text, '%' ∉ text → unquote text = text

/-! ## The reader -/

/-- Tabs and newlines, which a URL parser removes. -/
def isRemoved (c : Char) : Bool := c = '\t' || c = '\n' || c = '\r'

def clean (url : List Char) : List Char := url.filter (fun c => !isRemoved c)

/-- Whether a character ends the part of a URL in front of its query. -/
def endsPath (c : Char) : Bool := c = '?' || c = '#'

/-- What stands in front of the query and the fragment. -/
def urlPath (url : List Char) : List Char := (clean url).takeWhile (fun c => !endsPath c)

def urlQuery (url : List Char) : List Char :=
  (((clean url).takeWhile (· ≠ '#')).dropWhile (· ≠ '?')).drop 1

def pieceName (piece : List Char) : List Char := piece.takeWhile (· ≠ '=')

def pieceValue (piece : List Char) : List Char := (piece.dropWhile (· ≠ '=')).drop 1

section Reader
variable (decoder : UrlDecoder)

/-- A name or a value of the query, where `+` stands for a space. -/
def decodeField (text : List Char) : List Char :=
  decoder.unquote (text.map (fun c => if c = '+' then ' ' else c))

/-- The fields in order, blank ones included. -/
def queryFields (query : List Char) : List (List Char × List Char) :=
  ((query.splitOn '&').filter (· ≠ [])).map
    (fun piece => (decodeField decoder (pieceName piece), decodeField decoder (pieceValue piece)))

/-- The value of a field; of several, the last. -/
def fieldValue (query name : List Char) : Option (List Char) :=
  ((queryFields decoder query).reverse.find? (fun field => field.1 = name)).map (·.2)

end Reader

/-! ## Pieces -/

variable {decoder : UrlDecoder}

theorem clean_append (first second : List Char) :
    clean (first ++ second) = clean first ++ clean second := List.filter_append ..

theorem length_clean_le (text : List Char) : (clean text).length ≤ text.length :=
  List.length_filter_le ..

/-- A text of the full length has lost nothing. -/
theorem clean_eq_self {text : List Char} (long : text.length ≤ (clean text).length) :
    clean text = text :=
  List.Sublist.eq_of_length_le List.filter_sublist long

theorem length_le_of_mem_splitOn {sep : Char} {text piece : List Char}
    (member : piece ∈ text.splitOn sep) : piece.length ≤ text.length := by
  induction text generalizing piece with
  | nil =>
    rw [List.splitOn_nil, List.mem_singleton] at member
    exact member ▸ le_rfl
  | cons c text ih =>
    rw [List.splitOn_cons_eq_if_modifyHead] at member
    split at member
    · rcases List.mem_cons.mp member with rfl | later
      · simp
      · exact (ih later).trans (by simp)
    · obtain ⟨first, pieces, split⟩ := List.exists_cons_of_ne_nil (List.splitOn_ne_nil sep text)
      rw [split, List.modifyHead_cons] at member
      rcases List.mem_cons.mp member with rfl | later
      · have short : first.length ≤ text.length := ih (by rw [split]; exact List.mem_cons_self)
        simpa using short
      · exact (ih (by rw [split]; exact List.mem_cons_of_mem _ later)).trans (by simp)

theorem all_ne {sep : Char} {text : List Char} (free : sep ∉ text) :
    ∀ c ∈ text, decide (c ≠ sep) = true :=
  fun _ place => decide_eq_true (fun equal => free (equal ▸ place))

/-- A piece behind the first stands in what follows the first separator. -/
theorem first_or_shorter {sep : Char} {head text piece : List Char} (headFree : sep ∉ head)
    (member : piece ∈ (head ++ text).splitOn sep) :
    piece = head ++ text.takeWhile (· ≠ sep) ∨ sep ∈ text ∧ piece.length < text.length := by
  by_cases inside : sep ∈ text
  · obtain ⟨before, after, rfl, free⟩ := List.eq_append_cons_of_mem inside
    have bothFree : sep ∉ head ++ before := by
      rw [List.mem_append, not_or]
      exact ⟨headFree, free⟩
    rw [← List.append_assoc, List.splitOn_append_cons_self_of_not_mem bothFree,
      List.mem_cons] at member
    rcases member with rfl | later
    · refine Or.inl ?_
      rw [List.takeWhile_append_of_pos (all_ne free)]
      simp
    · have short := length_le_of_mem_splitOn later
      refine Or.inr ⟨inside, ?_⟩
      rw [List.length_append, List.length_cons]
      omega
  · have bothFree : sep ∉ head ++ text := by
      rw [List.mem_append, not_or]
      exact ⟨headFree, inside⟩
    rw [List.splitOn_eq_singleton bothFree, List.mem_singleton] at member
    refine Or.inl ?_
    rw [member, List.takeWhile_eq_self_iff.mpr (all_ne inside)]

/-- The pieces of a text that is cut off somewhere. -/
theorem mem_splitOn_cut {sep stop : Char} (other : sep ≠ stop) {first second piece : List Char}
    (member : piece ∈ ((first ++ sep :: second).takeWhile (· ≠ stop)).splitOn sep) :
    piece ∈ (first.takeWhile (· ≠ stop)).splitOn sep ∨
      piece ∈ (second.takeWhile (· ≠ stop)).splitOn sep := by
  rw [List.takeWhile_append] at member
  split at member
  · next all =>
    have whole : first.takeWhile (· ≠ stop) = first :=
      (List.takeWhile_prefix _).eq_of_length all
    rw [List.takeWhile_cons_of_pos (by simpa using other), List.splitOn_append_cons_self,
      List.mem_append] at member
    rw [whole]
    exact member
  · exact Or.inl member

/-- A piece with its name. -/
theorem pieceName_append {name : List Char} (free : '=' ∉ name) (value : List Char) :
    pieceName (name ++ '=' :: value) = name ∧ pieceValue (name ++ '=' :: value) = value := by
  unfold pieceName pieceValue
  rw [List.takeWhile_append_of_pos (all_ne free), List.dropWhile_append_of_pos (all_ne free)]
  simp

theorem length_decodeField_le (text : List Char) :
    (decodeField decoder text).length ≤ text.length := by
  have short := decoder.length_le (text.map (fun c => if c = '+' then ' ' else c))
  rw [List.length_map] at short
  exact short

theorem length_pieceValue_le (piece : List Char) : (pieceValue piece).length ≤ piece.length := by
  have split : (piece.takeWhile (· ≠ '=') ++ piece.dropWhile (· ≠ '=')).length = piece.length :=
    congrArg List.length List.takeWhile_append_dropWhile
  rw [List.length_append] at split
  unfold pieceValue
  rw [List.length_drop]
  omega

/-- A text that is a name or a value as it stands. -/
theorem decodeField_plain {text : List Char} (noPercent : '%' ∉ text) (noPlus : '+' ∉ text) :
    decodeField decoder text = text := by
  have same : text.map (fun c => if c = '+' then ' ' else c) = text := by
    refine (List.map_congr_left (fun c member => ?_)).trans (List.map_id _)
    refine if_neg (fun equal => noPlus ?_)
    rw [← equal]
    exact member
  unfold decodeField
  rw [same]
  exact decoder.plain text noPercent

theorem mem_queryFields {query : List Char} {field : List Char × List Char} :
    field ∈ queryFields decoder query ↔ ∃ piece ∈ query.splitOn '&', piece ≠ [] ∧
      (decodeField decoder (pieceName piece), decodeField decoder (pieceValue piece)) = field := by
  unfold queryFields
  rw [List.mem_map]
  refine exists_congr (fun piece => ?_)
  rw [List.mem_filter, decide_eq_true_iff, and_assoc]

theorem fieldValue_eq_some {query name value : List Char}
    (found : fieldValue decoder query name = some value) :
    (name, value) ∈ queryFields decoder query := by
  obtain ⟨field, place, rfl⟩ := Option.map_eq_some_iff.mp found
  have named : field.1 = name := by simpa using List.find?_some place
  have member := List.mem_of_find?_eq_some place
  rw [← named]
  exact List.mem_reverse.mp member

end Reliastra.Library.QueryStrings
