import Mathlib.Data.Bool.AllAny
import Reliastra.Library.Markup
import Reliastra.Library.QueryStrings
import Reliastra.Guarantees.NamesInHeaders
import Reliastra.Source.Badges.Service

/-!
# Embedded badges do not say what was asked for

The snippet is escaped once and read back once, so its image has the URL of the response.
But the URL is built as if it stood in HTML already, and from texts that are not
percent-encoded: what should be the parameter `label` is named `amp;label`, so the badge
endpoint takes its default. A parameter that a style or a label brings along can not
repair that, since it would have to hold the text that brings it.
-/

namespace Reliastra.Guarantees.EmbedCodes

open Reliastra.Library Markup QueryStrings Source Source.Badges Vendors Api

/-! ## Reading a badge's address -/

structure BadgeRequest where
  vendorName : List Char
  style : List Char
  label : List Char
  showLatency : Bool
  deriving DecidableEq

def vendorsPath : List Char := "https://reliastra.com/v1/public/vendors/".toList

def badgeFile : List Char := "/badge.svg".toList

section Reader
variable (decoder : UrlDecoder)

/-- The vendor is one segment of the path. -/
def vendorOfPath (path : List Char) : Option (List Char) := do
  let rest ← path.dropPrefix? vendorsPath
  let segment ← rest.dropSuffix? badgeFile
  if segment = [] ∨ '/' ∈ segment then none else some (decoder.unquote segment)

/-- A truth value in a query. -/
def readFlag (text : List Char) : Option Bool :=
  let word := text.map Char.toLower
  if word ∈ ["1", "on", "t", "true", "y", "yes"].map String.toList then some true
  else if word ∈ ["0", "off", "f", "false", "n", "no"].map String.toList then some false
  else none

/-- The badge that a URL asks for, with the defaults of the badge endpoint. -/
def readBadgeUrl (url : List Char) : Option BadgeRequest := do
  let vendorName ← vendorOfPath decoder (urlPath url)
  let query := urlQuery url
  let showLatency ← (fieldValue decoder query "show_latency".toList).elim (some false) readFlag
  some
    { vendorName := vendorName
      style := (fieldValue decoder query "style".toList).getD "flat".toList
      label := (fieldValue decoder query "label".toList).getD "Reliastra".toList
      showLatency := showLatency }

/-- `html.unescape`, on what `html.escape` writes. -/
def unescape (raw : List Char) : Option (List Char) := decode true id raw

/-- The snippet is one image, of the URL in the response. -/
def OneImage (response : BadgeEmbedResponse) : Prop :=
  ∃ alt, Markup.read unescape unescape response.html.toList =
    some [.start "img".toList [("src".toList, response.url.toList), ("alt".toList, alt)]]

/-- The snippet is one image, and its URL asks for the badge. -/
structure RoundTrips (response : BadgeEmbedResponse) (request : BadgeRequest) : Prop where
  oneImage : OneImage response
  denotes : readBadgeUrl decoder response.url.toList = some request

/-- What stays the same as a segment of a path. -/
structure KeptInPath (text : List Char) : Prop where
  nonempty : text ≠ []
  free : ∀ c ∈ text, c ≠ '/' ∧ c ≠ '?' ∧ c ≠ '#' ∧ isRemoved c = false
  decoded : decoder.unquote text = text

/-- What stays the same as a value in a query. -/
structure KeptInQuery (text : List Char) : Prop where
  free : ∀ c ∈ text, c ≠ '&' ∧ c ≠ '#' ∧ isRemoved c = false
  decoded : decodeField decoder text = text

end Reader

/-! ## The snippet -/

theorem unescape_htmlEscape (text : List Char) :
    unescape (text.flatMap htmlEscapeChar) = some text := by
  have one (c : Char) (rest : List Char) : decode true id (htmlEscapeChar c ++ rest) =
      (decode true id rest).map (id c :: ·) := by
    rcases htmlEscapeChar_cases c with ⟨rfl, shown⟩ | ⟨rfl, shown⟩ | ⟨rfl, shown⟩ | ⟨rfl, shown⟩ |
      ⟨rfl, shown⟩ | ⟨amp, _, shown⟩
    · rw [shown]; rfl
    · rw [shown]; rfl
    · rw [shown]; rfl
    · rw [shown]; rfl
    · rw [shown]; rfl
    · rw [shown]
      exact decode_cons amp rest
  unfold unescape
  rw [decode_flatMap one, List.map_id]

theorem quote_not_mem_escaped (text : List Char) : '"' ∉ text.flatMap htmlEscapeChar := by
  intro member
  obtain ⟨c, _, place⟩ := List.mem_flatMap.mp member
  rcases htmlEscapeChar_cases c with ⟨_, shown⟩ | ⟨_, shown⟩ | ⟨_, shown⟩ | ⟨_, shown⟩ |
    ⟨_, shown⟩ | ⟨_, quote, shown⟩
  · exact absurd place (by rw [shown]; decide)
  · exact absurd place (by rw [shown]; decide)
  · exact absurd place (by rw [shown]; decide)
  · exact absurd place (by rw [shown]; decide)
  · exact absurd place (by rw [shown]; decide)
  · rw [shown] at place
    exact quote (List.mem_singleton.mp place).symm

/-- Every text can stand in an attribute. -/
theorem plain_attribute {name : List Char} (named : isName name) (text : List Char) :
    Markup.Plain unescape (·.flatMap htmlEscapeChar) (name, text) :=
  ⟨named, quote_not_mem_escaped text, unescape_htmlEscape text⟩

theorem html_oneImage (url displayName status : String) :
    Markup.read unescape unescape (badgeHtml url displayName status).toList =
      some [.start "img".toList [("src".toList, url.toList),
        ("alt".toList, displayName.toList ++ " status: ".toList ++ status.toList)]] := by
  have words : " status: ".toList.flatMap htmlEscapeChar = " status: ".toList := by decide
  have printed : (badgeHtml url displayName status).toList =
      Markup.print (·.flatMap htmlEscapeChar)
        [.start "img".toList [("src".toList, url.toList),
          ("alt".toList, displayName.toList ++ " status: ".toList ++ status.toList)]] := by
    unfold badgeHtml htmlEscape Markup.print Token.print printAttribute
    simp only [String.toList_append, String.toList_ofList, List.flatMap_cons, List.flatMap_nil,
      List.flatMap_append, words]
    simp
  rw [printed]
  refine read_print (fun token member => ?_) (List.IsChain.singleton _)
  rw [List.mem_singleton.mp member]
  refine ⟨by decide, fun item place => ?_⟩
  rcases List.mem_cons.mp place with rfl | place
  · exact plain_attribute (by decide) _
  · rw [List.mem_singleton.mp place]
    exact plain_attribute (by decide) _

/-! ## The address -/

section Address
variable {decoder : UrlDecoder} (vendorName style label : List Char) (showLatency : Bool)

/-- The last parameter, where it is there. -/
def flagPart : List Char := if showLatency then '&' :: "amp;show_latency=true".toList else []

def queryText : List Char :=
  "style".toList ++ '=' :: (style ++ '&' :: ("amp;label".toList ++ '=' :: (label ++ flagPart showLatency)))

def urlText : List Char :=
  vendorsPath ++ (vendorName ++ (badgeFile ++ '?' :: queryText style label showLatency))

theorem badgeUrl_toList (vendorName style label : String) :
    (badgeUrl reliastraUrl vendorName style label showLatency).toList =
      urlText vendorName.toList style.toList label.toList showLatency := by
  unfold badgeUrl urlText queryText flagPart vendorsPath badgeFile reliastraUrl
  cases showLatency <;>
    simp [String.intercalate_cons_cons, String.intercalate_singleton]

/-! ### The path -/

theorem clean_plain {text : List Char} (plain : ∀ c ∈ text, isRemoved c = false) :
    clean text = text := by
  refine List.filter_eq_self.mpr (fun c member => ?_)
  rw [plain c member]
  rfl

theorem clean_urlText :
    clean (urlText vendorName style label showLatency) =
      urlText (clean vendorName) (clean style) (clean label) showLatency := by
  have fixed : clean vendorsPath = vendorsPath := by decide
  have file : clean badgeFile = badgeFile := by decide
  have flag : clean (flagPart showLatency) = flagPart showLatency := by cases showLatency <;> decide
  have styleName : clean ("style".toList) = "style".toList := by decide
  have labelName : clean ("amp;label".toList) = "amp;label".toList := by decide
  have cons (c : Char) (kept : isRemoved c = false) (rest : List Char) :
      clean (c :: rest) = c :: clean rest := by
    unfold clean
    rw [List.filter_cons_of_pos (by rw [kept]; rfl)]
  unfold urlText queryText
  rw [clean_append, clean_append, clean_append, cons '?' (by decide), clean_append,
    cons '=' (by decide), clean_append, cons '&' (by decide), clean_append, cons '=' (by decide),
    clean_append, fixed, file, flag, styleName, labelName]

/-- What the path of the URL is: the name with its frame, or less than the name. -/
theorem urlPath_urlText :
    urlPath (urlText vendorName style label showLatency) =
      vendorsPath ++ ((clean vendorName ++ badgeFile ++
        '?' :: queryText (clean style) (clean label) showLatency).takeWhile (fun c => !endsPath c)) := by
  unfold urlPath
  rw [clean_urlText]
  unfold urlText
  rw [List.takeWhile_append_of_pos (List.all_eq_true.mp (by decide)), List.append_assoc]

theorem vendorOfPath_eq_some {path vendor : List Char} :
    vendorOfPath decoder path = some vendor ↔
      ∃ segment, path = vendorsPath ++ (segment ++ badgeFile) ∧ segment ≠ [] ∧ '/' ∉ segment ∧
        decoder.unquote segment = vendor := by
  constructor
  · intro found
    obtain ⟨rest, first, inner⟩ := Option.bind_eq_some_iff.mp found
    obtain ⟨segment, second, answer⟩ := Option.bind_eq_some_iff.mp inner
    obtain ⟨head, rfl, sameHead⟩ := List.dropPrefix?_eq_some_iff.mp first
    obtain ⟨file, rfl, sameFile⟩ := List.dropSuffix?_eq_some_iff.mp second
    rw [eq_of_beq sameHead, eq_of_beq sameFile]
    split at answer
    · cases answer
    · next good =>
      rw [not_or] at good
      exact ⟨segment, rfl, good.1, good.2, Option.some.inj answer⟩
  · intro ⟨segment, shown, nonempty, free, decoded⟩
    refine Option.bind_eq_some_iff.mpr ⟨segment ++ badgeFile, ?_, ?_⟩
    · exact List.dropPrefix?_eq_some_iff.mpr ⟨vendorsPath, shown, BEq.rfl⟩
    · refine Option.bind_eq_some_iff.mpr ⟨segment, ?_, ?_⟩
      · exact List.dropSuffix?_eq_some_iff.mpr ⟨badgeFile, rfl, BEq.rfl⟩
      · rw [if_neg (not_or.mpr ⟨nonempty, free⟩), decoded]

/-- The path names the vendor exactly when the name can stand in it. -/
theorem path_denotes_iff :
    vendorOfPath decoder (urlPath (urlText vendorName style label showLatency)) = some vendorName ↔
      KeptInPath decoder vendorName := by
  have file : (badgeFile ++ '?' :: queryText (clean style) (clean label) showLatency).takeWhile
      (fun c => !endsPath c) = badgeFile := by
    rw [List.takeWhile_append_of_pos (List.all_eq_true.mp (by decide)),
      List.takeWhile_cons_of_neg (by decide),
      List.append_nil]
  rw [vendorOfPath_eq_some, urlPath_urlText, List.append_assoc, List.takeWhile_append, file]
  constructor
  · intro ⟨segment, shown, nonempty, free, decoded⟩
    have tail := List.append_cancel_left shown
    have long := decoder.length_le segment
    rw [decoded] at long
    have short := length_clean_le vendorName
    split at tail
    · next all =>
      have same : clean vendorName = segment := List.append_cancel_right tail
      have whole : clean vendorName = vendorName := clean_eq_self (by rw [same]; exact long)
      rw [whole] at same all
      subst same
      have good := List.takeWhile_eq_self_iff.mp ((List.takeWhile_prefix _).eq_of_length all)
      refine ⟨nonempty, fun c member => ?_, decoded⟩
      have ok := good c member
      have kept := List.filter_eq_self.mp whole c member
      refine ⟨fun slash => free (slash ▸ member), ?_, ?_, by simpa using kept⟩
      · rintro rfl
        exact absurd ok (by decide)
      · rintro rfl
        exact absurd ok (by decide)
    · have bounded := (List.takeWhile_prefix (fun c => !endsPath c) (l := clean vendorName)).length_le
      rw [tail, List.length_append] at bounded
      have ten : badgeFile.length = 10 := by decide
      omega
  · intro kept
    have whole : clean vendorName = vendorName := clean_plain (fun c member => (kept.free c member).2.2.2)
    have all : vendorName.takeWhile (fun c => !endsPath c) = vendorName := by
      refine List.takeWhile_eq_self_iff.mpr (fun c member => ?_)
      obtain ⟨_, mark, hash, _⟩ := kept.free c member
      simp [endsPath, mark, hash]
    refine ⟨vendorName, ?_, kept.nonempty, fun member => (kept.free _ member).1 rfl, kept.decoded⟩
    rw [whole, all, if_pos rfl]

/-! ### The query -/

/-- The query of the URL, behind a name that can stand in its path. -/
theorem urlQuery_urlText (kept : KeptInPath decoder vendorName) :
    urlQuery (urlText vendorName style label showLatency) =
      (queryText (clean style) (clean label) showLatency).takeWhile (· ≠ '#') := by
  have whole : clean vendorName = vendorName := clean_plain (fun c member => (kept.free c member).2.2.2)
  have noHash : ∀ c ∈ vendorName, decide (c ≠ '#') = true :=
    fun c member => decide_eq_true (kept.free c member).2.2.1
  have noMark : ∀ c ∈ vendorName, decide (c ≠ '?') = true :=
    fun c member => decide_eq_true (kept.free c member).2.1
  unfold urlQuery
  rw [clean_urlText, whole]
  unfold urlText
  rw [List.takeWhile_append_of_pos (all_ne (by decide)), List.takeWhile_append_of_pos noHash,
    List.takeWhile_append_of_pos (all_ne (by decide)), List.takeWhile_cons_of_pos (by decide),
    List.dropWhile_append_of_pos (all_ne (by decide)), List.dropWhile_append_of_pos noMark,
    List.dropWhile_append_of_pos (all_ne (by decide)), List.dropWhile_cons_of_neg (by decide)]
  rfl

/-- A text up to the fragment that it may begin. -/
abbrev cut (text : List Char) : List Char := text.takeWhile (· ≠ '#')

theorem length_cut_le (text : List Char) : (cut (clean text)).length ≤ text.length :=
  ((List.takeWhile_prefix _).length_le).trans (length_clean_le text)

/-- Every piece of the query stands in one of its three parts. -/
theorem mem_pieces {piece : List Char}
    (member : piece ∈ (cut (queryText style label showLatency)).splitOn '&') :
    piece ∈ ("style=".toList ++ cut style).splitOn '&' ∨
      piece ∈ ("amp;label=".toList ++ cut label).splitOn '&' ∨
      piece = "amp;show_latency=true".toList := by
  have head (name value : List Char) (free : '#' ∉ name) :
      (name ++ value).takeWhile (· ≠ '#') = name ++ cut value :=
    List.takeWhile_append_of_pos (all_ne free)
  have styled : queryText style label showLatency = ("style=".toList ++ style) ++
      '&' :: (("amp;label=".toList ++ label) ++ flagPart showLatency) := by simp [queryText]
  rw [styled] at member
  rcases mem_splitOn_cut (by decide) member with first | later
  · rw [head "style=".toList _ (by decide)] at first
    exact Or.inl first
  · refine Or.inr ?_
    cases showLatency with
    | false =>
      rw [flagPart, if_neg (by decide), List.append_nil,
        head "amp;label=".toList _ (by decide)] at later
      exact Or.inl later
    | true =>
      rw [flagPart, if_pos rfl] at later
      rcases mem_splitOn_cut (by decide) later with second | third
      · rw [head "amp;label=".toList _ (by decide)] at second
        exact Or.inl second
      · refine Or.inr ?_
        have alone : (cut "amp;show_latency=true".toList).splitOn '&' =
          ["amp;show_latency=true".toList] := by decide
        rw [alone] at third
        exact List.mem_singleton.mp third

/-- What the fields of the query can be: the style up to its first `&`, something that
the style or the label brings along, or a field whose name begins with `amp;`. -/
theorem mem_fields {name value : List Char}
    (member : (name, value) ∈ queryFields decoder
      (cut (queryText (clean style) (clean label) showLatency))) :
    (name = "style".toList ∧
        value = decodeField decoder ((cut (clean style)).takeWhile (· ≠ '&'))) ∨
      ('&' ∈ cut (clean style) ∧ value.length < style.length) ∨
      ('&' ∈ cut (clean label) ∧ value.length < label.length) ∨
      name = "amp;label".toList ∨ name = "amp;show_latency".toList := by
  obtain ⟨piece, place, _, shown⟩ := mem_queryFields.mp member
  obtain ⟨rfl, rfl⟩ := Prod.mk.inj shown
  have short : (decodeField decoder (pieceValue piece)).length ≤ piece.length :=
    (length_decodeField_le _).trans (length_pieceValue_le piece)
  have named (text value : List Char) (equal : '=' ∉ text)
      (noPercent : '%' ∉ text) (noPlus : '+' ∉ text) :
      decodeField decoder (pieceName (text ++ '=' :: value)) = text ∧
        pieceValue (text ++ '=' :: value) = value := by
    rw [(pieceName_append equal value).1, (pieceName_append equal value).2]
    exact ⟨decodeField_plain noPercent noPlus, rfl⟩
  rcases mem_pieces _ _ _ place with first | second | rfl
  · rcases first_or_shorter (by decide) first with rfl | ⟨inside, less⟩
    · obtain ⟨isStyle, isValue⟩ := named "style".toList ((cut (clean style)).takeWhile (· ≠ '&'))
        (by decide) (by decide) (by decide)
      exact Or.inl ⟨isStyle, congrArg _ isValue⟩
    · have bounded := length_cut_le style
      exact Or.inr (Or.inl ⟨inside, by omega⟩)
  · rcases first_or_shorter (by decide) second with rfl | ⟨inside, less⟩
    · obtain ⟨isLabel, _⟩ := named "amp;label".toList ((cut (clean label)).takeWhile (· ≠ '&'))
        (by decide) (by decide) (by decide)
      exact Or.inr (Or.inr (Or.inr (Or.inl isLabel)))
    · have bounded := length_cut_le label
      exact Or.inr (Or.inr (Or.inl ⟨inside, by omega⟩))
  · exact Or.inr (Or.inr (Or.inr (Or.inr
      (named "amp;show_latency".toList "true".toList (by decide) (by decide) (by decide)).1)))

/-- A style that is a field of the query has been kept, unless the label brings it. -/
theorem kept_of_style
    (member : ("style".toList, style) ∈ queryFields decoder
      (cut (queryText (clean style) (clean label) showLatency))) :
    KeptInQuery decoder style ∨ '&' ∈ cut (clean label) ∧ style.length < label.length := by
  rcases mem_fields _ _ _ member with ⟨_, same⟩ | ⟨_, less⟩ | brought | other | other
  · refine Or.inl ?_
    have long : (decodeField decoder ((cut (clean style)).takeWhile (· ≠ '&'))).length ≤ _ :=
      length_decodeField_le _
    rw [← same] at long
    have upToHash := length_cut_le style
    have upToAmp : ((cut (clean style)).takeWhile (· ≠ '&')).length ≤ (cut (clean style)).length :=
      (List.takeWhile_prefix _).length_le
    have hashes : (cut (clean style)).length ≤ (clean style).length :=
      (List.takeWhile_prefix _).length_le
    have whole : clean style = style := clean_eq_self (by omega)
    rw [whole] at same upToAmp long hashes
    have noHash : cut style = style :=
      (List.takeWhile_prefix _).eq_of_length (show (cut style).length = _ by omega)
    rw [noHash] at same upToAmp long
    have noAmp : style.takeWhile (· ≠ '&') = style :=
      (List.takeWhile_prefix _).eq_of_length (by omega)
    rw [noAmp] at same
    refine ⟨fun c member => ⟨?_, ?_, ?_⟩, same.symm⟩
    · simpa using List.takeWhile_eq_self_iff.mp noAmp c member
    · simpa using List.takeWhile_eq_self_iff.mp noHash c member
    · simpa using List.filter_eq_self.mp whole c member
  · omega
  · exact Or.inr brought
  · exact absurd other (by decide)
  · exact absurd other (by decide)

theorem KeptInQuery.cut_clean {text : List Char} (kept : KeptInQuery decoder text) :
    cut (clean text) = text ∧ '&' ∉ text := by
  rw [clean_plain (fun c member => (kept.free c member).2.2)]
  constructor
  · exact List.takeWhile_eq_self_iff.mpr (fun c member => decide_eq_true (kept.free c member).2.1)
  · exact fun member => (kept.free '&' member).1 rfl

/-- The query never has both the style and the label for fields. -/
theorem style_or_label_missing
    (styled : ("style".toList, style) ∈ queryFields decoder
      (cut (queryText (clean style) (clean label) showLatency))) :
    ("label".toList, label) ∉ queryFields decoder
      (cut (queryText (clean style) (clean label) showLatency)) := by
  intro labelled
  rcases mem_fields _ _ _ labelled with ⟨other, _⟩ | ⟨inside, less⟩ | ⟨_, less⟩ | other | other
  · exact absurd other (by decide)
  · rcases kept_of_style _ _ _ styled with kept | ⟨_, more⟩
    · obtain ⟨whole, free⟩ := kept.cut_clean
      rw [whole] at inside
      exact free inside
    · omega
  · omega
  · exact absurd other (by decide)
  · exact absurd other (by decide)

/-- The query behind a style that can stand in it, with the default label. -/
theorem queryFields_default (kept : KeptInQuery decoder style) :
    queryFields decoder (cut (queryText (clean style) (clean "Reliastra".toList) false)) =
      [("style".toList, style), ("amp;label".toList, "Reliastra".toList)] := by
  have free : '#' ∉ style := fun member => (kept.free _ member).2.1 rfl
  have whole : clean style = style := clean_plain (fun c member => (kept.free c member).2.2)
  have noAmp : '&' ∉ "style".toList ++ '=' :: style := by
    rw [List.mem_append, not_or, List.mem_cons, not_or]
    exact ⟨by decide, by decide, kept.cut_clean.2⟩
  have text : cut (queryText style (clean "Reliastra".toList) false) =
      ("style".toList ++ '=' :: style) ++ '&' :: "amp;label=Reliastra".toList := by
    have split : queryText style (clean "Reliastra".toList) false =
        ("style".toList ++ '=' :: style) ++ '&' :: "amp;label=Reliastra".toList := by
      simp [queryText, flagPart, clean, isRemoved]
    rw [split]
    refine List.takeWhile_eq_self_iff.mpr (all_ne ?_)
    rw [List.mem_append, List.mem_append, not_or, not_or, List.mem_cons, not_or]
    exact ⟨⟨by decide, by decide, free⟩, by decide⟩
  have second : "amp;label=Reliastra".toList.splitOn '&' = ["amp;label=Reliastra".toList] := by decide
  have labelPiece : pieceName "amp;label=Reliastra".toList = "amp;label".toList ∧
      pieceValue "amp;label=Reliastra".toList = "Reliastra".toList := by decide
  have plain (word : List Char) (noPercent : '%' ∉ word) (noPlus : '+' ∉ word) :
      decodeField decoder word = word := decodeField_plain noPercent noPlus
  unfold queryFields
  rw [whole, text, List.splitOn_append_cons_self_of_not_mem noAmp, second,
    List.filter_cons_of_pos (by simp), List.filter_cons_of_pos (by decide), List.filter_nil,
    List.map_cons, List.map_cons, List.map_nil, (pieceName_append (by decide) style).1,
    (pieceName_append (by decide) style).2, labelPiece.1, labelPiece.2, kept.decoded,
    plain "style".toList (by decide) (by decide), plain "amp;label".toList (by decide) (by decide),
    plain "Reliastra".toList (by decide) (by decide)]

/-- The style that is read is given by a field, or it is the default. -/
theorem style_shown
    (read : (fieldValue decoder (cut (queryText (clean style) (clean label) showLatency))
      "style".toList).getD "flat".toList = style) :
    style = "flat".toList ∨ ("style".toList, style) ∈ queryFields decoder
      (cut (queryText (clean style) (clean label) showLatency)) := by
  cases given : fieldValue decoder (cut (queryText (clean style) (clean label) showLatency))
      "style".toList with
  | none =>
    rw [given] at read
    exact Or.inl read.symm
  | some value =>
    have member := fieldValue_eq_some given
    rw [given] at read
    have same : value = style := read
    rw [same] at member
    exact Or.inr member

theorem kept_flat : KeptInQuery decoder "flat".toList :=
  ⟨List.all_iff_forall_prop.mp (by decide), decodeField_plain (by decide) (by decide)⟩

/-- No label but the default is read. -/
theorem label_default
    (styled : (fieldValue decoder (cut (queryText (clean style) (clean label) showLatency))
      "style".toList).getD "flat".toList = style)
    (read : (fieldValue decoder (cut (queryText (clean style) (clean label) showLatency))
      "label".toList).getD "Reliastra".toList = label) : label = "Reliastra".toList := by
  cases given : fieldValue decoder (cut (queryText (clean style) (clean label) showLatency))
      "label".toList with
  | none =>
    rw [given] at read
    exact read.symm
  | some value =>
    have member := fieldValue_eq_some given
    rw [given] at read
    have same : value = label := read
    rw [same] at member
    rcases style_shown _ _ _ styled with byDefault | shown
    · rcases mem_fields _ _ _ member with ⟨other, _⟩ | ⟨inside, _⟩ | ⟨_, less⟩ | other | other
      · exact absurd other (by decide)
      · rw [byDefault] at inside
        exact absurd inside (by decide)
      · omega
      · exact absurd other (by decide)
      · exact absurd other (by decide)
    · exact absurd member (style_or_label_missing _ _ _ shown)

/-- With the defaults of the endpoint the URL asks for the badge exactly when the label is
the default, no latency is shown, and name and style can stand where they are put. -/
theorem readBadgeUrl_iff :
    readBadgeUrl decoder (urlText vendorName style label showLatency) =
        some ⟨vendorName, style, label, showLatency⟩ ↔
      KeptInPath decoder vendorName ∧ KeptInQuery decoder style ∧ label = "Reliastra".toList ∧
        showLatency = false := by
  constructor
  · intro found
    obtain ⟨vendor, path, inner⟩ := Option.bind_eq_some_iff.mp found
    obtain ⟨flag, flagged, answer⟩ := Option.bind_eq_some_iff.mp inner
    obtain ⟨rfl, isStyle, isLabel, rfl⟩ := BadgeRequest.mk.inj (Option.some.inj answer)
    have kept := (path_denotes_iff _ _ _ _).mp path
    rw [urlQuery_urlText vendor style label flag kept] at isStyle isLabel flagged
    have isDefault : label = "Reliastra".toList := label_default style label flag isStyle isLabel
    have noAmp : '&' ∉ cut (clean label) := by
      rw [isDefault]
      decide
    have keptStyle : KeptInQuery decoder style := by
      rcases style_shown style label flag isStyle with byDefault | given
      · rw [byDefault]
        exact kept_flat
      · exact (kept_of_style _ _ _ given).resolve_right (fun brought => noAmp brought.1)
    refine ⟨kept, keptStyle, isDefault, ?_⟩
    cases asked : fieldValue decoder (cut (queryText (clean style) (clean label) flag))
        "show_latency".toList with
    | none =>
      rw [asked] at flagged
      exact (Option.some.inj flagged).symm
    | some value =>
      rcases mem_fields _ _ _ (fieldValue_eq_some asked) with ⟨other, _⟩ | ⟨inside, _⟩ |
        ⟨inside, _⟩ | other | other
      · exact absurd other (by decide)
      · rw [keptStyle.cut_clean.1] at inside
        exact absurd inside keptStyle.cut_clean.2
      · exact absurd inside noAmp
      · exact absurd other (by decide)
      · exact absurd other (by decide)
  · intro ⟨kept, keptStyle, isLabel, isFlag⟩
    subst isLabel isFlag
    have query := urlQuery_urlText vendorName style "Reliastra".toList false kept
    have fields := queryFields_default style keptStyle
    refine Option.bind_eq_some_iff.mpr ⟨vendorName, (path_denotes_iff _ _ _ _).mpr kept, ?_⟩
    have value (name : List Char) : fieldValue decoder
        (urlQuery (urlText vendorName style "Reliastra".toList false)) name =
        (([("amp;label".toList, "Reliastra".toList), ("style".toList, style)].find?
          (fun field => field.1 = name)).map (·.2)) := by
      unfold fieldValue
      rw [query, fields]
      rfl
    refine Option.bind_eq_some_iff.mpr ⟨false, ?_, ?_⟩
    · rw [value]
      rfl
    · rw [value, value]
      rfl

end Address

/-! ## The embed code -/

section EmbedCode
variable {α : Type} [LinearOrder α] {text : TextCase} {q : VendorQueries α} {db : VendorDatabase}

/-- The condition under which the address asks for the badge. -/
def AsksForDefault (decoder : UrlDecoder) (request : BadgeRequest) : Prop :=
  KeptInPath decoder request.vendorName ∧ KeptInQuery decoder request.style ∧
    request.label = "Reliastra".toList ∧ request.showLatency = false

/-- What the code was asked for. -/
def requested (vendorName style label : String) (showLatency : Bool) : BadgeRequest :=
  ⟨vendorName.toList, style.toList, label.toList, showLatency⟩

theorem oneImage_of_made {vendorName style label : String} {showLatency : Bool}
    {response : BadgeEmbedResponse}
    (made : getEmbedCode text q db vendorName style label showLatency reliastraUrl = .ok response) :
    OneImage response := by
  have image := html_oneImage response.url response.displayName response.status
  rw [← (getEmbedCode_eq_ok text q db made).2] at image
  exact ⟨_, image⟩

theorem roundTrips_iff (decoder : UrlDecoder) {vendorName style label : String} {showLatency : Bool}
    {response : BadgeEmbedResponse}
    (made : getEmbedCode text q db vendorName style label showLatency reliastraUrl = .ok response) :
    RoundTrips decoder response (requested vendorName style label showLatency) ↔
      AsksForDefault decoder (requested vendorName style label showLatency) := by
  have url := (getEmbedCode_eq_ok text q db made).1
  have address : response.url.toList =
      urlText vendorName.toList style.toList label.toList showLatency := by
    rw [url, badgeUrl_toList]
  have reading : readBadgeUrl decoder response.url.toList =
      some (requested vendorName style label showLatency) ↔
        AsksForDefault decoder (requested vendorName style label showLatency) := by
    rw [address]
    exact readBadgeUrl_iff _ _ _ _
  exact ⟨fun trips => reading.mp trips.denotes,
    fun condition => ⟨oneImage_of_made made, reading.mpr condition⟩⟩

/-- For every response the snippet is one image with the URL of the response. That URL asks
for the badge exactly if the defaults of the endpoint make up for the parameters that are
misnamed; a label is never among its fields beside the vendor and the style. -/
theorem embed_round_trips_iff (decoder : UrlDecoder) {vendorName style label : String}
    {showLatency : Bool} {response : BadgeEmbedResponse}
    (made : getEmbedCode text q db vendorName style label showLatency reliastraUrl = .ok response) :
    OneImage response ∧
    (RoundTrips decoder response (requested vendorName style label showLatency) ↔
      AsksForDefault decoder (requested vendorName style label showLatency)) ∧
    ¬ (vendorOfPath decoder (urlPath response.url.toList) = some vendorName.toList ∧
      ("style".toList, style.toList) ∈ queryFields decoder (urlQuery response.url.toList) ∧
      ("label".toList, label.toList) ∈ queryFields decoder (urlQuery response.url.toList)) := by
  refine ⟨oneImage_of_made made, roundTrips_iff decoder made, fun given => ?_⟩
  obtain ⟨path, styled, labelled⟩ := given
  rw [(getEmbedCode_eq_ok text q db made).1, badgeUrl_toList] at path styled labelled
  have kept := (path_denotes_iff _ _ _ _).mp path
  rw [urlQuery_urlText _ _ _ _ kept] at styled labelled
  exact style_or_label_missing _ _ _ styled labelled

end EmbedCode

/-! ## A label of one's own -/

/-- A decoder for texts that nothing is encoded in. -/
def plainDecoder : UrlDecoder := ⟨id, fun _ => le_rfl, fun _ _ => rfl⟩

def acmeCode (label : String) : BadgeEmbedResponse where
  html := badgeHtml (badgeUrl reliastraUrl "acme" "flat" label false) "acme" "unknown"
  markdown := "![acme status: unknown](" ++ badgeUrl reliastraUrl "acme" "flat" label false ++ ")"
  url := badgeUrl reliastraUrl "acme" "flat" label false
  vendorName := "acme"
  displayName := "acme"
  status := "unknown"

theorem acmeCode_made (label : String) :
    getEmbedCode NamesInHeaders.asciiText VendorDetails.byText NamesInHeaders.noVendors "acme" "flat"
      label false reliastraUrl = .ok (acmeCode label) := rfl

theorem embed_round_trips_iff_acme :
    OneImage (acmeCode "Reliastra") ∧
    (RoundTrips plainDecoder (acmeCode "Reliastra") (requested "acme" "flat" "Reliastra" false) ↔
      AsksForDefault plainDecoder (requested "acme" "flat" "Reliastra" false)) ∧
    ¬ (vendorOfPath plainDecoder (urlPath (acmeCode "Reliastra").url.toList) = some "acme".toList ∧
      ("style".toList, "flat".toList) ∈
        queryFields plainDecoder (urlQuery (acmeCode "Reliastra").url.toList) ∧
      ("label".toList, "Reliastra".toList) ∈
        queryFields plainDecoder (urlQuery (acmeCode "Reliastra").url.toList)) :=
  embed_round_trips_iff plainDecoder (acmeCode_made "Reliastra")

/-- The badge of the snippet is labelled `Reliastra`, not `Uptime`. -/
theorem uptime_label_lost :
    ∃ response, getEmbedCode NamesInHeaders.asciiText VendorDetails.byText NamesInHeaders.noVendors
        "acme" "flat" "Uptime" false reliastraUrl = .ok response ∧
      ¬ RoundTrips plainDecoder response (requested "acme" "flat" "Uptime" false) := by
  refine ⟨acmeCode "Uptime", acmeCode_made "Uptime", fun trips => ?_⟩
  have asks := (roundTrips_iff plainDecoder (acmeCode_made "Uptime")).mp trips
  exact absurd asks.2.2.1 (by decide)

end Reliastra.Guarantees.EmbedCodes
