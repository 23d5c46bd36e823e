import Reliastra.Library.Xml
import Reliastra.Source.Badges.Service

/-!
# The documents of the badges

For each style the XML document that a badge is meant to be, of the texts it shows. What a
renderer returns is that document as a writer prints it that escapes `&`, `<` and `>` and
nothing else.
-/

namespace Reliastra.Source.Badges

open Reliastra.Library Markup

/-! ## Documents -/

def item (name value : String) : Attribute := (name.toList, value.toList)

/-- The blank between two elements. -/
def gap : Token := .chars [' ']

def rect (items : List Attribute) : List Token := [.empty "rect".toList items, gap]

/-- The text in an element, if there is one. -/
def content (text : String) : List Token := if text = "" then [] else [.chars text.toList]

def title (text : String) : List Token :=
  [.start "title".toList [], .chars text.toList, .stop "title".toList]

def svgItems (width height text : String) : List Attribute :=
  [item "xmlns" "http://www.w3.org/2000/svg", item "width" width, item "height" height,
    item "role" "img", item "aria-label" text]

/-- A badge with its label for those who do not see it, and in it the title and the image. -/
def svgDocument (width height text : String) (image : List Token) : List Token :=
  .start "svg".toList (svgItems width height text) :: (title text ++ image) ++ [.stop "svg".toList]

def gradient (id color opacity : String) : List Token :=
  [.start "linearGradient".toList [item "id" id, item "x2" "0", item "y2" "1"],
    .empty "stop".toList [item "offset" "0", item "stop-color" color, item "stop-opacity" opacity],
    gap, .empty "stop".toList [item "offset" "1", item "stop-opacity" ".1"],
    .stop "linearGradient".toList]

/-- The attributes that every text of a badge has. -/
def textItems (x y : Rat) : List Attribute :=
  [item "x" (fixed1 x), item "y" (fixed1 y), item "fill" "#fff", item "text-anchor" "middle",
    item "font-family" "Verdana,Geneva,DejaVu Sans,sans-serif"]

def textTokens (x y : Rat) (fonts : List Attribute) (text : String) : List Token :=
  .start "text".toList (textItems x y ++ fonts) :: content text ++ [.stop "text".toList]

/-- What the texts of a badge are, and its colour. -/
structure BadgeContent where
  label : String
  value : String
  color : String

/-- The text that is read to a user. -/
def BadgeContent.text (shown : BadgeContent) : String := shown.label ++ ": " ++ shown.value

def flatDocument (shown : BadgeContent) : List Token :=
  let labelW := textWidth (escape shown.label) (13 / 2) 20 10
  let valueW := textWidth (escape shown.value) (13 / 2) 20 10
  let totalW := labelW + valueW
  svgDocument (fixed0 totalW) "20" shown.text <|
    gradient "a" "#bbb" ".1" ++
    rect [item "width" (fixed0 totalW), item "height" "20", item "rx" "3", item "fill" "#555"] ++
    rect [item "x" (fixed0 labelW), item "width" (fixed0 valueW), item "height" "20",
      item "fill" shown.color] ++
    rect [item "width" (fixed0 totalW), item "height" "20", item "rx" "3", item "fill" "url(#a)"] ++
    textTokens (labelW / 2) (20 / 2 + 4) [item "font-size" "11"] shown.label ++ [gap] ++
    textTokens (labelW + valueW / 2) (20 / 2 + 4) [item "font-size" "11"] shown.value

def forTheBadgeDocument (shown : BadgeContent) : List Token :=
  let labelW := textWidth (escape shown.label) (15 / 2) 24 10
  let valueW := textWidth (escape shown.value) (15 / 2) 24 10
  let totalW := labelW + valueW
  let fonts := [item "font-size" "13", item "font-weight" "bold"]
  svgDocument (fixed0 totalW) "28" shown.text <|
    rect [item "width" (fixed0 totalW), item "height" "28", item "rx" "0", item "fill" "#555"] ++
    rect [item "x" (fixed0 labelW), item "width" (fixed0 valueW), item "height" "28",
      item "fill" shown.color] ++
    textTokens (labelW / 2) (28 / 2 + 5) fonts shown.label ++ [gap] ++
    textTokens (labelW + valueW / 2) (28 / 2 + 5) fonts shown.value

def plasticDocument (shown : BadgeContent) : List Token :=
  let labelW := textWidth (escape shown.label) (13 / 2) 20 10
  let valueW := textWidth (escape shown.value) (13 / 2) 20 10
  let totalW := labelW + valueW
  svgDocument (fixed0 totalW) "18" shown.text <|
    gradient "b" "#fff" ".1" ++ gradient "c" "#fff" ".2" ++
    rect [item "width" (fixed0 totalW), item "height" "18", item "rx" "4", item "fill" "#555"] ++
    rect [item "width" (fixed0 totalW), item "height" "18", item "rx" "4", item "fill" "url(#c)"] ++
    rect [item "x" (fixed0 labelW), item "width" (fixed0 valueW), item "height" "18",
      item "fill" shown.color] ++
    rect [item "x" (fixed0 labelW), item "width" (fixed0 valueW), item "height" "18",
      item "rx" "4", item "fill" "url(#b)"] ++
    textTokens (labelW / 2) (18 / 2 + 7 / 2) [item "font-size" "11"] shown.label ++ [gap] ++
    textTokens (labelW + valueW / 2) (18 / 2 + 7 / 2) [item "font-size" "11"] shown.value

def circle (cx cy r : String) : List Token :=
  [.empty "circle".toList [item "cx" cx, item "cy" cy, item "r" r, item "fill" "#fff",
    item "opacity" ".7"], gap]

def socialDocument (shown : BadgeContent) : List Token :=
  let iconW : Rat := 30
  let labelW := textWidth (escape shown.label) (13 / 2) 16 40
  let valueW := textWidth (escape shown.value) (13 / 2) 24 10
  let totalW := iconW + labelW + valueW
  svgDocument (fixed0 totalW) "20" shown.text <|
    gradient "d" "#bbb" ".1" ++
    rect [item "width" (fixed0 totalW), item "height" "20", item "rx" "3", item "fill" "#555"] ++
    rect [item "x" (fixed0 (iconW + labelW)), item "width" (fixed0 valueW), item "height" "20",
      item "fill" shown.color] ++
    rect [item "width" (fixed0 totalW), item "height" "20", item "rx" "3", item "fill" "url(#d)"] ++
    circle (fixed1 (iconW / 2)) (fixed1 (20 / 2)) (fixed0 (min 6 (iconW / 2 - 2))) ++
    textTokens (iconW + labelW / 2) (20 / 2 + 4) [item "font-size" "11"] shown.label ++ [gap] ++
    textTokens (iconW + labelW + valueW / 2) (20 / 2 + 4) [item "font-size" "11"] shown.value

def BadgeStyle.document : BadgeStyle → BadgeContent → List Token
  | .flat => flatDocument
  | .forTheBadge => forTheBadgeDocument
  | .plastic => plasticDocument
  | .social => socialDocument

/-- The texts that a style shows, with the latency. -/
def BadgeStyle.shown (upper : String → String) (badge : BadgeText) : BadgeStyle → BadgeContent
  | .forTheBadge =>
    ⟨upper badge.label, upper badge.value ++ latencySuffix "MS" badge.showLatency badge.latencyMs,
      badge.color⟩
  | _ =>
    ⟨badge.label, badge.value ++ latencySuffix "ms" badge.showLatency badge.latencyMs, badge.color⟩

/-! ## Words -/

/-- A text that is written as it is, in every place. -/
def plainWord (text : String) : Bool :=
  text.toList.all (fun c => Xml.isSafe c && c ≠ '&' && c ≠ '<' && c ≠ '>')

theorem plainWord_append (first second : String) :
    plainWord (first ++ second) = (plainWord first && plainWord second) := by
  unfold plainWord
  rw [String.toList_append, List.all_append]

theorem plain_digit {c : Char} (digit : c.isDigit = true) :
    (Xml.isSafe c && c ≠ '&' && c ≠ '<' && c ≠ '>') = true := by
  have other (d : Char) (letter : d.isDigit = false) : c ≠ d := by
    rintro rfl
    rw [letter] at digit
    cases digit
  have xml : Xml.isXmlChar c = true := by
    obtain ⟨low, high⟩ := Char.isDigit_iff_toNat.mp digit
    have zero : '0'.toNat = 48 := rfl
    have nine : '9'.toNat = 57 := rfl
    refine List.any_eq_true.mpr ⟨(0x20, 0xD7FF), by simp, ?_⟩
    rw [Bool.and_eq_true, decide_eq_true_iff, decide_eq_true_iff]
    omega
  simp [Xml.isSafe, xml, other '&' (by decide), other '<' (by decide), other '>' (by decide),
    other '"' (by decide), other '\t' (by decide), other '\n' (by decide), other '\r' (by decide)]

theorem plainWord_digits (n : Nat) : plainWord (toString n) = true := by
  unfold plainWord
  rw [List.all_eq_true]
  intro c member
  have place : c ∈ Nat.toDigits 10 n := by simpa using member
  exact plain_digit (Nat.isDigit_of_mem_toDigits (by decide) (by decide) place)

theorem plainWord_sign (x : Rat) : plainWord (sign x) = true := by
  unfold sign
  split <;> decide

theorem plainWord_fixed0 (x : Rat) : plainWord (fixed0 x) = true := by
  unfold fixed0
  rw [plainWord_append, plainWord_sign, plainWord_digits]
  rfl

theorem plainWord_fixed1 (x : Rat) : plainWord (fixed1 x) = true := by
  unfold fixed1
  rw [plainWord_append, plainWord_append, plainWord_append, plainWord_sign, plainWord_digits,
    plainWord_digits]
  decide

theorem plainWord_latencySuffix {unit : String} (plain : plainWord unit) (showLatency : Bool)
    (latencyMs : Option Rat) : plainWord (latencySuffix unit showLatency latencyMs) = true := by
  unfold latencySuffix
  split
  · split
    · rw [plainWord_append, plainWord_append, plainWord_fixed0, plain]
      decide
    · decide
  · decide

theorem plainWord_statusColor (status : String) : plainWord (statusColor status) = true := by
  unfold statusColor
  simp only [List.lookup_cons, List.lookup_nil]
  repeat' split
  all_goals decide

theorem escape_toList (text : String) : (escape text).toList = Xml.escape text.toList :=
  String.toList_ofList

theorem escape_append (first second : String) : escape (first ++ second) = escape first ++ escape second := by
  refine String.toList_injective ?_
  rw [String.toList_append, escape_toList, escape_toList, escape_toList, String.toList_append,
    Xml.escape_append]

/-- What is plain needs no escaping. -/
theorem xmlEscape_plain {text : String} (plain : plainWord text) :
    Xml.escape text.toList = text.toList := by
  unfold plainWord at plain
  rw [List.all_eq_true] at plain
  have one (c : Char) (member : c ∈ text.toList) : Xml.escapeChar c = [c] := by
    have kinds := plain c member
    simp only [Bool.and_eq_true, decide_eq_true_eq] at kinds
    simp [Xml.escapeChar, kinds]
  show text.toList.flatMap Xml.escapeChar = _
  rw [List.flatMap_congr one]
  exact List.flatMap_singleton' _

theorem escape_plain {text : String} (plain : plainWord text) : escape text = text := by
  refine String.toList_injective ?_
  rw [escape_toList, xmlEscape_plain plain]

/-! ## What the renderers return -/

theorem print_append (first second : List Token) :
    Markup.print Xml.escape (first ++ second) =
      Markup.print Xml.escape first ++ Markup.print Xml.escape second := List.flatMap_append

theorem print_item {name value : String} (plain : plainWord value) :
    printAttribute Xml.escape (item name value) = (" " ++ name ++ "=\"" ++ value ++ "\"").toList := by
  simp [printAttribute, item, xmlEscape_plain plain]

theorem print_gap : Markup.print Xml.escape [gap] = " ".toList := by decide

theorem print_content (text : String) :
    Markup.print Xml.escape (content text) = (escape text).toList := by
  rw [escape_toList]
  unfold content
  split
  · next none =>
    rw [none]
    rfl
  · exact List.append_nil _

/-- A rectangle whose attributes but the first are the same for every badge. -/
theorem print_rect_width {width tail : String} {rest : List Attribute} (plain : plainWord width)
    (same : '"' :: (rest.flatMap (printAttribute Xml.escape) ++ "/> ".toList) = tail.toList) :
    Markup.print Xml.escape (rect (item "width" width :: rest)) =
      ("<rect width=\"" ++ width ++ tail).toList := by
  have shown : Markup.print Xml.escape (rect (item "width" width :: rest)) =
      "<rect".toList ++ (printAttribute Xml.escape (item "width" width) ++
        (rest.flatMap (printAttribute Xml.escape) ++ "/> ".toList)) := by
    simp [Markup.print, rect, Token.print, gap, Xml.escape, Xml.escapeChar]
  rw [shown, print_item plain]
  simp [← same]

theorem print_rect_place {x width : String} {tail : List Char} {rest : List Attribute}
    (plainX : plainWord x) (plain : plainWord width)
    (same : '"' :: (rest.flatMap (printAttribute Xml.escape) ++ "/> ".toList) = tail) :
    Markup.print Xml.escape (rect (item "x" x :: item "width" width :: rest)) =
      ("<rect x=\"" ++ x ++ "\" width=\"" ++ width).toList ++ tail := by
  have shown : Markup.print Xml.escape (rect (item "x" x :: item "width" width :: rest)) =
      "<rect".toList ++ (printAttribute Xml.escape (item "x" x) ++
        (printAttribute Xml.escape (item "width" width) ++
          (rest.flatMap (printAttribute Xml.escape) ++ "/> ".toList))) := by
    simp [Markup.print, rect, Token.print, gap, Xml.escape, Xml.escapeChar]
  rw [shown, print_item plainX, print_item plain, ← same]
  simp

/-- A rectangle in the colour of the status. -/
theorem print_rect_fill {x width height color middle : String} (plainX : plainWord x)
    (plain : plainWord width) (plainColor : plainWord color)
    (same : '"' :: (printAttribute Xml.escape (item "height" height) ++ " fill=\"".toList) =
      middle.toList) :
    Markup.print Xml.escape (rect
        [item "x" x, item "width" width, item "height" height, item "fill" color]) =
      ("<rect x=\"" ++ x ++ "\" width=\"" ++ width ++ middle ++ color ++ "\"/> ").toList := by
  rw [print_rect_place plainX plain rfl]
  simp only [List.flatMap_cons, List.flatMap_nil, print_item plainColor, String.toList_append, ← same]
  simp

theorem print_gradient {id color opacity : String} (plainId : plainWord id)
    (plainColor : plainWord color) (plainOpacity : plainWord opacity) :
    Markup.print Xml.escape (gradient id color opacity) =
      ("<linearGradient id=\"" ++ id ++ "\" x2=\"0\" y2=\"1\">" ++
        "<stop offset=\"0\" stop-color=\"" ++ color ++ "\" stop-opacity=\"" ++ opacity ++ "\"/> " ++
        "<stop offset=\"1\" stop-opacity=\".1\"/></linearGradient>").toList := by
  simp only [Markup.print, gradient, List.flatMap_cons, List.flatMap_nil, Token.print]
  simp (disch := first | decide | assumption) only [print_item]
  simp [gap, Xml.escape, Xml.escapeChar]

theorem print_circle {cx cy r : String} (plainCx : plainWord cx) (plainCy : plainWord cy)
    (plainR : plainWord r) :
    Markup.print Xml.escape (circle cx cy r) =
      ("<circle cx=\"" ++ cx ++ "\" cy=\"" ++ cy ++ "\" r=\"" ++ r ++
        "\" fill=\"#fff\" opacity=\".7\"/> ").toList := by
  simp only [Markup.print, circle, List.flatMap_cons, List.flatMap_nil, Token.print]
  simp (disch := first | decide | assumption) only [print_item]
  simp [gap, Xml.escape, Xml.escapeChar]

theorem print_document (width : Rat) {height : String} (plain : plainWord height)
    (shown : BadgeContent) (image : List Token) :
    Markup.print Xml.escape (svgDocument (fixed0 width) height shown.text image) =
      (svgHead width height (escape shown.label) (escape shown.value)).toList ++
        (Markup.print Xml.escape image ++ "</svg>".toList) := by
  have plainWidth := plainWord_fixed0 width
  have text : Xml.escape shown.text.toList =
      (escape shown.label ++ ": " ++ escape shown.value).toList := by
    have colon : escape ": " = ": " := escape_plain (by decide)
    rw [← escape_toList, BadgeContent.text, escape_append, escape_append, colon]
  have aria : printAttribute Xml.escape (item "aria-label" shown.text) =
      (" aria-label=\"" ++ (escape shown.label ++ ": " ++ escape shown.value) ++ "\"").toList := by
    simp [printAttribute, item, text]
  delta svgHead
  simp only [Markup.print, svgDocument, svgItems, title, List.flatMap_append, List.flatMap_cons,
    List.flatMap_nil, Token.print, aria, text]
  generalize fixed0 width = shownWidth at plainWidth ⊢
  simp (disch := first | decide | assumption) only [print_item]
  simp

theorem print_textTokens (x y : Rat) {fonts : List Attribute} {font : String} (text : String)
    (printed : fonts.flatMap (printAttribute Xml.escape) = (" " ++ font).toList) :
    Markup.print Xml.escape (textTokens x y fonts text) =
      (textElement x y font (escape text)).toList := by
  have inner := print_content text
  have plainX := plainWord_fixed1 x
  have plainY := plainWord_fixed1 y
  unfold Markup.print at inner
  delta textElement
  simp only [Markup.print, textTokens, textItems, List.flatMap_append, List.flatMap_cons,
    List.flatMap_nil, Token.print, printed, inner]
  generalize fixed1 x = shownX at plainX ⊢
  generalize fixed1 y = shownY at plainY ⊢
  simp (disch := first | decide | assumption) only [print_item]
  simp [verdana]

/-- The suffix needs no escaping. -/
theorem escape_value (unit : String) (plain : plainWord unit) (value : String) (badge : BadgeText) :
    escape (value ++ latencySuffix unit badge.showLatency badge.latencyMs) =
      escape value ++ latencySuffix unit badge.showLatency badge.latencyMs := by
  rw [escape_append, escape_plain (plainWord_latencySuffix plain _ _)]

/-! ### The parts that are the same for every badge -/

theorem small : [item "font-size" "11"].flatMap (printAttribute Xml.escape) =
    (" " ++ "font-size=\"11\"").toList := by decide

theorem bold : [item "font-size" "13", item "font-weight" "bold"].flatMap
    (printAttribute Xml.escape) = (" " ++ "font-size=\"13\" font-weight=\"bold\"").toList := by
  decide

theorem gradient_a : Markup.print Xml.escape (gradient "a" "#bbb" ".1") =
    ("<linearGradient id=\"a\" x2=\"0\" y2=\"1\">" ++
      "<stop offset=\"0\" stop-color=\"#bbb\" stop-opacity=\".1\"/> " ++
      "<stop offset=\"1\" stop-opacity=\".1\"/></linearGradient>").toList := by
  rw [print_gradient (by decide) (by decide) (by decide)]
  simp [-String.reduceAppend]

theorem gradient_b : Markup.print Xml.escape (gradient "b" "#fff" ".1") =
    ("<linearGradient id=\"b\" x2=\"0\" y2=\"1\">" ++
      "<stop offset=\"0\" stop-color=\"#fff\" stop-opacity=\".1\"/> " ++
      "<stop offset=\"1\" stop-opacity=\".1\"/></linearGradient>").toList := by
  rw [print_gradient (by decide) (by decide) (by decide)]
  simp [-String.reduceAppend]

theorem gradient_c : Markup.print Xml.escape (gradient "c" "#fff" ".2") =
    ("<linearGradient id=\"c\" x2=\"0\" y2=\"1\">" ++
      "<stop offset=\"0\" stop-color=\"#fff\" stop-opacity=\".2\"/> " ++
      "<stop offset=\"1\" stop-opacity=\".1\"/></linearGradient>").toList := by
  rw [print_gradient (by decide) (by decide) (by decide)]
  simp [-String.reduceAppend]

theorem gradient_d : Markup.print Xml.escape (gradient "d" "#bbb" ".1") =
    ("<linearGradient id=\"d\" x2=\"0\" y2=\"1\">" ++
      "<stop offset=\"0\" stop-color=\"#bbb\" stop-opacity=\".1\"/> " ++
      "<stop offset=\"1\" stop-opacity=\".1\"/></linearGradient>").toList := by
  rw [print_gradient (by decide) (by decide) (by decide)]
  simp [-String.reduceAppend]

theorem frame_flat : '"' :: ([item "height" "20", item "rx" "3", item "fill" "#555"].flatMap
    (printAttribute Xml.escape) ++ "/> ".toList) = "\" height=\"20\" rx=\"3\" fill=\"#555\"/> ".toList := by decide

theorem shade_flat : '"' :: ([item "height" "20", item "rx" "3", item "fill" "url(#a)"].flatMap
    (printAttribute Xml.escape) ++ "/> ".toList) = "\" height=\"20\" rx=\"3\" fill=\"url(#a)\"/> ".toList := by decide

theorem frame_forTheBadge : '"' :: ([item "height" "28", item "rx" "0", item "fill" "#555"].flatMap
    (printAttribute Xml.escape) ++ "/> ".toList) = "\" height=\"28\" rx=\"0\" fill=\"#555\"/> ".toList := by decide

theorem frame_plastic : '"' :: ([item "height" "18", item "rx" "4", item "fill" "#555"].flatMap
    (printAttribute Xml.escape) ++ "/> ".toList) = "\" height=\"18\" rx=\"4\" fill=\"#555\"/> ".toList := by decide

theorem shade_plastic : '"' :: ([item "height" "18", item "rx" "4", item "fill" "url(#c)"].flatMap
    (printAttribute Xml.escape) ++ "/> ".toList) = "\" height=\"18\" rx=\"4\" fill=\"url(#c)\"/> ".toList := by decide

theorem gloss_plastic : '"' :: ([item "height" "18", item "rx" "4", item "fill" "url(#b)"].flatMap
    (printAttribute Xml.escape) ++ "/> ".toList) = "\" height=\"18\" rx=\"4\" fill=\"url(#b)\"/> ".toList := by decide

theorem shade_social : '"' :: ([item "height" "20", item "rx" "3", item "fill" "url(#d)"].flatMap
    (printAttribute Xml.escape) ++ "/> ".toList) = "\" height=\"20\" rx=\"3\" fill=\"url(#d)\"/> ".toList := by decide

theorem fill_flat : '"' :: (printAttribute Xml.escape (item "height" "20") ++ " fill=\"".toList) =
    "\" height=\"20\" fill=\"".toList := by decide

theorem fill_forTheBadge : '"' :: (printAttribute Xml.escape (item "height" "28") ++ " fill=\"".toList) =
    "\" height=\"28\" fill=\"".toList := by decide

theorem fill_plastic : '"' :: (printAttribute Xml.escape (item "height" "18") ++ " fill=\"".toList) =
    "\" height=\"18\" fill=\"".toList := by decide

/-! ### The four styles -/

section Styles
variable {badge : BadgeText} (plain : plainWord badge.color) (upper : String → String)
include plain

theorem svgFlat_document : (svgFlat badge).toList =
    Markup.print Xml.escape (flatDocument (BadgeStyle.flat.shown upper badge)) := by
  have value := escape_value "ms" (by decide) badge.value badge
  delta svgFlat flatDocument
  dsimp only [BadgeStyle.shown]
  rw [print_document _ (by decide)]
  simp only [print_append]
  rw [gradient_a, print_rect_width (plainWord_fixed0 _) frame_flat,
    print_rect_fill (plainWord_fixed0 _) (plainWord_fixed0 _) plain fill_flat,
    print_rect_width (plainWord_fixed0 _) shade_flat, print_textTokens _ _ _ small,
    print_textTokens _ _ _ small, print_gap]
  simp only [value, String.toList_append, List.append_assoc]

theorem svgForTheBadge_document : (svgForTheBadge upper badge).toList =
    Markup.print Xml.escape (forTheBadgeDocument (BadgeStyle.forTheBadge.shown upper badge)) := by
  have value := escape_value "MS" (by decide) (upper badge.value) badge
  delta svgForTheBadge forTheBadgeDocument
  dsimp only [BadgeStyle.shown]
  rw [print_document _ (by decide)]
  simp only [print_append]
  rw [print_rect_width (plainWord_fixed0 _) frame_forTheBadge,
    print_rect_fill (plainWord_fixed0 _) (plainWord_fixed0 _) plain fill_forTheBadge,
    print_textTokens _ _ _ bold, print_textTokens _ _ _ bold, print_gap]
  simp only [value, String.toList_append, List.append_assoc]

theorem svgPlastic_document : (svgPlastic badge).toList =
    Markup.print Xml.escape (plasticDocument (BadgeStyle.plastic.shown upper badge)) := by
  have value := escape_value "ms" (by decide) badge.value badge
  have gloss (x width : String) (plainX : plainWord x) (plainWidth : plainWord width) :
      Markup.print Xml.escape (rect [item "x" x, item "width" width, item "height" "18",
        item "rx" "4", item "fill" "url(#b)"]) = _ :=
    print_rect_place plainX plainWidth gloss_plastic
  delta svgPlastic plasticDocument
  dsimp only [BadgeStyle.shown]
  rw [print_document _ (by decide)]
  simp only [print_append]
  rw [gradient_b, gradient_c,
    print_rect_width (plainWord_fixed0 _) frame_plastic,
    print_rect_width (plainWord_fixed0 _) shade_plastic,
    print_rect_fill (plainWord_fixed0 _) (plainWord_fixed0 _) plain fill_plastic,
    gloss _ _ (plainWord_fixed0 _) (plainWord_fixed0 _), print_textTokens _ _ _ small,
    print_textTokens _ _ _ small, print_gap]
  simp only [value, String.toList_append, List.append_assoc]

theorem svgSocial_document : (svgSocial badge).toList =
    Markup.print Xml.escape (socialDocument (BadgeStyle.social.shown upper badge)) := by
  have value := escape_value "ms" (by decide) badge.value badge
  delta svgSocial socialDocument
  dsimp only [BadgeStyle.shown]
  rw [print_document _ (by decide)]
  simp only [print_append]
  rw [gradient_d, print_rect_width (plainWord_fixed0 _) frame_flat,
    print_rect_fill (plainWord_fixed0 _) (plainWord_fixed0 _) plain fill_flat,
    print_rect_width (plainWord_fixed0 _) shade_social,
    print_circle (plainWord_fixed1 _) (plainWord_fixed1 _) (plainWord_fixed0 _),
    print_textTokens _ _ _ small, print_textTokens _ _ _ small, print_gap]
  simp only [value, String.toList_append, List.append_assoc]

/-- Every renderer returns the document of its style, printed. -/
theorem render_document (style : BadgeStyle) : (style.render upper badge).toList =
    Markup.print Xml.escape (style.document (style.shown upper badge)) := by
  cases style with
  | flat => exact svgFlat_document plain upper
  | forTheBadge => exact svgForTheBadge_document plain upper
  | plastic => exact svgPlastic_document plain upper
  | social => exact svgSocial_document plain upper

end Styles

end Reliastra.Source.Badges
