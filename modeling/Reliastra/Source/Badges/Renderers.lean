import Mathlib.Data.Rat.Floor
import Reliastra.Source.Core.Text

/-!
# The four badge renderers

Source: `_escape` and the `_svg_*` functions of `app/modules/badges/service.py`. The
widths are multiples of a quarter, which floating point represents exactly, so they are
rationals; a latency is the rational its float stands for.
-/

namespace Reliastra.Source.Badges

/-! ## Formatted numbers -/

/-- The nearest integer, the even one of two. -/
def roundHalfEven (x : Rat) : Int :=
  let rest := x - x.floor
  if rest < 1 / 2 then x.floor
  else if 1 / 2 < rest then x.floor + 1
  else if x.floor % 2 = 0 then x.floor else x.floor + 1

def sign (x : Rat) : String := if x < 0 then "-" else ""

/-- `f"{x:.0f}"`. -/
def fixed0 (x : Rat) : String := sign x ++ toString (roundHalfEven |x|).toNat

/-- `f"{x:.1f}"`. -/
def fixed1 (x : Rat) : String :=
  let tenths := (roundHalfEven (|x| * 10)).toNat
  sign x ++ toString (tenths / 10) ++ "." ++ toString (tenths % 10)

/-! ## Texts -/

def escapeChar (c : Char) : List Char :=
  if c = '&' then "&amp;".toList
  else if c = '<' then "&lt;".toList
  else if c = '>' then "&gt;".toList
  else [c]

/-- `_escape`: `xml.sax.saxutils.escape`. -/
def escape (text : String) : String := String.ofList (text.toList.flatMap escapeChar)

/-- The latency behind a status, where it is shown. -/
def latencySuffix (unit : String) (showLatency : Bool) (latencyMs : Option Rat) : String :=
  match latencyMs with
  | some latency => if showLatency then " " ++ fixed0 latency ++ unit else ""
  | none => ""

/-- `max(len(text) * scale + margin, least)`. -/
def textWidth (text : String) (scale margin least : Rat) : Rat :=
  max (text.length * scale + margin) least

/-! ## Renderers -/

/-- What a renderer is called with. -/
structure BadgeText where
  label : String
  value : String
  color : String
  showLatency : Bool
  latencyMs : Option Rat
  deriving DecidableEq, Repr

def verdana : String := "font-family=\"Verdana,Geneva,DejaVu Sans,sans-serif\" "

/-- The two `<text>` elements differ in their place and content only. -/
def textElement (x y : Rat) (font text : String) : String :=
  "<text x=\"" ++ fixed1 x ++ "\" y=\"" ++ fixed1 y ++ "\" fill=\"#fff\" text-anchor=\"middle\" " ++
    verdana ++ font ++ ">" ++ text ++ "</text>"

/-- The start of every badge. -/
def svgHead (width : Rat) (height label value : String) : String :=
  "<svg xmlns=\"http://www.w3.org/2000/svg\" width=\"" ++ fixed0 width ++ "\" height=\"" ++ height ++
    "\" " ++ "role=\"img\" aria-label=\"" ++ label ++ ": " ++ value ++ "\">" ++
    "<title>" ++ label ++ ": " ++ value ++ "</title>"

def svgFlat (badge : BadgeText) : String :=
  let labelText := escape badge.label
  let valueText := escape badge.value ++ latencySuffix "ms" badge.showLatency badge.latencyMs
  let labelW := textWidth labelText (13 / 2) 20 10
  let valueW := textWidth valueText (13 / 2) 20 10
  let totalW := labelW + valueW
  svgHead totalW "20" labelText valueText ++
    "<linearGradient id=\"a\" x2=\"0\" y2=\"1\">" ++
    "<stop offset=\"0\" stop-color=\"#bbb\" stop-opacity=\".1\"/> " ++
    "<stop offset=\"1\" stop-opacity=\".1\"/></linearGradient>" ++
    "<rect width=\"" ++ fixed0 totalW ++ "\" height=\"20\" rx=\"3\" fill=\"#555\"/> " ++
    "<rect x=\"" ++ fixed0 labelW ++ "\" width=\"" ++ fixed0 valueW ++ "\" height=\"20\" fill=\"" ++
      badge.color ++ "\"/> " ++
    "<rect width=\"" ++ fixed0 totalW ++ "\" height=\"20\" rx=\"3\" fill=\"url(#a)\"/> " ++
    textElement (labelW / 2) (20 / 2 + 4) "font-size=\"11\"" labelText ++ " " ++
    textElement (labelW + valueW / 2) (20 / 2 + 4) "font-size=\"11\"" valueText ++
    "</svg>"

/-- `upper` is `str.upper()`. -/
def svgForTheBadge (upper : String → String) (badge : BadgeText) : String :=
  let labelText := escape (upper badge.label)
  let valueText :=
    escape (upper badge.value) ++ latencySuffix "MS" badge.showLatency badge.latencyMs
  let labelW := textWidth labelText (15 / 2) 24 10
  let valueW := textWidth valueText (15 / 2) 24 10
  let totalW := labelW + valueW
  svgHead totalW "28" labelText valueText ++
    "<rect width=\"" ++ fixed0 totalW ++ "\" height=\"28\" rx=\"0\" fill=\"#555\"/> " ++
    "<rect x=\"" ++ fixed0 labelW ++ "\" width=\"" ++ fixed0 valueW ++ "\" height=\"28\" fill=\"" ++
      badge.color ++ "\"/> " ++
    textElement (labelW / 2) (28 / 2 + 5) "font-size=\"13\" font-weight=\"bold\"" labelText ++ " " ++
    textElement (labelW + valueW / 2) (28 / 2 + 5) "font-size=\"13\" font-weight=\"bold\"" valueText ++
    "</svg>"

def svgPlastic (badge : BadgeText) : String :=
  let labelText := escape badge.label
  let valueText := escape badge.value ++ latencySuffix "ms" badge.showLatency badge.latencyMs
  let labelW := textWidth labelText (13 / 2) 20 10
  let valueW := textWidth valueText (13 / 2) 20 10
  let totalW := labelW + valueW
  svgHead totalW "18" labelText valueText ++
    "<linearGradient id=\"b\" x2=\"0\" y2=\"1\">" ++
    "<stop offset=\"0\" stop-color=\"#fff\" stop-opacity=\".1\"/> " ++
    "<stop offset=\"1\" stop-opacity=\".1\"/></linearGradient>" ++
    "<linearGradient id=\"c\" x2=\"0\" y2=\"1\">" ++
    "<stop offset=\"0\" stop-color=\"#fff\" stop-opacity=\".2\"/> " ++
    "<stop offset=\"1\" stop-opacity=\".1\"/></linearGradient>" ++
    "<rect width=\"" ++ fixed0 totalW ++ "\" height=\"18\" rx=\"4\" fill=\"#555\"/> " ++
    "<rect width=\"" ++ fixed0 totalW ++ "\" height=\"18\" rx=\"4\" fill=\"url(#c)\"/> " ++
    "<rect x=\"" ++ fixed0 labelW ++ "\" width=\"" ++ fixed0 valueW ++ "\" height=\"18\" fill=\"" ++
      badge.color ++ "\"/> " ++
    "<rect x=\"" ++ fixed0 labelW ++ "\" width=\"" ++ fixed0 valueW ++
      "\" height=\"18\" rx=\"4\" fill=\"url(#b)\"/> " ++
    textElement (labelW / 2) (18 / 2 + 7 / 2) "font-size=\"11\"" labelText ++ " " ++
    textElement (labelW + valueW / 2) (18 / 2 + 7 / 2) "font-size=\"11\"" valueText ++
    "</svg>"

def svgSocial (badge : BadgeText) : String :=
  let labelText := escape badge.label
  let valueText := escape badge.value ++ latencySuffix "ms" badge.showLatency badge.latencyMs
  let iconW : Rat := 30
  let labelW := textWidth labelText (13 / 2) 16 40
  let valueW := textWidth valueText (13 / 2) 24 10
  let totalW := iconW + labelW + valueW
  svgHead totalW "20" labelText valueText ++
    "<linearGradient id=\"d\" x2=\"0\" y2=\"1\">" ++
    "<stop offset=\"0\" stop-color=\"#bbb\" stop-opacity=\".1\"/> " ++
    "<stop offset=\"1\" stop-opacity=\".1\"/></linearGradient>" ++
    "<rect width=\"" ++ fixed0 totalW ++ "\" height=\"20\" rx=\"3\" fill=\"#555\"/> " ++
    "<rect x=\"" ++ fixed0 (iconW + labelW) ++ "\" width=\"" ++ fixed0 valueW ++
      "\" height=\"20\" fill=\"" ++ badge.color ++ "\"/> " ++
    "<rect width=\"" ++ fixed0 totalW ++ "\" height=\"20\" rx=\"3\" fill=\"url(#d)\"/> " ++
    "<circle cx=\"" ++ fixed1 (iconW / 2) ++ "\" cy=\"" ++ fixed1 (20 / 2) ++ "\" r=\"" ++
      fixed0 (min 6 (iconW / 2 - 2)) ++ "\" fill=\"#fff\" opacity=\".7\"/> " ++
    textElement (iconW + labelW / 2) (20 / 2 + 4) "font-size=\"11\"" labelText ++ " " ++
    textElement (iconW + labelW + valueW / 2) (20 / 2 + 4) "font-size=\"11\"" valueText ++
    "</svg>"

inductive BadgeStyle where
  | flat
  | forTheBadge
  | plastic
  | social
  deriving DecidableEq, Repr

/-- `BadgeStyle(style)`; `none` is `ValueError`. -/
def BadgeStyle.ofText (style : String) : Option BadgeStyle :=
  if style = "flat" then some .flat
  else if style = "for-the-badge" then some .forTheBadge
  else if style = "plastic" then some .plastic
  else if style = "social" then some .social
  else none

/-- `_STYLE_RENDERERS`. -/
def BadgeStyle.render (upper : String → String) : BadgeStyle → BadgeText → String
  | .flat => svgFlat
  | .forTheBadge => svgForTheBadge upper
  | .plastic => svgPlastic
  | .social => svgSocial

end Reliastra.Source.Badges
