import Reliastra.Source.Badges.Documents

/-!
# Which badges are the documents they should be

A badge of safe texts is read as the document of its style, in which the texts are character
data and the value of `aria-label` only. But the escaping is that of character data: a quote
ends the value early, and a tab or an end of line is read as a blank there, so with one of
these the label that is read is another; and a character that XML does not have can not be
written at all.
-/

namespace Reliastra.Guarantees.BadgeDocuments

open Reliastra.Library Markup Source Source.Badges

/-! ## What should hold of a badge -/

/-- The elements of a document and the attributes of each, without what they contain. -/
def shape (tokens : List Token) : List (List Char × List (List Char)) :=
  tokens.filterMap (fun token =>
    match token with
    | .start name items => some (name, items.map Prod.fst)
    | .empty name items => some (name ++ ['/'], items.map Prod.fst)
    | .stop name => some ('/' :: name, [])
    | .chars _ => none)

/-- An attribute of the outermost element. -/
def rootAttribute (name : List Char) (tokens : List Token) : Option (List Char) :=
  match tokens.head? with
  | some (.start _ items) => items.lookup name
  | some (.empty _ items) => items.lookup name
  | _ => none

/-- A badge with its status. -/
def badge (label value status : String) (showLatency : Bool) (latencyMs : Option Rat) : BadgeText :=
  ⟨label, value, statusColor status, showLatency, latencyMs⟩

/-- The renderer returns well-formed XML that has the elements and attributes of its style,
and whose label is read as the two texts. -/
def WellFormedBadge (upper : String → String) (style : BadgeStyle) (badge : BadgeText) : Prop :=
  ∃ tokens, Xml.parse (style.render upper badge).toList = some tokens ∧
    shape tokens = shape (style.document (style.shown upper badge)) ∧
    rootAttribute "aria-label".toList tokens = some (style.shown upper badge).text.toList

/-- A text as the style shows it, without the latency. -/
def asShown (upper : String → String) (style : BadgeStyle) (text : String) : String :=
  if style = .forTheBadge then upper text else text

/-- XML has its characters, and no quote, tab or end of line is among them. -/
def Safe (text : String) : Prop :=
  ∀ c ∈ text.toList, Xml.isXmlChar c = true ∧ c ≠ '"' ∧ c ≠ '\t' ∧ c ≠ '\n' ∧ c ≠ '\r'

theorem safe_iff (text : String) : Safe text ↔ Xml.safeText text.toList = true :=
  Xml.safeText_iff.symm

/-! ## The documents -/

section Documents
variable {shown : BadgeContent}

theorem safe_of_plain {text : String} (plain : plainWord text) : Xml.safeText text.toList = true := by
  unfold plainWord at plain
  rw [List.all_eq_true] at plain
  refine List.all_eq_true.mpr (fun c member => ?_)
  have kinds := plain c member
  rw [Bool.and_eq_true, Bool.and_eq_true, Bool.and_eq_true] at kinds
  exact kinds.1.1.1

theorem safeItem_plain {name value : String} (named : isName name.toList && Xml.safeText name.toList)
    (plain : plainWord value) : Xml.safeItem (item name value) = true := by
  rw [Xml.safeItem, Bool.and_eq_true]
  exact ⟨named, safe_of_plain plain⟩

theorem safe_content {text : String} (safe : Xml.safeText text.toList) :
    (content text).all Xml.safeToken = true := by
  unfold content
  split
  · rfl
  · next some =>
    have nonempty : text.toList ≠ [] := fun none => some (String.toList_eq_nil_iff.mp none)
    simp [Xml.safeToken, nonempty, safe]

theorem fragment_title {text : String} (safe : Xml.safeText text.toList) (some : text.toList ≠ []) :
    Xml.Fragment (title text) := by
  have inner : Xml.safeToken (.chars text.toList) = true := by simp [Xml.safeToken, safe, some]
  show Xml.Fragment (.start "title".toList [] :: [.chars text.toList] ++ [.stop "title".toList])
  exact Xml.fragment_element (by decide) (by decide) (by rw [List.all_cons, inner]; rfl) rfl
    (fun _ _ _ => rfl) (List.IsChain.singleton _)

/-- A tag of an empty element with the blank behind it. -/
theorem fragment_gap {name : List Char} {items : List Attribute}
    (safe : Xml.safeToken (.empty name items)) (unique : Xml.uniqueNames (.empty name items)) :
    Xml.Fragment [.empty name items, gap] :=
  (Xml.fragment_empty safe unique).chars (by simp) (by simp [Token.isChars]) (by decide)

theorem fragment_rect {items : List Attribute} (safe : items.all Xml.safeItem)
    (unique : Xml.uniqueNames (.empty "rect".toList items)) : Xml.Fragment (rect items) := by
  refine fragment_gap ?_ unique
  rw [Xml.safeToken, safe]
  decide

theorem fragment_wide (width : Rat) {rest : List Attribute} (safe : rest.all Xml.safeItem)
    (unique : Xml.uniqueNames (.empty "rect".toList (item "width" (fixed0 width) :: rest))) :
    Xml.Fragment (rect (item "width" (fixed0 width) :: rest)) := by
  refine fragment_rect ?_ unique
  rw [List.all_cons, safeItem_plain (by decide) (plainWord_fixed0 width), safe]
  rfl

theorem fragment_placed (x width : Rat) {rest : List Attribute} (safe : rest.all Xml.safeItem)
    (unique : Xml.uniqueNames (.empty "rect".toList
      (item "x" (fixed0 x) :: item "width" (fixed0 width) :: rest))) :
    Xml.Fragment (rect (item "x" (fixed0 x) :: item "width" (fixed0 width) :: rest)) := by
  refine fragment_rect ?_ unique
  rw [List.all_cons, List.all_cons, safeItem_plain (by decide) (plainWord_fixed0 x),
    safeItem_plain (by decide) (plainWord_fixed0 width), safe]
  rfl

theorem fragment_fill (x width : Rat) {height color : String} (plainHeight : plainWord height)
    (plainColor : plainWord color) :
    Xml.Fragment (rect [item "x" (fixed0 x), item "width" (fixed0 width), item "height" height,
      item "fill" color]) := by
  refine fragment_placed x width ?_ rfl
  simp (disch := first | decide | assumption) only [List.all_cons, List.all_nil, safeItem_plain]
  rfl

theorem fragment_circle {cx cy r : String} (plainCx : plainWord cx) (plainCy : plainWord cy)
    (plainR : plainWord r) : Xml.Fragment (circle cx cy r) := by
  refine fragment_gap ?_ rfl
  have items : [item "cx" cx, item "cy" cy, item "r" r, item "fill" "#fff",
      item "opacity" ".7"].all Xml.safeItem = true := by
    simp (disch := first | decide | assumption) only [List.all_cons, List.all_nil, safeItem_plain]
    rfl
  rw [Xml.safeToken, items]
  decide

theorem fragment_gradient {id color opacity : String} (plainId : plainWord id)
    (plainColor : plainWord color) (plainOpacity : plainWord opacity) :
    Xml.Fragment (gradient id color opacity) := by
  have items : [item "id" id, item "x2" "0", item "y2" "1"].all Xml.safeItem = true := by
    simp (disch := first | decide | assumption) only [List.all_cons, List.all_nil, safeItem_plain]
    rfl
  have first : [item "offset" "0", item "stop-color" color, item "stop-opacity" opacity].all
      Xml.safeItem = true := by
    simp (disch := first | decide | assumption) only [List.all_cons, List.all_nil, safeItem_plain]
    rfl
  have start : Xml.Fragment [.empty "stop".toList
      [item "offset" "0", item "stop-color" color, item "stop-opacity" opacity], gap] :=
    fragment_gap (by rw [Xml.safeToken, first]; decide) rfl
  have stop : Xml.Fragment
      [.empty "stop".toList [item "offset" "1", item "stop-opacity" ".1"]] :=
    Xml.fragment_empty (by decide) (by decide)
  have safe : Xml.safeToken (.start "linearGradient".toList
      [item "id" id, item "x2" "0", item "y2" "1"]) = true := by
    rw [Xml.safeToken, items]
    decide
  exact (start.append stop).element safe rfl

theorem fragment_text (x y : Rat) {fonts : List Attribute} {text : String}
    (safeFonts : fonts.all Xml.safeItem)
    (unique : Xml.uniqueNames (.start "text".toList (textItems x y ++ fonts)))
    (safe : Xml.safeText text.toList) : Xml.Fragment (textTokens x y fonts text) := by
  have plainX := plainWord_fixed1 x
  have plainY := plainWord_fixed1 y
  have items : (textItems x y).all Xml.safeItem = true := by
    unfold textItems
    generalize fixed1 x = shownX at plainX ⊢
    generalize fixed1 y = shownY at plainY ⊢
    simp (disch := first | decide | assumption) only [List.all_cons, List.all_nil, safeItem_plain]
    rfl
  refine Xml.fragment_element ?_ unique (safe_content safe) ?_ ?_ ?_
  · rw [Xml.safeToken, List.all_append, items, safeFonts]
    decide
  · unfold content
    split <;> rfl
  · intro name opened rest
    unfold content
    split <;> rfl
  · unfold content
    split
    · exact List.IsChain.nil
    · exact List.IsChain.singleton _

theorem last_text (before : List Token) (x y : Rat) (fonts : List Attribute) (text : String)
    {token : Token} (last : token ∈ (before ++ textTokens x y fonts text).getLast?) :
    token.isChars = false := by
  unfold textTokens at last
  rw [← List.append_assoc, List.getLast?_append] at last
  cases last
  rfl

/-- The two texts behind the rest of the image. -/
theorem fragment_texts {image : List Token} (fragment : Xml.Fragment image) (x y x' y' : Rat)
    {fonts : List Attribute} (safeFonts : fonts.all Xml.safeItem)
    (unique : ∀ x y, Xml.uniqueNames (.start "text".toList (textItems x y ++ fonts)))
    (safeLabel : Xml.safeText shown.label.toList) (safeValue : Xml.safeText shown.value.toList) :
    Xml.Fragment (image ++ textTokens x y fonts shown.label ++ [gap] ++
      textTokens x' y' fonts shown.value) := by
  have label := fragment.append (fragment_text x y safeFonts (unique x y) safeLabel)
  have behind : Xml.Fragment (image ++ textTokens x y fonts shown.label ++ [gap]) :=
    label.chars (by simp [textTokens]) (fun _ last => last_text _ _ _ _ _ last) (by decide)
  exact behind.append (fragment_text x' y' safeFonts (unique x' y') safeValue)

/-- The frame of a document, and the image in it. -/
def Framed (shown : BadgeContent) (tokens : List Token) : Prop :=
  ∃ width height image, plainWord width = true ∧ plainWord height = true ∧ Xml.Fragment image ∧
    tokens = svgDocument width height shown.text image

section Images
variable (plain : plainWord shown.color) (safeLabel : Xml.safeText shown.label.toList)
  (safeValue : Xml.safeText shown.value.toList)
include plain safeLabel safeValue

theorem framed_flat : Framed shown (flatDocument shown) := by
  refine ⟨_, _, _, plainWord_fixed0 _, by decide, ?_, rfl⟩
  refine fragment_texts ?_ _ _ _ _ (by decide) (fun _ _ => rfl) safeLabel safeValue
  refine ((Xml.Fragment.append ?_ ?_).append ?_).append ?_
  · exact fragment_gradient (by decide) (by decide) (by decide)
  · exact fragment_wide _ (by decide) rfl
  · exact fragment_fill _ _ (by decide) plain
  · exact fragment_wide _ (by decide) rfl

theorem framed_forTheBadge : Framed shown (forTheBadgeDocument shown) := by
  refine ⟨_, _, _, plainWord_fixed0 _, by decide, ?_, rfl⟩
  refine fragment_texts ?_ _ _ _ _ (by decide) (fun _ _ => rfl) safeLabel safeValue
  refine Xml.Fragment.append ?_ ?_
  · exact fragment_wide _ (by decide) rfl
  · exact fragment_fill _ _ (by decide) plain

theorem framed_plastic : Framed shown (plasticDocument shown) := by
  refine ⟨_, _, _, plainWord_fixed0 _, by decide, ?_, rfl⟩
  refine fragment_texts ?_ _ _ _ _ (by decide) (fun _ _ => rfl) safeLabel safeValue
  refine ((((Xml.Fragment.append ?_ ?_).append ?_).append ?_).append ?_).append ?_
  · exact fragment_gradient (by decide) (by decide) (by decide)
  · exact fragment_gradient (by decide) (by decide) (by decide)
  · exact fragment_wide _ (by decide) rfl
  · exact fragment_wide _ (by decide) rfl
  · exact fragment_fill _ _ (by decide) plain
  · exact fragment_placed _ _ (by decide) rfl

theorem framed_social : Framed shown (socialDocument shown) := by
  refine ⟨_, _, _, plainWord_fixed0 _, by decide, ?_, rfl⟩
  refine fragment_texts ?_ _ _ _ _ (by decide) (fun _ _ => rfl) safeLabel safeValue
  refine (((Xml.Fragment.append ?_ ?_).append ?_).append ?_).append ?_
  · exact fragment_gradient (by decide) (by decide) (by decide)
  · exact fragment_wide _ (by decide) rfl
  · exact fragment_fill _ _ (by decide) plain
  · exact fragment_wide _ (by decide) rfl
  · exact fragment_circle (plainWord_fixed1 _) (plainWord_fixed1 _) (plainWord_fixed0 _)

theorem framed (style : BadgeStyle) : Framed shown (style.document shown) := by
  cases style with
  | flat => exact framed_flat plain safeLabel safeValue
  | forTheBadge => exact framed_forTheBadge plain safeLabel safeValue
  | plastic => exact framed_plastic plain safeLabel safeValue
  | social => exact framed_social plain safeLabel safeValue

/-- A document of safe texts is read back. -/
theorem parse_document (style : BadgeStyle) :
    Xml.parse (Markup.print Xml.escape (style.document shown)) = some (style.document shown) := by
  obtain ⟨width, height, image, plainWidth, plainHeight, fragment, equal⟩ :=
    framed plain safeLabel safeValue style
  have colon : Xml.safeText ": ".toList = true := by decide
  have safe : Xml.safeText shown.text.toList = true := by
    rw [BadgeContent.text, String.toList_append, String.toList_append, Xml.safeText_append,
      Xml.safeText_append, safeLabel, safeValue, colon]
    rfl
  have some : shown.text.toList ≠ [] := by simp [BadgeContent.text]
  have aria : Xml.safeItem (item "aria-label" shown.text) = true := by
    have named : (isName "aria-label".toList && Xml.safeText "aria-label".toList) = true := by decide
    exact Bool.and_eq_true_iff.mpr ⟨named, safe⟩
  have items : (svgItems width height shown.text).all Xml.safeItem = true := by
    unfold svgItems
    simp (disch := first | decide | assumption) only [List.all_cons, List.all_nil, aria,
      safeItem_plain]
    rfl
  rw [equal]
  refine Xml.Fragment.parse_print ((fragment_title safe some).append fragment) ?_ rfl
  rw [Xml.safeToken, items]
  decide

end Images

/-! ### Every document -/

theorem document_form (shown : BadgeContent) (style : BadgeStyle) :
    ∃ width height image, plainWord width = true ∧ plainWord height = true ∧
      style.document shown = svgDocument width height shown.text image := by
  cases style with
  | flat => exact ⟨_, _, _, plainWord_fixed0 _, by decide, rfl⟩
  | forTheBadge => exact ⟨_, _, _, plainWord_fixed0 _, by decide, rfl⟩
  | plastic => exact ⟨_, _, _, plainWord_fixed0 _, by decide, rfl⟩
  | social => exact ⟨_, _, _, plainWord_fixed0 _, by decide, rfl⟩

theorem shape_append (first second : List Token) :
    shape (first ++ second) = shape first ++ shape second := List.filterMap_append

theorem shape_content (text : String) : shape (content text) = [] := by
  unfold content
  split <;> rfl

theorem shape_cons (token : Token) (rest : List Token) :
    shape (token :: rest) = shape [token] ++ shape rest := shape_append [token] rest

theorem shape_textTokens (x y : Rat) (fonts : List Attribute) (text : String) :
    shape (textTokens x y fonts text) =
      [("text".toList, (textItems 0 0 ++ fonts).map Prod.fst), ("/text".toList, [])] := by
  unfold textTokens
  rw [shape_append, shape_cons, shape_content, List.append_nil]
  rfl

theorem shape_svgDocument (width height text : String) (image : List Token) :
    shape (svgDocument width height text image) =
      shape [.start "svg".toList (svgItems "" "" "")] ++
        (shape (title "") ++ shape image ++ shape [.stop "svg".toList]) := by
  unfold svgDocument
  rw [shape_append, shape_cons, shape_append, List.append_assoc]
  rfl

theorem shape_rect (items : List Attribute) :
    shape (rect items) = [("rect".toList ++ ['/'], items.map Prod.fst)] := rfl

theorem fst_item (name value : String) : (item name value).1 = name.toList := rfl

/-- The elements and attributes of a badge are those of its style. -/
theorem shape_document (style : BadgeStyle) (shown other : BadgeContent) :
    shape (style.document shown) = shape (style.document other) := by
  cases style with
  | flat =>
    show shape (flatDocument shown) = shape (flatDocument other)
    delta flatDocument
    simp only [shape_svgDocument, shape_append, shape_textTokens, shape_rect, List.map_cons, fst_item]
  | forTheBadge =>
    show shape (forTheBadgeDocument shown) = shape (forTheBadgeDocument other)
    delta forTheBadgeDocument
    simp only [shape_svgDocument, shape_append, shape_textTokens, shape_rect, List.map_cons, fst_item]
  | plastic =>
    show shape (plasticDocument shown) = shape (plasticDocument other)
    delta plasticDocument
    simp only [shape_svgDocument, shape_append, shape_textTokens, shape_rect, List.map_cons, fst_item]
  | social =>
    show shape (socialDocument shown) = shape (socialDocument other)
    delta socialDocument
    simp only [shape_svgDocument, shape_append, shape_textTokens, shape_rect, List.map_cons, fst_item]

theorem rootAttribute_svgDocument (width height text : String) (image : List Token) :
    rootAttribute "aria-label".toList (svgDocument width height text image) = some text.toList := rfl

end Documents

/-! ## What is read -/

section Reading
variable {shown : BadgeContent}

theorem print_svgDocument (width height : String) (image : List Token) :
    Markup.print Xml.escape (svgDocument width height shown.text image) =
      '<' :: ("svg".toList ++ ([item "xmlns" "http://www.w3.org/2000/svg", item "width" width,
        item "height" height, item "role" "img"].flatMap (printAttribute Xml.escape) ++
        ' ' :: ("aria-label".toList ++ '=' :: '"' :: (Xml.escape shown.text.toList ++
          '"' :: ('>' :: Markup.print Xml.escape (title shown.text ++ image ++
            [.stop "svg".toList])))))) := by
  simp only [Markup.print, svgDocument, svgItems, List.cons_append, List.flatMap_cons, Token.print,
    List.flatMap_nil, List.append_assoc, List.flatMap_append]
  simp [printAttribute, item]

/-- The label of whatever is read of a badge has no quote, tab or end of line. -/
theorem label_of_parse {width height : String} (plainWidth : plainWord width)
    (plainHeight : plainWord height) {image tokens : List Token}
    (parsed : Xml.parse (Markup.print Xml.escape (svgDocument width height shown.text image)) =
      some tokens) :
    (∀ c ∈ shown.text.toList, Xml.isXmlChar c = true) ∧
      ∃ content, rootAttribute "aria-label".toList tokens = some content ∧
        ∀ c ∈ content, c ≠ '"' ∧ c ≠ '\t' ∧ c ≠ '\n' ∧ c ≠ '\r' := by
  rw [print_svgDocument] at parsed
  have items : [item "xmlns" "http://www.w3.org/2000/svg", item "width" width,
      item "height" height, item "role" "img"].all Xml.safeItem = true := by
    simp (disch := first | decide | assumption) only [List.all_cons, List.all_nil, safeItem_plain]
    rfl
  obtain ⟨chars, content, more, clean, first⟩ :=
    Xml.parse_open (by rw [Xml.safeToken, items]; decide) (by decide) parsed
  refine ⟨chars, content, ?_, clean⟩
  unfold rootAttribute
  rcases first with head | head
  · rw [head]
    rfl
  · rw [head]
    rfl

end Reading

/-- The latency does not matter to what can be shown. -/
theorem safe_shown (upper : String → String) (style : BadgeStyle) (badge : BadgeText) :
    Safe (style.shown upper badge).text ↔
      Safe (asShown upper style badge.label) ∧ Safe (asShown upper style badge.value) := by
  have colon : Xml.safeText ": ".toList = true := by decide
  have suffix (unit : String) (plain : plainWord unit) : Xml.safeText
      (latencySuffix unit badge.showLatency badge.latencyMs).toList = true :=
    safe_of_plain (plainWord_latencySuffix plain _ _)
  rw [safe_iff, safe_iff, safe_iff, BadgeContent.text, String.toList_append, String.toList_append,
    Xml.safeText_append, Xml.safeText_append, colon, Bool.and_true, ← Bool.and_eq_true]
  cases style <;>
    simp only [BadgeStyle.shown, asShown, String.toList_append, Xml.safeText_append,
      suffix "ms" (by decide), suffix "MS" (by decide), Bool.and_true] <;>
    simp

/-! ## Every label and every status -/

theorem parse_shown {upper : String → String} {style : BadgeStyle} {badge : BadgeText}
    (plain : plainWord badge.color) (safe : Safe (style.shown upper badge).text) :
    Xml.parse (Markup.print Xml.escape (style.document (style.shown upper badge))) =
      some (style.document (style.shown upper badge)) := by
  have color : (style.shown upper badge).color = badge.color := by cases style <;> rfl
  rw [safe_iff, BadgeContent.text, String.toList_append, String.toList_append,
    Xml.safeText_append, Xml.safeText_append, Bool.and_eq_true, Bool.and_eq_true] at safe
  exact parse_document (by rw [color]; exact plain) safe.1.1 safe.2 style

theorem wellFormedBadge_iff (upper : String → String) (style : BadgeStyle) {badge : BadgeText}
    (plain : plainWord badge.color) :
    WellFormedBadge upper style badge ↔
      Safe (asShown upper style badge.label) ∧ Safe (asShown upper style badge.value) := by
  rw [← safe_shown]
  obtain ⟨width, height, image, plainWidth, plainHeight, form⟩ :=
    document_form (style.shown upper badge) style
  unfold WellFormedBadge
  rw [render_document plain]
  constructor
  · intro ⟨tokens, parsed, _, label⟩
    rw [form] at parsed
    obtain ⟨chars, content, found, clean⟩ := label_of_parse plainWidth plainHeight parsed
    rw [label] at found
    cases found
    exact fun c member => ⟨chars c member, clean c member⟩
  · intro safe
    have parsed := parse_shown plain safe
    refine ⟨_, parsed, rfl, ?_⟩
    rw [form]
    exact rootAttribute_svgDocument ..

/-- A badge is well-formed and reads as its texts exactly if XML has their characters and no
quote, tab or end of line is among them. It then is the document of its style, with the
texts as character data and as the label; and that document has the same elements and
attributes for all texts. -/
theorem badges_well_formed_iff (upper : String → String) (style : BadgeStyle)
    (label value status : String) (showLatency : Bool) (latencyMs : Option Rat) :
    (WellFormedBadge upper style (badge label value status showLatency latencyMs) ↔
      Safe (asShown upper style label) ∧ Safe (asShown upper style value)) ∧
    (Safe (asShown upper style label) ∧ Safe (asShown upper style value) →
      Xml.parse (style.render upper (badge label value status showLatency latencyMs)).toList =
        some (style.document
          (style.shown upper (badge label value status showLatency latencyMs)))) ∧
    ∀ shown other, shape (style.document shown) = shape (style.document other) := by
  have plain : plainWord (badge label value status showLatency latencyMs).color :=
    plainWord_statusColor status
  refine ⟨wellFormedBadge_iff upper style plain, fun safe => ?_, shape_document style⟩
  rw [render_document plain]
  exact parse_shown plain ((safe_shown upper style _).mpr safe)

/-- A label with a quote ends the attribute that it stands in, and begins another. -/
theorem quoted_label_fails :
    ¬ WellFormedBadge Text.upper .flat
      (badge "x\" onload=\"y" "Operational" "operational" false none) := by
  intro formed
  have safe := ((wellFormedBadge_iff Text.upper .flat (plainWord_statusColor _)).mp formed).1
  exact (safe '"' (by decide)).2.1 rfl

end Reliastra.Guarantees.BadgeDocuments
