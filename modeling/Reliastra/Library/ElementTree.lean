import Reliastra.Library.Xml

/-!
# Trees of elements as XML

A tree is written with what XML gives a meaning to escaped: `&`, `<` and `>` in texts, in
values of attributes also the quote and the white space that a reader would normalise. All
names are in one namespace, which the outermost element declares, or in none. The reader
takes a document apart into tokens, resolves the references and puts the tree together
with the elements that are still open on a stack. A tree is read back as it was written,
with a line feed for every end of line in its texts, exactly if all its characters are
ones that XML allows.
-/

namespace Reliastra.Library.ElementTree

open Markup

/-! ## Trees -/

structure Tag where
  uri : List Char
  name : List Char
  deriving DecidableEq, Repr

/-- The elements in an element, each with what is in it and the text behind it. -/
inductive Content where
  | nil
  | cons (tag : Tag) (items : List Attribute) (text : List Char) (inner : Content)
      (tail : List Char) (rest : Content)
  deriving DecidableEq, Repr

structure Element where
  tag : Tag
  items : List Attribute
  text : List Char
  inner : Content
  deriving DecidableEq, Repr

namespace Content

def append : Content → Content → Content
  | .nil, more => more
  | .cons tag items text inner tail rest, more => .cons tag items text inner tail (rest.append more)

/-- Text at the end goes behind the last element. -/
def addTail : Content → List Char → Content
  | .nil, _ => .nil
  | .cons tag items text inner tail .nil, more => .cons tag items text inner (tail ++ more) .nil
  | .cons tag items text inner tail rest, more => .cons tag items text inner tail (rest.addTail more)

theorem append_assoc (first second third : Content) :
    (first.append second).append third = first.append (second.append third) := by
  induction first with
  | nil => rfl
  | cons tag items text inner tail rest _ ih => exact congrArg (cons tag items text inner tail) ih

@[simp] theorem append_nil (content : Content) : content.append .nil = content := by
  induction content with
  | nil => rfl
  | cons tag items text inner tail rest _ ih => exact congrArg (cons tag items text inner tail) ih

theorem append_ne_nil (content : Content) (tag : Tag) (items : List Attribute) (text : List Char)
    (inner : Content) (tail : List Char) (rest : Content) :
    content.append (.cons tag items text inner tail rest) ≠ .nil := by
  cases content <;> simp [append]

theorem addTail_append (content : Content) (tag : Tag) (items : List Attribute) (text : List Char)
    (inner : Content) (tail more : List Char) :
    (content.append (.cons tag items text inner tail .nil)).addTail more =
      content.append (.cons tag items text inner (tail ++ more) .nil) := by
  induction content with
  | nil => rfl
  | cons first others front within behind rest _ ih =>
    have later : rest.append (.cons tag items text inner tail .nil) ≠ .nil :=
      append_ne_nil rest tag items text inner tail .nil
    show (cons first others front within behind
      (rest.append (.cons tag items text inner tail .nil))).addTail more = _
    rw [addTail]
    · rw [ih]
      rfl
    · exact later

/-- The elements of a list, with nothing between them. -/
def ofElements : List Element → Content
  | [] => .nil
  | e :: rest => .cons e.tag e.items e.text e.inner [] (ofElements rest)

def elements : Content → List Element
  | .nil => []
  | .cons tag items text inner _ rest => ⟨tag, items, text, inner⟩ :: rest.elements

@[simp] theorem elements_ofElements (list : List Element) : (ofElements list).elements = list := by
  induction list with
  | nil => rfl
  | cons e rest ih => simp [ofElements, elements, ih]

/-- `find` for the tag of a child: the first one with it. -/
def find (content : Content) (tag : Tag) : Option Element :=
  content.elements.find? (fun e => decide (e.tag = tag))

end Content

/-! ## Writing -/

/-- A character of an attribute's value. -/
def escapeAttribChar (c : Char) : List Char :=
  if c = '"' then "&quot;".toList
  else if c = '\r' then "&#13;".toList
  else if c = '\n' then "&#10;".toList
  else if c = '\t' then "&#09;".toList
  else Xml.escapeChar c

def escapeAttrib (value : List Char) : List Char := value.flatMap escapeAttribChar

/-- A text that is there. -/
def charTokens (text : List Char) : List Token := if text = [] then [] else [.chars text]

/-- An element around the tokens of what is in it; one that has nothing is empty. -/
def elementTokens (name : List Char) (items : List Attribute) (inside : List Token) : List Token :=
  if inside = [] then [.empty name items] else .start name items :: (inside ++ [.stop name])

def Content.tokens : Content → List Token
  | .nil => []
  | .cons tag items text inner tail rest =>
    elementTokens tag.name items (charTokens text ++ inner.tokens) ++ (charTokens tail ++ rest.tokens)

/-- The declaration of the namespace, where there is one. -/
def declared (uri : List Char) : List Attribute :=
  if uri = [] then [] else [("xmlns".toList, uri)]

def Element.tokens (e : Element) : List Token :=
  elementTokens e.tag.name (declared e.tag.uri ++ e.items) (charTokens e.text ++ e.inner.tokens)

def tokenText : Token → List Char
  | .start name items => '<' :: name ++ items.flatMap (printAttribute escapeAttrib) ++ ['>']
  | .empty name items =>
    '<' :: name ++ items.flatMap (printAttribute escapeAttrib) ++ [' ', '/', '>']
  | .stop name => '<' :: '/' :: name ++ ['>']
  | .chars text => Xml.escape text

def declaration : List Char := "<?xml version='1.0' encoding='utf-8'?>\n".toList

/-- `tostring` with the declaration. -/
def Element.toText (e : Element) : List Char := declaration ++ e.tokens.flatMap tokenText

/-! ## References -/

/-- The number a text of digits stands for. -/
def decimal : List Char → Option Nat
  | [] => none
  | digits =>
    if digits.all Char.isDigit then some (digits.foldl (fun n c => 10 * n + (c.toNat - 48)) 0)
    else none

def hexDigit (c : Char) : Option Nat :=
  if c.isDigit then some (c.toNat - 48)
  else if 'a' ≤ c ∧ c ≤ 'f' then some (c.toNat - 87)
  else if 'A' ≤ c ∧ c ≤ 'F' then some (c.toNat - 55)
  else none

def hexadecimal : List Char → Option Nat
  | [] => none
  | digits => digits.foldlM (fun n c => (hexDigit c).map (16 * n + ·)) 0

/-- The character of a number, which XML has to allow. -/
def charOf (n : Nat) : Option Char :=
  if (Char.ofNat n).toNat = n ∧ Xml.isXmlChar (Char.ofNat n) then some (Char.ofNat n) else none

/-- What a reference stands for. -/
def referenced (name : List Char) : Option Char :=
  if name = "amp".toList then some '&'
  else if name = "lt".toList then some '<'
  else if name = "gt".toList then some '>'
  else if name = "quot".toList then some '"'
  else if name = "apos".toList then some '\''
  else match name with
    | '#' :: 'x' :: digits => (hexadecimal digits).bind charOf
    | '#' :: digits => (decimal digits).bind charOf
    | _ => none

/-- The text with its references resolved; the name of one that has begun is kept
backwards. -/
def resolve (plain : Char → Char) : Option (List Char) → List Char → Option (List Char)
  | none, [] => some []
  | some _, [] => none
  | none, c :: rest =>
    if c = '&' then resolve plain (some []) rest else (resolve plain none rest).map (plain c :: ·)
  | some name, c :: rest =>
    if c = ';' then
      (referenced name.reverse).bind (fun r => (resolve plain none rest).map (r :: ·))
    else resolve plain (some (c :: name)) rest

def attributeValue (raw : List Char) : Option (List Char) :=
  if '<' ∈ raw then none else resolve Xml.blank none raw

def characterData (raw : List Char) : Option (List Char) :=
  if "]]>".toList <:+: raw then none else resolve id none raw

/-! ## Reading -/

/-- An element that is open, in the namespace of what is around it or in its own. -/
def enter (uri name : List Char) (items : List Attribute) : Element :=
  ⟨⟨(items.lookup "xmlns".toList).getD uri, name⟩,
    items.filter (fun item => item.1 ≠ "xmlns".toList), [], .nil⟩

def Element.addText (e : Element) (text : List Char) : Element :=
  if e.inner = .nil then { e with text := e.text ++ text }
  else { e with inner := e.inner.addTail text }

def Element.adding (e : Element) (content : Content) : Element :=
  { e with inner := e.inner.append content }

def Element.addChild (e child : Element) : Element :=
  e.adding (.cons child.tag child.items child.text child.inner [] .nil)

def isBlank : Token → Bool
  | .chars text => text.all isSpace
  | _ => false

/-- The elements that are open, innermost first, take the tokens one by one. -/
def build (here : Element) : List Element → List Token → Option Element
  | _, [] => none
  | outer, .start name items :: rest => build (enter here.tag.uri name items) (here :: outer) rest
  | outer, .empty name items :: rest =>
    build (here.addChild (enter here.tag.uri name items)) outer rest
  | outer, .chars text :: rest => build (here.addText text) outer rest
  | [], .stop name :: rest =>
    if name = here.tag.name ∧ rest.all isBlank then some here else none
  | next :: outer, .stop name :: rest =>
    if name = here.tag.name then build (next.addChild here) outer rest else none

def document : List Token → Option Element
  | .start name items :: rest => build (enter [] name items) [] rest
  | .empty name items :: rest => if rest.all isBlank then some (enter [] name items) else none
  | _ => none

/-- What stands in front of the outermost element. -/
def dropDeclaration (input : List Char) : List Char :=
  if "<?xml ".toList.isPrefixOf input then
    ((input.dropWhile (· ≠ '>')).drop 1).dropWhile isSpace
  else input

/-- Names with a prefix are not read. -/
def unprefixed : Token → Bool
  | .start name items => ':' ∉ name && items.all (fun item => ':' ∉ item.1)
  | .empty name items => ':' ∉ name && items.all (fun item => ':' ∉ item.1)
  | _ => true

/-- `fromstring`. -/
def fromText (input : List Char) : Option Element :=
  if input.all Xml.isXmlChar then
    (Markup.read attributeValue characterData
      (dropDeclaration (Xml.endOfLines false input))).bind (fun tokens =>
        if tokens.all unprefixed && tokens.all Xml.uniqueNames then document tokens else none)
  else none

/-! ## References are read as what they stand for -/

theorem resolve_plain {plain : Char → Char} {c : Char} (written : c ≠ '&') (rest : List Char) :
    resolve plain none (c :: rest) = (resolve plain none rest).map (plain c :: ·) := by
  rw [resolve, if_neg written]

/-- What is written character by character is read so. -/
theorem resolve_flatMap {plain : Char → Char} {escapeChar : Char → List Char}
    {shown : Char → Char}
    (one : ∀ c rest, resolve plain none (escapeChar c ++ rest) =
      (resolve plain none rest).map (shown c :: ·)) (content : List Char) :
    resolve plain none (content.flatMap escapeChar) = some (content.map shown) := by
  induction content with
  | nil => rfl
  | cons c content ih => rw [List.flatMap_cons, one, ih, Option.map_some, List.map_cons]

theorem resolve_escapeChar {plain : Char → Char} {c : Char} (rest : List Char) :
    resolve plain none (Xml.escapeChar c ++ rest) =
      (resolve plain none rest).map
        ((if c = '&' ∨ c = '<' ∨ c = '>' then c else plain c) :: ·) := by
  rcases Xml.escapeChar_cases c with ⟨rfl, shown⟩ | ⟨rfl, shown⟩ | ⟨rfl, shown⟩ | ⟨amp, lt, gt, shown⟩
  · rw [shown]
    rfl
  · rw [shown]
    rfl
  · rw [shown]
    rfl
  · rw [shown, if_neg (by simp [amp, lt, gt])]
    exact resolve_plain amp rest

theorem resolve_escapeAttribChar (c : Char) (rest : List Char) :
    resolve Xml.blank none (escapeAttribChar c ++ rest) =
      (resolve Xml.blank none rest).map (c :: ·) := by
  unfold escapeAttribChar
  by_cases quote : c = '"'
  · subst quote
    rfl
  by_cases cr : c = '\r'
  · subst cr
    rfl
  by_cases lf : c = '\n'
  · subst lf
    rfl
  by_cases tab : c = '\t'
  · subst tab
    rfl
  rw [if_neg quote, if_neg cr, if_neg lf, if_neg tab, resolve_escapeChar]
  have same : (if c = '&' ∨ c = '<' ∨ c = '>' then c else Xml.blank c) = c := by
    split
    · rfl
    · unfold Xml.blank
      split
      · next space =>
        have blank : c = ' ' := by simpa [isSpace, cr, lf, tab] using space
        exact blank.symm
      · rfl
  rw [same]

/-- What an escaped value consists of. -/
theorem mem_escapeAttrib {value : List Char} {d : Char} (member : d ∈ escapeAttrib value) :
    d ∈ value ∧ d ≠ '"' ∧ d ≠ '\r' ∧ d ≠ '\n' ∧ d ≠ '\t' ∧ d ≠ '<' ∨
      d ∈ "&quot;#1309ampltg".toList := by
  obtain ⟨c, place, inside⟩ := List.mem_flatMap.mp member
  unfold escapeAttribChar at inside
  by_cases quote : c = '"'
  · rw [if_pos quote] at inside
    exact Or.inr ((by decide : "&quot;".toList ⊆ "&quot;#1309ampltg".toList) inside)
  by_cases cr : c = '\r'
  · rw [if_neg quote, if_pos cr] at inside
    exact Or.inr ((by decide : "&#13;".toList ⊆ "&quot;#1309ampltg".toList) inside)
  by_cases lf : c = '\n'
  · rw [if_neg quote, if_neg cr, if_pos lf] at inside
    exact Or.inr ((by decide : "&#10;".toList ⊆ "&quot;#1309ampltg".toList) inside)
  by_cases tab : c = '\t'
  · rw [if_neg quote, if_neg cr, if_neg lf, if_pos tab] at inside
    exact Or.inr ((by decide : "&#09;".toList ⊆ "&quot;#1309ampltg".toList) inside)
  rw [if_neg quote, if_neg cr, if_neg lf, if_neg tab] at inside
  rcases Xml.escapeChar_cases c with ⟨_, shown⟩ | ⟨_, shown⟩ | ⟨_, shown⟩ | ⟨_, lt, _, shown⟩
  · exact Or.inr ((by decide : "&amp;".toList ⊆ "&quot;#1309ampltg".toList) (shown ▸ inside))
  · exact Or.inr ((by decide : "&lt;".toList ⊆ "&quot;#1309ampltg".toList) (shown ▸ inside))
  · exact Or.inr ((by decide : "&gt;".toList ⊆ "&quot;#1309ampltg".toList) (shown ▸ inside))
  · rw [shown, List.mem_singleton] at inside
    subst inside
    exact Or.inl ⟨place, quote, cr, lf, tab, lt⟩

theorem not_mem_escapeAttrib {value : List Char} {d : Char} (special : d ∈ "\"\r\n\t<".toList) :
    d ∉ escapeAttrib value := by
  have five : d = '"' ∨ d = '\r' ∨ d = '\n' ∨ d = '\t' ∨ d = '<' := by simpa using special
  intro member
  rcases mem_escapeAttrib member with ⟨_, quote, cr, lf, tab, lt⟩ | letter
  · simp [quote, cr, lf, tab, lt] at five
  · rcases five with rfl | rfl | rfl | rfl | rfl <;> exact absurd letter (by decide)

theorem attributeValue_escapeAttrib (value : List Char) :
    attributeValue (escapeAttrib value) = some value := by
  have free : '<' ∉ escapeAttrib value := not_mem_escapeAttrib (by decide)
  unfold attributeValue
  rw [if_neg free]
  have read : resolve Xml.blank none (escapeAttrib value) = some (value.map id) :=
    resolve_flatMap resolve_escapeAttribChar value
  rw [read, List.map_id]

theorem characterData_escape (text : List Char) :
    characterData (Xml.escape text) = some text := by
  have free : '>' ∉ Xml.escape text := by
    intro member
    exact (Xml.mem_escape member).elim (fun inside => inside.2.2.2 rfl) (by decide)
  have one (c : Char) (rest : List Char) : resolve id none (Xml.escapeChar c ++ rest) =
      (resolve id none rest).map (id c :: ·) := by
    rw [resolve_escapeChar]
    simp
  unfold characterData
  rw [if_neg (fun inside => free (inside.subset (by decide)))]
  have read : resolve id none (Xml.escape text) = some (text.map id) := resolve_flatMap one text
  rw [read, List.map_id]

/-! ## Tokens are read as they were written -/

def namedToken : Token → Bool
  | .start name items => isName name && items.all (fun item => isName item.1)
  | .empty name items => isName name && items.all (fun item => isName item.1)
  | .stop name => isName name
  | .chars text => text ≠ []

theorem plain_item {item : Attribute} (named : isName item.1 = true) :
    Markup.Plain attributeValue escapeAttrib item :=
  ⟨named, not_mem_escapeAttrib (by decide), attributeValue_escapeAttrib item.2⟩

theorem plain_items {items : List Attribute}
    (keys : items.all (fun item => isName item.1) = true) :
    ∀ item ∈ items, Markup.Plain attributeValue escapeAttrib item :=
  fun item member => plain_item (List.all_eq_true.mp keys item member)

/-- The tag of an empty element, which ends with a blank in front of its slash. -/
theorem readToken_empty {name : List Char} {items : List Attribute} (named : isName name = true)
    (keys : items.all (fun item => isName item.1) = true) (rest : List Char) :
    readToken attributeValue characterData (tokenText (.empty name items) ++ rest) =
      some (.empty name items, rest) := by
  have shown : tokenText (.empty name items) ++ rest =
      '<' :: (name ++ (items.flatMap (printAttribute escapeAttrib) ++ ([' ', '/', '>'] ++ rest))) := by
    simp [tokenText]
  have last (fuel : Nat) : readAttributes attributeValue (fuel + 1) ([' ', '/', '>'] ++ rest) =
      some ([], true, rest) := rfl
  have ends : EndsName ([' ', '/', '>'] ++ rest) := endsName_cons (by decide) _
  rw [shown, readToken_open named (endsName_attributes items ends)]
  obtain ⟨fuel, enough⟩ : ∃ fuel, (items.flatMap (printAttribute escapeAttrib) ++
      ([' ', '/', '>'] ++ rest)).length + 1 = items.length + (fuel + 1) := by
    have enough : items.length ≤ (items.flatMap (printAttribute escapeAttrib)).length :=
      length_le_print items
    rw [List.length_append]
    obtain ⟨more, split⟩ := Nat.exists_eq_add_of_le (Nat.le_add_right_of_le enough)
    exact ⟨more, by rw [split]; rfl⟩
  rw [enough, readAttributes_print (plain_items keys), last]
  simp

theorem tokenText_ne_nil {token : Token} (named : namedToken token = true) :
    tokenText token ≠ [] := by
  cases token with
  | chars text => exact Xml.escape_ne_nil (of_decide_eq_true named)
  | _ => simp [tokenText]

/-- A token, in front of what cannot be more of it. -/
theorem readToken_tokenText {token : Token} (named : namedToken token = true) (rest : List Char)
    (ends : token.isChars → EndsChars rest) :
    readToken attributeValue characterData (tokenText token ++ rest) = some (token, rest) := by
  cases token with
  | start name items =>
    rw [namedToken, Bool.and_eq_true] at named
    have plain : (Token.start name items).Plain attributeValue characterData escapeAttrib :=
      ⟨named.1, plain_items named.2⟩
    exact readToken_print plain rest ends
  | empty name items =>
    rw [namedToken, Bool.and_eq_true] at named
    exact readToken_empty named.1 named.2 rest
  | stop name =>
    have plain : (Token.stop name).Plain attributeValue characterData escapeAttrib := named
    exact readToken_print plain rest ends
  | chars text =>
    have free : '<' ∉ Xml.escape text := by
      intro member
      exact (Xml.mem_escape member).elim (fun inside => inside.2.2.1 rfl) (by decide)
    have plain : (Token.chars text).Plain attributeValue characterData Xml.escape :=
      ⟨tokenText_ne_nil named, free, characterData_escape text⟩
    exact readToken_print plain rest ends

theorem endsChars_tokens {tokens : List Token}
    (first : ∀ token ∈ tokens.head?, token.isChars = false) :
    EndsChars (tokens.flatMap tokenText) := by
  cases tokens with
  | nil => exact Or.inl rfl
  | cons token tokens =>
    have other := first token rfl
    cases token with
    | chars text => cases other
    | _ => exact Or.inr ⟨_, rfl⟩

/-- The reader gets back the tokens that were written. -/
theorem read_tokens {tokens : List Token} (named : tokens.all namedToken = true)
    (separated : Separated tokens) :
    Markup.read attributeValue characterData (tokens.flatMap tokenText) = some tokens := by
  have any (fuel : Nat) (enough : (tokens.flatMap tokenText).length ≤ fuel) :
      readTokens attributeValue characterData fuel (tokens.flatMap tokenText) = some tokens := by
    induction tokens generalizing fuel with
    | nil => cases fuel <;> rfl
    | cons token tokens ih =>
      rw [List.all_cons, Bool.and_eq_true] at named
      have nonempty := List.length_pos_of_ne_nil (tokenText_ne_nil named.1)
      rw [List.flatMap_cons, List.length_append] at enough
      obtain ⟨fuel, rfl⟩ : ∃ less, fuel = less + 1 := ⟨fuel - 1, by omega⟩
      have ends : token.isChars → EndsChars (tokens.flatMap tokenText) := by
        intro isChars
        refine endsChars_tokens (fun next head => ?_)
        cases tokens with
        | nil => cases head
        | cons second tokens =>
          cases head
          exact (List.isChain_cons_cons.mp separated).1 isChars
      rw [List.flatMap_cons,
        readTokens_succ (List.append_ne_nil_of_left_ne_nil (tokenText_ne_nil named.1) _),
        readToken_tokenText named.1 _ ends]
      show (readTokens _ _ fuel (tokens.flatMap tokenText)).map _ = _
      rw [ih named.2 separated.of_cons fuel (by omega)]
      rfl
  exact any _ le_rfl

/-! ## What a tree is made of -/

/-- The tag and the attributes of an element in a namespace, written without prefixes. -/
structure Named (uri : List Char) (tag : Tag) (items : List Attribute) : Prop where
  uri : tag.uri = uri
  name : isName tag.name = true ∧ ':' ∉ tag.name
  keys : ∀ item ∈ items, isName item.1 = true ∧ ':' ∉ item.1 ∧ item.1 ≠ "xmlns".toList
  unique : (items.map Prod.fst).Nodup

namespace Content

def Formed (uri : List Char) : Content → Prop
  | .nil => True
  | .cons tag items _ inner _ rest => Named uri tag items ∧ inner.Formed uri ∧ rest.Formed uri

/-- Its texts and values have characters only that XML allows. -/
def legal : Content → Bool
  | .nil => true
  | .cons _ items text inner tail rest =>
    items.all (fun item => item.2.all Xml.isXmlChar) && text.all Xml.isXmlChar && inner.legal &&
      tail.all Xml.isXmlChar && rest.legal

/-- With a line feed for every end of line in the texts. -/
def normal : Content → Content
  | .nil => .nil
  | .cons tag items text inner tail rest =>
    .cons tag items (Xml.endOfLines false text) inner.normal (Xml.endOfLines false tail) rest.normal

end Content

namespace Element

structure Formed (e : Element) : Prop where
  named : Named e.tag.uri e.tag e.items
  inner : e.inner.Formed e.tag.uri
  uri : e.tag.uri.all Xml.isXmlChar = true

def legal (e : Element) : Bool :=
  e.items.all (fun item => item.2.all Xml.isXmlChar) && e.text.all Xml.isXmlChar && e.inner.legal

def normal (e : Element) : Element :=
  { e with text := Xml.endOfLines false e.text, inner := e.inner.normal }

end Element

theorem nameChar_xml {c : Char} (name : isNameChar c = true) :
    Xml.isXmlChar c = true ∧ c ≠ '\r' := by
  have range : (c.toNat = 0x2D ∨ c.toNat = 0x2E) ∨ 0x30 ≤ c.toNat ∧ c.toNat ≤ 0xD7FF ∨
      0xF900 ≤ c.toNat ∧ c.toNat ≤ 0xFFFD ∨ 0x10000 ≤ c.toNat ∧ c.toNat ≤ 0x10FFFF := by
    simp [isNameChar, inRanges, nameRanges, nameStartRanges] at name
    omega
  constructor
  · simp [Xml.isXmlChar, inRanges]
    omega
  · rintro rfl
    simp at range

theorem name_xml {name : List Char} (named : isName name = true) :
    name.all Xml.isXmlChar = true ∧ '\r' ∉ name := by
  cases name with
  | nil => cases named
  | cons c more =>
    rw [isName, Bool.and_eq_true, List.all_eq_true] at named
    refine ⟨List.all_eq_true.mpr (fun d member => (nameChar_xml (named.2 d member)).1), ?_⟩
    intro member
    exact (nameChar_xml (named.2 _ member)).2 rfl

/-! ## Characters and ends of lines of what is written -/

def legalToken : Token → Bool
  | .start _ items => items.all (fun item => item.2.all Xml.isXmlChar)
  | .empty _ items => items.all (fun item => item.2.all Xml.isXmlChar)
  | .stop _ => true
  | .chars text => text.all Xml.isXmlChar

def normalToken : Token → Token
  | .chars text => .chars (Xml.endOfLines false text)
  | token => token

theorem all_xml_escapeChar (c : Char) :
    (Xml.escapeChar c).all Xml.isXmlChar = Xml.isXmlChar c := by
  rcases Xml.escapeChar_cases c with ⟨rfl, _⟩ | ⟨rfl, _⟩ | ⟨rfl, _⟩ | ⟨_, _, _, shown⟩
  · decide
  · decide
  · decide
  · rw [shown, List.all_cons, List.all_nil, Bool.and_true]

theorem all_xml_escapeAttribChar (c : Char) :
    (escapeAttribChar c).all Xml.isXmlChar = Xml.isXmlChar c := by
  unfold escapeAttribChar
  by_cases quote : c = '"'
  · subst quote
    decide
  by_cases cr : c = '\r'
  · subst cr
    decide
  by_cases lf : c = '\n'
  · subst lf
    decide
  by_cases tab : c = '\t'
  · subst tab
    decide
  rw [if_neg quote, if_neg cr, if_neg lf, if_neg tab, all_xml_escapeChar]

theorem all_xml_flatMap {escapeChar : Char → List Char}
    (one : ∀ c, (escapeChar c).all Xml.isXmlChar = Xml.isXmlChar c) (text : List Char) :
    (text.flatMap escapeChar).all Xml.isXmlChar = text.all Xml.isXmlChar := by
  induction text with
  | nil => rfl
  | cons c text ih => rw [List.flatMap_cons, List.all_append, one, ih, List.all_cons]

theorem all_xml_items {items : List Attribute}
    (keys : items.all (fun item => isName item.1) = true) :
    (items.flatMap (printAttribute escapeAttrib)).all Xml.isXmlChar =
      items.all (fun item => item.2.all Xml.isXmlChar) := by
  induction items with
  | nil => rfl
  | cons item items ih =>
    rw [List.all_cons, Bool.and_eq_true] at keys
    have one : (printAttribute escapeAttrib item).all Xml.isXmlChar =
        item.2.all Xml.isXmlChar := by
      have marks : Xml.isXmlChar ' ' = true ∧ Xml.isXmlChar '=' = true ∧
          Xml.isXmlChar '"' = true := by decide
      simp only [printAttribute, List.cons_append, List.all_cons, List.all_append, List.all_nil,
        (name_xml keys.1).1, escapeAttrib, all_xml_flatMap all_xml_escapeAttribChar, marks,
        Bool.true_and, Bool.and_true]
    rw [List.flatMap_cons, List.all_append, one, ih keys.2, List.all_cons]

theorem all_xml_token {token : Token} (named : namedToken token = true) :
    (tokenText token).all Xml.isXmlChar = legalToken token := by
  have marks : Xml.isXmlChar '<' = true ∧ Xml.isXmlChar '/' = true ∧ Xml.isXmlChar '>' = true ∧
      Xml.isXmlChar ' ' = true := by decide
  cases token with
  | start name items =>
    rw [namedToken, Bool.and_eq_true] at named
    simp only [tokenText, List.cons_append, List.all_cons, List.all_append, List.all_nil,
      (name_xml named.1).1, all_xml_items named.2, marks, legalToken, Bool.true_and, Bool.and_true]
  | empty name items =>
    rw [namedToken, Bool.and_eq_true] at named
    simp only [tokenText, List.cons_append, List.all_cons, List.all_append, List.all_nil,
      (name_xml named.1).1, all_xml_items named.2, marks, legalToken, Bool.true_and, Bool.and_true]
  | stop name =>
    simp only [tokenText, List.cons_append, List.all_cons, List.all_append, List.all_nil,
      (name_xml named).1, marks, legalToken, Bool.and_true]
  | chars text => exact all_xml_flatMap all_xml_escapeChar text

theorem all_xml_tokens {tokens : List Token} (named : tokens.all namedToken = true) :
    (tokens.flatMap tokenText).all Xml.isXmlChar = tokens.all legalToken := by
  induction tokens with
  | nil => rfl
  | cons token tokens ih =>
    rw [List.all_cons, Bool.and_eq_true] at named
    rw [List.flatMap_cons, List.all_append, all_xml_token named.1, ih named.2, List.all_cons]

/-- In front of a character that is no end of line these can be taken alone. -/
theorem endOfLines_mark {mark : Char} (notCr : mark ≠ '\r') (notLf : mark ≠ '\n')
    (afterCr : Bool) (first second : List Char) :
    Xml.endOfLines afterCr (first ++ mark :: second) =
      Xml.endOfLines afterCr first ++ mark :: Xml.endOfLines false second := by
  induction first generalizing afterCr with
  | nil => simp [Xml.endOfLines, notCr, notLf]
  | cons c first ih =>
    rw [List.cons_append, Xml.endOfLines, Xml.endOfLines]
    split
    · rw [ih, List.cons_append]
    · split
      · rw [ih]
      · rw [ih, List.cons_append]

theorem endOfLines_eq_nil {text : List Char} : Xml.endOfLines false text = [] ↔ text = [] := by
  cases text with
  | nil => simp [Xml.endOfLines]
  | cons c text =>
    rw [Xml.endOfLines]
    split <;> simp

theorem items_noCr {items : List Attribute}
    (keys : items.all (fun item => isName item.1) = true) :
    '\r' ∉ items.flatMap (printAttribute escapeAttrib) := by
  intro member
  obtain ⟨item, place, inside⟩ := List.mem_flatMap.mp member
  have key := (name_xml (List.all_eq_true.mp keys item place)).2
  have value : '\r' ∉ escapeAttrib item.2 := not_mem_escapeAttrib (by decide)
  simp [printAttribute, key, value] at inside

/-- A tag has no end of line. -/
theorem tag_noCr {token : Token} (named : namedToken token = true) (tag : token.isChars = false) :
    '\r' ∉ tokenText token := by
  cases token with
  | start name items =>
    rw [namedToken, Bool.and_eq_true] at named
    simp [tokenText, (name_xml named.1).2, items_noCr named.2]
  | empty name items =>
    rw [namedToken, Bool.and_eq_true] at named
    simp [tokenText, (name_xml named.1).2, items_noCr named.2]
  | stop name => simp [tokenText, (name_xml named).2]
  | chars text => cases tag

theorem endOfLines_tokens {tokens : List Token} (named : tokens.all namedToken = true)
    (separated : Separated tokens) :
    Xml.endOfLines false (tokens.flatMap tokenText) =
      (tokens.map normalToken).flatMap tokenText := by
  induction tokens with
  | nil => rfl
  | cons token tokens ih =>
    rw [List.all_cons, Bool.and_eq_true] at named
    have later := ih named.2 separated.of_cons
    rw [List.flatMap_cons, List.map_cons, List.flatMap_cons]
    cases isChars : token.isChars with
    | false =>
      have same : normalToken token = token := by
        cases token with
        | chars text => cases isChars
        | _ => rfl
      rw [Xml.endOfLines_append (tag_noCr named.1 isChars), later, same]
    | true =>
      cases token with
      | chars text =>
        have ends : EndsChars (tokens.flatMap tokenText) := by
          refine endsChars_tokens (fun next head => ?_)
          cases tokens with
          | nil => cases head
          | cons second tokens =>
            cases head
            exact (List.isChain_cons_cons.mp separated).1 isChars
        show Xml.endOfLines false (Xml.escape text ++ tokens.flatMap tokenText) =
          Xml.escape (Xml.endOfLines false text) ++ _
        rw [← later, ← Xml.endOfLines_escape]
        rcases ends with none | ⟨more, some⟩
        · rw [none]
          simp [Xml.endOfLines]
        · rw [some, endOfLines_mark (by decide) (by decide),
            Xml.endOfLines_cons (by decide) (by decide)]
      | _ => cases isChars

/-! ## The tokens of a tree -/

theorem charTokens_eq_nil {text : List Char} : charTokens text = [] ↔ text = [] := by
  unfold charTokens
  split <;> simp [*]

theorem elementTokens_ne_nil (name : List Char) (items : List Attribute) (inside : List Token) :
    elementTokens name items inside ≠ [] := by
  unfold elementTokens
  split <;> simp

theorem Content.tokens_eq_nil {content : Content} : content.tokens = [] ↔ content = .nil := by
  cases content with
  | nil => simp [Content.tokens]
  | cons tag items text inner tail rest => simp [Content.tokens, elementTokens_ne_nil]

/-- A property of every token, part by part. -/
theorem all_elementTokens {p : Token → Bool} {name : List Char} {items : List Attribute}
    {inside : List Token} (tags : p (.start name items) = p (.empty name items))
    (stop : p (.stop name) = true) :
    (elementTokens name items inside).all p = (p (.empty name items) && inside.all p) := by
  unfold elementTokens
  split
  · next none => simp [none]
  · simp [tags, stop]

/-- The first token is the tag of an element. -/
def StartsWithTag (tokens : List Token) : Prop := ∀ token ∈ tokens.head?, token.isChars = false

theorem startsWithTag_element (name : List Char) (items : List Attribute)
    (inside more : List Token) : StartsWithTag (elementTokens name items inside ++ more) := by
  unfold elementTokens
  intro token head
  split at head <;> cases head <;> rfl

theorem Content.startsWithTag (content : Content) : StartsWithTag content.tokens := by
  cases content with
  | nil => exact fun token head => (by cases head)
  | cons tag items text inner tail rest => exact startsWithTag_element _ _ _ _

theorem separated_chars {tokens : List Token} (separated : Separated tokens)
    (first : StartsWithTag tokens) (text : List Char) : Separated (charTokens text ++ tokens) := by
  unfold charTokens
  split
  · exact separated
  · exact List.isChain_cons.mpr ⟨fun next head _ => first next head, separated⟩

theorem separated_element {inside more : List Token} (separated : Separated inside)
    (others : Separated more) (name : List Char) (items : List Attribute) :
    Separated (elementTokens name items inside ++ more) := by
  have tagged {token : Token} (tag : token.isChars = false) {tokens : List Token}
      (chain : Separated tokens) : Separated (token :: tokens) :=
    List.isChain_cons.mpr ⟨fun _ _ isChars => (by rw [tag] at isChars; cases isChars), chain⟩
  unfold elementTokens
  split
  · exact tagged rfl others
  · have closed : Separated (inside ++ .stop name :: more) :=
      List.isChain_append.mpr ⟨separated, tagged rfl others,
        fun _ _ next head _ => by cases head; rfl⟩
    rw [List.cons_append, List.append_assoc]
    exact tagged rfl closed

theorem Content.separated (content : Content) : Separated content.tokens := by
  induction content with
  | nil => exact List.IsChain.nil
  | cons tag items text inner tail rest innerIh restIh =>
    exact separated_element (separated_chars innerIh inner.startsWithTag text)
      (separated_chars restIh rest.startsWithTag tail) tag.name items

theorem Element.separated (e : Element) : Separated e.tokens := by
  have alone := separated_element (separated_chars e.inner.separated e.inner.startsWithTag e.text)
    (List.IsChain.nil : Separated []) e.tag.name (declared e.tag.uri ++ e.items)
  rwa [List.append_nil] at alone

theorem all_charTokens {p : Token → Bool} {q : List Char → Bool}
    (chars : ∀ text, text ≠ [] → p (.chars text) = q text) (empty : q [] = true)
    (text : List Char) : (charTokens text).all p = q text := by
  unfold charTokens
  split
  · next none => rw [none, empty]; rfl
  · next some => rw [List.all_cons, chars text some, List.all_nil, Bool.and_true]

theorem namedToken_tag {uri : List Char} {tag : Tag} {items : List Attribute}
    (named : Named uri tag items) : namedToken (.empty tag.name items) = true := by
  rw [namedToken, Bool.and_eq_true, List.all_eq_true]
  exact ⟨named.name.1, fun item member => (named.keys item member).1⟩

theorem Content.named {uri : List Char} {content : Content} (formed : content.Formed uri) :
    content.tokens.all namedToken = true := by
  have text (t : List Char) : (charTokens t).all namedToken = true := by
    unfold charTokens
    split
    · rfl
    · next some => simpa [namedToken] using some
  induction content with
  | nil => rfl
  | cons tag items front inner tail rest innerIh restIh =>
    obtain ⟨named, inside, behind⟩ := formed
    rw [Content.tokens, List.all_append, all_elementTokens rfl named.name.1, List.all_append,
      List.all_append, text, text, innerIh inside, restIh behind, namedToken_tag named]
    rfl

theorem Content.all_legal (content : Content) : content.tokens.all legalToken = content.legal := by
  have text (t : List Char) : (charTokens t).all legalToken = t.all Xml.isXmlChar :=
    all_charTokens (fun _ _ => rfl) rfl t
  induction content with
  | nil => rfl
  | cons tag items front inner tail rest innerIh restIh =>
    rw [Content.tokens, List.all_append, all_elementTokens rfl rfl, List.all_append,
      List.all_append, text, text, innerIh, restIh, Content.legal, legalToken]
    simp only [Bool.and_assoc]

theorem map_charTokens (text : List Char) :
    (charTokens text).map normalToken = charTokens (Xml.endOfLines false text) := by
  unfold charTokens
  by_cases none : text = []
  · rw [none]
    rfl
  · rw [if_neg none, if_neg (fun empty => none (endOfLines_eq_nil.mp empty))]
    rfl

theorem map_elementTokens (name : List Char) (items : List Attribute) (inside : List Token) :
    (elementTokens name items inside).map normalToken =
      elementTokens name items (inside.map normalToken) := by
  unfold elementTokens
  by_cases none : inside = []
  · rw [none]
    rfl
  · rw [if_neg none, if_neg (fun empty => none (List.map_eq_nil_iff.mp empty))]
    simp [normalToken]

theorem Content.map_normal (content : Content) :
    content.tokens.map normalToken = content.normal.tokens := by
  induction content with
  | nil => rfl
  | cons tag items text inner tail rest innerIh restIh =>
    rw [Content.tokens, List.map_append, map_elementTokens, List.map_append, List.map_append,
      map_charTokens, map_charTokens, innerIh, restIh]
    rfl

theorem Element.map_normal (e : Element) : e.tokens.map normalToken = e.normal.tokens := by
  unfold Element.tokens
  rw [map_elementTokens, List.map_append, map_charTokens, Content.map_normal]
  rfl

/-! ## The tree is put together again -/

theorem lookup_items {uri : List Char} {tag : Tag} {items : List Attribute}
    (named : Named uri tag items) : items.lookup "xmlns".toList = none ∧
      items.filter (fun item => item.1 ≠ "xmlns".toList) = items := by
  have keys := fun item member => (named.keys item member).2.2
  refine ⟨?_, List.filter_eq_self.mpr (fun item member => decide_eq_true (keys item member))⟩
  rw [List.lookup_eq_none_iff]
  intro item member
  simpa using Ne.symm (keys item member)

/-- An element entered in its own namespace. -/
theorem enter_named {uri : List Char} {tag : Tag} {items : List Attribute}
    (named : Named uri tag items) : enter uri tag.name items = ⟨tag, items, [], .nil⟩ := by
  obtain ⟨unset, kept⟩ := lookup_items named
  unfold enter
  rw [unset, kept, Option.getD_none, ← named.uri]

/-- The outermost element, which declares its namespace. -/
theorem enter_declared {tag : Tag} {items : List Attribute} (named : Named tag.uri tag items) :
    enter [] tag.name (declared tag.uri ++ items) = ⟨tag, items, [], .nil⟩ := by
  obtain ⟨unset, kept⟩ := lookup_items named
  unfold declared
  by_cases none : tag.uri = []
  · rw [if_pos none, List.nil_append]
    rw [none] at named
    exact enter_named named
  · rw [if_neg none]
    unfold enter
    rw [List.singleton_append, List.lookup_cons, List.filter_cons, kept]
    simp

theorem build_chars (tag : Tag) (items : List Attribute) (text : List Char)
    (outer : List Element) (rest : List Token) :
    build ⟨tag, items, [], .nil⟩ outer (charTokens text ++ rest) =
      build ⟨tag, items, text, .nil⟩ outer rest := by
  unfold charTokens
  by_cases none : text = []
  · rw [if_pos none, none, List.nil_append]
  · rw [if_neg none, List.singleton_append, build, Element.addText, if_pos rfl, List.nil_append]

/-- The text behind the last child. -/
theorem build_tail (here child : Element) (text : List Char) (outer : List Element)
    (rest : List Token) :
    build (here.addChild child) outer (charTokens text ++ rest) =
      build (here.adding (.cons child.tag child.items child.text child.inner text .nil)) outer
        rest := by
  unfold charTokens
  by_cases none : text = []
  · rw [if_pos none, none, List.nil_append]
    rfl
  · have some : (here.addChild child).inner ≠ .nil :=
      Content.append_ne_nil here.inner child.tag child.items child.text child.inner [] .nil
    rw [if_neg none, List.singleton_append, build, Element.addText, if_neg some]
    unfold Element.addChild Element.adding
    dsimp only
    rw [Content.addTail_append, List.nil_append]

theorem adding_adding (here : Element) (first second : Content) :
    (here.adding first).adding second = here.adding (first.append second) := by
  unfold Element.adding
  rw [Content.append_assoc]

/-- What an element is made of comes out as its child, if its content does. -/
theorem build_element {uri : List Char} {tag : Tag} {items : List Attribute} {inner : Content}
    (named : Named uri tag items)
    (content : ∀ (e : Element), e.tag.uri = uri → ∀ outer rest,
      build e outer (inner.tokens ++ rest) = build (e.adding inner) outer rest)
    (here : Element) (same : here.tag.uri = uri) (text : List Char) (outer : List Element)
    (rest : List Token) :
    build here outer
        (elementTokens tag.name items (charTokens text ++ inner.tokens) ++ rest) =
      build (here.addChild ⟨tag, items, text, inner⟩) outer rest := by
  unfold elementTokens
  by_cases none : charTokens text ++ inner.tokens = []
  · obtain ⟨noText, noContent⟩ := List.append_eq_nil_iff.mp none
    rw [if_pos none, List.singleton_append, build, same, enter_named named,
      charTokens_eq_nil.mp noText, Content.tokens_eq_nil.mp noContent]
  · rw [if_neg none, List.cons_append, build, same, enter_named named, List.append_assoc,
      List.append_assoc, build_chars, content _ named.uri, List.singleton_append, build]
    exact if_pos rfl

theorem build_content {uri : List Char} {content : Content} (formed : content.Formed uri)
    (here : Element) (same : here.tag.uri = uri) (outer : List Element) (rest : List Token) :
    build here outer (content.tokens ++ rest) = build (here.adding content) outer rest := by
  induction content generalizing here outer rest with
  | nil =>
    rw [Element.adding, Content.append_nil]
    rfl
  | cons tag items text inner tail more innerIh moreIh =>
    obtain ⟨named, inside, behind⟩ := formed
    have still (before : Content) : (here.adding before).tag.uri = uri := same
    rw [Content.tokens, List.append_assoc, List.append_assoc,
      build_element named (fun e at_ => innerIh inside e at_) here same, build_tail,
      moreIh behind _ (still _), adding_adding]
    rfl

theorem document_tokens {e : Element} (formed : e.Formed) : document e.tokens = some e := by
  unfold Element.tokens elementTokens
  by_cases none : charTokens e.text ++ e.inner.tokens = []
  · obtain ⟨noText, noContent⟩ := List.append_eq_nil_iff.mp none
    rw [if_pos none, document, List.all_nil, if_pos rfl, enter_declared formed.named,
      ← charTokens_eq_nil.mp noText, ← Content.tokens_eq_nil.mp noContent]
  · have content := build_content formed.inner ⟨e.tag, e.items, e.text, .nil⟩ rfl []
      [.stop e.tag.name]
    rw [if_neg none, document, enter_declared formed.named, List.append_assoc, build_chars,
      content, build]
    exact if_pos ⟨rfl, rfl⟩

/-! ## A tree is read back -/

theorem Content.Formed.normal {uri : List Char} {content : Content} (formed : content.Formed uri) :
    content.normal.Formed uri := by
  induction content with
  | nil => trivial
  | cons tag items text inner tail rest innerIh restIh =>
    exact ⟨formed.1, innerIh formed.2.1, restIh formed.2.2⟩

theorem Element.Formed.normal {e : Element} (formed : e.Formed) : e.normal.Formed :=
  ⟨formed.named, formed.inner.normal, formed.uri⟩

/-- The attributes of the outermost element. -/
theorem declared_keys {e : Element} (formed : e.Formed) :
    (∀ item ∈ declared e.tag.uri ++ e.items, isName item.1 = true ∧ ':' ∉ item.1) ∧
      ((declared e.tag.uri ++ e.items).map Prod.fst).Nodup := by
  unfold declared
  split
  · exact ⟨fun item member => ⟨(formed.named.keys item member).1, (formed.named.keys item member).2.1⟩,
      formed.named.unique⟩
  · refine ⟨?_, ?_⟩
    · intro item member
      rcases List.mem_cons.mp member with rfl | inside
      · exact (by decide : isName "xmlns".toList = true ∧ ':' ∉ "xmlns".toList)
      · exact ⟨(formed.named.keys item inside).1, (formed.named.keys item inside).2.1⟩
    · refine List.nodup_cons.mpr ⟨?_, formed.named.unique⟩
      intro member
      obtain ⟨item, inside, same⟩ := List.mem_map.mp member
      exact (formed.named.keys item inside).2.2 same

theorem Element.all_named {e : Element} (formed : e.Formed) : e.tokens.all namedToken = true := by
  have text : (charTokens e.text).all namedToken = true := by
    unfold charTokens
    split
    · rfl
    · next some => simpa [namedToken] using some
  have tag : namedToken (.empty e.tag.name (declared e.tag.uri ++ e.items)) = true := by
    rw [namedToken, Bool.and_eq_true, List.all_eq_true]
    exact ⟨formed.named.name.1, fun item member => ((declared_keys formed).1 item member).1⟩
  unfold Element.tokens
  rw [all_elementTokens rfl formed.named.name.1, List.all_append, text, Content.named formed.inner,
    tag]
  rfl

theorem Element.all_legal {e : Element} (formed : e.Formed) :
    e.tokens.all legalToken = e.legal := by
  have text : (charTokens e.text).all legalToken = e.text.all Xml.isXmlChar :=
    all_charTokens (fun _ _ => rfl) rfl e.text
  have uri : (declared e.tag.uri).all (fun item => item.2.all Xml.isXmlChar) = true := by
    unfold declared
    split
    · rfl
    · simpa using formed.uri
  unfold Element.tokens
  rw [all_elementTokens rfl rfl, List.all_append, text, Content.all_legal, legalToken,
    List.all_append, uri, Element.legal, Bool.true_and, Bool.and_assoc]

/-- The tags of a content as the reader wants them: no prefix, no attribute twice. -/
def fairToken (token : Token) : Bool := unprefixed token && Xml.uniqueNames token

theorem fairToken_tag {name : List Char} {items : List Attribute} (plain : ':' ∉ name)
    (keys : ∀ item ∈ items, ':' ∉ item.1) (unique : (items.map Prod.fst).Nodup) :
    fairToken (.empty name items) = true := by
  have all : items.all (fun item => decide (':' ∉ item.1)) = true :=
    List.all_eq_true.mpr (fun item member => decide_eq_true (keys item member))
  simp only [fairToken, unprefixed, Xml.uniqueNames, Bool.and_eq_true, decide_eq_true_eq]
  exact ⟨⟨plain, all⟩, unique⟩

theorem fairToken_chars (text : List Char) : (charTokens text).all fairToken = true := by
  unfold charTokens
  split <;> rfl

theorem Content.all_fair {uri : List Char} {content : Content} (formed : content.Formed uri) :
    content.tokens.all fairToken = true := by
  induction content with
  | nil => rfl
  | cons tag items text inner tail rest innerIh restIh =>
    obtain ⟨named, inside, behind⟩ := formed
    have here : fairToken (.empty tag.name items) = true :=
      fairToken_tag named.name.2 (fun item member => (named.keys item member).2.1) named.unique
    rw [Content.tokens, List.all_append, all_elementTokens rfl rfl, List.all_append,
      List.all_append, fairToken_chars, fairToken_chars, innerIh inside, restIh behind, here]
    rfl

theorem Element.all_fair {e : Element} (formed : e.Formed) : e.tokens.all fairToken = true := by
  have here : fairToken (.empty e.tag.name (declared e.tag.uri ++ e.items)) = true :=
    fairToken_tag formed.named.name.2 (fun item member => ((declared_keys formed).1 item member).2)
      (declared_keys formed).2
  unfold Element.tokens
  rw [all_elementTokens rfl rfl, List.all_append, fairToken_chars, Content.all_fair formed.inner,
    here]
  rfl

theorem dropDeclaration_declaration (e : Element) :
    dropDeclaration (declaration ++ e.tokens.flatMap tokenText) = e.tokens.flatMap tokenText := by
  have tag : ∃ more, e.tokens.flatMap tokenText = '<' :: more := by
    unfold Element.tokens elementTokens
    split
    · exact ⟨_, rfl⟩
    · exact ⟨_, rfl⟩
  obtain ⟨more, start⟩ := tag
  rw [start]
  rfl

/-- What is written of a tree is read as the tree with its ends of lines normalised, if all
its characters are allowed, and is not read at all if one is not. -/
theorem fromText_toText {e : Element} (formed : e.Formed) :
    fromText e.toText = if e.legal then some e.normal else none := by
  have named := Element.all_named formed
  have lines : Xml.endOfLines false e.toText =
      declaration ++ e.normal.tokens.flatMap tokenText := by
    unfold Element.toText
    rw [Xml.endOfLines_append (by decide), endOfLines_tokens named e.separated, e.map_normal]
  have chars : e.toText.all Xml.isXmlChar = e.legal := by
    have front : declaration.all Xml.isXmlChar = true := by decide
    rw [Element.toText, List.all_append, front, all_xml_tokens named, Element.all_legal formed,
      Bool.true_and]
  have fair : (e.normal.tokens.all unprefixed && e.normal.tokens.all Xml.uniqueNames) = true := by
    have both := List.all_eq_true.mp (Element.all_fair formed.normal)
    rw [Bool.and_eq_true, List.all_eq_true, List.all_eq_true]
    exact ⟨fun token member => (Bool.and_eq_true_iff.mp (both token member)).1,
      fun token member => (Bool.and_eq_true_iff.mp (both token member)).2⟩
  unfold fromText
  rw [chars]
  by_cases legal : e.legal = true
  · rw [if_pos legal, if_pos legal, lines, dropDeclaration_declaration,
      read_tokens (Element.all_named formed.normal) e.normal.separated, Option.bind_some,
      if_pos fair, document_tokens formed.normal]
  · rw [if_neg legal, if_neg legal]

/-! ## Lists of elements -/

theorem endOfLines_self {text : List Char} (free : '\r' ∉ text) :
    Xml.endOfLines false text = text := by
  have same := Xml.endOfLines_append free []
  rwa [List.append_nil, Xml.endOfLines, List.append_nil] at same

theorem Content.formed_ofElements {uri : List Char} {list : List Element}
    (formed : ∀ e ∈ list, Named uri e.tag e.items ∧ e.inner.Formed uri) :
    (Content.ofElements list).Formed uri := by
  induction list with
  | nil => trivial
  | cons e rest ih =>
    obtain ⟨named, inner⟩ := formed e List.mem_cons_self
    exact ⟨named, inner, ih (fun other member => formed other (List.mem_cons_of_mem _ member))⟩

@[simp] theorem Content.legal_ofElements (list : List Element) :
    (Content.ofElements list).legal = list.all Element.legal := by
  induction list with
  | nil => rfl
  | cons e rest ih =>
    simp [Content.ofElements, Content.legal, Element.legal, ih]

@[simp] theorem Content.normal_ofElements (list : List Element) :
    (Content.ofElements list).normal = .ofElements (list.map Element.normal) := by
  induction list with
  | nil => rfl
  | cons e rest ih =>
    simp [Content.ofElements, Content.normal, Element.normal, Xml.endOfLines, ih]

end Reliastra.Library.ElementTree
