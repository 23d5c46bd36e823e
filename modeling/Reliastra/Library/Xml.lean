import Mathlib.Data.List.Chain
import Mathlib.Data.List.Infix
import Reliastra.Library.Markup

/-!
# XML documents

The well-formed documents of XML 1.0 among the texts made of tags, attributes and
character data: which characters there may be, how ends of lines and the values of
attributes are normalised, and how elements nest. A writer that escapes `&`, `<` and `>`
writes what is read back, as long as no text has a quote, a tab or an end of line. Where an
attribute has one of these, its value is read as another.
-/

namespace Reliastra.Library.Xml

open Markup

/-! ## Characters -/

/-- `Char` of XML 1.0. -/
def isXmlChar (c : Char) : Bool :=
  inRanges [(0x20, 0xD7FF), (0x9, 0xA), (0xD, 0xD), (0xE000, 0xFFFD), (0x10000, 0x10FFFF)] c

/-- A line feed for every end of line; `afterCr` right behind a carriage return. -/
def endOfLines (afterCr : Bool) : List Char → List Char
  | [] => []
  | c :: rest =>
    if c = '\r' then '\n' :: endOfLines true rest
    else if afterCr && c = '\n' then endOfLines false rest
    else c :: endOfLines false rest

/-- A character of a value, where white space is a blank. -/
def blank (c : Char) : Char := if isSpace c then ' ' else c

def attributeValue (raw : List Char) : Option (List Char) :=
  if '<' ∈ raw then none else decode false blank raw

def characterData (raw : List Char) : Option (List Char) :=
  if "]]>".toList <:+: raw then none else decode false id raw

/-! ## Elements -/

/-- Every element in the list of open ones is closed, and nothing else follows. -/
def closes : List (List Char) → List Token → Bool
  | [], [] => true
  | [], .chars text :: rest => text.all isSpace && closes [] rest
  | name :: opened, .start inner _ :: rest => closes (inner :: name :: opened) rest
  | name :: opened, .empty _ _ :: rest => closes (name :: opened) rest
  | name :: opened, .stop other :: rest => name = other && closes opened rest
  | name :: opened, .chars _ :: rest => closes (name :: opened) rest
  | _, _ => false

/-- One element with what is in it. -/
def isDocument : List Token → Bool
  | .start name _ :: rest => closes [name] rest
  | .empty _ _ :: rest => closes [] rest
  | _ => false

def uniqueNames : Token → Bool
  | .start _ items => (items.map Prod.fst).Nodup
  | .empty _ items => (items.map Prod.fst).Nodup
  | _ => true

def wellFormed (tokens : List Token) : Bool := isDocument tokens && tokens.all uniqueNames

/-- The tokens of a well-formed document. -/
def parse (input : List Char) : Option (List Token) :=
  if input.all isXmlChar then
    (Markup.read attributeValue characterData (endOfLines false input)).filter wellFormed
  else none

/-! ## The writer -/

def escapeChar (c : Char) : List Char :=
  if c = '&' then "&amp;".toList
  else if c = '<' then "&lt;".toList
  else if c = '>' then "&gt;".toList
  else [c]

def escape (text : List Char) : List Char := text.flatMap escapeChar

theorem escapeChar_cases (c : Char) :
    c = '&' ∧ escapeChar c = "&amp;".toList ∨ c = '<' ∧ escapeChar c = "&lt;".toList ∨
      c = '>' ∧ escapeChar c = "&gt;".toList ∨
      c ≠ '&' ∧ c ≠ '<' ∧ c ≠ '>' ∧ escapeChar c = [c] := by
  unfold escapeChar
  by_cases amp : c = '&'
  · exact Or.inl ⟨amp, if_pos amp⟩
  by_cases lt : c = '<'
  · simp [lt]
  by_cases gt : c = '>'
  · simp [gt]
  · simp [amp, lt, gt]

/-- What an escaped text consists of. -/
theorem mem_escape {text : List Char} {c : Char} (member : c ∈ escape text) :
    c ∈ text ∧ c ≠ '&' ∧ c ≠ '<' ∧ c ≠ '>' ∨ c ∈ "&amp;lgt".toList := by
  obtain ⟨d, place, inside⟩ := List.mem_flatMap.mp member
  rcases escapeChar_cases d with ⟨_, shown⟩ | ⟨_, shown⟩ | ⟨_, shown⟩ | ⟨amp, lt, gt, shown⟩
  · rw [shown] at inside
    exact Or.inr ((by decide : "&amp;".toList ⊆ "&amp;lgt".toList) inside)
  · rw [shown] at inside
    exact Or.inr ((by decide : "&lt;".toList ⊆ "&amp;lgt".toList) inside)
  · rw [shown] at inside
    exact Or.inr ((by decide : "&gt;".toList ⊆ "&amp;lgt".toList) inside)
  · rw [shown] at inside
    obtain rfl := List.mem_singleton.mp inside
    exact Or.inl ⟨place, amp, lt, gt⟩

theorem mem_escape_of_mem {text : List Char} {c : Char} (member : c ∈ text) (amp : c ≠ '&')
    (lt : c ≠ '<') (gt : c ≠ '>') : c ∈ escape text := by
  refine List.mem_flatMap.mpr ⟨c, member, ?_⟩
  simp [escapeChar, amp, lt, gt]

theorem not_mem_escape {text : List Char} {c : Char} (free : c ∉ text)
    (other : c ∉ "&amp;lgt".toList) : c ∉ escape text := by
  intro member
  exact (mem_escape member).elim (fun inside => free inside.1) other

theorem escape_append (first second : List Char) :
    escape (first ++ second) = escape first ++ escape second := List.flatMap_append

theorem decode_escape {plain : Char → Char} (fixed : plain '&' = '&' ∧ plain '<' = '<' ∧ plain '>' = '>')
    (text : List Char) : decode false plain (escape text) = some (text.map plain) := by
  refine decode_flatMap (fun c rest => ?_) text
  rcases escapeChar_cases c with ⟨rfl, shown⟩ | ⟨rfl, shown⟩ | ⟨rfl, shown⟩ | ⟨amp, _, _, shown⟩
  · rw [shown, fixed.1]
    rfl
  · rw [shown, fixed.2.1]
    rfl
  · rw [shown, fixed.2.2]
    rfl
  · rw [shown]
    exact decode_cons amp rest

theorem attributeValue_escape (text : List Char) :
    attributeValue (escape text) = some (text.map blank) := by
  have free : '<' ∉ escape text := by
    intro member
    exact (mem_escape member).elim (fun inside => inside.2.2.1 rfl) (by decide)
  unfold attributeValue
  rw [if_neg free, decode_escape (by decide)]

theorem characterData_escape (text : List Char) : characterData (escape text) = some text := by
  have free : '>' ∉ escape text := by
    intro member
    exact (mem_escape member).elim (fun inside => inside.2.2.2 rfl) (by decide)
  unfold characterData
  rw [if_neg (fun inside => free (inside.subset (by decide))), decode_escape (by decide), List.map_id]

/-! ## Ends of lines -/

theorem endOfLines_append {first : List Char} (free : '\r' ∉ first) (second : List Char) :
    endOfLines false (first ++ second) = first ++ endOfLines false second := by
  induction first with
  | nil => rfl
  | cons c first ih =>
    rw [List.mem_cons, not_or] at free
    rw [List.cons_append, endOfLines, if_neg (Ne.symm free.1), if_neg (by simp), ih free.2]
    rfl

/-- In front of a quote the ends of lines can be taken alone. -/
theorem endOfLines_quote (afterCr : Bool) (first second : List Char) :
    endOfLines afterCr (first ++ '"' :: second) =
      endOfLines afterCr first ++ '"' :: endOfLines false second := by
  induction first generalizing afterCr with
  | nil => simp [endOfLines]
  | cons c first ih =>
    rw [List.cons_append, endOfLines, endOfLines]
    split
    · rw [ih, List.cons_append]
    · split
      · rw [ih]
      · rw [ih, List.cons_append]

theorem endOfLines_cons {c : Char} (notCr : c ≠ '\r') (notLf : c ≠ '\n') (afterCr : Bool)
    (rest : List Char) : endOfLines afterCr (c :: rest) = c :: endOfLines false rest := by
  rw [endOfLines, if_neg notCr, if_neg (by simp [notLf])]

theorem escape_cons {c : Char} (shown : escapeChar c = [c]) (rest : List Char) :
    escape (c :: rest) = c :: escape rest := by
  show escapeChar c ++ escape rest = _
  rw [shown]
  rfl

/-- Ends of lines are not touched by the escaping, nor made by it. -/
theorem endOfLines_escape (afterCr : Bool) (text : List Char) :
    endOfLines afterCr (escape text) = escape (endOfLines afterCr text) := by
  induction text generalizing afterCr with
  | nil => rfl
  | cons c text ih =>
    have reference {c : Char} (notCr : c ≠ '\r') (notLf : c ≠ '\n') {letters : List Char}
        (shown : escapeChar c = '&' :: letters) (free : '\r' ∉ letters) :
        endOfLines afterCr (escape (c :: text)) = escape (endOfLines afterCr (c :: text)) := by
      have split (rest : List Char) : escape (c :: rest) = '&' :: (letters ++ escape rest) := by
        show escapeChar c ++ escape rest = _
        rw [shown]
        rfl
      rw [endOfLines_cons notCr notLf, split, split, endOfLines_cons (by decide) (by decide),
        endOfLines_append free, ih]
    rcases escapeChar_cases c with ⟨rfl, shown⟩ | ⟨rfl, shown⟩ | ⟨rfl, shown⟩ | ⟨_, _, _, shown⟩
    · exact reference (by decide) (by decide) shown (by decide)
    · exact reference (by decide) (by decide) shown (by decide)
    · exact reference (by decide) (by decide) shown (by decide)
    · rw [escape_cons shown, endOfLines, endOfLines]
      split
      · rw [ih, escape_cons (by decide)]
      · split
        · rw [ih]
        · rw [ih, escape_cons shown]

theorem mem_endOfLines {afterCr : Bool} {text : List Char} {c : Char}
    (member : c ∈ endOfLines afterCr text) : c = '\n' ∨ c ∈ text ∧ c ≠ '\r' := by
  induction text generalizing afterCr with
  | nil => cases member
  | cons d text ih =>
    rw [endOfLines] at member
    split at member
    · rcases List.mem_cons.mp member with rfl | later
      · exact Or.inl rfl
      · exact (ih later).imp id (fun inside => ⟨List.mem_cons_of_mem _ inside.1, inside.2⟩)
    · next notCr =>
      split at member
      · exact (ih member).imp id (fun inside => ⟨List.mem_cons_of_mem _ inside.1, inside.2⟩)
      · rcases List.mem_cons.mp member with rfl | later
        · exact Or.inr ⟨List.mem_cons_self, notCr⟩
        · exact (ih later).imp id (fun inside => ⟨List.mem_cons_of_mem _ inside.1, inside.2⟩)

/-! ## What is written is read -/

/-- The characters that are read in every place as they are written. -/
def isSafe (c : Char) : Bool :=
  isXmlChar c && c ≠ '"' && c ≠ '\t' && c ≠ '\n' && c ≠ '\r'

def safeText (text : List Char) : Bool := text.all isSafe

def safeItem (item : Attribute) : Bool := isName item.1 && safeText item.1 && safeText item.2

def safeToken : Token → Bool
  | .start name items => isName name && safeText name && items.all safeItem
  | .empty name items => isName name && safeText name && items.all safeItem
  | .stop name => isName name && safeText name
  | .chars text => text ≠ [] && safeText text

theorem safeText_iff {text : List Char} :
    safeText text = true ↔ ∀ c ∈ text, isXmlChar c = true ∧ c ≠ '"' ∧ c ≠ '\t' ∧ c ≠ '\n' ∧ c ≠ '\r' := by
  simp [safeText, isSafe, and_assoc]

theorem safeText_append (first second : List Char) :
    safeText (first ++ second) = (safeText first && safeText second) := List.all_append

theorem map_blank {text : List Char} (safe : safeText text) : text.map blank = text := by
  refine (List.map_congr_left (fun c member => ?_)).trans (List.map_id _)
  obtain ⟨_, _, tab, lf, cr⟩ := safeText_iff.mp safe c member
  unfold blank
  by_cases space : c = ' '
  · rw [space]
    rfl
  · exact if_neg (by simp [isSpace, space, tab, lf, cr])

theorem plain_item {item : Attribute} (safe : safeItem item) :
    Markup.Plain attributeValue escape item := by
  rw [safeItem, Bool.and_eq_true, Bool.and_eq_true] at safe
  obtain ⟨⟨named, _⟩, content⟩ := safe
  refine ⟨named, not_mem_escape (fun member => ?_) (by decide), ?_⟩
  · exact (safeText_iff.mp content _ member).2.1 rfl
  · rw [attributeValue_escape, map_blank content]

theorem escape_ne_nil {text : List Char} (some : text ≠ []) : escape text ≠ [] := by
  cases text with
  | nil => exact absurd rfl some
  | cons c text =>
    intro empty
    have none : escapeChar c = [] := (List.append_eq_nil_iff.mp empty).1
    rcases escapeChar_cases c with ⟨_, shown⟩ | ⟨_, shown⟩ | ⟨_, shown⟩ | ⟨_, _, _, shown⟩ <;>
      rw [shown] at none <;> exact absurd none (by simp)

theorem plain_token {token : Token} (safe : safeToken token) :
    token.Plain attributeValue characterData escape := by
  cases token with
  | start name items =>
    rw [safeToken, Bool.and_eq_true, Bool.and_eq_true, List.all_eq_true] at safe
    exact ⟨safe.1.1, fun item member => plain_item (safe.2 item member)⟩
  | empty name items =>
    rw [safeToken, Bool.and_eq_true, Bool.and_eq_true, List.all_eq_true] at safe
    exact ⟨safe.1.1, fun item member => plain_item (safe.2 item member)⟩
  | stop name =>
    rw [safeToken, Bool.and_eq_true] at safe
    exact safe.1
  | chars text =>
    rw [safeToken, Bool.and_eq_true, decide_eq_true_iff] at safe
    refine ⟨escape_ne_nil safe.1, fun member => ?_, characterData_escape text⟩
    exact (mem_escape member).elim (fun inside => inside.2.2.1 rfl) (by decide)

/-- A character of a printed text is a safe one or a quote. -/
def isPrinted (c : Char) : Bool := isXmlChar c && c ≠ '\r'

theorem printed_escape {text : List Char} (safe : safeText text) :
    (escape text).all isPrinted = true := by
  rw [List.all_eq_true]
  intro c member
  rcases mem_escape member with ⟨inside, _⟩ | letter
  · obtain ⟨xml, _, _, _, cr⟩ := safeText_iff.mp safe c inside
    simp [isPrinted, xml, cr]
  · exact List.all_eq_true.mp (by decide : "&amp;lgt".toList.all isPrinted = true) c letter

theorem printed_of_safe {text : List Char} (safe : safeText text) : text.all isPrinted = true := by
  rw [List.all_eq_true]
  intro c member
  obtain ⟨xml, _, _, _, cr⟩ := safeText_iff.mp safe c member
  simp [isPrinted, xml, cr]

theorem printed_items {items : List Attribute} (safe : items.all safeItem) :
    (items.flatMap (printAttribute escape)).all isPrinted = true := by
  rw [List.all_eq_true] at safe
  rw [List.all_flatMap, List.all_eq_true]
  intro item member
  have good := safe item member
  rw [safeItem, Bool.and_eq_true, Bool.and_eq_true] at good
  have name := printed_of_safe good.1.2
  have value := printed_escape good.2
  unfold printAttribute
  rw [List.all_append, List.cons_append, List.all_cons, List.all_append, List.all_cons,
    List.all_cons, name, value]
  decide

theorem printed_token {token : Token} (safe : safeToken token) :
    (token.print escape).all isPrinted = true := by
  cases token with
  | start name items =>
    rw [safeToken, Bool.and_eq_true, Bool.and_eq_true] at safe
    rw [Token.print, List.cons_append, List.cons_append, List.all_cons, List.all_append,
      List.all_append, printed_of_safe safe.1.2, printed_items safe.2]
    decide
  | empty name items =>
    rw [safeToken, Bool.and_eq_true, Bool.and_eq_true] at safe
    rw [Token.print, List.cons_append, List.cons_append, List.all_cons, List.all_append,
      List.all_append, printed_of_safe safe.1.2, printed_items safe.2]
    decide
  | stop name =>
    rw [safeToken, Bool.and_eq_true] at safe
    rw [Token.print, List.cons_append, List.cons_append, List.all_cons, List.all_cons,
      List.all_append, printed_of_safe safe.2]
    decide
  | chars text =>
    rw [safeToken, Bool.and_eq_true] at safe
    exact printed_escape safe.2

/-- A document of safe texts is read back. -/
theorem parse_print {tokens : List Token} (safe : tokens.all safeToken) (separated : Separated tokens)
    (formed : wellFormed tokens) : parse (Markup.print escape tokens) = some tokens := by
  rw [List.all_eq_true] at safe
  have printed : ∀ c ∈ Markup.print escape tokens, isPrinted c = true := by
    intro c member
    obtain ⟨token, place, inside⟩ := List.mem_flatMap.mp member
    exact List.all_eq_true.mp (printed_token (safe token place)) c inside
  have xml : (Markup.print escape tokens).all isXmlChar = true := by
    rw [List.all_eq_true]
    intro c member
    exact (Bool.and_eq_true_iff.mp (printed c member)).1
  have noCr : '\r' ∉ Markup.print escape tokens := fun member =>
    absurd (printed _ member) (by decide)
  have lines : endOfLines false (Markup.print escape tokens) = Markup.print escape tokens := by
    have same := endOfLines_append noCr []
    rwa [List.append_nil, endOfLines, List.append_nil] at same
  unfold parse
  rw [if_pos xml, lines, read_print (fun token member => plain_token (safe token member)) separated]
  exact Option.filter_some_pos formed

/-! ## Fragments -/

/-- Whatever is open stays open, and nothing more. -/
def Balanced (tokens : List Token) : Prop :=
  ∀ name opened rest, closes (name :: opened) (tokens ++ rest) = closes (name :: opened) rest

/-- A part of the content of an element, from a tag on. -/
structure Fragment (tokens : List Token) : Prop where
  safe : tokens.all safeToken = true
  unique : tokens.all uniqueNames = true
  balanced : Balanced tokens
  separated : Separated tokens
  first : ∀ token ∈ tokens.head?, token.isChars = false

theorem Balanced.append {first second : List Token} (balanced : Balanced first)
    (other : Balanced second) : Balanced (first ++ second) := by
  intro name opened rest
  rw [List.append_assoc, balanced, other]

theorem Balanced.element {inner : List Token} (balanced : Balanced inner) (name : List Char)
    (items : List Attribute) : Balanced (.start name items :: inner ++ [.stop name]) := by
  intro outer opened rest
  rw [List.cons_append, List.cons_append, List.append_assoc]
  show closes (name :: outer :: opened) (inner ++ ([.stop name] ++ rest)) = _
  rw [balanced]
  show (decide (name = name) && closes (outer :: opened) rest) = _
  rw [decide_eq_true rfl, Bool.true_and]

theorem Fragment.append {first second : List Token} (fragment : Fragment first)
    (other : Fragment second) : Fragment (first ++ second) where
  safe := by rw [List.all_append, fragment.safe, other.safe]; rfl
  unique := by rw [List.all_append, fragment.unique, other.unique]; rfl
  balanced := fragment.balanced.append other.balanced
  separated := List.isChain_append.mpr ⟨fragment.separated, other.separated,
    fun _ _ next head _ => other.first next head⟩
  first token head := by
    cases first with
    | nil => exact other.first token head
    | cons _ _ => exact fragment.first token head

/-- Character data behind a tag. -/
theorem Fragment.chars {tokens : List Token} (fragment : Fragment tokens) (nonempty : tokens ≠ [])
    (last : ∀ token ∈ tokens.getLast?, token.isChars = false) {text : List Char}
    (safe : safeToken (.chars text)) : Fragment (tokens ++ [.chars text]) where
  safe := by rw [List.all_append, fragment.safe, List.all_cons, safe]; rfl
  unique := by rw [List.all_append, fragment.unique]; rfl
  balanced := fragment.balanced.append (fun _ _ _ => rfl)
  separated := List.isChain_append.mpr ⟨fragment.separated, List.IsChain.singleton _,
    fun token end_ _ _ isChars => by rw [last token end_] at isChars; cases isChars⟩
  first token head := by
    cases tokens with
    | nil => exact absurd rfl nonempty
    | cons _ _ => exact fragment.first token head

theorem fragment_empty {name : List Char} {items : List Attribute}
    (safe : safeToken (.empty name items)) (unique : uniqueNames (.empty name items)) :
    Fragment [.empty name items] where
  safe := by rw [List.all_cons, safe]; rfl
  unique := by rw [List.all_cons, unique]; rfl
  balanced _ _ _ := rfl
  separated := List.IsChain.singleton _
  first token head := by cases head; rfl

/-- An element with fragments in it, or with text. -/
theorem fragment_element {name : List Char} {items : List Attribute} {inner : List Token}
    (safe : safeToken (.start name items)) (unique : uniqueNames (.start name items))
    (innerSafe : inner.all safeToken = true) (innerUnique : inner.all uniqueNames = true)
    (balanced : Balanced inner) (separated : Separated inner) :
    Fragment (.start name items :: inner ++ [.stop name]) where
  safe := by
    have stop : safeToken (.stop name) = true := by
      rw [safeToken, Bool.and_eq_true] at safe
      exact safe.1
    rw [List.cons_append, List.all_cons, List.all_append, safe, innerSafe, List.all_cons, stop]
    rfl
  unique := by
    rw [List.cons_append, List.all_cons, List.all_append, unique, innerUnique]
    rfl
  balanced := balanced.element name items
  separated := by
    rw [List.cons_append]
    have tail : Separated (inner ++ [.stop name]) :=
      List.isChain_append.mpr ⟨separated, List.IsChain.singleton _,
        fun _ _ next head _ => by cases head; rfl⟩
    exact List.isChain_cons.mpr ⟨fun _ _ isChars => (by cases isChars), tail⟩
  first token head := by cases head; rfl

theorem Fragment.element {inner : List Token} (fragment : Fragment inner) {name : List Char}
    {items : List Attribute} (safe : safeToken (.start name items))
    (unique : uniqueNames (.start name items)) :
    Fragment (.start name items :: inner ++ [.stop name]) :=
  fragment_element safe unique fragment.safe fragment.unique fragment.balanced fragment.separated

/-- An element made of fragments is read back. -/
theorem Fragment.parse_print {inner : List Token} (fragment : Fragment inner) {name : List Char}
    {items : List Attribute} (safe : safeToken (.start name items))
    (unique : uniqueNames (.start name items)) :
    parse (Markup.print escape (.start name items :: inner ++ [.stop name])) =
      some (.start name items :: inner ++ [.stop name]) := by
  have whole := fragment.element safe unique
  refine Xml.parse_print whole.safe whole.separated ?_
  have closed : isDocument (.start name items :: inner ++ [.stop name]) = true := by
    show closes [name] (inner ++ [.stop name]) = true
    rw [fragment.balanced]
    show (decide (name = name) && true) = true
    rw [decide_eq_true rfl]
    rfl
  rw [wellFormed, closed, whole.unique]
  rfl

/-! ## What can be read back at all -/

/-- A text up to its first quote, and what is written behind that. -/
theorem escape_to_quote (text rest : List Char) :
    ∃ front after, '"' ∉ front ∧ escape text ++ '"' :: rest = escape front ++ '"' :: after := by
  by_cases inside : '"' ∈ text
  · obtain ⟨front, more, rfl, free⟩ := List.eq_append_cons_of_mem inside
    refine ⟨front, escape more ++ '"' :: rest, free, ?_⟩
    rw [escape_append, escape_cons (by decide), List.append_assoc, List.cons_append]
  · exact ⟨text, rest, inside, rfl⟩

/-- Whatever is read as the value of an attribute has no quote, no tab and no end of line. -/
theorem attributeValue_clean {front content : List Char} (free : '"' ∉ front)
    (read : attributeValue (endOfLines false (escape front)) = some content) :
    ∀ c ∈ content, c ≠ '"' ∧ c ≠ '\t' ∧ c ≠ '\n' ∧ c ≠ '\r' := by
  rw [endOfLines_escape, attributeValue_escape] at read
  cases read
  intro c member
  obtain ⟨d, place, rfl⟩ := List.mem_map.mp member
  unfold blank
  split
  · decide
  · next notSpace =>
    have kinds : d ≠ ' ' ∧ d ≠ '\t' ∧ d ≠ '\n' ∧ d ≠ '\r' := by
      simpa [isSpace, and_assoc] using notSpace
    refine ⟨?_, kinds.2⟩
    rintro rfl
    rcases mem_endOfLines place with lf | inside
    · exact absurd lf (by decide)
    · exact free inside.1

/-- A document that begins with a tag in which a text is written as a value: what is read
there, whatever the text does to the rest. -/
theorem parse_open {name key text rest : List Char} {items : List Attribute} {tokens : List Token}
    (safe : safeToken (.start name items)) (keyed : isName key && safeText key)
    (success : parse ('<' :: (name ++ (items.flatMap (printAttribute escape) ++
      ' ' :: (key ++ '=' :: '"' :: (escape text ++ '"' :: rest))))) = some tokens) :
    (∀ c ∈ text, isXmlChar c = true) ∧
      ∃ content more, (∀ c ∈ content, c ≠ '"' ∧ c ≠ '\t' ∧ c ≠ '\n' ∧ c ≠ '\r') ∧
        (tokens.head? = some (.start name (items ++ (key, content) :: more)) ∨
          tokens.head? = some (.empty name (items ++ (key, content) :: more))) := by
  unfold parse at success
  split at success
  · next xml =>
    rw [List.all_eq_true] at xml
    obtain ⟨read, _⟩ := Option.filter_eq_some_iff.mp success
    rw [safeToken, Bool.and_eq_true, Bool.and_eq_true] at safe
    rw [Bool.and_eq_true] at keyed
    have chars (c : Char) (member : c ∈ text) : isXmlChar c = true := by
      by_cases special : c = '&' ∨ c = '<' ∨ c = '>'
      · rcases special with rfl | rfl | rfl <;> decide
      · rw [not_or, not_or] at special
        exact xml c (by simp [mem_escape_of_mem member special.1 special.2.1 special.2.2])
    refine ⟨chars, ?_⟩
    have noCr {written : List Char} (printed : written.all isPrinted = true) : '\r' ∉ written :=
      fun member => absurd (List.all_eq_true.mp printed _ member) (by decide)
    have plain (item : Attribute) (member : item ∈ items) :=
      plain_item (List.all_eq_true.mp safe.2 item member)
    obtain ⟨front, after, free, split⟩ := escape_to_quote text rest
    have start : '<' :: (name ++ (items.flatMap (printAttribute escape) ++
        ' ' :: (key ++ '=' :: '"' :: (escape text ++ '"' :: rest)))) =
        ('<' :: (name ++ (items.flatMap (printAttribute escape) ++ ' ' :: (key ++ ['=', '"'])))) ++
          (escape front ++ '"' :: after) := by
      simp [split]
    have headNoCr : '\r' ∉ '<' :: (name ++ (items.flatMap (printAttribute escape) ++
        ' ' :: (key ++ ['=', '"']))) := by
      simp [noCr (printed_of_safe safe.1.2), noCr (printed_items safe.2),
        noCr (printed_of_safe keyed.2)]
    rw [start, endOfLines_append headNoCr, endOfLines_quote] at read
    have quoted : '"' ∉ endOfLines false (escape front) := by
      rw [endOfLines_escape]
      refine not_mem_escape (fun member => ?_) (by decide)
      rcases mem_endOfLines member with lf | inside
      · exact absurd lf (by decide)
      · exact free inside.1
    have shown : Markup.read attributeValue characterData
        ('<' :: (name ++ (items.flatMap (printAttribute escape) ++ ' ' :: (key ++ '=' :: '"' ::
          endOfLines false (escape front) ++ '"' :: endOfLines false after)))) = some tokens := by
      simpa using read
    obtain ⟨content, more, value, first⟩ := read_open safe.1.1 plain keyed.1 quoted shown
    exact ⟨content, more, attributeValue_clean free value, first⟩
  · cases success

end Reliastra.Library.Xml
