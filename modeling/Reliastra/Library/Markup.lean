import Mathlib.Data.List.Basic
import Mathlib.Data.Char

/-!
# Texts marked up with tags

Tags, attributes and character data in the form that XML and HTML share. What the raw
text of an attribute value or of character data stands for is a parameter of the reader,
and how it is written is one of the printer. Comments, declarations, sections and
processing instructions are left out: a text with one of them is not read.
-/

namespace Reliastra.Library.Markup

/-! ## Tokens -/

abbrev Attribute := List Char × List Char

inductive Token where
  | start (name : List Char) (attributes : List Attribute)
  /-- The tag of an empty element. -/
  | empty (name : List Char) (attributes : List Attribute)
  | stop (name : List Char)
  | chars (text : List Char)
  deriving DecidableEq, Repr

/-! ## Names and space -/

def isSpace (c : Char) : Bool := c = ' ' || c = '\t' || c = '\n' || c = '\r'

def inRanges (ranges : List (Nat × Nat)) (c : Char) : Bool :=
  ranges.any (fun range => range.1 ≤ c.toNat && c.toNat ≤ range.2)

def nameStartRanges : List (Nat × Nat) :=
  [(0x61, 0x7A), (0x41, 0x5A), (0x3A, 0x3A), (0x5F, 0x5F), (0xC0, 0xD6), (0xD8, 0xF6),
    (0xF8, 0x2FF), (0x370, 0x37D), (0x37F, 0x1FFF), (0x200C, 0x200D), (0x2070, 0x218F),
    (0x2C00, 0x2FEF), (0x3001, 0xD7FF), (0xF900, 0xFDCF), (0xFDF0, 0xFFFD), (0x10000, 0xEFFFF)]

def nameRanges : List (Nat × Nat) :=
  nameStartRanges ++
    [(0x2D, 0x2E), (0x30, 0x39), (0xB7, 0xB7), (0x300, 0x36F), (0x203F, 0x2040)]

def isNameStart (c : Char) : Bool := inRanges nameStartRanges c

def isNameChar (c : Char) : Bool := inRanges nameRanges c

def isName : List Char → Bool
  | [] => false
  | c :: more => isNameStart c && (c :: more).all isNameChar

/-! ## The reader -/

def readName (input : List Char) : Option (List Char × List Char) :=
  match input with
  | [] => none
  | c :: _ =>
    if isNameStart c then some (input.takeWhile isNameChar, input.dropWhile isNameChar) else none

/-- The text in front of a character, and what follows that. -/
def readTo (stop : Char) : List Char → Option (List Char × List Char)
  | [] => none
  | c :: rest =>
    if c = stop then some ([], rest)
    else (readTo stop rest).map (fun read => (c :: read.1, read.2))

/-- The raw value in one of the two quotes. -/
def readQuoted : List Char → Option (List Char × List Char)
  | [] => none
  | quote :: rest => if quote = '"' || quote = '\'' then readTo quote rest else none

section Reader
variable (value text : List Char → Option (List Char))

def readAttribute (input : List Char) : Option (Attribute × List Char) := do
  let (name, rest) ← readName input
  match rest.dropWhile isSpace with
  | '=' :: rest =>
    let (raw, rest) ← readQuoted (rest.dropWhile isSpace)
    let content ← value raw
    some ((name, content), rest)
  | _ => none

/-- The attributes of a tag, each behind some space, and whether its element is empty. -/
def readAttributes : Nat → List Char → Option (List Attribute × Bool × List Char)
  | 0, _ => none
  | fuel + 1, input =>
    match input.dropWhile isSpace with
    | '>' :: rest => some ([], false, rest)
    | '/' :: '>' :: rest => some ([], true, rest)
    | next =>
      if input.head?.any isSpace then do
        let (first, rest) ← readAttribute value next
        let (attributes, closed, rest) ← readAttributes fuel rest
        some (first :: attributes, closed, rest)
      else none

def readToken (input : List Char) : Option (Token × List Char) :=
  match input with
  | '<' :: '/' :: rest => do
    let (name, rest) ← readName rest
    match rest.dropWhile isSpace with
    | '>' :: rest => some (.stop name, rest)
    | _ => none
  | '<' :: rest => do
    let (name, rest) ← readName rest
    let (attributes, closed, rest) ← readAttributes value (rest.length + 1) rest
    some (if closed then .empty name attributes else .start name attributes, rest)
  | _ => do
    let content ← text (input.takeWhile (· ≠ '<'))
    some (.chars content, input.dropWhile (· ≠ '<'))

def readTokens : Nat → List Char → Option (List Token)
  | _, [] => some []
  | 0, _ => none
  | fuel + 1, input => do
    let (token, rest) ← readToken value text input
    let tokens ← readTokens fuel rest
    some (token :: tokens)

/-- Every token takes a character at least. -/
def read (input : List Char) : Option (List Token) := readTokens value text input.length input

end Reader

/-! ## The printer -/

section Printer
variable (escape : List Char → List Char)

def printAttribute (item : Attribute) : List Char :=
  ' ' :: item.1 ++ '=' :: '"' :: escape item.2 ++ ['"']

def Token.print : Token → List Char
  | .start name attributes => '<' :: name ++ attributes.flatMap (printAttribute escape) ++ ['>']
  | .empty name attributes => '<' :: name ++ attributes.flatMap (printAttribute escape) ++ ['/', '>']
  | .stop name => '<' :: '/' :: name ++ ['>']
  | .chars text => escape text

def print (tokens : List Token) : List Char := tokens.flatMap (Token.print escape)

end Printer

/-! ## What is printed is read -/

theorem readTo_append {stop : Char} {before : List Char} (free : stop ∉ before) (rest : List Char) :
    readTo stop (before ++ stop :: rest) = some (before, rest) := by
  induction before with
  | nil => simp [readTo]
  | cons c before ih =>
    rw [List.mem_cons, not_or] at free
    rw [List.cons_append, readTo, if_neg (Ne.symm free.1), ih free.2]
    rfl

/-- A character at which a name ends. -/
def EndsName (rest : List Char) : Prop := ∀ c more, rest = c :: more → isNameChar c = false

theorem readName_append {name rest : List Char} (named : isName name) (ends : EndsName rest) :
    readName (name ++ rest) = some (name, rest) := by
  cases name with
  | nil => cases named
  | cons c more =>
    rw [isName, Bool.and_eq_true, List.all_eq_true] at named
    obtain ⟨first, all⟩ := named
    have taken : ((c :: more) ++ rest).takeWhile isNameChar = c :: more := by
      rw [List.takeWhile_append_of_pos all]
      cases rest with
      | nil => simp
      | cons d rest =>
        rw [List.takeWhile_cons_of_neg (by rw [ends d rest rfl]; simp), List.append_nil]
    have dropped : ((c :: more) ++ rest).dropWhile isNameChar = rest := by
      rw [List.dropWhile_append_of_pos all]
      cases rest with
      | nil => rfl
      | cons d rest => rw [List.dropWhile_cons_of_neg (by rw [ends d rest rfl]; simp)]
    show (if isNameStart c then some _ else none) = _
    rw [if_pos first]
    exact congrArg some (Prod.ext taken dropped)

theorem endsName_cons {c : Char} (ends : isNameChar c = false) (more : List Char) :
    EndsName (c :: more) := by
  intro d rest equal
  cases equal
  exact ends

section RoundTrip
variable {value text : List Char → Option (List Char)} {escape : List Char → List Char}

/-- An attribute with its raw value. -/
theorem readAttribute_raw {name raw : List Char} (named : isName name) (free : '"' ∉ raw)
    (rest : List Char) :
    readAttribute value (name ++ '=' :: '"' :: raw ++ '"' :: rest) =
      (value raw).map (fun content => ((name, content), rest)) := by
  have quoted : readQuoted ('"' :: raw ++ '"' :: rest) = some (raw, rest) := by
    show readTo '"' (raw ++ '"' :: rest) = _
    exact readTo_append free rest
  have head : readName (name ++ ('=' :: '"' :: raw ++ '"' :: rest)) =
      some (name, '=' :: '"' :: raw ++ '"' :: rest) :=
    readName_append named (endsName_cons (by decide) ('"' :: raw ++ '"' :: rest))
  unfold readAttribute
  rw [List.append_assoc, head]
  show (readQuoted ('"' :: raw ++ '"' :: rest)).bind _ = _
  rw [quoted]
  show (value raw).bind _ = _
  cases value raw with
  | none => rfl
  | some content => rfl

theorem dropWhile_isSpace_append {name rest : List Char} (named : isName name) :
    (name ++ rest).dropWhile isSpace = name ++ rest := by
  cases name with
  | nil => cases named
  | cons c more =>
    rw [isName, Bool.and_eq_true] at named
    refine List.dropWhile_cons_of_neg (fun space => ?_)
    have four : c = ' ' ∨ c = '\t' ∨ c = '\n' ∨ c = '\r' := by
      simpa [isSpace, or_assoc] using space
    rcases four with rfl | rfl | rfl | rfl <;> exact absurd named.1 (by decide)

/-- A name is not the end of a tag. -/
theorem readAttributes_name {name rest : List Char} (named : isName name) (fuel : Nat) :
    readAttributes value (fuel + 1) (' ' :: (name ++ rest)) =
      (readAttribute value (name ++ rest)).bind (fun first =>
        (readAttributes value fuel first.2).map (fun read => (first.1 :: read.1, read.2))) := by
  have dropped : (' ' :: (name ++ rest)).dropWhile isSpace = name ++ rest := by
    rw [List.dropWhile_cons_of_pos (by decide), dropWhile_isSpace_append named]
  rw [readAttributes, dropped]
  cases name with
  | nil => cases named
  | cons c more =>
    rw [isName, Bool.and_eq_true] at named
    have notEnd : c ≠ '>' ∧ c ≠ '/' := by
      constructor <;> rintro rfl <;> exact absurd named.1 (by decide)
    split
    · next equal => exact absurd (List.cons.inj equal).1 notEnd.1
    · next equal => exact absurd (List.cons.inj equal).1 notEnd.2
    · have spaced : (' ' :: (c :: more ++ rest)).head?.any isSpace = true := rfl
      rw [if_pos spaced]
      cases readAttribute value (c :: more ++ rest) with
      | none => rfl
      | some first =>
        show (readAttributes value fuel first.2).bind _ = (readAttributes value fuel first.2).map _
        cases readAttributes value fuel first.2 with
        | none => rfl
        | some read => rfl

/-- One more attribute. -/
theorem readAttributes_raw {name raw : List Char} (named : isName name) (free : '"' ∉ raw)
    (fuel : Nat) (rest : List Char) :
    readAttributes value (fuel + 1) (' ' :: (name ++ '=' :: '"' :: raw ++ '"' :: rest)) =
      (value raw).bind (fun content => (readAttributes value fuel rest).map
        (fun read => ((name, content) :: read.1, read.2))) := by
  rw [List.append_assoc, readAttributes_name named, ← List.append_assoc,
    readAttribute_raw named free]
  cases value raw with
  | none => rfl
  | some content => rfl

/-- An attribute that is read as it was printed. -/
def Plain (value : List Char → Option (List Char)) (escape : List Char → List Char)
    (item : Attribute) : Prop :=
  isName item.1 ∧ '"' ∉ escape item.2 ∧ value (escape item.2) = some item.2

theorem readAttributes_print {items : List Attribute}
    (plain : ∀ item ∈ items, Plain value escape item) (fuel : Nat) (rest : List Char) :
    readAttributes value (items.length + fuel) (items.flatMap (printAttribute escape) ++ rest) =
      (readAttributes value fuel rest).map (fun read => (items ++ read.1, read.2)) := by
  induction items with
  | nil =>
    rw [List.length_nil, Nat.zero_add, List.flatMap_nil, List.nil_append]
    cases readAttributes value fuel rest <;> rfl
  | cons item items ih =>
    obtain ⟨named, free, same⟩ := plain item List.mem_cons_self
    have later := ih (fun other member => plain other (List.mem_cons_of_mem _ member))
    have text : (item :: items).flatMap (printAttribute escape) ++ rest =
        ' ' :: (item.1 ++ '=' :: '"' :: escape item.2 ++
          '"' :: (items.flatMap (printAttribute escape) ++ rest)) := by
      simp [printAttribute]
    have fuels : (item :: items).length + fuel = (items.length + fuel) + 1 := by
      rw [List.length_cons]
      omega
    rw [text, fuels, readAttributes_raw named free, same, Option.bind_some, later, Option.map_map]
    rfl

/-- The reader gets past a tag that starts so. -/
theorem readAttributes_end (fuel : Nat) (closed : Bool) (rest : List Char) :
    readAttributes value (fuel + 1) ((if closed then ['/', '>'] else ['>']) ++ rest) =
      some ([], closed, rest) := by
  cases closed <;> rfl

/-- A token that is read as it was printed, in front of a token of another kind. -/
def Token.Plain (value text : List Char → Option (List Char)) (escape : List Char → List Char) :
    Token → Prop
  | .start name items => isName name ∧ ∀ item ∈ items, Markup.Plain value escape item
  | .empty name items => isName name ∧ ∀ item ∈ items, Markup.Plain value escape item
  | .stop name => isName name
  | .chars content =>
    escape content ≠ [] ∧ '<' ∉ escape content ∧ text (escape content) = some content

def Token.isChars : Token → Bool
  | .chars _ => true
  | _ => false

/-- Where character data ends. -/
def EndsChars (rest : List Char) : Prop := rest = [] ∨ ∃ more, rest = '<' :: more

theorem readToken_open {name rest : List Char} (named : isName name) (ends : EndsName rest) :
    readToken value text ('<' :: (name ++ rest)) =
      (readAttributes value (rest.length + 1) rest).map (fun read =>
        (if read.2.1 then .empty name read.1 else .start name read.1, read.2.2)) := by
  have head := readName_append named ends
  unfold readToken
  split
  · next equal =>
    cases name with
    | nil => cases named
    | cons c more =>
      have slash : c = '/' := (List.cons.inj (List.cons.inj equal).2).1
      subst slash
      exact absurd named (by simp [isName, show isNameStart '/' = false from by decide])
  · next inner _ equal =>
    rw [← (List.cons.inj equal).2, head]
    show (readAttributes value (rest.length + 1) rest).bind _ = _
    cases readAttributes value (rest.length + 1) rest with
    | none => rfl
    | some read => rfl
  · next other => exact absurd rfl (other (name ++ rest))

theorem length_le_print (items : List Attribute) :
    items.length ≤ (items.flatMap (printAttribute escape)).length := by
  induction items with
  | nil => simp
  | cons item items ih =>
    rw [List.flatMap_cons, List.length_append, List.length_cons]
    have one : 1 ≤ (printAttribute escape item).length := by simp [printAttribute]
    omega

/-- The rest of a tag behind its name. -/
theorem endsName_attributes (items : List Attribute) {rest : List Char} (ends : EndsName rest) :
    EndsName (items.flatMap (printAttribute escape) ++ rest) := by
  cases items with
  | nil => exact ends
  | cons item items => exact endsName_cons (by decide) _

theorem endsName_end (closed : Bool) (rest : List Char) :
    EndsName ((if closed then ['/', '>'] else ['>']) ++ rest) := by
  cases closed <;> exact endsName_cons (by decide) _

theorem readToken_tag {name : List Char} {items : List Attribute} (named : isName name)
    (plain : ∀ item ∈ items, Markup.Plain value escape item) (closed : Bool) (rest : List Char) :
    readToken value text ('<' :: (name ++ (items.flatMap (printAttribute escape) ++
        ((if closed then ['/', '>'] else ['>']) ++ rest)))) =
      some (if closed then .empty name items else .start name items, rest) := by
  rw [readToken_open named (endsName_attributes items (endsName_end closed rest))]
  obtain ⟨fuel, enough⟩ : ∃ fuel, (items.flatMap (printAttribute escape) ++
      ((if closed then ['/', '>'] else ['>']) ++ rest)).length + 1 = items.length + (fuel + 1) := by
    have enough : items.length ≤ (items.flatMap (printAttribute escape)).length :=
      length_le_print items
    rw [List.length_append]
    obtain ⟨more, split⟩ := Nat.exists_eq_add_of_le (Nat.le_add_right_of_le enough)
    exact ⟨more, by rw [split]; rfl⟩
  rw [enough, readAttributes_print plain, readAttributes_end]
  cases closed <;> simp

theorem ne_of_head {shown rest : List Char} {c : Char} {more : List Char} (free : c ∉ shown)
    (some : shown ≠ []) : shown ++ rest ≠ c :: more := by
  intro equal
  cases shown with
  | nil => exact some rfl
  | cons d shown => exact free (by rw [(List.cons.inj equal).1]; exact List.mem_cons_self)

/-- A token, in front of what cannot be more of it. -/
theorem readToken_print {token : Token} (plain : token.Plain value text escape)
    (rest : List Char) (ends : token.isChars → EndsChars rest) :
    readToken value text (token.print escape ++ rest) = some (token, rest) := by
  cases token with
  | start name items =>
    have tag : readToken value text _ = _ := readToken_tag plain.1 plain.2 false rest
    simpa [Token.print] using tag
  | empty name items =>
    have tag : readToken value text _ = _ := readToken_tag plain.1 plain.2 true rest
    simpa [Token.print] using tag
  | stop name =>
    have head : readName (name ++ '>' :: rest) = some (name, '>' :: rest) :=
      readName_append plain (endsName_cons (by decide) rest)
    have shown : (Token.stop name).print escape ++ rest = '<' :: '/' :: (name ++ '>' :: rest) := by
      simp [Token.print]
    rw [shown]
    show (readName (name ++ '>' :: rest)).bind _ = _
    rw [head]
    rfl
  | chars content =>
    obtain ⟨some, free, same⟩ := plain
    have inside : ∀ c ∈ escape content, decide (c ≠ '<') = true := by
      intro c member
      exact decide_eq_true (fun equal => free (equal ▸ member))
    have taken : (escape content ++ rest).takeWhile (· ≠ '<') = escape content := by
      rw [List.takeWhile_append_of_pos inside]
      rcases ends rfl with rfl | ⟨more, rfl⟩ <;> simp
    have dropped : (escape content ++ rest).dropWhile (· ≠ '<') = rest := by
      rw [List.dropWhile_append_of_pos inside]
      rcases ends rfl with rfl | ⟨more, rfl⟩ <;> simp
    show readToken value text (escape content ++ rest) = _
    unfold readToken
    split
    · next equal => exact absurd equal (ne_of_head free some)
    · next equal => exact absurd equal (ne_of_head free some)
    · rw [taken, dropped, same]
      rfl

/-- No two pieces of character data in a row. -/
def Separated (tokens : List Token) : Prop :=
  tokens.IsChain (fun token next => token.isChars = true → next.isChars = false)

theorem print_ne_nil {token : Token} (plain : token.Plain value text escape) :
    token.print escape ≠ [] := by
  cases token with
  | chars content => exact plain.1
  | _ => simp [Token.print]

theorem endsChars_print {tokens : List Token} (first : ∀ token ∈ tokens.head?, token.isChars = false) :
    EndsChars (print escape tokens) := by
  cases tokens with
  | nil => exact Or.inl rfl
  | cons token tokens =>
    have other := first token rfl
    cases token with
    | chars content => cases other
    | _ => exact Or.inr ⟨_, rfl⟩

theorem readTokens_succ {input : List Char} (nonempty : input ≠ []) (fuel : Nat) :
    readTokens value text (fuel + 1) input =
      (readToken value text input).bind (fun read =>
        (readTokens value text fuel read.2).map (read.1 :: ·)) := by
  cases input with
  | nil => exact absurd rfl nonempty
  | cons c more =>
    rw [readTokens]
    · cases readToken value text (c :: more) with
      | none => rfl
      | some read =>
        show (readTokens value text fuel read.2).bind _ = (readTokens value text fuel read.2).map _
        cases readTokens value text fuel read.2 <;> rfl
    · exact List.cons_ne_nil c more

/-- The reader gets back the tokens that were printed. -/
theorem read_print {tokens : List Token} (plain : ∀ token ∈ tokens, token.Plain value text escape)
    (separated : Separated tokens) : read value text (print escape tokens) = some tokens := by
  have any (tokens : List Token) (plain : ∀ token ∈ tokens, token.Plain value text escape)
      (separated : Separated tokens) (fuel : Nat) (enough : (print escape tokens).length ≤ fuel) :
      readTokens value text fuel (print escape tokens) = some tokens := by
    induction tokens generalizing fuel with
    | nil => cases fuel <;> rfl
    | cons token tokens ih =>
      have here := plain token List.mem_cons_self
      have split : print escape (token :: tokens) = token.print escape ++ print escape tokens := rfl
      have nonempty := List.length_pos_of_ne_nil (print_ne_nil here)
      rw [split, List.length_append] at enough
      obtain ⟨fuel, rfl⟩ : ∃ less, fuel = less + 1 := ⟨fuel - 1, by omega⟩
      have ends : token.isChars → EndsChars (print escape tokens) := by
        intro isChars
        refine endsChars_print (fun next head => ?_)
        cases tokens with
        | nil => cases head
        | cons second tokens =>
          cases head
          exact (List.isChain_cons_cons.mp separated).1 isChars
      have later := ih (fun other member => plain other (List.mem_cons_of_mem _ member))
        (separated.of_cons) fuel (by omega)
      rw [split]
      rw [readTokens_succ (List.append_ne_nil_of_left_ne_nil (print_ne_nil here) _),
        readToken_print here _ ends]
      show (readTokens value text fuel (print escape tokens)).map _ = _
      rw [later]
      rfl
  exact any tokens plain separated _ le_rfl

/-- The first tag of a text that is read, up to an attribute with its raw value. -/
theorem read_open {name key raw rest : List Char} {items : List Attribute} {tokens : List Token}
    (named : isName name) (plain : ∀ item ∈ items, Markup.Plain value escape item)
    (keyed : isName key) (free : '"' ∉ raw)
    (success : read value text ('<' :: (name ++ (items.flatMap (printAttribute escape) ++
      ' ' :: (key ++ '=' :: '"' :: raw ++ '"' :: rest)))) = some tokens) :
    ∃ content more, value raw = some content ∧
      (tokens.head? = some (.start name (items ++ (key, content) :: more)) ∨
        tokens.head? = some (.empty name (items ++ (key, content) :: more))) := by
  unfold read at success
  rw [List.length_cons, readTokens_succ (List.cons_ne_nil _ _)] at success
  obtain ⟨⟨token, later⟩, first, others⟩ := Option.bind_eq_some_iff.mp success
  obtain ⟨tail, _, rfl⟩ := Option.map_eq_some_iff.mp others
  rw [readToken_open named (endsName_attributes items (endsName_cons (by decide) _))] at first
  obtain ⟨fuel, enough⟩ : ∃ fuel, (items.flatMap (printAttribute escape) ++
      ' ' :: (key ++ '=' :: '"' :: raw ++ '"' :: rest)).length + 1 = items.length + (fuel + 1) := by
    have enough : items.length ≤ (items.flatMap (printAttribute escape)).length :=
      length_le_print items
    rw [List.length_append]
    obtain ⟨more, split⟩ := Nat.exists_eq_add_of_le (Nat.le_add_right_of_le enough)
    exact ⟨more, by rw [split]; rfl⟩
  rw [enough, readAttributes_print plain, readAttributes_raw keyed free, Option.map_map] at first
  obtain ⟨⟨attributes, closed, rest⟩, inner, same⟩ := Option.map_eq_some_iff.mp first
  obtain ⟨content, value, remaining⟩ := Option.bind_eq_some_iff.mp inner
  obtain ⟨⟨more, _, _⟩, _, equal⟩ := Option.map_eq_some_iff.mp remaining
  cases equal
  refine ⟨content, more, value, ?_⟩
  cases closed with
  | false => exact Or.inl (by rw [← (Prod.mk.inj same).1]; rfl)
  | true => exact Or.inr (by rw [← (Prod.mk.inj same).1]; rfl)

end RoundTrip

/-! ## References -/

/-- What a raw text stands for, where it may have the references that an escaping writes:
another `&` stands for itself if `lenient`, and is refused if not. Characters that are
written as themselves are passed through `plain`. -/
def decode (lenient : Bool) (plain : Char → Char) : List Char → Option (List Char)
  | [] => some []
  | '&' :: 'a' :: 'm' :: 'p' :: ';' :: rest => (decode lenient plain rest).map ('&' :: ·)
  | '&' :: 'l' :: 't' :: ';' :: rest => (decode lenient plain rest).map ('<' :: ·)
  | '&' :: 'g' :: 't' :: ';' :: rest => (decode lenient plain rest).map ('>' :: ·)
  | '&' :: 'q' :: 'u' :: 'o' :: 't' :: ';' :: rest => (decode lenient plain rest).map ('"' :: ·)
  | '&' :: 'a' :: 'p' :: 'o' :: 's' :: ';' :: rest => (decode lenient plain rest).map ('\'' :: ·)
  | '&' :: '#' :: 'x' :: '2' :: '7' :: ';' :: rest => (decode lenient plain rest).map ('\'' :: ·)
  | c :: rest =>
    if c = '&' && !lenient then none else (decode lenient plain rest).map (plain c :: ·)

theorem decode_cons {lenient : Bool} {plain : Char → Char} {c : Char} (written : c ≠ '&')
    (rest : List Char) :
    decode lenient plain (c :: rest) = (decode lenient plain rest).map (plain c :: ·) := by
  rw [decode]
  · rw [if_neg (by simp [written])]
  all_goals
    intro _ here _
    exact written here

/-- What is written character by character is read so. -/
theorem decode_flatMap {lenient : Bool} {plain : Char → Char} {escapeChar : Char → List Char}
    {shown : Char → Char}
    (one : ∀ c rest, decode lenient plain (escapeChar c ++ rest) =
      (decode lenient plain rest).map (shown c :: ·)) (content : List Char) :
    decode lenient plain (content.flatMap escapeChar) = some (content.map shown) := by
  induction content with
  | nil => rfl
  | cons c content ih => rw [List.flatMap_cons, one, ih, Option.map_some, List.map_cons]

end Reliastra.Library.Markup
