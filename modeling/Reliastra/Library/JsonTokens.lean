import Mathlib.Data.List.Basic
import Mathlib.Data.Nat.Notation

/-!
# Strings and numbers in JSON text

How a writer puts a string or a number into JSON text, plainly or with every
character beyond ASCII escaped, and how a reader takes it out again. A character
is a Unicode scalar value, so a text has no lone surrogates; a pair of escaped
surrogates stands for one character.

Each reader answers with what it read and the text that is left. The theorems
say that it reads back what the writer put there, whatever follows.
-/

namespace Reliastra.Library.JsonText

/-! ## Hexadecimal units -/

def hexDigit (d : Nat) : Char := if d < 10 then Char.ofNat (48 + d) else Char.ofNat (87 + d)

def hexValue (c : Char) : Option Nat :=
  if '0' ≤ c ∧ c ≤ '9' then some (c.toNat - 48)
  else if 'a' ≤ c ∧ c ≤ 'f' then some (c.toNat - 87)
  else if 'A' ≤ c ∧ c ≤ 'F' then some (c.toNat - 55)
  else none

theorem hexValue_hexDigit : ∀ d < 16, hexValue (hexDigit d) = some d := by decide

/-- A code unit below `2 ^ 16` as `\uXXXX`. -/
def unitEscape (n : Nat) : List Char :=
  ['\\', 'u', hexDigit (n / 4096 % 16), hexDigit (n / 256 % 16), hexDigit (n / 16 % 16),
    hexDigit (n % 16)]

/-- The four digits of a unit. -/
def readUnit : List Char → Option (Nat × List Char)
  | a :: b :: c :: d :: rest => do
    let a ← hexValue a
    let b ← hexValue b
    let c ← hexValue c
    let d ← hexValue d
    return (((a * 16 + b) * 16 + c) * 16 + d, rest)
  | _ => none

theorem readUnit_digits {n : Nat} (small : n < 65536) (rest : List Char) :
    readUnit (hexDigit (n / 4096 % 16) :: hexDigit (n / 256 % 16) :: hexDigit (n / 16 % 16) ::
      hexDigit (n % 16) :: rest) = some (n, rest) := by
  have digits (m : Nat) : hexValue (hexDigit (m % 16)) = some (m % 16) :=
    hexValue_hexDigit _ (Nat.mod_lt _ (by decide))
  simp only [readUnit, digits, bind, Option.bind, pure]
  have value : ((n / 4096 % 16 * 16 + n / 256 % 16) * 16 + n / 16 % 16) * 16 + n % 16 = n := by
    omega
  rw [value]

/-! ## Characters -/

/-- The characters with a short escape. -/
def shortEscape (c : Char) : Option Char :=
  if c = '"' then some '"'
  else if c = '\\' then some '\\'
  else if c = '\n' then some 'n'
  else if c = '\r' then some 'r'
  else if c = '\t' then some 't'
  else if c = '\x0c' then some 'f'
  else if c = '\x08' then some 'b'
  else none

def ofShortEscape (c : Char) : Option Char :=
  if c = '"' then some '"'
  else if c = '\\' then some '\\'
  else if c = '/' then some '/'
  else if c = 'n' then some '\n'
  else if c = 'r' then some '\r'
  else if c = 't' then some '\t'
  else if c = 'f' then some '\x0c'
  else if c = 'b' then some '\x08'
  else none

/-- One character of a string; `ascii` escapes what is not printable ASCII. -/
def escapeChar (ascii : Bool) (c : Char) : List Char :=
  match shortEscape c with
  | some e => ['\\', e]
  | none =>
    if c.toNat < 32 then unitEscape c.toNat
    else if ascii = true ∧ 126 < c.toNat then
      if c.toNat < 65536 then unitEscape c.toNat
      else unitEscape (55296 + (c.toNat - 65536) / 1024) ++
        unitEscape (56320 + (c.toNat - 65536) % 1024)
    else [c]

/-- The second half of a pair, after its first. -/
def readLowSurrogate (high : Nat) : List Char → Option (Char × List Char)
  | '\\' :: 'u' :: rest => do
    let (low, rest) ← readUnit rest
    if 56320 ≤ low ∧ low < 57344 then
      return (Char.ofNat (65536 + (high - 55296) * 1024 + (low - 56320)), rest)
    else none
  | _ => none

def readEscape : List Char → Option (Char × List Char)
  | [] => none
  | e :: rest =>
    if e = 'u' then do
      let (unit, rest) ← readUnit rest
      if 55296 ≤ unit ∧ unit < 56320 then readLowSurrogate unit rest
      else if 56320 ≤ unit ∧ unit < 57344 then none
      else return (Char.ofNat unit, rest)
    else do
      let c ← ofShortEscape e
      return (c, rest)

/-- One character of a string that has not ended. -/
def readChar : List Char → Option (Char × List Char)
  | [] => none
  | c :: rest => if c = '\\' then readEscape rest else if c.toNat < 32 then none else some (c, rest)

theorem shortEscape_eq_some {c e : Char} (short : shortEscape c = some e) :
    ofShortEscape e = some c ∧ e ≠ 'u' := by
  unfold shortEscape at short
  split at short <;> try (cases short; subst_vars; decide)
  split at short <;> try (cases short; subst_vars; decide)
  split at short <;> try (cases short; subst_vars; decide)
  split at short <;> try (cases short; subst_vars; decide)
  split at short <;> try (cases short; subst_vars; decide)
  split at short <;> try (cases short; subst_vars; decide)
  split at short <;> try (cases short; subst_vars; decide)
  cases short

/-- A character is no surrogate. -/
theorem toNat_not_surrogate (c : Char) : c.toNat < 55296 ∨ 57344 ≤ c.toNat ∧ c.toNat < 1114112 := by
  have valid := c.valid
  rcases valid with low | ⟨above, below⟩
  · exact .inl low
  · exact .inr ⟨above, below⟩

theorem readChar_unitEscape {c : Char} (small : c.toNat < 65536) (rest : List Char) :
    readChar (unitEscape c.toNat ++ rest) = some (c, rest) := by
  have scalar := toNat_not_surrogate c
  simp only [unitEscape, readChar, readEscape, List.cons_append, List.nil_append, if_true,
    readUnit_digits small, bind, Option.bind, pure]
  rw [if_neg (by omega), if_neg (by omega), Char.ofNat_toNat]

theorem readChar_surrogates {high low : Nat} (first : 55296 ≤ high ∧ high < 56320)
    (second : 56320 ≤ low ∧ low < 57344) (rest : List Char) :
    readChar (unitEscape high ++ unitEscape low ++ rest) =
      some (Char.ofNat (65536 + (high - 55296) * 1024 + (low - 56320)), rest) := by
  have highUnit : high < 65536 := by omega
  have lowUnit : low < 65536 := by omega
  simp only [unitEscape, readChar, readEscape, readLowSurrogate, List.cons_append,
    List.nil_append, if_true, readUnit_digits highUnit, readUnit_digits lowUnit, bind,
    Option.bind, pure]
  rw [if_pos first, if_pos second]

theorem surrogates_value {n : Nat} (large : 65536 ≤ n) (below : n < 1114112) :
    (55296 ≤ 55296 + (n - 65536) / 1024 ∧ 55296 + (n - 65536) / 1024 < 56320) ∧
      (56320 ≤ 56320 + (n - 65536) % 1024 ∧ 56320 + (n - 65536) % 1024 < 57344) ∧
      65536 + (55296 + (n - 65536) / 1024 - 55296) * 1024 +
        (56320 + (n - 65536) % 1024 - 56320) = n := by
  omega

theorem readChar_pair {c : Char} (large : 65536 ≤ c.toNat) (rest : List Char) :
    readChar (unitEscape (55296 + (c.toNat - 65536) / 1024) ++
      unitEscape (56320 + (c.toNat - 65536) % 1024) ++ rest) = some (c, rest) := by
  have scalar := toNat_not_surrogate c
  obtain ⟨first, second, value⟩ := surrogates_value large (by omega)
  rw [readChar_surrogates first second, value, Char.ofNat_toNat]

theorem readChar_escapeChar (ascii : Bool) (c : Char) (rest : List Char) :
    readChar (escapeChar ascii c ++ rest) = some (c, rest) := by
  unfold escapeChar
  cases short : shortEscape c with
  | some e =>
    obtain ⟨back, other⟩ := shortEscape_eq_some short
    simp [readChar, readEscape, other, back]
  | none =>
    have plain : c ≠ '\\' := by
      rintro rfl
      cases short
    dsimp only
    split
    · next control => exact readChar_unitEscape (by omega) rest
    · next printable =>
      split
      · split
        · next small => exact readChar_unitEscape small rest
        · next large => exact readChar_pair (by omega) rest
      · simp [readChar, plain, printable]

/-- What is written for a character does not look like the end of the string. -/
theorem escapeChar_head (ascii : Bool) (c : Char) :
    ∃ head tail, escapeChar ascii c = head :: tail ∧ head ≠ '"' := by
  unfold escapeChar
  cases short : shortEscape c with
  | some e => exact ⟨'\\', [e], rfl, by decide⟩
  | none =>
    dsimp only
    split
    · exact ⟨'\\', _, rfl, by decide⟩
    · split
      · split
        · exact ⟨'\\', _, rfl, by decide⟩
        · exact ⟨'\\', _, rfl, by decide⟩
      · refine ⟨c, [], rfl, ?_⟩
        rintro rfl
        cases short

/-! ## Strings -/

/-- The characters of a string, and the quotation mark that ends it. -/
def escape (ascii : Bool) (text : List Char) : List Char :=
  text.flatMap (escapeChar ascii) ++ ['"']

/-- The string up to its end, in at most as many steps as given. -/
def scanString : Nat → List Char → Option (List Char × List Char)
  | 0, _ => none
  | n + 1, text =>
    match text with
    | '"' :: rest => some ([], rest)
    | text => do
      let (c, rest) ← readChar text
      let (cs, rest) ← scanString n rest
      return (c :: cs, rest)

theorem scanString_escape (ascii : Bool) (text rest : List Char) (n : Nat)
    (enough : text.length < n) :
    scanString n (escape ascii text ++ rest) = some (text, rest) := by
  induction text generalizing n with
  | nil =>
    obtain ⟨m, rfl⟩ := Nat.exists_eq_add_of_lt enough
    simp [escape, scanString]
  | cons c cs ih =>
    cases n with
    | zero => exact absurd enough (Nat.not_lt_zero _)
    | succ m =>
      have later := ih m (Nat.lt_of_succ_lt_succ enough)
      have written : escape ascii (c :: cs) ++ rest =
          escapeChar ascii c ++ (escape ascii cs ++ rest) := by
        simp [escape]
      obtain ⟨head, tail, shape, other⟩ := escapeChar_head ascii c
      have read := readChar_escapeChar ascii c (escape ascii cs ++ rest)
      rw [written]
      rw [shape, List.cons_append] at read ⊢
      unfold scanString
      split
      · next same =>
        cases same
        exact absurd rfl other
      · simp only [read, later, bind, Option.bind, pure]

theorem length_le_escape (ascii : Bool) (text : List Char) :
    text.length < (escape ascii text).length := by
  induction text with
  | nil => simp [escape]
  | cons c cs ih =>
    obtain ⟨head, tail, shape, _⟩ := escapeChar_head ascii c
    have written : escape ascii (c :: cs) = escapeChar ascii c ++ escape ascii cs := by
      simp [escape]
    rw [written, shape]
    simp only [List.length_cons, List.length_append]
    omega

/-! ## Numbers -/

def printInteger : Int → List Char
  | .ofNat n => Nat.toDigits 10 n
  | .negSucc n => '-' :: Nat.toDigits 10 (n + 1)

/-- `0`, or digits that do not begin with one. -/
def readNatural : List Char → Option Nat
  | ['0'] => some 0
  | digits =>
    if digits ≠ [] ∧ digits.head? ≠ some '0' ∧ digits.all Char.isDigit then
      some (Nat.ofDigitChars 10 digits 0)
    else none

def readInteger : List Char → Option Int
  | '-' :: digits => (readNatural digits).map fun (n : Nat) => -Int.ofNat n
  | digits => (readNatural digits).map Int.ofNat

theorem head_toDigits (n : Nat) :
    ∃ head tail, Nat.toDigits 10 n = head :: tail ∧ head.isDigit = true := by
  cases written : Nat.toDigits 10 n with
  | nil => exact absurd written Nat.toDigits_ne_nil
  | cons head tail =>
    have member : head ∈ Nat.toDigits 10 n := by simp [written]
    exact ⟨head, tail, rfl, Nat.isDigit_of_mem_toDigits (by decide) (by decide) member⟩

theorem head_toDigits_ne_zero {n : Nat} (positive : 0 < n) :
    (Nat.toDigits 10 n).head? ≠ some '0' := by
  induction n using Nat.strongRecOn with
  | _ n ih =>
    by_cases small : n < 10
    · rw [Nat.toDigits_of_lt_base small]
      have digits : ∀ d < 10, 0 < d → [d.digitChar].head? ≠ some '0' := by decide
      exact digits n small positive
    · have shorter := ih (n / 10) (by omega) (by omega)
      rw [Nat.toDigits_of_base_le (by decide) (by omega)]
      obtain ⟨head, tail, written, _⟩ := head_toDigits (n / 10)
      rw [written] at shorter ⊢
      exact shorter

theorem readNatural_toDigits (n : Nat) : readNatural (Nat.toDigits 10 n) = some n := by
  by_cases zero : n = 0
  · subst zero
    rfl
  · have first := head_toDigits_ne_zero (Nat.pos_of_ne_zero zero)
    have digits : (Nat.toDigits 10 n).all Char.isDigit = true := by
      rw [List.all_eq_true]
      intro c member
      exact Nat.isDigit_of_mem_toDigits (by decide) (by decide) member
    unfold readNatural
    split
    · next written =>
      rw [written] at first
      exact absurd rfl first
    · rw [if_pos ⟨Nat.toDigits_ne_nil, first, digits⟩, Nat.ofDigitChars_ten_toDigits]

theorem readInteger_printInteger (i : Int) : readInteger (printInteger i) = some i := by
  cases i with
  | ofNat n =>
    obtain ⟨head, tail, written, digit⟩ := head_toDigits n
    have read := readNatural_toDigits n
    have positive : printInteger (.ofNat n) = Nat.toDigits 10 n := rfl
    rw [positive]
    unfold readInteger
    split
    · next negative =>
      rw [written] at negative
      cases negative
      cases digit
    · rw [read]
      rfl
  | negSucc n =>
    have read := readNatural_toDigits (n + 1)
    simp only [printInteger, readInteger, read, Option.map_some]
    rfl

/-- The characters a number is made of. -/
def numeric (c : Char) : Bool :=
  c.isDigit || c == '-' || c == '+' || c == '.' || c == 'e' || c == 'E'

def startsNumber (c : Char) : Bool := c.isDigit || c == '-'

/-- How numbers with a fraction or an exponent are written, and what is read of
them. What is written is read back, and is not taken for an integer. -/
structure FloatText (φ : Type) where
  print : φ → List Char
  parse : List Char → Option φ
  parse_print : ∀ x, parse (print x) = some x
  starts : ∀ x, ∃ head tail, print x = head :: tail ∧ startsNumber head = true
  numeric : ∀ x, ∀ c ∈ print x, numeric c = true
  not_integer : ∀ x, readInteger (print x) = none

theorem printInteger_starts (i : Int) :
    ∃ head tail, printInteger i = head :: tail ∧ startsNumber head = true := by
  cases i with
  | ofNat n =>
    obtain ⟨head, tail, written, digit⟩ := head_toDigits n
    exact ⟨head, tail, written, by simp [startsNumber, digit]⟩
  | negSucc n => exact ⟨'-', _, rfl, by decide⟩

theorem printInteger_numeric (i : Int) : ∀ c ∈ printInteger i, numeric c = true := by
  have digits (n : Nat) : ∀ c ∈ Nat.toDigits 10 n, numeric c = true := by
    intro c member
    have digit := Nat.isDigit_of_mem_toDigits (by decide) (by decide) member
    simp [numeric, digit]
  cases i with
  | ofNat n => exact digits n
  | negSucc n =>
    intro c member
    rcases List.mem_cons.mp member with sign | digit
    · subst sign
      decide
    · exact digits (n + 1) c digit

/-- What follows is not part of a number. -/
def Stops (rest : List Char) : Prop := ∀ c ∈ rest.head?, numeric c = false

theorem takeWhile_numeric {lexeme rest : List Char} (inside : ∀ c ∈ lexeme, numeric c = true)
    (stops : Stops rest) : (lexeme ++ rest).takeWhile numeric = lexeme := by
  rw [List.takeWhile_append_of_pos inside]
  cases rest with
  | nil => simp
  | cons c cs => simp [stops c rfl]

theorem dropWhile_numeric {lexeme rest : List Char} (inside : ∀ c ∈ lexeme, numeric c = true)
    (stops : Stops rest) : (lexeme ++ rest).dropWhile numeric = rest := by
  rw [List.dropWhile_append_of_pos inside]
  cases rest with
  | nil => rfl
  | cons c cs => simp [stops c rfl]

end Reliastra.Library.JsonText
