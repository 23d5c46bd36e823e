import Mathlib.Data.List.Sort
import Mathlib.Data.List.Nodup
import Mathlib.Data.String.Basic
import Reliastra.Library.Dictionaries
import Reliastra.Library.JsonTokens

/-!
# Canonical JSON text

A document is written with the members of every object in the order of their
keys and nothing between the tokens, plainly or with what is not ASCII escaped,
and read by a reader that skips white space and keeps the last of several
members with one key. Both spellings of a document are read back as the document
in canonical order, so a canonical text determines the document up to the order
of members.
-/

namespace Reliastra.Library.JsonText

inductive Value (φ : Type) where
  | null
  | bool (value : Bool)
  | int (value : Int)
  | float (value : φ)
  | str (value : String)
  | arr (elements : List (Value φ))
  | obj (members : List (String × Value φ))

variable {φ : Type}

/-! ## Writing -/

section Writing
variable (floats : FloatText φ) (ascii : Bool)

def printString (text : String) : List Char := '"' :: escape ascii text.toList

mutual

/-- The text of a document, members in the order they stand in. -/
def print : Value φ → List Char
  | .null => ['n', 'u', 'l', 'l']
  | .bool true => ['t', 'r', 'u', 'e']
  | .bool false => ['f', 'a', 'l', 's', 'e']
  | .int value => printInteger value
  | .float value => floats.print value
  | .str value => printString ascii value
  | .arr [] => ['[', ']']
  | .arr (first :: rest) => '[' :: (print first ++ printElements rest)
  | .obj [] => ['{', '}']
  | .obj (first :: rest) => '{' :: (printMember first ++ printMembers rest)

/-- The elements after one, and the bracket that closes the array. -/
def printElements : List (Value φ) → List Char
  | [] => [']']
  | first :: rest => ',' :: (print first ++ printElements rest)

def printMember : String × Value φ → List Char
  | (key, value) => printString ascii key ++ ':' :: print value

def printMembers : List (String × Value φ) → List Char
  | [] => ['}']
  | first :: rest => ',' :: (printMember first ++ printMembers rest)

end

end Writing

/-- Members in the order of their keys. -/
def sortMembers (members : List (String × Value φ)) : List (String × Value φ) :=
  members.insertionSort (fun a b => a.1 ≤ b.1)

mutual

/-- The document with the members of every object in the order of their keys. -/
def normal : Value φ → Value φ
  | .null => .null
  | .bool value => .bool value
  | .int value => .int value
  | .float value => .float value
  | .str value => .str value
  | .arr elements => .arr (normalElements elements)
  | .obj members => .obj (sortMembers (normalMembers members))

def normalElements : List (Value φ) → List (Value φ)
  | [] => []
  | first :: rest => normal first :: normalElements rest

def normalMembers : List (String × Value φ) → List (String × Value φ)
  | [] => []
  | (key, value) :: rest => (key, normal value) :: normalMembers rest

end

/-- The canonical text. -/
def dumps (floats : FloatText φ) (ascii : Bool) (document : Value φ) : List Char :=
  print floats ascii (normal document)

/-! ## Reading -/

def isSpace (c : Char) : Bool := c == ' ' || c == '\t' || c == '\n' || c == '\r'

def skip (text : List Char) : List Char := text.dropWhile isSpace

/-- A later member replaces an earlier one with its key. -/
def insertMember (members : List (String × Value φ)) (entry : String × Value φ) :
    List (String × Value φ) :=
  if entry.1 ∈ members.map (·.1) then
    members.map fun old => if old.1 = entry.1 then entry else old
  else members ++ [entry]

def dictOf (members : List (String × Value φ)) : List (String × Value φ) :=
  members.foldl insertMember []

section Reading
variable (floats : FloatText φ)

def scanNumber (text : List Char) : Option (Value φ × List Char) :=
  let lexeme := text.takeWhile numeric
  match readInteger lexeme with
  | some value => some (.int value, text.dropWhile numeric)
  | none =>
    match floats.parse lexeme with
    | some value => some (.float value, text.dropWhile numeric)
    | none => none

mutual

/-- The value a text begins with, in at most as many steps as given. -/
def scan : Nat → List Char → Option (Value φ × List Char)
  | 0, _ => none
  | n + 1, text =>
    match text with
    | 'n' :: 'u' :: 'l' :: 'l' :: rest => some (.null, rest)
    | 't' :: 'r' :: 'u' :: 'e' :: rest => some (.bool true, rest)
    | 'f' :: 'a' :: 'l' :: 's' :: 'e' :: rest => some (.bool false, rest)
    | '"' :: rest =>
      match scanString n rest with
      | some (value, rest) => some (.str (String.ofList value), rest)
      | none => none
    | '[' :: rest =>
      match skip rest with
      | ']' :: rest => some (.arr [], rest)
      | rest =>
        match scanElements n rest with
        | some (elements, rest) => some (.arr elements, rest)
        | none => none
    | '{' :: rest =>
      match skip rest with
      | '}' :: rest => some (.obj [], rest)
      | rest =>
        match scanMembers n rest with
        | some (members, rest) => some (.obj (dictOf members), rest)
        | none => none
    | text => if (text.head?.map startsNumber).getD false then scanNumber floats text else none

def scanElements : Nat → List Char → Option (List (Value φ) × List Char)
  | 0, _ => none
  | n + 1, text =>
    match scan n text with
    | none => none
    | some (first, rest) =>
      match skip rest with
      | ']' :: rest => some ([first], rest)
      | ',' :: rest =>
        match scanElements n (skip rest) with
        | some (elements, rest) => some (first :: elements, rest)
        | none => none
      | _ => none

def scanMembers : Nat → List Char → Option (List (String × Value φ) × List Char)
  | 0, _ => none
  | n + 1, text =>
    match text with
    | '"' :: rest =>
      match scanString n rest with
      | none => none
      | some (key, rest) =>
        match skip rest with
        | ':' :: rest =>
          match scan n (skip rest) with
          | none => none
          | some (value, rest) =>
            match skip rest with
            | '}' :: rest => some ([(String.ofList key, value)], rest)
            | ',' :: rest =>
              match scanMembers n (skip rest) with
              | some (members, rest) => some ((String.ofList key, value) :: members, rest)
              | none => none
            | _ => none
        | _ => none
    | _ => none

end

/-- The document that a text is, between white space. -/
def loads (text : List Char) : Option (Value φ) :=
  match scan floats (text.length + 1) (skip text) with
  | some (document, rest) => if skip rest = [] then some document else none
  | none => none

end Reading

/-! ## Documents with one member a key -/

mutual

/-- No object has two members with one key. -/
def Value.Distinct : Value φ → Prop
  | .arr elements => ElementsDistinct elements
  | .obj members => (members.map (·.1)).Nodup ∧ MembersDistinct members
  | .null => True
  | .bool _ => True
  | .int _ => True
  | .float _ => True
  | .str _ => True

def ElementsDistinct : List (Value φ) → Prop
  | [] => True
  | first :: rest => first.Distinct ∧ ElementsDistinct rest

def MembersDistinct : List (String × Value φ) → Prop
  | [] => True
  | first :: rest => first.2.Distinct ∧ MembersDistinct rest

end

theorem dictOf_distinct {members : List (String × Value φ)}
    (distinct : (members.map (·.1)).Nodup) : dictOf members = members := by
  have assignments : dictOf members = members.foldl Dictionaries.assign [] := rfl
  rw [assignments, Dictionaries.foldl_assign_new (by simpa using distinct), List.nil_append]

/-! ## What is written is read back -/

section RoundTrip
variable {floats : FloatText φ} {ascii : Bool}

theorem skip_cons {c : Char} (token : isSpace c = false) (rest : List Char) :
    skip (c :: rest) = c :: rest := by
  simp [skip, token]

theorem skip_quote (rest : List Char) : skip ('"' :: rest) = '"' :: rest :=
  skip_cons (by decide) rest

theorem startsNumber_cases {c : Char} (starts : startsNumber c = true) :
    isSpace c = false ∧ c ≠ ']' ∧ c ≠ '}' ∧ c ≠ 'n' ∧ c ≠ 't' ∧ c ≠ 'f' ∧ c ≠ '"' ∧ c ≠ '[' ∧
      c ≠ '{' := by
  refine ⟨?_, ?_, ?_, ?_, ?_, ?_, ?_, ?_, ?_⟩
  · by_contra space
    simp only [isSpace, Bool.not_eq_false, Bool.or_eq_true, beq_iff_eq] at space
    rcases space with ((same | same) | same) | same <;> subst same <;> cases starts
  all_goals
    intro same
    subst same
    cases starts

/-- A value begins with a character that is neither space nor a closing bracket. -/
theorem print_head (floats : FloatText φ) (ascii : Bool) (v : Value φ) :
    ∃ head tail, print floats ascii v = head :: tail ∧ isSpace head = false ∧ head ≠ ']' ∧
      head ≠ '}' := by
  have token {head : Char} (tail : List Char)
      (fine : isSpace head = false ∧ head ≠ ']' ∧ head ≠ '}') :
      ∃ head' tail', head :: tail = head' :: tail' ∧ isSpace head' = false ∧ head' ≠ ']' ∧
        head' ≠ '}' := ⟨head, tail, rfl, fine⟩
  match v with
  | .null => exact token _ (by decide)
  | .bool true => exact token _ (by decide)
  | .bool false => exact token _ (by decide)
  | .int value =>
    obtain ⟨head, tail, written, starts⟩ := printInteger_starts value
    have cases := startsNumber_cases starts
    exact ⟨head, tail, by simp [print, written], cases.1, cases.2.1, cases.2.2.1⟩
  | .float value =>
    obtain ⟨head, tail, written, starts⟩ := floats.starts value
    have cases := startsNumber_cases starts
    exact ⟨head, tail, by simp [print, written], cases.1, cases.2.1, cases.2.2.1⟩
  | .str value => exact token _ (by decide)
  | .arr [] => exact token _ (by decide)
  | .arr (first :: rest) => exact token _ (by decide)
  | .obj [] => exact token _ (by decide)
  | .obj (first :: rest) => exact token _ (by decide)

theorem scan_number {lexeme rest : List Char} {v : Value φ} (n : Nat)
    (starts : ∃ head tail, lexeme = head :: tail ∧ startsNumber head = true)
    (inside : ∀ c ∈ lexeme, numeric c = true) (stops : Stops rest)
    (read : (match readInteger lexeme with
      | some value => some (.int value)
      | none => (floats.parse lexeme).map .float) = some v) :
    scan floats (n + 1) (lexeme ++ rest) = some (v, rest) := by
  have number : scanNumber floats (lexeme ++ rest) = some (v, rest) := by
    unfold scanNumber
    simp only [takeWhile_numeric inside stops, dropWhile_numeric inside stops]
    cases integer : readInteger lexeme with
    | some value =>
      simp only [integer] at read
      cases read
      rfl
    | none =>
      simp only [integer] at read
      cases float : floats.parse lexeme with
      | none =>
        rw [float] at read
        cases read
      | some value =>
        rw [float] at read
        cases read
        rfl
  obtain ⟨head, tail, rfl, first⟩ := starts
  obtain ⟨_, _, _, notN, notT, notF, notQuote, notBracket, notBrace⟩ := startsNumber_cases first
  rw [List.cons_append] at number ⊢
  unfold scan
  split
  · next same => exact absurd (List.cons.inj same).1 notN
  · next same => exact absurd (List.cons.inj same).1 notT
  · next same => exact absurd (List.cons.inj same).1 notF
  · next same => exact absurd (List.cons.inj same).1 notQuote
  · next same => exact absurd (List.cons.inj same).1 notBracket
  · next same => exact absurd (List.cons.inj same).1 notBrace
  · simp [first, number]

theorem scanString_printed (ascii : Bool) (text : String) (rest : List Char) {n : Nat}
    (enough : (escape ascii text.toList).length ≤ n) :
    scanString n (escape ascii text.toList ++ rest) = some (text.toList, rest) := by
  have shorter := length_le_escape ascii text.toList
  exact scanString_escape ascii text.toList rest n (by omega)

theorem stops_elements (elements : List (Value φ)) (rest : List Char) :
    Stops (printElements floats ascii elements ++ rest) := by
  intro c first
  cases elements <;>
  · simp only [printElements, List.cons_append, List.head?_cons, Option.mem_def,
      Option.some.injEq] at first
    subst first
    decide

theorem stops_members (members : List (String × Value φ)) (rest : List Char) :
    Stops (printMembers floats ascii members ++ rest) := by
  intro c first
  cases members <;>
  · simp only [printMembers, List.cons_append, List.head?_cons, Option.mem_def,
      Option.some.injEq] at first
    subst first
    decide

/-! Each reader with one more step reads what the readers with fewer steps leave to it. -/

/-- In `n` steps every value whose text has at most `n` characters is read back. -/
def ValuesRead (floats : FloatText φ) (ascii : Bool) (n : Nat) : Prop :=
  ∀ (v : Value φ) (rest : List Char), v.Distinct → (print floats ascii v).length ≤ n →
    Stops rest → scan floats n (print floats ascii v ++ rest) = some (v, rest)

def ElementsRead (floats : FloatText φ) (ascii : Bool) (n : Nat) : Prop :=
  ∀ (first : Value φ) (others : List (Value φ)) (rest : List Char),
    ElementsDistinct (first :: others) →
    (print floats ascii first ++ printElements floats ascii others).length ≤ n →
    scanElements floats n (print floats ascii first ++ printElements floats ascii others ++ rest) =
      some (first :: others, rest)

def MembersRead (floats : FloatText φ) (ascii : Bool) (n : Nat) : Prop :=
  ∀ (first : String × Value φ) (others : List (String × Value φ)) (rest : List Char),
    MembersDistinct (first :: others) →
    (printMember floats ascii first ++ printMembers floats ascii others).length ≤ n →
    scanMembers floats n
        (printMember floats ascii first ++ printMembers floats ascii others ++ rest) =
      some (first :: others, rest)

theorem scan_succ {n : Nat} (elementsRead : ElementsRead floats ascii n)
    (membersRead : MembersRead floats ascii n) : ValuesRead floats ascii (n + 1) := by
  intro v rest distinct enough stops
  match v with
  | .null => simp [print, scan]
  | .bool true => simp [print, scan]
  | .bool false => simp [print, scan]
  | .int value =>
    simp only [print]
    apply scan_number n (printInteger_starts value) (printInteger_numeric value) stops
    rw [readInteger_printInteger]
  | .float value =>
    simp only [print]
    apply scan_number n (floats.starts value) (floats.numeric value) stops
    rw [floats.not_integer, floats.parse_print]
    rfl
  | .str value =>
    simp only [print, printString, List.length_cons] at enough
    simp only [print, printString, List.cons_append, scan]
    rw [scanString_printed ascii value rest (by omega)]
    simp
  | .arr [] => simp [print, scan, skip, isSpace]
  | .arr (first :: others) =>
    obtain ⟨head, tail, written, space, notBracket, _⟩ := print_head floats ascii first
    rw [print, List.length_cons] at enough
    have elements := elementsRead first others rest distinct (by omega)
    simp only [print, List.cons_append, scan]
    rw [written, List.cons_append, List.cons_append] at elements ⊢
    rw [skip_cons space]
    split
    · next same => exact absurd (List.cons.inj same).1 notBracket
    · rw [elements]
  | .obj [] => simp [print, scan, skip, isSpace]
  | .obj ((key, value) :: others) =>
    rw [print, List.length_cons] at enough
    have members := membersRead (key, value) others rest distinct.2 (by omega)
    simp only [print, List.cons_append, scan]
    rw [printMember, printString, List.cons_append, List.cons_append, List.cons_append] at members ⊢
    rw [skip_quote]
    split
    · next same => exact absurd (List.cons.inj same).1 (by decide)
    · rw [members]
      simp only [dictOf_distinct distinct.1]

theorem scanElements_succ {n : Nat} (valuesRead : ValuesRead floats ascii n)
    (elementsRead : ElementsRead floats ascii n) : ElementsRead floats ascii (n + 1) := by
  intro first others rest distinct enough
  rw [List.length_append] at enough
  have closing : 0 < (printElements floats ascii others).length := by
    cases others <;> simp [printElements]
  have value := valuesRead first (printElements floats ascii others ++ rest) distinct.1
    (by omega) (stops_elements others rest)
  rw [List.append_assoc]
  cases others with
  | nil =>
    simp only [scanElements, value]
    simp only [printElements, List.cons_append, List.nil_append]
    rw [skip_cons (by decide)]
    rfl
  | cons second later =>
    obtain ⟨head, tail, written, space, _⟩ := print_head floats ascii second
    rw [printElements, List.length_cons] at enough
    have elements := elementsRead second later rest distinct.2 (by omega)
    simp only [scanElements, value]
    simp only [printElements, List.cons_append]
    rw [skip_cons (by decide)]
    rw [written, List.cons_append, List.cons_append] at elements ⊢
    simp only [skip_cons space, elements]

theorem scanMembers_succ {n : Nat} (valuesRead : ValuesRead floats ascii n)
    (membersRead : MembersRead floats ascii n) : MembersRead floats ascii (n + 1) := by
  intro ⟨key, v⟩ others rest distinct enough
  obtain ⟨head, tail, written, space, _⟩ := print_head floats ascii v
  simp only [printMember, printString, List.length_append, List.length_cons] at enough
  have name := scanString_printed ascii key
    (':' :: (print floats ascii v ++ (printMembers floats ascii others ++ rest))) (n := n)
    (by omega)
  have value := valuesRead v (printMembers floats ascii others ++ rest) distinct.1
    (by omega) (stops_members others rest)
  simp only [printMember, printString, List.cons_append, List.append_assoc, scanMembers, name]
  rw [skip_cons (by decide)]
  rw [written, List.cons_append] at value ⊢
  simp only [skip_cons space, value]
  cases others with
  | nil =>
    simp only [printMembers, List.cons_append, List.nil_append]
    rw [skip_cons (by decide)]
    simp
  | cons second later =>
    rw [printMembers, List.length_cons] at enough
    have members := membersRead second later rest distinct.2 (by omega)
    obtain ⟨key', v'⟩ := second
    simp only [printMembers, List.cons_append]
    rw [skip_cons (by decide)]
    rw [printMember, printString, List.cons_append, List.cons_append, List.cons_append]
      at members ⊢
    simp only [skip_quote, members, String.ofList_toList]

theorem readers_read (floats : FloatText φ) (ascii : Bool) (n : Nat) :
    ValuesRead floats ascii n ∧ ElementsRead floats ascii n ∧ MembersRead floats ascii n := by
  induction n with
  | zero =>
    -- no text is empty
    refine ⟨?_, ?_, ?_⟩
    · intro v rest _ enough
      obtain ⟨head, tail, written, _⟩ := print_head floats ascii v
      simp [written] at enough
    · intro first others rest _ enough
      obtain ⟨head, tail, written, _⟩ := print_head floats ascii first
      simp [written] at enough
    · intro ⟨key, v⟩ others rest _ enough
      simp [printMember, printString] at enough
  | succ n ih =>
    obtain ⟨values, elements, members⟩ := ih
    exact ⟨scan_succ elements members, scanElements_succ values elements,
      scanMembers_succ values members⟩

/-- What is written of a document is read back. -/
theorem loads_print (floats : FloatText φ) (ascii : Bool) {v : Value φ} (distinct : v.Distinct) :
    loads floats (print floats ascii v) = some v := by
  obtain ⟨head, tail, written, space, _⟩ := print_head floats ascii v
  have read := (readers_read floats ascii ((print floats ascii v).length + 1)).1 v [] distinct
    (by omega) (by simp [Stops])
  unfold loads
  rw [List.append_nil] at read
  rw [written] at read ⊢
  rw [skip_cons space, read]
  rfl

end RoundTrip

/-! ## The canonical order -/

theorem sortMembers_perm (members : List (String × Value φ)) :
    (sortMembers members).Perm members := List.perm_insertionSort _ _

theorem sortMembers_sorted (members : List (String × Value φ)) :
    (sortMembers members).Pairwise (fun a b => a.1 ≤ b.1) := by
  have : Std.Total (fun a b : String × Value φ => a.1 ≤ b.1) := ⟨fun a b => le_total a.1 b.1⟩
  have : IsTrans (String × Value φ) (fun a b => a.1 ≤ b.1) := ⟨fun _ _ _ => le_trans⟩
  exact List.pairwise_insertionSort _ _

/-- With one member a key, the canonical order does not depend on the order before. -/
theorem sortMembers_congr {members others : List (String × Value φ)}
    (distinct : (members.map (·.1)).Nodup) (perm : members.Perm others) :
    sortMembers members = sortMembers others := by
  have rearranged : (sortMembers members).Perm (sortMembers others) :=
    (sortMembers_perm members).trans (perm.trans (sortMembers_perm others).symm)
  apply rearranged.eq_of_pairwise _ (sortMembers_sorted members) (sortMembers_sorted others)
  intro a b left right before after
  have sameKey : a.1 = b.1 := le_antisymm before after
  have here : a ∈ members := (sortMembers_perm members).mem_iff.mp left
  have there : b ∈ members := perm.symm.mem_iff.mp ((sortMembers_perm others).mem_iff.mp right)
  exact List.inj_on_of_nodup_map distinct here there sameKey

theorem normalMembers_eq (members : List (String × Value φ)) :
    normalMembers members = members.map fun m => (m.1, normal m.2) := by
  induction members with
  | nil => rfl
  | cons first rest ih =>
    obtain ⟨key, value⟩ := first
    rw [normalMembers, ih, List.map_cons]

theorem normalElements_eq (elements : List (Value φ)) :
    normalElements elements = elements.map normal := by
  induction elements with
  | nil => rfl
  | cons first rest ih => rw [normalElements, ih, List.map_cons]

theorem normalMembers_keys (members : List (String × Value φ)) :
    (normalMembers members).map (·.1) = members.map (·.1) := by
  rw [normalMembers_eq, List.map_map]
  rfl

theorem normalMembers_perm {members others : List (String × Value φ)}
    (perm : members.Perm others) : (normalMembers members).Perm (normalMembers others) := by
  rw [normalMembers_eq, normalMembers_eq]
  exact perm.map _

theorem elementsDistinct_iff (elements : List (Value φ)) :
    ElementsDistinct elements ↔ ∀ v ∈ elements, v.Distinct := by
  induction elements with
  | nil => simp [ElementsDistinct]
  | cons first rest ih => simp [ElementsDistinct, ih]

theorem membersDistinct_iff (members : List (String × Value φ)) :
    MembersDistinct members ↔ ∀ m ∈ members, m.2.Distinct := by
  induction members with
  | nil => simp [MembersDistinct]
  | cons first rest ih => simp [MembersDistinct, ih]

mutual

theorem normal_distinct (v : Value φ) (distinct : v.Distinct) : (normal v).Distinct := by
  match v with
  | .null => trivial
  | .bool _ => trivial
  | .int _ => trivial
  | .float _ => trivial
  | .str _ => trivial
  | .arr elements => exact normalElements_distinct elements distinct
  | .obj members =>
    have perm := sortMembers_perm (normalMembers members)
    have values := normalMembers_distinct members distinct.2
    constructor
    · rw [(perm.map _).nodup_iff, normalMembers_keys]
      exact distinct.1
    · rw [membersDistinct_iff] at values ⊢
      intro m member
      exact values m (perm.mem_iff.mp member)

theorem normalElements_distinct (elements : List (Value φ)) (distinct : ElementsDistinct elements) :
    ElementsDistinct (normalElements elements) := by
  match elements with
  | [] => trivial
  | first :: rest =>
    exact ⟨normal_distinct first distinct.1, normalElements_distinct rest distinct.2⟩

theorem normalMembers_distinct (members : List (String × Value φ))
    (distinct : MembersDistinct members) : MembersDistinct (normalMembers members) := by
  match members with
  | [] => trivial
  | (key, value) :: rest =>
    exact ⟨normal_distinct value distinct.1, normalMembers_distinct rest distinct.2⟩

end

/-- The canonical text is read back as the document in canonical order. -/
theorem loads_dumps (floats : FloatText φ) (ascii : Bool) {v : Value φ} (distinct : v.Distinct) :
    loads floats (dumps floats ascii v) = some (normal v) :=
  loads_print floats ascii (normal_distinct v distinct)

mutual

theorem normal_normal (v : Value φ) (distinct : v.Distinct) : normal (normal v) = normal v := by
  match v with
  | .null => rfl
  | .bool _ => rfl
  | .int _ => rfl
  | .float _ => rfl
  | .str _ => rfl
  | .arr elements =>
    simp only [normal]
    rw [normalElements_normal elements distinct]
  | .obj members =>
    have again := normalMembers_normal members distinct.2
    have perm := (sortMembers_perm (normalMembers members)).map
      fun m : String × Value φ => (m.1, normal m.2)
    rw [← normalMembers_eq, ← normalMembers_eq, again] at perm
    simp only [normal]
    rw [sortMembers_congr _ perm]
    rw [(perm.map _).nodup_iff, normalMembers_keys]
    exact distinct.1

theorem normalElements_normal (elements : List (Value φ)) (distinct : ElementsDistinct elements) :
    normalElements (normalElements elements) = normalElements elements := by
  match elements with
  | [] => rfl
  | first :: rest =>
    simp only [normalElements]
    rw [normal_normal first distinct.1, normalElements_normal rest distinct.2]

theorem normalMembers_normal (members : List (String × Value φ))
    (distinct : MembersDistinct members) :
    normalMembers (normalMembers members) = normalMembers members := by
  match members with
  | [] => rfl
  | (key, value) :: rest =>
    simp only [normalMembers]
    rw [normal_normal value distinct.1, normalMembers_normal rest distinct.2]

end

/-! ## One document -/

/-- Two documents are one JSON value: they differ in the order of members. -/
inductive Same : Value φ → Value φ → Prop
  | refl (v : Value φ) : Same v v
  | symm {v w : Value φ} : Same v w → Same w v
  | trans {u v w : Value φ} : Same u v → Same v w → Same u w
  | element (before after : List (Value φ)) {v w : Value φ} : Same v w →
      Same (.arr (before ++ v :: after)) (.arr (before ++ w :: after))
  | member (before after : List (String × Value φ)) (key : String) {v w : Value φ} : Same v w →
      Same (.obj (before ++ (key, v) :: after)) (.obj (before ++ (key, w) :: after))
  | reorder {members others : List (String × Value φ)} : members.Perm others →
      Same (.obj members) (.obj others)

mutual

/-- The canonical order is one of the orders. -/
theorem same_normal (v : Value φ) : Same v (normal v) := by
  match v with
  | .null => exact .refl _
  | .bool _ => exact .refl _
  | .int _ => exact .refl _
  | .float _ => exact .refl _
  | .str _ => exact .refl _
  | .arr elements => exact same_normalElements [] elements
  | .obj members =>
    exact (same_normalMembers [] members).trans (.reorder (sortMembers_perm _).symm)

theorem same_normalElements (before elements : List (Value φ)) :
    Same (.arr (before ++ elements)) (.arr (before ++ normalElements elements)) := by
  match elements with
  | [] => exact .refl _
  | first :: rest =>
    have later := same_normalElements (before ++ [normal first]) rest
    rw [List.append_assoc, List.append_assoc] at later
    exact (Same.element before rest (same_normal first)).trans later

theorem same_normalMembers (before members : List (String × Value φ)) :
    Same (.obj (before ++ members)) (.obj (before ++ normalMembers members)) := by
  match members with
  | [] => exact .refl _
  | (key, value) :: rest =>
    have later := same_normalMembers (before ++ [(key, normal value)]) rest
    rw [List.append_assoc, List.append_assoc] at later
    exact (Same.member before rest key (same_normal value)).trans later

end

theorem normalMembers_replace {before after : List (String × Value φ)} {key : String} {v w : Value φ}
    (same : normal v = normal w) :
    normalMembers (before ++ (key, v) :: after) = normalMembers (before ++ (key, w) :: after) := by
  rw [normalMembers_eq, normalMembers_eq, List.map_append, List.map_append, List.map_cons,
    List.map_cons, same]

/-- The canonical order is one and the same for one JSON value. -/
theorem Same.normal_eq {v w : Value φ} (same : Same v w) :
    (v.Distinct ↔ w.Distinct) ∧ (v.Distinct → normal v = normal w) := by
  induction same with
  | refl v => exact ⟨Iff.rfl, fun _ => rfl⟩
  | symm _ ih => exact ⟨ih.1.symm, fun distinct => (ih.2 (ih.1.mpr distinct)).symm⟩
  | trans _ _ first second =>
    exact ⟨first.1.trans second.1,
      fun distinct => (first.2 distinct).trans (second.2 (first.1.mp distinct))⟩
  | element before after _ ih =>
    constructor
    · simp only [Value.Distinct, elementsDistinct_iff, List.forall_mem_append,
        List.forall_mem_cons, ih.1]
    · intro distinct
      have inner := (elementsDistinct_iff _).mp distinct _
        (List.mem_append_right _ List.mem_cons_self)
      simp only [normal, normalElements_eq, List.map_append, List.map_cons, ih.2 inner]
  | member before after key _ ih =>
    constructor
    · simp only [Value.Distinct, membersDistinct_iff, List.forall_mem_append,
        List.forall_mem_cons, List.map_append, List.map_cons, ih.1]
    · intro distinct
      have inner := (membersDistinct_iff _).mp distinct.2 _
        (List.mem_append_right _ List.mem_cons_self)
      simp only [normal, normalMembers_replace (ih.2 inner)]
  | reorder perm =>
    constructor
    · simp only [Value.Distinct, membersDistinct_iff, (perm.map _).nodup_iff, perm.mem_iff]
    · intro distinct
      simp only [normal]
      rw [sortMembers_congr _ (normalMembers_perm perm)]
      rw [normalMembers_keys]
      exact distinct.1

theorem normal_of_dumps {floats : FloatText φ} {ascii : Bool} {v w : Value φ} (left : v.Distinct)
    (right : w.Distinct) (equal : dumps floats ascii v = dumps floats ascii w) :
    normal v = normal w := by
  have read := loads_dumps floats ascii left
  rw [equal, loads_dumps floats ascii right] at read
  exact (Option.some.inj read).symm

/-- Two documents have one canonical text if and only if they are one JSON value. -/
theorem dumps_eq_iff {floats : FloatText φ} {ascii : Bool} {v w : Value φ} (left : v.Distinct)
    (right : w.Distinct) : dumps floats ascii v = dumps floats ascii w ↔ Same v w := by
  constructor
  · intro equal
    have back := (same_normal w).symm
    rw [← normal_of_dumps left right equal] at back
    exact (same_normal v).trans back
  · intro same
    unfold dumps
    rw [same.normal_eq.2 left]

/-- Objects with one canonical order agree on every key. -/
theorem normal_member_eq {members others : List (String × Value φ)} {key : String} {v w : Value φ}
    (equal : normal (.obj members) = normal (.obj others)) (keys : (members.map (·.1)).Nodup)
    (left : (key, v) ∈ members) (right : (key, w) ∈ others) : normal v = normal w := by
  have sorted : sortMembers (normalMembers members) = sortMembers (normalMembers others) :=
    Value.obj.inj equal
  have here : (key, normal v) ∈ normalMembers members := by
    rw [normalMembers_eq]
    exact List.mem_map_of_mem left
  have there : (key, normal w) ∈ normalMembers members := by
    rw [← (sortMembers_perm _).mem_iff, sorted, (sortMembers_perm _).mem_iff, normalMembers_eq]
    exact List.mem_map_of_mem right
  have unique : ((normalMembers members).map (·.1)).Nodup := by
    rw [normalMembers_keys]
    exact keys
  exact congrArg Prod.snd (List.inj_on_of_nodup_map unique here there rfl)

/-! ## Members taken out -/

def withoutKeys (keys : List String) : Value φ → Value φ
  | .obj members => .obj (members.filter fun m => m.1 ∉ keys)
  | v => v

/-- Taking the members with new keys out of the canonical order of a document to
which they were added leaves what has the canonical order of the document. -/
theorem normal_withoutKeys {members added : List (String × Value φ)}
    (distinct : (Value.obj members).Distinct)
    (new : ∀ m ∈ members, m.1 ∉ added.map (·.1)) :
    normal (withoutKeys (added.map (·.1)) (normal (.obj (members ++ added)))) =
      normal (.obj members) := by
  have kept : (normalMembers members).filter (fun m => m.1 ∉ added.map (·.1)) =
      normalMembers members := by
    rw [List.filter_eq_self]
    intro m member
    have key : m.1 ∈ members.map (·.1) := by
      rw [← normalMembers_keys]
      exact List.mem_map_of_mem member
    obtain ⟨old, here, same⟩ := List.mem_map.mp key
    have fresh := new old here
    rw [same] at fresh
    simpa using fresh
  have removed : (normalMembers added).filter (fun m => m.1 ∉ added.map (·.1)) = [] := by
    rw [List.filter_eq_nil_iff]
    intro m member
    have key : m.1 ∈ added.map (·.1) := by
      rw [← normalMembers_keys]
      exact List.mem_map_of_mem member
    simpa using key
  have split : (normalMembers (members ++ added)).filter (fun m => m.1 ∉ added.map (·.1)) =
      normalMembers members := by
    rw [normalMembers_eq, List.map_append, ← normalMembers_eq, ← normalMembers_eq,
      List.filter_append, kept, removed, List.append_nil]
  have perm := (sortMembers_perm (normalMembers (members ++ added))).filter
    fun m => m.1 ∉ added.map (·.1)
  rw [split] at perm
  have normalized := normalMembers_perm perm
  rw [normalMembers_normal members distinct.2] at normalized
  simp only [normal, withoutKeys]
  rw [sortMembers_congr _ normalized]
  rw [(normalized.map _).nodup_iff, normalMembers_keys]
  exact distinct.1

/-! ## What is read has one member a key -/

theorem dictOf_obj_distinct {members : List (String × Value φ)} (values : MembersDistinct members) :
    (Value.obj (dictOf members)).Distinct := by
  have assignments : dictOf members = members.foldl Dictionaries.assign [] := rfl
  rw [membersDistinct_iff] at values
  constructor
  · rw [assignments]
    exact Dictionaries.foldl_assign_distinct (by simp) members
  · rw [membersDistinct_iff, assignments]
    exact Dictionaries.foldl_assign_all (by simp) members values

/-- What the readers return in at most `n` steps. -/
structure ReadsDistinct (floats : FloatText φ) (n : Nat) : Prop where
  value : ∀ {text v rest}, scan floats n text = some (v, rest) → v.Distinct
  elements : ∀ {text elements rest}, scanElements floats n text = some (elements, rest) →
    ElementsDistinct elements
  members : ∀ {text members rest}, scanMembers floats n text = some (members, rest) →
    MembersDistinct members

theorem scanNumber_distinct {floats : FloatText φ} {text : List Char} {v : Value φ}
    {rest : List Char} (read : scanNumber floats text = some (v, rest)) : v.Distinct := by
  unfold scanNumber at read
  grind [Value.Distinct]

theorem scan_distinct_succ {floats : FloatText φ} {n : Nat} (ih : ReadsDistinct floats n)
    {text rest : List Char} {v : Value φ} (read : scan floats (n + 1) text = some (v, rest)) :
    v.Distinct := by
  unfold scan at read
  split at read
  · cases read; trivial
  · cases read; trivial
  · cases read; trivial
  · split at read
    · cases read; trivial
    · cases read
  · split at read
    · cases read; trivial
    · split at read
      · next elements _ scanned =>
        cases read
        exact ih.elements scanned
      · cases read
  · split at read
    · cases read
      exact ⟨List.nodup_nil, trivial⟩
    · split at read
      · next members _ scanned =>
        cases read
        exact dictOf_obj_distinct (ih.members scanned)
      · cases read
  · split at read
    · exact scanNumber_distinct read
    · cases read

theorem scanElements_distinct_succ {floats : FloatText φ} {n : Nat} (ih : ReadsDistinct floats n)
    {text rest : List Char} {elements : List (Value φ)}
    (read : scanElements floats (n + 1) text = some (elements, rest)) :
    ElementsDistinct elements := by
  unfold scanElements at read
  split at read
  · cases read
  · next first _ scanned =>
    split at read
    · cases read
      exact ⟨ih.value scanned, trivial⟩
    · split at read
      · next later =>
        cases read
        exact ⟨ih.value scanned, ih.elements later⟩
      · cases read
    · cases read

theorem scanMembers_distinct_succ {floats : FloatText φ} {n : Nat} (ih : ReadsDistinct floats n)
    {text rest : List Char} {members : List (String × Value φ)}
    (read : scanMembers floats (n + 1) text = some (members, rest)) :
    MembersDistinct members := by
  unfold scanMembers at read
  split at read
  · split at read
    · cases read
    · split at read
      · split at read
        · cases read
        · next scanned =>
          split at read
          · cases read
            exact ⟨ih.value scanned, trivial⟩
          · split at read
            · next later =>
              cases read
              exact ⟨ih.value scanned, ih.members later⟩
            · cases read
          · cases read
      · cases read
  · cases read

theorem readsDistinct (floats : FloatText φ) (n : Nat) : ReadsDistinct floats n := by
  induction n with
  | zero =>
    refine ⟨?_, ?_, ?_⟩
    · intro text v rest read
      simp [scan] at read
    · intro text elements rest read
      simp [scanElements] at read
    · intro text members rest read
      simp [scanMembers] at read
  | succ n ih =>
    exact ⟨scan_distinct_succ ih, scanElements_distinct_succ ih, scanMembers_distinct_succ ih⟩

theorem loads_distinct {floats : FloatText φ} {text : List Char} {document : Value φ}
    (read : loads floats text = some document) : document.Distinct := by
  unfold loads at read
  split at read
  · next scanned =>
    split at read
    · cases read
      exact (readsDistinct floats _).value scanned
    · cases read
  · cases read

theorem withoutKeys_distinct (keys : List String) {document : Value φ}
    (distinct : document.Distinct) : (withoutKeys keys document).Distinct := by
  cases document with
  | obj members =>
    obtain ⟨unique, values⟩ := distinct
    rw [membersDistinct_iff] at values
    constructor
    · exact unique.sublist (List.filter_sublist.map _)
    · rw [membersDistinct_iff]
      intro m member
      exact values m (List.mem_of_mem_filter member)
  | _ => exact distinct

end Reliastra.Library.JsonText
