import Mathlib.Data.Bool.AllAny
import Mathlib.Computability.Language
import Mathlib.Logic.Relation
import Reliastra.Source.Vendors.Submissions

/-!
# Vendor names have one spelling

What `_sanitize_vendor_name` makes of a text, independent of its passes: blanks are
hyphens, other characters than letters, digits and hyphens are nothing, runs of hyphens
are one, and none stands at an end. Nothing is assumed of `str.lower()` but that it works
character by character, up to the two forms of the small sigma, and moves no blank.
-/

namespace Reliastra.Guarantees.VendorNames

open Reliastra.Library Source Source.Api Source.Vendors

/-! ## The language of the names -/

def IsAlnum (c : Char) : Prop := ('a' ≤ c ∧ c ≤ 'z') ∨ ('0' ≤ c ∧ c ≤ '9')

/-- `[a-z0-9]+`. -/
def alnums : Language Char := {w | w ≠ [] ∧ ∀ c ∈ w, IsAlnum c}

/-- `[a-z0-9]+(-[a-z0-9]+)*`. -/
def words : Language Char := alnums * KStar.kstar ({['-']} * alnums)

/-- `([a-z0-9]+(-[a-z0-9]+)*)?`. -/
def slugs : Language Char := 1 + words

theorem singleton_mem_words {c : Char} (alnum : IsAlnum c) : [c] ∈ words :=
  Language.mem_mul.mpr ⟨[c], ⟨by simp, by simpa using alnum⟩, [],
    Language.mem_kstar.mpr ⟨[], rfl, by simp⟩, rfl⟩

theorem cons_mem_words {c : Char} {w : List Char} (alnum : IsAlnum c) (member : w ∈ words) :
    c :: w ∈ words := by
  obtain ⟨first, ⟨_, letters⟩, rest, starred, rfl⟩ := Language.mem_mul.mp member
  refine Language.mem_mul.mpr ⟨c :: first, ⟨by simp, ?_⟩, rest, starred, rfl⟩
  intro d place
  rcases List.mem_cons.mp place with rfl | old
  · exact alnum
  · exact letters d old

theorem cons_hyphen_mem_words {c : Char} {w : List Char} (alnum : IsAlnum c) (member : w ∈ words) :
    c :: '-' :: w ∈ words := by
  obtain ⟨first, word, rest, starred, rfl⟩ := Language.mem_mul.mp member
  obtain ⟨parts, rfl, all⟩ := Language.mem_kstar.mp starred
  refine Language.mem_mul.mpr ⟨[c], ⟨by simp, by simpa using alnum⟩, _,
    Language.mem_kstar.mpr ⟨('-' :: first) :: parts, rfl, ?_⟩, rfl⟩
  intro part place
  rcases List.mem_cons.mp place with rfl | old
  · exact Language.mem_mul.mpr ⟨['-'], rfl, first, word, rfl⟩
  · exact all part old

theorem exists_cons_of_mem_words {w : List Char} (member : w ∈ words) :
    ∃ c rest, w = c :: rest ∧ IsAlnum c := by
  obtain ⟨first, ⟨some, letters⟩, rest, _, rfl⟩ := Language.mem_mul.mp member
  cases first with
  | nil => exact absurd rfl some
  | cons c first => exact ⟨c, first ++ rest, rfl, letters c List.mem_cons_self⟩

/-! ## Hyphens from right to left -/

def hyphen (c : Char) : Bool := c = '-'

/-- One more character in front of a text without a hyphen at its end. -/
def absorb (c : Char) (text : List Char) : List Char :=
  if hyphen c ∧ (text = [] ∨ text.head? = some '-') then text else c :: text

/-- Runs of hyphens as one, and none at an end. -/
def canon (text : List Char) : List Char := (text.foldr absorb []).dropWhile hyphen

theorem absorb_hyphen (text : List Char) : absorb '-' (absorb '-' text) = absorb '-' text := by
  unfold absorb hyphen
  grind

theorem dropWhile_absorb (text : List Char) :
    (absorb '-' text).dropWhile hyphen = text.dropWhile hyphen := by
  unfold absorb
  split
  · rfl
  · exact List.dropWhile_cons_of_pos rfl

/-- Hyphens in front of a text do not count. -/
theorem canon_hyphens {front : List Char} (hyphens : ∀ c ∈ front, c = '-') (text : List Char) :
    canon (front ++ text) = canon text := by
  induction front with
  | nil => rfl
  | cons c front ih =>
    obtain ⟨rfl, rest⟩ := List.forall_mem_cons.mp hyphens
    rw [← ih rest]
    exact dropWhile_absorb _

/-- Hyphens behind a text do not count. -/
theorem foldr_absorb_hyphens {back : List Char} (hyphens : ∀ c ∈ back, c = '-') :
    back.foldr absorb [] = [] := by
  induction back with
  | nil => rfl
  | cons c back ih =>
    obtain ⟨rfl, rest⟩ := List.forall_mem_cons.mp hyphens
    rw [List.foldr_cons, ih rest]
    rfl

/-- A run of hyphens counts as one hyphen. -/
theorem foldr_absorb_run {run : List Char} (hyphens : ∀ c ∈ run, c = '-') (some : run ≠ [])
    (text : List Char) : run.foldr absorb text = absorb '-' text := by
  induction run with
  | nil => exact absurd rfl some
  | cons c run ih =>
    obtain ⟨rfl, rest⟩ := List.forall_mem_cons.mp hyphens
    by_cases last : run = []
    · rw [last]
      rfl
    · rw [List.foldr_cons, ih rest last, absorb_hyphen]

theorem foldr_absorb_idempotent (text : List Char) :
    (text.foldr absorb []).foldr absorb [] = text.foldr absorb [] := by
  induction text with
  | nil => rfl
  | cons c text ih =>
    rw [List.foldr_cons]
    generalize text.foldr absorb [] = before at ih ⊢
    by_cases kept : hyphen c ∧ (before = [] ∨ before.head? = some '-')
    · rw [absorb, if_pos kept, ih]
    · rw [absorb, if_neg kept, List.foldr_cons, ih, absorb, if_neg kept]

theorem canon_idempotent (text : List Char) : canon (canon text) = canon text := by
  have hyphens : ∀ c ∈ (text.foldr absorb []).takeWhile hyphen, c = '-' := by
    intro c member
    simpa [hyphen] using List.mem_takeWhile_imp member
  calc canon (canon text)
      = canon ((text.foldr absorb []).takeWhile hyphen ++ canon text) :=
        (canon_hyphens hyphens _).symm
    _ = canon (text.foldr absorb []) := by rw [canon, canon, List.takeWhile_append_dropWhile]; rfl
    _ = canon text := by rw [canon, foldr_absorb_idempotent]; rfl

theorem alnum_or_hyphen {c : Char} (plain : isPlain c = true) : IsAlnum c ∨ c = '-' := by
  simp only [isPlain, decide_eq_true_eq] at plain
  rcases plain with letter | digit | same
  · exact Or.inl (Or.inl letter)
  · exact Or.inl (Or.inr digit)
  · exact Or.inr same

theorem not_hyphen {c : Char} (alnum : IsAlnum c) : ¬ hyphen c := by
  intro same
  obtain rfl : c = '-' := of_decide_eq_true same
  exact absurd alnum (by unfold IsAlnum; decide)

/-- A text of letters, digits and hyphens: what is left is nothing, a name, or a name
behind a hyphen. -/
theorem foldr_absorb_words {text : List Char} (plain : ∀ c ∈ text, isPlain c = true) :
    text.foldr absorb [] = [] ∨ text.foldr absorb [] ∈ words ∨
      ∃ w ∈ words, text.foldr absorb [] = '-' :: w := by
  induction text with
  | nil => exact Or.inl rfl
  | cons c text ih =>
    obtain ⟨here, rest⟩ := List.forall_mem_cons.mp plain
    rw [List.foldr_cons]
    generalize text.foldr absorb [] = behind at ih ⊢
    rcases alnum_or_hyphen here with alnum | rfl
    · have first : absorb c behind = c :: behind := if_neg (fun h => not_hyphen alnum h.1)
      rw [first]
      rcases ih rest with rfl | word | ⟨w, word, rfl⟩
      · exact Or.inr (Or.inl (singleton_mem_words alnum))
      · exact Or.inr (Or.inl (cons_mem_words alnum word))
      · exact Or.inr (Or.inl (cons_hyphen_mem_words alnum word))
    · rcases ih rest with rfl | word | ⟨w, word, rfl⟩
      · exact Or.inl rfl
      · obtain ⟨d, tail, rfl, alnum⟩ := exists_cons_of_mem_words word
        refine Or.inr (Or.inr ⟨d :: tail, word, if_neg ?_⟩)
        intro ⟨_, last⟩
        rcases last with empty | head
        · cases empty
        · exact not_hyphen alnum (decide_eq_true (Option.some.inj head))
      · exact Or.inr (Or.inr ⟨w, word, rfl⟩)

theorem canon_mem_slugs {text : List Char} (plain : ∀ c ∈ text, isPlain c = true) :
    canon text ∈ slugs := by
  have dropped {w : List Char} (word : w ∈ words) : w.dropWhile hyphen = w := by
    obtain ⟨c, rest, rfl, alnum⟩ := exists_cons_of_mem_words word
    exact List.dropWhile_cons_of_neg (not_hyphen alnum)
  unfold canon
  rcases foldr_absorb_words plain with empty | word | ⟨w, word, behind⟩
  · rw [empty]
    exact Or.inl rfl
  · rw [dropped word]
    exact Or.inr word
  · rw [behind, List.dropWhile_cons_of_pos rfl, dropped word]
    exact Or.inr word

/-! ## The passes of the source -/

theorem rdropWhile_cons (p : Char → Bool) (c : Char) (text : List Char) :
    (c :: text).rdropWhile p =
      if text.rdropWhile p = [] then (if p c then [] else [c]) else c :: text.rdropWhile p := by
  induction text using List.reverseRecOn with
  | nil => simp [List.rdropWhile_singleton]
  | append_singleton text d ih =>
    rw [← List.cons_append]
    by_cases last : p d
    · rw [List.rdropWhile_concat_pos _ _ _ last, List.rdropWhile_concat_pos _ _ _ last, ih]
    · rw [List.rdropWhile_concat_neg _ _ _ last, List.rdropWhile_concat_neg _ _ _ last,
        if_neg (by simp)]
      rfl

theorem absorb_of_not_hyphen {c : Char} (other : ¬ hyphen c) (text : List Char) :
    absorb c text = c :: text :=
  if_neg (fun h => other h.1)

/-- Collapsing runs and trimming the right end is what `absorb` does on the way. -/
theorem rdropWhile_hyphenateRuns (text : List Char) :
    (hyphenateRuns hyphen text).rdropWhile hyphen = text.foldr absorb [] := by
  fun_induction hyphenateRuns hyphen text with
  | case1 => rfl
  | case2 c dash =>
    obtain rfl : c = '-' := of_decide_eq_true dash
    rfl
  | case3 c other =>
    rw [List.rdropWhile_singleton, if_neg other]
    exact (absorb_of_not_hyphen other []).symm
  | case4 c d rest dash run ih =>
    obtain rfl : c = '-' := of_decide_eq_true dash
    obtain rfl : d = '-' := of_decide_eq_true run
    rw [ih]
    exact (absorb_hyphen _).symm
  | case5 c d rest dash single ih =>
    obtain rfl : c = '-' := of_decide_eq_true dash
    have next : (d :: rest).foldr absorb [] = d :: rest.foldr absorb [] :=
      absorb_of_not_hyphen single _
    have all : ('-' :: d :: rest).foldr absorb [] = absorb '-' (d :: rest.foldr absorb []) := by
      rw [← next]
      rfl
    rw [rdropWhile_cons, ih, all, next, if_neg (List.cons_ne_nil _ _)]
    refine (if_neg ?_).symm
    rintro ⟨_, last⟩
    rcases last with empty | head
    · cases empty
    · exact single (decide_eq_true (Option.some.inj head))
  | case6 c d rest other ih =>
    have next : (c :: d :: rest).foldr absorb [] = c :: (d :: rest).foldr absorb [] :=
      absorb_of_not_hyphen other _
    rw [rdropWhile_cons, ih, next]
    by_cases empty : (d :: rest).foldr absorb [] = []
    · rw [if_pos empty, if_neg other, empty]
    · rw [if_neg empty]

/-- The two trims may be made in either order. -/
theorem rdropWhile_dropWhile (p : Char → Bool) (text : List Char) :
    (text.dropWhile p).rdropWhile p = (text.rdropWhile p).dropWhile p := by
  induction text with
  | nil => rfl
  | cons c text ih =>
    by_cases here : p c
    · rw [List.dropWhile_cons_of_pos here, ih, rdropWhile_cons]
      by_cases empty : text.rdropWhile p = []
      · rw [if_pos empty, if_pos here, empty]
      · rw [if_neg empty, List.dropWhile_cons_of_pos here]
    · rw [List.dropWhile_cons_of_neg here, rdropWhile_cons]
      by_cases empty : text.rdropWhile p = []
      · rw [if_pos empty, if_neg here, List.dropWhile_cons_of_neg here]
      · rw [if_neg empty, List.dropWhile_cons_of_neg here]

/-- What a lower-case character becomes before runs are collapsed. -/
def dash (c : Char) : List Char := if Text.isSpace c then ['-'] else [c].filter isPlain

theorem plain_dash {c d : Char} (member : d ∈ dash c) : isPlain d = true := by
  unfold dash at member
  split at member
  · obtain rfl := List.mem_singleton.mp member
    decide
  · exact (List.mem_filter.mp member).2

theorem flatMap_dash_space {c : Char} (space : Text.isSpace c = true) (text : List Char) :
    (c :: text).flatMap dash = '-' :: text.flatMap dash := by
  rw [List.flatMap_cons, dash, if_pos space]
  rfl

theorem flatMap_dash_other {c : Char} (other : ¬ Text.isSpace c = true) (text : List Char) :
    (c :: text).flatMap dash = [c].filter isPlain ++ text.flatMap dash := by
  rw [List.flatMap_cons, dash, if_neg other]

/-- Replacing runs of blanks first does not matter once hyphens are collapsed. -/
theorem foldr_absorb_filter (text : List Char) :
    ((hyphenateRuns Text.isSpace text).filter isPlain).foldr absorb [] =
      (text.flatMap dash).foldr absorb [] := by
  fun_induction hyphenateRuns Text.isSpace text with
  | case1 => rfl
  | case2 c space =>
    rw [flatMap_dash_space space]
    rfl
  | case3 c other =>
    rw [flatMap_dash_other other]
    exact congrArg (List.foldr absorb []) (List.append_nil _).symm
  | case4 c d rest space run ih =>
    rw [ih, flatMap_dash_space space, flatMap_dash_space run]
    exact (absorb_hyphen _).symm
  | case5 c d rest space single ih =>
    rw [flatMap_dash_space space, List.foldr_cons, ← ih]
    rfl
  | case6 c d rest other ih =>
    rw [flatMap_dash_other other, List.foldr_append, ← ih, ← List.foldr_append, ← List.filter_append]
    rfl

/-! ## What the sanitizer computes -/

/-- The final form of the small sigma as the other one. -/
def unfinal (c : Char) : Char := if c = 'ς' then 'σ' else c

/-- `str.lower()` works character by character, but for the form of a small sigma; blanks,
and the characters a name is made of, stay, and nothing becomes a blank. -/
structure LowersBy (lower : String → String) (mapping : Char → List Char) : Prop where
  letters : ∀ text, (lower text).toList.map unfinal = text.toList.flatMap mapping
  blank : ∀ c, Text.isSpace c = true → mapping c = [c]
  visible : ∀ c, Text.isSpace c = false → ∀ d ∈ mapping c, Text.isSpace d = false
  plain : ∀ c, isPlain c = true → mapping c = [c]

theorem dash_unfinal (c : Char) : dash (unfinal c) = dash c := by
  unfold unfinal
  split
  · next final =>
    rw [final]
    decide
  · rfl

/-- The name of a text, in one pass over its lower-case characters. -/
def spelling (lowered : List Char) : List Char := canon (lowered.flatMap dash)

theorem spelling_unfinal (lowered : List Char) : spelling (lowered.map unfinal) = spelling lowered := by
  unfold spelling
  rw [List.flatMap_map]
  simp only [dash_unfinal]

theorem sanitizeVendorName_eq (env : ServiceEnvironment) (raw : String) :
    (sanitizeVendorName env raw).toList = spelling (env.lower (Text.strip raw)).toList := by
  unfold sanitizeVendorName spelling canon
  dsimp only
  rw [String.toList_ofList, ← foldr_absorb_filter, ← rdropWhile_hyphenateRuns,
    ← rdropWhile_dropWhile]
  rfl

/-! ## Blanks at the ends and in runs -/

section Lowering
variable {lower : String → String} {mapping : Char → List Char} (lowers : LowersBy lower mapping)
include lowers

theorem spelling_lower (text : String) :
    spelling (lower text).toList = spelling (text.toList.flatMap mapping) := by
  rw [← lowers.letters, spelling_unfinal]

/-- Blanks become as many hyphens. -/
theorem flatMap_dash_blanks {blanks : List Char} (all : ∀ c ∈ blanks, Text.isSpace c = true) :
    (blanks.flatMap mapping).flatMap dash = blanks.map (fun _ => '-') := by
  induction blanks with
  | nil => rfl
  | cons c blanks ih =>
    obtain ⟨here, rest⟩ := List.forall_mem_cons.mp all
    rw [List.flatMap_cons, lowers.blank c here, List.flatMap_append, ih rest,
      flatMap_dash_space here]
    rfl

theorem hyphens_of_blanks {blanks : List Char} (all : ∀ c ∈ blanks, Text.isSpace c = true) :
    ∀ c ∈ (blanks.flatMap mapping).flatMap dash, c = '-' := by
  rw [flatMap_dash_blanks lowers all]
  exact List.forall_mem_map.mpr (fun _ _ => rfl)

theorem spelling_surrounded {front back : List Char} (before : ∀ c ∈ front, Text.isSpace c = true)
    (behind : ∀ c ∈ back, Text.isSpace c = true) (text : List Char) :
    spelling ((front ++ text ++ back).flatMap mapping) = spelling (text.flatMap mapping) := by
  unfold spelling
  simp only [List.flatMap_append, List.append_assoc]
  rw [canon_hyphens (hyphens_of_blanks lowers before)]
  unfold canon
  rw [List.foldr_append, foldr_absorb_hyphens (hyphens_of_blanks lowers behind)]

theorem spelling_run {run other : List Char} (blanks : ∀ c ∈ run, Text.isSpace c = true)
    (blanks' : ∀ c ∈ other, Text.isSpace c = true) (some : run ≠ []) (some' : other ≠ [])
    (front back : List Char) :
    spelling ((front ++ run ++ back).flatMap mapping) =
      spelling ((front ++ other ++ back).flatMap mapping) := by
  have nonempty {list : List Char} (all : ∀ c ∈ list, Text.isSpace c = true) (some : list ≠ []) :
      (list.flatMap mapping).flatMap dash ≠ [] := by
    rw [flatMap_dash_blanks lowers all]
    simpa using some
  unfold spelling canon
  simp only [List.flatMap_append, List.foldr_append]
  rw [foldr_absorb_run (hyphens_of_blanks lowers blanks) (nonempty blanks some),
    foldr_absorb_run (hyphens_of_blanks lowers blanks') (nonempty blanks' some')]

end Lowering

/-- A text is its stripped form between blanks. -/
theorem exists_blanks (text : String) : ∃ front back,
    (∀ c ∈ front, Text.isSpace c = true) ∧ (∀ c ∈ back, Text.isSpace c = true) ∧
      text.toList = front ++ (Text.strip text).toList ++ back := by
  refine ⟨text.toList.takeWhile Text.isSpace, (text.toList.dropWhile Text.isSpace).rtakeWhile
    Text.isSpace, fun c member => List.mem_takeWhile_imp member,
    fun c member => List.mem_rtakeWhile_imp member, ?_⟩
  rw [Text.strip, String.toList_ofList, List.append_assoc, List.rdropWhile_append_rtakeWhile,
    List.takeWhile_append_dropWhile]

/-- The sanitizer in one pass over the whole text. -/
theorem sanitizeVendorName_spelling {env : ServiceEnvironment} {mapping : Char → List Char}
    (lowers : LowersBy env.lower mapping) (raw : String) :
    (sanitizeVendorName env raw).toList = spelling (raw.toList.flatMap mapping) := by
  obtain ⟨front, back, before, behind, split⟩ := exists_blanks raw
  rw [sanitizeVendorName_eq, spelling_lower lowers, split, spelling_surrounded lowers before behind]

/-! ## One spelling -/

/-- Two texts that differ in one respect that does not count: letter case (their
lower-case forms are the same, the two small sigmas being one letter), blanks at the ends,
or one run of blanks. -/
inductive Respelled (lower : String → String) : String → String → Prop
  | letterCase {a b : String} (same : (lower a).toList.map unfinal = (lower b).toList.map unfinal) :
      Respelled lower a b
  | surrounded {front text back : String} (before : ∀ c ∈ front.toList, Text.isSpace c = true)
      (behind : ∀ c ∈ back.toList, Text.isSpace c = true) :
      Respelled lower (front ++ text ++ back) text
  | run {front blanks blanks' back : String} (some : blanks ≠ "") (some' : blanks' ≠ "")
      (all : ∀ c ∈ blanks.toList, Text.isSpace c = true)
      (all' : ∀ c ∈ blanks'.toList, Text.isSpace c = true) :
      Respelled lower (front ++ blanks ++ back) (front ++ blanks' ++ back)

/-- Texts that differ in such respects only, any number of times. -/
def SameName (lower : String → String) : String → String → Prop :=
  Relation.EqvGen (Respelled lower)

theorem sanitize_respelled {env : ServiceEnvironment} {mapping : Char → List Char}
    (lowers : LowersBy env.lower mapping) {a b : String} (step : Respelled env.lower a b) :
    sanitizeVendorName env a = sanitizeVendorName env b := by
  refine String.toList_inj.mp ?_
  rw [sanitizeVendorName_spelling lowers, sanitizeVendorName_spelling lowers]
  cases step with
  | letterCase same =>
    rw [lowers.letters, lowers.letters] at same
    rw [same]
  | surrounded before behind =>
    rw [String.toList_append, String.toList_append, spelling_surrounded lowers before behind]
  | run some some' all all' =>
    have nonempty {text : String} (some : text ≠ "") : text.toList ≠ [] :=
      fun empty => some (String.toList_eq_nil_iff.mp empty)
    simp only [String.toList_append]
    exact spelling_run lowers all all' (nonempty some) (nonempty some') _ _

theorem sanitize_sameName {env : ServiceEnvironment} {mapping : Char → List Char}
    (lowers : LowersBy env.lower mapping) {a b : String} (same : SameName env.lower a b) :
    sanitizeVendorName env a = sanitizeVendorName env b := by
  induction same with
  | rel a b step => exact sanitize_respelled lowers step
  | refl a => rfl
  | symm a b _ ih => exact ih.symm
  | trans a b c _ _ first second => exact first.trans second

/-- Every result is in the language of the names. -/
theorem sanitize_mem_slugs (env : ServiceEnvironment) (raw : String) :
    (sanitizeVendorName env raw).toList ∈ slugs := by
  rw [sanitizeVendorName_eq]
  refine canon_mem_slugs (fun c member => ?_)
  obtain ⟨d, _, place⟩ := List.mem_flatMap.mp member
  exact plain_dash place

theorem flatMap_of_plain {f : Char → List Char} {text : List Char}
    (same : ∀ c ∈ text, f c = [c]) : text.flatMap f = text := by
  induction text with
  | nil => rfl
  | cons c text ih =>
    obtain ⟨here, rest⟩ := List.forall_mem_cons.mp same
    rw [List.flatMap_cons, here, ih rest]
    rfl

theorem visible_of_plain {c : Char} (plain : isPlain c = true) : ¬ Text.isSpace c = true := by
  simp only [isPlain, decide_eq_true_eq, Char.le_def, UInt32.le_iff_toNat_le] at plain
  rcases plain with ⟨first, last⟩ | ⟨first, last⟩ | rfl
  · have first : 97 ≤ c.toNat := first
    have last : c.toNat ≤ 122 := last
    simp [Text.isSpace]
    omega
  · have first : 48 ≤ c.toNat := first
    have last : c.toNat ≤ 57 := last
    simp [Text.isSpace]
    omega
  · decide

theorem dash_of_plain {c : Char} (plain : isPlain c = true) : dash c = [c] := by
  rw [dash, if_neg (visible_of_plain plain), List.filter_singleton, plain]
  rfl

theorem sanitize_idempotent {env : ServiceEnvironment} {mapping : Char → List Char}
    (lowers : LowersBy env.lower mapping) (raw : String) :
    sanitizeVendorName env (sanitizeVendorName env raw) = sanitizeVendorName env raw := by
  have plain := plain_of_sanitized env raw
  have kept : (sanitizeVendorName env raw).toList.flatMap mapping =
      (sanitizeVendorName env raw).toList :=
    flatMap_of_plain (fun c member => lowers.plain c (plain c member))
  have dashed : (sanitizeVendorName env raw).toList.flatMap dash =
      (sanitizeVendorName env raw).toList :=
    flatMap_of_plain (fun c member => dash_of_plain (plain c member))
  refine String.toList_inj.mp ?_
  rw [sanitizeVendorName_spelling lowers, kept, spelling, dashed, sanitizeVendorName_eq, spelling,
    canon_idempotent]

theorem toLower_of_blank {c : Char} (blank : Text.isSpace c = true) : c.toLower = c := by
  unfold Char.toLower
  split
  · next upper =>
    have first : 65 ≤ c.toNat := upper.1
    have last : c.toNat ≤ 90 := upper.2
    simp [Text.isSpace] at blank
    omega
  · rfl

theorem visible_toLower {c : Char} (visible : Text.isSpace c = false) :
    Text.isSpace c.toLower = false := by
  unfold Char.toLower
  split
  · next upper =>
    have first : 65 ≤ c.toNat := upper.1
    have last : c.toNat ≤ 90 := upper.2
    have moved : (c.val + ('a'.val - 'A'.val)).toNat = c.toNat + 32 := by
      rw [UInt32.toNat_add]
      exact Nat.mod_eq_of_lt (by show c.toNat + 32 < 2 ^ 32; omega)
    simp only [Text.isSpace, Char.toNat, moved]
    simp
    omega
  · exact visible

theorem unfinal_of_visible {c : Char} (visible : Text.isSpace c = false) :
    Text.isSpace (unfinal c) = false := by
  unfold unfinal
  split
  · decide
  · exact visible

/-- `str.lower()` on ASCII. -/
theorem lowersBy_ascii : LowersBy Text.lower (fun c => [unfinal c.toLower]) where
  letters text := by
    rw [Text.lower, String.toList_ofList, List.map_map, ← List.map_eq_flatMap]
    rfl
  blank c blank := by
    have other : c ≠ 'ς' := by
      intro final
      rw [final] at blank
      exact absurd blank (by decide)
    rw [toLower_of_blank blank, unfinal, if_neg other]
  visible c visible d member := by
    rw [List.mem_singleton.mp member]
    exact unfinal_of_visible (visible_toLower visible)
  plain c plain := by
    have other : c ≠ 'ς' := by
      intro final
      rw [final] at plain
      exact absurd plain (by decide)
    rw [toLower_of_plain plain, unfinal, if_neg other]

end Reliastra.Guarantees.VendorNames
