import Mathlib.Data.Bool.AllAny
import Reliastra.Guarantees.Unpublishing
import Reliastra.Guarantees.VendorDetails
import Reliastra.Library.JsonTokens
import Reliastra.Source.Badges.Service
import Reliastra.Source.Evidence.Gate

/-!
# Names in response headers

The badge endpoint puts the name of a vendor into a header as it is; the download of
evidence puts it into a file name after replacing what is no word character. Which
characters are word characters is up to Unicode, so the file name may not be sendable
either; it never has a quote or a line break.
-/

namespace Reliastra.Guarantees.NamesInHeaders

open Reliastra.Library Source Source.Api Source.Badges Source.Vendors Source.Evidence

/-! ## Safe values -/

/-- Every quote stands behind a backslash of its own. -/
def QuotesEscaped : List Char → Prop
  | [] => True
  | '\\' :: _ :: rest => QuotesEscaped rest
  | c :: rest => c ≠ '"' ∧ QuotesEscaped rest

/-- The value cannot end its line. -/
def OneLine (value : String) : Prop := ∀ c ∈ value.toList, c ≠ '\r' ∧ c ≠ '\n'

theorem quotesEscaped_of_noQuote {text : List Char} (noQuote : '"' ∉ text) :
    QuotesEscaped text := by
  fun_induction QuotesEscaped text with
  | case1 => trivial
  | case2 c rest ih => exact ih (fun inside => noQuote (by simp [inside]))
  | case3 c rest other ih =>
    refine ⟨?_, ih (fun inside => noQuote (by simp [inside]))⟩
    rintro rfl
    exact noQuote List.mem_cons_self

/-- The badge endpoint answers, and the values of its headers are safe. -/
def BadgeAnswers {α : Type} [LinearOrder α] (text : TextCase) (q : VendorQueries α)
    (db : VendorDatabase) (vendorName style label : String) (showLatency : Bool) : Prop :=
  ∃ response, getVendorBadge text q db vendorName style label showLatency = .ok response ∧
    ∀ header ∈ response.headers, OneLine header.2 ∧ QuotesEscaped header.2.toList

/-- The file name in the only place where a quote ends it. -/
def NamesFile (value : String) : Prop :=
  ∃ filename : String, value = "attachment; filename=\"" ++ filename ++ "\"" ∧
    QuotesEscaped filename.toList

/-- The download answers, and the values of its headers are safe. -/
def DownloadAnswers (env : GateEnvironment) (token : String) (s : GateStore) : Prop :=
  ∃ content headers after, downloadPublicEvidence env token s = .ok (content, headers, after) ∧
    (∀ header ∈ headers, OneLine header.2) ∧
    ∀ header ∈ headers, header.1 = "Content-Disposition" → NamesFile header.2

/-! ## The badge -/

/-- The name of a public vendor, and the name in the path for any other. -/
def shownName (text : TextCase) (db : VendorDatabase) (vendorName : String) : String :=
  match (db.vendors.rows.find? (fun v => v.vendorName = text.lower vendorName)).filter
    (·.isPublic) with
  | some vendor => vendor.displayName
  | none => vendorName

/-- The name has a place in ISO-8859-1, and neither a line break nor a bare quote. -/
structure Sendable (name : String) : Prop where
  latin : IsLatin1 name
  line : OneLine name
  quotes : QuotesEscaped name.toList

theorem badgeSubject_displayName {α : Type} [LinearOrder α] (text : TextCase) (q : VendorQueries α)
    (db : VendorDatabase) (vendorName : String) :
    (badgeSubject q db vendorName
      (db.vendors.rows.find? (fun v => v.vendorName = text.lower vendorName))).displayName =
      shownName text db vendorName := by
  unfold badgeSubject shownName
  cases (db.vendors.rows.find? (fun v => v.vendorName = text.lower vendorName)).filter
    (·.isPublic) with
  | none => rfl
  | some vendor => rfl

/-- A status never makes a header unsafe. -/
theorem safe_status {status : String} (known : status ∈ ["unknown", "operational", "degraded"]) :
    IsLatin1 status ∧ OneLine status ∧ QuotesEscaped status.toList := by
  have each (word : String) (latin : IsLatin1 word)
      (line : word.toList.all (fun c => c ≠ '\r' ∧ c ≠ '\n') = true) (noQuote : '"' ∉ word.toList) :
      IsLatin1 word ∧ OneLine word ∧ QuotesEscaped word.toList :=
    ⟨latin, List.all_iff_forall_prop.mp line, quotesEscaped_of_noQuote noQuote⟩
  rw [List.mem_cons, List.mem_cons, List.mem_singleton] at known
  rcases known with rfl | rfl | rfl
  · exact each _ (by decide) (by decide) (by decide)
  · exact each _ (by decide) (by decide) (by decide)
  · exact each _ (by decide) (by decide) (by decide)

theorem badgeAnswers_iff {α : Type} [LinearOrder α] (text : TextCase) (q : VendorQueries α)
    (db : VendorDatabase) (vendorName style label : String) (showLatency : Bool) :
    BadgeAnswers text q db vendorName style label showLatency ↔
      '\x00' ∉ (text.lower vendorName).toList ∧ Sendable (shownName text db vendorName) := by
  have shown := badgeSubject_displayName text q db vendorName
  constructor
  · intro ⟨response, answered, safe⟩
    obtain ⟨vendor, selected, encoded⟩ := getVendorBadge_eq_ok text q db answered
    unfold selectByName at selected
    dsimp only at selected
    by_cases nul : '\x00' ∈ (text.lower vendorName).toList
    · rw [if_pos nul] at selected
      cases selected
    rw [if_neg nul] at selected
    cases selected
    obtain ⟨latin, made⟩ := initHeaders_eq_ok.mp encoded
    have last : ("X-Vendor-Name", shownName text db vendorName) ∈ response.headers := by
      rw [made, ← shown]
      simp [badgeHeaders]
    obtain ⟨line, quotes⟩ := safe _ last
    rw [made] at last
    exact ⟨nul, latin _ last, line, quotes⟩
  · intro ⟨nul, latin, line, quotes⟩
    have selected : selectByName text db vendorName =
        .ok (db.vendors.rows.find? (fun v => v.vendorName = text.lower vendorName)) := if_neg nul
    have safe : ∀ header ∈ badgeHeaders (badgeSubject q db vendorName
        (db.vendors.rows.find? (fun v => v.vendorName = text.lower vendorName))),
        IsLatin1 header.2 ∧ OneLine header.2 ∧ QuotesEscaped header.2.toList := by
      simp only [badgeHeaders, List.forall_mem_cons]
      refine ⟨⟨by decide, List.all_iff_forall_prop.mp (by decide), quotesEscaped_of_noQuote (by decide)⟩,
        safe_status (badgeSubject_status q db vendorName _), ?_, by simp⟩
      rw [shown]
      exact ⟨latin, line, quotes⟩
    have encoded := initHeaders_eq_ok.mpr ⟨fun header member => (safe header member).1, rfl⟩
    exact ⟨_, getVendorBadge_of_headers text q db selected encoded style label showLatency,
      fun header member => (safe header member).2⟩

/-! ## The file name -/

/-- `\w` in a pattern for texts; on ASCII it is a letter, a digit or an underscore. -/
structure WordClass where
  isWord : Char → Bool
  ascii : ∀ c, c.toNat < 128 → (isWord c = true ↔ c.isAlphanum = true ∨ c = '_')

/-- `re.sub(r"[^\w-]", "-", text)`. -/
def WordClass.dashed (words : WordClass) (text : String) : String :=
  String.ofList (text.toList.map (fun c => if words.isWord c ∨ c = '-' then c else '-'))

/-- `str(id)[:8]`: the first four bytes in hexadecimal digits. -/
def uuidPrefix (id : Uuid) : String :=
  String.ofList ((List.range 8).map (fun i => JsonText.hexDigit (id / 2 ^ (124 - 4 * i) % 16)))

/-- The service with the pattern and the texts of identifiers as they are. -/
def withPatterns (env : GateEnvironment) (words : WordClass) : GateEnvironment :=
  { env with dashed := words.dashed, idPrefix := uuidPrefix }

theorem hexDigit_safe : ∀ d < 16, (JsonText.hexDigit d).toNat ≤ 255 ∧ JsonText.hexDigit d ≠ '\r' ∧
    JsonText.hexDigit d ≠ '\n' ∧ JsonText.hexDigit d ≠ '"' := by decide

theorem mem_uuidPrefix {id : Uuid} {c : Char} (member : c ∈ (uuidPrefix id).toList) :
    c.toNat ≤ 255 ∧ c ≠ '\r' ∧ c ≠ '\n' ∧ c ≠ '"' := by
  unfold uuidPrefix at member
  rw [String.toList_ofList] at member
  obtain ⟨i, _, rfl⟩ := List.mem_map.mp member
  exact hexDigit_safe _ (Nat.mod_lt _ (by decide))

/-- A character that replaces others is harmless, and so is any word character but for
its encoding. -/
theorem mem_dashed (words : WordClass) {text : String} {c : Char}
    (member : c ∈ (words.dashed text).toList) :
    (c = '-' ∨ c ∈ text.toList ∧ words.isWord c = true) ∧ c ≠ '\r' ∧ c ≠ '\n' ∧ c ≠ '"' := by
  have other {d : Char} (word : words.isWord d = true) (small : d.toNat < 128)
      (plain : ¬ (d.isAlphanum = true ∨ d = '_')) : False := plain ((words.ascii d small).mp word)
  unfold WordClass.dashed at member
  rw [String.toList_ofList] at member
  obtain ⟨d, inside, rfl⟩ := List.mem_map.mp member
  by_cases kept : words.isWord d ∨ d = '-'
  · rw [if_pos kept]
    rcases kept with word | rfl
    · refine ⟨Or.inr ⟨inside, word⟩, ?_, ?_, ?_⟩ <;> rintro rfl
      · exact other word (by decide) (by decide)
      · exact other word (by decide) (by decide)
      · exact other word (by decide) (by decide)
    · exact ⟨Or.inl rfl, by decide⟩
  · rw [if_neg kept]
    exact ⟨Or.inl rfl, by decide⟩

/-- The words of the vendor's name that the file name keeps have a place in ISO-8859-1. -/
def WordsLatin1 (env : GateEnvironment) (words : WordClass) (pubReport : PublicEvidenceReport) : Prop :=
  ∀ c ∈ (env.service.lower pubReport.vendorName).toList, words.isWord c = true → c.toNat ≤ 255

theorem mem_downloadFilename (env : GateEnvironment) (words : WordClass)
    (pubReport : PublicEvidenceReport) {c : Char}
    (member : c ∈ (downloadFilename (withPatterns env words) pubReport).toList) :
    (c.toNat ≤ 255 ∨ c ∈ (env.service.lower pubReport.vendorName).toList ∧ words.isWord c = true) ∧
      c ≠ '\r' ∧ c ≠ '\n' ∧ c ≠ '"' := by
  unfold downloadFilename at member
  simp only [String.toList_append, List.mem_append] at member
  rcases member with ((name | middle) | head) | tail
  · obtain ⟨origin, safe⟩ := mem_dashed words name
    refine ⟨?_, safe⟩
    rcases origin with rfl | word
    · exact Or.inl (by decide)
    · exact Or.inr word
  · have ascii : ∀ c ∈ "-evidence-".toList,
        c.toNat ≤ 255 ∧ c ≠ '\r' ∧ c ≠ '\n' ∧ c ≠ '"' := List.all_iff_forall_prop.mp (by decide)
    exact ⟨Or.inl (ascii c middle).1, (ascii c middle).2⟩
  · exact ⟨Or.inl (mem_uuidPrefix head).1, (mem_uuidPrefix head).2⟩
  · have ascii : ∀ c ∈ ".pdf".toList,
        c.toNat ≤ 255 ∧ c ≠ '\r' ∧ c ≠ '\n' ∧ c ≠ '"' := List.all_iff_forall_prop.mp (by decide)
    exact ⟨Or.inl (ascii c tail).1, (ascii c tail).2⟩

/-- The file name is one line without a quote, whatever the vendor is called. -/
theorem namesFile_downloadFilename (env : GateEnvironment) (words : WordClass)
    (pubReport : PublicEvidenceReport) :
    OneLine ("attachment; filename=\"" ++ downloadFilename (withPatterns env words) pubReport ++ "\"") ∧
      NamesFile
        ("attachment; filename=\"" ++ downloadFilename (withPatterns env words) pubReport ++ "\"") := by
  constructor
  · intro c member
    simp only [String.toList_append, List.mem_append] at member
    rcases member with (head | name) | tail
    · have ascii : ∀ c ∈ "attachment; filename=\"".toList, c ≠ '\r' ∧ c ≠ '\n' :=
        List.all_iff_forall_prop.mp (by decide)
      exact ascii c head
    · obtain ⟨_, noReturn, noFeed, _⟩ := mem_downloadFilename env words pubReport name
      exact ⟨noReturn, noFeed⟩
    · have ascii : ∀ c ∈ "\"".toList, c ≠ '\r' ∧ c ≠ '\n' :=
        List.all_iff_forall_prop.mp (by decide)
      exact ascii c tail
  · refine ⟨_, rfl, quotesEscaped_of_noQuote (fun member => ?_)⟩
    exact (mem_downloadFilename env words pubReport member).2.2.2 rfl

theorem latin1_downloadFilename_iff (env : GateEnvironment) (words : WordClass)
    (pubReport : PublicEvidenceReport) :
    IsLatin1 ("attachment; filename=\"" ++ downloadFilename (withPatterns env words) pubReport ++ "\"")
      ↔ WordsLatin1 env words pubReport := by
  constructor
  · intro latin c inside word
    refine latin c ?_
    simp only [String.toList_append, List.mem_append, downloadFilename]
    refine Or.inl (Or.inr (Or.inl (Or.inl (Or.inl ?_))))
    show c ∈ (words.dashed _).toList
    rw [WordClass.dashed, String.toList_ofList]
    exact List.mem_map.mpr ⟨c, inside, if_pos (Or.inl word)⟩
  · intro latin c member
    simp only [String.toList_append, List.mem_append] at member
    rcases member with (head | name) | tail
    · have ascii : ∀ c ∈ "attachment; filename=\"".toList, c.toNat ≤ 255 :=
        List.all_iff_forall_prop.mp (by decide)
      exact ascii c head
    · rcases (mem_downloadFilename env words pubReport name).1 with small | ⟨inside, word⟩
      · exact small
      · exact latin c inside word
    · have ascii : ∀ c ∈ "\"".toList, c.toNat ≤ 255 :=
        List.all_iff_forall_prop.mp (by decide)
      exact ascii c tail

theorem length_safe (n : Nat) : IsLatin1 (toString n) ∧ OneLine (toString n) := by
  have digits {c : Char} (member : c ∈ (toString n).toList) : 48 ≤ c.toNat ∧ c.toNat ≤ 57 := by
    have inside : c ∈ Nat.toDigits 10 n := by simpa using member
    have digit := Nat.isDigit_of_mem_toDigits (by decide) (by decide) inside
    simpa [Char.isDigit, UInt32.le_iff_toNat_le] using digit
  constructor
  · intro c member
    have range := digits member
    omega
  · intro c member
    have range := digits member
    constructor <;> rintro rfl <;> exact absurd range (by decide)

/-- A token that opens a file: the record it is for. -/
def Opens (env : GateEnvironment) (token : String) (s : GateStore)
    (pubReport : PublicEvidenceReport) : Prop :=
  ∃ gateToken report content, downloadable env token s = .ok (gateToken, pubReport, report) ∧
    fileBytes env report = .ok content

theorem downloadAnswers_iff (env : GateEnvironment) (words : WordClass) (token : String)
    (s : GateStore) (pubReport : PublicEvidenceReport)
    (opens : Opens (withPatterns env words) token s pubReport) :
    DownloadAnswers (withPatterns env words) token s ↔ WordsLatin1 env words pubReport := by
  obtain ⟨gateToken, report, content, found, read⟩ := opens
  obtain ⟨after, answer⟩ := downloadPublicEvidence_eq found read
  rw [← latin1_downloadFilename_iff]
  constructor
  · intro ⟨answered, headers, stored, success, _⟩
    rw [answer] at success
    cases encoded : initHeaders (downloadHeaders content
        (downloadFilename (withPatterns env words) pubReport)) with
    | error failure =>
      rw [encoded] at success
      cases success
    | ok lines =>
      have first : ("Content-Disposition", "attachment; filename=\"" ++
          downloadFilename (withPatterns env words) pubReport ++ "\"") ∈ downloadHeaders content
          (downloadFilename (withPatterns env words) pubReport) := List.mem_cons_self
      have latin := (initHeaders_eq_ok.mp encoded).1 _ first
      exact latin
  · intro latin
    have safe := namesFile_downloadFilename env words pubReport
    have each : ∀ header ∈ downloadHeaders content
        (downloadFilename (withPatterns env words) pubReport),
        IsLatin1 header.2 ∧ OneLine header.2 := by
      simp only [downloadHeaders, List.forall_mem_cons]
      exact ⟨⟨latin, safe.1⟩, length_safe _, by simp⟩
    have encoded := initHeaders_eq_ok.mpr ⟨fun header member => (each header member).1, rfl⟩
    refine ⟨content, _, after, by rw [answer, encoded]; rfl, ?_, ?_⟩
    · exact fun header member => (each header member).2
    · intro header member disposition
      rcases List.mem_cons.mp member with rfl | other
      · exact safe.2
      · rw [List.mem_singleton.mp other] at disposition
        have same : "Content-Length" = "Content-Disposition" := disposition
        exact absurd same (by decide)

/-! ## Both endpoints -/

/-- When each endpoint answers with safe headers: the badge for a name that is sendable as
it is, the download for a vendor whose words are. -/
theorem names_in_headers_iff (words : WordClass) :
    (∀ {α : Type} [LinearOrder α] (text : TextCase) (q : VendorQueries α) (db : VendorDatabase)
      (vendorName style label : String) (showLatency : Bool),
      BadgeAnswers text q db vendorName style label showLatency ↔
        '\x00' ∉ (text.lower vendorName).toList ∧ Sendable (shownName text db vendorName)) ∧
    ∀ (env : GateEnvironment) (token : String) (s : GateStore) (pubReport : PublicEvidenceReport),
      Opens (withPatterns env words) token s pubReport →
      (DownloadAnswers (withPatterns env words) token s ↔ WordsLatin1 env words pubReport) :=
  ⟨fun text q db vendorName style label showLatency =>
      badgeAnswers_iff text q db vendorName style label showLatency,
    fun env token s pubReport opens => downloadAnswers_iff env words token s pubReport opens⟩

/-! ## A name from Łódź -/

/-- Word characters up to the Latin letters that ISO-8859-1 leaves out. -/
def latinWords : WordClass where
  isWord c := c.isAlphanum || c == '_' ||
    (192 ≤ c.toNat && c.toNat ≤ 383 && c != '×' && c != '÷')
  ascii c small := by
    have outside : ¬ 192 ≤ c.toNat := by omega
    simp [outside]

/-- A public report about a Polish dependency, and a token for it. -/
def lodzGate : GateStore where
  platform :=
    { Unpublishing.reportedStore.platform with
      workspace :=
        { Unpublishing.reportedStore.platform.workspace with
          publicReports := ⟨[⟨51, 31, "łódź hosting", 41, true, none, none, 0⟩], by decide⟩ } }
  tokens := .single ⟨61, 51, "v@x.example", none, "sha256:raw", none, none, 100⟩

theorem opens_lodzGate : Opens (withPatterns (Unpublishing.gateServer 0) latinWords) "raw" lodzGate
    ⟨51, 31, "łódź hosting", 41, true, none, none, 0⟩ :=
  ⟨_, _, _, rfl, rfl⟩

def noVendors : VendorDatabase := ⟨.empty, .empty, .empty, [], [], by decide, by decide⟩

def asciiText : TextCase := ⟨Text.lower, Text.upper⟩

theorem names_in_headers_iff_lodz :
    (BadgeAnswers asciiText VendorDetails.byText noVendors "Łódź" "flat" "Reliastra" false ↔
      '\x00' ∉ (Text.lower "Łódź").toList ∧ Sendable (shownName asciiText noVendors "Łódź")) ∧
    (DownloadAnswers (withPatterns (Unpublishing.gateServer 0) latinWords) "raw" lodzGate ↔
      WordsLatin1 (Unpublishing.gateServer 0) latinWords
        ⟨51, 31, "łódź hosting", 41, true, none, none, 0⟩) :=
  ⟨(names_in_headers_iff latinWords).1 _ _ _ _ _ _ _,
    (names_in_headers_iff latinWords).2 _ _ _ _ opens_lodzGate⟩

/-- Both endpoints fail for the name, and a name in the path can break the line. -/
theorem names_from_lodz_fail :
    ¬ BadgeAnswers asciiText VendorDetails.byText noVendors "Łódź" "flat" "Reliastra" false ∧
    ¬ BadgeAnswers asciiText VendorDetails.byText noVendors "a\r\nb" "flat" "Reliastra" false ∧
    ¬ DownloadAnswers (withPatterns (Unpublishing.gateServer 0) latinWords) "raw" lodzGate := by
  refine ⟨fun answers => ?_, fun answers => ?_, fun answers => ?_⟩
  · have latin := ((badgeAnswers_iff _ _ _ _ _ _ _).mp answers).2.latin
    exact absurd latin (by decide)
  · have line := ((badgeAnswers_iff _ _ _ _ _ _ _).mp answers).2.line
    exact absurd rfl (line '\r' (by decide)).1
  · have words := (downloadAnswers_iff _ _ _ _ _ opens_lodzGate).mp answers
    exact absurd (words 'ł' (by decide) (by decide)) (by decide)

end Reliastra.Guarantees.NamesInHeaders
