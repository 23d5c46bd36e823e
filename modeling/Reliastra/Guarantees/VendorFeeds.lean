import Mathlib.Data.String.Basic
import Reliastra.Source.Feed.Service

/-!
# Feeds are read as they were built

Names of vendors and the texts of incidents go into the feeds as they are stored. Whatever
is in them, an XML reader gets exactly the entries the service has put together, one for
each and in their order, with line feeds for the ends of lines, as long as no character is
one that XML forbids; with one such character there is no document for anyone. What
`get_last_modified` finds in a document is the time of its newest entry.
-/

namespace Reliastra.Guarantees.VendorFeeds

open Reliastra.Library Markup ElementTree Source Source.Api Source.Feed

/-! ## What a reader gets -/

/-- An entry as a reader of the feed sees it. -/
structure ReadEntry where
  title : List Char
  id : List Char
  link : List Char
  updated : List Char
  summary : List Char
  deriving DecidableEq

/-- The text of the first child with a tag. -/
def childText (e : Element) (tag : Tag) : List Char := ((e.inner.find tag).map Element.text).getD []

def childItem (e : Element) (tag : Tag) (key : String) : List Char :=
  ((e.inner.find tag).bind (fun child => child.items.lookup key.toList)).getD []

def readAtomEntry (e : Element) : ReadEntry :=
  ⟨childText e (atomTag "title"), childText e (atomTag "id"), childItem e (atomTag "link") "href",
    childText e (atomTag "updated"), childText e (atomTag "summary")⟩

/-- The entries of an Atom document. -/
def readAtom (root : Element) : List ReadEntry :=
  (root.inner.elements.filter (fun e => e.tag = atomTag "entry")).map readAtomEntry

def readRssItem (e : Element) : ReadEntry :=
  ⟨childText e (rssTag "title"), childText e (rssTag "guid"), childText e (rssTag "link"),
    childText e (rssTag "pubDate"), childText e (rssTag "description")⟩

/-- The items of an RSS document. -/
def readRss (root : Element) : List ReadEntry :=
  (root.inner.elements.filter (fun e => e.tag = rssTag "channel")).flatMap (fun channel =>
    (channel.inner.elements.filter (fun e => e.tag = rssTag "item")).map readRssItem)

/-- A text with a line feed for every end of line. -/
def lines (text : String) : List Char := Xml.endOfLines false text.toList

def atomShown (e : Entry) : ReadEntry :=
  ⟨lines e.title, lines e.id, e.link.toList, (atomTime e.updated).toList, lines e.summary⟩

def rssShown (e : Entry) : ReadEntry :=
  ⟨lines e.title, lines e.id, lines e.link, (rssTime e.updated).toList, lines e.summary⟩

/-! ## Which texts XML takes -/

def xmlText (text : String) : Bool := text.toList.all Xml.isXmlChar

def legalEntry (e : Entry) : Bool :=
  xmlText e.title && xmlText e.id && xmlText e.link && xmlText e.summary

theorem xmlText_append (first second : String) :
    xmlText (first ++ second) = (xmlText first && xmlText second) := by
  unfold xmlText
  rw [String.toList_append, List.all_append]

/-- A text that is read as it is in every place. -/
def printed (text : String) : Bool := text.toList.all Xml.isPrinted

theorem printed_append (first second : String) :
    printed (first ++ second) = (printed first && printed second) := by
  unfold printed
  rw [String.toList_append, List.all_append]

theorem printed_digit {c : Char} (digit : c.isDigit = true) : Xml.isPrinted c = true := by
  obtain ⟨low, high⟩ := Char.isDigit_iff_toNat.mp digit
  have zero : '0'.toNat = 48 := rfl
  have nine : '9'.toNat = 57 := rfl
  have notCr : c ≠ '\r' := by
    rintro rfl
    simp at digit
  have xml : Xml.isXmlChar c = true := by
    refine List.any_eq_true.mpr ⟨(0x20, 0xD7FF), by simp, ?_⟩
    rw [Bool.and_eq_true, decide_eq_true_iff, decide_eq_true_iff]
    omega
  simp [Xml.isPrinted, xml, notCr]

theorem printed_nat (n : Nat) : printed (toString n) = true := by
  unfold printed
  rw [List.all_eq_true]
  intro c member
  have place : c ∈ Nat.toDigits 10 n := by simpa using member
  exact printed_digit (Nat.isDigit_of_mem_toDigits (by decide) (by decide) place)

theorem printed_int (value : Int) : printed (toString value) = true := by
  cases value with
  | ofNat n => exact printed_nat n
  | negSucc n =>
    have shown : toString (Int.negSucc n) = "-" ++ toString (n + 1) := rfl
    rw [shown, printed_append, printed_nat]
    decide

theorem printed_zeroPadded (width : Nat) (value : Int) : printed (zeroPadded width value) = true := by
  unfold zeroPadded
  dsimp only
  rw [printed_append, printed_int, Bool.and_true]
  unfold printed
  rw [String.toList_ofList, List.all_eq_true]
  intro c member
  rw [List.eq_of_mem_replicate member]
  decide

theorem printed_getD {names : List String} (all : names.all printed = true) (n : Nat) :
    printed (names.getD n "") = true := by
  rw [List.getD_eq_getElem?_getD]
  cases at_ : names[n]? with
  | none => decide
  | some name => exact List.all_eq_true.mp all name (List.mem_of_getElem? at_)

theorem printed_dateAndTime (t : CivilTime) : printed (dateAndTime t) = true := by
  have marks : printed "-" = true ∧ printed "T" = true ∧ printed ":" = true := by decide
  simp only [dateAndTime, printed_append, printed_zeroPadded, marks, Bool.and_true]

theorem printed_atomTime (moment : Instant) : printed (atomTime moment) = true := by
  have zone : printed "+00:00" = true := by decide
  rw [atomTime, printed_append, printed_dateAndTime, zone]
  rfl

theorem printed_isoformat (moment : Instant) : printed (isoformat moment) = true := by
  have zone : printed "+00:00" = true := by decide
  have fraction : printed (if (civilTime moment).microsecond = 0 then ""
      else "." ++ zeroPadded 6 (civilTime moment).microsecond) = true := by
    split
    · decide
    · rw [printed_append, printed_zeroPadded]
      decide
  unfold isoformat
  dsimp only
  rw [printed_append, printed_append, printed_dateAndTime, fraction, zone]
  rfl

theorem printed_rssTime (moment : Instant) : printed (rssTime moment) = true := by
  have marks : printed ", " = true ∧ printed " " = true ∧ printed ":" = true ∧
      printed " GMT" = true := by decide
  have weekdays (n : Nat) : printed (weekdayNames.getD n "") = true := printed_getD (by decide) n
  have months (n : Nat) : printed (monthNames.getD n "") = true := printed_getD (by decide) n
  unfold rssTime
  simp only [printed_append, printed_zeroPadded, weekdays, months, marks, Bool.and_true]

theorem xmlText_of_printed {text : String} (plain : printed text = true) : xmlText text = true := by
  unfold xmlText
  rw [List.all_eq_true]
  intro c member
  exact (Bool.and_eq_true_iff.mp (List.all_eq_true.mp plain c member)).1

theorem lines_of_printed {text : String} (plain : printed text = true) : lines text = text.toList := by
  refine endOfLines_self (fun member => ?_)
  have cr := List.all_eq_true.mp plain _ member
  exact absurd cr (by decide)

theorem lines_ne_nil {text : String} (some : text ≠ "") : lines text ≠ [] := by
  intro none
  exact some (String.toList_eq_nil_iff.mp (endOfLines_eq_nil.mp none))

/-! ## The trees -/

theorem named_text {uri : List Char} {name : String}
    (plain : isName name.toList = true ∧ ':' ∉ name.toList) :
    Named uri ⟨uri, name.toList⟩ [] :=
  ⟨rfl, plain, fun _ member => (by cases member), List.nodup_nil⟩

/-- An element with one attribute. -/
theorem named_item {uri value : List Char} {name key : String}
    (plain : isName name.toList = true ∧ ':' ∉ name.toList)
    (plainKey : isName key.toList = true ∧ ':' ∉ key.toList ∧ key.toList ≠ "xmlns".toList) :
    Named uri ⟨uri, name.toList⟩ [(key.toList, value)] := by
  refine ⟨rfl, plain, ?_, List.nodup_singleton _⟩
  intro item member
  rw [List.mem_singleton.mp member]
  exact plainKey

theorem href_plain : isName "href".toList = true ∧ ':' ∉ "href".toList ∧
    "href".toList ≠ "xmlns".toList := by decide

theorem legal_text (tag : Tag) (text : String) : (textElement tag text).legal = xmlText text := by
  simp [textElement, Element.legal, Content.legal, xmlText]

theorem normal_text (tag : Tag) (text : String) :
    (textElement tag text).normal = ⟨tag, [], lines text, .nil⟩ := rfl

theorem formed_atomEntry (e : Entry) :
    Named atomNs (atomEntry e).tag (atomEntry e).items ∧ (atomEntry e).inner.Formed atomNs := by
  refine ⟨named_text (by decide), Content.formed_ofElements ?_⟩
  intro child member
  simp only [List.mem_cons, List.not_mem_nil, or_false] at member
  rcases member with rfl | rfl | rfl | rfl | rfl
  · exact ⟨named_text (by decide), trivial⟩
  · exact ⟨named_text (by decide), trivial⟩
  · exact ⟨named_item (by decide) href_plain, trivial⟩
  · exact ⟨named_text (by decide), trivial⟩
  · exact ⟨named_text (by decide), trivial⟩

theorem formed_atomTree (entries : List Entry) (updated : Instant) (title : String) :
    (atomTree entries updated title).Formed := by
  have uri : atomNs.all Xml.isXmlChar = true := by decide
  refine ⟨named_text (by decide), Content.formed_ofElements ?_, uri⟩
  intro child member
  simp only [List.mem_cons, List.mem_map] at member
  rcases member with rfl | rfl | rfl | rfl | rfl | rfl | ⟨e, _, rfl⟩
  · exact ⟨named_text (by decide), trivial⟩
  · exact ⟨named_text (by decide), trivial⟩
  · refine ⟨⟨rfl, by decide, ?_, by decide⟩, trivial⟩
    intro item inside
    simp only [linkElement, List.map_cons, List.map_nil, List.mem_cons, List.not_mem_nil,
      or_false] at inside
    rcases inside with rfl | rfl <;> exact ⟨by decide, by decide, by decide⟩
  · exact ⟨named_item (by decide) (by decide), trivial⟩
  · exact ⟨named_text (by decide), trivial⟩
  · exact ⟨named_text (by decide), trivial⟩
  · exact formed_atomEntry e

theorem formed_rssItem (e : Entry) :
    Named [] (rssItem e).tag (rssItem e).items ∧ (rssItem e).inner.Formed [] := by
  refine ⟨named_text (by decide), Content.formed_ofElements ?_⟩
  intro child member
  simp only [List.mem_cons, List.not_mem_nil, or_false] at member
  rcases member with rfl | rfl | rfl | rfl | rfl
  · exact ⟨named_text (by decide), trivial⟩
  · exact ⟨named_text (by decide), trivial⟩
  · exact ⟨named_item (by decide) (by decide), trivial⟩
  · exact ⟨named_text (by decide), trivial⟩
  · exact ⟨named_text (by decide), trivial⟩

theorem formed_rssTree (entries : List Entry) (updated : Instant) :
    (rssTree entries updated).Formed := by
  refine ⟨named_item (by decide) (by decide), Content.formed_ofElements ?_, rfl⟩
  intro channel only
  rw [List.mem_singleton.mp only]
  refine ⟨named_text (by decide), Content.formed_ofElements ?_⟩
  intro child member
  simp only [List.mem_cons, List.mem_map] at member
  rcases member with rfl | rfl | rfl | rfl | rfl | rfl | ⟨e, _, rfl⟩
  · exact ⟨named_text (by decide), trivial⟩
  · exact ⟨named_text (by decide), trivial⟩
  · exact ⟨named_text (by decide), trivial⟩
  · exact ⟨named_text (by decide), trivial⟩
  · exact ⟨named_text (by decide), trivial⟩
  · exact ⟨named_text (by decide), trivial⟩
  · exact formed_rssItem e

theorem legal_atomEntry (e : Entry) : (atomEntry e).legal = legalEntry e := by
  have time := xmlText_of_printed (printed_atomTime e.updated)
  have link : (linkElement [("href", e.link)]).legal = xmlText e.link := by
    simp [linkElement, Element.legal, Content.legal, xmlText]
  show (Element.mk (atomTag "entry") [] [] (.ofElements _)).legal = _
  rw [Element.legal, Content.legal_ofElements]
  simp only [List.all_cons, List.all_nil, legal_text, link, time, Bool.true_and, Bool.and_true]
  simp only [legalEntry, Bool.and_assoc]

theorem legal_rssItem (e : Entry) : (rssItem e).legal = legalEntry e := by
  have time := xmlText_of_printed (printed_rssTime e.updated)
  have guid : (Element.mk (rssTag "guid") [("isPermaLink".toList, "false".toList)] e.id.toList
      .nil).legal = xmlText e.id := by
    have flag : "false".toList.all Xml.isXmlChar = true := by decide
    simp only [Element.legal, Content.legal, List.all_cons, List.all_nil, flag, Bool.and_true,
      Bool.true_and]
    rfl
  show (Element.mk (rssTag "item") [] [] (.ofElements _)).legal = _
  rw [Element.legal, Content.legal_ofElements]
  simp only [List.all_cons, List.all_nil, legal_text, guid, time, Bool.true_and, Bool.and_true]
  unfold legalEntry
  cases xmlText e.title <;> cases xmlText e.id <;> cases xmlText e.link <;> cases xmlText e.summary <;>
    rfl

theorem legal_atomTree (entries : List Entry) (updated : Instant) (title : String) :
    (atomTree entries updated title).legal = (xmlText title && entries.all legalEntry) := by
  have time := xmlText_of_printed (printed_atomTime updated)
  have own : xmlText feedSubtitle = true ∧ xmlText "urn:reliastra:feed:vendors" = true := by decide
  have links : (linkElement [("href", baseUrl ++ "/feed/vendors"), ("rel", "self")]).legal = true ∧
      (linkElement [("href", baseUrl)]).legal = true := by decide
  have rest : (entries.map atomEntry).all Element.legal = entries.all legalEntry := by
    rw [List.all_map]
    exact congrArg entries.all (funext legal_atomEntry)
  show (Element.mk (atomTag "feed") [] [] (.ofElements _)).legal = _
  rw [Element.legal, Content.legal_ofElements]
  simp only [List.all_cons, List.all_nil, legal_text, time, own, links, rest, Bool.true_and]

theorem legal_rssChannel (entries : List Entry) (updated : Instant) :
    (rssChannel entries updated).legal = entries.all legalEntry := by
  have time := xmlText_of_printed (printed_rssTime updated)
  have own : xmlText feedTitle = true ∧ xmlText feedSubtitle = true ∧ xmlText baseUrl = true ∧
      xmlText "en-us" = true ∧ xmlText "Reliastra Feed Generator" = true := by decide
  have rest : (entries.map rssItem).all Element.legal = entries.all legalEntry := by
    rw [List.all_map]
    exact congrArg entries.all (funext legal_rssItem)
  show (Element.mk (rssTag "channel") [] [] (.ofElements _)).legal = _
  rw [Element.legal, Content.legal_ofElements]
  simp only [List.all_cons, List.all_nil, legal_text, time, own, rest, Bool.true_and]

theorem legal_rssTree (entries : List Entry) (updated : Instant) :
    (rssTree entries updated).legal = entries.all legalEntry := by
  have version : "2.0".toList.all Xml.isXmlChar = true := by decide
  show (Element.mk (rssTag "rss") [("version".toList, "2.0".toList)] [] (.ofElements _)).legal = _
  rw [Element.legal, Content.legal_ofElements]
  simp only [List.all_cons, List.all_nil, version, legal_rssChannel, Bool.true_and, Bool.and_true]

/-! ## What is read of the trees -/

theorem elements_normal (tag : Tag) (items : List Attribute) (text : List Char)
    (list : List Element) :
    (Element.mk tag items text (.ofElements list)).normal.inner.elements =
      list.map Element.normal := by
  show (Content.ofElements list).normal.elements = _
  rw [Content.normal_ofElements, Content.elements_ofElements]

/-- The tags that occur in the feeds, each told from the others. -/
theorem atomTag_inj {name other : String} : atomTag name = atomTag other ↔ name = other := by
  constructor
  · intro same
    exact String.toList_inj.mp (Tag.mk.inj same).2
  · exact congrArg atomTag

theorem rssTag_inj {name other : String} : rssTag name = rssTag other ↔ name = other := by
  constructor
  · intro same
    exact String.toList_inj.mp (Tag.mk.inj same).2
  · exact congrArg rssTag

theorem atomTag_ne_rssTag (name other : String) : atomTag name ≠ rssTag other := by
  intro same
  exact absurd (Tag.mk.inj same).1 (by decide)

theorem normal_link (items : List (String × String)) :
    (linkElement items).normal = linkElement items := rfl

/-- A text element as it is read. -/
def shownText (tag : Tag) (text : String) : Element := ⟨tag, [], lines text, .nil⟩

theorem normal_shown (tag : Tag) (text : String) :
    (textElement tag text).normal = shownText tag text := rfl

@[simp] theorem shownText_tag (tag : Tag) (text : String) : (shownText tag text).tag = tag := rfl

@[simp] theorem linkElement_tag (items : List (String × String)) :
    (linkElement items).tag = atomTag "link" := rfl

theorem find_element (e : Element) (wanted : Tag) (rest : List Element) :
    (e :: rest).find? (fun other => decide (other.tag = wanted)) =
      if e.tag = wanted then some e else rest.find? (fun other => decide (other.tag = wanted)) := by
  rw [List.find?_cons]
  by_cases same : e.tag = wanted <;> simp [same]

theorem atomEntry_children (e : Entry) : (atomEntry e).normal.inner.elements =
    [shownText (atomTag "title") e.title, shownText (atomTag "id") e.id,
      linkElement [("href", e.link)], shownText (atomTag "updated") (atomTime e.updated),
      shownText (atomTag "summary") e.summary] := by
  unfold atomEntry
  rw [elements_normal]
  simp only [List.map_cons, List.map_nil, normal_shown, normal_link]

theorem readAtomEntry_normal (e : Entry) : readAtomEntry (atomEntry e).normal = atomShown e := by
  have time := lines_of_printed (printed_atomTime e.updated)
  simp only [readAtomEntry, childText, childItem, Content.find, atomEntry_children, find_element,
    shownText_tag, linkElement_tag, atomTag_inj]
  simp [atomShown, shownText, linkElement, time]

/-- The `guid` of an item as it is read. -/
def shownGuid (id : String) : Element :=
  ⟨rssTag "guid", [("isPermaLink".toList, "false".toList)], lines id, .nil⟩

@[simp] theorem shownGuid_tag (id : String) : (shownGuid id).tag = rssTag "guid" := rfl

theorem rssItem_children (e : Entry) : (rssItem e).normal.inner.elements =
    [shownText (rssTag "title") e.title, shownText (rssTag "link") e.link, shownGuid e.id,
      shownText (rssTag "description") e.summary,
      shownText (rssTag "pubDate") (rssTime e.updated)] := by
  have guid : (Element.mk (rssTag "guid") [("isPermaLink".toList, "false".toList)] e.id.toList
      .nil).normal = shownGuid e.id := rfl
  unfold rssItem
  rw [elements_normal]
  simp only [List.map_cons, List.map_nil, normal_shown, guid]

theorem readRssItem_normal (e : Entry) : readRssItem (rssItem e).normal = rssShown e := by
  have time := lines_of_printed (printed_rssTime e.updated)
  simp only [readRssItem, childText, Content.find, rssItem_children, find_element, shownText_tag,
    shownGuid_tag, rssTag_inj]
  simp [rssShown, shownText, shownGuid, time]

/-- Entries behind elements of other kinds, as a reader picks them. -/
theorem pick_entries {wanted : Tag} {build : Entry → Element} (tagged : ∀ e, (build e).tag = wanted)
    {front : List Element} (others : ∀ e ∈ front, e.tag ≠ wanted) (entries : List Entry) :
    (front ++ (entries.map build).map Element.normal).filter (fun e => decide (e.tag = wanted)) =
      (entries.map build).map Element.normal := by
  have none : front.filter (fun e => decide (e.tag = wanted)) = [] :=
    List.filter_eq_nil_iff.mpr (fun e member => by simpa using others e member)
  have all : ((entries.map build).map Element.normal).filter (fun e => decide (e.tag = wanted)) =
      (entries.map build).map Element.normal := by
    refine List.filter_eq_self.mpr (fun e member => decide_eq_true ?_)
    obtain ⟨built, inside, rfl⟩ := List.mem_map.mp member
    obtain ⟨entry, _, rfl⟩ := List.mem_map.mp inside
    exact tagged entry
  rw [List.filter_append, none, all, List.nil_append]

/-- What stands in front of the entries of an Atom feed, as it is read. -/
def atomFront (updated : Instant) (title : String) : List Element :=
  [shownText (atomTag "title") title, shownText (atomTag "subtitle") feedSubtitle,
    linkElement [("href", baseUrl ++ "/feed/vendors"), ("rel", "self")],
    linkElement [("href", baseUrl)], shownText (atomTag "id") "urn:reliastra:feed:vendors",
    shownText (atomTag "updated") (atomTime updated)]

theorem atomTree_children (entries : List Entry) (updated : Instant) (title : String) :
    (atomTree entries updated title).normal.inner.elements =
      atomFront updated title ++ (entries.map atomEntry).map Element.normal := by
  unfold atomTree
  rw [elements_normal]
  simp only [List.map_cons, normal_shown, normal_link]
  rfl

theorem readAtom_normal (entries : List Entry) (updated : Instant) (title : String) :
    readAtom (atomTree entries updated title).normal = entries.map atomShown := by
  have others : ∀ e ∈ atomFront updated title, e.tag ≠ atomTag "entry" := by
    intro e member
    simp only [atomFront, List.mem_cons, List.not_mem_nil, or_false] at member
    rcases member with rfl | rfl | rfl | rfl | rfl | rfl <;> simp [atomTag_inj]
  unfold readAtom
  have tagged (e : Entry) : (atomEntry e).tag = atomTag "entry" := rfl
  rw [atomTree_children, pick_entries tagged others, List.map_map, List.map_map]
  exact List.map_congr_left (fun e _ => readAtomEntry_normal e)

/-- What stands in front of the items of an RSS channel, as it is read. -/
def rssFront (updated : Instant) : List Element :=
  [shownText (rssTag "title") feedTitle, shownText (rssTag "description") feedSubtitle,
    shownText (rssTag "link") baseUrl, shownText (rssTag "language") "en-us",
    shownText (rssTag "lastBuildDate") (rssTime updated),
    shownText (rssTag "generator") "Reliastra Feed Generator"]

theorem rssTree_children (entries : List Entry) (updated : Instant) :
    (rssTree entries updated).normal.inner.elements = [(rssChannel entries updated).normal] := by
  unfold rssTree
  rw [elements_normal]
  rfl

theorem rssChannel_children (entries : List Entry) (updated : Instant) :
    (rssChannel entries updated).normal.inner.elements =
      rssFront updated ++ (entries.map rssItem).map Element.normal := by
  unfold rssChannel
  rw [elements_normal]
  simp only [List.map_cons, normal_shown]
  rfl

theorem rssChannel_tag (entries : List Entry) (updated : Instant) :
    (rssChannel entries updated).normal.tag = rssTag "channel" := rfl

theorem rssTree_channels (entries : List Entry) (updated : Instant) :
    (rssTree entries updated).normal.inner.elements.filter
        (fun e => decide (e.tag = rssTag "channel")) = [(rssChannel entries updated).normal] := by
  rw [rssTree_children]
  simp [rssChannel_tag]

theorem readRss_normal (entries : List Entry) (updated : Instant) :
    readRss (rssTree entries updated).normal = entries.map rssShown := by
  have others : ∀ e ∈ rssFront updated, e.tag ≠ rssTag "item" := by
    intro e member
    simp only [rssFront, List.mem_cons, List.not_mem_nil, or_false] at member
    rcases member with rfl | rfl | rfl | rfl | rfl | rfl <;> simp [rssTag_inj]
  have tagged (e : Entry) : (rssItem e).tag = rssTag "item" := rfl
  unfold readRss
  rw [rssTree_channels, List.flatMap_singleton, rssChannel_children, pick_entries tagged others,
    List.map_map, List.map_map]
  exact List.map_congr_left (fun e _ => readRssItem_normal e)

/-! ## The time of the newest entry -/

theorem textOf_shown (tag : Tag) {text : String} (plain : printed text = true)
    (nonempty : text ≠ "") : textOf (some (shownText tag text)) = some text.toList := by
  have shown : (shownText tag text).text = text.toList := lines_of_printed plain
  unfold textOf
  rw [Option.map_some, shown]
  exact Option.filter_some_pos (by simpa using nonempty)

theorem append_ne_empty {first second : String} (some : second ≠ "") : first ++ second ≠ "" := by
  intro none
  have lists := congrArg String.toList none
  rw [String.toList_append] at lists
  exact some (String.toList_eq_nil_iff.mp (List.append_eq_nil_iff.mp lists).2)

theorem atomTime_ne_empty (moment : Instant) : atomTime moment ≠ "" :=
  append_ne_empty (by decide)

theorem rssTime_ne_empty (moment : Instant) : rssTime moment ≠ "" :=
  append_ne_empty (by decide)

/-- The children of an Atom feed with the tag `updated`: the first is the feed's. -/
theorem find_atomUpdated (entries : List Entry) (updated : Instant) (title : String) :
    (atomTree entries updated title).normal.inner.find (atomTag "updated") =
      some (shownText (atomTag "updated") (atomTime updated)) := by
  unfold Content.find
  rw [atomTree_children]
  simp only [atomFront, List.cons_append, find_element, shownText_tag, linkElement_tag, atomTag_inj]
  simp

theorem find_rssUpdated (entries : List Entry) (updated : Instant) :
    (rssTree entries updated).normal.inner.find (atomTag "updated") = none ∧
      findLastBuild (rssTree entries updated).normal =
        some (shownText (rssTag "lastBuildDate") (rssTime updated)) := by
  constructor
  · unfold Content.find
    rw [rssTree_children, find_element, rssChannel_tag, if_neg (atomTag_ne_rssTag _ _).symm]
    rfl
  · unfold findLastBuild
    rw [rssTree_channels, List.findSome?_cons]
    unfold Content.find
    rw [rssChannel_children]
    simp only [rssFront, List.cons_append, find_element, shownText_tag, rssTag_inj]
    simp

/-! ## The documents -/

theorem atom_read_back (entries : List Entry) (updated : Instant) (title : String) :
    (fromText (atomTree entries updated title).toText).map readAtom =
        (if xmlText title && entries.all legalEntry then some (entries.map atomShown) else none) ∧
      ∀ now, getLastModified (atomTree entries updated title).toText now =
        if xmlText title && entries.all legalEntry then atomTime updated else rssTime now := by
  unfold getLastModified
  rw [fromText_toText (formed_atomTree entries updated title), legal_atomTree]
  by_cases legal : (xmlText title && entries.all legalEntry) = true
  · simp only [if_pos legal, Option.map_some, readAtom_normal, Option.bind_some, find_atomUpdated,
      textOf_shown _ (printed_atomTime updated) (atomTime_ne_empty updated), Option.some_or,
      String.ofList_toList, implies_true, and_self]
  · simp only [if_neg legal, Option.map_none, Option.bind_none, implies_true, and_self]

theorem rss_read_back (entries : List Entry) (updated : Instant) :
    (fromText (rssTree entries updated).toText).map readRss =
        (if entries.all legalEntry then some (entries.map rssShown) else none) ∧
      ∀ now, getLastModified (rssTree entries updated).toText now =
        if entries.all legalEntry then rssTime updated else rssTime now := by
  obtain ⟨noUpdated, lastBuild⟩ := find_rssUpdated entries updated
  unfold getLastModified
  rw [fromText_toText (formed_rssTree entries updated), legal_rssTree]
  by_cases legal : entries.all legalEntry = true
  · have missing : textOf none = none := rfl
    simp only [if_pos legal, Option.map_some, readRss_normal, Option.bind_some, noUpdated, lastBuild,
      missing, Option.none_or, textOf_shown _ (printed_rssTime updated) (rssTime_ne_empty updated),
      String.ofList_toList, implies_true, and_self]
  · simp only [if_neg legal, Option.map_none, Option.bind_none, implies_true, and_self]

/-! ## The entries of the vendors -/

/-- Every text of a vendor that goes into a feed is one that XML takes. -/
def LegalVendor (printed : Unawaited) (vendor : FeedVendor) : Prop :=
  xmlText vendor.displayName = true ∧ xmlText vendor.vendorName = true ∧
    xmlText vendor.category = true ∧ xmlText printed.status = true ∧ xmlText printed.latency = true

theorem legal_vendorEntry (printed : Unawaited) (vendor : FeedVendor) :
    legalEntry (vendorEntry printed vendor) = true ↔ LegalVendor printed vendor := by
  have own : xmlText ": " = true ∧ xmlText " (latency: " = true ∧ xmlText "ms)" = true ∧
      xmlText "urn:reliastra:vendor:" = true ∧ xmlText baseUrl = true ∧
      xmlText "/vendors/" = true ∧ xmlText "Status: " = true ∧ xmlText ". Category: " = true ∧
      xmlText ". Last checked: " = true ∧ xmlText "." = true := by decide
  have time := xmlText_of_printed (printed_isoformat vendor.latestTs)
  simp only [legalEntry, vendorEntry, xmlText_append, own, time, LegalVendor, Bool.true_and,
    Bool.and_true, Bool.and_eq_true]
  constructor
  · rintro ⟨⟨⟨⟨⟨display, status⟩, latency⟩, name⟩, _⟩, _, category⟩
    exact ⟨display, name, category, status, latency⟩
  · rintro ⟨display, name, category, status, latency⟩
    exact ⟨⟨⟨⟨⟨display, status⟩, latency⟩, name⟩, name⟩, status, category⟩

/-- What a reader of a format gets for an entry, and of a document. -/
def shownEntry (key : FeedKey) (e : Entry) : ReadEntry :=
  if key.formatType = "rss" then rssShown e else atomShown e

def readFeed (key : FeedKey) (root : Element) : List ReadEntry :=
  if key.formatType = "rss" then readRss root else readAtom root

def feedTime (key : FeedKey) (updated : Instant) : String :=
  if key.formatType = "rss" then rssTime updated else atomTime updated

section Feed
variable {α : Type} [LinearOrder α] {collation : Collation α} (order : NameOrder collation)

theorem feed_read_back (key : FeedKey) (queried formatted : FeedWorld) :
    (fromText (vendorFeed order key queried formatted)).map (readFeed key) =
        (if (feedEntries order key.category queried formatted).all legalEntry then
          some ((feedEntries order key.category queried formatted).map (shownEntry key))
        else none) ∧
      ∀ now, getLastModified (vendorFeed order key queried formatted) now =
        if (feedEntries order key.category queried formatted).all legalEntry then
          feedTime key (lastUpdated formatted.now (feedEntries order key.category queried formatted))
        else rssTime now := by
  have title : xmlText feedTitle = true := by decide
  unfold vendorFeed
  dsimp only
  by_cases rss : key.formatType = "rss"
  · rw [if_pos rss]
    have back := rss_read_back (feedEntries order key.category queried formatted)
      (lastUpdated formatted.now (feedEntries order key.category queried formatted))
    have reader : readFeed key = readRss := by
      funext root
      exact if_pos rss
    have shown : shownEntry key = rssShown := by
      funext e
      exact if_pos rss
    rw [reader, shown, feedTime, if_pos rss]
    exact back
  · rw [if_neg rss]
    have back := atom_read_back (feedEntries order key.category queried formatted)
      (lastUpdated formatted.now (feedEntries order key.category queried formatted)) feedTitle
    have reader : readFeed key = readAtom := by
      funext root
      exact if_neg rss
    have shown : shownEntry key = atomShown := by
      funext e
      exact if_neg rss
    rw [title, Bool.true_and] at back
    rw [reader, shown, feedTime, if_neg rss]
    exact back

theorem legal_feedEntries (category : Option String) (queried formatted : FeedWorld) :
    (feedEntries order category queried formatted).all legalEntry = true ↔
      ∀ vendor ∈ queried.vendors, InFeed category vendor →
        LegalVendor (formatted.printed vendor.id) vendor := by
  unfold feedEntries
  rw [List.all_eq_true]
  constructor
  · intro all vendor member inFeed
    refine (legal_vendorEntry _ _).mp (all _ (List.mem_map.mpr ⟨vendor, ?_, rfl⟩))
    rw [(order.perm _).mem_iff, List.mem_filter]
    exact ⟨member, decide_eq_true inFeed⟩
  · intro all e member
    obtain ⟨vendor, place, rfl⟩ := List.mem_map.mp member
    rw [(order.perm _).mem_iff, List.mem_filter] at place
    exact (legal_vendorEntry _ _).mpr (all vendor place.1 (of_decide_eq_true place.2))

/-- The feed has one entry for each vendor in it. -/
theorem feedEntries_perm (category : Option String) (queried formatted : FeedWorld) :
    (feedEntries order category queried formatted).Perm
      ((queried.vendors.filter (fun vendor => decide (InFeed category vendor))).map
        (fun vendor => vendorEntry (formatted.printed vendor.id) vendor)) :=
  (order.perm _).map _

theorem foldl_max (entries : List Entry) (first : Instant) :
    first ≤ entries.foldl (fun latest e => max latest e.updated) first ∧
      ∀ e ∈ entries, e.updated ≤ entries.foldl (fun latest e => max latest e.updated) first := by
  induction entries generalizing first with
  | nil => exact ⟨le_rfl, fun _ member => (by cases member)⟩
  | cons e rest ih =>
    obtain ⟨above, others⟩ := ih (max first e.updated)
    refine ⟨le_trans (le_max_left _ _) above, ?_⟩
    intro other member
    rcases List.mem_cons.mp member with rfl | later
    · exact le_trans (le_max_right _ _) above
    · exact others other later

/-- No entry is newer than the time of the feed. -/
theorem le_lastUpdated (now : Instant) {entries : List Entry} {e : Entry} (member : e ∈ entries) :
    e.updated ≤ lastUpdated now entries := by
  cases entries with
  | nil => cases member
  | cons first rest =>
    rcases List.mem_cons.mp member with rfl | later
    · exact (foldl_max rest _).1
    · exact (foldl_max rest _).2 e later

end Feed

/-- Whatever the vendors are called, an XML reader gets one entry for each vendor of the
feed with the vendor's own texts, in the order of their names, and no other; and
`get_last_modified` names a time that no entry is newer than. If one of the vendors has a
character that XML forbids, nothing can be read, and the document is always modified now. -/
theorem vendor_feed_documents {α : Type} [LinearOrder α] {collation : Collation α}
    (order : NameOrder collation) (key : FeedKey) (queried formatted : FeedWorld) :
    let legal := ∀ vendor ∈ queried.vendors, InFeed key.category vendor →
      LegalVendor (formatted.printed vendor.id) vendor
    (legal → ∃ (root : Element) (vendors : List FeedVendor) (updated : Instant),
      fromText (vendorFeed order key queried formatted) = some root ∧
        vendors.Perm (queried.vendors.filter (fun v => decide (InFeed key.category v))) ∧
        vendors.Pairwise (fun first second =>
          collation.sortKey first.displayName ≤ collation.sortKey second.displayName) ∧
        readFeed key root = vendors.map (fun v =>
          shownEntry key (vendorEntry (formatted.printed v.id) v)) ∧
        (∀ vendor ∈ vendors, vendor.latestTs ≤ updated) ∧
        ∀ now, getLastModified (vendorFeed order key queried formatted) now = feedTime key updated) ∧
    (¬ legal → fromText (vendorFeed order key queried formatted) = none ∧
      ∀ now, getLastModified (vendorFeed order key queried formatted) now = rssTime now) := by
  intro legal
  obtain ⟨read, modified⟩ := feed_read_back order key queried formatted
  have exact_ := legal_feedEntries order key.category queried formatted
  constructor
  · intro all
    rw [if_pos (exact_.mpr all)] at read
    obtain ⟨root, parsed, entries⟩ := Option.map_eq_some_iff.mp read
    refine ⟨root, order.arrange (queried.vendors.filter (fun v => decide (InFeed key.category v))),
      lastUpdated formatted.now (feedEntries order key.category queried formatted), parsed,
      order.perm _, order.sorted _, ?_, ?_, ?_⟩
    · rw [entries, feedEntries, List.map_map]
      rfl
    · intro vendor member
      exact le_lastUpdated formatted.now (List.mem_map.mpr ⟨vendor, member, rfl⟩ :
        vendorEntry (formatted.printed vendor.id) vendor ∈ feedEntries order _ queried formatted)
    · intro now
      rw [modified now, if_pos (exact_.mpr all)]
  · intro some
    have not : ¬ (feedEntries order key.category queried formatted).all legalEntry = true :=
      fun all => some (exact_.mp all)
    rw [if_neg not] at read
    refine ⟨Option.map_eq_none_iff.mp read, fun now => ?_⟩
    rw [modified now, if_neg not]

/-! ## Cached feeds and conditional requests -/

section Cache
variable {α : Type} [LinearOrder α] {collation : Collation α} (order : NameOrder collation)

/-- The two readings of the world outside that a feed is made of. -/
theorem made_vendorFeed {ι : Type} [DecidableEq ι]
    {start : TimedCache.Requests FeedKey FeedWorld FeedWorld (List Char) ι}
    {run : List (ι × TimedCache.Act FeedKey FeedWorld)} {key : FeedKey} {stamp : Int}
    {xml : List Char} (made : TimedCache.Made (feedRecipe order) start run key stamp xml) :
    ∃ queried formatted, xml = vendorFeed order key queried formatted ∧
      TimedCache.Began (feedRecipe order) start run key stamp [id, id] [queried, formatted] := by
  obtain ⟨results, rfl, began⟩ := made
  obtain ⟨queried, formatted, rfl⟩ := List.length_eq_two.mp began.length
  exact ⟨queried, formatted, rfl, began⟩

/-- The document a caller has after an answer, with the one it held before. -/
def callerDocument (held : Option (List Char)) (response : FeedResponse) : Option (List Char) :=
  if response.statusCode = 304 then held else response.content

theorem callerDocument_etag (sha256Hex : String → String) (mediaType : String) (xml : List Char)
    (held : Option (List Char)) (now : Instant) :
    ∃ document, callerDocument held
        (feedResponse sha256Hex mediaType xml (held.map (getEtag sha256Hex)) now) = some document ∧
      getEtag sha256Hex document = getEtag sha256Hex xml := by
  unfold feedResponse
  dsimp only
  by_cases same : held.map (getEtag sha256Hex) = some (getEtag sha256Hex xml)
  · rw [if_pos same]
    obtain ⟨document, rfl, tag⟩ := Option.map_eq_some_iff.mp same
    exact ⟨document, rfl, tag⟩
  · rw [if_neg same]
    exact ⟨xml, rfl, rfl⟩

end Cache

def byCodePoint : Collation String := ⟨id, Function.injective_id⟩

def nameOrder : NameOrder byCodePoint where
  arrange rows := rows.insertionSort (fun first second => first.displayName ≤ second.displayName)
  perm rows := List.perm_insertionSort _ rows
  sorted rows := List.pairwise_insertionSort (fun first second : FeedVendor =>
    first.displayName ≤ second.displayName) rows

def someVendor : FeedVendor where
  id := 1
  vendorName := "acme"
  displayName := "Acme <Cloud>"
  endpointUrl := "https://acme.test"
  category := "cloud"
  isPublic := true
  lastCheckAt := none
  updatedAt := 0

def someWorld : FeedWorld := ⟨[someVendor], 0, fun _ => ⟨"<coroutine>", "<coroutine>"⟩⟩

def someKey : FeedKey := ⟨"atom", none⟩

/-- A request that finds the cache empty. -/
def someRun : List (Nat × TimedCache.Act FeedKey FeedWorld) :=
  [(0, .ask someKey 7), (0, .observe), (0, .observe), (0, .store)]

end Reliastra.Guarantees.VendorFeeds
