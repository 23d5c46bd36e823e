import Reliastra.Library.Dictionaries
import Reliastra.Source.Webhooks.Senders

/-!
# Webhook signatures

A receiver looks for a header without regard to the case of its name. The three
senders write an event, a delivery and, where there is a secret, a signature header,
and then assign the custom headers of the webhook one by one, as keys of the same
dictionary. A key spelled as the program spells it replaces the program's value, any
other spelling adds a second line, and an empty secret signs nothing.
-/

namespace Reliastra.Guarantees

open Reliastra.Library Reliastra.Source Webhooks

/-! ## The lines of a request -/

def SameName (first second : String) : Prop := Text.lower first = Text.lower second

instance (first second : String) : Decidable (SameName first second) :=
  inferInstanceAs (Decidable (_ = _))

def linesNamed (name : String) (headers : List (String × String)) : List (String × String) :=
  headers.filter (fun line => SameName line.1 name)

def eventLine (message : Message) : String × String := ("X-Reliastra-Event", message.eventType)

def deliveryLine (lib : WebhookLibrary) (message : Message) : String × String :=
  ("X-Reliastra-Delivery", lib.uuidText message.deliveryId)

def signatureLine (lib : WebhookLibrary) (secret body : String) : String × String :=
  ("X-Reliastra-Signature", "sha256=" ++ lib.hmacSha256Hex secret body)

/-- One line has this name, and it has this value. -/
def CarriesOnly (line : String × String) (headers : List (String × String)) : Prop :=
  (linesNamed line.1 headers).map Prod.snd = [line.2]

/-- What a receiver that knows the secret can rely on. -/
structure Authentic (lib : WebhookLibrary) (secret : String) (message : Message) (post : Post) :
    Prop where
  signature : CarriesOnly (signatureLine lib secret post.content) post.headers
  event : CarriesOnly (eventLine message) post.headers
  delivery : CarriesOnly (deliveryLine lib message) post.headers

/-! ## What is asked of the custom headers -/

/-- A custom header of this name says the same once more. -/
def Repeats (line : String × String) (custom : List (String × String)) : Prop :=
  ∀ entry ∈ custom, SameName entry.1 line.1 → entry = line

structure LeavesLines (lib : WebhookLibrary) (secret : String) (message : Message)
    (custom : List (String × String)) : Prop where
  event : Repeats (eventLine message) custom
  delivery : Repeats (deliveryLine lib message) custom
  /-- The program signs. -/
  signed : secret ≠ "" → Repeats (signatureLine lib secret (lib.dumps message.payload)) custom
  /-- It does not, and the only signature is a custom header. -/
  unsigned : secret = "" →
    CarriesOnly (signatureLine lib secret (lib.dumps message.payload)) custom

def programNames : List String :=
  ["X-Reliastra-Event", "X-Reliastra-Delivery", "X-Reliastra-Signature"]

/-- Names of their own and a secret are enough, whatever the message is. -/
theorem leavesLines_of_apart (lib : WebhookLibrary) (message : Message) {secret : String}
    {custom : List (String × String)} (present : secret ≠ "")
    (apart : ∀ entry ∈ custom, ∀ name ∈ programNames, ¬ SameName entry.1 name) :
    LeavesLines lib secret message custom where
  event entry member same := absurd same (apart entry member _ (by simp [programNames, eventLine]))
  delivery entry member same :=
    absurd same (apart entry member _ (by simp [programNames, deliveryLine]))
  signed _ entry member same :=
    absurd same (apart entry member _ (by simp [programNames, signatureLine]))
  unsigned empty := absurd empty present

/-! ## One line among the custom headers -/

section Lines
variable {base custom : List (String × String)} {line : String × String}

theorem setHeader_eq_assign : setHeader = Dictionaries.assign := by
  funext headers entry
  have present : headers.any (fun h => h.1 = entry.1) = true ↔ entry.1 ∈ headers.map Prod.fst := by
    rw [List.any_eq_true, List.mem_map]
    simp
  unfold setHeader Dictionaries.assign
  simp only [present]

theorem nodup_linesNamed (distinct : (custom.map Prod.fst).Nodup) (name : String) :
    ((linesNamed name custom).map Prod.fst).Nodup :=
  distinct.sublist ((List.filter_sublist).map Prod.fst)

theorem linesNamed_foldl (name : String) (base custom : List (String × String)) :
    linesNamed name (custom.foldl setHeader base) =
      (linesNamed name custom).foldl Dictionaries.assign (linesNamed name base) := by
  rw [setHeader_eq_assign]
  exact Dictionaries.filter_foldl_assign (fun other => decide (SameName other name)) base custom

/-- A line the program has written stays the only one of its name exactly when every
custom header of that name repeats it. -/
theorem carriesOnly_iff_repeats (distinct : (custom.map Prod.fst).Nodup)
    (own : linesNamed line.1 base = [line]) :
    CarriesOnly line (custom.foldl setHeader base) ↔ Repeats line custom := by
  have members : Repeats line custom ↔ ∀ entry ∈ linesNamed line.1 custom, entry = line := by
    simp [Repeats, linesNamed]
  unfold CarriesOnly
  rw [linesNamed_foldl, own, members]
  constructor
  · intro carries entry member
    obtain ⟨only, single, value⟩ := List.map_eq_singleton_iff.mp carries
    have name : line.1 ∈
        ((linesNamed line.1 custom).foldl Dictionaries.assign [line]).map Prod.fst :=
      Dictionaries.key_mem_foldl_assign (by simp) _
    have kept : entry ∈ (linesNamed line.1 custom).foldl Dictionaries.assign [line] :=
      Dictionaries.mem_foldl_assign (nodup_linesNamed distinct line.1) member
    rw [single] at name kept
    rw [List.mem_singleton.mp kept]
    exact Prod.ext (List.mem_singleton.mp name).symm value
  · intro all
    rw [Dictionaries.foldl_assign_same all]
    rfl

/-- A line the program has not written is there exactly when a custom header is it. -/
theorem carriesOnly_iff_custom (distinct : (custom.map Prod.fst).Nodup)
    (none : linesNamed line.1 base = []) :
    CarriesOnly line (custom.foldl setHeader base) ↔ CarriesOnly line custom := by
  unfold CarriesOnly
  rw [linesNamed_foldl, none,
    Dictionaries.foldl_assign_new (nodup_linesNamed distinct line.1), List.nil_append]

end Lines

/-! ## What the program writes itself -/

section Program
variable {lib : WebhookLibrary}

def programHeaders (lib : WebhookLibrary) (secret : String) (message : Message) :
    List (String × String) :=
  [("Content-Type", "application/json"), eventLine message, deliveryLine lib message] ++
    if secret = "" then [] else [signatureLine lib secret (lib.dumps message.payload)]

/-- Headers whose names differ in more than case. -/
theorem linesNamed_of_distinct {headers : List (String × String)} {line : String × String}
    (distinct : (headers.map (fun h => Text.lower h.1)).Nodup) (member : line ∈ headers) :
    linesNamed line.1 headers = [line] := by
  unfold linesNamed
  induction headers with
  | nil => cases member
  | cons first rest ih =>
    rw [List.map_cons, List.nodup_cons] at distinct
    cases List.mem_cons.mp member with
    | inl here =>
      subst here
      have none : rest.filter (fun h => SameName h.1 line.1) = [] := by
        rw [List.filter_eq_nil_iff]
        intro other there same
        exact distinct.1 (List.mem_map.mpr ⟨other, there, of_decide_eq_true same⟩)
      rw [List.filter_cons_of_pos (by simp [SameName]), none]
    | inr there =>
      have other : ¬ SameName first.1 line.1 := by
        intro same
        exact distinct.1 (List.mem_map.mpr ⟨line, there, same.symm⟩)
      rw [List.filter_cons_of_neg (by simpa using other)]
      exact ih distinct.2 there

theorem programHeaders_distinct (secret : String) (message : Message) :
    ((programHeaders lib secret message).map (fun h => Text.lower h.1)).Nodup := by
  have names : (["Content-Type", "X-Reliastra-Event", "X-Reliastra-Delivery",
      "X-Reliastra-Signature"].map Text.lower).Nodup := by decide
  unfold programHeaders
  split
  · exact names.sublist (List.sublist_append_left _ [Text.lower "X-Reliastra-Signature"])
  · exact names

theorem programHeaders_unsigned (message : Message) :
    linesNamed "X-Reliastra-Signature" (programHeaders lib "" message) = [] := by
  have names : ∀ name ∈ ["Content-Type", "X-Reliastra-Event", "X-Reliastra-Delivery"],
      ¬ SameName name "X-Reliastra-Signature" := by decide
  unfold linesNamed
  rw [List.filter_eq_nil_iff]
  intro line member same
  refine names line.1 ?_ (of_decide_eq_true same)
  exact List.mem_map_of_mem (f := Prod.fst) member

end Program

/-! ## What each sender hands over -/

section Senders
variable {lib : WebhookLibrary} {webhook : Webhook} {secret : String}

/-- The dictionary before the custom headers, for the signing secret. -/
theorem signed_headers (message : Message) :
    (match (some secret).filter (· ≠ "") with
      | none => [("Content-Type", "application/json"), eventLine message, deliveryLine lib message]
      | some key => setHeader
        [("Content-Type", "application/json"), eventLine message, deliveryLine lib message]
        (signatureLine lib key (lib.dumps message.payload))) =
      programHeaders lib secret message := by
  unfold programHeaders
  by_cases empty : secret = ""
  · have dropped : (some secret).filter (· ≠ "") = none := by simp [empty]
    rw [dropped, if_pos empty]
    rfl
  · have kept : (some secret).filter (· ≠ "") = some secret := by simp [empty]
    rw [kept, if_neg empty]
    simp [setHeader, eventLine, deliveryLine, signatureLine]

theorem postOf_headers (delivery : WebhookDelivery) :
    (postOf lib webhook delivery (some secret)).headers =
      (webhook.customHeaders.getD []).foldl setHeader
        (programHeaders lib secret (messageOf delivery)) := by
  rw [← signed_headers]
  rfl

theorem testPost_headers (event : String) (draw : TestDraw) :
    (testPost lib webhook event draw (some secret)).headers =
      (webhook.customHeaders.getD []).foldl setHeader
        (programHeaders lib secret ⟨event, draw.deliveryId, testPayload lib event draw⟩) := by
  rw [← signed_headers]
  rfl

/-- The three senders build one request: the body is the payload, and the custom
headers are assigned after the program's. -/
theorem Sends.request {message : Message} {post : Post} (sends : Sends lib webhook message post)
    (recovered : recoverSigningSecret lib webhook = .ok (some secret)) :
    post.content = lib.dumps message.payload ∧
      post.headers =
        (webhook.customHeaders.getD []).foldl setHeader (programHeaders lib secret message) := by
  have requests (delivery : WebhookDelivery) :
      (requestOf lib webhook delivery).toOption.toList =
        [postOf lib webhook delivery (some secret)] := by
    rw [requestOf, recovered]
    rfl
  have same {s : WebhookStore} {made : Post} (written : s.posts ++ [made] = s.posts ++ [post]) :
      made = post := by simpa using written
  cases sends with
  | @first net draw eventType payload s _ turn =>
    have made := deliverSingle_requests lib net draw eventType payload s webhook
    rw [turn] at made
    cases made with
    | inl none => simp at none
    | inr sent =>
      rw [requests] at sent
      rw [← same sent.symm]
      exact ⟨rfl, postOf_headers _⟩
  | @retry net s delivery _ live turn =>
    have made := retryDelivery_requests lib net s delivery
    rw [turn] at made
    cases made with
    | inl none => simp at none
    | inr sent =>
      obtain ⟨other, found, sent⟩ := sent
      obtain rfl := Option.some.inj (live.symm.trans found)
      rw [requests] at sent
      rw [← same sent.symm]
      exact ⟨rfl, postOf_headers _⟩
  | @test validateOutboundUrl net draw s orgId webhookId event _ stored turn =>
    have made := testWebhook_requests lib validateOutboundUrl net draw s orgId webhookId event
    rw [turn] at made
    cases made with
    | inl none => simp at none
    | inr sent =>
      obtain ⟨other, signingSecret, found, plain, sent⟩ := sent
      obtain rfl := Option.some.inj (stored.symm.trans found)
      obtain rfl := Except.ok.inj (recovered.symm.trans plain)
      rw [← same sent.symm]
      exact ⟨rfl, testPost_headers _ _⟩

end Senders

/-- A request for a webhook of the service is authentic exactly when the custom headers
leave the lines of the program alone. -/
theorem webhook_signatures_iff (lib : WebhookLibrary) {row : Api.Webhook} {secret : String}
    {webhook : Webhook} {message : Message} {post : Post} (configured : Configured lib row secret)
    (stored : StoredAs row webhook) (sends : Sends lib webhook message post) :
    Authentic lib secret message post ↔
      LeavesLines lib secret message (webhook.customHeaders.getD []) := by
  have recovered := recoverSigningSecret_configured configured stored
  obtain ⟨content, headers⟩ := Sends.request sends recovered
  have own {line : String × String} (member : line ∈ programHeaders lib secret message) :
      CarriesOnly line post.headers ↔ Repeats line (webhook.customHeaders.getD []) := by
    rw [headers]
    exact carriesOnly_iff_repeats stored.distinct
      (linesNamed_of_distinct (programHeaders_distinct secret message) member)
  have event : CarriesOnly (eventLine message) post.headers ↔ _ :=
    own (by simp [programHeaders])
  have delivery : CarriesOnly (deliveryLine lib message) post.headers ↔ _ :=
    own (by simp [programHeaders])
  have signed (present : secret ≠ "") :
      CarriesOnly (signatureLine lib secret post.content) post.headers ↔
        Repeats (signatureLine lib secret (lib.dumps message.payload))
          (webhook.customHeaders.getD []) := by
    rw [content]
    exact own (by simp [programHeaders, present])
  have unsigned (empty : secret = "") :
      CarriesOnly (signatureLine lib secret post.content) post.headers ↔
        CarriesOnly (signatureLine lib secret (lib.dumps message.payload))
          (webhook.customHeaders.getD []) := by
    rw [content, headers]
    refine carriesOnly_iff_custom stored.distinct ?_
    rw [empty]
    exact programHeaders_unsigned message
  constructor
  · intro authentic
    exact ⟨event.mp authentic.event, delivery.mp authentic.delivery,
      fun present => (signed present).mp authentic.signature,
      fun empty => (unsigned empty).mp authentic.signature⟩
  · intro leaves
    refine ⟨?_, event.mpr leaves.event, delivery.mpr leaves.delivery⟩
    by_cases empty : secret = ""
    · exact (unsigned empty).mpr (leaves.unsigned empty)
    · exact (signed empty).mpr (leaves.signed empty)

/-! ## One webhook -/

def pagerServer : Api.ServiceEnvironment :=
  { Api.plainServer Api.oneTokenCredentials with
    encryptSecret := fun secret => "gAAAAABl" ++ secret }

def pagerLibrary : WebhookLibrary where
  dumps _ := "\x7b\"event\": \"incident.opened\"\x7d"
  decrypt token :=
    if Text.startsWith token "gAAAAABl" then some (String.ofList (token.toList.drop 8)) else none
  hmacSha256Hex _ _ := "017300c2b7c480b98d0cce386d5bea9100429176cbe8265d97389f481011d342"
  uuidText id := "00000000-0000-0000-0000-" ++ zeroPadded 12 id

theorem pager_key : FernetKey pagerLibrary pagerServer.encryptSecret where
  token secret := by
    simp [pagerServer, Text.startsWith]
  decrypts secret := by
    simp [pagerLibrary, pagerServer, Text.startsWith]

def pagerRequest (headers : List (String × String)) : Api.WebhookCreateRequest where
  name := "Pager"
  url := "https://pager.example/a"
  events := ["incident.opened"]
  headers := some (headerColumn headers)
  secret := some "whsec_7f2c"
  isActive := true

/-- An update of the secret to an empty one. -/
def clearSecret : Api.WebhookUpdateRequest := ⟨none, none, none, none, some "", none⟩

def pagerRow (secret : String) (headers : List (String × String)) : Api.Webhook where
  id := 100
  orgId := 5
  name := "Pager"
  url := "https://pager.example/a"
  events := ["incident.opened"]
  secretHash := some ("gAAAAABl" ++ secret)
  customHeaders := some (headerColumn headers)
  isActive := true
  createdBy := 9
  isDeleted := false

def pagerPlatform (webhooks : Table Api.Webhook.id) : Api.Platform where
  users := .empty
  organizations := ⟨[⟨5, "Acme", "acme", .free, false, 0⟩], by decide⟩
  members := .empty
  apiKeys := .empty
  workspace := ⟨.empty, .empty, .empty, .empty, .empty, .empty, .empty, .empty, .empty, .empty,
    .empty, webhooks, .empty, .empty, .empty, .empty⟩
  community := ⟨.empty, .empty, .empty, .empty, .empty, .empty, .empty⟩
  partners := ⟨.empty, .empty, .empty, .empty⟩

theorem pager_created (headers : List (String × String)) :
    Configured pagerLibrary (pagerRow "whsec_7f2c" headers) "whsec_7f2c" := by
  have created : Api.createWebhook pagerServer 5 9 (pagerRequest headers) (pagerPlatform .empty) =
      .ok (pagerPlatform ⟨[pagerRow "whsec_7f2c" headers], by simp⟩) := rfl
  exact .created pager_key created rfl

theorem pager_cleared (headers : List (String × String)) :
    Configured pagerLibrary (pagerRow "" headers) "" := by
  have cleared : Api.updateWebhook pagerServer 5 100 clearSecret
      (pagerPlatform ⟨[pagerRow "whsec_7f2c" headers], by simp⟩) =
        .ok (pagerPlatform ⟨[pagerRow "" headers], by simp⟩) := rfl
  exact .renewed pager_key cleared rfl rfl

def pagerWebhook (secret : String) (headers : List (String × String)) : Webhook where
  id := 100
  orgId := 5
  url := "https://pager.example/a"
  events := ["incident.opened"]
  secretHash := some ("gAAAAABl" ++ secret)
  customHeaders := some headers
  isActive := true
  isDeleted := false
  lastDeliveryAt := none
  failureCount := 0
  createdAt := 0

theorem pager_stored (secret : String) {headers : List (String × String)}
    (distinct : (headers.map Prod.fst).Nodup) :
    StoredAs (pagerRow secret headers) (pagerWebhook secret headers) :=
  ⟨rfl, rfl, rfl, rfl, rfl, rfl, distinct, rfl, rfl⟩

def pagerMessage : Message :=
  ⟨"incident.opened", 30, .obj [("event", .str "incident.opened")]⟩

/-- The first delivery of the message. -/
def pagerPost (secret : String) (headers : List (String × String)) : Post :=
  postOf pagerLibrary (pagerWebhook secret headers)
    (newDelivery (pagerWebhook secret headers) pagerMessage.eventType pagerMessage.payload ⟨30, 0⟩)
    (some secret)

theorem pager_sends {secret : String} {headers : List (String × String)}
    (configured : Configured pagerLibrary (pagerRow secret headers) secret)
    (distinct : (headers.map Prod.fst).Nodup) :
    Sends pagerLibrary (pagerWebhook secret headers) pagerMessage (pagerPost secret headers) := by
  let s : WebhookStore := ⟨⟨[pagerWebhook secret headers], by simp⟩, .empty, []⟩
  have fresh : Fresh s 30 := ⟨rfl, fun _ sent => by cases sent⟩
  exact sends_first (fun _ => ⟨.response 200 "", 0⟩) (fun _ => ⟨30, 0⟩) _ _ fresh
    (recoverSigningSecret_configured configured (pager_stored secret distinct))

theorem webhook_signatures_iff_plain :
    Authentic pagerLibrary "whsec_7f2c" pagerMessage
      (pagerPost "whsec_7f2c" [("X-Team", "ops")]) := by
  have distinct : ([("X-Team", "ops")].map Prod.fst).Nodup := by decide
  refine (webhook_signatures_iff pagerLibrary (pager_created [("X-Team", "ops")])
    (pager_stored _ distinct) (pager_sends (pager_created _) distinct)).mpr ?_
  exact leavesLines_of_apart pagerLibrary pagerMessage (by decide) (by decide)

/-- Every request for this webhook is authentic. -/
def AlwaysAuthentic (lib : WebhookLibrary) (row : Api.Webhook) (secret : String)
    (webhook : Webhook) : Prop :=
  Configured lib row secret → StoredAs row webhook → ∀ message post,
    Sends lib webhook message post → Authentic lib secret message post

/-- A second signature in lower case, another event, and a secret set to nothing. -/
theorem webhook_signatures_not_always :
    ¬ AlwaysAuthentic pagerLibrary
      (pagerRow "whsec_7f2c" [("x-reliastra-signature", "sha256=00")]) "whsec_7f2c"
      (pagerWebhook "whsec_7f2c" [("x-reliastra-signature", "sha256=00")]) ∧
    ¬ AlwaysAuthentic pagerLibrary
      (pagerRow "whsec_7f2c" [("X-Reliastra-Event", "incident.resolved")]) "whsec_7f2c"
      (pagerWebhook "whsec_7f2c" [("X-Reliastra-Event", "incident.resolved")]) ∧
    ¬ AlwaysAuthentic pagerLibrary (pagerRow "" []) "" (pagerWebhook "" []) := by
  have request {secret : String} {headers : List (String × String)}
      (configured : Configured pagerLibrary (pagerRow secret headers) secret)
      (distinct : (headers.map Prod.fst).Nodup)
      (always : AlwaysAuthentic pagerLibrary (pagerRow secret headers) secret
        (pagerWebhook secret headers)) :
      Authentic pagerLibrary secret pagerMessage (pagerPost secret headers) :=
    always configured (pager_stored secret distinct) _ _ (pager_sends configured distinct)
  refine ⟨?_, ?_, ?_⟩
  · intro always
    have authentic := request (pager_created _) (by decide) always
    have two : ¬ CarriesOnly (signatureLine pagerLibrary "whsec_7f2c" (pagerPost "whsec_7f2c"
        [("x-reliastra-signature", "sha256=00")]).content) (pagerPost "whsec_7f2c"
          [("x-reliastra-signature", "sha256=00")]).headers := by
      unfold CarriesOnly
      decide
    exact two authentic.signature
  · intro always
    have authentic := request (pager_created _) (by decide) always
    have other : ¬ CarriesOnly (eventLine pagerMessage) (pagerPost "whsec_7f2c"
        [("X-Reliastra-Event", "incident.resolved")]).headers := by
      unfold CarriesOnly
      decide
    exact other authentic.event
  · intro always
    have authentic := request (pager_cleared _) (by decide) always
    have none : ¬ CarriesOnly (signatureLine pagerLibrary "" (pagerPost "" []).content)
        (pagerPost "" []).headers := by
      unfold CarriesOnly
      decide
    exact none authentic.signature

end Reliastra.Guarantees
