import Reliastra.Source.Core.OutboundRequests

/-!
# Where requests to URLs of tenants go

Six senders post to, or probe, URLs that tenants gave. Two of them never ask the
guard at send time, four ask it and leave the second resolution to the HTTP
client, and one of these also lets the client follow redirects. `guarded_iff` says
for every sender when each of its connections goes to an address that the guard
accepted for that very request and hop: an unguarded request has to connect
nowhere, a guarded one has to be refused or to connect only to what the guard saw,
and after a redirect nowhere.
-/

namespace Reliastra.Guarantees.OutboundGuard

open Reliastra.Source Reliastra.Source.SsrfProtection Reliastra.Source.Outbound

variable {lib : UrlLibrary}

/-- Every connection of the request goes to an address that the guard accepted for
its URL and hop before. -/
def Guarded (trace : List Event) : Prop :=
  ∀ before after hop url address, trace = before ++ .connected hop url address :: after →
    ∃ addresses, .accepted hop url addresses ∈ before ∧ address ∈ addresses

/-- The client connects where the guard looked, or the guard refuses. -/
def SafeRequest (lib : UrlLibrary) (request : OutboundRequest) : Prop :=
  if request.guarded then
    validateOutboundUrl lib request.world.guard request.url = .ok () →
      (∀ address ∈ request.world.connects 0,
        address ∈ guardAddresses lib request.world.guard request.url) ∧
      ∀ hop ∈ request.hops.tail, request.world.connects hop.1 = []
  else ∀ hop ∈ request.hops, request.world.connects hop.1 = []

/-! ## One request -/

theorem hops_eq (request : OutboundRequest) :
    request.hops = (0, request.url) :: request.hops.tail := by
  unfold OutboundRequest.hops visited
  split <;> rfl

theorem visited_hop {world : RequestWorld} {redirects start : Nat} {url : String}
    {hop : Nat × String} (member : hop ∈ (visited world redirects start url).tail) :
    start < hop.1 := by
  induction redirects generalizing start url with
  | zero => simp [visited] at member
  | succ redirects ih =>
    unfold visited at member
    rw [List.tail_cons] at member
    split at member
    · cases member
    · next next _ =>
      have shape : visited world redirects (start + 1) next =
          (start + 1, next) :: (visited world redirects (start + 1) next).tail := by
        cases redirects <;> rfl
      rw [shape] at member
      rcases List.mem_cons.mp member with same | later
      · rw [same]
        omega
      · have := ih later
        omega

theorem connected_mem_iff (request : OutboundRequest) (hop : Nat) (url address : String) :
    .connected hop url address ∈ request.connections ↔
      (hop, url) ∈ request.hops ∧ address ∈ request.world.connects hop := by
  unfold OutboundRequest.connections
  rw [List.mem_flatMap]
  constructor
  · intro ⟨visit, member, connected⟩
    obtain ⟨other, inside, same⟩ := List.mem_map.mp connected
    cases same
    exact ⟨member, inside⟩
  · intro ⟨member, inside⟩
    exact ⟨(hop, url), member, List.mem_map_of_mem inside⟩

theorem not_accepted (request : OutboundRequest) (hop : Nat) (url : String) (addresses : List String) :
    .accepted hop url addresses ∉ request.connections := by
  unfold OutboundRequest.connections
  intro member
  obtain ⟨_, _, accepted⟩ := List.mem_flatMap.mp member
  obtain ⟨_, _, same⟩ := List.mem_map.mp accepted
  cases same

/-- Without the guard a request is guarded only if it connects nowhere. -/
theorem guarded_connections_iff (request : OutboundRequest) :
    Guarded request.connections ↔ ∀ hop ∈ request.hops, request.world.connects hop.1 = [] := by
  constructor
  · intro guarded ⟨hop, url⟩ member
    rw [List.eq_nil_iff_forall_not_mem]
    intro address inside
    obtain ⟨before, after, split⟩ := List.append_of_mem
      ((connected_mem_iff request hop url address).mpr ⟨member, inside⟩)
    obtain ⟨addresses, accepted, _⟩ := guarded before after hop url address split
    apply not_accepted request hop url addresses
    rw [split]
    exact List.mem_append_left _ accepted
  · intro nowhere before after hop url address split
    have member : .connected hop url address ∈ request.connections := by
      rw [split]
      exact List.mem_append_right _ List.mem_cons_self
    obtain ⟨visit, inside⟩ := (connected_mem_iff request hop url address).mp member
    rw [nowhere _ visit] at inside
    cases inside

/-- After the guard a request is guarded only if it connects where the guard looked. -/
theorem guarded_accepted_iff (request : OutboundRequest) (addresses : List String) :
    Guarded (.accepted 0 request.url addresses :: request.connections) ↔
      (∀ address ∈ request.world.connects 0, address ∈ addresses) ∧
        ∀ hop ∈ request.hops.tail, request.world.connects hop.1 = [] := by
  -- the only acceptance a connection can refer to is the first event
  have sees {before after : List Event} {hop : Nat} {url address : String}
      (split : .accepted 0 request.url addresses :: request.connections =
        before ++ .connected hop url address :: after) {others : List String}
      (accepted : .accepted hop url others ∈ before) :
      hop = 0 ∧ url = request.url ∧ others = addresses := by
    have member : .accepted hop url others ∈
        Event.accepted 0 request.url addresses :: request.connections := by
      rw [split]
      exact List.mem_append_left _ accepted
    rcases List.mem_cons.mp member with same | later
    · cases same
      exact ⟨rfl, rfl, rfl⟩
    · exact absurd later (not_accepted request hop url others)
  have place {hop : Nat} {url address : String} (visit : (hop, url) ∈ request.hops)
      (inside : address ∈ request.world.connects hop) :
      ∃ before after, .accepted 0 request.url addresses :: request.connections =
        before ++ .connected hop url address :: after := by
    apply List.append_of_mem
    exact List.mem_cons_of_mem _ ((connected_mem_iff request hop url address).mpr ⟨visit, inside⟩)
  constructor
  · intro guarded
    constructor
    · intro address inside
      have first : (0, request.url) ∈ request.hops := by
        rw [hops_eq]
        exact List.mem_cons_self
      obtain ⟨before, after, split⟩ := place first inside
      obtain ⟨others, accepted, among⟩ := guarded before after 0 request.url address split
      rw [(sees split accepted).2.2] at among
      exact among
    · intro ⟨hop, url⟩ member
      rw [List.eq_nil_iff_forall_not_mem]
      intro address inside
      obtain ⟨before, after, split⟩ := place (List.mem_of_mem_tail member) inside
      obtain ⟨others, accepted, _⟩ := guarded before after hop url address split
      have later := visited_hop member
      have first := (sees split accepted).1
      omega
  · intro ⟨looked, nowhere⟩ before after hop url address split
    cases before with
    | nil => cases split
    | cons first rest =>
      obtain ⟨same, split⟩ := List.cons.inj split
      have member : .connected hop url address ∈ request.connections := by
        rw [split]
        exact List.mem_append_right _ List.mem_cons_self
      obtain ⟨visit, inside⟩ := (connected_mem_iff request hop url address).mp member
      rw [hops_eq] at visit
      rcases List.mem_cons.mp visit with here | later
      · cases here
        exact ⟨addresses, by rw [← same]; exact List.mem_cons_self, looked address inside⟩
      · rw [nowhere _ later] at inside
        cases inside

theorem guarded_trace_iff (request : OutboundRequest) :
    Guarded (request.trace lib) ↔ SafeRequest lib request := by
  unfold OutboundRequest.trace SafeRequest
  split
  · cases answer : validateOutboundUrl lib request.world.guard request.url with
    | error refusal =>
      constructor
      · intro _ accepted
        cases accepted
      · intro _ before after hop url address split
        exact absurd split.symm (List.append_ne_nil_of_right_ne_nil _ (List.cons_ne_nil _ _))
    | ok =>
      simp only [true_implies]
      exact guarded_accepted_iff request _
  · exact guarded_connections_iff request

/-! ## The senders -/

/-- A sender's connections all go to accepted addresses if and only if each of its
requests is safe. -/
theorem guarded_iff (lib : UrlLibrary) (sender : Sender) :
    (∀ request ∈ sender.requests lib, Guarded (request.trace lib)) ↔
      ∀ request ∈ sender.requests lib, SafeRequest lib request := by
  constructor
  · intro guarded request member
    exact (guarded_trace_iff request).mp (guarded request member)
  · intro safe request member
    exact (guarded_trace_iff request).mpr (safe request member)

/-! ## A tenant that answers twice -/

/-- `https://hooks.tenant.example/in` and what the library makes of it. -/
def tenantLibrary : UrlLibrary where
  urlparse _ := .ok ⟨"https", some "hooks.tenant.example", .ok none⟩
  urljoin _ location := .ok location
  inBlockedNetwork text :=
    if text = "169.254.169.254" then .ok true
    else if text = "93.184.216.34" then .ok false
    else .error "ValueError"

def publicAnswer : Resolver := fun _ => .ok ["93.184.216.34"]

/-- The name resolves to a public address for the guard and to the metadata service
for the client. -/
def rebinding : RequestWorld where
  guard := publicAnswer
  connects _ := ["169.254.169.254"]
  redirect _ := none
  escapes := false

/-- The first hop is what it seems, and redirects to the metadata service. -/
def redirecting : RequestWorld where
  guard := publicAnswer
  connects hop := if hop = 0 then ["93.184.216.34"] else ["169.254.169.254"]
  redirect hop := if hop = 0 then some "http://169.254.169.254/latest" else none
  escapes := false

def tenantUrl : String := "https://hooks.tenant.example/in"

def tenantWebhook : Api.Webhook :=
  ⟨1, 2, "hook", tenantUrl, ["incident.opened"], none, none, true, 3, false⟩

theorem tenantUrl_accepted : validateOutboundUrl tenantLibrary publicAnswer tenantUrl = .ok () := by
  decide

/-- A webhook whose URL the guard accepted when it was stored is delivered to the
metadata service; so is an alert, by a second answer, and the probe of a
submission, by a redirect. -/
theorem metadata_service_reached :
    validateOutboundUrl tenantLibrary publicAnswer tenantUrl = .ok () ∧
      (¬ ∀ request ∈ (Sender.delivery (fun _ => rebinding) [tenantWebhook] 2
          "incident.opened").requests tenantLibrary, Guarded (request.trace tenantLibrary)) ∧
      (¬ ∀ request ∈ (Sender.webhook rebinding (.obj [("url", .str tenantUrl)])).requests
          tenantLibrary, Guarded (request.trace tenantLibrary)) ∧
      ¬ ∀ request ∈ (Sender.submission (fun _ => redirecting) (some tenantUrl) []).requests
          tenantLibrary, Guarded (request.trace tenantLibrary) := by
  refine ⟨tenantUrl_accepted, ?_, ?_, ?_⟩
  · intro guarded
    have sent : (⟨false, 0, tenantUrl, rebinding⟩ : OutboundRequest) ∈ (Sender.delivery
        (fun _ => rebinding) [tenantWebhook] 2 "incident.opened").requests tenantLibrary := by
      simp [Sender.requests, deliverWebhook, listActiveForOrgAndEvent, tenantWebhook, deliverEach,
        deliverSingle]
    have safe := (guarded_trace_iff _).mp (guarded _ sent)
    have nowhere := safe (0, tenantUrl) (by simp [OutboundRequest.hops, visited])
    cases nowhere
  · intro guarded
    have sent : (⟨true, 0, tenantUrl, rebinding⟩ : OutboundRequest) ∈
        (Sender.webhook rebinding (.obj [("url", .str tenantUrl)])).requests tenantLibrary := by
      simp [Sender.requests, webhookChannel, sendToConfigured, Json.get, List.lookup_cons, tenantUrl]
    have safe := (guarded_trace_iff _).mp (guarded _ sent)
    have looked := (safe tenantUrl_accepted).1 "169.254.169.254" List.mem_cons_self
    have answered : guardAddresses tenantLibrary publicAnswer tenantUrl = ["93.184.216.34"] := rfl
    change _ ∈ guardAddresses tenantLibrary publicAnswer tenantUrl at looked
    rw [answered] at looked
    simp at looked
  · intro guarded
    have sent : (⟨true, 20, tenantUrl, redirecting⟩ : OutboundRequest) ∈ (Sender.submission
        (fun _ => redirecting) (some tenantUrl) []).requests tenantLibrary := by
      have stated : tenantUrl ≠ "" := by decide
      simp [Sender.requests, submitVendor, Option.filter, stated, validateEach, validateUrl,
        defaultMaxRedirects]
    have safe := (guarded_trace_iff _).mp (guarded _ sent)
    have nowhere := (safe tenantUrl_accepted).2 (1, "http://169.254.169.254/latest") (by
      simp [OutboundRequest.hops, visited, redirecting])
    cases nowhere

end Reliastra.Guarantees.OutboundGuard
