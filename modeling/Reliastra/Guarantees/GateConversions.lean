import Reliastra.Guarantees.Unpublishing
import Reliastra.Source.Evidence.LeadEvents

/-!
# Are the conversions of the gate counted?

`process_gate` marks the lead events of an address as converted before it has logged
its own, and only those without a user; every event it logs has one. So no event is
ever marked: the marks are the accounts the gate created exactly as long as it
creates none, and the reported rate is 0.
-/

namespace Reliastra.Guarantees.GateConversions

open Reliastra.Library Reliastra.Source Reliastra.Source.Api Reliastra.Source.Evidence

/-! ## Histories -/

inductive FunnelOp where
  | visit (env : GateEnvironment) (request : GateVisit) (clientIp : Option String)
  | download (env : GateEnvironment) (token : String)

/-- The store, and the addresses `process_gate` created an account for, which
nothing reads. -/
structure Funnel where
  store : FunnelStore
  created : List String

/-- A failed request is rolled back. -/
def funnelStep (s : Funnel) : FunnelOp → Funnel
  | .visit env request clientIp =>
    match visitGate env request clientIp s.store with
    | .ok (response, after) =>
      ⟨after, if response.accountCreated then s.created ++ [request.email] else s.created⟩
    | .error _ => s
  | .download env token =>
    match countedDownload env token s.store with
    | .ok (_, after) => ⟨after, s.created⟩
    | .error _ => s

/-- Any gate, before the first lead event. -/
def opening (gate : GateStore) : Funnel := ⟨⟨gate, .empty, fun _ => 0, fun _ => 0⟩, []⟩

/-- The addresses with a converted event are those an account was created for. -/
def Marked (s : Funnel) : Prop :=
  ∀ email, (∃ event ∈ s.store.leads.rows, event.email = email ∧ event.convertedToSignup = true) ↔
    email ∈ s.created

def RateInRange (s : Funnel) : Prop := 0 ≤ s.store.conversionRate ∧ s.store.conversionRate ≤ 100

/-- A request for a public report, with the vendor's name, from an address without an
account, whose rows can be written. -/
structure OpensAccount (env : GateEnvironment) (request : GateVisit) (clientIp : Option String)
    (s : FunnelStore) (pubReport : PublicEvidenceReport) : Prop where
  gated : gatedReport env request.toEvidenceGateRequest s.platform = .ok pubReport
  unknown : userByEmail env.service s.platform request.email = none
  account : ∃ platform,
    openGateAccount env request.toEvidenceGateRequest s.platform = .ok platform
  token : ∃ tokens, insertToken s.tokens (gateToken env request.toEvidenceGateRequest clientIp
    (env.service.newId 0) pubReport) = .ok tokens
  lead : env.service.newId 4 ∉ s.leads.rows.map (·.id)

def OpensNoAccount (s : Funnel) : FunnelOp → Prop
  | .visit env request clientIp => ∀ pubReport,
      ¬ OpensAccount env request clientIp s.store pubReport
  | .download _ _ => True

/-! ## One request -/

/-- Every event has its user, and none is marked. -/
def Unmarked (s : FunnelStore) : Prop :=
  ∀ event ∈ s.leads.rows, event.userId ≠ none ∧ event.convertedToSignup = false

/-- The update finds no row. -/
theorem unmarked_markConverted {s : FunnelStore} (unmarked : Unmarked s) (userId : Uuid)
    (email : String) (now : Instant) : markConverted s.leads userId email now = s.leads := by
  refine Table.ext ((List.map_congr_left fun event member => ?_).trans (List.map_id _))
  exact if_neg fun unclaimed => (unmarked event member).1 unclaimed.2

theorem issueToken_ok {env : GateEnvironment} {request : GateVisit} {clientIp : Option String}
    {userId : Uuid} {created : Bool} {pubReport : PublicEvidenceReport} {s after : FunnelStore}
    {response : EvidenceGateResponse}
    (success : issueToken env request clientIp userId created pubReport s = .ok (response, after)) :
    response.accountCreated = created ∧
      (∃ tokens, insertToken s.tokens (gateToken env request.toEvidenceGateRequest clientIp userId
        pubReport) = .ok tokens) ∧
      env.service.newId 4 ∉ s.leads.rows.map (·.id) ∧
      after.leads.rows = s.leads.rows ++ [leadEvent env request clientIp userId created] := by
  unfold issueToken at success
  obtain ⟨tokens, inserted, success⟩ := bind_eq_ok success
  obtain ⟨leads, logged, success⟩ := bind_eq_ok success
  cases success
  obtain ⟨fresh, rows⟩ := Table.insert_eq_some (flushNew_eq_ok.mp logged)
  exact ⟨rfl, ⟨tokens, inserted⟩, fresh, rows⟩

/-- A request that is carried out logs one event, and creates an account only on the
condition. -/
theorem visitGate_ok {env : GateEnvironment} {request : GateVisit} {clientIp : Option String}
    {s after : FunnelStore} {response : EvidenceGateResponse} (unmarked : Unmarked s)
    (success : visitGate env request clientIp s = .ok (response, after)) :
    (∃ userId created,
        after.leads.rows = s.leads.rows ++ [leadEvent env request clientIp userId created]) ∧
      (response.accountCreated = true →
        ∃ pubReport, OpensAccount env request clientIp s pubReport) := by
  unfold visitGate at success
  obtain ⟨pubReport, gated, success⟩ := bind_eq_ok success
  cases known : userByEmail env.service s.platform request.email with
  | some user =>
    simp only [known] at success
    obtain ⟨answered, _, _, rows⟩ := issueToken_ok success
    refine ⟨⟨_, _, rows⟩, fun created => ?_⟩
    rw [answered] at created
    cases created
  | none =>
    simp only [known] at success
    obtain ⟨platform, opened, success⟩ := bind_eq_ok success
    rw [unmarked_markConverted unmarked] at success
    obtain ⟨_, token, lead, rows⟩ := issueToken_ok success
    exact ⟨⟨_, _, rows⟩, fun _ => ⟨pubReport, gated, known, ⟨platform, opened⟩, token, lead⟩⟩

theorem visitGate_opens {env : GateEnvironment} {request : GateVisit} {clientIp : Option String}
    {s : FunnelStore} {pubReport : PublicEvidenceReport} (unmarked : Unmarked s)
    (opens : OpensAccount env request clientIp s pubReport) :
    ∃ response after, visitGate env request clientIp s = .ok (response, after) ∧
      response.accountCreated = true := by
  obtain ⟨gated, unknown, ⟨platform, opened⟩, ⟨tokens, inserted⟩, fresh⟩ := opens
  obtain ⟨leads, logged⟩ := (Api.flushNew_isOk_iff s.leads
    (leadEvent env request clientIp (env.service.newId 0) true)).mpr fresh
  unfold visitGate
  rw [gated]
  simp only [bind, Except.bind, unknown, opened, issueToken, inserted,
    unmarked_markConverted unmarked, logged]
  exact ⟨_, _, rfl, rfl⟩

theorem countedDownload_leads {env : GateEnvironment} {token : String} {s after : FunnelStore}
    {file : List UInt8 × String} (success : countedDownload env token s = .ok (file, after)) :
    after.leads = s.leads := by
  unfold countedDownload at success
  obtain ⟨found, _, success⟩ := bind_eq_ok success
  obtain ⟨answer, _, success⟩ := bind_eq_ok success
  cases success
  rfl

/-! ## Histories of requests -/

theorem unmarked_step {s : Funnel} (unmarked : Unmarked s.store) (op : FunnelOp) :
    Unmarked (funnelStep s op).store := by
  cases op with
  | visit env request clientIp =>
    simp only [funnelStep]
    cases passed : visitGate env request clientIp s.store with
    | error failure => exact unmarked
    | ok answer =>
      obtain ⟨⟨userId, created, rows⟩, _⟩ := visitGate_ok unmarked passed
      intro event member
      simp only [rows] at member
      rcases List.mem_append.mp member with old | new
      · exact unmarked event old
      · rw [List.mem_singleton.mp new]
        exact ⟨Option.some_ne_none _, rfl⟩
  | download env token =>
    simp only [funnelStep]
    cases downloaded : countedDownload env token s.store with
    | error failure => exact unmarked
    | ok answer =>
      intro event member
      simp only [countedDownload_leads downloaded] at member
      exact unmarked event member

/-- Without a marked event, the marks are right as long as there is no account. -/
theorem marked_iff {s : Funnel} (unmarked : Unmarked s.store) : Marked s ↔ s.created = [] := by
  constructor
  · intro marked
    refine List.eq_nil_iff_forall_not_mem.mpr fun email created => ?_
    obtain ⟨event, member, _, converted⟩ := (marked email).mpr created
    rw [(unmarked event member).2] at converted
    cases converted
  · intro none email
    rw [none]
    constructor
    · intro ⟨event, member, _, converted⟩
      rw [(unmarked event member).2] at converted
      cases converted
    · intro created
      cases created

theorem rate_eq_zero {s : FunnelStore} (unmarked : Unmarked s) : s.conversionRate = 0 := by
  have conversions : s.leads.rows.countP (fun event => decide (IsConversion event)) = 0 := by
    refine List.countP_eq_zero.mpr fun event member converted => ?_
    have marked := (of_decide_eq_true converted).2
    rw [(unmarked event member).2] at marked
    cases marked
  unfold FunnelStore.conversionRate
  split
  · rfl
  · rw [conversions]
    norm_num [round2]

/-- The created accounts after a request. -/
theorem created_step {s : Funnel} (unmarked : Unmarked s.store) (op : FunnelOp) :
    (OpensNoAccount s op → (funnelStep s op).created = s.created) ∧
      (¬ OpensNoAccount s op → (funnelStep s op).created ≠ []) := by
  cases op with
  | visit env request clientIp =>
    constructor
    · intro opensNone
      simp only [funnelStep]
      cases passed : visitGate env request clientIp s.store with
      | error failure => rfl
      | ok answer =>
        refine if_neg fun created => ?_
        obtain ⟨pubReport, opens⟩ := (visitGate_ok unmarked passed).2 created
        exact opensNone pubReport opens
    · intro opensSome
      obtain ⟨pubReport, opens⟩ := not_forall_not.mp opensSome
      obtain ⟨response, after, passed, created⟩ := visitGate_opens unmarked opens
      simp only [funnelStep, passed, created, if_true]
      exact List.append_ne_nil_of_right_ne_nil _ (List.cons_ne_nil _ _)
  | download env token =>
    refine ⟨fun _ => ?_, fun opensSome => absurd trivial opensSome⟩
    simp only [funnelStep]
    cases countedDownload env token s.store <;> rfl

theorem unmarked_opening (gate : GateStore) : Unmarked (opening gate).store :=
  fun _ member => absurd member List.not_mem_nil

/-- The reported rate is 0 after every history. -/
theorem conversionRate_exec (gate : GateStore) (run : List FunnelOp) :
    (Run.exec funnelStep (opening gate) run).store.conversionRate = 0 := by
  have keeps (s : Funnel) (op : FunnelOp) (unmarked : Unmarked s.store) :
      Unmarked (funnelStep s op).store := unmarked_step unmarked op
  exact rate_eq_zero (Run.exec_invariant keeps (opening gate) run (unmarked_opening gate))

/-- After every history the rate is in range, and the marks are right throughout it
exactly when no request of it opens an account. -/
theorem conversions_counted_iff (gate : GateStore) (run : List FunnelOp) :
    (∀ before after, run = before ++ after →
        RateInRange (Run.exec funnelStep (opening gate) before)) ∧
      ((∀ before after, run = before ++ after →
          Marked (Run.exec funnelStep (opening gate) before)) ↔
        Run.AllSteps funnelStep OpensNoAccount (opening gate) run) := by
  constructor
  · intro before after _
    have rate := conversionRate_exec gate before
    exact ⟨by rw [rate], by rw [rate]; norm_num⟩
  · have sound (s : Funnel) (holds : Unmarked s.store ∧ s.created = []) : Marked s :=
      (marked_iff holds.1).mpr holds.2
    have keeps (s : Funnel) (op : FunnelOp) (holds : Unmarked s.store ∧ s.created = [])
        (met : OpensNoAccount s op) :
        Unmarked (funnelStep s op).store ∧ (funnelStep s op).created = [] :=
      ⟨unmarked_step holds.1 op, ((created_step holds.1 op).1 met).trans holds.2⟩
    have breaks (s : Funnel) (op : FunnelOp) (holds : Unmarked s.store ∧ s.created = [])
        (missed : ¬ OpensNoAccount s op) : ¬ Marked (funnelStep s op) := fun marked =>
      (created_step holds.1 op).2 missed ((marked_iff (unmarked_step holds.1 op)).mp marked)
    exact Run.forall_states_iff_allSteps sound keeps breaks (opening gate) run
      ⟨unmarked_opening gate, rfl⟩

/-! ## A visitor signs up -/

/-- A gate with one public report. -/
def publishedGate : GateStore where
  platform :=
    { Unpublishing.reportedStore.platform with
      workspace :=
        { Unpublishing.reportedStore.platform.workspace with
          publicReports := .single ⟨51, 31, "unknown", 41, true, none, none, 0⟩ } }
  tokens := .empty

def firstVisit : FunnelOp :=
  .visit (Unpublishing.gateServer 0) ⟨⟨"v@x.example", none, 31, "unknown", none⟩, none, none⟩ none

/-- The visitor has an account, and no event of the address is marked. -/
theorem signup_not_marked : ¬ Marked (Run.exec funnelStep (opening publishedGate) [firstVisit]) := by
  have created : (Run.exec funnelStep (opening publishedGate) [firstVisit]).created =
      ["v@x.example"] := by decide
  intro marked
  obtain ⟨event, member, _, converted⟩ := (marked "v@x.example").mpr (by rw [created]; simp)
  have unmarked : ∀ event ∈ (Run.exec funnelStep (opening publishedGate)
      [firstVisit]).store.leads.rows, event.convertedToSignup = false := by decide
  rw [unmarked event member] at converted
  cases converted

end Reliastra.Guarantees.GateConversions

/-!
## Whose statistics are they?

The statistics of the gate are global: no query of `get_stats` reads the id it is
called for. They are a function of which tokens were downloaded, of the accounts
counted on the public records and of the lead events of the gate, whatever
organization these belong to, and of nothing else.
-/

namespace Reliastra.Guarantees.GateStatistics

open Reliastra.Library Reliastra.Source Reliastra.Source.Api Reliastra.Source.Evidence

/-! ## Isolation -/

/-- The incident is one of the organization's. -/
def OwnIncident (s : FunnelStore) (orgId incidentId : Uuid) : Prop :=
  ∃ incident ∈ s.platform.workspace.incidents.rows,
    incident.id = incidentId ∧ incident.orgId = orgId

instance (s : FunnelStore) (orgId incidentId : Uuid) : Decidable (OwnIncident s orgId incidentId) :=
  inferInstanceAs (Decidable (∃ incident ∈ s.platform.workspace.incidents.rows, _))

/-- The public records of an organization's incidents, with their counters. -/
def ownReports (s : FunnelStore) (orgId : Uuid) : List (PublicEvidenceReport × Nat × Nat) :=
  (s.platform.workspace.publicReports.rows.filter
    (fun report => decide (OwnIncident s orgId report.incidentId))).map
      (fun report => (report, s.accountsCreated report.id, s.downloadCount report.id))

/-- The tokens of these records. -/
def ownTokens (s : FunnelStore) (orgId : Uuid) : List EvidenceGateToken :=
  s.tokens.rows.filter
    (fun token => decide (token.reportId ∈ (ownReports s orgId).map (fun report => report.1.id)))

/-- The lead events of an organization's incidents. -/
def ownLeads (s : FunnelStore) (orgId : Uuid) : List LeadCaptureEvent :=
  s.leads.rows.filter (fun event => decide (∃ id ∈ event.incidentId, OwnIncident s orgId id))

/-- The states agree on everything of the organization. -/
structure AgreeOn (orgId : Uuid) (s t : FunnelStore) : Prop where
  incidents : s.platform.workspace.incidents.rows.filter (fun i => i.orgId = orgId) =
    t.platform.workspace.incidents.rows.filter (fun i => i.orgId = orgId)
  reports : ownReports s orgId = ownReports t orgId
  tokens : ownTokens s orgId = ownTokens t orgId
  leads : ownLeads s orgId = ownLeads t orgId

/-- What another organization has does not show in the statistics. -/
def Isolated (order : StatsOrder) (orgId : Uuid) : Prop :=
  ∀ s t, AgreeOn orgId s t → getStats order orgId s = getStats order orgId t

/-! ## What the statistics are made of -/

def FromGate (event : LeadCaptureEvent) : Prop := event.source = "evidence_download"

instance : DecidablePred FromGate := fun event =>
  inferInstanceAs (Decidable (event.source = "evidence_download"))

/-- The states agree on the rows of the gate: as many tokens are downloaded and not,
the public records count the same accounts, and the lead events are the same. -/
structure SameGate (s t : FunnelStore) : Prop where
  tokens : (s.tokens.rows.map (fun token => token.downloadedAt.isSome)).Perm
    (t.tokens.rows.map (fun token => token.downloadedAt.isSome))
  accounts : (s.platform.workspace.publicReports.rows.map
      (fun report => s.accountsCreated report.id)).Perm
    (t.platform.workspace.publicReports.rows.map (fun report => t.accountsCreated report.id))
  leads : s.leads.rows.filter (fun event => decide (FromGate event)) =
    t.leads.rows.filter (fun event => decide (FromGate event))

variable {s t : FunnelStore}

theorem totalDownloads_eq (same : SameGate s t) : s.totalDownloads = t.totalDownloads := by
  have counted (u : FunnelStore) : u.totalDownloads =
      (u.tokens.rows.map (fun token => token.downloadedAt.isSome)).countP id := by
    rw [List.countP_map]
    rfl
  rw [counted, counted, same.tokens.countP_eq]

/-- A conversion is a lead event of the gate. -/
theorem conversions_eq (same : SameGate s t) :
    s.leads.rows.filter (fun event => decide (IsConversion event)) =
      t.leads.rows.filter (fun event => decide (IsConversion event)) := by
  have fromGate (u : FunnelStore) : u.leads.rows.filter (fun event => decide (IsConversion event)) =
      (u.leads.rows.filter (fun event => decide (FromGate event))).filter
        (fun event => event.convertedToSignup) := by
    rw [List.filter_filter]
    refine List.filter_congr fun event _ => ?_
    rw [Bool.eq_iff_iff, Bool.and_eq_true, decide_eq_true_iff, decide_eq_true_iff]
    exact and_comm
  rw [fromGate, fromGate, same.leads]

theorem conversionRate_eq (same : SameGate s t) : s.conversionRate = t.conversionRate := by
  unfold FunnelStore.conversionRate
  rw [totalDownloads_eq same, List.countP_eq_length_filter, List.countP_eq_length_filter,
    conversions_eq same]

theorem vendorCounts_eq (same : SameGate s t) : s.vendorCounts = t.vendorCounts := by
  have leads : s.leads.rows.filter (fun e => e.source = "evidence_download") =
      t.leads.rows.filter (fun e => e.source = "evidence_download") := same.leads
  unfold FunnelStore.vendorCounts
  rw [leads]

/-- Whoever asks, the statistics are those of the gate's rows. -/
theorem statistics_global (order : StatsOrder) (s t : FunnelStore) (same : SameGate s t)
    (orgId caller : Uuid) : getStats order orgId s = getEvidenceGateStats order caller t := by
  have accounts : s.totalAccountsCreated = t.totalAccountsCreated := same.accounts.sum_eq
  unfold getEvidenceGateStats getStats FunnelStore.topVendors FunnelStore.recentConversions
  rw [totalDownloads_eq same, accounts, conversionRate_eq same, vendorCounts_eq same,
    conversions_eq same]

/-! ## A visitor of another organization's report -/

/-- Ties in the order of the rows. -/
def insertionOrder : StatsOrder := ⟨.stable _, .stable _⟩

/-- The report of organization 1 is public, and nobody has come yet. -/
def quiet : FunnelStore := (GateConversions.opening GateConversions.publishedGate).store

/-- A visitor has signed up and downloaded it. -/
def visited : FunnelStore :=
  (Run.exec GateConversions.funnelStep (GateConversions.opening GateConversions.publishedGate)
    [GateConversions.firstVisit, .download (Unpublishing.gateServer 1) "raw"]).store

/-- Another account does not matter. -/
def withAccount : FunnelStore :=
  { visited with
    platform := { visited.platform with
      users := ⟨[⟨7, "w@x.example", "W", "hash", true, false, false, 0⟩], by decide⟩ } }

theorem statistics_global_sample :
    getStats insertionOrder 1 visited = getEvidenceGateStats insertionOrder 7 withAccount :=
  statistics_global insertionOrder visited withAccount ⟨.refl _, .refl _, rfl⟩ 1 7

/-- Organization 2 has nothing and sees the visitor of organization 1. -/
theorem statistics_not_isolated : ¬ Isolated insertionOrder 2 := by
  intro isolated
  have same := isolated quiet visited ⟨by decide, by decide, by decide, by decide⟩
  have ranking := congrArg EvidenceGateStats.topVendors same
  exact absurd ranking (by decide)

end Reliastra.Guarantees.GateStatistics
