import Reliastra.Source.Billing.Deliveries

/-!
# The events about one payment

A charge of a payment records its commission, and a refund or a dispute reverses
the commissions recorded under its reference. `Due` is the commission a charge
would record in a database; what an event does is said in terms of it and of the
commissions that are live.
-/

namespace Reliastra.Source.Partners

open Reliastra.Library

/-- What a commission pays, to whom and for what. The identifier and the dates
taken from the clock of the request are left out. -/
structure CommissionEntry where
  partnerId : Uuid
  referralId : Option Uuid
  billingEventId : String
  subscriptionAmountMinor : Int
  commissionAmountMinor : Int
  currency : String
  rate : Int
  deriving DecidableEq, Repr

def PartnerCommission.entry (c : PartnerCommission) : CommissionEntry :=
  ⟨c.partnerId, c.referralId, c.billingEventId, c.subscriptionAmountMinor,
    c.commissionAmountMinor, c.currency, c.rate⟩

/-- The commissions of a payment that are not reversed. -/
def Ledger.liveEntries (s : Ledger) (reference : String) : List CommissionEntry :=
  (s.commissions.rows.filter (fun c => decide (ReversibleByReference reference c))).map (·.entry)

theorem commissionOf_entry (settings : PartnerSettings) (payment : Payment)
    (partner : PartnerProfile) (referral : PartnerReferral) (now : Instant) (newId : Uuid) :
    (commissionOf settings payment partner referral now newId).entry =
      (commissionOf settings payment partner referral 0 0).entry := rfl

theorem commissionOf_currency (settings : PartnerSettings) (payment : Payment)
    (partner other : PartnerProfile) (referral another : PartnerReferral) (now later : Instant)
    (newId otherId : Uuid) :
    (commissionOf settings payment partner referral now newId).currency =
      (commissionOf settings payment other another later otherId).currency := rfl

section Earning
variable {settings : PartnerSettings} {payment : Payment} {s after : Ledger}
variable {referral : PartnerReferral} {partner : PartnerProfile}

/-- A payment earns the commission of one referral and one partner. -/
theorem EarnsCommission.unique {referral' : PartnerReferral} {partner' : PartnerProfile}
    (earns : EarnsCommission settings payment s referral partner)
    (earns' : EarnsCommission settings payment s referral' partner') :
    referral = referral' ∧ partner = partner' := by
  obtain ⟨owner, owned, referred⟩ := earns.referred
  obtain ⟨owner', owned', referred'⟩ := earns'.referred
  obtain rfl := Option.some.inj (owned.symm.trans owned')
  obtain rfl := Option.some.inj (referred.symm.trans referred')
  have same := earns.enrolled.symm.trans earns'.enrolled
  exact ⟨rfl, Option.some.inj same⟩

private theorem createCommission_frame {row : PartnerCommission}
    (done : s.createCommission row = .ok after) :
    after.members = s.members ∧ after.profiles = s.profiles ∧ after.referrals = s.referrals := by
  unfold Ledger.createCommission at done
  split at done
  · cases done
  split at done
  · cases done
  split at done
  · cases done
  · cases done
    exact ⟨rfl, rfl, rfl⟩

private theorem find_promoted (rows : List PartnerReferral) (owner id : Uuid) (paidAt : Instant) :
    ((rows.map (fun r => if r.id = id then
        r.update [.status (some .paid), .subscribedAt (some paidAt)] else r)).find?
          (fun r => r.referredUserId = owner)).map (·.partnerId) =
      (rows.find? (fun r => r.referredUserId = owner)).map (·.partnerId) := by
  induction rows with
  | nil => rfl
  | cons r rest ih =>
    rw [List.map_cons, List.find?_cons, List.find?_cons]
    by_cases chosen : r.id = id
    · rw [if_pos chosen]
      cases here : decide (r.referredUserId = owner) with
      | true =>
        have there : decide ((r.update [.status (some .paid),
            .subscribedAt (some paidAt)]).referredUserId = owner) = true := here
        rw [there]
        rfl
      | false =>
        have there : decide ((r.update [.status (some .paid),
            .subscribedAt (some paidAt)]).referredUserId = owner) = false := here
        rw [there]
        exact ih
    · rw [if_neg chosen]
      cases decide (r.referredUserId = owner) with
      | true => rfl
      | false => exact ih

/-- Recording a payment leaves who refers whom as it was. -/
theorem recordPayment_frame (earns : EarnsCommission settings payment s referral partner)
    {now : Instant} {newId : Uuid}
    (success : recordPayment settings payment now newId s = .ok after) :
    after.members = s.members ∧ after.profiles = s.profiles ∧
      ∀ owner, (after.referralOfUser owner).map (·.partnerId) =
        (s.referralOfUser owner).map (·.partnerId) := by
  obtain ⟨named, collected, ⟨owner, owned, referred⟩, kept, found, earning, first, positive⟩ := earns
  have collects : ¬ (payment.paymentReference = "" ∨ payment.collectedMinor ≤ 0) :=
    not_or.mpr ⟨named, not_le.mpr collected⟩
  simp only [recordPayment, if_neg collects, owned, referred, if_neg kept, found,
    if_neg (not_not.mpr earning), if_neg first, if_neg (not_le.mpr positive)] at success
  obtain ⟨members, profiles, referrals⟩ := createCommission_frame success
  refine ⟨members, profiles, fun user => ?_⟩
  unfold Ledger.referralOfUser
  rw [referrals]
  dsimp only
  split
  · rw [Table.updateKey_rows]
    exact find_promoted _ _ _ _
  · rfl

/-- Once its commission is recorded a payment earns nothing more. -/
theorem recordPayment_exhausts (earns : EarnsCommission settings payment s referral partner)
    {now : Instant} {newId : Uuid}
    (success : recordPayment settings payment now newId s = .ok after)
    (referral' : PartnerReferral) (partner' : PartnerProfile) :
    ¬ EarnsCommission settings payment after referral' partner' := by
  intro again
  obtain ⟨members, profiles, referrals⟩ := recordPayment_frame earns success
  obtain ⟨owner, owned, referred⟩ := earns.referred
  obtain ⟨owner', owned', referred'⟩ := again.referred
  have sameOwner : owner = owner' := by
    unfold Ledger.orgOwner at owned owned'
    rw [members] at owned'
    exact Option.some.inj (owned.symm.trans owned')
  have samePartner : referral'.partnerId = referral.partnerId := by
    have same := referrals owner
    rw [referred, sameOwner, referred'] at same
    exact Option.some.inj same
  have enrolled := again.enrolled
  rw [profiles, samePartner, earns.enrolled] at enrolled
  apply again.first
  rw [← Option.some.inj enrolled]
  unfold Ledger.commissionOfEvent
  rw [List.find?_isSome]
  refine ⟨commissionOf settings payment partner referral now newId, ?_, decide_eq_true ⟨rfl, rfl⟩⟩
  rw [recordPayment_earned earns success]
  exact List.mem_append_right _ List.mem_cons_self

end Earning

/-! ## Reversing -/

/-- The ledger after the commissions of a payment were reversed. -/
structure ReversedFor (reference : String) (s after : Ledger) : Prop where
  members : after.members = s.members
  profiles : after.profiles = s.profiles
  referrals : after.referrals = s.referrals
  rows : ∃ kwargs, (∀ c : PartnerCommission, (c.update kwargs).status = .reversed) ∧
    after.commissions.rows = s.commissions.rows.map
      (fun c => if ReversibleByReference reference c then c.update kwargs else c)

theorem reverseByReference_reverses {reference reason : String} (s : Ledger)
    (named : reference ≠ "") (fits : FitsText 100 reason) :
    ∃ after count, reverseByReference reference reason s = .ok (after, count) ∧
      ReversedFor reference s after := by
  unfold reverseByReference
  rw [if_neg named]
  dsimp only
  rw [if_neg (fun misfit => misfit.2 fits)]
  refine ⟨_, _, rfl, rfl, rfl, rfl, reversalKwargs reason, fun _ => rfl, ?_⟩
  exact updateCommissions_filter_rows s _ _ (fun _ => rfl)

section Reversed
variable {reference : String} {s after : Ledger} (reversed : ReversedFor reference s after)
include reversed

theorem ReversedFor.liveEntries : after.liveEntries reference = [] := by
  obtain ⟨kwargs, status, rows⟩ := reversed.rows
  unfold Ledger.liveEntries
  rw [rows, List.map_eq_nil_iff, List.filter_eq_nil_iff]
  intro c member live
  obtain ⟨old, stored, rfl⟩ := List.mem_map.mp member
  have reversible := of_decide_eq_true live
  by_cases selected : ReversibleByReference reference old
  · rw [if_pos selected] at reversible
    exact reversible.2 (status old)
  · rw [if_neg selected] at reversible
    exact selected reversible

theorem ReversedFor.commissionOfEvent (billingEventId : String) (partnerId : Uuid) :
    (after.commissionOfEvent billingEventId partnerId).isSome =
      (s.commissionOfEvent billingEventId partnerId).isSome := by
  obtain ⟨kwargs, status, rows⟩ := reversed.rows
  unfold Ledger.commissionOfEvent
  rw [rows]
  generalize s.commissions.rows = stored
  induction stored with
  | nil => rfl
  | cons c rest ih =>
    rw [List.map_cons, List.find?_cons, List.find?_cons]
    have same : decide ((if ReversibleByReference reference c then c.update kwargs
          else c).billingEventId = billingEventId ∧
        (if ReversibleByReference reference c then c.update kwargs else c).partnerId = partnerId) =
        decide (c.billingEventId = billingEventId ∧ c.partnerId = partnerId) := by
      split <;> simp
    rw [same]
    split
    · rfl
    · exact ih

theorem ReversedFor.ids :
    after.commissions.rows.map (·.id) = s.commissions.rows.map (·.id) := by
  obtain ⟨kwargs, status, rows⟩ := reversed.rows
  rw [rows, List.map_map]
  apply List.map_congr_left
  intro c member
  dsimp only [Function.comp]
  split <;> simp

theorem ReversedFor.earns (settings : PartnerSettings) (payment : Payment)
    (referral : PartnerReferral) (partner : PartnerProfile) :
    EarnsCommission settings payment after referral partner ↔
      EarnsCommission settings payment s referral partner := by
  have owner (orgId : Uuid) : after.orgOwner orgId = s.orgOwner orgId := by
    unfold Ledger.orgOwner
    rw [reversed.members]
  have referralOf (user : Uuid) : after.referralOfUser user = s.referralOfUser user := by
    unfold Ledger.referralOfUser
    rw [reversed.referrals]
  constructor
  · intro earns
    refine ⟨earns.named, earns.collected, ?_, earns.kept, ?_, earns.earning, ?_, earns.positive⟩
    · have referred := earns.referred
      simpa only [owner, referralOf] using referred
    · rw [← reversed.profiles]
      exact earns.enrolled
    · rw [← reversed.commissionOfEvent]
      exact earns.first
  · intro earns
    refine ⟨earns.named, earns.collected, ?_, earns.kept, ?_, earns.earning, ?_, earns.positive⟩
    · have referred := earns.referred
      simpa only [owner, referralOf] using referred
    · rw [reversed.profiles]
      exact earns.enrolled
    · rw [reversed.commissionOfEvent]
      exact earns.first

end Reversed

end Reliastra.Source.Partners

namespace Reliastra.Source.Billing

open Reliastra.Library

/-! ## The commission a charge would record -/

/-- Paystack's answer reports a payment that is provisioned and earns this
referral's partner a commission the columns take. -/
structure Earning (host : Runtime) (settings : BillingSettings) (reference : String)
    (answer : PaystackReply) (db : Database) (orgId : Uuid) (data : Json)
    (payment : Partners.Payment) (referral : Partners.PartnerReferral)
    (partner : Partners.PartnerProfile) : Prop where
  reported : paymentIn host answer = some (orgId, data)
  known : ∃ org ∈ db.organizations.rows, org.id = orgId
  fits : (paymentValues host data reference).Fits
  collected : collectedPayment host orgId data reference = some payment
  earns : Partners.EarnsCommission settings.partner payment db.ledger referral partner
  columns : FitsText 200 payment.paymentReference ∧
    FitsText 3 (Partners.commissionOf settings.partner payment partner referral 0 0).currency ∧
    FitsBigint payment.collectedMinor

/-- The commission a charge of the payment would record. -/
def Due (host : Runtime) (settings : BillingSettings) (reference : String) (answer : PaystackReply)
    (db : Database) (entry : Partners.CommissionEntry) : Prop :=
  ∃ orgId data payment referral partner,
    Earning host settings reference answer db orgId data payment referral partner ∧
      entry = (Partners.commissionOf settings.partner payment partner referral 0 0).entry

section Charge
variable {host : Runtime} {settings : BillingSettings} {reference : String}
variable {answer : PaystackReply} {db after : Database} {now : Instant} {newId : Uuid}

theorem collected_reference {orgId : Uuid} {data : Json} {payment : Partners.Payment}
    (collected : collectedPayment host orgId data reference = some payment) :
    payment.paymentReference = reference := by
  unfold collectedPayment at collected
  dsimp only at collected
  split at collected
  · cases collected
  split at collected
  · cases collected
  · cases collected
    rfl

theorem recordPartnerCommission_recorded {orgId : Uuid} {data : Json} {payment : Partners.Payment}
    {ledger recorded : Partners.Ledger}
    (collected : collectedPayment host orgId data reference = some payment)
    (success : Partners.recordPayment settings.partner payment now newId ledger = .ok recorded) :
    recordPartnerCommission host settings orgId data reference now newId ledger =
      (recorded, true) := by
  unfold collectedPayment at collected
  dsimp only at collected
  split at collected
  · cases collected
  next given =>
  split at collected
  · cases collected
  next collectedMinor parsed =>
  cases collected
  simp only [recordPartnerCommission, if_neg given, parsed, success]

/-- What is due depends on the ledger and on which organizations there are. -/
theorem due_congr (ledger : after.ledger = db.ledger)
    (known : ∀ orgId, (∃ org ∈ after.organizations.rows, org.id = orgId) →
      ∃ org ∈ db.organizations.rows, org.id = orgId) {entry : Partners.CommissionEntry}
    (due : Due host settings reference answer after entry) :
    Due host settings reference answer db entry := by
  obtain ⟨orgId, data, payment, referral, partner, earning, rfl⟩ := due
  refine ⟨orgId, data, payment, referral, partner, ?_, rfl⟩
  have earns := earning.earns
  rw [ledger] at earns
  exact ⟨earning.reported, known orgId earning.known, earning.fits, earning.collected, earns,
    earning.columns⟩

/-- The verification of a payment a commission is due for goes through. -/
theorem Earning.provisions {orgId : Uuid} {data : Json} {payment : Partners.Payment}
    {referral : Partners.PartnerReferral} {partner : Partners.PartnerProfile}
    (earning : Earning host settings reference answer db orgId data payment referral partner)
    (configured : settings.paystackSecretKey ≠ "")
    (fresh : newId ∉ db.ledger.commissions.rows.map (·.id)) (now : Instant) :
    Provisions host settings db reference answer now newId orgId data := by
  refine ⟨configured, earning.reported, earning.known, earning.fits, recorded_iff.mpr ?_⟩
  intro passed member referral' partner' earns
  obtain rfl : payment = passed := Option.some.inj (earning.collected.symm.trans member)
  refine ⟨⟨earning.columns.1, ?_, earning.columns.2.2⟩, fresh⟩
  rw [Partners.commissionOf_currency _ _ partner' partner referral' referral now 0 newId 0]
  exact earning.columns.2.1

/-- A charge records the commission that is due, and nothing is due afterwards. -/
theorem charge_records (configured : settings.paystackSecretKey ≠ "")
    {entry : Partners.CommissionEntry} (due : Due host settings reference answer db entry)
    (fresh : newId ∉ db.ledger.commissions.rows.map (·.id)) (now : Instant) :
    let after := finish db (verifyTransaction host settings answer reference now newId db)
    after.ledger.liveEntries reference = db.ledger.liveEntries reference ++ [entry] ∧
      ∀ other, ¬ Due host settings reference answer after other := by
  obtain ⟨orgId, data, payment, referral, partner, earning, rfl⟩ := due
  have provisions := earning.provisions configured fresh now
  obtain ⟨recorded, success⟩ : ∃ recorded,
      Partners.recordPayment settings.partner payment now newId db.ledger = .ok recorded :=
    (recordPartnerCommission_some earning.collected now newId db.ledger).mp provisions.recorded
  have ledger := verify_ledger provisions
  rw [recordPartnerCommission_recorded earning.collected success] at ledger
  dsimp only at ledger ⊢
  constructor
  · have rows := Partners.recordPayment_earned earning.earns success
    have selected : Partners.ReversibleByReference reference
        (Partners.commissionOf settings.partner payment partner referral now newId) := by
      refine ⟨collected_reference earning.collected, ?_⟩
      intro reversed
      cases reversed
    rw [ledger]
    unfold Partners.Ledger.liveEntries
    rw [rows, List.filter_append, List.map_append, List.filter_cons, if_pos (decide_eq_true selected),
      List.filter_nil, List.map_cons, List.map_nil, Partners.commissionOf_entry]
  · rintro other ⟨orgId', data', payment', referral', partner', again, rfl⟩
    have reported := earning.reported.symm.trans again.reported
    cases reported
    obtain rfl : payment = payment' := Option.some.inj (earning.collected.symm.trans again.collected)
    have earns := again.earns
    rw [ledger] at earns
    exact Partners.recordPayment_exhausts earning.earns success referral' partner' earns

/-- A charge no commission is due for leaves the ledger alone. -/
theorem charge_idle (nothing : ∀ entry, ¬ Due host settings reference answer db entry)
    (now : Instant) (newId : Uuid) :
    let after := finish db (verifyTransaction host settings answer reference now newId db)
    after.ledger = db.ledger ∧ ∀ entry, ¬ Due host settings reference answer after entry := by
  dsimp only
  by_cases goes : ∃ orgId data, Provisions host settings db reference answer now newId orgId data
  · obtain ⟨orgId, data, provisions⟩ := goes
    have unpaid : ¬ PaysCommission host settings orgId data reference db.ledger := by
      intro ⟨payment, collected, referral, partner, earns⟩
      obtain ⟨columns, _⟩ := recorded_iff.mp provisions.recorded payment collected referral partner
        earns
      exact nothing _ ⟨orgId, data, payment, referral, partner, ⟨provisions.payment,
        provisions.known, provisions.fits, collected, earns, columns⟩, rfl⟩
    have ledger := verify_ledger provisions
    rw [recordPartnerCommission_idle unpaid] at ledger
    refine ⟨ledger, fun entry due => nothing entry (due_congr ledger ?_ due)⟩
    rintro other ⟨org, member, rfl⟩
    rw [(verify_provisions provisions).organizations] at member
    obtain ⟨old, stored, rfl⟩ := List.mem_map.mp member
    refine ⟨old, stored, ?_⟩
    split <;> rfl
  · rw [verify_idle (fun orgId data provisions => goes ⟨orgId, data, provisions⟩)]
    exact ⟨rfl, nothing⟩

/-- A reversal leaves what is due as it was. -/
theorem reversal_due (ledger : Partners.ReversedFor reference db.ledger after.ledger)
    (organizations : after.organizations = db.organizations) (entry : Partners.CommissionEntry) :
    Due host settings reference answer after entry ↔
      Due host settings reference answer db entry := by
  have earns := ledger.earns settings.partner
  constructor
  · rintro ⟨orgId, data, payment, referral, partner, earning, rfl⟩
    have known := earning.known
    rw [organizations] at known
    exact ⟨orgId, data, payment, referral, partner, ⟨earning.reported, known, earning.fits,
      earning.collected, (earns _ _ _).mp earning.earns, earning.columns⟩, rfl⟩
  · rintro ⟨orgId, data, payment, referral, partner, earning, rfl⟩
    have known := earning.known
    rw [← organizations] at known
    exact ⟨orgId, data, payment, referral, partner, ⟨earning.reported, known, earning.fits,
      earning.collected, (earns _ _ _).mpr earning.earns, earning.columns⟩, rfl⟩

theorem due_unique {entry other : Partners.CommissionEntry}
    (due : Due host settings reference answer db entry)
    (due' : Due host settings reference answer db other) : entry = other := by
  obtain ⟨orgId, data, payment, referral, partner, earning, rfl⟩ := due
  obtain ⟨orgId', data', payment', referral', partner', earning', rfl⟩ := due'
  have reported := earning.reported.symm.trans earning'.reported
  cases reported
  obtain rfl := Option.some.inj (earning.collected.symm.trans earning'.collected)
  obtain ⟨rfl, rfl⟩ := earning.earns.unique earning'.earns
  rfl

end Charge

/-! ## Deliveries about one payment -/

/-- The reference a refund or a dispute names. -/
def reversalReference (data : Json) : Json :=
  ((data.get "transaction_reference").orElse (data.get "reference")).orElse
    ((data.get "transaction").asDict.get "reference")

def reversalEvents : List String :=
  ["refund.processed", "charge.refunded", "charge.dispute.create", "charge.dispute.remind"]

/-- A delivery of an event about the payment: a charge, which Paystack verifies
with `answer`, or a refund or dispute. Its claim reaches Redis and is answered, or
does not reach it. -/
structure Concerns (host : Runtime) (settings : BillingSettings) (reference : String)
    (answer : PaystackReply) (call : WebhookCall) : Prop where
  signed : checkSignature host settings call = .ok ()
  claim : call.claim ≠ .answerLost
  event :
    (call.event = "charge.success" ∧ (call.data.asDict.get "reference").truthy ∧
      (call.data.asDict.get "reference").text host = reference ∧ call.reply = answer) ∨
    (call.event ∈ reversalEvents ∧ (reversalReference call.data.asDict).truthy ∧
      (reversalReference call.data.asDict).text host = reference)

/-- What a delivery is about. -/
inductive PaymentEvent where
  | charge
  | reversal
  deriving DecidableEq, Repr

def WebhookCall.paymentEvent (call : WebhookCall) : PaymentEvent :=
  if call.event = "charge.success" then .charge else .reversal

section Deliver
variable {host : Runtime} {settings : BillingSettings} {reference : String}
variable {answer : PaystackReply} {call : WebhookCall} {w : World}

theorem charge_database (concerns : Concerns host settings reference answer call)
    (charge : call.paymentEvent = .charge)
    (processed : admitted host settings call w.redis = true) :
    (billingStep host settings w (.webhook call)).database =
      finish w.database
        (verifyTransaction host settings answer reference call.now call.newId w.database) := by
  rcases concerns.event with ⟨event, given, named, rfl⟩ | ⟨event, given, named⟩
  · have verifies : verificationOf host settings w (.webhook call) =
        some ⟨reference, call.reply, call.now, call.newId⟩ := by
      simp only [verificationOf, processed, event, given, and_self, if_true, named]
    exact verification_database verifies
  · have other : call.event ≠ "charge.success" := by
      intro same
      rw [same] at event
      revert event
      decide
    unfold WebhookCall.paymentEvent at charge
    rw [if_neg other] at charge
    cases charge

theorem dispatch_reversal (settings : BillingSettings) (db : Database)
    (event : call.event ∈ reversalEvents) :
    ∃ reason, FitsText 100 reason ∧ dispatchEvent host settings call db =
      .ok (reversePartnerCommissions host call.data.asDict reason db) := by
  simp only [reversalEvents, List.mem_cons, List.not_mem_nil, or_false] at event
  have refund : FitsText 100 "refund" := by decide
  have chargeback : FitsText 100 "chargeback" := by decide
  rcases event with event | event | event | event
  · exact ⟨"refund", refund, by simp [dispatchEvent, event]⟩
  · exact ⟨"refund", refund, by simp [dispatchEvent, event]⟩
  · exact ⟨"chargeback", chargeback, by simp [dispatchEvent, event]⟩
  · exact ⟨"chargeback", chargeback, by simp [dispatchEvent, event]⟩

theorem reversal_database (named : reference ≠ "")
    (concerns : Concerns host settings reference answer call)
    (reversal : call.paymentEvent = .reversal)
    (processed : admitted host settings call w.redis = true) :
    let after := (billingStep host settings w (.webhook call)).database
    after.organizations = w.database.organizations ∧
      Partners.ReversedFor reference w.database.ledger after.ledger := by
  have reverses (reason : String) (fits : FitsText 100 reason)
      (given : (reversalReference call.data.asDict).truthy)
      (reads : (reversalReference call.data.asDict).text host = reference) :
      let after := finish w.database
        (.ok ((), reversePartnerCommissions host call.data.asDict reason w.database))
      after.organizations = w.database.organizations ∧
        Partners.ReversedFor reference w.database.ledger after.ledger := by
    obtain ⟨after, count, success, reversed⟩ :=
      Partners.reverseByReference_reverses w.database.ledger named fits
    have work : reversePartnerCommissions host call.data.asDict reason w.database =
        ⟨{ w.database with ledger := after }, true⟩ := by
      unfold reversePartnerCommissions
      unfold reversalReference at given reads
      dsimp only
      rw [if_neg (not_not.mpr given), reads, success]
    rw [work]
    exact ⟨rfl, reversed⟩
  rcases concerns.event with ⟨event, _⟩ | ⟨event, given, reads⟩
  · unfold WebhookCall.paymentEvent at reversal
    rw [if_pos event] at reversal
    cases reversal
  · obtain ⟨reason, fits, dispatched⟩ := dispatch_reversal settings w.database event
    rw [webhook_database, if_pos processed, dispatched]
    exact reverses reason fits given reads

theorem skipped_database (skipped : admitted host settings call w.redis = false) :
    (billingStep host settings w (.webhook call)).database = w.database := by
  rw [webhook_database, skipped]
  rfl

end Deliver

end Reliastra.Source.Billing
