import Reliastra.Source.Partners.LedgerEffects

/-!
# The referral program over time

Source: `activate_partner` and `bind_referral` of `app/modules/partners/service.py`
and `update_partner_status` of `app/modules/partners/admin_router.py`, next to the
operations of the ledger. The settings are those of the process that runs an
operation, so they may differ from one to the next. The owner of a referral code
is what `get_by_code` answers; who belongs to an organization is decided elsewhere
and changes in any way.
-/

namespace Reliastra.Source.Partners

open Reliastra.Library

/-! ## Partners and referrals -/

/-- `activate_partner`; a new profile is active. -/
def activatePartner (userId : Uuid) (agreeTerms : Bool) (newId : Uuid) (s : Ledger) :
    Except Failure Ledger :=
  match s.profiles.rows.find? (fun p => p.userId = userId) with
  | some _ => .ok s
  | none =>
    if agreeTerms = false then
      .error (.app (validationException "You must agree to the partner terms"))
    else match s.profiles.insert ⟨newId, userId, .active⟩ with
      | none => .error (.flush "partner_profiles_pkey")
      | some profiles => .ok { s with profiles := profiles }

/-- `update_partner_status`. -/
def updatePartnerStatus (partnerId : Uuid) (status : PartnerStatus) (s : Ledger) :
    Except Failure Ledger :=
  match s.profiles.get? partnerId with
  | none => .error (.app (resourceNotFoundException "Partner not found"))
  | some profile =>
    .ok { s with profiles :=
      s.profiles.updateKey profile.id (fun p => { p with status := status }) (fun _ => rfl) }

/-- `bind_referral`; `codeOwner` is the user the code belongs to. -/
def bindReferral (codeOwner : Option Uuid) (newUserId newId : Uuid) (s : Ledger) :
    Except Failure Ledger :=
  match codeOwner.bind (fun user => s.profiles.rows.find? (fun p => p.userId = user)) with
  | none => .ok s
  | some partner =>
    if partner.status ≠ .active then .ok s
    else if partner.userId = newUserId then .ok s
    else match s.referralOfUser newUserId with
      | some _ => .ok s
      | none =>
        match s.referrals.insert ⟨newId, partner.id, newUserId, .signedUp, none⟩ with
        | none => .error (.flush "partner_referrals_pkey")
        | some referrals => .ok { s with referrals := referrals }

/-! ## Operations -/

inductive ProgramOp where
  | ledger (settings : PartnerSettings) (op : LedgerOp)
  | activatePartner (userId : Uuid) (agreeTerms : Bool) (newId : Uuid)
  | updatePartnerStatus (partnerId : Uuid) (status : PartnerStatus)
  | bindReferral (codeOwner : Option Uuid) (newUserId newId : Uuid)
  | changeMembers (members : List Organizations.OrganizationMember)

def ProgramOp.run (s : Ledger) : ProgramOp → Except Failure Ledger
  | .ledger settings op => op.run settings s
  | .activatePartner userId agreeTerms newId => Partners.activatePartner userId agreeTerms newId s
  | .updatePartnerStatus partnerId status => Partners.updatePartnerStatus partnerId status s
  | .bindReferral codeOwner newUserId newId => Partners.bindReferral codeOwner newUserId newId s
  | .changeMembers members => .ok { s with members := members }

/-- The committed ledger after an operation. -/
def programStep (s : Ledger) (op : ProgramOp) : Ledger :=
  match op.run s with
  | .ok after => after
  | .error _ => s

theorem programStep_ledger (s : Ledger) (settings : PartnerSettings) (op : LedgerOp) :
    programStep s (.ledger settings op) = ledgerStep settings s op := rfl

/-! ## What the other operations leave alone -/

/-- Commissions and payouts stay, and referrals are only added. -/
structure SameBooks (s after : Ledger) : Prop where
  commissions : after.commissions = s.commissions
  payouts : after.payouts = s.payouts
  referrals : ∀ r ∈ s.referrals.rows, r ∈ after.referrals.rows

theorem SameBooks.refl (s : Ledger) : SameBooks s s := ⟨rfl, rfl, fun _ stored => stored⟩

theorem activatePartner_books {s after : Ledger} {userId newId : Uuid} {agreeTerms : Bool}
    (success : activatePartner userId agreeTerms newId s = .ok after) : SameBooks s after := by
  unfold activatePartner at success
  split at success
  · cases success
    exact .refl s
  split at success
  · cases success
  split at success
  · cases success
  · cases success
    exact ⟨rfl, rfl, fun _ stored => stored⟩

theorem updatePartnerStatus_books {s after : Ledger} {partnerId : Uuid} {status : PartnerStatus}
    (success : updatePartnerStatus partnerId status s = .ok after) : SameBooks s after := by
  unfold updatePartnerStatus at success
  split at success
  · cases success
  · cases success
    exact ⟨rfl, rfl, fun _ stored => stored⟩

theorem bindReferral_books {s after : Ledger} {codeOwner : Option Uuid} {newUserId newId : Uuid}
    (success : bindReferral codeOwner newUserId newId s = .ok after) : SameBooks s after := by
  unfold bindReferral at success
  split at success
  · cases success
    exact .refl s
  split at success
  · cases success
    exact .refl s
  split at success
  · cases success
    exact .refl s
  split at success
  · cases success
    exact .refl s
  split at success
  · cases success
  · next referrals inserted =>
    cases success
    refine ⟨rfl, rfl, fun r stored => ?_⟩
    have rows := (Table.insert_eq_some inserted).2
    rw [rows]
    exact List.mem_append_left _ stored

/-- An operation is one of the ledger, or leaves the books alone. -/
theorem programStep_cases (s : Ledger) (op : ProgramOp) :
    (∃ settings ledgerOp, op = .ledger settings ledgerOp) ∨ SameBooks s (programStep s op) := by
  cases op with
  | ledger settings ledgerOp => exact .inl ⟨settings, ledgerOp, rfl⟩
  | changeMembers members => exact .inr ⟨rfl, rfl, fun _ stored => stored⟩
  | activatePartner userId agreeTerms newId =>
    right
    simp only [programStep, ProgramOp.run]
    split
    · next success => exact activatePartner_books success
    · exact .refl s
  | updatePartnerStatus partnerId status =>
    right
    simp only [programStep, ProgramOp.run]
    split
    · next success => exact updatePartnerStatus_books success
    · exact .refl s
  | bindReferral codeOwner newUserId newId =>
    right
    simp only [programStep, ProgramOp.run]
    split
    · next success => exact bindReferral_books success
    · exact .refl s

/-! ## Rows over time -/

/-- What no operation changes of a commission. -/
structure SameEntry (c d : PartnerCommission) : Prop where
  id : d.id = c.id
  partnerId : d.partnerId = c.partnerId
  referralId : d.referralId = c.referralId
  billingEventId : d.billingEventId = c.billingEventId
  subscriptionAmountMinor : d.subscriptionAmountMinor = c.subscriptionAmountMinor
  commissionAmountMinor : d.commissionAmountMinor = c.commissionAmountMinor
  currency : d.currency = c.currency
  rate : d.rate = c.rate

theorem SameEntry.refl (c : PartnerCommission) : SameEntry c c := ⟨rfl, rfl, rfl, rfl, rfl, rfl, rfl, rfl⟩

theorem SameEntry.trans {c d e : PartnerCommission} (first : SameEntry c d)
    (second : SameEntry d e) : SameEntry c e :=
  ⟨second.id.trans first.id, second.partnerId.trans first.partnerId,
    second.referralId.trans first.referralId, second.billingEventId.trans first.billingEventId,
    second.subscriptionAmountMinor.trans first.subscriptionAmountMinor,
    second.commissionAmountMinor.trans first.commissionAmountMinor,
    second.currency.trans first.currency, second.rate.trans first.rate⟩

/-- The operation records this commission. -/
def Records (s : Ledger) (op : ProgramOp) (c : PartnerCommission) : Prop :=
  ∃ settings payment now newId referral partner,
    op = .ledger settings (.recordPayment payment now newId) ∧
      EarnsCommission settings payment s referral partner ∧
        c = commissionOf settings payment partner referral now newId

/-- Commissions are only added, and only by recording a payment. -/
structure EntriesKept (s : Ledger) (op : ProgramOp) (after : Ledger) : Prop where
  kept : ∀ c ∈ s.commissions.rows, ∃ d ∈ after.commissions.rows, SameEntry c d
  origin : ∀ d ∈ after.commissions.rows,
    (∃ c ∈ s.commissions.rows, SameEntry c d) ∨ Records s op d

theorem entriesKept_of_eq {s after : Ledger} {op : ProgramOp}
    (same : after.commissions = s.commissions) : EntriesKept s op after := by
  constructor
  · intro c stored
    rw [same]
    exact ⟨c, stored, .refl c⟩
  · intro d stored
    rw [same] at stored
    exact .inl ⟨d, stored, .refl d⟩

theorem entriesKept_of_map {s after : Ledger} {op : ProgramOp}
    {f : PartnerCommission → PartnerCommission} (frame : ∀ c, SameEntry c (f c))
    (rows : after.commissions.rows = s.commissions.rows.map f) : EntriesKept s op after := by
  constructor
  · intro c stored
    rw [rows]
    exact ⟨f c, List.mem_map_of_mem stored, frame c⟩
  · intro d stored
    rw [rows] at stored
    obtain ⟨c, old, rfl⟩ := List.mem_map.mp stored
    exact .inl ⟨c, old, frame c⟩

theorem entriesKept_recordPayment (settings : PartnerSettings) (s : Ledger) (payment : Payment)
    (now : Instant) (newId : Uuid) :
    EntriesKept s (.ledger settings (.recordPayment payment now newId))
      (ledgerStep settings s (.recordPayment payment now newId)) := by
  cases result : recordPayment settings payment now newId s with
  | error failure =>
    have refused : LedgerOp.run settings s (.recordPayment payment now newId) = .error failure :=
      result
    rw [ledgerStep_of_error refused]
    exact entriesKept_of_eq rfl
  | ok after =>
    have done : LedgerOp.run settings s (.recordPayment payment now newId) = .ok after := result
    rw [ledgerStep_of_ok done]
    by_cases earns : ∃ referral partner, EarnsCommission settings payment s referral partner
    · obtain ⟨referral, partner, earns⟩ := earns
      have rows := recordPayment_earned earns result
      constructor
      · intro c stored
        rw [rows]
        exact ⟨c, List.mem_append_left _ stored, .refl c⟩
      · intro d stored
        rw [rows] at stored
        rcases List.mem_append.mp stored with old | new
        · exact .inl ⟨d, old, .refl d⟩
        · exact .inr ⟨settings, payment, now, newId, referral, partner, rfl, earns,
            List.mem_singleton.mp new⟩
    · have idle := recordPayment_idle
        (fun referral partner paid => earns ⟨referral, partner, paid⟩) now newId
      rw [idle] at result
      cases result
      exact entriesKept_of_eq rfl

theorem entriesKept_step (s : Ledger) (op : ProgramOp) : EntriesKept s op (programStep s op) := by
  rcases programStep_cases s op with ⟨settings, ledgerOp, rfl⟩ | same
  · rw [programStep_ledger]
    cases ledgerStep_effect settings s ledgerOp with
    | unchanged payouts commissions => exact entriesKept_of_eq commissions
    | recorded payment now newId same c fresh payouts commissions =>
      subst same
      exact entriesKept_recordPayment settings s payment now newId
    | released now same payouts commissions =>
      exact entriesKept_of_map (fun c => by split <;> exact ⟨rfl, rfl, rfl, rfl, rfl, rfl, rfl, rfl⟩)
        commissions
    | reversed kind payouts reason commissions =>
      exact entriesKept_of_map (fun c => by split <;> exact ⟨rfl, rfl, rfl, rfl, rfl, rfl, rfl, rfl⟩)
        commissions
    | reserved partnerId amountMinor order now newId same accepted payouts commissions =>
      exact entriesKept_of_map (fun c => by split <;> exact ⟨rfl, rfl, rfl, rfl, rfl, rfl, rfl, rfl⟩)
        commissions
    | settled p reference now same member given payouts commissions =>
      exact entriesKept_of_map (fun c => by split <;> exact ⟨rfl, rfl, rfl, rfl, rfl, rfl, rfl, rfl⟩)
        commissions
    | failed p reference now same member payouts commissions => exact entriesKept_of_eq commissions
  · exact entriesKept_of_eq same.commissions

/-! ## Churned referrals -/

/-- The referral a payment or a churn changes is not churned yet. -/
theorem other_referral {s : Ledger} {r referral : PartnerReferral} {owner : Uuid}
    (stored : r ∈ s.referrals.rows) (churned : r.status = .churned)
    (found : s.referralOfUser owner = some referral) (kept : referral.status ≠ .churned) :
    r.id ≠ referral.id := by
  intro same
  have place : referral ∈ s.referrals.rows := List.mem_of_find?_eq_some found
  rw [Table.eq_of_key stored place same] at churned
  exact kept churned

theorem recordPayment_referrals {settings : PartnerSettings} {payment : Payment} {now : Instant}
    {newId : Uuid} {s after : Ledger} (success : recordPayment settings payment now newId s = .ok after)
    {r : PartnerReferral} (stored : r ∈ s.referrals.rows) (churned : r.status = .churned) :
    r ∈ after.referrals.rows := by
  have created {t t' : Ledger} {row : PartnerCommission} (done : t.createCommission row = .ok t') :
      t'.referrals = t.referrals := by
    unfold Ledger.createCommission at done
    split at done
    · cases done
    split at done
    · cases done
    split at done
    · cases done
    · cases done
      rfl
  unfold recordPayment at success
  split at success
  · cases success
    exact stored
  split at success
  · cases success
    exact stored
  split at success
  · cases success
    exact stored
  next referral found =>
  split at success
  · cases success
    exact stored
  next kept =>
  split at success
  · cases success
    exact stored
  split at success
  · cases success
    exact stored
  split at success
  · cases success
    exact stored
  split at success
  · cases success
    exact stored
  rw [created success]
  dsimp only
  split
  · exact Table.mem_updateKey_of_ne (fun r => r.update_id _) stored
      (other_referral stored churned found kept)
  · exact stored

theorem handleChurn_referrals {s : Ledger} {organizationId : Uuid} {r : PartnerReferral}
    (stored : r ∈ s.referrals.rows) (churned : r.status = .churned) :
    r ∈ (handleChurn organizationId s).referrals.rows := by
  unfold handleChurn
  split
  · exact stored
  split
  · exact stored
  next referral found =>
  split
  · exact stored
  next kept =>
    exact Table.mem_updateKey_of_ne (fun r => r.update_id _) stored
      (other_referral stored churned found kept)

theorem reserveLoop_referrals (payoutId : Uuid) (amount : Int) (payable : List PartnerCommission)
    (s : Ledger) : (reserveLoop payoutId amount payable s).referrals = s.referrals := by
  rw [reserveLoop_eq]
  rfl

/-- A churned referral stays as it is. -/
theorem churned_kept (s : Ledger) (op : ProgramOp) {r : PartnerReferral}
    (stored : r ∈ s.referrals.rows) (churned : r.status = .churned) :
    r ∈ (programStep s op).referrals.rows := by
  rcases programStep_cases s op with ⟨settings, ledgerOp, rfl⟩ | same
  · rw [programStep_ledger]
    cases result : ledgerOp.run settings s with
    | error failure =>
      rw [ledgerStep_of_error result]
      exact stored
    | ok after =>
      rw [ledgerStep_of_ok result]
      cases ledgerOp with
      | recordPayment payment now newId => exact recordPayment_referrals result stored churned
      | releasePayable now =>
        cases result
        exact stored
      | reverseByReference reference reason =>
        simp only [LedgerOp.run, reverseByReference] at result
        split at result
        · cases result
          exact stored
        split at result
        · cases result
        · cases result
          exact stored
      | reverseCommission commissionId reason =>
        simp only [LedgerOp.run, reverseCommission] at result
        split at result
        · cases result
        split at result
        · cases result
          exact stored
        by_cases fits : FitsText 100 (if reason = "" then "admin" else reason)
        · rw [if_neg (not_not.mpr fits)] at result
          cases result
          exact stored
        · rw [if_pos fits] at result
          cases result
      | handleChurn organizationId =>
        cases result
        exact handleChurn_referrals stored churned
      | createPayout partnerId amountMinor order now newId =>
        simp only [LedgerOp.run, createPayout] at result
        split at result
        · cases result
        split at result
        · cases result
        split at result
        · cases result
        split at result
        · cases result
        · cases result
          rw [reserveLoop_referrals]
          exact stored
      | processPayout payoutId action reference now =>
        simp only [LedgerOp.run, processPayout] at result
        split at result
        · cases result
        split at result
        · split at result
          · cases result
          split at result
          · cases result
          · cases result
            exact stored
        split at result
        · cases result
          exact stored
        · cases result
  · exact same.referrals r stored

end Reliastra.Source.Partners
