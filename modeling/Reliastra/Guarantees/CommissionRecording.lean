import Reliastra.Library.Run
import Reliastra.Source.Partners.Program

/-!
# What a commission was recorded for

Every row of the commission table was put there by one payment, and carries what
that payment and the settings of that moment gave. Nothing changes those columns
afterwards, and a referral that has churned stays churned.
-/

namespace Reliastra.Guarantees.CommissionRecording

open Reliastra.Library Reliastra.Source Reliastra.Source.Partners

/-! ## The amount -/

/-- The amount is `rate` percent of the collected one, rounded half up. -/
structure HalfUp (collected rate amount : Int) : Prop where
  atLeast : 100 * amount - 50 ≤ collected * rate
  below : collected * rate < 100 * amount + 50

theorem applyRate_halfUp (collected rate : Int) : HalfUp collected rate (applyRate collected rate) := by
  unfold applyRate
  constructor
  · omega
  · omega

theorem applyRate_le {collected rate : Int} (collects : 0 ≤ collected) (rateInRange : rate ≤ 100) :
    applyRate collected rate ≤ collected := by
  have most : collected * rate ≤ collected * 100 := Int.mul_le_mul_of_nonneg_left rateInRange collects
  unfold applyRate
  omega

/-- The columns of a commission agree with each other. -/
structure AmountOk (c : PartnerCommission) : Prop where
  rate : 0 ≤ c.rate ∧ c.rate ≤ 100
  halfUp : HalfUp c.subscriptionAmountMinor c.rate c.commissionAmountMinor
  positive : 1 ≤ c.commissionAmountMinor
  atMost : c.commissionAmountMinor ≤ c.subscriptionAmountMinor

theorem amountOk_of_records {s : Ledger} {op : ProgramOp} {c : PartnerCommission}
    (records : Records s op c) : AmountOk c := by
  obtain ⟨settings, payment, now, newId, referral, partner, _, earns, rfl⟩ := records
  refine ⟨settings.rateInRange, applyRate_halfUp _ _, earns.positive, ?_⟩
  exact applyRate_le earns.collected.le settings.rateInRange.2

theorem AmountOk.of_same {c d : PartnerCommission} (ok : AmountOk c) (same : SameEntry c d) :
    AmountOk d := by
  refine ⟨?_, ?_, ?_, ?_⟩
  · rw [same.rate]
    exact ok.rate
  · rw [same.subscriptionAmountMinor, same.rate, same.commissionAmountMinor]
    exact ok.halfUp
  · rw [same.commissionAmountMinor]
    exact ok.positive
  · rw [same.commissionAmountMinor, same.subscriptionAmountMinor]
    exact ok.atMost

/-! ## Along a run -/

variable {s : Ledger} {run : List ProgramOp}

theorem entries_kept (s : Ledger) (run : List ProgramOp) :
    ∀ c ∈ s.commissions.rows, ∃ d ∈ (Run.exec programStep s run).commissions.rows,
      SameEntry c d := by
  induction run generalizing s with
  | nil => exact fun c stored => ⟨c, stored, .refl c⟩
  | cons op rest ih =>
    intro c stored
    obtain ⟨middle, there, first⟩ := (entriesKept_step s op).kept c stored
    obtain ⟨last, final, second⟩ := ih (programStep s op) middle there
    exact ⟨last, final, first.trans second⟩

/-- A row at the end was there at the start, or some step of the run recorded it. -/
theorem entries_origin (s : Ledger) (run : List ProgramOp) :
    ∀ d ∈ (Run.exec programStep s run).commissions.rows,
      (∃ c ∈ s.commissions.rows, SameEntry c d) ∨
        ∃ before op after c, run = before ++ op :: after ∧
          Records (Run.exec programStep s before) op c ∧ SameEntry c d := by
  induction run generalizing s with
  | nil => exact fun d stored => .inl ⟨d, stored, .refl d⟩
  | cons op rest ih =>
    intro d stored
    rcases ih (programStep s op) d stored with ⟨middle, there, second⟩ | later
    · rcases (entriesKept_step s op).origin middle there with ⟨c, here, first⟩ | recorded
      · exact .inl ⟨c, here, first.trans second⟩
      · exact .inr ⟨[], op, rest, middle, rfl, recorded, second⟩
    · obtain ⟨before, other, after, c, split, recorded, same⟩ := later
      exact .inr ⟨op :: before, other, after, c, by rw [split, List.cons_append], recorded, same⟩

theorem churned_stays (s : Ledger) (run : List ProgramOp) {r : PartnerReferral}
    (stored : r ∈ s.referrals.rows) (churned : r.status = .churned) :
    r ∈ (Run.exec programStep s run).referrals.rows := by
  induction run generalizing s with
  | nil => exact stored
  | cons op rest ih => exact ih (programStep s op) (churned_kept s op stored churned)

/-! ## One commission per payment and partner -/

def OnePerPayment (s : Ledger) : Prop :=
  ∀ c ∈ s.commissions.rows, ∀ d ∈ s.commissions.rows,
    c.billingEventId = d.billingEventId → c.partnerId = d.partnerId → c = d

/-- A recorded commission is the first of its payment. -/
theorem records_first {op : ProgramOp} {c d : PartnerCommission} (records : Records s op c)
    (stored : d ∈ s.commissions.rows) (event : d.billingEventId = c.billingEventId) :
    d.partnerId ≠ c.partnerId := by
  obtain ⟨settings, payment, now, newId, referral, partner, _, earns, rfl⟩ := records
  intro owner
  apply earns.first
  unfold Ledger.commissionOfEvent
  rw [List.find?_isSome]
  exact ⟨d, stored, decide_eq_true ⟨event, owner⟩⟩

/-- An operation records one commission at most. -/
theorem records_unique {op : ProgramOp} {c d : PartnerCommission} (first : Records s op c)
    (second : Records s op d) : c.id = d.id := by
  obtain ⟨settings, payment, now, newId, referral, partner, same, _, rfl⟩ := first
  obtain ⟨settings', payment', now', newId', referral', partner', same', _, rfl⟩ := second
  rw [same] at same'
  cases same'
  rfl

theorem onePerPayment_step (one : OnePerPayment s) (op : ProgramOp) :
    OnePerPayment (programStep s op) := by
  have entries := entriesKept_step s op
  intro c stored d stored' event owner
  apply Table.eq_of_key stored stored'
  rcases entries.origin c stored with ⟨old, here, first⟩ | recorded
  · rcases entries.origin d stored' with ⟨old', here', second⟩ | recorded'
    · have same : old = old' := by
        apply one old here old' here'
        · rw [← first.billingEventId, event, second.billingEventId]
        · rw [← first.partnerId, owner, second.partnerId]
      rw [first.id, second.id, same]
    · have elsewhere := records_first recorded' here (first.billingEventId.symm.trans event)
      exact absurd (first.partnerId.symm.trans owner) elsewhere
  · rcases entries.origin d stored' with ⟨old', here', second⟩ | recorded'
    · have elsewhere := records_first recorded here' (second.billingEventId.symm.trans event.symm)
      exact absurd (second.partnerId.symm.trans owner.symm) elsewhere
    · exact records_unique recorded recorded'

/-! ## The history of a program -/

/-- The commission was recorded in this state, for a referral that had not churned
and a partner who was active. -/
structure RecordedFor (s : Ledger) (op : ProgramOp) (c : PartnerCommission) : Prop where
  payment : ∃ settings payment now newId,
    op = .ledger settings (.recordPayment payment now newId) ∧
      c.billingEventId = payment.paymentReference ∧
        c.subscriptionAmountMinor = payment.collectedMinor ∧ c.rate = settings.commissionRate
  referral : ∃ r ∈ s.referrals.rows, c.referralId = some r.id ∧ r.status ≠ .churned
  partner : ∃ p ∈ s.profiles.rows, p.id = c.partnerId ∧ p.status = .active

theorem recordedFor_of_records {op : ProgramOp} {c d : PartnerCommission}
    (records : Records s op c) (same : SameEntry c d) : RecordedFor s op d := by
  obtain ⟨settings, payment, now, newId, referral, partner, rfl, earns, rfl⟩ := records
  obtain ⟨owner, _, found⟩ := earns.referred
  obtain ⟨enrolled, partnerId⟩ := (Table.get?_eq_some_iff _ _ _).mp earns.enrolled
  refine ⟨⟨settings, payment, now, newId, rfl, same.billingEventId, same.subscriptionAmountMinor,
    same.rate⟩, ?_, ?_⟩
  · exact ⟨referral, List.mem_of_find?_eq_some found, same.referralId, earns.kept⟩
  · refine ⟨partner, enrolled, same.partnerId.symm, ?_⟩
    exact List.mem_singleton.mp earns.earning

/-- What the commission table of a program that began without commissions says. -/
structure SoundHistory (start : Ledger) (run : List ProgramOp) : Prop where
  onePerPayment : OnePerPayment (Run.exec programStep start run)
  recorded : ∀ c ∈ (Run.exec programStep start run).commissions.rows,
    ∃ before op after, run = before ++ op :: after ∧
      RecordedFor (Run.exec programStep start before) op c
  amounts : ∀ c ∈ (Run.exec programStep start run).commissions.rows, AmountOk c
  /-- What was recorded once is recorded for good. -/
  fixed : ∀ before after, run = before ++ after →
    ∀ c ∈ (Run.exec programStep start before).commissions.rows,
      ∃ d ∈ (Run.exec programStep start run).commissions.rows, SameEntry c d
  /-- After a churn the referral earns nothing new. -/
  churned : ∀ before after, run = before ++ after →
    ∀ r ∈ (Run.exec programStep start before).referrals.rows, r.status = .churned →
      r ∈ (Run.exec programStep start run).referrals.rows ∧
        ∀ d ∈ (Run.exec programStep start run).commissions.rows, d.referralId = some r.id →
          ∃ c ∈ (Run.exec programStep start before).commissions.rows, SameEntry c d

/-- Recording payments is sound over every history of the program. -/
theorem commissions_sound (members : List Organizations.OrganizationMember)
    (profiles : Table PartnerProfile.id) (referrals : Table PartnerReferral.id)
    (run : List ProgramOp) : SoundHistory (.empty members profiles referrals) run := by
  have absent (c : PartnerCommission) :
      c ∉ (Ledger.empty members profiles referrals).commissions.rows := List.not_mem_nil
  have origin := entries_origin (.empty members profiles referrals) run
  refine ⟨?_, ?_, ?_, ?_, ?_⟩
  · have steps (s : Ledger) (op : ProgramOp) (one : OnePerPayment s) :=
      onePerPayment_step one op
    have initial : OnePerPayment (.empty members profiles referrals) :=
      fun c stored => absurd stored (absent c)
    exact Run.exec_invariant steps _ run initial
  · intro c stored
    rcases origin c stored with ⟨old, here, _⟩ | ⟨before, op, after, first, split, records, same⟩
    · exact absurd here (absent old)
    · exact ⟨before, op, after, split, recordedFor_of_records records same⟩
  · intro c stored
    rcases origin c stored with ⟨old, here, _⟩ | ⟨before, op, after, first, split, records, same⟩
    · exact absurd here (absent old)
    · exact (amountOk_of_records records).of_same same
  · rintro before after rfl c stored
    rw [Run.exec_append]
    exact entries_kept _ after c stored
  · rintro before after rfl r stored churned
    rw [Run.exec_append]
    refine ⟨churned_stays _ after stored churned, ?_⟩
    intro d there earned
    rcases entries_origin _ after d there with old | ⟨between, op, rest, c, rfl, records, same⟩
    · exact old
    · -- the step that recorded it found the referral churned
      obtain ⟨r', place, named, live⟩ := (recordedFor_of_records records same).referral
      have sameId : r'.id = r.id := Option.some.inj (named.symm.trans earned)
      have still := churned_stays _ between stored churned
      rw [Table.eq_of_key place still sameId] at live
      exact absurd churned live

end Reliastra.Guarantees.CommissionRecording
