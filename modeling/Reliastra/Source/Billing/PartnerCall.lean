import Reliastra.Source.Billing.Effects
import Reliastra.Source.Core.Basics

/-!
# A verification around its partner code

`verify_transaction` of `app/modules/billing/service.py` with the partner code
it runs under `except Exception` as a parameter. What that code meets in the
database is more than the ledger the verification reads: a commission committed
in between by another request, a lost connection.
-/

namespace Reliastra.Source.Billing

open Reliastra.Library

/-- The partner code of a verification: the organization, Paystack's data and
the ledger it finds. -/
abbrev RecordPayment := Uuid → Json → Partners.Ledger → Swallowed Partners.Ledger

/-- What the verification leaves in the session after the partner code. -/
def afterRecording (db : Database) : Swallowed Partners.Ledger → Work
  | .done ledger => ⟨{ db with ledger := ledger }, true⟩
  | .databaseError => ⟨db, false⟩

def verifyTransactionAround (host : Runtime) (settings : BillingSettings) (record : RecordPayment)
    (reply : PaystackReply) (reference : String) (db : Database) :
    Except Failure (VerifyTransactionResponse × Work) :=
  let unverified : VerifyTransactionResponse := ⟨false, .free, reference⟩
  if settings.paystackSecretKey = "" then
    .error (.app (validationException "Paystack is not configured"))
  else match reply with
  | .httpError => .error (.app (validationException "Unable to verify Paystack transaction"))
  | .raises exceptionClass => .error (.python exceptionClass)
  | .json (.obj members) =>
    match successData (.obj members) with
    | none => .ok (unverified, ⟨db, true⟩)
    | some data =>
      let orgIdRaw := (data.get "metadata").asDict.get "org_id"
      if ¬ orgIdRaw.truthy then .ok (unverified, ⟨db, true⟩)
      else match host.uuidOfText (orgIdRaw.text host) with
      | none => .error (.app (validationException "Invalid organization metadata from Paystack"))
      | some orgId =>
        match db.organizations.get? orgId with
        | none => .error (.app (resourceNotFoundException "Organization not found"))
        | some org =>
          match db.writeSubscription orgId (paymentValues host data reference) with
          | .error failure => .error failure
          | .ok db =>
            let db := db.setPlan org.id (normalizedPlan host data)
            .ok (⟨true, normalizedPlan host data, reference⟩,
              afterRecording db (record orgId data db.ledger))
  | .json _ => .error (.python "AttributeError")

/-- `_record_partner_commission` on a ledger no other request writes to. -/
def recordUndisturbed (host : Runtime) (settings : BillingSettings) (reference : String)
    (now : Instant) (newId : Uuid) : RecordPayment := fun orgId data ledger =>
  match recordPartnerCommission host settings orgId data reference now newId ledger with
  | (ledger, true) => .done ledger
  | (_, false) => .databaseError

/-- The ledger is as it was where the recording fails. -/
theorem recordPartnerCommission_failed {host : Runtime} {settings : BillingSettings}
    {orgId : Uuid} {data : Json} {reference : String} {now : Instant} {newId : Uuid}
    {ledger after : Partners.Ledger}
    (failed : recordPartnerCommission host settings orgId data reference now newId ledger =
      (after, false)) : after = ledger := by
  unfold recordPartnerCommission at failed
  dsimp only at failed
  split at failed
  · cases failed
  split at failed
  · cases failed
  · split at failed
    · cases failed
    · cases failed
      rfl
    · cases failed

theorem verifyTransaction_eq_around (host : Runtime) (settings : BillingSettings)
    (reply : PaystackReply) (reference : String) (now : Instant) (newId : Uuid) (db : Database) :
    verifyTransaction host settings reply reference now newId db =
      verifyTransactionAround host settings (recordUndisturbed host settings reference now newId)
        reply reference db := by
  have same (orgId : Uuid) (data : Json) (db : Database) :
      afterRecording db (recordUndisturbed host settings reference now newId orgId data
        db.ledger) =
      ⟨{ db with ledger := (recordPartnerCommission host settings orgId data reference now newId
          db.ledger).1 },
        (recordPartnerCommission host settings orgId data reference now newId db.ledger).2⟩ := by
    unfold recordUndisturbed
    cases result : recordPartnerCommission host settings orgId data reference now newId
        db.ledger with
    | mk ledger active =>
      cases active with
      | true => rfl
      | false =>
        rw [recordPartnerCommission_failed result]
        rfl
  unfold verifyTransaction verifyTransactionAround
  simp only [same]
  all_goals rfl

end Reliastra.Source.Billing
