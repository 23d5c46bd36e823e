import Reliastra.Guarantees.KeyConfinement
import Reliastra.Guarantees.TokenFamilies
import Reliastra.Source.Auth.Registration
import Reliastra.Source.Billing.PartnerCall
import Reliastra.Source.Partners.LedgerInvariant

/-!
# Can partner code undo the operation it accompanies?

`verify_transaction` and `register` run partner code under `except Exception`
and carry on, but in one session: a database error in the partner code costs the
transaction with the caller's own rows. A verification then answers
`verified=True` and nothing is committed; a registration raises at its next
flush. `survives_iff` says that these are the only ways.
-/

namespace Reliastra.Guarantees.PartnerIsolation

open Reliastra.Library Source Source.Organizations Source.Billing Source.Auth

/-! ## Verification -/

/-- Once a verification answers, the plan and the subscription it wrote are
committed. -/
def VerificationSurvives (host : Runtime) (settings : BillingSettings) (record : RecordPayment)
    (reply : PaystackReply) (reference : String) (db : Database) : Prop :=
  ∀ response work,
    verifyTransactionAround host settings record reply reference db = .ok (response, work) →
    let committed := finish db (verifyTransactionAround host settings record reply reference db)
    committed.organizations = work.database.organizations ∧
      committed.subscriptions = work.database.subscriptions

/-- A verification that writes: Paystack reports a payment of a known
organization, and the subscription's columns take it. -/
structure Verifies (host : Runtime) (settings : BillingSettings) (reply : PaystackReply)
    (reference : String) (db : Database) (orgId : Uuid) (data : Json) (written : Database) :
    Prop where
  configured : settings.paystackSecretKey ≠ ""
  payment : paymentIn host reply = some (orgId, data)
  known : ∃ org, db.organizations.get? orgId = some org
  wrote : db.writeSubscription orgId (paymentValues host data reference) = .ok written

/-- The partner code meets a database error, and the payment would have changed
the plan or the subscription of its organization. -/
structure VerificationBroken (host : Runtime) (settings : BillingSettings)
    (record : RecordPayment) (reply : PaystackReply) (reference : String) (db : Database)
    (orgId : Uuid) (data : Json) (written : Database) : Prop
    extends Verifies host settings reply reference db orgId data written where
  error : record orgId data written.ledger = .databaseError
  changed : (written.setPlan orgId (normalizedPlan host data)).organizations ≠ db.organizations ∨
    written.subscriptions ≠ db.subscriptions

variable {host : Runtime} {settings : BillingSettings} {record : RecordPayment}
  {reply : PaystackReply} {reference : String} {db : Database}

variable (record) in
theorem around_verifies {orgId : Uuid} {data : Json} {written : Database}
    (verifies : Verifies host settings reply reference db orgId data written) :
    verifyTransactionAround host settings record reply reference db =
      .ok (⟨true, normalizedPlan host data, reference⟩,
        afterRecording (written.setPlan orgId (normalizedPlan host data))
          (record orgId data written.ledger)) := by
  obtain ⟨configured, payment, ⟨org, found⟩, wrote⟩ := verifies
  have here : org.id = orgId := ((Table.get?_eq_some_iff _ _ _).mp found).2
  unfold paymentIn at payment
  split at payment
  · next members =>
    obtain ⟨data', success, payment⟩ := Option.bind_eq_some_iff.mp payment
    dsimp only at payment
    split at payment
    · next given =>
      obtain ⟨orgId', parsed, same⟩ := Option.map_eq_some_iff.mp payment
      cases same
      unfold verifyTransactionAround
      simp only [if_neg configured, success, given, not_true_eq_false, if_false, parsed, found,
        wrote, here]
      rfl
    · cases payment
  · cases payment

theorem around_idle (idle : ∀ orgId data written,
      ¬ Verifies host settings reply reference db orgId data written)
    {response : VerifyTransactionResponse} {work : Work}
    (answered : verifyTransactionAround host settings record reply reference db =
      .ok (response, work)) : work = ⟨db, true⟩ := by
  unfold verifyTransactionAround at answered
  dsimp only at answered
  split at answered
  · cases answered
  next configured =>
  split at answered
  · cases answered
  · cases answered
  · next members =>
    split at answered
    · cases answered
      rfl
    next data success =>
    split at answered
    · cases answered
      rfl
    next given =>
    split at answered
    · cases answered
    next orgId parsed =>
    split at answered
    · cases answered
    next org found =>
    split at answered
    · cases answered
    next written wrote =>
    have payment : paymentIn host (.json (.obj members)) = some (orgId, data) := by
      simp only [paymentIn, success, Option.bind_some, not_not.mp given, if_true, parsed,
        Option.map_some]
    exact absurd ⟨configured, payment, ⟨org, found⟩, wrote⟩ (idle orgId data written)
  · cases answered

theorem verification_survives_iff :
    VerificationSurvives host settings record reply reference db ↔
      ¬ ∃ orgId data written,
        VerificationBroken host settings record reply reference db orgId data written := by
  constructor
  · intro survives ⟨orgId, data, written, broken⟩
    have answered := around_verifies record broken.toVerifies
    have kept := survives _ _ answered
    rw [answered, broken.error] at kept
    rcases broken.changed with plan | subscription
    · exact plan kept.1.symm
    · exact subscription kept.2.symm
  · intro unbroken response work answered
    by_cases writes : ∃ orgId data written,
        Verifies host settings reply reference db orgId data written
    · obtain ⟨orgId, data, written, verifies⟩ := writes
      have outcome := around_verifies record verifies
      rw [answered] at outcome ⊢
      cases outcome
      cases recorded : record orgId data written.ledger with
      | done ledger => exact ⟨rfl, rfl⟩
      | databaseError =>
        have same : ¬ ((written.setPlan orgId (normalizedPlan host data)).organizations ≠
            db.organizations ∨ written.subscriptions ≠ db.subscriptions) := fun changed =>
          unbroken ⟨orgId, data, written, verifies, recorded, changed⟩
        rw [not_or, not_not, not_not] at same
        exact ⟨same.1.symm, same.2.symm⟩
    · have idle := around_idle (fun orgId data written verifies =>
        writes ⟨orgId, data, written, verifies⟩) answered
      rw [answered, idle]
      exact ⟨rfl, rfl⟩

/-! ## Registration -/

/-- Partner code that does nothing. -/
def noPartnerCode : BindReferral := fun _ _ _ s => .done (partnerRows s)

/-- What is committed after a registration. -/
def signup (env : SignupEnvironment) (bind : BindReferral) (request : RegisterRequest)
    (s : SignupDatabase) : SignupDatabase :=
  match register env bind request s with
  | .ok (_, after) => after
  | .error _ => s

/-- The tables a registration writes itself agree. -/
structure SameAccount (a b : SignupDatabase) : Prop where
  users : a.platform.users = b.platform.users
  organizations : a.platform.organizations = b.platform.organizations
  members : a.platform.members = b.platform.members
  applications : a.platform.workspace.applications = b.platform.workspace.applications
  refreshTokens : a.refreshTokens = b.refreshTokens

/-- A registration that goes through without partner code goes through with it,
with the same answer and the same account. -/
def RegistrationSurvives (env : SignupEnvironment) (bind : BindReferral)
    (request : RegisterRequest) (s : SignupDatabase) : Prop :=
  ∀ response after, register env noPartnerCode request s = .ok (response, after) →
    (∃ after', register env bind request s = .ok (response, after')) ∧
      SameAccount after (signup env bind request s)

/-- The partner code meets a database error in a registration that would have
gone through. -/
structure RegistrationBroken (env : SignupEnvironment) (bind : BindReferral)
    (request : RegisterRequest) (s : SignupDatabase) (refCode : String) (user : Account)
    (org : Api.Organization) (opened : Api.Platform) : Prop where
  referred : request.refCode.filter (· ≠ "") = some refCode
  opens : openAccount env request s.platform = .ok (user, org, opened)
  issues : ∃ refreshTokens, issueToken env user s.refreshTokens = .ok refreshTokens
  error : bind refCode user.id org.id opened = .databaseError

variable {env : SignupEnvironment} {bind : BindReferral} {request : RegisterRequest}
  {s : SignupDatabase}

theorem register_ok_iff {response : RegisterResponse} {after : SignupDatabase} :
    register env bind request s = .ok (response, after) ↔
      ∃ user org opened platform refreshTokens,
        openAccount env request s.platform = .ok (user, org, opened) ∧
        processReferral bind request user org opened = .ok platform ∧
        issueToken env user s.refreshTokens = .ok refreshTokens ∧
        response = ⟨user, org, tokenPair env.auth env.accessToken env.refreshToken⟩ ∧
        after = ⟨platform, refreshTokens⟩ := by
  unfold register
  constructor
  · intro success
    obtain ⟨⟨user, org, opened⟩, opens, success⟩ := Api.bind_eq_ok success
    obtain ⟨platform, bound, success⟩ := Api.bind_eq_ok success
    obtain ⟨refreshTokens, issued, success⟩ := Api.bind_eq_ok success
    cases success
    exact ⟨user, org, opened, platform, refreshTokens, opens, bound, issued, rfl, rfl⟩
  · rintro ⟨user, org, opened, platform, refreshTokens, opens, bound, issued, rfl, rfl⟩
    rw [opens]
    exact Api.bind_eq_ok_iff.mpr ⟨_, rfl, Api.bind_eq_ok_iff.mpr ⟨_, bound,
      Api.bind_eq_ok_iff.mpr ⟨_, issued, rfl⟩⟩⟩

theorem processReferral_none (user : Account) (org : Api.Organization) (opened : Api.Platform) :
    processReferral noPartnerCode request user org opened = .ok opened := by
  unfold processReferral
  split <;> rfl

variable (bind) in
/-- Partner code that meets no database error leaves the account alone. -/
theorem processReferral_done {user : Account} {org : Api.Organization} {opened : Api.Platform}
    (fine : ∀ refCode, request.refCode.filter (· ≠ "") = some refCode →
      bind refCode user.id org.id opened ≠ .databaseError) :
    ∃ rows, processReferral bind request user org opened = .ok (withPartnerRows opened rows) := by
  unfold processReferral
  cases given : request.refCode.filter (· ≠ "") with
  | none => exact ⟨partnerRows opened, rfl⟩
  | some refCode =>
    cases outcome : bind refCode user.id org.id opened with
    | done rows =>
      refine ⟨rows, ?_⟩
      dsimp only
      rw [outcome]
      rfl
    | databaseError => exact absurd outcome (fine refCode given)

theorem registration_survives_iff :
    RegistrationSurvives env bind request s ↔ ¬ ∃ refCode user org opened,
      RegistrationBroken env bind request s refCode user org opened := by
  constructor
  · intro survives ⟨refCode, user, org, opened, given, opens, ⟨refreshTokens, issued⟩, error⟩
    have alone : register env noPartnerCode request s = .ok (_, _) :=
      register_ok_iff.mpr ⟨user, org, opened, opened, refreshTokens, opens,
        processReferral_none user org opened, issued, rfl, rfl⟩
    obtain ⟨⟨after, success⟩, _⟩ := survives _ _ alone
    obtain ⟨user', org', opened', platform, _, opens', bound, _⟩ := register_ok_iff.mp success
    cases opens.symm.trans opens'
    rw [processReferral, given] at bound
    dsimp only at bound
    rw [error] at bound
    cases bound
  · intro unbroken response after alone
    obtain ⟨user, org, opened, platform, refreshTokens, opens, bound, issued, rfl, rfl⟩ :=
      register_ok_iff.mp alone
    cases (processReferral_none user org opened).symm.trans bound
    obtain ⟨rows, bound'⟩ := processReferral_done bind (fun refCode given error =>
      unbroken ⟨refCode, user, org, opened, given, opens, ⟨refreshTokens, issued⟩, error⟩)
    have success : register env bind request s = .ok (_, _) :=
      register_ok_iff.mpr ⟨user, org, opened, _, refreshTokens, opens, bound', issued, rfl, rfl⟩
    refine ⟨⟨_, success⟩, ?_⟩
    unfold signup
    rw [success]
    exact ⟨rfl, rfl, rfl, rfl, rfl⟩

/-! ## The guarantee -/

/-- Whatever the partner code does, the caller's writes are committed, except
where it meets a database error and there was something to commit. -/
theorem survives_iff (host : Runtime) (settings : BillingSettings) (record : RecordPayment)
    (reply : PaystackReply) (reference : String) (db : Database) (env : SignupEnvironment)
    (bind : BindReferral) (request : RegisterRequest) (s : SignupDatabase) :
    (VerificationSurvives host settings record reply reference db ↔
      ¬ ∃ orgId data written,
        VerificationBroken host settings record reply reference db orgId data written) ∧
    (RegistrationSurvives env bind request s ↔ ¬ ∃ refCode user org opened,
      RegistrationBroken env bind request s refCode user org opened) :=
  ⟨verification_survives_iff, registration_survives_iff⟩

/-! ## A long reference, and a code with a NUL -/

/-- An organization whose owner a partner referred. -/
def referredOrg : Database := { oneOrg.database with ledger := Partners.oneCustomer }

/-- A payment reference of 201 characters: `billing_event_id` takes 200. -/
def longReference : String := String.ofList (List.replicate 201 'r')

def subscriptionReply : PaystackReply :=
  .json (.obj [("status", .bool true), ("data", .obj [("status", .str "success"),
    ("amount", .int 1900), ("subscription_code", .str "SUB_1"),
    ("metadata", .obj [("org_id", .str oneOrgText), ("plan", .str "starter")])])])

def longVerification : Except Failure (VerifyTransactionResponse × Work) :=
  verifyTransactionAround oneOrgHost oneOrgSettings
    (recordUndisturbed oneOrgHost oneOrgSettings longReference 0 100) subscriptionReply
    longReference referredOrg

def signupServer : SignupEnvironment where
  service := KeyConfinement.ciServer
  auth := TokenFamilies.sampleEnvironment
  accessToken := "access-1"
  refreshToken := TokenFamilies.firstJwt
  hexPrefix _ := "00000000"

def nulSignup : RegisterRequest :=
  ⟨"new@example.com", "correct horse", "New User", none, some "\x00"⟩

def signupTables : SignupDatabase := ⟨KeyConfinement.oneKeyPlatform, .empty⟩

/-- The plan of a verified payment and the account of a valid registration are
lost to an error of the partner code. -/
theorem partner_error_undoes_caller :
    ¬ VerificationSurvives oneOrgHost oneOrgSettings
        (recordUndisturbed oneOrgHost oneOrgSettings longReference 0 100) subscriptionReply
        longReference referredOrg ∧
      ¬ RegistrationSurvives signupServer (bindReferral signupServer) nulSignup signupTables := by
  constructor
  · intro survives
    have wrote : longVerification.toOption.map (fun answer =>
        (answer.1.verified, answer.2.database.organizations.rows.map (·.plan))) =
          some (true, [.starter]) := by decide +kernel
    have kept : (finish referredOrg longVerification).organizations.rows.map (·.plan) =
        [.free] := by decide +kernel
    cases answered : longVerification with
    | error failure =>
      rw [answered] at wrote
      cases wrote
    | ok answer =>
      obtain ⟨response, work⟩ := answer
      have same : (finish referredOrg longVerification).organizations =
          work.database.organizations := (survives response work answered).1
      rw [answered] at wrote
      have plans : work.database.organizations.rows.map (·.plan) = [.starter] :=
        congrArg Prod.snd (Option.some.inj wrote)
      rw [← same, kept] at plans
      exact absurd plans (by decide)
  · intro survives
    have goes : (register signupServer noPartnerCode nulSignup signupTables).toOption.isSome =
        true := by decide
    have fails : (register signupServer (bindReferral signupServer) nulSignup
        signupTables).toOption.isSome = false := by decide
    cases alone : register signupServer noPartnerCode nulSignup signupTables with
    | error failure =>
      rw [alone] at goes
      cases goes
    | ok answer =>
      obtain ⟨⟨after, success⟩, _⟩ := survives answer.1 answer.2 alone
      rw [success] at fails
      cases fails

end Reliastra.Guarantees.PartnerIsolation
