/-
# The standard domains

The six domains of the business: onboarding of a client, verification of identity, discovery of
beneficial owners, investments in a fund, custody of assets, and regulatory clearance.  Identity
verification establishes the fact `kyc_approved`, on which the others build.
-/
import Casebook.Domain

namespace Casebook
namespace Standard

/-! ## 1. Common arguments -/

/-- An argument of a type. -/
def argument (name : String) (type : ArgumentType) (required : Bool) : ArgumentSpec :=
  { name, type, required }

/-- A text that is not empty. -/
def text (name : String) (required : Bool) : ArgumentSpec :=
  { name, type := .string, required, constraints := [.minLength 1, .maxLength 512] }

/-- The pattern `^[A-Z]{2}$`. -/
def twoCapitals : String := "^[A-Z]\x7b2\x7d$"

/-- The pattern `^[A-Z]{3}$`. -/
def threeCapitals : String := "^[A-Z]\x7b3\x7d$"

/-- The pattern `^[A-Z0-9]{8}([A-Z0-9]{3})?$`. -/
def bankCode : String := "^[A-Z0-9]\x7b8\x7d([A-Z0-9]\x7b3\x7d)?$"

/-- A country by two letters. -/
def country (name : String) (required : Bool) : ArgumentSpec :=
  { name, type := .string, required, constraints := [.pattern twoCapitals "must be 2 letters"] }

/-- A currency by three letters. -/
def currency (name : String) (required : Bool) : ArgumentSpec :=
  { name, type := .string, required, constraints := [.pattern threeCapitals "must be 3 letters"] }

/-- An amount above zero. -/
def amount (name : String) (required : Bool) : ArgumentSpec :=
  { name, type := .decimal, required, constraints := [.above .zero] }

/-- A number from zero to one hundred. -/
def percentage (name : String) (required : Bool) : ArgumentSpec :=
  { name, type := .decimal, required, constraints := [.atLeast .zero, .atMost .hundred] }

/-- One of some words, with a default. -/
def choice (name : String) (allowed : List String) (usual : String) : ArgumentSpec :=
  { name, type := .enum allowed, required := false,
    whenMissing := some (.literal (.identifier usual)) }

/-- A transition from any of some states. -/
def leads (sources : List String) (target : String) : Option Transition :=
  some ⟨.ofList sources, target⟩

/-- The guard on the approval of a client's identity. -/
def approvalGuard : Guard :=
  .flag "kyc_approved" "KYC must be approved for this entity"

/-! ## 2. Onboarding -/

/-- The states in which an onboarding case is under way. -/
def openCaseStates : List String :=
  ["CREATED", "PRODUCTS_ADDED", "KYC_STARTED", "SERVICES_DISCOVERED", "RESOURCES_PLANNED"]

/-- The states of an onboarding case. -/
def onboardingMachine : MachineDraft :=
  let steps : MachineDraft := {
    domain := "onboarding"
    initial := "CREATED"
    transitions := [
      ("CREATED", ["PRODUCTS_ADDED"]),
      ("PRODUCTS_ADDED", ["KYC_STARTED"]),
      ("KYC_STARTED", ["SERVICES_DISCOVERED"]),
      ("SERVICES_DISCOVERED", ["RESOURCES_PLANNED"]),
      ("RESOURCES_PLANNED", ["COMPLETE"])]
    terminal := ["COMPLETE", "ARCHIVED"]
    guards := [approvalGuard]
    guarded := [⟨"RESOURCES_PLANNED", "COMPLETE", ["kyc_approved"]⟩] }
  steps.fromEach openCaseStates "ARCHIVED"

/-- Onboarding of a client, from the opening of the case to its completion. -/
def onboarding : DomainDraft where
  name := "onboarding"
  description := "Client onboarding workflow from case creation to completion"
  states := openCaseStates ++ ["COMPLETE", "ARCHIVED"]
  verbs := [
    { name := "case.update"
      category := "case"
      description := "Update descriptive fields of the onboarding case"
      args := [text "name" false, text "notes" false]
      groups := [.atLeastOneOf ["name", "notes"]] },
    { name := "cbu.associate"
      category := "case"
      description := "Associate the case with a client business unit"
      args := [argument "cbu-id" .uuid true, country "jurisdiction" false] },
    { name := "products.add"
      category := "products"
      description := "Add products to the onboarding case"
      args := [{ argument "product" (.enum ["CUSTODY", "FUND_ACCOUNTING", "TRANSFER_AGENCY"]) true
        with description := "Product code" }]
      transition := leads ["CREATED"] "PRODUCTS_ADDED"
      idempotent := true },
    { name := "onboarding.start-kyc"
      category := "workflow"
      description := "Hand the case over to KYC"
      transition := leads ["PRODUCTS_ADDED"] "KYC_STARTED" },
    { name := "services.discover"
      category := "workflow"
      description := "Record the services required by the selected products"
      args := [text "service" false, choice "sla" ["STANDARD", "PREMIUM"] "STANDARD"]
      transition := leads ["KYC_STARTED"] "SERVICES_DISCOVERED" },
    { name := "resources.plan"
      category := "workflow"
      description := "Plan resources for the discovered services"
      args := [text "resource" false]
      transition := leads ["SERVICES_DISCOVERED"] "RESOURCES_PLANNED" },
    { name := "onboarding.complete"
      category := "workflow"
      description := "Complete onboarding"
      transition := leads ["RESOURCES_PLANNED"] "COMPLETE" },
    { name := "onboarding.archive"
      category := "workflow"
      description := "Archive the case"
      args := [text "reason" true]
      transition := leads openCaseStates "ARCHIVED" }]
  machine := onboardingMachine
  keywords := ["onboarding", "onboard", "case", "products", "product", "services", "resources",
    "cbu", "client"]
  contextKeys := ["onboarding_case_id", "cbu_id"]

/-! ## 3. Verification of identity -/

/-- Verification of a client's identity by documents and screening. -/
def kyc : DomainDraft where
  name := "kyc"
  description := "Know Your Customer verification: documents, screening and approval"
  states := ["KYC_NOT_STARTED", "KYC_PENDING", "KYC_IN_REVIEW", "KYC_APPROVED", "KYC_REJECTED"]
  verbs := [
    { name := "kyc.begin"
      category := "case"
      description := "Open a KYC case for the entity"
      args := [
        { choice "level" ["SIMPLIFIED", "STANDARD", "ENHANCED"] "STANDARD"
          with description := "Due diligence level" },
        { country "jurisdiction" false with whenMissing := some (.fromContext "jurisdiction") }]
      transition := leads ["KYC_NOT_STARTED"] "KYC_PENDING"
      produces := some "kyc_case_id" },
    { name := "kyc.collect-document"
      category := "documents"
      description := "Record a document received from the client"
      args := [text "document-type" true, text "reference" false] },
    { name := "kyc.verify-documents"
      category := "documents"
      description := "Confirm every collected document has been verified"
      args := [text "verified-by" false]
      facts := [("documents_verified", .bool true)] },
    { name := "kyc.screen"
      category := "screening"
      description := "Send the entity to sanctions and PEP screening"
      args := [text "provider" false]
      transition := leads ["KYC_PENDING"] "KYC_IN_REVIEW" },
    { name := "kyc.clear-screening"
      category := "screening"
      description := "Record a clear screening result"
      facts := [("screening_clear", .bool true)] },
    { name := "kyc.approve"
      category := "decision"
      description := "Approve the KYC case"
      args := [text "approver" false]
      transition := leads ["KYC_PENDING", "KYC_IN_REVIEW"] "KYC_APPROVED"
      facts := [("kyc_approved", .bool true)] },
    { name := "kyc.reject"
      category := "decision"
      description := "Reject the KYC case"
      args := [text "reason" true]
      transition := leads ["KYC_PENDING", "KYC_IN_REVIEW"] "KYC_REJECTED"
      facts := [("kyc_approved", .bool false)] }]
  machine := {
    domain := "kyc"
    initial := "KYC_NOT_STARTED"
    transitions := [
      ("KYC_NOT_STARTED", ["KYC_PENDING"]),
      ("KYC_PENDING", ["KYC_IN_REVIEW", "KYC_APPROVED", "KYC_REJECTED"]),
      ("KYC_IN_REVIEW", ["KYC_APPROVED", "KYC_REJECTED"])]
    terminal := ["KYC_APPROVED", "KYC_REJECTED"]
    guards := [
      .flag "documents_verified" "All KYC documents must be verified",
      .flag "screening_clear" "Sanctions and PEP screening must be clear"]
    guarded := [
      ⟨"KYC_PENDING", "KYC_APPROVED", ["documents_verified"]⟩,
      ⟨"KYC_IN_REVIEW", "KYC_APPROVED", ["documents_verified", "screening_clear"]⟩] }
  keywords := ["kyc", "know your customer", "identity", "verification", "verify", "documents",
    "passport", "screening", "due diligence"]
  contextKeys := ["kyc_case_id"]

/-! ## 4. Beneficial owners -/

/-- Discovery of the beneficial owners behind a structure of entities. -/
def ubo : DomainDraft where
  name := "ubo"
  description := "Ultimate beneficial ownership discovery and verification"
  states := ["UBO_NOT_STARTED", "ENTITIES_DECLARED", "OWNERSHIP_MAPPED", "UBO_IDENTIFIED",
    "UBO_VERIFIED"]
  verbs := [
    { name := "ubo.declare-entity"
      category := "structure"
      description := "Declare an entity in the ownership structure"
      args := [
        text "name" true,
        argument "entity-type" (.enum ["CORPORATE", "INDIVIDUAL", "TRUST", "PARTNERSHIP", "FUND"])
          true,
        country "jurisdiction" false]
      transition := leads ["UBO_NOT_STARTED"] "ENTITIES_DECLARED"
      idempotent := true },
    { name := "ubo.link-ownership"
      category := "structure"
      description := "Record that one entity owns a share of another"
      args := [text "owner" true, text "owned" true, percentage "percentage" true]
      transition := leads ["ENTITIES_DECLARED"] "OWNERSHIP_MAPPED"
      idempotent := true
      produces := some "ubo_case_id" },
    { name := "ubo.mark-complete"
      category := "structure"
      description := "Confirm the ownership structure is complete"
      facts := [("ownership_complete", .bool true)] },
    { name := "ubo.identify"
      category := "analysis"
      description := "Identify beneficial owners above the threshold"
      args := [{ percentage "threshold" false
        with whenMissing := some (.literal (.number .twentyFive)) }]
      transition := leads ["OWNERSHIP_MAPPED"] "UBO_IDENTIFIED" },
    { name := "ubo.verify"
      category := "analysis"
      description := "Verify the identified beneficial owners"
      transition := leads ["UBO_IDENTIFIED"] "UBO_VERIFIED" }]
  machine := {
    domain := "ubo"
    initial := "UBO_NOT_STARTED"
    transitions := [
      ("UBO_NOT_STARTED", ["ENTITIES_DECLARED"]),
      ("ENTITIES_DECLARED", ["OWNERSHIP_MAPPED"]),
      ("OWNERSHIP_MAPPED", ["UBO_IDENTIFIED"]),
      ("UBO_IDENTIFIED", ["UBO_VERIFIED"])]
    terminal := ["UBO_VERIFIED"]
    guards := [
      .flag "ownership_complete" "The ownership structure must be fully mapped",
      approvalGuard]
    guarded := [
      ⟨"OWNERSHIP_MAPPED", "UBO_IDENTIFIED", ["ownership_complete"]⟩,
      ⟨"UBO_IDENTIFIED", "UBO_VERIFIED", ["kyc_approved"]⟩] }
  keywords := ["ubo", "beneficial", "ownership", "owner", "owners", "shareholder", "control",
    "structure"]
  contextKeys := ["ubo_case_id"]

/-! ## 5. Investors -/

/-- Subscriptions of an investor to a fund, and redemptions. -/
def investor : DomainDraft where
  name := "investor"
  description := "Fund investor subscriptions, holdings and redemptions"
  states := ["PROSPECT", "SUBSCRIPTION_PENDING", "ACTIVE", "REDEMPTION_PENDING", "CLOSED"]
  verbs := [
    { name := "subscribe.request"
      category := "subscription"
      description := "Request a subscription into the fund"
      args := [
        { argument "investor" .string true with constraints := [.minLength 1, .maxLength 256] },
        amount "amount" true,
        currency "currency" true,
        argument "trade-date" .date false]
      transition := leads ["PROSPECT"] "SUBSCRIPTION_PENDING"
      produces := some "subscription_id" },
    { name := "subscribe.confirm-funds"
      category := "subscription"
      description := "Confirm subscription funds were received"
      args := [amount "amount" false]
      facts := [("funds_received", .bool true)] },
    { name := "subscribe.settle"
      category := "subscription"
      description := "Settle the subscription and activate the holding"
      args := [{ argument "subscription-id" .uuid false
        with whenMissing := some (.fromContext "subscription_id") }]
      transition := leads ["SUBSCRIPTION_PENDING"] "ACTIVE" },
    { name := "redeem.request"
      category := "redemption"
      description := "Request a redemption by units or by percentage of holdings"
      args := [
        amount "units" false,
        percentage "percentage" false,
        choice "channel" ["DIRECT", "PLATFORM"] "DIRECT"]
      groups := [.exactlyOneOf ["units", "percentage"]]
      transition := leads ["ACTIVE"] "REDEMPTION_PENDING" },
    { name := "redeem.settle"
      category := "redemption"
      description := "Settle a pending redemption"
      transition := leads ["REDEMPTION_PENDING"] "ACTIVE" },
    { name := "investor.close"
      category := "lifecycle"
      description := "Close the investor account"
      args := [text "reason" false]
      transition := leads ["ACTIVE"] "CLOSED" }]
  machine := {
    domain := "investor"
    initial := "PROSPECT"
    transitions := [
      ("PROSPECT", ["SUBSCRIPTION_PENDING"]),
      ("SUBSCRIPTION_PENDING", ["ACTIVE"]),
      ("ACTIVE", ["REDEMPTION_PENDING", "CLOSED"]),
      ("REDEMPTION_PENDING", ["ACTIVE"])]
    terminal := ["CLOSED"]
    guards := [
      .flag "funds_received" "Subscription funds must be received",
      approvalGuard,
      .threshold "zero_holdings" "holdings" .equal .zero "Investor must hold no units"]
    guarded := [
      ⟨"SUBSCRIPTION_PENDING", "ACTIVE", ["funds_received", "kyc_approved"]⟩,
      ⟨"ACTIVE", "CLOSED", ["zero_holdings"]⟩] }
  keywords := ["investor", "subscription", "subscribe", "redeem", "redemption", "units", "holdings",
    "shares", "fund"]
  contextKeys := ["investor_id", "subscription_id"]

/-! ## 6. Custody -/

/-- Custody accounts and their settlement instructions. -/
def custody : DomainDraft where
  name := "custody"
  description := "Custody accounts and standing settlement instructions"
  states := ["NOT_OPENED", "ACCOUNT_OPEN", "SSI_CONFIGURED", "ACTIVE", "CLOSED"]
  verbs := [
    { name := "custody.open-account"
      category := "account"
      description := "Open a custody account"
      args := [
        argument "account-type" (.enum ["SEGREGATED", "OMNIBUS"]) true,
        currency "base-currency" true]
      transition := leads ["NOT_OPENED"] "ACCOUNT_OPEN"
      produces := some "custody_account_id" },
    { name := "custody.configure-ssi"
      category := "settlement"
      description := "Configure a standing settlement instruction for a market"
      args := [
        text "market" true,
        currency "currency" true,
        { argument "bic" .string true
          with constraints := [.pattern bankCode "must be an 8 or 11 character BIC"] }]
      transition := leads ["ACCOUNT_OPEN"] "SSI_CONFIGURED"
      idempotent := true },
    { name := "custody.activate"
      category := "account"
      description := "Activate the account for trading"
      transition := leads ["SSI_CONFIGURED"] "ACTIVE" },
    { name := "custody.close"
      category := "account"
      description := "Close the custody account"
      args := [text "reason" false]
      transition := leads ["ACTIVE"] "CLOSED" }]
  machine := {
    domain := "custody"
    initial := "NOT_OPENED"
    transitions := [
      ("NOT_OPENED", ["ACCOUNT_OPEN"]),
      ("ACCOUNT_OPEN", ["SSI_CONFIGURED"]),
      ("SSI_CONFIGURED", ["ACTIVE"]),
      ("ACTIVE", ["CLOSED"])]
    terminal := ["CLOSED"]
    guards := [approvalGuard]
    guarded := [⟨"SSI_CONFIGURED", "ACTIVE", ["kyc_approved"]⟩] }
  keywords := ["custody", "custodian", "safekeeping", "account", "ssi", "settlement",
    "instructions"]
  contextKeys := ["custody_account_id"]

/-! ## 7. Regulatory clearance -/

/-- Clearance of an entity for the tax and regulatory rules of a jurisdiction. -/
def compliance : DomainDraft where
  name := "compliance"
  description := "Jurisdictional tax and regulatory clearance"
  states := ["NOT_ASSESSED", "ASSESSED", "ESCALATED", "CLEARED"]
  verbs := [
    { name := "compliance.assess"
      category := "assessment"
      description := "Assess regulatory obligations for a jurisdiction"
      args := [
        { country "jurisdiction" true with whenMissing := some (.fromContext "jurisdiction") },
        choice "risk-rating" ["LOW", "MEDIUM", "HIGH"] "MEDIUM"]
      transition := leads ["NOT_ASSESSED"] "ASSESSED"
      produces := some "compliance_case_id" },
    { name := "compliance.receive-tax-forms"
      category := "documents"
      description := "Record receipt of tax self-certification forms"
      args := [
        argument "form-type" (.enum ["W8BEN", "W8BENE", "W9", "CRS"]) true,
        argument "received-on" .date false]
      facts := [("tax_forms_received", .bool true)] },
    { name := "compliance.escalate"
      category := "assessment"
      description := "Escalate the case for manual review"
      args := [text "reason" true]
      transition := leads ["ASSESSED"] "ESCALATED" },
    { name := "compliance.resolve-escalation"
      category := "assessment"
      description := "Record the outcome of a manual review"
      args := [text "resolution" true]
      facts := [("escalation_resolved", .bool true)] },
    { name := "compliance.clear"
      category := "assessment"
      description := "Clear the entity for the jurisdiction"
      transition := leads ["ASSESSED", "ESCALATED"] "CLEARED" }]
  machine := {
    domain := "compliance"
    initial := "NOT_ASSESSED"
    transitions := [
      ("NOT_ASSESSED", ["ASSESSED"]),
      ("ASSESSED", ["CLEARED", "ESCALATED"]),
      ("ESCALATED", ["CLEARED"])]
    terminal := ["CLEARED"]
    guards := [
      .flag "tax_forms_received" "Tax self-certification forms must be received",
      .flag "escalation_resolved" "The escalation must be resolved"]
    guarded := [
      ⟨"ASSESSED", "CLEARED", ["tax_forms_received"]⟩,
      ⟨"ESCALATED", "CLEARED", ["escalation_resolved", "tax_forms_received"]⟩] }
  keywords := ["compliance", "regulatory", "fatca", "crs", "tax", "sanctions", "jurisdiction",
    "escalate"]
  contextKeys := ["compliance_case_id"]

/-! ## 8. All of them -/

/-- The standard domains, in the order of their registration. -/
def drafts : List DomainDraft :=
  [onboarding, kyc, ubo, investor, custody, compliance]

/-- The standard domain of a name. -/
def draft? (name : String) : Option DomainDraft :=
  drafts.find? (·.name == name)

end Standard

end Casebook
