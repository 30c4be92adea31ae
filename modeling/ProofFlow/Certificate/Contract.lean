import ProofFlow.Models
import ProofFlow.Wire

/-!
# ActionCertificate contracts

The DSSE envelope and the in-toto statement of an action certificate, with the validators of each
model.  A model with a validator extends its fields with the evidence that the validator accepted
them, so a statement that violates its contract cannot be built.  The certificate's own timestamps
may carry any UTC offset: they are compared as instants, and the validators normalize them to UTC
only to raise when that is impossible.
-/

namespace ProofFlow

open Kit

def dssePayloadType : Str := lit "application/vnd.in-toto+json"

def maxEnvelopeBytes : ℕ := 256 * 1024

def maxPayloadBytes : ℕ := 128 * 1024

def maxSignatures : ℕ := 16

/-! ## The DSSE envelope -/

structure DsseSignature where
  keyid : LocalText 0 128
  sig : Base64Text (some 64) true
  deriving DecidableEq

structure DsseEnvelope where
  payload : Base64Text none true
  signatures : Items DsseSignature 1 maxSignatures
  /-- `payload_is_bounded_canonical_base64`. -/
  payload_le : payload.bytes.length ≤ maxPayloadBytes

/-- `dsse_pae`: the DSSE v1 pre-authentication encoding. -/
def dssePae (payloadType : Str) (payload : Bytes) : Bytes :=
  let typeBytes := encodeUtf8 payloadType
  encodeUtf8 (lit "DSSEv1 ") ++ encodeUtf8 (decimalText typeBytes.length) ++ encodeUtf8 (lit " ") ++
    typeBytes ++ encodeUtf8 (lit " ") ++ encodeUtf8 (decimalText payload.length) ++
    encodeUtf8 (lit " ") ++ payload

/-! ## Bindings -/

structure InTotoSubject where
  name : LocalText 1 256
  digest : { s : Str // isHexOfLength 64 s = true }
  deriving DecidableEq

structure PrincipalBinding where
  principalId : Identifier
  identityIssuer : Text 1 256
  deriving DecidableEq

structure DelegationHopFields where
  delegator : Identifier
  delegatee : Identifier
  scopeSha256 : Sha256Text
  deriving DecidableEq

/-- `reject_self_delegation`. -/
def DelegationHopFields.validate (h : DelegationHopFields) : Except PyErr Unit :=
  raiseIf (h.delegator = h.delegatee) "delegator and delegatee must differ"

structure DelegationHop extends DelegationHopFields where
  valid : toDelegationHopFields.validate = .ok ()
  deriving DecidableEq

structure SubjectBinding where
  subjectType : Text 1 128
  subjectId : Text 1 256
  attributesSha256 : Sha256Text
  deriving DecidableEq

structure ActionBinding where
  actionName : Text 1 128
  parametersSha256 : Sha256Text
  deriving DecidableEq

structure ResourceBinding where
  resourceType : Text 1 128
  resourceId : Text 1 512
  attributesSha256 : Sha256Text
  deriving DecidableEq

structure ContextBinding where
  requestId : Identifier
  traceId : Identifier
  environment : Text 1 64
  attributesSha256 : Sha256Text
  deriving DecidableEq

structure PolicyBindingFields where
  policyId : Identifier
  policyRevision : Text 1 128
  policySha256 : Sha256Text
  evaluatedAt : DateTime
  expiresAt : DateTime
  deriving DecidableEq

/-- `validate_policy_window`. -/
def PolicyBindingFields.validate (b : PolicyBindingFields) : Except PyErr Unit := do
  let evaluated ← requireAware b.evaluatedAt "policy evaluated_at"
  let expires ← requireAware b.expiresAt "policy expires_at"
  raiseIf (expires ≤ evaluated) "policy expires_at must follow evaluated_at"

structure PolicyBinding extends PolicyBindingFields where
  valid : toPolicyBindingFields.validate = .ok ()
  deriving DecidableEq

structure ApprovalBindingFields where
  required : Bool
  approvalId : Option Identifier
  scopeSha256 : Option Sha256Text
  approverPrincipals : Items Str 0 16
  expiresAt : Option DateTime
  deriving DecidableEq

/-- `validate_approver_principals`, then `enforce_conditional_shape`. -/
def ApprovalBindingFields.validate (b : ApprovalBindingFields) : Except PyErr Unit := do
  raiseIf (¬ b.approverPrincipals.val.Nodup) "approver principals must be unique"
  raiseIf (∃ p ∈ b.approverPrincipals.val, p = [] ∨ 128 < p.length) "approver principal is invalid"
  if b.required then
    match b.approvalId, b.scopeSha256, b.approverPrincipals.val, b.expiresAt with
    | some _, some _, _ :: _, some t =>
      let _ ← requireAware t "approval expires_at"
      return
    | _, _, _, _ =>
      .error (.valueError "approval-required certificates need complete approval binding")
  else
    raiseIf (b.approvalId ≠ none ∨ b.scopeSha256 ≠ none ∨ b.approverPrincipals.val ≠ [] ∨
      b.expiresAt ≠ none) "approval fields must be absent when approval is not required"

structure ApprovalBinding extends ApprovalBindingFields where
  valid : toApprovalBindingFields.validate = .ok ()
  deriving DecidableEq

structure EffectBinding where
  effectType : Text 1 128
  target : Text 1 512
  requestSha256 : Sha256Text
  idempotencyKey : Identifier
  deriving DecidableEq

/-- The literal of a classification. -/
def DataClassification.value : DataClassification → Str
  | .publicSynthetic => lit "PUBLIC_SYNTHETIC"
  | .internal => lit "INTERNAL"
  | .restricted => lit "RESTRICTED"

/-! ## The statement -/

structure ActionCertificatePredicateFields where
  certificateId : Identifier
  tenantId : Identifier
  humanPrincipal : PrincipalBinding
  workloadPrincipal : PrincipalBinding
  audience : Text 1 256
  delegationChain : Items DelegationHop 0 16
  subject : SubjectBinding
  action : ActionBinding
  resource : ResourceBinding
  context : ContextBinding
  dataClassification : DataClassification
  policy : PolicyBinding
  approval : ApprovalBinding
  effect : EffectBinding
  nonce : Identifier
  issuedAt : DateTime
  notBefore : DateTime
  expiresAt : DateTime
  deriving DecidableEq

/-- Some hop does not start where the hop before it ended. -/
def delegationGap (chain : List DelegationHop) : Prop :=
  ∃ p ∈ chain.zip chain.tail, p.1.delegatee ≠ p.2.delegator

instance (chain : List DelegationHop) : Decidable (delegationGap chain) :=
  inferInstanceAs (Decidable (∃ p ∈ _, _))

/-- `validate_certificate_window_and_delegation`. -/
def ActionCertificatePredicateFields.validate (p : ActionCertificatePredicateFields) :
    Except PyErr Unit := do
  let issued ← requireAware p.issuedAt "issued_at"
  let notBefore ← requireAware p.notBefore "not_before"
  let expires ← requireAware p.expiresAt "expires_at"
  raiseIf (notBefore < issued) "not_before must not precede issued_at"
  raiseIf (expires ≤ notBefore) "expires_at must follow not_before"
  raiseIf (p.issuedAt.instant < p.policy.evaluatedAt.instant)
    "policy evaluation must not follow certificate issuance"
  raiseIf (p.policy.expiresAt.instant < p.expiresAt.instant)
    "policy authorization must cover the certificate lifetime"
  raiseIf (∃ t ∈ p.approval.expiresAt, t.instant < p.expiresAt.instant)
    "approval must cover the certificate lifetime"
  let chain := p.delegationChain.val
  raiseIf (¬ chain.Nodup) "delegation hops must be unique"
  if chain = [] then
    raiseIf (p.humanPrincipal.principalId ≠ p.workloadPrincipal.principalId)
      "distinct principals require an explicit delegation chain"
  else do
    raiseIf (∃ h ∈ chain.head?, h.delegator ≠ p.humanPrincipal.principalId)
      "delegation chain must begin at the human principal"
    raiseIf (delegationGap chain) "delegation chain is not contiguous"
    raiseIf (∃ h ∈ chain.getLast?, h.delegatee ≠ p.workloadPrincipal.principalId)
      "delegation chain must end at the workload principal"

structure ActionCertificatePredicate extends ActionCertificatePredicateFields where
  valid : toActionCertificatePredicateFields.validate = .ok ()
  deriving DecidableEq

structure ActionCertificateStatementFields where
  subject : Items InTotoSubject 1 64
  predicate : ActionCertificatePredicate
  deriving DecidableEq

/-- `subjects_are_unique`. -/
def ActionCertificateStatementFields.validate (s : ActionCertificateStatementFields) :
    Except PyErr Unit :=
  raiseIf (¬ (s.subject.val.map InTotoSubject.name).Nodup) "in-toto subject names must be unique"

structure ActionCertificateStatement extends ActionCertificateStatementFields where
  valid : toActionCertificateStatementFields.validate = .ok ()
  deriving DecidableEq

/-! ## Facts the validators establish -/

namespace ActionCertificatePredicate

variable (p : ActionCertificatePredicate)

theorem issuedAt_le_notBefore : p.issuedAt.instant ≤ p.notBefore.instant := by
  have h := p.valid
  simp only [ActionCertificatePredicateFields.validate, bind_eq_ok, raiseIf_eq_ok] at h
  obtain ⟨issued, hi, notBefore, hn, _, -, _, hlt, -⟩ := h
  rw [← requireAware_instant hi, ← requireAware_instant hn]
  exact UtcTime.instant_le.2 (not_lt.1 hlt)

theorem policy_evaluatedAt_le : p.policy.evaluatedAt.instant ≤ p.issuedAt.instant := by
  have h := p.valid
  simp only [ActionCertificatePredicateFields.validate, bind_eq_ok, raiseIf_eq_ok] at h
  obtain ⟨_, -, _, -, _, -, _, -, _, -, _, hle, -⟩ := h
  exact not_lt.1 hle

end ActionCertificatePredicate

/-! ## Decoders -/

namespace Decode

def dsseSignature : Decoder DsseSignature :=
  model ["keyid", "sig"] fun o =>
    DsseSignature.mk <$> fieldOr o "keyid" ⟨[], by decide⟩ (localText 0 128)
      <*> field o "sig" (base64 88 88 (some 64) true)

/-- The payload with the bound on its decoded length. -/
def dssePayload (payload : Base64Text none true)
    (signatures : Items DsseSignature 1 maxSignatures) :
    Validation PyErr DsseEnvelope :=
  if h : payload.bytes.length ≤ maxPayloadBytes then .ok ⟨payload, signatures, h⟩ else .invalid

def dsseEnvelope : Decoder DsseEnvelope :=
  model ["payloadType", "payload", "signatures"] fun o =>
    ((fun _ payload signatures => (payload, signatures)) <$>
        field o "payloadType" (literal "application/vnd.in-toto+json")
      <*> field o "payload" (base64 1 ((maxPayloadBytes + 2) / 3 * 4) none true)
      <*> field o "signatures" (items 1 maxSignatures dsseSignature)).andThen fun e =>
        dssePayload e.1 e.2

def sha256DigestSet : Decoder { s : Str // isHexOfLength 64 s = true } :=
  model ["sha256"] fun o => field o "sha256" (strWith fun s => isHexOfLength 64 s = true)

def inTotoSubject : Decoder InTotoSubject :=
  model ["name", "digest"] fun o =>
    InTotoSubject.mk <$> field o "name" (localText 1 256)
      <*> field o "digest" sha256DigestSet

def principalBinding : Decoder PrincipalBinding :=
  model ["principal_id", "identity_issuer"] fun o =>
    PrincipalBinding.mk <$> field o "principal_id" identifier
      <*> field o "identity_issuer" (text 1 256)

def delegationHop : Decoder DelegationHop :=
  modelAfter ["delegator", "delegatee", "scope_sha256"] DelegationHop.mk fun o =>
    DelegationHopFields.mk <$> field o "delegator" identifier
      <*> field o "delegatee" identifier
      <*> field o "scope_sha256" sha256

def subjectBinding : Decoder SubjectBinding :=
  model ["subject_type", "subject_id", "attributes_sha256"] fun o =>
    SubjectBinding.mk <$> field o "subject_type" (text 1 128)
      <*> field o "subject_id" (text 1 256)
      <*> field o "attributes_sha256" sha256

def actionBinding : Decoder ActionBinding :=
  model ["action_name", "parameters_sha256"] fun o =>
    ActionBinding.mk <$> field o "action_name" (text 1 128)
      <*> field o "parameters_sha256" sha256

def resourceBinding : Decoder ResourceBinding :=
  model ["resource_type", "resource_id", "attributes_sha256"] fun o =>
    ResourceBinding.mk <$> field o "resource_type" (text 1 128)
      <*> field o "resource_id" (text 1 512)
      <*> field o "attributes_sha256" sha256

def contextBinding : Decoder ContextBinding :=
  model ["request_id", "trace_id", "environment", "attributes_sha256"] fun o =>
    ContextBinding.mk <$> field o "request_id" identifier
      <*> field o "trace_id" identifier
      <*> field o "environment" (text 1 64)
      <*> field o "attributes_sha256" sha256

def policyBindingFields (P : Platform) : Decoder PolicyBindingFields :=
  model ["policy_id", "policy_revision", "policy_sha256", "decision", "evaluated_at",
      "expires_at"] fun o =>
    (fun id revision digest (_ : Unit) => PolicyBindingFields.mk id revision digest) <$>
        field o "policy_id" identifier
      <*> field o "policy_revision" (text 1 128)
      <*> field o "policy_sha256" sha256
      <*> field o "decision" (literal "ALLOW")
      <*> field o "evaluated_at" (datetime P)
      <*> field o "expires_at" (datetime P)

def policyBinding (P : Platform) : Decoder PolicyBinding := fun j =>
  after PolicyBinding.mk (policyBindingFields P j)

def approvalBindingFields (P : Platform) : Decoder ApprovalBindingFields :=
  model ["required", "approval_id", "scope_sha256", "approver_principals", "expires_at"] fun o =>
    ApprovalBindingFields.mk <$> field o "required" boolean
      <*> fieldOr o "approval_id" none (optional identifier)
      <*> fieldOr o "scope_sha256" none (optional sha256)
      <*> fieldOr o "approver_principals" ⟨[], by decide⟩ (items 0 16 str)
      <*> fieldOr o "expires_at" none (optional (datetime P))

def approvalBinding (P : Platform) : Decoder ApprovalBinding := fun j =>
  after ApprovalBinding.mk (approvalBindingFields P j)

def effectBinding : Decoder EffectBinding :=
  model ["effect_type", "target", "request_sha256", "idempotency_key"] fun o =>
    EffectBinding.mk <$> field o "effect_type" (text 1 128)
      <*> field o "target" (text 1 512)
      <*> field o "request_sha256" sha256
      <*> field o "idempotency_key" identifier

def dataClassification : Decoder DataClassification :=
  enumeration [("PUBLIC_SYNTHETIC", .publicSynthetic), ("INTERNAL", .internal),
    ("RESTRICTED", .restricted)]

def actionCertificatePredicateFields (P : Platform) : Decoder ActionCertificatePredicateFields :=
  model ["version", "certificate_id", "tenant_id", "human_principal", "workload_principal",
      "audience", "delegation_chain", "subject", "action", "resource", "context",
      "data_classification", "policy", "approval", "effect", "nonce", "issued_at", "not_before",
      "expires_at"] fun o =>
    (fun (_ : Unit) => ActionCertificatePredicateFields.mk) <$>
        field o "version" (literal "0.1")
      <*> field o "certificate_id" identifier
      <*> field o "tenant_id" identifier
      <*> field o "human_principal" principalBinding
      <*> field o "workload_principal" principalBinding
      <*> field o "audience" (text 1 256)
      <*> field o "delegation_chain" (items 0 16 delegationHop)
      <*> field o "subject" subjectBinding
      <*> field o "action" actionBinding
      <*> field o "resource" resourceBinding
      <*> field o "context" contextBinding
      <*> field o "data_classification" dataClassification
      <*> field o "policy" (policyBinding P)
      <*> field o "approval" (approvalBinding P)
      <*> field o "effect" effectBinding
      <*> field o "nonce" identifier
      <*> field o "issued_at" (datetime P)
      <*> field o "not_before" (datetime P)
      <*> field o "expires_at" (datetime P)

def actionCertificatePredicate (P : Platform) : Decoder ActionCertificatePredicate := fun j =>
  after ActionCertificatePredicate.mk (actionCertificatePredicateFields P j)

def actionCertificateStatement (P : Platform) : Decoder ActionCertificateStatement :=
  modelAfter ["_type", "subject", "predicateType", "predicate"]
      ActionCertificateStatement.mk fun o =>
    (fun (_ : Unit) subject (_ : Unit) => ActionCertificateStatementFields.mk subject) <$>
        field o "_type" (literal "https://in-toto.io/Statement/v1")
      <*> field o "subject" (items 1 64 inTotoSubject)
      <*> field o "predicateType"
        (literal "https://proofflow.dev/attestations/action-certificate/v0.1")
      <*> field o "predicate" (actionCertificatePredicate P)

@[simp] theorem quiet_dsseSignature (j : Json Str) : (dsseSignature j).Quiet := by
  simp [dsseSignature, localText]

@[simp] theorem quiet_sha256DigestSet (j : Json Str) : (sha256DigestSet j).Quiet := by
  simp [sha256DigestSet]

@[simp] theorem quiet_inTotoSubject (j : Json Str) : (inTotoSubject j).Quiet := by
  simp [inTotoSubject, localText]

@[simp] theorem quiet_principalBinding (j : Json Str) : (principalBinding j).Quiet := by
  simp [principalBinding, identifier, text]

/-- Parsing an envelope never raises anything but a `ValueError`. -/
theorem quiet_dsseEnvelope (j : Json Str) : (dsseEnvelope j).Quiet := by
  refine quiet_model fun o => ?_
  rw [Validation.quiet_andThen]
  refine ⟨by simp, fun e _ => ?_⟩
  exact Validation.quiet_dite (fun _ => Validation.quiet_ok _) (fun _ => Validation.quiet_invalid)

end Decode

/-! ## Opening an envelope -/

/-- The envelope and its decoded payload. -/
def openEnvelope (P : Platform) (envelopeBytes : Bytes) (label payloadLabel : String) :
    Except PyErr (DsseEnvelope × Bytes) := do
  let envelope ← parseJsonModel P Decode.dsseEnvelope envelopeBytes label
  let payload ← decodeCanonicalBase64 envelope.payload.text payloadLabel none true
  return (envelope, payload)

theorem openEnvelope_eq_ok {P : Platform} {envelopeBytes payload : Bytes}
    {label payloadLabel : String} {envelope : DsseEnvelope}
    (h : openEnvelope P envelopeBytes label payloadLabel = .ok (envelope, payload)) :
    parseJsonModel P Decode.dsseEnvelope envelopeBytes label = .ok envelope ∧
      payload = envelope.payload.bytes := by
  obtain ⟨e, he, h⟩ := bind_eq_ok.1 h
  rw [Base64Text.decode_eq] at h
  obtain ⟨rfl, rfl⟩ := Prod.mk.inj (Except.ok.inj h)
  exact ⟨he, rfl⟩

/-- An envelope that cannot be opened is refused with a `ValueError`. -/
theorem openEnvelope_error {P : Platform} {envelopeBytes : Bytes} {label payloadLabel : String}
    {e : PyErr} (h : openEnvelope P envelopeBytes label payloadLabel = .error e) :
    e.isValueError = true := by
  rcases bind_eq_error.1 h with h | ⟨envelope, -, h⟩
  · exact parseJsonModel_error Decode.quiet_dsseEnvelope h
  · rw [Base64Text.decode_eq] at h
    cases h

/-! ## Canonical envelopes -/

/-- The bytes of an Ed25519 signature. -/
abbrev SignatureBytes := { b : Bytes // b.length = 64 }

/-- A signature without a key hint. -/
def DsseSignature.unnamed (sig : SignatureBytes) : DsseSignature where
  keyid := ⟨[], by decide⟩
  sig := .ofBytes sig.val (by simpa using sig.property)

/-- The parts of an envelope with unnamed signatures, within the limits of its contract. -/
structure EnvelopeParts where
  payload : Bytes
  signatures : List SignatureBytes
  payload_length : 1 ≤ payload.length ∧ payload.length ≤ maxPayloadBytes
  signatures_length : 1 ≤ signatures.length ∧ signatures.length ≤ maxSignatures

namespace EnvelopeParts

/-- The members of the envelope. -/
def members (e : EnvelopeParts) : List (Str × Canon) :=
  [member "payload" (.str (b64encode false [] e.payload)),
    member "payloadType" (.str (lit "application/vnd.in-toto+json")),
    member "signatures" (.arr (e.signatures.map fun sig =>
      .obj [member "sig" (.str (b64encode false [] sig.val))]))]

/-- The envelope as its canonical bytes. -/
def bytes (e : EnvelopeParts) : Bytes := canonicalJson (.obj e.members)

/-- The envelope as its contract. -/
def envelope (e : EnvelopeParts) : DsseEnvelope where
  payload := .ofBytes e.payload (by simp)
  signatures := ⟨e.signatures.map DsseSignature.unnamed, by simpa using e.signatures_length⟩
  payload_le := e.payload_length.2

end EnvelopeParts

theorem flatMap_escapeChar_eq_self {s : Str} (h : ∀ c ∈ s, escapeChar c = [c]) :
    s.flatMap escapeChar = s := by
  induction s with
  | nil => rfl
  | cons c s ih =>
    obtain ⟨hc, hs⟩ := List.forall_mem_cons.1 h
    rw [List.flatMap_cons, hc, ih hs, List.singleton_append]

/-- An encoding is written as it stands. -/
theorem dumpString_b64encode (urlsafe : Bool) (b : Bytes) :
    dumpString (b64encode urlsafe [] b) = '"' :: (b64encode urlsafe [] b ++ ['"']) := by
  have checked : ∀ u : Bool, ∀ k : Fin 64, escapeChar (base64Char u k) = [base64Char u k] := by
    decide
  have hself : ∀ c ∈ b64encode urlsafe [] b, escapeChar c = [c] := by
    intro c hc
    rcases mem_b64encode b hc with ⟨n, hn, rfl⟩ | rfl
    · exact checked urlsafe ⟨n, hn⟩
    · decide
  unfold dumpString
  rw [flatMap_escapeChar_eq_self hself]
  rfl

theorem length_dumped_b64encode (b : Bytes) :
    (encodeUtf8 (dumpString (b64encode false [] b))).length = (b.length + 2) / 3 * 4 + 2 := by
  rw [dumpString_b64encode, length_encodeUtf8]
  · simp [length_b64encode]
  · intro c hc
    simp only [List.mem_cons, List.mem_append, List.not_mem_nil, or_false] at hc
    rcases hc with rfl | hc | rfl
    · decide
    · exact b64encode_ascii hc
    · decide

theorem Decode.base64_b64encode {lo hi : ℕ} {n : Option ℕ} {b : Bytes}
    (hlo : lo ≤ (b.length + 2) / 3 * 4) (hhi : (b.length + 2) / 3 * 4 ≤ hi)
    (hlen : ∀ k ∈ n, b.length = k) :
    Decode.base64 lo hi n true (.str (b64encode false [] b)) = .ok (.ofBytes b hlen) := by
  unfold Decode.base64
  simp only [Decode.str, strip_b64encode, Validation.andThen, length_b64encode]
  rw [if_pos ⟨hlo, hhi⟩]
  split
  · next b' hb =>
    rw [decodeCanonicalBase64_b64encode (by simp) "" hlen] at hb
    obtain rfl := Except.ok.inj hb
    rfl
  · next e hb =>
    rw [decodeCanonicalBase64_b64encode (by simp) "" hlen] at hb
    cases hb

theorem Decode.dsseSignature_unnamed (sig : SignatureBytes) :
    Decode.dsseSignature (Canon.obj [member "sig" (.str (b64encode false [] sig.val))]).parsed =
      .ok (.unnamed sig) := by
  have hsig : (sig.val.length + 2) / 3 * 4 = 88 := by rw [sig.property]
  have hbase := Decode.base64_b64encode (n := some 64) hsig.ge hsig.le (by simpa using sig.property)
  have hfield : Decode.field [(lit "sig", .str (b64encode false [] sig.val))] "sig"
      (Decode.base64 88 88 (some 64) true) = .ok (.ofBytes sig.val (by simpa using sig.property)) :=
    hbase
  change (DsseSignature.mk <$> Validation.ok _ <*> Decode.field
    [(lit "sig", .str (b64encode false [] sig.val))] "sig" _).orInvalid true = _
  rw [hfield]
  rfl

theorem Decode.traverse_dsseSignature (signatures : List SignatureBytes) :
    Validation.traverse Decode.dsseSignature (parsedItems (signatures.map fun sig =>
      .obj [member "sig" (.str (b64encode false [] sig.val))])) =
        .ok (signatures.map DsseSignature.unnamed) := by
  induction signatures with
  | nil => rfl
  | cons sig signatures ih =>
    simp only [List.map_cons, parsedItems, Validation.traverse, ih]
    rw [Decode.dsseSignature_unnamed]
    rfl

namespace EnvelopeParts

variable (e : EnvelopeParts)

theorem decode_members : Decode.dsseEnvelope (Canon.obj e.members).parsed = .ok e.envelope := by
  have hlen := e.payload_length
  have hpayload : Decode.base64 1 ((maxPayloadBytes + 2) / 3 * 4) none true
      (.str (b64encode false [] e.payload)) = .ok (.ofBytes e.payload (by simp)) := by
    refine Decode.base64_b64encode ?_ ?_ (by simp)
    · omega
    · have hmax : maxPayloadBytes = 131072 := rfl
      omega
  have hitems : Decode.items 1 maxSignatures Decode.dsseSignature (.arr (parsedItems
      (e.signatures.map fun sig => .obj [member "sig" (.str (b64encode false [] sig.val))]))) =
      .ok e.envelope.signatures := by
    simp only [Decode.items, Decode.traverse_dsseSignature, Validation.andThen, List.length_map]
    rw [dif_pos e.signatures_length]
    rfl
  have hparsed : (Canon.obj e.members).parsed = .obj [
      (lit "payload", .str (b64encode false [] e.payload)),
      (lit "payloadType", .str (lit "application/vnd.in-toto+json")),
      (lit "signatures", .arr (parsedItems (e.signatures.map fun sig =>
        .obj [member "sig" (.str (b64encode false [] sig.val))])))] := rfl
  rw [hparsed]
  change (((fun _ payload signatures => (payload, signatures)) <$> Validation.ok ()
      <*> Decode.base64 1 ((maxPayloadBytes + 2) / 3 * 4) none true
        (.str (b64encode false [] e.payload))
      <*> Decode.items 1 maxSignatures Decode.dsseSignature (.arr (parsedItems
        (e.signatures.map fun sig => .obj [member "sig" (.str (b64encode false [] sig.val))])))
    ).andThen fun e => Decode.dssePayload e.1 e.2).orInvalid true = _
  rw [hpayload, hitems]
  have hdecoded : Decode.dssePayload e.envelope.payload e.envelope.signatures = .ok e.envelope :=
    dif_pos hlen.2
  exact congrArg (Validation.orInvalid true) hdecoded

theorem readable_members {depth : ℕ} (h : 3 ≤ depth) :
    (Canon.obj e.members).readable depth = true := by
  obtain ⟨depth, rfl⟩ := Nat.exists_eq_add_of_le' h
  have hitems : itemsReadable (depth + 1) (e.signatures.map fun sig =>
      .obj [member "sig" (.str (b64encode false [] sig.val))]) = true := by
    rw [itemsReadable_iff]
    intro v hv
    obtain ⟨sig, -, rfl⟩ := List.mem_map.1 hv
    rfl
  have hlevel : depth + 3 - 1 - 1 = depth + 1 := by omega
  simp only [members, member] at hitems ⊢
  simp only [Canon.readable, membersReadable, hlevel, hitems]
  simp

theorem passesHooks_members : (Canon.obj e.members).loaded.passesHooks = true := by
  have hitems : itemsPassHooks (loadedItems (e.signatures.map fun sig =>
      .obj [member "sig" (.str (b64encode false [] sig.val))])) = true := by
    induction e.signatures with
    | nil => rfl
    | cons sig signatures ih => exact ih
  have hloaded : (Canon.obj e.members).loaded = .obj [
      (toPyStr (lit "payload"), .str (toPyStr (b64encode false [] e.payload))),
      (toPyStr (lit "payloadType"), .str (toPyStr (lit "application/vnd.in-toto+json"))),
      (toPyStr (lit "signatures"), .arr (loadedItems (e.signatures.map fun sig =>
        .obj [member "sig" (.str (b64encode false [] sig.val))])))] := rfl
  rw [hloaded]
  simp only [Json.passesHooks, membersPassHooks, hitems, List.map_cons, List.map_nil]
  decide

/-- The text of the signatures. -/
def signaturesText (signatures : List SignatureBytes) : Str :=
  joinWith [] (signatures.map fun sig =>
    lit "\x7b\"sig\":" ++ (dumpString (b64encode false [] sig.val) ++ lit "\x7d"))

theorem length_signaturesText {signatures : List SignatureBytes} (h : signatures ≠ []) :
    (encodeUtf8 (signaturesText signatures)).length + 1 = 99 * signatures.length := by
  have hone (sig : SignatureBytes) : (encodeUtf8 (lit "\x7b\"sig\":" ++
      (dumpString (b64encode false [] sig.val) ++ lit "\x7d"))).length = 98 := by
    have hopen : (encodeUtf8 (lit "\x7b\"sig\":")).length = 7 := by decide
    have hclose : (encodeUtf8 (lit "\x7d")).length = 1 := by decide
    simp only [encodeUtf8_append, List.length_append, hopen, hclose, length_dumped_b64encode,
      sig.property]
  have hcomma (s : Str) : (encodeUtf8 (',' :: s)).length = (encodeUtf8 s).length + 1 := rfl
  induction signatures with
  | nil => exact absurd rfl h
  | cons sig signatures ih =>
    cases signatures with
    | nil => exact congrArg (· + 1) (hone sig)
    | cons sig' signatures =>
      have hrest := ih (by simp)
      simp only [signaturesText, List.map_cons, joinWith_cons_cons, List.nil_append] at hrest ⊢
      rw [encodeUtf8_append, List.length_append, hone, hcomma, List.length_cons]
      omega

theorem render_signature (s : Str) :
    Canon.render .compact 2 (.obj [member "sig" (.str s)]) =
      lit "\x7b\"sig\":" ++ (dumpString s ++ lit "\x7d") := by
  have hkey : dumpString (lit "sig") = lit "\"sig\"" := by decide
  have hopen : lit "\x7b\"sig\":" = '{' :: (lit "\"sig\"" ++ [':']) := by decide
  have hclose : lit "\x7d" = ['}'] := by decide
  rw [hopen, hclose]
  simp [Canon.render, renderMembers, sortMembers, Layout.enclose, Layout.compact, member, joinWith,
    hkey]

theorem render_signatures : Canon.render .compact 1 (.arr (e.signatures.map fun sig =>
    .obj [member "sig" (.str (b64encode false [] sig.val))])) =
      '[' :: (signaturesText e.signatures ++ [']']) := by
  have hitems : renderItems .compact 2 (e.signatures.map fun sig =>
      .obj [member "sig" (.str (b64encode false [] sig.val))]) =
      e.signatures.map fun sig =>
        lit "\x7b\"sig\":" ++ (dumpString (b64encode false [] sig.val) ++ lit "\x7d") := by
    rw [renderItems_eq, List.map_map]
    exact List.map_congr_left fun sig _ => render_signature _
  have hne : e.signatures ≠ [] := List.length_pos_iff.1 e.signatures_length.1
  rw [Canon.render, hitems, Layout.enclose, if_neg (mt List.map_eq_nil_iff.1 hne)]
  simp [Layout.compact, signaturesText]

theorem dumps_members : (Canon.obj e.members).dumps = lit "\x7b\"payload\":" ++
    (dumpString (b64encode false [] e.payload) ++
      (lit ",\"payloadType\":\"application/vnd.in-toto+json\",\"signatures\":[" ++
        (signaturesText e.signatures ++ lit "]\x7d"))) := by
  have hsorted (a b c : Str) : sortMembers [(lit "payload", a), (lit "payloadType", b),
      (lit "signatures", c)] = [(lit "payload", a), (lit "payloadType", b),
      (lit "signatures", c)] := rfl
  have hopen : lit "\x7b\"payload\":" = '{' :: (dumpString (lit "payload") ++ [':']) := by decide
  have hmiddle : lit ",\"payloadType\":\"application/vnd.in-toto+json\",\"signatures\":[" =
      ',' :: (dumpString (lit "payloadType") ++ ':' ::
        (dumpString (lit "application/vnd.in-toto+json") ++ ',' ::
          (dumpString (lit "signatures") ++ [':', '[']))) := by decide
  have hclose : lit "]\x7d" = [']', '}'] := by decide
  have hmembers : renderMembers .compact 1 e.members = [
      (lit "payload", dumpString (b64encode false [] e.payload)),
      (lit "payloadType", dumpString (lit "application/vnd.in-toto+json")),
      (lit "signatures", '[' :: (signaturesText e.signatures ++ [']']))] := by
    rw [← e.render_signatures]
    rfl
  rw [hopen, hmiddle, hclose, Canon.dumps, Canon.render, hmembers, hsorted]
  simp [Layout.enclose, joinWith, Layout.compact]

/-- The size of a canonical envelope. -/
theorem length_bytes : e.bytes.length + 1 =
    (e.payload.length + 2) / 3 * 4 + 99 * e.signatures.length + 75 := by
  have hne : e.signatures ≠ [] := List.length_pos_iff.1 e.signatures_length.1
  have hsigs := length_signaturesText hne
  have hopen : (encodeUtf8 (lit "\x7b\"payload\":")).length = 11 := by decide
  have hmiddle : (encodeUtf8 (lit
      ",\"payloadType\":\"application/vnd.in-toto+json\",\"signatures\":[")).length =
        60 := by decide
  have hclose : (encodeUtf8 (lit "]\x7d")).length = 2 := by decide
  rw [bytes, canonicalJson, dumps_members]
  simp only [encodeUtf8_append, List.length_append, hopen, hmiddle, hclose,
    length_dumped_b64encode]
  omega

theorem head_bytes : e.bytes.head? = some 0x7b := by
  rw [bytes, canonicalJson, dumps_members]
  rfl

/-- An envelope written as canonical JSON opens to its payload. -/
theorem openEnvelope_bytes {P : Platform} (hP : P.ReadsText) (hlimit : 3 ≤ P.recursionLimit)
    (label payloadLabel : String) :
    openEnvelope P e.bytes label payloadLabel = .ok (e.envelope, e.payload) := by
  have hparse : parseJsonModel P Decode.dsseEnvelope e.bytes label = .ok e.envelope :=
    parseJsonModel_canonicalJson hP (e.readable_members hlimit) e.passesHooks_members
      e.decode_members
  unfold openEnvelope
  rw [hparse, ok_bind, Base64Text.decode_eq]
  rfl

end EnvelopeParts

end ProofFlow
