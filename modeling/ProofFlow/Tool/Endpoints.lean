import ProofFlow.Calculation.Accepted
import ProofFlow.Evidence.Answers
import ProofFlow.Kit.Triple
import ProofFlow.Python.JsonSpelling
import ProofFlow.Tool.Registry

/-!
# The endpoints of the tool service

`do_POST` from where the body of an authorized request has been read.  The body is validated and the
skill of the path runs inside a `try`; an ingestion that succeeds registers its objects there.  What
the `try` leaves is sent afterwards, and the sender replaces a body that exceeds the limit of the
server.
-/

namespace ProofFlow

open Kit

/-! ## Requests -/

/-- A context whose caller and kind are literals of its class. -/
abbrev ToolContext (identity : Filled) :=
  { c : SkillContext // c.callerIdentity = identity ∧ c.actorKind = .agent }

abbrev EvidenceIngestToolContext := ToolContext evidenceAgent

abbrev RuleRetrieveToolContext := ToolContext ruleAgent

abbrev DeterministicCalculateToolContext := ToolContext calculationAgent

/-- `b64decode(value, validate=True)` of a string. -/
def strictBase64 (value : Str) : Option Bytes := (encodeAscii value).bind (b64decode [])

/-- `EvidenceIngestToolArguments`. -/
structure EvidenceIngestToolArguments where
  documentId : Filled
  mediaType : Filled
  declaredSha256 : Sha256Text
  rawContentBase64 : Stripped
  strict : (strictBase64 rawContentBase64.val).isSome = true

/-- `to_skill_request`. -/
def EvidenceIngestToolArguments.toSkillRequest (a : EvidenceIngestToolArguments) :
    EvidenceIngestRequest where
  documentId := ⟨a.documentId.val, a.documentId.property.1⟩
  mediaType := ⟨a.mediaType.val, a.mediaType.property.1⟩
  declaredSha256 := a.declaredSha256.stripped
  rawContent := (strictBase64 a.rawContentBase64.val).get a.strict

/-- `EvidenceIngestToolCall`. -/
structure EvidenceIngestToolCall where
  context : EvidenceIngestToolContext
  arguments : EvidenceIngestToolArguments

/-- `RuleRetrieveToolCall`. -/
structure RuleRetrieveToolCall where
  context : RuleRetrieveToolContext
  arguments : RuleRetrieveRequest

/-- `DeterministicCalculateToolCall`. -/
structure DeterministicCalculateToolCall where
  context : DeterministicCalculateToolContext
  arguments : CalculateRequest

/-- `EVIDENCE_INGEST_PATH`, `RULE_RETRIEVE_PATH` and `DETERMINISTIC_CALCULATE_PATH`. -/
inductive ToolPath where
  | evidenceIngest
  | ruleRetrieve
  | deterministicCalculate
  deriving DecidableEq

/-- A request with the body that was read and the time of `self.tool_server.clock()`. -/
structure ToolRequest where
  path : ToolPath
  body : Bytes
  now : DateTime

/-- An entry of `details`. -/
structure ErrorDetail where
  location : List Str
  type : Str

/-- The code outside the repository that the handler runs on. -/
structure ToolLibraries where
  platform : Platform
  /-- The text of the float that a numeral denotes. -/
  repr : Str → Str
  /-- `str(exc)` in `evidence_ingest`. -/
  ingestText : EvidenceIngestRequest → Str
  /-- `str(exc)` in `deterministic_calculate`. -/
  calculateText : (Str → Option Str) → Str
  /-- `EvidenceIngestToolCall.model_validate_json`. -/
  evidenceIngestCall : Bytes → Option EvidenceIngestToolCall
  /-- `RuleRetrieveToolCall.model_validate_json`. -/
  ruleRetrieveCall : Bytes → Option RuleRetrieveToolCall
  /-- `DeterministicCalculateToolCall.model_validate_json`. -/
  deterministicCalculateCall : Bytes → Option DeterministicCalculateToolCall
  /-- `exc.errors(...)` of the `ValidationError` that a request ends with. -/
  errors : ToolRequest → List ErrorDetail

/-! ## Responses -/

/-- `status.value` and the body; the headers depend on nothing but these. -/
structure Response where
  status : ℕ
  body : Bytes

/-- An object without whitespace, from its keys and the texts of its values. -/
def objectText (members : List (Str × Str)) : Str :=
  Layout.compact.enclose 0 '{' '}' (members.map (memberText Layout.compact.colon))

/-- An array without whitespace, from the texts of its items. -/
def arrayText (items : List Str) : Str := Layout.compact.enclose 0 '[' ']' items

def ErrorDetail.dumps (d : ErrorDetail) : Str :=
  objectText [(lit "location", arrayText (d.location.map dumpString)),
    (lit "type", dumpString d.type)]

/-- `json.dumps({"error": error}, ...)`, where `details` is a key only if there are some. -/
def errorBody (code message : String) (details : List ErrorDetail) : Bytes :=
  encodeUtf8 (objectText [(lit "error", objectText (
    [(lit "code", dumpString (lit code)), (lit "message", dumpString (lit message))] ++
      if details = [] then [] else [(lit "details", arrayText (details.map ErrorDetail.dumps))]))])

/-- `_RESPONSE_TOO_LARGE_BODY`. -/
def responseTooLargeBody : Bytes := encodeUtf8 (lit
  ("\x7b\"error\":\x7b\"code\":\"RESPONSE_TOO_LARGE\"," ++
    "\"message\":\"response exceeds configured limit\"\x7d\x7d"))

/-- `ProofFlowToolHTTPServer`, without the registry. -/
structure ToolServer where
  catalog : RuleCatalog
  apiToken : { s : Str // s ≠ [] }
  maxBodyBytes : { n : ℕ // 1 ≤ n }
  maxResponseBytes : ℕ
  holds_errors : responseTooLargeBody.length ≤ maxResponseBytes

namespace ToolServer

variable (server : ToolServer)

/-- `_send_json` of an encoded payload. -/
def sendJson (status : ℕ) (body : Bytes) : Response :=
  if server.maxResponseBytes < body.length then ⟨500, responseTooLargeBody⟩
  else ⟨status, body⟩

/-- `_send_error`. -/
def sendError (status : ℕ) (code message : String) (details : List ErrorDetail) : Response :=
  server.sendJson status (errorBody code message details)

end ToolServer

/-- The result of a skill. -/
inductive ToolResult where
  | evidence (result : SkillResult EvidenceIngestOutput)
  | rules (result : SkillResult RuleRetrieveOutput)
  | sheet (result : SkillResult CalculateOutput)

def ToolResult.dump : ToolResult → Value
  | .evidence result => result.dump EvidenceIngestOutput.dump
  | .rules result => result.dump RuleRetrieveOutput.dump
  | .sheet result => result.dump CalculateOutput.dump

/-- The bytes of `json.dumps(canonicalize(model), ...)`; a canonical structure is already sorted. -/
def ToolResult.answer (result : ToolResult) : Except Fault Bytes := do
  let canonical ← canonicalize [] result.dump
  return canonicalJson canonical

/-! ## The handler -/

/-- How the `try` is left before its end. -/
inductive PostExit where
  | raised (fault : Fault)
  /-- An error was sent. -/
  | sent (response : Response)

/-- A computation that leaves the registry alone. -/
def raising {α : Type} (m : Except Fault α) : Action TrustedArtifactStore PostExit α :=
  match m with
  | .ok a => pure a
  | .error e => throw (.raised e)

/-- A body that was validated. -/
def validated {α : Type} (call : Option α) : Action TrustedArtifactStore PostExit α :=
  match call with
  | some c => pure c
  | none => throw (.raised .validationError)

section Handler

variable (L : ToolLibraries) (server : ToolServer)

/-- What an exception of `register_all` leads to. -/
def registrationExit : Fault → PostExit
  | .trustedArtifactStoreCapacityError => .sent (server.sendError 503
      "TRUST_STORE_CAPACITY_EXHAUSTED" "trusted Evidence registry capacity is exhausted" [])
  | .trustedArtifactStoreRegistrationError _ => .sent (server.sendError 500
      "TRUST_STORE_REGISTRATION_FAILED" "trusted Evidence could not be registered" [])
  | e => .raised e

/-- The registration of the objects of an output. -/
def register (output : EvidenceIngestOutput) : Action TrustedArtifactStore PostExit Unit := fun s =>
  match s.registerAll L.platform output.evidenceObjects with
  | (.ok _, s') => (.ok (), s')
  | (.error e, s') => (.error (registrationExit server e), s')

/-- The registration of what an ingestion returned, if it succeeded. -/
def registerResult (result : SkillResult EvidenceIngestOutput) :
    Action TrustedArtifactStore PostExit Unit :=
  match result.status, result.value with
  | .success, some output => register L server output
  | _, _ => pure ()

/-- The body of the `try` of `do_POST`. -/
def runTool (request : ToolRequest) : Action TrustedArtifactStore PostExit ToolResult :=
  match request.path with
  | .evidenceIngest => do
    let call ← validated (L.evidenceIngestCall request.body)
    let result ← raising (evidenceIngest L.platform L.repr L.ingestText call.context.val
      call.arguments.toSkillRequest request.now)
    registerResult L server result
    pure (.evidence result)
  | .ruleRetrieve => do
    let call ← validated (L.ruleRetrieveCall request.body)
    let result ← raising (ruleRetrieve L.platform call.context.val call.arguments server.catalog
      request.now)
    pure (.rules result)
  | .deterministicCalculate => do
    let call ← validated (L.deterministicCalculateCall request.body)
    let store ← get
    let result ← raising (deterministicCalculate L.platform L.calculateText call.context.val
      call.arguments server.catalog store request.now)
    pure (.sheet result)

/-- The response to what the `try` leaves; an exception ends the connection without one. -/
def respond (request : ToolRequest) : Except PostExit ToolResult → Except Fault Response
  | .ok result =>
    match result.answer with
    | .ok body => .ok (server.sendJson 200 body)
    | .error e =>
      if e.isTypeOrValueError then
        .ok (server.sendError 500 "RESPONSE_SERIALIZATION_FAILED"
          "request could not be completed" [])
      else .error e
  | .error (.sent response) => .ok response
  | .error (.raised .validationError) => .ok (server.sendError 422
      "SCHEMA_VALIDATION_FAILED" "request does not match the tool schema" (L.errors request))
  | .error (.raised _) => .ok (server.sendError 500 "INTERNAL_ERROR"
      "request could not be completed" [])

/-- The part of `do_POST` after the body was read. -/
def postBody (store : TrustedArtifactStore) (request : ToolRequest) :
    Except Fault Response × TrustedArtifactStore :=
  (respond L server request ((runTool L server request).perform store).1,
    ((runTool L server request).perform store).2)

end Handler

/-! ## What a request does to the registry -/

/-- The request is an ingestion that succeeds with the output. -/
structure Ingests (L : ToolLibraries) (request : ToolRequest) (call : EvidenceIngestToolCall)
    (result : SkillResult EvidenceIngestOutput) (output : EvidenceIngestOutput) : Prop where
  path : request.path = .evidenceIngest
  validated : L.evidenceIngestCall request.body = some call
  returned : evidenceIngest L.platform L.repr L.ingestText call.context.val
    call.arguments.toSkillRequest request.now = .ok result
  status : result.status = .success
  value : result.value = some output

section Effects

variable {P : Platform} {L : ToolLibraries} {server : ToolServer} {store : TrustedArtifactStore}
  {request : ToolRequest}

theorem perform_raising_snd {α : Type} (m : Except Fault α) (s : TrustedArtifactStore) :
    ((raising m).perform s).2 = s := by
  cases m <;> rfl

theorem perform_raising_eq_ok {α : Type} {m : Except Fault α} {a : α}
    {s s' : TrustedArtifactStore} :
    (raising m).perform s = (.ok a, s') ↔ m = .ok a ∧ s = s' := by
  cases m <;> simp [raising, Action.perform, pure, throw, throwThe, MonadExceptOf.throw,
    ExceptT.pure, ExceptT.mk, StateT.pure, ExceptT.run, StateT.run, Id.run]

theorem perform_validated_snd {α : Type} (call : Option α) (s : TrustedArtifactStore) :
    ((validated call).perform s).2 = s := by
  cases call <;> rfl

theorem perform_validated_eq_ok {α : Type} {call : Option α} {c : α} {s s' : TrustedArtifactStore} :
    (validated call).perform s = (.ok c, s') ↔ call = some c ∧ s = s' := by
  cases call <;> simp [validated, Action.perform, pure, throw, throwThe, MonadExceptOf.throw,
    ExceptT.pure, ExceptT.mk, StateT.pure, ExceptT.run, StateT.run, Id.run]

/-- An action that leaves the registry alone and is followed by one that does keeps it. -/
theorem perform_bind_snd {α β : Type} {m : Action TrustedArtifactStore PostExit α}
    {f : α → Action TrustedArtifactStore PostExit β} {s : TrustedArtifactStore}
    (hm : (m.perform s).2 = s) (hf : ∀ a, m.perform s = (.ok a, s) → ((f a).perform s).2 = s) :
    ((m >>= f).perform s).2 = s := by
  rcases h : m.perform s with ⟨e | a, s'⟩
  · rw [Action.perform_bind_error h, ← hm, h]
  · rw [h] at hm
    obtain rfl : s' = s := hm
    rw [Action.perform_bind_ok h]
    exact hf a h

/-- A successful ingestion is registered, and this is all that can still fail. -/
theorem runTool_of_ingests {call : EvidenceIngestToolCall}
    {result : SkillResult EvidenceIngestOutput} {output : EvidenceIngestOutput}
    (h : Ingests L request call result output) :
    (runTool L server request).perform store =
      match store.registerAll L.platform output.evidenceObjects with
      | (.ok _, s) => (.ok (.evidence result), s)
      | (.error e, s) => (.error (registrationExit server e), s) := by
  have hcall : (validated (L.evidenceIngestCall request.body)).perform store = (.ok call, store) :=
    perform_validated_eq_ok.2 ⟨h.validated, rfl⟩
  have hresult : (raising (evidenceIngest L.platform L.repr L.ingestText call.context.val
      call.arguments.toSkillRequest request.now)).perform store = (.ok result, store) :=
    perform_raising_eq_ok.2 ⟨h.returned, rfl⟩
  have hregister : registerResult L server result = register L server output := by
    unfold registerResult
    rw [h.status, h.value]
  unfold runTool
  rw [h.path]
  dsimp only
  rw [Action.perform_bind_ok hcall, Action.perform_bind_ok hresult, hregister]
  rcases hstore : store.registerAll L.platform output.evidenceObjects with ⟨e | ⟨⟩, s⟩
  · have herror : (register L server output).perform store =
        (.error (registrationExit server e), s) := by
      change register L server output store = _
      unfold register
      rw [hstore]
    exact Action.perform_bind_error herror
  · have hok : (register L server output).perform store = (.ok (), s) := by
      change register L server output store = _
      unfold register
      rw [hstore]
    exact Action.perform_bind_ok hok

/-- A successful ingestion whose objects the registry takes. -/
theorem runTool_of_registered {call : EvidenceIngestToolCall}
    {result : SkillResult EvidenceIngestOutput} {output : EvidenceIngestOutput}
    (h : Ingests L request call result output)
    (hregister : (store.registerAll L.platform output.evidenceObjects).1 = .ok ()) :
    (runTool L server request).perform store =
      (.ok (.evidence result), (store.registerAll L.platform output.evidenceObjects).2) := by
  rw [runTool_of_ingests h]
  rcases hstore : store.registerAll L.platform output.evidenceObjects with ⟨e | ⟨⟩, s⟩
  · rw [hstore] at hregister
    cases hregister
  · rfl

/-- Every other request leaves the registry alone. -/
theorem runTool_of_not_ingests (h : ∀ call result output, ¬ Ingests L request call result output) :
    ((runTool L server request).perform store).2 = store := by
  unfold runTool
  cases hpath : request.path with
  | evidenceIngest =>
    refine perform_bind_snd (perform_validated_snd _ _) fun call hcall => ?_
    refine perform_bind_snd (perform_raising_snd _ _) fun result hresult => ?_
    refine perform_bind_snd ?_ fun _ _ => rfl
    unfold registerResult
    split
    · rename_i output hstatus hvalue
      exact absurd ⟨hpath, (perform_validated_eq_ok.1 hcall).1, (perform_raising_eq_ok.1 hresult).1,
        hstatus, hvalue⟩ (h call result output)
    · rfl
  | ruleRetrieve =>
    refine perform_bind_snd (perform_validated_snd _ _) fun call _ => ?_
    exact perform_bind_snd (perform_raising_snd _ _) fun result _ => rfl
  | deterministicCalculate =>
    refine perform_bind_snd (perform_validated_snd _ _) fun call _ => ?_
    refine perform_bind_snd rfl fun s hs => ?_
    exact perform_bind_snd (perform_raising_snd _ _) fun result _ => rfl

end Effects

namespace Sample

/-- A document with the four parameters of the calculation. -/
def documentContent : Bytes := encodeUtf8 (lit
  ("\x7b\"employment_start_date\":\"2020-01-01\"," ++
    "\"local_previous_year_monthly_average_wage\":\"5000\",\"monthly_wage_average\":\"10000\"," ++
    "\"planned_termination_date\":\"2021-01-01\"\x7d"))

/-- The digests of the document, of its ingestion, and of the calculation from what it returns. -/
def servicePlatform : Platform := platformOf (
  [(159, 0xe7b4cfd170accefd2b60572e7f15f6318935959d2c549e246e379373d5906df6),
    (482, 0xb7b1a663aec078e7c97ce23b853c1b829f29888d4d7fa9e2bc0afe63619a14cd),
    (81, 0x8c5845abaf392837d8f10e179e4151b294dc35b86653f932ecc500aff9ffeffb),
    (94, 0xa5de12bf31a6d35083973bb3ff129aa74fd47d01a6c8b686cbddfcfe99985cfd),
    (75, 0x09c1ff39c4cc0459c0356e1a29f4bf606a05dd6f992ca93a873c6fe5aaddb22e),
    (84, 0x033aca5dc228d6ffb79c4c9947ed1e3e1c1cc788b3bd5169f79d5ed607b4e526),
    (536, 0x68b4890c42a5add6750f334a237dd00f2f10df8ce62e59ce8c045c88b49e1331),
    (562, 0x875bb2003862fb5d91d223ca2368b4651acf8834f80ac33dc368549747ce8ae3),
    (524, 0x0319cae2e194ac5ae9f0fa88ba19e5dcb94d9c9bac0c8a627946a60b1b80b8ef),
    (542, 0x21e1996a4d6f0045ef5ce769a2cce350f2543236f170e66592a4232da0bf8d2e),
    (2654, 0x4c0b920d1c8e0baada2dd80fdc9dcf3659b438bfd5788a26102e1d9f677e96af),
    (295, 0x27075798b0a79e68f4fdfb3a1a1516c4faf9f1ed5ebf61458f70b5c35681a385),
    (148, 0x211d9473bf36cdbc21f2c487dffe39dba6181c244da4fdb5c371c7cbc58ae304),
    (1177, 0x61776fe482c63c45cfe389170773bfdce349ce245a7db3ec8fc899476266f92c),
    (4278, 0xc137db39842e002b1b4caa4cbf2b93a05d9d669164049a213632021a046e37ec),
    (1276, 0x100719b8a7942ef29465e5269d1eecda8d1682d61d05f903109534f41c9c3109)] ++ inputDigests)

def ingestCall : EvidenceIngestToolCall where
  context := ⟨agentContext evidenceAgent, rfl, rfl⟩
  arguments := {
    documentId := named "doc-1"
    mediaType := named "application/json"
    declaredSha256 := sha256Bytes servicePlatform documentContent
    rawContentBase64 := ⟨b64encode false [] documentContent, strip_b64encode _⟩
    strict := by decide }

/-- The JSON of a call. -/
def callBody (context : SkillContext) (arguments : Canon) : Bytes :=
  canonicalJson (.obj [member "fixture_status" (.str (lit "SYNTHETIC")),
    member "context" (.obj [
      member "tenant_id" (.str context.tenantId.val), member "case_id" (.str context.caseId.val),
      member "caller_identity" (.str context.callerIdentity.val),
      member "actor_kind" (.str (lit context.actorKind.text)),
      member "trace_id" (.str context.traceId.val),
      member "idempotency_key" (.str context.idempotencyKey.val),
      member "schema_version" (.str context.schemaVersion.val),
      member "expected_state_version" (.int context.expectedStateVersion)]),
    member "arguments" arguments])

def ingestBody : Bytes := callBody ingestCall.context.val (.obj [
  member "document_id" (.str ingestCall.arguments.documentId.val),
  member "media_type" (.str ingestCall.arguments.mediaType.val),
  member "declared_sha256" (.str ingestCall.arguments.declaredSha256.val),
  member "raw_content_base64" (.str ingestCall.arguments.rawContentBase64.val)])

def ingestRequest : ToolRequest := ⟨.evidenceIngest, ingestBody, .ofUtc sheetTime⟩

/-- What the ingestion of the document returns. -/
def ingestion : Except Fault (SkillResult EvidenceIngestOutput) :=
  evidenceIngest servicePlatform id (fun _ => []) ingestCall.context.val
    ingestCall.arguments.toSkillRequest (.ofUtc sheetTime)

/-- The output of a success. -/
def outputOf : Except Fault (SkillResult EvidenceIngestOutput) → Option EvidenceIngestOutput
  | .ok { status := .success, value := some output, .. } => some output
  | _ => none

theorem exists_result_of_output {outcome : Except Fault (SkillResult EvidenceIngestOutput)}
    {output : EvidenceIngestOutput} (h : outputOf outcome = some output) :
    ∃ result, outcome = .ok result ∧ result.status = .success ∧ result.value = some output := by
  unfold outputOf at h
  split at h
  · obtain rfl := Option.some.inj h
    exact ⟨_, rfl, rfl, rfl⟩
  · cases h

/-- The length of the JSON of a result. -/
def answerLength (outcome : Except Fault (SkillResult EvidenceIngestOutput)) : Option ℕ :=
  match outcome with
  | .ok result => (ToolResult.evidence result).answer.toOption.map List.length
  | .error _ => none

set_option maxRecDepth 100000 in
/-- The ingestion returns four objects, which the registry takes, in 3075 bytes. -/
theorem ingestion_returns : ((outputOf ingestion).map fun output =>
      (output.evidenceObjects.length,
        decide ((TrustedArtifactStore.registerAll servicePlatform (.empty ⟨8, by decide⟩)
          output.evidenceObjects).1 = .ok ()))) = some (4, true) ∧
    answerLength ingestion = some 3075 := by
  decide +kernel

/-- The service with validators that know the call, and the calculations as given. -/
def serviceLibraries (calculations : Bytes → Option DeterministicCalculateToolCall) :
    ToolLibraries where
  platform := servicePlatform
  repr := id
  ingestText _ := []
  calculateText _ := []
  evidenceIngestCall body := if body = ingestBody then some ingestCall else none
  ruleRetrieveCall _ := none
  deterministicCalculateCall := calculations
  errors _ := []

/-- A server with the catalog of the calculation. -/
def serverOf (maxResponseBytes : ℕ) (h : responseTooLargeBody.length ≤ maxResponseBytes) :
    ToolServer :=
      ⟨compensationCatalog, ⟨lit "token", by decide⟩, ⟨1048576, by decide⟩, maxResponseBytes, h⟩

/-- The request is an ingestion of four objects, which an empty registry takes. -/
theorem exists_ingests (calculations : Bytes → Option DeterministicCalculateToolCall) :
    ∃ result output, Ingests
      (serviceLibraries calculations) ingestRequest ingestCall result output ∧
      outputOf ingestion = some output ∧ output.evidenceObjects.length = 4 ∧
      (TrustedArtifactStore.registerAll servicePlatform (.empty ⟨8, by decide⟩)
        output.evidenceObjects).1 = .ok () ∧
      ∀ body, (ToolResult.evidence result).answer = .ok body → body.length = 3075 := by
  obtain ⟨hobjects, hlength⟩ := ingestion_returns
  obtain ⟨output, houtput, hsummary⟩ := Option.map_eq_some_iff.1 hobjects
  obtain ⟨result, hresult, hstatus, hvalue⟩ := exists_result_of_output houtput
  obtain ⟨hfour, hregister⟩ := Prod.mk.inj hsummary
  have hvalidated : (serviceLibraries calculations).evidenceIngestCall ingestRequest.body =
      some ingestCall := by
    simp only [serviceLibraries, ingestRequest, if_true]
  refine ⟨result, output, ⟨rfl, hvalidated, hresult, hstatus, hvalue⟩, houtput, hfour,
    of_decide_eq_true hregister, fun body hbody => ?_⟩
  unfold answerLength at hlength
  rw [hresult] at hlength
  dsimp only at hlength
  rw [hbody] at hlength
  exact Option.some.inj hlength

end Sample

end ProofFlow
