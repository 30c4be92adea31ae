import ProofFlow.Tool.Transport
import ProofFlow.Tool.Endpoints

/-!
# The tool service

`do_POST` is total up to the calls of the standard library that are made before its `try`.  A
request that they accept is answered with one JSON response, no tool runs for it without the token
of the server at one of the three paths, and whatever a tool returns can be serialized.
-/

namespace ProofFlow

open Kit

/-! ## The handler -/

/-- The path of an endpoint. -/
def ToolPath.text : ToolPath → String
  | .evidenceIngest => "/v1/tools/evidence-ingest"
  | .ruleRetrieve => "/v1/tools/rule-retrieve"
  | .deterministicCalculate => "/v1/tools/deterministic-calculate"

/-- The endpoint at a path, one of `protected_paths`. -/
def toolAt (path : Str) : Option ToolPath :=
  [ToolPath.evidenceIngest, .ruleRetrieve, .deterministicCalculate].find? fun p => lit p.text = path

/-- A POST request: the target of its request line, its header lines, its connection, and the time
of the clock. -/
structure HttpRequest where
  target : Bytes
  headers : Headers
  reader : Server.Reader
  now : DateTime

/-- `self.path`: `parse_request` reduces the slashes that a target starts with to one. -/
def HttpRequest.path (request : HttpRequest) : Str :=
  let path := latin1 request.target
  if (lit "//").isPrefixOf path then '/' :: path.dropWhile (· = '/') else path

/-- `_authorized`. -/
def authorized (headers : Headers) (apiToken : Str) : Except Fault Bool :=
  let authorization := (headers.getAll "Authorization").head?.getD []
  let (scheme, separator, provided) := partition ' ' authorization
  if separator ∧ foldCase scheme = lit "bearer" ∧ provided ≠ [] then compareDigest provided apiToken
  else .ok false

/-- `"endpoint not found"`. -/
def notFound : Refusal := ⟨404, "NOT_FOUND", "endpoint not found"⟩

def ambiguousAuthorization : Refusal :=
  ⟨400, "AMBIGUOUS_AUTHORIZATION", "exactly one Authorization header is allowed"⟩

def unauthorized : Refusal := ⟨401, "UNAUTHORIZED", "valid Bearer authorization is required"⟩

section Handler

variable (acceptsHost : Str → Bool) (L : ToolLibraries) (server : ToolServer)

/-- `do_POST` up to its `try`. -/
def admission (request : HttpRequest) : Flow Fault Refusal ToolRequest := do
  let path ← Flow.raising (urlPath acceptsHost request.path)
  let tool ← Flow.orReturn (toolAt path) (.ok notFound)
  Flow.returnIf (1 < (request.headers.getAll "Authorization").length) (.ok ambiguousAuthorization)
  let isAuthorized ← Flow.raising (authorized request.headers server.apiToken.val)
  Flow.returnIf (isAuthorized = false) (.ok unauthorized)
  let body ← readJsonBody L.platform.recursionLimit server.maxBodyBytes.val request.headers
    request.reader
  return ⟨tool, body, request.now⟩

/-- The response to a refusal. -/
def ToolServer.refuse (refusal : Refusal) : Response :=
  server.sendError refusal.status refusal.code refusal.message []

/-- `do_POST`. -/
def doPost (store : TrustedArtifactStore) (request : HttpRequest) :
    Except Fault Response × TrustedArtifactStore :=
  match admission acceptsHost L server request with
  | .ok toolRequest => postBody L server store toolRequest
  | .error (.ok refusal) => (.ok (server.refuse refusal), store)
  | .error (.error e) => (.error e, store)

end Handler

/-! ## Results can be serialized -/

/-- The value of the result has a canonical form. -/
def SkillResult.Serializable {α : Type} (dumpValue : α → Value) (r : SkillResult α) : Prop :=
  ∀ v, r.value = some v → (dumpValue v).Encodable []

section Serializable

variable {α : Type} {P : Platform} {dumpValue : α → Value} {r : SkillResult α}
    {context : SkillContext} {now : DateTime}

theorem encodable_issue (i : Issue) : i.dump.Encodable [] := by
  simp [Issue.dump, keyed, Value.Encodable]

theorem SkillResult.Serializable.encodable (h : r.Serializable dumpValue) :
    (r.dump dumpValue).Encodable [] := by
  have hissues : ItemsEncodable [] (r.issues.map Issue.dump) :=
    itemsEncodable_iff.2 (List.forall_mem_map.2 fun i _ => encodable_issue i)
  cases hv : r.value with
  | none => simpa [SkillResult.dump, keyed, Value.Encodable, hv] using hissues
  | some v => simpa [SkillResult.dump, keyed, Value.Encodable, hv] using And.intro (h v hv) hissues

theorem serializable_blocked (issues : List Issue) (inputHash : Sha256Text) :
    (SkillResult.blocked (α := α) issues inputHash).Serializable dumpValue := nofun

theorem serializable_denied {request : Value} {expectedIdentity : String}
    (h : denied P context request expectedIdentity = .ok (some r)) : r.Serializable dumpValue := by
  unfold denied at h
  split at h
  · cases h
  · obtain ⟨inputHash, -, h⟩ := bind_eq_ok.1 h
    rw [← Option.some.inj (Except.ok.inj h)]
    exact serializable_blocked _ _

/-- A success has the digest of its value. -/
theorem serializable_success {request : Value} {value : α} {refs : List Str}
    (h : success P request dumpValue value refs = .ok r) : r.Serializable dumpValue := by
  unfold success at h
  obtain ⟨inputHash, -, h⟩ := bind_eq_ok.1 h
  obtain ⟨outputHash, hdigest, h⟩ := bind_eq_ok.1 h
  rw [← Except.ok.inj h]
  intro v hv
  obtain rfl := Option.some.inj hv
  exact exists_sha256Digest_iff.1 ⟨outputHash, hdigest⟩

theorem serializable_ingestBlocked {request : EvidenceIngestRequest} {code : String} {message : Str}
    {needsHuman : Bool} {r : SkillResult EvidenceIngestOutput}
    (h : ingestBlocked P request code message needsHuman = .ok r) :
    r.Serializable EvidenceIngestOutput.dump := by
  obtain ⟨inputHash, -, h⟩ := bind_eq_ok.1 h
  rw [← Except.ok.inj h]
  exact serializable_blocked _ _

theorem serializable_evidenceIngest {repr : Str → Str} {excText : EvidenceIngestRequest → Str}
    {request : EvidenceIngestRequest} {r : SkillResult EvidenceIngestOutput}
    (h : evidenceIngest P repr excText context request now = .ok r) :
    r.Serializable EvidenceIngestOutput.dump := by
  unfold evidenceIngest at h
  obtain ⟨refused, hdenied, h⟩ := bind_eq_ok.1 h
  cases refused with
  | some result =>
    rw [← Except.ok.inj h]
    exact serializable_denied hdenied
  | none =>
    dsimp only at h
    split at h
    · exact serializable_ingestBlocked h
    split at h
    · exact serializable_ingestBlocked h
    unfold ingestParsed at h
    split at h
    · obtain ⟨evidence, -, h⟩ := bind_eq_ok.1 h
      obtain ⟨ignored, -, h⟩ := bind_eq_ok.1 h
      exact serializable_success h
    · exact serializable_ingestBlocked h
    · cases h

theorem serializable_ruleRetrieve {request : RuleRetrieveRequest} {catalog : RuleCatalog}
    {r : SkillResult RuleRetrieveOutput} (h : ruleRetrieve P context request catalog now = .ok r) :
    r.Serializable RuleRetrieveOutput.dump := by
  unfold ruleRetrieve at h
  obtain ⟨refused, hdenied, h⟩ := bind_eq_ok.1 h
  cases refused with
  | some result =>
    rw [← Except.ok.inj h]
    exact serializable_denied hdenied
  | none =>
    obtain ⟨found, -, h⟩ := bind_eq_ok.1 h
    obtain ⟨queryHash, -, h⟩ := bind_eq_ok.1 h
    obtain ⟨catalogVersion, -, h⟩ := bind_eq_ok.1 h
    obtain ⟨outputHash, hdigest, h⟩ := bind_eq_ok.1 h
    rw [← Except.ok.inj h]
    intro v hv
    obtain rfl := Option.some.inj hv
    exact exists_sha256Digest_iff.1 ⟨outputHash, hdigest⟩

theorem serializable_blockedBy {request : CalculateRequest} {issues : List Issue}
    {r : SkillResult CalculateOutput} (h : blockedBy P request issues = .ok r) :
    r.Serializable CalculateOutput.dump := by
  obtain ⟨inputHash, -, h⟩ := bind_eq_ok.1 h
  rw [← Except.ok.inj h]
  exact serializable_blocked _ _

theorem serializable_calculateValues {excText : (Str → Option Str) → Str}
    {request : CalculateRequest} {r : SkillResult CalculateOutput}
    (h : calculateValues P excText context request now = .ok r) :
    r.Serializable CalculateOutput.dump := by
  unfold calculateValues at h
  dsimp only at h
  split_ifs at h
  · exact serializable_blockedBy h
  · split at h
    · obtain ⟨c, -, h⟩ := bind_eq_ok.1 h
      obtain ⟨hash, -, h⟩ := bind_eq_ok.1 h
      obtain ⟨item, -, h⟩ := bind_eq_ok.1 h
      obtain ⟨metadata, -, h⟩ := bind_eq_ok.1 h
      obtain ⟨sheet, -, h⟩ := bind_eq_ok.1 h
      exact serializable_success h
    · split_ifs at h
      exact serializable_blockedBy h

theorem serializable_deterministicCalculate {excText : (Str → Option Str) → Str}
    {request : CalculateRequest} {catalog : RuleCatalog} {store : TrustedArtifactStore}
    {r : SkillResult CalculateOutput}
    (h : deterministicCalculate P excText context request catalog store now = .ok r) :
    r.Serializable CalculateOutput.dump := by
  unfold deterministicCalculate at h
  obtain ⟨refused, hdenied, h⟩ := bind_eq_ok.1 h
  cases refused with
  | some result =>
    rw [← Except.ok.inj h]
    exact serializable_denied hdenied
  | none =>
    obtain ⟨boundaryIssues, -, h⟩ := bind_eq_ok.1 h
    split at h
    · exact serializable_blockedBy h
    obtain ⟨scopeIssue, -, h⟩ := bind_eq_ok.1 h
    cases scopeIssue with
    | some issue => exact serializable_blockedBy h
    | none =>
      dsimp only at h
      split at h
      · exact serializable_blockedBy h
      · exact serializable_calculateValues h

end Serializable

/-! ## Responses are JSON -/

/-- The text spells a value. -/
def IsSpelling (text : Str) : Prop := ∃ v, Spells v text

theorem isJson_of_isSpelling {text : Str} : IsSpelling text → IsJson (encodeUtf8 text)
  | ⟨_, h⟩ => isJson_of_spells h

theorem isSpelling_dumpString (s : Str) : IsSpelling (dumpString s) :=
    ⟨_, .str (spells_dumpString s)⟩

theorem isSpelling_arrayText {items : List Str} (h : ∀ text ∈ items, IsSpelling text) :
    IsSpelling (arrayText items) := by
  obtain ⟨l, rfl, hl⟩ : ∃ l : List (Str × Json PyStr), l.map Prod.fst = items ∧
      ∀ p ∈ l, Spells p.2 p.1 := by
    induction items with
    | nil => exact ⟨[], rfl, nofun⟩
    | cons text items ih =>
      obtain ⟨⟨v, hv⟩, hitems⟩ := List.forall_mem_cons.1 h
      obtain ⟨l, rfl, hl⟩ := ih hitems
      exact ⟨(text, v) :: l, rfl, List.forall_mem_cons.2 ⟨hv, hl⟩⟩
  exact ⟨_, spells_arr Layout.blank_compact hl⟩

theorem isSpelling_objectText {members : List (Str × Str)} (h : ∀ m ∈ members, IsSpelling m.2) :
    IsSpelling (objectText members) := by
  obtain ⟨l, rfl, hl⟩ : ∃ l :
      List (Str × Str × Json PyStr), l.map (fun m => (m.1, m.2.1)) = members ∧
      ∀ m ∈ l, Spells m.2.2 m.2.1 := by
    induction members with
    | nil => exact ⟨[], rfl, nofun⟩
    | cons m members ih =>
      obtain ⟨⟨v, hv⟩, hmembers⟩ := List.forall_mem_cons.1 h
      obtain ⟨l, rfl, hl⟩ := ih hmembers
      exact ⟨(m.1, m.2, v) :: l, rfl, List.forall_mem_cons.2 ⟨hv, hl⟩⟩
  unfold objectText
  rw [List.map_map]
  exact ⟨_, spells_obj Layout.blank_compact hl⟩

theorem isSpelling_detail (d : ErrorDetail) : IsSpelling d.dumps := by
  refine isSpelling_objectText (List.forall_mem_cons.2 ⟨?_, List.forall_mem_singleton.2 ?_⟩)
  · exact isSpelling_arrayText (List.forall_mem_map.2 fun s _ => isSpelling_dumpString s)
  · exact isSpelling_dumpString d.type

theorem isJson_errorBody (code message : String) (details : List ErrorDetail) :
    IsJson (errorBody code message details) := by
  have herror : IsSpelling (objectText (
      [(lit "code", dumpString (lit code)), (lit "message", dumpString (lit message))] ++
        if details =
          [] then [] else [(lit "details", arrayText (details.map ErrorDetail.dumps))])) := by
    refine isSpelling_objectText (List.forall_mem_append.2 ⟨?_, ?_⟩)
    · exact List.forall_mem_cons.2 ⟨isSpelling_dumpString _,
        List.forall_mem_singleton.2 (isSpelling_dumpString _)⟩
    · split_ifs
      · exact List.forall_mem_nil _
      · exact List.forall_mem_singleton.2
          (isSpelling_arrayText (List.forall_mem_map.2 fun d _ => isSpelling_detail d))
  exact isJson_of_isSpelling (isSpelling_objectText (List.forall_mem_singleton.2 herror))

theorem responseTooLargeBody_eq : responseTooLargeBody =
    errorBody "RESPONSE_TOO_LARGE" "response exceeds configured limit" [] := by
  decide

section Responses

variable {server : ToolServer}

theorem isJson_sendJson {status : ℕ} {body : Bytes} (h : IsJson body) :
    IsJson (server.sendJson status body).body := by
  unfold ToolServer.sendJson
  split_ifs
  · show IsJson responseTooLargeBody
    rw [responseTooLargeBody_eq]
    exact isJson_errorBody _ _ _
  · exact h

theorem isJson_sendError (status : ℕ) (code message : String) (details : List ErrorDetail) :
    IsJson (server.sendError status code message details).body :=
  isJson_sendJson (isJson_errorBody _ _ _)

/-- An error that is no longer than the error for long responses is sent as it is. -/
theorem status_refuse {refusal : Refusal}
    (h : (errorBody refusal.code refusal.message []).length ≤ responseTooLargeBody.length) :
    (server.refuse refusal).status = refusal.status := by
  have hfits := h.trans server.holds_errors
  unfold ToolServer.refuse ToolServer.sendError ToolServer.sendJson
  rw [if_neg (Nat.not_lt.2 hfits)]

theorem status_notFound : (server.refuse notFound).status = 404 := status_refuse (by decide)

theorem status_unauthorized : (server.refuse unauthorized).status = 401 := status_refuse (by decide)

end Responses

section Answers

variable {L : ToolLibraries} {server : ToolServer} {store : TrustedArtifactStore}
    {request : ToolRequest}

/-- What was sent is JSON. -/
def PostExit.SendsJson : PostExit → Prop
  | .raised _ => True
  | .sent response => IsJson response.body

theorem triple_raising {α : Type} (m : Except Fault α) : Triple (fun _ => True) (raising m)
    (fun a _ => m = .ok a) fun exit _ => exit.SendsJson := by
  cases m with
  | ok a => exact Triple.pure fun _ _ => rfl
  | error e => exact Triple.throw fun _ _ => trivial

theorem triple_validated {α : Type} (call : Option α) : Triple (fun _ => True) (validated call)
    (fun _ _ => True) fun exit _ => exit.SendsJson := by
  cases call with
  | some c => exact Triple.pure fun _ _ => trivial
  | none => exact Triple.throw fun _ _ => trivial

theorem sendsJson_registrationExit (e : Fault) : (registrationExit server e).SendsJson := by
  unfold registrationExit
  split
  · exact isJson_sendError _ _ _ _
  · exact isJson_sendError _ _ _ _
  · trivial

theorem triple_registerResult (result : SkillResult EvidenceIngestOutput) :
    Triple (fun _ => True) (registerResult L server result) (fun _ _ => True)
      fun exit _ => exit.SendsJson := by
  unfold registerResult
  split
  · rename_i output _ _
    refine ⟨fun _ _ => trivial, fun {s s' e} _ h => ?_⟩
    change register L server output s = _ at h
    unfold register at h
    split at h
    · cases congrArg Prod.fst h
    · obtain rfl := Except.error.inj (congrArg Prod.fst h)
      exact sendsJson_registrationExit _
  · exact Triple.pure fun _ _ => trivial

/-- The `try` ends with a result that can be serialized, with an error that was sent, or with an
exception. -/
theorem triple_runTool : Triple (fun _ => True) (runTool L server request)
    (fun result _ => result.dump.Encodable []) fun exit _ => exit.SendsJson := by
  unfold runTool
  cases request.path with
  | evidenceIngest =>
    refine (triple_validated _).bind fun call => ?_
    refine (triple_raising _).bind fun result => Triple.given fun hresult => ?_
    refine (triple_registerResult result).bind fun _ => Triple.pure fun _ _ => ?_
    exact (serializable_evidenceIngest hresult).encodable
  | ruleRetrieve =>
    refine (triple_validated _).bind fun call => ?_
    refine (triple_raising _).bind fun result => Triple.pure fun _ hresult => ?_
    exact (serializable_ruleRetrieve hresult).encodable
  | deterministicCalculate =>
    refine (triple_validated _).bind fun call => ?_
    refine Triple.bind (Triple.get (Q := fun _ _ => True) fun _ _ => trivial) fun store => ?_
    refine (triple_raising _).bind fun result => Triple.pure fun _ hresult => ?_
    exact (serializable_deterministicCalculate hresult).encodable

/-- What the `try` ends with is answered with JSON. -/
theorem exists_respond {outcome : Except PostExit ToolResult}
    (hresult : ∀ result, outcome = .ok result → result.dump.Encodable [])
    (hexit : ∀ exit, outcome = .error exit → exit.SendsJson) :
    ∃ response, respond L server request outcome = .ok response ∧ IsJson response.body := by
  match outcome with
  | .ok result =>
    obtain ⟨c, hc⟩ := (exists_canonicalize_iff [] _).2 (hresult result rfl)
    have hanswer : result.answer = .ok (canonicalJson c) := by
      unfold ToolResult.answer
      rw [hc]
      rfl
    refine ⟨server.sendJson 200 (canonicalJson c), ?_, isJson_sendJson (isJson_canonicalJson c)⟩
    unfold respond
    dsimp only
    rw [hanswer]
  | .error (.sent response) => exact ⟨response, rfl, hexit _ rfl⟩
  | .error (.raised e) =>
    unfold respond
    split
    · cases ‹_›
    · cases ‹_›
    · exact ⟨_, rfl, isJson_sendError _ _ _ _⟩
    · exact ⟨_, rfl, isJson_sendError _ _ _ _⟩

/-- A request whose body was read is answered with JSON. -/
theorem exists_postBody : ∃ response, (postBody L server store request).1 = .ok response ∧
    IsJson response.body := by
  refine exists_respond (fun result h => ?_) fun exit h => ?_
  · exact triple_runTool.returns trivial (Prod.ext h rfl)
  · exact triple_runTool.raises trivial (Prod.ext h rfl)

end Answers

/-! ## Authorization -/

/-- What the only `Authorization` header has after its scheme, which is Bearer in any case. -/
def Bears (headers : Headers) (provided : Str) : Prop :=
  provided ≠ [] ∧ ∃ scheme, headers.getAll "Authorization" = [scheme ++ ' ' :: provided] ∧
    ' ' ∉ scheme ∧ foldCase scheme = lit "bearer"

theorem partition_append {c : Char} {s t : Str} (h : c ∉ s) :
    partition c (s ++ c :: t) = (s, true, t) := by
  have hs : ∀ d ∈ s, decide (d ≠ c) = true := fun d hd => decide_eq_true fun hdc => h (hdc ▸ hd)
  unfold partition
  rw [List.takeWhile_append_of_pos hs, List.dropWhile_append_of_pos hs]
  simp

/-- The token is compared exactly with what a Bearer header has after its scheme. -/
theorem authorized_cases {headers : Headers} (apiToken : Str)
    (hsingle : ¬ 1 < (headers.getAll "Authorization").length) :
    ((∀ provided, ¬ Bears headers provided) ∧ authorized headers apiToken = .ok false) ∨
      ∃ provided, Bears headers provided ∧
        authorized headers apiToken = compareDigest provided apiToken := by
  unfold authorized Bears
  match hvalues : headers.getAll "Authorization" with
  | [] => exact .inl ⟨fun _ h => by simp at h, rfl⟩
  | value :: _ :: _ =>
    rw [hvalues] at hsingle
    exact absurd (by simp) hsingle
  | [value] =>
    by_cases hspace : ' ' ∈ value
    · obtain ⟨scheme, provided, rfl, hscheme⟩ := List.eq_append_cons_of_mem hspace
      dsimp only [List.head?_cons, Option.getD_some]
      rw [partition_append hscheme]
      by_cases hbearer : foldCase scheme = lit "bearer" ∧ provided ≠ []
      · refine .inr ⟨provided, ⟨hbearer.2, scheme, rfl, hscheme, hbearer.1⟩, ?_⟩
        exact if_pos ⟨rfl, hbearer⟩
      · refine .inl ⟨?_, if_neg fun h => hbearer h.2⟩
        rintro other ⟨hother, scheme', heq, hscheme', hfold⟩
        have hparts := congrArg (partition ' ') (List.singleton_inj.1 heq)
        rw [partition_append hscheme, partition_append hscheme'] at hparts
        cases hparts
        exact hbearer ⟨hfold, hother⟩
    · refine .inl ⟨?_, ?_⟩
      · rintro provided ⟨-, scheme, heq, -⟩
        exact hspace (List.singleton_inj.1 heq ▸ by simp)
      · simp [partition, hspace]

/-- The calls before the `try` that can raise do not: the path is a URL, Bearer credentials are
compared as ASCII, and the limit of the body can be printed. -/
structure Answerable (acceptsHost : Str → Bool) (server : ToolServer) (request : HttpRequest) :
    Prop where
  target : ∃ path, urlPath acceptsHost request.path = .ok path
  credentials : ∀ provided, Bears request.headers provided →
    isAscii provided = true ∧ isAscii server.apiToken.val = true
  limit : server.maxBodyBytes.val < 10 ^ Server.maxStrDigits

theorem Bears.unique {headers : Headers} {provided provided' : Str} (h : Bears headers provided)
    (h' : Bears headers provided') : provided = provided' := by
  obtain ⟨-, scheme, hvalues, hscheme, -⟩ := h
  obtain ⟨-, scheme', hvalues', hscheme', -⟩ := h'
  have hparts := congrArg (partition ' ') (List.singleton_inj.1 (hvalues.symm.trans hvalues'))
  rw [partition_append hscheme, partition_append hscheme'] at hparts
  exact congrArg (fun parts => parts.2.2) hparts

/-- The answer of `_authorized` is whether the request bears the token of the server. -/
theorem authorized_of_answerable {acceptsHost : Str → Bool} {server : ToolServer}
    {request : HttpRequest} (h : Answerable acceptsHost server request)
    (hsingle : ¬ 1 < (request.headers.getAll "Authorization").length) :
    ∃ isAuthorized, authorized request.headers server.apiToken.val = .ok isAuthorized ∧
      (isAuthorized = true ↔ Bears request.headers server.apiToken.val) := by
  rcases authorized_cases server.apiToken.val hsingle with ⟨hnone, heq⟩ | ⟨provided, hbears, heq⟩
  · exact ⟨false, heq, iff_of_false Bool.false_ne_true (hnone _)⟩
  · obtain ⟨hprovided, htoken⟩ := h.credentials provided hbears
    refine ⟨decide (provided = server.apiToken.val), ?_, ?_⟩
    · rw [heq, compareDigest, hprovided, htoken]
      rfl
    · rw [decide_eq_true_eq]
      exact ⟨fun hsame => hsame ▸ hbears, hbears.unique⟩

/-- The request is for the tool. -/
def Targets (acceptsHost : Str → Bool) (request : HttpRequest) (tool : ToolPath) : Prop :=
  ∃ path, urlPath acceptsHost request.path = .ok path ∧ toolAt path = some tool

/-- How an answerable request is handled. -/
structure Handled (acceptsHost : Str → Bool) (L : ToolLibraries) (server : ToolServer)
    (store : TrustedArtifactStore) (request : HttpRequest) : Prop where
  answered : ∃ response, (doPost acceptsHost L server store request).1 = .ok response ∧
    IsJson response.body
  notFound : (∀ tool, ¬ Targets acceptsHost request tool) →
    admission acceptsHost L server request = .error (.ok notFound) ∧
      ∃ body, doPost acceptsHost L server store request = (.ok ⟨404, body⟩, store)
  ambiguous : (∃ tool, Targets acceptsHost request tool) →
    1 < (request.headers.getAll "Authorization").length →
    admission acceptsHost L server request = .error (.ok ambiguousAuthorization) ∧
      ∃ response, doPost acceptsHost L server store request = (.ok response, store) ∧
        (response.status = 400 ∨ response = ⟨500, responseTooLargeBody⟩)
  unauthorized : (∃ tool, Targets acceptsHost request tool) →
    ¬ 1 < (request.headers.getAll "Authorization").length →
    ¬ Bears request.headers server.apiToken.val →
    admission acceptsHost L server request = .error (.ok unauthorized) ∧
      ∃ body, doPost acceptsHost L server store request = (.ok ⟨401, body⟩, store)
  token_of_ok : ∀ body, (doPost acceptsHost L server store request).1 = .ok ⟨200, body⟩ →
    (∃ tool, Targets acceptsHost request tool) ∧ Bears request.headers server.apiToken.val

section Admission

variable {acceptsHost : Str → Bool} {L : ToolLibraries} {server : ToolServer}
  {store : TrustedArtifactStore} {request : HttpRequest}

theorem doPost_of_refused {refusal : Refusal}
    (h : admission acceptsHost L server request = .error (.ok refusal)) :
    doPost acceptsHost L server store request = (.ok (server.refuse refusal), store) := by
  unfold doPost
  rw [h]

theorem admission_of_no_tool
    (htarget : ∃ path, urlPath acceptsHost request.path = .ok path)
    (htool : ∀ tool, ¬ Targets acceptsHost request tool) :
    admission acceptsHost L server request = .error (.ok notFound) := by
  obtain ⟨path, hpath⟩ := htarget
  have hnone : toolAt path = none :=
    Option.eq_none_iff_forall_ne_some.2 fun tool hsome => htool tool ⟨path, hpath, hsome⟩
  unfold admission
  rw [hpath]
  show (Flow.orReturn (toolAt path) _ >>= _) = _
  rw [hnone]
  rfl

/-- The request of a tool goes on with its credentials. -/
theorem admission_of_targets {tool : ToolPath} (htool : Targets acceptsHost request tool) :
    admission acceptsHost L server request = (do
      Flow.returnIf (1 < (request.headers.getAll "Authorization").length)
        (.ok ambiguousAuthorization)
      let isAuthorized ← Flow.raising (authorized request.headers server.apiToken.val)
      Flow.returnIf (isAuthorized = false) (.ok unauthorized)
      let body ← readJsonBody L.platform.recursionLimit server.maxBodyBytes.val request.headers
        request.reader
      return ⟨tool, body, request.now⟩) := by
  obtain ⟨path, hpath, hsome⟩ := htool
  unfold admission
  rw [hpath]
  show (Flow.orReturn (toolAt path) _ >>= _) = _
  rw [hsome]
  rfl

theorem admission_of_repeated (htool : ∃ tool, Targets acceptsHost request tool)
    (hrepeated : 1 < (request.headers.getAll "Authorization").length) :
    admission acceptsHost L server request = .error (.ok ambiguousAuthorization) := by
  obtain ⟨tool, htool⟩ := htool
  rw [admission_of_targets htool, Flow.returnIf, if_pos hrepeated]
  rfl

theorem admission_of_not_bears (h : Answerable acceptsHost server request)
    (htool : ∃ tool, Targets acceptsHost request tool)
    (hsingle : ¬ 1 < (request.headers.getAll "Authorization").length)
    (hbears : ¬ Bears request.headers server.apiToken.val) :
    admission acceptsHost L server request = .error (.ok unauthorized) := by
  obtain ⟨tool, htool⟩ := htool
  obtain ⟨isAuthorized, heq, hiff⟩ := authorized_of_answerable h hsingle
  obtain rfl : isAuthorized = false := Bool.eq_false_iff.2 fun htrue => hbears (hiff.1 htrue)
  rw [admission_of_targets htool, Flow.returnIf, if_neg hsingle, heq]
  rfl

/-- Nothing that stops an answerable request goes unanswered. -/
theorem exits_admission (h : Answerable acceptsHost server request) :
    Flow.Exits Sends (admission acceptsHost L server request) := by
  by_cases hexists : ∃ tool, Targets acceptsHost request tool
  · obtain ⟨tool, htool⟩ := hexists
    rw [admission_of_targets htool]
    refine (Flow.exits_returnIf fun _ => sends_ok _).bind fun _ hsingle => ?_
    obtain ⟨isAuthorized, heq, -⟩ := authorized_of_answerable h (Flow.returnIf_eq_ok.1 hsingle)
    rw [heq]
    refine (Flow.exits_ok _).bind fun _ _ => ?_
    refine (Flow.exits_returnIf fun _ => sends_ok _).bind fun _ _ => ?_
    exact (exits_readJsonBody h.limit).bind fun body _ => Flow.exits_ok _
  · rw [admission_of_no_tool h.target (not_exists.1 hexists)]
    exact Flow.exits_error (sends_ok _)

/-- The error for repeated headers may itself be too long. -/
theorem refuse_ambiguousAuthorization (server : ToolServer) :
    (server.refuse ambiguousAuthorization).status = 400 ∨
    server.refuse ambiguousAuthorization = ⟨500, responseTooLargeBody⟩ := by
  unfold ToolServer.refuse ToolServer.sendError ToolServer.sendJson
  split_ifs
  · exact .inr rfl
  · exact .inl rfl

theorem doPost_notFound (h : admission acceptsHost L server request = .error (.ok notFound)) :
    ∃ body, doPost acceptsHost L server store request = (.ok ⟨404, body⟩, store) := by
  refine ⟨(server.refuse notFound).body, ?_⟩
  rw [doPost_of_refused h, ← status_notFound]

theorem doPost_unauthorized
    (h : admission acceptsHost L server request = .error (.ok unauthorized)) :
    ∃ body, doPost acceptsHost L server store request = (.ok ⟨401, body⟩, store) := by
  refine ⟨(server.refuse unauthorized).body, ?_⟩
  rw [doPost_of_refused h, ← status_unauthorized]

theorem exists_doPost (h : Answerable acceptsHost server request) :
    ∃ response, (doPost acceptsHost L server store request).1 = .ok response ∧
      IsJson response.body := by
  cases hadmission : admission acceptsHost L server request with
  | ok toolRequest =>
    unfold doPost
    rw [hadmission]
    exact exists_postBody
  | error out =>
    obtain ⟨refusal, rfl⟩ := exits_admission h out hadmission
    rw [doPost_of_refused hadmission]
    exact ⟨_, rfl, isJson_sendError _ _ _ _⟩

/-- Status 200 takes the path of a tool and the token: every other request is refused before its
body is read. -/
theorem token_of_ok (h : Answerable acceptsHost server request) {body : Bytes}
    (hok : (doPost acceptsHost L server store request).1 = .ok ⟨200, body⟩) :
    (∃ tool, Targets acceptsHost request tool) ∧ Bears request.headers server.apiToken.val := by
  have htool : ∃ tool, Targets acceptsHost request tool := by
    by_contra hnone
    obtain ⟨body', hrefused⟩ := doPost_notFound (admission_of_no_tool h.target (not_exists.1 hnone))
    rw [hrefused] at hok
    cases hok
  have hsingle : ¬ 1 < (request.headers.getAll "Authorization").length := by
    intro hrepeated
    rw [doPost_of_refused (admission_of_repeated htool hrepeated)] at hok
    have hresponse := Except.ok.inj hok
    rcases refuse_ambiguousAuthorization server with hstatus | hlong
    · rw [hresponse] at hstatus
      cases hstatus
    · rw [hresponse] at hlong
      cases hlong
  refine ⟨htool, ?_⟩
  by_contra hbears
  obtain ⟨body', hrefused⟩ := doPost_unauthorized (admission_of_not_bears h htool hsingle hbears)
  rw [hrefused] at hok
  cases hok

end Admission

/-- An answerable request is answered with one JSON response, no tool runs for it without the token
at the path of a tool, and only the token gets status 200. -/
theorem doPost_handled (acceptsHost : Str → Bool) (L : ToolLibraries) (server : ToolServer)
    (store : TrustedArtifactStore) (request : HttpRequest)
    (h : Answerable acceptsHost server request) :
    Handled acceptsHost L server store request where
  answered := exists_doPost h
  notFound htool :=
    have hadmission := admission_of_no_tool h.target htool
    ⟨hadmission, doPost_notFound hadmission⟩
  ambiguous htool hrepeated :=
    have hadmission := admission_of_repeated htool hrepeated
    ⟨hadmission, _, doPost_of_refused hadmission, refuse_ambiguousAuthorization server⟩
  unauthorized htool hsingle hbears :=
    have hadmission := admission_of_not_bears h htool hsingle hbears
    ⟨hadmission, doPost_unauthorized hadmission⟩
  token_of_ok _ := token_of_ok h

namespace Sample

/-- A request without header lines. -/
def bareRequest (target : String) : HttpRequest where
  target := Server.ascii target
  headers := []
  reader := .opened [] fun _ => 1
  now := .ofUtc sheetTime

def smallServer : ToolServer := serverOf 1024 (by decide)

theorem smallServer_limit : smallServer.maxBodyBytes.val < 10 ^ Server.maxStrDigits :=
  Nat.lt_of_lt_of_le (by decide : 1048576 < 10 ^ 7)
    (Nat.pow_le_pow_right (by decide) (by decide : 7 ≤ Server.maxStrDigits))

end Sample

/-- A request without credentials is answered with 401, also where its target has two slashes. -/
theorem sample_doPost_handled :
    ∃ body, doPost (fun _ => true) (Sample.serviceLibraries fun _ => none)
    Sample.smallServer (.empty ⟨8, by decide⟩) (Sample.bareRequest "//v1/tools/rule-retrieve") =
      (.ok ⟨401, body⟩, .empty ⟨8, by decide⟩) := by
  have hbare (provided : Str) :
      ¬ Bears (Sample.bareRequest "//v1/tools/rule-retrieve").headers provided := by
    rintro ⟨-, scheme, hvalues, -⟩
    cases hvalues
  have h : Answerable (fun _ => true) Sample.smallServer
      (Sample.bareRequest "//v1/tools/rule-retrieve") :=
    ⟨⟨_, rfl⟩, fun provided hbears => absurd hbears (hbare provided),
      Sample.smallServer_limit⟩
  have hhandled := doPost_handled (fun _ => true) (Sample.serviceLibraries fun _ => none)
    Sample.smallServer (.empty ⟨8, by decide⟩) (Sample.bareRequest "//v1/tools/rule-retrieve") h
  exact (hhandled.unauthorized ⟨.ruleRetrieve, _, rfl, rfl⟩ (by decide) (hbare _)).2

end ProofFlow
