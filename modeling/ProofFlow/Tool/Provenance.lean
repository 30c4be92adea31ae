import ProofFlow.Kit.History
import ProofFlow.Tool.Endpoints

/-!
# Where the evidence of a calculation comes from

A process serves requests to the three endpoints one after the other on one registry, which is empty
when the process starts.  Only an ingestion writes to the registry, and what it writes is what it
returns: so a calculation that succeeds has no evidence but such objects.
-/

namespace ProofFlow

open Kit

/-! ## Runs of a process -/

/-- The service as a machine that refuses nothing; it gives out what the `try` left. -/
def serve (L : ToolLibraries) (server : ToolServer) (store : TrustedArtifactStore)
    (request : ToolRequest) : Except Empty (TrustedArtifactStore × Except PostExit ToolResult) :=
  .ok ((postBody L server store request).2, ((runTool L server request).perform store).1)

/-- A request that was served. -/
abbrev Served := Entry TrustedArtifactStore ToolRequest (Except PostExit ToolResult)

/-- What a process has served since its start, and its registry now. -/
def ToolRun (L : ToolLibraries) (server : ToolServer) (capacity : { n : ℕ // 1 ≤ n })
    (served : List Served) (store : TrustedArtifactStore) : Prop :=
  History (serve L server) (.empty capacity) served store

/-- The object is in the output of an ingestion that was served with success. -/
def Produced (L : ToolLibraries) (served : List Served) (context : SkillContext)
    (item : EvidenceObject) : Prop :=
  ∃ entry ∈ served, ∃ call result output, Ingests L entry.input call result output ∧
    entry.output = .ok (.evidence result) ∧ call.context.val = context ∧
    item ∈ output.evidenceObjects

/-! ## The objects of an ingestion -/

section Objects

variable {P : Platform} {repr : Str → Str} {excText : EvidenceIngestRequest → Str}
  {context : SkillContext} {request : EvidenceIngestRequest} {now : DateTime}

/-- A success comes from the last part of the ingestion. -/
theorem ingestMembers_of_success {result : SkillResult EvidenceIngestOutput}
    (h : evidenceIngest P repr excText context request now = .ok result)
    (hstatus : result.status = .success) :
    ∃ members, ingestMembers P repr context request now members = .ok result := by
  have hblocked {code : String} {message : Str} {needsHuman : Bool} :
      ingestBlocked P request code message needsHuman ≠ .ok result := by
    intro hresult
    obtain ⟨d, -, hd⟩ := bind_eq_ok.1 hresult
    rw [← Except.ok.inj hd] at hstatus
    cases hstatus
  unfold evidenceIngest at h
  obtain ⟨refused, hrefused, h⟩ := bind_eq_ok.1 h
  cases refused with
  | some answer =>
    obtain rfl := Except.ok.inj h
    rw [(denied_eq_some hrefused).1] at hstatus
    cases hstatus
  | none =>
    dsimp only at h
    split at h
    · exact absurd h hblocked
    split at h
    · exact absurd h hblocked
    cases hparse : parseContent P request with
    | ok members =>
      rw [hparse] at h
      exact ⟨members, h⟩
    | error e =>
      rw [hparse] at h
      cases e with
      | valueError => exact absurd h hblocked
      | recursionError => cases h

/-- An object belongs to the context that it was made in. -/
theorem newMeta_of_evidenceOf {entry : Str × Json PyStr} {e : EvidenceObject}
    (h : evidenceOf P repr context request now entry = .ok e) : NewMeta evidenceAgent context
      [stripped (lit "SourceDocument:" ++ request.documentId.val)] e.metadata := by
  simp only [evidenceOf, bind_eq_ok] at h
  obtain ⟨text, -, metadata, hmeta, value, -, excerpt, -, hsealed⟩ := h
  obtain ⟨hclass, hproducer, hcontext, hrefs⟩ := newMeta_of_artifactMeta hmeta
  obtain ⟨hash, rfl⟩ := sealed_eq hsealed
  exact ⟨hclass, hproducer, hcontext, hrefs⟩

end Objects

section Runs

variable {L : ToolLibraries} {server : ToolServer} {capacity : { n : ℕ // 1 ≤ n }}
  {served : List Served} {store : TrustedArtifactStore} {context : SkillContext}

/-- What was produced belongs to the context of the ingestion. -/
theorem Produced.inContext {item : EvidenceObject} (h : Produced L served context item) :
    item.metadata.inContext context := by
  obtain ⟨entry, -, call, result, output, hingests, -, rfl, hitem⟩ := h
  obtain ⟨members, hmembers⟩ := ingestMembers_of_success hingests.returned hingests.status
  obtain ⟨output', -, hvalue, hevidence, -⟩ := ingestMembers_eq_ok hmembers
  obtain rfl := Option.some.inj (hingests.value.symm.trans hvalue)
  obtain ⟨field, -, hfield⟩ := exists_of_mem_mapM hevidence hitem
  exact (newMeta_of_evidenceOf hfield).inContext

theorem Produced.append {item : EvidenceObject} (h : Produced L served context item) (e : Served) :
    Produced L (served ++ [e]) context item := by
  obtain ⟨entry, hentry, h⟩ := h
  exact ⟨entry, List.mem_append_left _ hentry, h⟩

/-- The registry holds only what was produced. -/
def OnlyProduced (L : ToolLibraries) (served : List Served) (store : TrustedArtifactStore) : Prop :=
  ∀ key payload, store.records.get key = some payload →
    ∃ context item, Produced L served context item ∧ RegisteredAs L.platform item key payload

/-- One request keeps the registry to what was produced. -/
theorem OnlyProduced.serve (h : OnlyProduced L served store) (request : ToolRequest)
    {store' : TrustedArtifactStore} {outcome : Except PostExit ToolResult}
    (hserve : ProofFlow.serve L server store request = .ok (store', outcome)) :
    OnlyProduced L (served ++ [⟨store, request, store', outcome⟩]) store' := by
  obtain ⟨rfl, rfl⟩ := Prod.mk.inj (Except.ok.inj hserve)
  have hkept : OnlyProduced L (served ++ [⟨store, request, (postBody L server store request).2,
      ((runTool L server request).perform store).1⟩]) store := by
    intro key payload hget
    obtain ⟨context, item, hproduced, hregistered⟩ := h key payload hget
    exact ⟨context, item, hproduced.append _, hregistered⟩
  by_cases hingests : ∃ call result output, Ingests L request call result output
  · obtain ⟨call, result, output, hi⟩ := hingests
    have hperform : (runTool L server request).perform store = _ := runTool_of_ingests hi
    rcases registerAll_cases L.platform store output.evidenceObjects with
      ⟨e, he⟩ | ⟨pending, hcollected, hok, -, -⟩
    · rw [he] at hperform
      have hstore : (postBody L server store request).2 = store := congrArg Prod.snd hperform
      rw [hstore] at hkept ⊢
      exact hkept
    · rw [hok] at hperform
      intro key payload hget
      have hstore : (postBody L server store request).2 =
          { store with records := store.records.update pending } := congrArg Prod.snd hperform
      rw [hstore] at hget
      rw [Dict.get_update] at hget
      cases hpending : pending.get key with
      | none =>
        rw [hpending] at hget
        exact hkept key payload hget
      | some payload' =>
        rw [hpending] at hget
        obtain rfl := Option.some.inj hget
        obtain ⟨item, hitem, hregistered⟩ := hcollected.sound key _ hpending
        refine ⟨call.context.val, item,
          ⟨_, List.mem_append_right _ (List.mem_singleton.2 rfl), call,
          result, output, hi, congrArg Prod.fst hperform, rfl, hitem⟩, hregistered⟩
  · push Not at hingests
    have hstore : (postBody L server store request).2 = store := runTool_of_not_ingests hingests
    rw [hstore] at hkept ⊢
    exact hkept

theorem ToolRun.onlyProduced (h : ToolRun L server capacity served store) :
    OnlyProduced L served store := by
  unfold ToolRun at h
  induction h with
  | start => exact fun key payload hget => by cases hget
  | accept request store' outcome _ hserve ih => exact ih.serve request hserve

/-- A sheet is given out by a calculation on the current registry. -/
theorem calculation_of_sheet {request : ToolRequest} {result : SkillResult CalculateOutput}
    (h : ((runTool L server request).perform store).1 = .ok (.sheet result)) :
    ∃ call, L.deterministicCalculateCall request.body = some call ∧
      deterministicCalculate L.platform L.calculateText call.context.val call.arguments
        server.catalog store request.now = .ok result := by
  unfold runTool at h
  cases hpath : request.path with
  | evidenceIngest =>
    rw [hpath] at h
    obtain ⟨_, _, -, h⟩ := Action.exists_of_perform_bind h
    obtain ⟨_, _, -, h⟩ := Action.exists_of_perform_bind h
    obtain ⟨_, _, -, h⟩ := Action.exists_of_perform_bind h
    cases h
  | ruleRetrieve =>
    rw [hpath] at h
    obtain ⟨_, _, -, h⟩ := Action.exists_of_perform_bind h
    obtain ⟨_, _, -, h⟩ := Action.exists_of_perform_bind h
    cases h
  | deterministicCalculate =>
    rw [hpath] at h
    obtain ⟨call, s, hcall, hrest⟩ := Action.exists_of_perform_bind h
    obtain ⟨current, s', hget, hrun⟩ := Action.exists_of_perform_bind hrest
    obtain ⟨result', s'', hresult, hsheet⟩ := Action.exists_of_perform_bind hrun
    obtain ⟨hvalidated, rfl⟩ := perform_validated_eq_ok.1 hcall
    obtain ⟨hreturned, -⟩ := perform_raising_eq_ok.1 hresult
    cases hget
    cases hsheet
    exact ⟨call, hvalidated, hreturned⟩

theorem runTool_of_calculation {request : ToolRequest} {call : DeterministicCalculateToolCall}
    {result : SkillResult CalculateOutput} (hpath : request.path = .deterministicCalculate)
    (hcall : L.deterministicCalculateCall request.body = some call)
    (hreturned : deterministicCalculate L.platform L.calculateText call.context.val call.arguments
      server.catalog store request.now = .ok result) :
    (runTool L server request).perform store = (.ok (.sheet result), store) := by
  unfold runTool
  rw [hpath]
  have hread : (get : Action TrustedArtifactStore PostExit _).perform store = (.ok store, store) :=
    rfl
  dsimp only
  rw [Action.perform_bind_ok (perform_validated_eq_ok.2 ⟨hcall, rfl⟩), Action.perform_bind_ok hread,
    Action.perform_bind_ok (perform_raising_eq_ok.2 ⟨hreturned, rfl⟩)]
  rfl

theorem postBody_of_registered {request : ToolRequest} {call : EvidenceIngestToolCall}
    {result : SkillResult EvidenceIngestOutput} {output : EvidenceIngestOutput}
    (h : Ingests L request call result output)
    (hregister : (store.registerAll L.platform output.evidenceObjects).1 = .ok ()) :
    (postBody L server store request).2 = (store.registerAll L.platform output.evidenceObjects).2 :=
  congrArg Prod.snd (runTool_of_registered h hregister)

/-- The object is one that an earlier ingestion of the process returned for the context. -/
structure IngestedEarlier (L : ToolLibraries) (served : List Served) (context : SkillContext)
    (e : EvidenceObject) : Prop where
  produced : ∃ earlier item, Produced L served earlier item ∧ SameForm item e ∧
    (earlier.tenantId, earlier.caseId, earlier.traceId) =
      (context.tenantId, context.caseId, context.traceId)
  isSealed : Artifact.verifyHash L.platform e = .ok true
  verified : e.factStatus = .verified
  issuedBy : e.metadata.issuedBy "PF-A2"

/-- A calculation that succeeds has only evidence that the process has produced before, for the
tenant, the case and the trace of the calculation. -/
theorem calculation_provenance {request : ToolRequest} {result : SkillResult CalculateOutput}
    (hrun : ToolRun L server capacity served store)
    (hresult : ((runTool L server request).perform store).1 = .ok (.sheet result))
    (hstatus : result.status = .success) :
    ∃ call, L.deterministicCalculateCall request.body = some call ∧
      ∀ e ∈ call.arguments.evidence, IngestedEarlier L served call.context.val e := by
  obtain ⟨call, hcall, hreturned⟩ := calculation_of_sheet hresult
  obtain ⟨p, coefficient, haccepted⟩ := accepted_of_success hreturned hstatus
  refine ⟨call, hcall, fun e he => ?_⟩
  obtain ⟨hsealed, hissued, hcontext, hverified, hregistered⟩ := haccepted.evidence e he
  obtain ⟨contentHash, payload, hhash, hbytes, hget⟩ := contains_eq_true.1 hregistered
  obtain ⟨earlier, item, hproduced, hitem⟩ := hrun.onlyProduced _ _ hget
  have hform : SameForm item e := SameCanonicalBytes.sameForm ⟨payload, hitem.bytes_eq, hbytes⟩
  refine ⟨⟨earlier, item, hproduced, hform, ?_⟩, hsealed, hverified, hissued⟩
  have hscope : (item.metadata.tenantId, item.metadata.caseId, item.metadata.traceId) =
      (earlier.tenantId, earlier.caseId, earlier.traceId) := hproduced.inContext
  rw [← hscope, hform.tenantId, hform.caseId, hform.traceId]
  exact hcontext

end Runs

namespace Sample

set_option maxRecDepth 100000 in
/-- The calculation from what the ingestion returns succeeds. -/
theorem calculation_succeeds : ((outputOf ingestion).bind fun output =>
      requestOf servicePlatform output.evidenceObjects).map
    (fun request => totalOf (answerTo servicePlatform request)) =
      some (some (.finite false 1000000 (-2))) := by
  decide +kernel

def calculateCall (request : CalculateRequest) : DeterministicCalculateToolCall :=
  ⟨⟨caller, rfl, rfl⟩, request⟩

/-- The JSON of a calculation. -/
def calculateBody (request : CalculateRequest) : Bytes :=
  match canonicalize [] request.dump with
  | .ok arguments => callBody caller arguments
  | .error _ => []

def calculateRequest (request : CalculateRequest) : ToolRequest :=
  ⟨.deterministicCalculate, calculateBody request, .ofUtc sheetTime⟩

/-- The service with a validator that knows the calculation. -/
def calculateLibraries (request : CalculateRequest) : ToolLibraries :=
  serviceLibraries fun body => if body =
    calculateBody request then some (calculateCall request) else none

end Sample

/-- An ingestion and a calculation from what it returned. -/
theorem sample_calculation_provenance : ∃ request served store,
    ToolRun (Sample.calculateLibraries request) (Sample.serverOf 1048576 (by decide)) ⟨8, by decide⟩
      served store ∧ request.evidence.length = 4 ∧
    ∀ e ∈ request.evidence,
      IngestedEarlier (Sample.calculateLibraries request) served Sample.caller e := by
  obtain ⟨request, hrequest, htotal⟩ := Option.map_eq_some_iff.1 Sample.calculation_succeeds
  obtain ⟨output, houtput, hrequest⟩ := Option.bind_eq_some_iff.1 hrequest
  obtain ⟨ingested, output', hingests, houtput', hfour, hregister, -⟩ := Sample.exists_ingests
    fun body => if body =
      Sample.calculateBody request then some (Sample.calculateCall request) else none
  obtain rfl := Option.some.inj (houtput.symm.trans houtput')
  obtain ⟨result, hresult, hstatus, -⟩ := Sample.exists_result_of_total htotal
  have hevidence := Sample.evidence_of_requestOf hrequest
  have hrun : ToolRun (Sample.calculateLibraries request) (Sample.serverOf 1048576 (by decide))
      ⟨8, by decide⟩ _ _ := .accept Sample.ingestRequest _ _ .start rfl
  have hstore : (postBody (Sample.calculateLibraries request) (Sample.serverOf 1048576 (by decide))
      (.empty ⟨8, by decide⟩) Sample.ingestRequest).2 =
        Sample.registered Sample.servicePlatform request.evidence := by
    rw [hevidence]
    exact postBody_of_registered hingests hregister
  have hcall : (Sample.calculateLibraries request).deterministicCalculateCall
      (Sample.calculateBody request) = some (Sample.calculateCall request) := by
    simp only [Sample.calculateLibraries, Sample.serviceLibraries, if_true]
  have hcalculated : (runTool (Sample.calculateLibraries request)
      (Sample.serverOf 1048576 (by decide)) (Sample.calculateRequest request)).perform
        (Sample.registered Sample.servicePlatform request.evidence) = _ :=
    runTool_of_calculation rfl hcall hresult
  rw [← hstore] at hcalculated
  obtain ⟨call, hvalidated, hproduced⟩ :=
    calculation_provenance hrun (congrArg Prod.fst hcalculated)
    hstatus
  obtain rfl := Option.some.inj (hcall.symm.trans hvalidated)
  refine ⟨request, _, _, hrun, ?_, hproduced⟩
  rw [hevidence, hfour]

end ProofFlow
