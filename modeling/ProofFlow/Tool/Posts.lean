import ProofFlow.Tool.Provenance
import ProofFlow.Tool.Service

/-!
# Runs of the tool service

A process takes POST requests in turn, whatever they are.  What the requests do to the registry is
what the admitted ones among them do, in the same order, and an admitted request bears the token: so
every object of the registry was returned by an ingestion with the token.  Which requests get no
response is decided by the path and the credentials alone.
-/

namespace ProofFlow

open Kit

variable {acceptsHost : Str → Bool} {L : ToolLibraries} {server : ToolServer}
  {store : TrustedArtifactStore} {request : HttpRequest}

/-! ## Admitted requests -/

/-- A comparison that succeeds is one with the token itself. -/
theorem bears_of_authorized {headers : Headers} {apiToken : Str}
    (hsingle : ¬ 1 < (headers.getAll "Authorization").length)
    (h : authorized headers apiToken = .ok true) : Bears headers apiToken := by
  rcases authorized_cases apiToken hsingle with ⟨-, heq⟩ | ⟨provided, hbears, heq⟩
  · rw [heq] at h
    cases h
  · rw [heq, compareDigest] at h
    split at h
    · exact of_decide_eq_true (Except.ok.inj h) ▸ hbears
    · cases h

/-- An admitted request is for a tool and bears the token of the server. -/
theorem bears_of_admission {toolRequest : ToolRequest}
    (h : admission acceptsHost L server request = .ok toolRequest) :
    Targets acceptsHost request toolRequest.path ∧ Bears request.headers server.apiToken.val := by
  unfold admission at h
  obtain ⟨path, hpath, h⟩ := bind_eq_ok.1 h
  obtain ⟨tool, htool, h⟩ := bind_eq_ok.1 h
  obtain ⟨⟨⟩, hsingle, h⟩ := bind_eq_ok.1 h
  obtain ⟨isAuthorized, hauthorized, h⟩ := bind_eq_ok.1 h
  obtain ⟨⟨⟩, htrue, h⟩ := bind_eq_ok.1 h
  obtain ⟨body, -, h⟩ := bind_eq_ok.1 h
  obtain rfl := Except.ok.inj h
  obtain rfl : isAuthorized = true := Bool.eq_true_of_not_eq_false (Flow.returnIf_eq_ok.1 htrue)
  exact ⟨⟨path, Flow.raising_eq_ok.1 hpath, Flow.orReturn_eq_ok.1 htool⟩,
    bears_of_authorized (Flow.returnIf_eq_ok.1 hsingle) (Flow.raising_eq_ok.1 hauthorized)⟩

/-- The request that a tool gets, if the request is admitted. -/
def admitted (acceptsHost : Str → Bool) (L : ToolLibraries) (server : ToolServer)
    (request : HttpRequest) : Option ToolRequest :=
    (admission acceptsHost L server request).toOption

theorem admitted_eq_some {toolRequest : ToolRequest} :
    admitted acceptsHost L server request = some toolRequest ↔
      admission acceptsHost L server request = .ok toolRequest := by
  unfold admitted
  cases admission acceptsHost L server request <;> simp [Except.toOption]

/-- A request changes the registry as the tool request that it is admitted as. -/
theorem doPost_snd : (doPost acceptsHost L server store request).2 =
    match admitted acceptsHost L server request with
    | some toolRequest => (postBody L server store toolRequest).2
    | none => store := by
  unfold doPost admitted
  cases admission acceptsHost L server request with
  | ok toolRequest => rfl
  | error out => cases out <;> rfl

/-! ## Requests in turn -/

/-- The registry of a process after some requests. -/
def registryAfter (acceptsHost : Str → Bool) (L : ToolLibraries) (server : ToolServer)
    (capacity : { n : ℕ // 1 ≤ n }) (posts : List HttpRequest) : TrustedArtifactStore :=
  posts.foldl (fun store request => (doPost acceptsHost L server store request).2) (.empty capacity)

/-- The requests are for the registry the run of the admitted ones. -/
theorem toolRun_registryAfter (acceptsHost : Str → Bool) (L : ToolLibraries) (server : ToolServer)
    (capacity : { n : ℕ // 1 ≤ n }) (posts : List HttpRequest) :
    ∃ served, ToolRun L server capacity served
        (registryAfter acceptsHost L server capacity posts) ∧
      served.map Entry.input = posts.filterMap (admitted acceptsHost L server) := by
  induction posts using List.reverseRecOn with
  | nil => exact ⟨[], .start, rfl⟩
  | append_singleton posts request ih =>
    obtain ⟨served, hrun, hinputs⟩ := ih
    unfold registryAfter at hrun ⊢
    rw [List.foldl_append, List.foldl_cons, List.foldl_nil, doPost_snd, List.filterMap_append]
    cases hadmitted : admitted acceptsHost L server request with
    | none =>
      refine ⟨served, hrun, ?_⟩
      rw [List.filterMap_cons_none hadmitted, List.filterMap_nil, List.append_nil]
      exact hinputs
    | some toolRequest =>
      refine ⟨_, History.accept toolRequest _ _ hrun rfl, ?_⟩
      rw [List.filterMap_cons_some hadmitted, List.filterMap_nil, List.map_append, hinputs]
      rfl

/-- The object was returned by an ingestion that one of the requests asked for. -/
def IngestedBy (acceptsHost : Str → Bool) (L : ToolLibraries) (server : ToolServer)
    (posts : List HttpRequest) (key : ArtifactKey) (payload : Bytes) : Prop :=
  ∃ request ∈ posts, ∃ toolRequest call result output,
    admission acceptsHost L server request = .ok toolRequest ∧
      Ingests L toolRequest call result output ∧
    ∃ item ∈ output.evidenceObjects, RegisteredAs L.platform item key payload

/-- The registry is the work of requests with the token. -/
structure Guarded (acceptsHost : Str → Bool) (L : ToolLibraries) (server : ToolServer)
    (capacity : { n : ℕ // 1 ≤ n }) (posts : List HttpRequest) (store : TrustedArtifactStore) :
    Prop where
  refines : ∃ served, ToolRun L server capacity served store ∧
    served.map Entry.input = posts.filterMap (admitted acceptsHost L server)
  bears : ∀ request toolRequest, admission acceptsHost L server request = .ok toolRequest →
    Targets acceptsHost request toolRequest.path ∧ Bears request.headers server.apiToken.val
  ingested : ∀ key payload, store.records.get key = some payload →
    IngestedBy acceptsHost L server posts key payload

/-- Whatever requests a process has taken, its registry is what the requests with the token made of
it, and it holds nothing but objects that their ingestions returned. -/
theorem registryAfter_guarded (acceptsHost : Str → Bool) (L : ToolLibraries) (server : ToolServer)
    (capacity : { n : ℕ // 1 ≤ n }) (posts : List HttpRequest) :
    Guarded acceptsHost L server capacity posts
      (registryAfter acceptsHost L server capacity posts) := by
  obtain ⟨served, hrun, hinputs⟩ := toolRun_registryAfter acceptsHost L server capacity posts
  refine ⟨⟨served, hrun, hinputs⟩, fun _ _ => bears_of_admission, fun key payload hget => ?_⟩
  obtain ⟨context, item, hproduced, hregistered⟩ := hrun.onlyProduced key payload hget
  obtain ⟨entry, hentry, call, result, output, hingests, -, -, hitem⟩ := hproduced
  have hinput : entry.input ∈ posts.filterMap (admitted acceptsHost L server) :=
    hinputs ▸ List.mem_map_of_mem hentry
  obtain ⟨request, hrequest, hadmitted⟩ := List.mem_filterMap.1 hinput
  exact ⟨request, hrequest, entry.input, call, result, output, admitted_eq_some.1 hadmitted,
    hingests, item, hitem, hregistered⟩

/-! ## Requests without a response -/

/-- The path is not a URL, or the credentials for a tool are compared although they, or the token,
are not ASCII. -/
def Dropped (acceptsHost : Str → Bool) (server : ToolServer) (request : HttpRequest) : Prop :=
  (∀ path, urlPath acceptsHost request.path ≠ .ok path) ∨
    (∃ tool, Targets acceptsHost request tool) ∧ ∃ provided, Bears request.headers provided ∧
      ¬ (isAscii provided = true ∧ isAscii server.apiToken.val = true)

theorem doPost_of_raised {e : Fault}
    (h : admission acceptsHost L server request = .error (.error e)) :
    doPost acceptsHost L server store request = (.error e, store) := by
  unfold doPost
  rw [h]

theorem raised_of_dropped (h : Dropped acceptsHost server request) :
    ∃ e, admission acceptsHost L server request = .error (.error e) := by
  rcases h with hpath | ⟨⟨tool, htool⟩, provided, hbears, hascii⟩
  · cases hurl : urlPath acceptsHost request.path with
    | ok path => exact absurd hurl (hpath path)
    | error e =>
      unfold admission
      rw [hurl]
      exact ⟨e, rfl⟩
  · obtain ⟨hprovided, scheme, hvalues, -⟩ := id hbears
    have hsingle : ¬ 1 < (request.headers.getAll "Authorization").length := by
      rw [hvalues]
      exact Nat.lt_irrefl 1
    have hcompare : authorized request.headers server.apiToken.val = .error .typeError := by
      rcases authorized_cases server.apiToken.val hsingle with ⟨hnone, -⟩ | ⟨other, hother, heq⟩
      · exact absurd hbears (hnone provided)
      · rw [hother.unique hbears] at heq
        rw [heq, compareDigest, if_neg (mt Bool.and_eq_true_iff.1 hascii)]
    refine ⟨.typeError, ?_⟩
    rw [admission_of_targets htool, Flow.returnIf, if_neg hsingle, hcompare]
    rfl

/-- Nothing else goes without a response. -/
theorem exists_doPost_of_not_dropped (L : ToolLibraries) (store : TrustedArtifactStore)
    (hlimit : server.maxBodyBytes.val < 10 ^ Server.maxStrDigits)
    (h : ¬ Dropped acceptsHost server request) :
    ∃ response, (doPost acceptsHost L server store request).1 = .ok response := by
  obtain ⟨hpath, hcredentials⟩ := not_or.1 h
  obtain ⟨path, hpath⟩ := not_forall.1 hpath
  have htarget : ∃ path, urlPath acceptsHost request.path = .ok path :=
    ⟨path, not_not.1 hpath⟩
  by_cases htool : ∃ tool, Targets acceptsHost request tool
  · have hanswerable : Answerable acceptsHost server request := by
      refine ⟨htarget, fun provided hbears => ?_, hlimit⟩
      by_contra hascii
      exact hcredentials ⟨htool, provided, hbears, hascii⟩
    obtain ⟨response, hresponse, -⟩ := exists_doPost hanswerable
    exact ⟨response, hresponse⟩
  · rw [doPost_of_refused (admission_of_no_tool htarget (not_exists.1 htool))]
    exact ⟨_, rfl⟩

/-- A request gets no response exactly if its path is not a URL or its credentials for a tool cannot
be compared; it leaves the registry alone then. -/
theorem doPost_raises_iff (acceptsHost : Str → Bool) (L : ToolLibraries) (server : ToolServer)
    (store : TrustedArtifactStore) (request : HttpRequest)
    (hlimit : server.maxBodyBytes.val < 10 ^ Server.maxStrDigits) :
    (∃ e, doPost acceptsHost L server store request = (.error e, store)) ↔
      Dropped acceptsHost server request := by
  constructor
  · rintro ⟨e, he⟩
    by_contra hdropped
    obtain ⟨response, hresponse⟩ := exists_doPost_of_not_dropped L store hlimit hdropped
    rw [he] at hresponse
    cases hresponse
  · intro h
    obtain ⟨e, he⟩ := raised_of_dropped (L := L) h
    exact ⟨e, doPost_of_raised he⟩

/-- A target with one bracket gets no response. -/
theorem sample_doPost_raises_iff :
    ∃ e, doPost (fun _ => true) (Sample.serviceLibraries fun _ => none)
    Sample.smallServer (.empty ⟨8, by decide⟩) (Sample.bareRequest "http://[") =
      (.error e, .empty ⟨8, by decide⟩) :=
  (doPost_raises_iff (fun _ => true) (Sample.serviceLibraries fun _ => none) Sample.smallServer
    (.empty ⟨8, by decide⟩) (Sample.bareRequest "http://[") Sample.smallServer_limit).2
    (.inl fun _ hpath => nomatch hpath)

end ProofFlow
