import ProofFlow.Evidence.Ingest
import ProofFlow.Server.ContentLength
import ProofFlow.Server.Nesting
import ProofFlow.Wire

/-!
# Admission of a request

`do_POST` up to the validation of the body: the path of the target, the `Authorization` header, the
framing and the media type of the body, and its text.  An error that is sent here ends the request
before a tool runs; an exception ends it without a response, since nothing catches it.  The deadline
of the reader is left out.
-/

namespace ProofFlow

open Kit Server

/-! ## Latin-1 texts -/

/-- `str(b, "iso-8859-1")`. -/
def latin1 (b : Bytes) : Str := b.map fun x => Char.ofNat x.toNat

def lowerChar (c : Char) : Char :=
  if isUpper c || (0xc0 ≤ c.toNat && c.toNat ≤ 0xde && c.toNat != 0xd7) then Char.ofNat
    (c.toNat + 32)
  else c

/-- `str.lower` of a Latin-1 text. -/
def lower (s : Str) : Str := s.map lowerChar

/-- `str.casefold` of a Latin-1 text. -/
def foldCase (s : Str) : Str := s.flatMap fun c =>
  if c.toNat = 0xb5 then [Char.ofNat 0x3bc]
  else if c.toNat = 0xdf then ['s', 's']
  else [lowerChar c]

/-- `str.isspace` of a Latin-1 character. -/
def isSpace (c : Char) : Bool := isWhitespace c || (0x1c ≤ c.toNat && c.toNat ≤ 0x1f)

/-- `s.partition(c)`, where the second part is whether the separator was found. -/
def partition (c : Char) (s : Str) : Str × Bool × Str :=
  (s.takeWhile (· ≠ c), decide (c ∈ s), (s.dropWhile (· ≠ c)).tail)

def isAscii (s : Str) : Bool := s.all fun c => decide (c.toNat < 128)

/-- `hmac.compare_digest` of strings. -/
def compareDigest (a b : Str) : Except Fault Bool :=
  if isAscii a && isAscii b then .ok (decide (a = b)) else .error .typeError

/-! ## Headers -/

/-- The names and the values of the header lines. -/
abbrev Headers := List (Bytes × Bytes)

/-- `self.headers.get_all(name, [])`. -/
def Headers.getAll (headers : Headers) (name : String) : List Str :=
  (headers.filter fun h => lower (latin1 h.1) = lower (lit name)).map fun h => latin1 h.2

/-- `_splitparam(value)[0]`. -/
def splitParam (value : Str) : Str :=
  (((value.takeWhile (· ≠ ';')).dropWhile isSpace).reverse.dropWhile isSpace).reverse

/-- `self.headers.get_content_type()`. -/
def Headers.getContentType (headers : Headers) : Str :=
  match headers.getAll "Content-Type" with
  | [] => lit "text/plain"
  | value :: _ =>
    let ctype := lower (splitParam value)
    if ctype.count '/' = 1 then ctype else lit "text/plain"

/-! ## The path -/

/-- `_WHATWG_C0_CONTROL_OR_SPACE`. -/
def isControlOrSpace (c : Char) : Bool := c.toNat ≤ 0x20

/-- `_UNSAFE_URL_BYTES_TO_REMOVE`. -/
def isUnsafe (c : Char) : Bool := c = '\t' || c = '\r' || c = '\n'

/-- `scheme_chars`. -/
def isSchemeChar (c : Char) : Bool := isAlnum c || c = '+' || c = '-' || c = '.'

/-- The URL after its scheme, if it has one. -/
def afterScheme (url : Str) : Str :=
  let scheme := url.takeWhile (· ≠ ':')
  if ':' ∈ url ∧ scheme.head?.any (fun c => isUpper c || isLower c) ∧ scheme.all isSchemeChar then
    url.drop (scheme.length + 1)
  else url

/-- The brackets of a network location, where `acceptsHost` is what `_check_bracketed_netloc` lets
pass. -/
def acceptsNetloc (acceptsHost : Str → Bool) (netloc : Str) : Bool :=
  if '[' ∈ netloc then decide (']' ∈ netloc) && acceptsHost netloc else decide (']' ∉ netloc)

/-- `urlsplit(target).path`.  The NFKC form of a Latin-1 text has no new separator, so
`_checknetloc` accepts it. -/
def urlPath (acceptsHost : Str → Bool) (target : Str) : Except Fault Str :=
  let url := afterScheme ((target.dropWhile isControlOrSpace).filter fun c => !isUnsafe c)
  let path := fun rest : Str => (rest.takeWhile (· ≠ '#')).takeWhile (· ≠ '?')
  if (lit "//").isPrefixOf url then
    let delimits := fun c : Char => c = '/' || c = '?' || c = '#'
    let netloc := (url.drop 2).takeWhile fun c => !delimits c
    if acceptsNetloc acceptsHost netloc then .ok
      (path ((url.drop 2).dropWhile fun c => !delimits c))
    else .error .valueError
  else .ok (path url)

/-! ## The body -/

/-- An error that is sent before a tool runs. -/
structure Refusal where
  status : ℕ
  code : String
  message : String
  deriving DecidableEq

/-- The end of a body that sends an error. -/
abbrev refuse (status : ℕ) (code message : String) : Outcome Fault Refusal :=
  .ok ⟨status, code, message⟩

/-- The checks of the values of `Transfer-Encoding`. -/
def checkTransferEncodings : List Str → Flow Fault Refusal Unit
  | [] => .ok ()
  | [value] =>
    match strictHttpOwsValue value with
    | none => .error (refuse 400 "INVALID_TRANSFER_ENCODING"
        "Transfer-Encoding contains invalid whitespace or control bytes")
    | some encoding => do
      Flow.returnIf (',' ∈ encoding) (refuse 400 "AMBIGUOUS_TRANSFER_ENCODING"
        "exactly one Transfer-Encoding is allowed")
      Flow.returnIf (foldCase encoding ≠ lit "chunked") (refuse 400 "UNSUPPORTED_TRANSFER_ENCODING"
        "only Transfer-Encoding: chunked is supported")
  | _ => .error
    (refuse 400 "AMBIGUOUS_TRANSFER_ENCODING" "exactly one Transfer-Encoding is allowed")

/-- The checks of the content type. -/
def checkContentType (headers : Headers) : Flow Fault Refusal Unit := do
  let contentTypes := headers.getAll "Content-Type"
  Flow.returnIf (1 < contentTypes.length ∨ ∃ value ∈ contentTypes.head?, ',' ∈ value)
    (refuse 400 "AMBIGUOUS_CONTENT_TYPE" "exactly one Content-Type is allowed")
  Flow.returnIf (foldCase headers.getContentType ≠ lit "application/json")
    (refuse 415 "UNSUPPORTED_MEDIA_TYPE" "Content-Type must be application/json")

/-- The error that is sent for what ends the reading of a body. -/
def refusalOf (incomplete : String) : BodyError → Refusal
  | .unexpectedEOF => ⟨400, incomplete, "request body ended before its framing was complete"⟩
  | .protocolError status code message => ⟨status, code, message⟩

/-- A conversion that the handler does not guard. -/
def converting {α : Type} : Except PyErr α → Flow Fault Refusal α
  | .ok a => .ok a
  | .error _ => .error (.error .valueError)

/-- A body in chunks; the limit is printed before it is known that no length was declared. -/
def readChunked (maxBodyBytes : ℕ) (reader : Reader) : Flow Fault Refusal Bytes := do
  let _ ← converting (strOfNat maxBodyBytes)
  match readChunkedBody maxBodyBytes reader with
  | .ok (buffer, _) => .ok buffer.body
  | .error stop => .error (.ok (refusalOf "INCOMPLETE_CHUNKED_BODY" stop.error))

/-- A body of a declared length. -/
def readDeclared (maxBodyBytes : ℕ) (lengths : List Str) (reader : Reader) :
    Flow Fault Refusal Bytes := do
  match ← converting (contentLength maxBodyBytes lengths) with
  | .error e => .error (.ok (refusalOf "INCOMPLETE_REQUEST_BODY" e))
  | .ok length =>
    match reader.readExact length with
    | .ok (body, _) => .ok body
    -- `read_exact` ends with nothing but `_BodyUnexpectedEOF`
    | .error _ => .error (.ok (refusalOf "INCOMPLETE_REQUEST_BODY" .unexpectedEOF))

/-- `MAX_JSON_NESTING`. -/
def maxJsonNesting : ℕ := 64

/-- `json.loads` of the text with both hooks returns. -/
def isStrictJson (recursionLimit : ℕ) (body : Bytes) : Bool :=
  match decodeStrict body with
  | none => false
  | some text =>
    match scanDocument .none recursionLimit text with
    | .ok v => v.passesHooks
    | .error _ => false

/-- `_read_json_body`. -/
def readJsonBody (recursionLimit maxBodyBytes : ℕ) (headers : Headers) (reader : Reader) :
    Flow Fault Refusal Bytes := do
  let transferEncodings := headers.getAll "Transfer-Encoding"
  let lengths := headers.getAll "Content-Length"
  Flow.returnIf (transferEncodings ≠ [] ∧ lengths ≠ []) (refuse 400 "AMBIGUOUS_REQUEST_FRAMING"
    "Content-Length and Transfer-Encoding cannot be combined")
  checkTransferEncodings transferEncodings
  checkContentType headers
  let body ← (if transferEncodings ≠ [] then readChunked maxBodyBytes reader
    else readDeclared maxBodyBytes lengths reader)
  Flow.returnIf (jsonNestingExceeds body maxJsonNesting = true)
    (refuse 400 "JSON_NESTING_TOO_DEEP" "request JSON exceeds the nesting limit")
  Flow.returnIf (isStrictJson recursionLimit body = false)
    (refuse 400 "INVALID_JSON" "request body must be valid UTF-8 JSON")
  return body

/-! ## Errors that are sent -/

/-- An error is sent. -/
def Sends (out : Outcome Fault Refusal) : Prop := ∃ refusal, out = .ok refusal

theorem sends_ok (refusal : Refusal) : Sends (.ok refusal) := ⟨refusal, rfl⟩

section Sends

variable {recursionLimit maxBodyBytes : ℕ} {headers : Headers} {reader : Reader}

theorem exits_checkTransferEncodings (values : List Str) :
    Flow.Exits Sends (checkTransferEncodings values) := by
  unfold checkTransferEncodings
  split
  · exact Flow.exits_ok ()
  · split
    · exact Flow.exits_error (sends_ok _)
    · refine (Flow.exits_returnIf fun _ => sends_ok _).bind fun _ _ => ?_
      exact Flow.exits_returnIf fun _ => sends_ok _
  · exact Flow.exits_error (sends_ok _)

theorem exits_checkContentType (headers : Headers) :
    Flow.Exits Sends (checkContentType headers) := by
  refine (Flow.exits_returnIf fun _ => sends_ok _).bind fun _ _ => ?_
  exact Flow.exits_returnIf fun _ => sends_ok _

/-- A limit that can be printed makes the length of every list of values a number or an error. -/
theorem exists_contentLength (h : maxBodyBytes < 10 ^ Server.maxStrDigits) (values : List Str) :
    ∃ length, contentLength maxBodyBytes values = .ok length := by
  unfold contentLength
  split
  · exact ⟨_, rfl⟩
  · split_ifs
    · exact ⟨_, rfl⟩
    · split
      · exact ⟨_, rfl⟩
      · rename_i rawLength _
        split_ifs with hdigits
        · rw [isAsciiDigits, Bool.and_eq_true] at hdigits
          exact ⟨_, declaredLength_eq (List.all_eq_true.1 hdigits.2) h⟩
        · exact ⟨_, rfl⟩
  · exact ⟨_, rfl⟩

theorem exits_readChunked (h : maxBodyBytes < 10 ^ Server.maxStrDigits) :
    Flow.Exits Sends (readChunked maxBodyBytes reader) := by
  unfold readChunked
  rw [strOfNat_eq_ok.2 h]
  refine (Flow.exits_ok _).bind fun _ _ => ?_
  split
  · exact Flow.exits_ok _
  · exact Flow.exits_error (sends_ok _)

theorem exits_readDeclared (h : maxBodyBytes < 10 ^ Server.maxStrDigits) (lengths : List Str) :
    Flow.Exits Sends (readDeclared maxBodyBytes lengths reader) := by
  obtain ⟨length, hlength⟩ := exists_contentLength h lengths
  unfold readDeclared
  rw [hlength]
  refine (Flow.exits_ok _).bind fun length _ => ?_
  split
  · exact Flow.exits_error (sends_ok _)
  · split
    · exact Flow.exits_ok _
    · exact Flow.exits_error (sends_ok _)

/-- A body that is not read is answered with an error. -/
theorem exits_readJsonBody (h : maxBodyBytes < 10 ^ Server.maxStrDigits) :
    Flow.Exits Sends (readJsonBody recursionLimit maxBodyBytes headers reader) := by
  refine (Flow.exits_returnIf fun _ => sends_ok _).bind fun _ _ => ?_
  refine (exits_checkTransferEncodings _).bind fun _ _ => ?_
  refine (exits_checkContentType headers).bind fun _ _ => ?_
  refine Flow.Exits.bind ?_ fun body _ => ?_
  · split_ifs
    · exact exits_readChunked h
    · exact exits_readDeclared h _
  refine (Flow.exits_returnIf fun _ => sends_ok _).bind fun _ _ => ?_
  refine (Flow.exits_returnIf fun _ => sends_ok _).bind fun _ _ => ?_
  exact Flow.exits_ok body

end Sends

end ProofFlow
