import ProofFlow.Kit.Flow
import ProofFlow.Kit.Loop
import ProofFlow.Server.Extensions
import ProofFlow.Server.Reader

/-!
# Chunked bodies

`_read_chunked_body` reads size lines and chunks up to a chunk of size 0 and then trailer lines up
to an empty line.  A frame is such a sequence together with the evidence that each of its lines
belongs to the grammar.  The decoder is correct in both directions, except that it takes whitespace
between a size and the semicolon of its first extension for a part of the size.
-/

namespace ProofFlow.Server

/-- `MAX_CHUNK_LINE_BYTES`. -/
def maxChunkLineBytes : ℕ := 8192

/-- `MAX_CHUNK_TRAILER_BYTES`. -/
def maxChunkTrailerBytes : ℕ := 16 * 1024

/-- `b"\r\n"`. -/
def crlf : Bytes := [13, 10]

/-- `_HEX_CHARACTERS`. -/
def isHexByte (b : UInt8) : Bool :=
  (48 ≤ b && b ≤ 57) || (65 ≤ b && b ≤ 70) || (97 ≤ b && b ≤ 102)

/-- The value of a hexadecimal digit. -/
def hexDigitValue (b : UInt8) : ℕ :=
  if b ≤ 57 then b.toNat - 48 else if b ≤ 70 then b.toNat - 55 else b.toNat - 87

/-- `int(token, 16)`. -/
def hexNumber (token : Bytes) : ℕ := token.foldl (fun n b => 16 * n + hexDigitValue b) 0

/-- The size token and the extensions of a size line. -/
def splitSize (raw : Bytes) : Bytes × Bytes :=
  match raw.idxOf? 59 with
  | none => (raw, [])
  | some extensionStart => (raw.take extensionStart, raw.drop extensionStart)

/-- `_parse_chunk_size`. -/
def parseChunkSize (line : Bytes) : Option ℕ :=
  if crlf.isSuffixOf line then
    let raw := line.take (line.length - 2)
    let (sizeToken, extensions) := splitSize raw
    if sizeToken = [] ∨ sizeToken.any (fun b => !isHexByte b) then none
    else if extensions ≠ [] ∧ validChunkExtensions extensions = false then none
    else some (hexNumber sizeToken)
  else none

/-- `_FORBIDDEN_TRAILER_FIELDS`. -/
def forbiddenTrailerFields : List Bytes :=
  [ascii "authorization", ascii "connection", ascii "content-length", ascii "content-type",
    ascii "host", ascii "trailer", ascii "transfer-encoding"]

/-- `bytes.lower`. -/
def lowerBytes (s : Bytes) : Bytes := s.map fun b => if 65 ≤ b ∧ b ≤ 90 then b + 32 else b

/-- `_valid_trailer_line`. -/
def validTrailerLine (line : Bytes) : Bool :=
  if crlf.isSuffixOf line then
    let field := line.take (line.length - 2)
    match field.idxOf? 58 with
    | none => false
    | some separator =>
      let name := field.take separator
      if name = [] ∨ name.any (fun b => !isTokenByte b) then false
      else if lowerBytes name ∈ forbiddenTrailerFields then false
      else (field.drop (separator + 1)).all isTextByte
  else false

/-! ## The decoder -/

/-- What ends the decoder early: the stream, or a `_BodyProtocolError`. -/
inductive BodyError where
  | unexpectedEOF
  | protocolError (status : ℕ) (code message : String)
  deriving DecidableEq

def BodyError.malformed : BodyError :=
  .protocolError 400 "INVALID_CHUNKED_BODY" "chunk framing is malformed"

def BodyError.tooLarge : BodyError :=
  .protocolError 413 "REQUEST_TOO_LARGE" "request body exceeds the configured limit"

def BodyError.trailersTooLarge : BodyError :=
  .protocolError 413 "CHUNKED_TRAILERS_TOO_LARGE" "chunk trailers exceed the configured limit"

/-- The body that is buffered, and the calls of `read_exact` for a chunk: the length of the body
before each and the size that it asked for. -/
structure Buffer where
  body : Bytes
  requests : List (ℕ × ℕ)

def Buffer.empty : Buffer := ⟨[], []⟩

/-- `read_exact(size)` is called. -/
def Buffer.request (b : Buffer) (size : ℕ) : Buffer :=
  { b with requests := b.requests ++ [(b.body.length, size)] }

/-- `body.extend(chunk)`. -/
def Buffer.extend (b : Buffer) (chunk : Bytes) : Buffer := { b with body := b.body ++ chunk }

/-- Neither the body nor the body with a chunk that was asked for is longer than allowed. -/
structure Buffer.Within (maxBodyBytes : ℕ) (b : Buffer) : Prop where
  body : b.body.length ≤ maxBodyBytes
  requests : ∀ q ∈ b.requests, q.1 + q.2 ≤ maxBodyBytes

/-- The end of the decoder, with what it has buffered and asked for until then. -/
structure Stop where
  error : BodyError
  buffer : Buffer

namespace Reader

variable {r r' : Reader} {line bytes rest : Bytes} {limit : ℤ} {n : ℕ}

theorem readLine_ok (h : r.readLine limit = .ok (line, r')) :
    r.text = line ++ r'.text ∧ (line.length : ℤ) ≤ limit ∧ line ≠ [] := by
  have hview := view_readLine limit r
  rw [h, Except.map, readLineText] at hview
  split_ifs at hview with hline
  obtain ⟨hmem, hlimit⟩ := hline
  rw [List.splitAt_eq] at hview
  obtain ⟨rfl, hrest⟩ := Prod.mk.inj (Except.ok.inj hview)
  obtain ⟨k, hk⟩ := Option.isSome_iff_exists.1 (List.isSome_idxOf?.2 hmem)
  have hlength : lineLength r.text = k + 1 := by rw [lineLength, hk, Option.elim_some]
  obtain ⟨hlt, -, -⟩ := List.idxOf?_eq_some_iff.1 hk
  refine ⟨?_, ?_, ?_⟩
  · rw [hrest, List.take_append_drop]
  · rw [List.length_take]
    omega
  · rw [hlength]
    exact List.ne_nil_of_length_pos (by rw [List.length_take]; omega)

theorem readExact_ok (h : r.readExact n = .ok (bytes, r')) :
    r.text = bytes ++ r'.text ∧ bytes.length = n := by
  have hview := view_readExact n r
  rw [h, Except.map, readExactText] at hview
  split_ifs at hview with hn
  rw [List.splitAt_eq] at hview
  obtain ⟨rfl, hrest⟩ := Prod.mk.inj (Except.ok.inj hview)
  exact ⟨by rw [hrest, List.take_append_drop], List.length_take_of_le hn⟩

/-- A line of the text that is short enough is read. -/
theorem readLine_of_text (h : r.text = line ++ 10 :: rest) (hline : 10 ∉ line)
    (hlimit : (line.length + 1 : ℤ) ≤ limit) :
    ∃ r', r.readLine limit = .ok (line ++ [10], r') ∧ r'.text = rest := by
  have hlength : lineLength r.text = line.length + 1 := by
    rw [lineLength, Kit.idxOf?_eq_some_iff_append.2 ⟨line, rest, h, hline, rfl⟩, Option.elim_some]
  have hview := view_readLine limit r
  rw [readLineText, if_pos ⟨by simp [h], by omega⟩, hlength, List.splitAt_eq] at hview
  have hsplit : r.text = (line ++ [10]) ++ rest := by simp [h]
  have htake : r.text.take (line.length + 1) = line ++ [10] := by
    rw [hsplit]
    exact List.take_left' (by simp)
  have hdrop : r.text.drop (line.length + 1) = rest := by
    rw [hsplit]
    exact List.drop_left' (by simp)
  rw [htake, hdrop] at hview
  cases hread : r.readLine limit with
  | error e =>
    rw [hread] at hview
    cases hview
  | ok result =>
    obtain ⟨bytes, r'⟩ := result
    rw [hread] at hview
    obtain ⟨rfl, hrest⟩ := Prod.mk.inj (Except.ok.inj hview)
    exact ⟨r', rfl, hrest⟩

theorem readExact_of_text (h : r.text = bytes ++ rest) :
    ∃ r', r.readExact bytes.length = .ok (bytes, r') ∧ r'.text = rest := by
  have hview := view_readExact bytes.length r
  rw [readExactText, h, if_pos (by simp), List.splitAt_eq, List.take_left, List.drop_left] at hview
  cases hread : r.readExact bytes.length with
  | error e =>
    rw [hread] at hview
    cases hview
  | ok result =>
    obtain ⟨bytes, r'⟩ := result
    rw [hread] at hview
    obtain ⟨rfl, hrest⟩ := Prod.mk.inj (Except.ok.inj hview)
    exact ⟨r', rfl, hrest⟩

end Reader

/-- A pass of the first loop of `_read_chunked_body`: the loop ends at a chunk of size 0. -/
def chunkStep (maxBodyBytes : ℕ) (state : Buffer × Reader) :
    Except Stop ((Buffer × Reader) ⊕ (Buffer × Reader)) :=
  let (buffer, r) := state
  match r.readLine maxChunkLineBytes with
  | .error .lineTooLong => .error ⟨.malformed, buffer⟩
  | .error .unexpectedEOF => .error ⟨.unexpectedEOF, buffer⟩
  | .ok (sizeLine, r) =>
    match parseChunkSize sizeLine with
    | none => .error ⟨.malformed, buffer⟩
    | some chunkSize =>
      if chunkSize = 0 then .ok (.inl (buffer, r))
      else if chunkSize > maxBodyBytes - buffer.body.length then .error ⟨.tooLarge, buffer⟩
      else
        let buffer := buffer.request chunkSize
        match r.readExact chunkSize with
        | .error _ => .error ⟨.unexpectedEOF, buffer⟩
        | .ok (chunk, r) =>
          let buffer := buffer.extend chunk
          match r.readExact 2 with
          | .error _ => .error ⟨.unexpectedEOF, buffer⟩
          | .ok (chunkEnd, r) =>
            if chunkEnd ≠ crlf then .error ⟨.malformed, buffer⟩ else .ok (.inr (buffer, r))

/-- A pass of the second loop, over the trailer lines: the loop ends at an empty line. -/
def trailerStep (buffer : Buffer) (state : ℕ × Reader) : Except Stop (Reader ⊕ (ℕ × Reader)) :=
  let (trailerBytes, r) := state
  let remaining : ℤ := maxChunkTrailerBytes - trailerBytes
  if remaining ≤ 0 then .error ⟨.trailersTooLarge, buffer⟩
  else match r.readLine remaining with
    | .error .lineTooLong => .error ⟨.trailersTooLarge, buffer⟩
    | .error .unexpectedEOF => .error ⟨.unexpectedEOF, buffer⟩
    | .ok (trailerLine, r) =>
      if trailerLine = crlf then .ok (.inl r)
      else if validTrailerLine trailerLine then .ok (.inr (trailerBytes + trailerLine.length, r))
      else .error ⟨.malformed, buffer⟩

section Steps

variable {maxBodyBytes trailerBytes trailerBytes' : ℕ} {buffer buffer' : Buffer} {r r' : Reader}

/-- A pass over a chunk. -/
theorem chunkStep_next (h : chunkStep maxBodyBytes (buffer, r) = .ok (.inr (buffer', r'))) :
    ∃ line chunk, r.text = line ++ (chunk ++ (crlf ++ r'.text)) ∧
      buffer' = (buffer.request chunk.length).extend chunk ∧
      line ≠ [] ∧ line.length ≤ maxChunkLineBytes ∧ parseChunkSize line = some chunk.length ∧
      chunk ≠ [] ∧ chunk.length ≤ maxBodyBytes - buffer.body.length := by
  simp only [chunkStep] at h
  split at h
  · cases h
  · cases h
  · rename_i line r₁ hline
    obtain ⟨htext, hshort, hne⟩ := Reader.readLine_ok hline
    split at h
    · cases h
    · rename_i size hsize
      split_ifs at h with hzero hlarge
      · cases h
      split at h
      · cases h
      · rename_i chunk r₂ hchunk
        obtain ⟨htext₁, rfl⟩ := Reader.readExact_ok hchunk
        split at h
        · cases h
        · rename_i chunkEnd r₃ hend
          obtain ⟨htext₂, -⟩ := Reader.readExact_ok hend
          split_ifs at h with hcrlf
          obtain ⟨rfl, rfl⟩ := Prod.mk.inj (Sum.inr.inj (Except.ok.inj h))
          rw [not_not] at hcrlf
          refine ⟨line, chunk, by rw [htext, htext₁, htext₂, hcrlf], rfl, hne, by omega, hsize, ?_,
            Nat.not_lt.1 hlarge⟩
          rintro rfl
          exact hzero rfl

theorem chunkStep_break (h : chunkStep maxBodyBytes (buffer, r) = .ok (.inl (buffer', r'))) :
    ∃ line, r.text = line ++ r'.text ∧ buffer' = buffer ∧ line.length ≤ maxChunkLineBytes ∧
      parseChunkSize line = some 0 := by
  simp only [chunkStep] at h
  split at h
  · cases h
  · cases h
  · rename_i line r₁ hline
    obtain ⟨htext, hshort, -⟩ := Reader.readLine_ok hline
    split at h
    · cases h
    · rename_i size hsize
      split_ifs at h with hzero
      · obtain ⟨rfl, rfl⟩ := Prod.mk.inj (Sum.inl.inj (Except.ok.inj h))
        exact ⟨line, htext, rfl, by omega, hzero ▸ hsize⟩
      · repeat' split at h
        all_goals cases h

theorem trailerStep_next
    (h : trailerStep buffer (trailerBytes, r) = .ok (.inr (trailerBytes', r'))) :
    ∃ line, r.text = line ++ r'.text ∧ trailerBytes' = trailerBytes + line.length ∧ line ≠ [] ∧
      trailerBytes' ≤ maxChunkTrailerBytes ∧ validTrailerLine line = true := by
  simp only [trailerStep] at h
  split_ifs at h
  split at h
  · cases h
  · cases h
  · rename_i line r₁ hline
    obtain ⟨htext, hshort, hne⟩ := Reader.readLine_ok hline
    split_ifs at h with hcrlf hvalid
    · cases h
    obtain ⟨rfl, rfl⟩ := Prod.mk.inj (Sum.inr.inj (Except.ok.inj h))
    exact ⟨line, htext, rfl, hne, by omega, hvalid⟩

theorem trailerStep_break (h : trailerStep buffer (trailerBytes, r) = .ok (.inl r')) :
    r.text = crlf ++ r'.text ∧ trailerBytes + 2 ≤ maxChunkTrailerBytes := by
  simp only [trailerStep] at h
  split_ifs at h
  split at h
  · cases h
  · cases h
  · rename_i line r₁ hline
    obtain ⟨htext, hshort, -⟩ := Reader.readLine_ok hline
    split_ifs at h with hcrlf
    · obtain rfl := Sum.inl.inj (Except.ok.inj h)
      rw [hcrlf] at htext hshort
      refine ⟨htext, ?_⟩
      simp only [crlf, List.length_cons, List.length_nil] at hshort
      omega
    · cases h

theorem length_chunkStep (s s' : Buffer × Reader) (h : chunkStep maxBodyBytes s = .ok (.inr s')) :
    s'.2.text.length < s.2.text.length := by
  obtain ⟨line, chunk, htext, -, hne, -⟩ := chunkStep_next h
  have hpos := List.length_pos_iff.2 hne
  rw [htext]
  simp only [List.length_append]
  omega

theorem length_trailerStep (s s' : ℕ × Reader) (h : trailerStep buffer s = .ok (.inr s')) :
    s'.2.text.length < s.2.text.length := by
  obtain ⟨line, htext, -, hne, -⟩ := trailerStep_next h
  have hpos := List.length_pos_iff.2 hne
  rw [htext, List.length_append]
  omega

end Steps

/-- The first loop, with what is buffered before it. -/
def readChunks (maxBodyBytes : ℕ) (state : Buffer × Reader) : Except Stop (Buffer × Reader) :=
  Kit.loop (chunkStep maxBodyBytes) (fun state => state.2.text.length) length_chunkStep state

/-- The second loop. -/
def readTrailers (buffer : Buffer) (state : ℕ × Reader) : Except Stop Reader :=
  Kit.loop (trailerStep buffer) (fun state => state.2.text.length) length_trailerStep state

/-- `_read_chunked_body`: the buffer with the body, and the reader behind its frame. -/
def readChunkedBody (maxBodyBytes : ℕ) (r : Reader) : Except Stop (Buffer × Reader) := do
  let (buffer, r) ← readChunks maxBodyBytes (.empty, r)
  let r ← readTrailers buffer (0, r)
  return (buffer, r)

/-! ## Frames -/

/-- A size line: a size in hexadecimal digits of either case, leading zeros included, and
extensions. -/
structure SizeLine where
  token : Bytes
  extensions : Bytes
  token_ne : token ≠ []
  hex : ∀ b ∈ token, isHexByte b = true
  valid : extensions = [] ∨ IsExtensions extensions
  short : token.length + extensions.length + 2 ≤ maxChunkLineBytes

namespace SizeLine

def size (l : SizeLine) : ℕ := hexNumber l.token

def bytes (l : SizeLine) : Bytes := l.token ++ l.extensions ++ crlf

/-- The semicolon of the first extension follows the size at once. -/
def Tight (l : SizeLine) : Prop := ∀ b ∈ l.extensions.head?, b = 59

end SizeLine

/-- A chunk with its size line. -/
structure Chunk where
  line : SizeLine
  data : Bytes
  length_data : data.length = line.size
  data_ne : data ≠ []

def Chunk.bytes (c : Chunk) : Bytes := c.line.bytes ++ (c.data ++ crlf)

/-- An allowed trailer line. -/
structure TrailerLine where
  name : Bytes
  value : Bytes
  isToken : IsToken name
  allowed : lowerBytes name ∉ forbiddenTrailerFields
  printable : ∀ b ∈ value, isTextByte b = true

def TrailerLine.bytes (t : TrailerLine) : Bytes := t.name ++ 58 :: (t.value ++ crlf)

/-- The framing of a body. -/
structure Frame where
  chunks : List Chunk
  last : SizeLine
  last_size : last.size = 0
  trailers : List TrailerLine
  trailers_short : (trailers.flatMap TrailerLine.bytes).length + 2 ≤ maxChunkTrailerBytes

namespace Frame

def body (f : Frame) : Bytes := f.chunks.flatMap Chunk.data

def bytes (f : Frame) : Bytes :=
  f.chunks.flatMap Chunk.bytes ++ (f.last.bytes ++ (f.trailers.flatMap TrailerLine.bytes ++ crlf))

/-- No size line has whitespace between the size and the semicolon of its first extension. -/
def Tight (f : Frame) : Prop := (∀ c ∈ f.chunks, c.line.Tight) ∧ f.last.Tight

end Frame

/-! ## Lines -/

section Lines

variable {line raw token extensions : Bytes} {n : ℕ}

theorem isSuffixOf_crlf : crlf.isSuffixOf line = true ↔ ∃ raw, line = raw ++ crlf := by
  rw [List.isSuffixOf_iff_suffix]
  exact ⟨fun ⟨raw, h⟩ => ⟨raw, h.symm⟩, fun ⟨raw, h⟩ => ⟨raw, h.symm⟩⟩

theorem take_append_crlf (raw : Bytes) : (raw ++ crlf).take ((raw ++ crlf).length - 2) = raw :=
  List.take_left' (by simp [crlf])

theorem not_mem_of_hex {b : UInt8} (hex : ∀ c ∈ token, isHexByte c = true)
    (hb : isHexByte b = false) : b ∉ token := by
  intro h
  rw [hex b h] at hb
  cases hb

/-- The first semicolon splits the text. -/
theorem splitSize_of_not_mem (hsemicolon : 59 ∉ token) (htight : ∀ b ∈ extensions.head?, b = 59) :
    splitSize (token ++ extensions) = (token, extensions) := by
  unfold splitSize
  cases extensions with
  | nil => rw [List.append_nil, List.idxOf?_eq_none_iff.2 hsemicolon]
  | cons b rest =>
    obtain rfl := htight b rfl
    rw [Kit.idxOf?_eq_some_iff_append.2 ⟨token, rest, rfl, hsemicolon, rfl⟩]
    simp

/-- The extensions start with a semicolon, if there are any. -/
theorem splitSize_append (h : splitSize raw = (token, extensions)) :
    raw = token ++ extensions ∧ ∀ b ∈ extensions.head?, b = 59 := by
  unfold splitSize at h
  split at h
  · obtain ⟨rfl, rfl⟩ := Prod.mk.inj h
    exact ⟨(List.append_nil _).symm, nofun⟩
  · rename_i k hk
    obtain ⟨a, x, rfl, -, rfl⟩ := Kit.idxOf?_eq_some_iff_append.1 hk
    simp only [List.take_left, List.drop_left, Prod.mk.injEq] at h
    obtain ⟨rfl, rfl⟩ := h
    exact ⟨rfl, by simp⟩

theorem parseChunkSize_of_split (h : splitSize raw = (token, extensions)) :
    parseChunkSize (raw ++ crlf) =
      if token = [] ∨ token.any (fun b => !isHexByte b) then none
      else if extensions ≠ [] ∧ validChunkExtensions extensions = false then none
      else some (hexNumber token) := by
  unfold parseChunkSize
  rw [if_pos (isSuffixOf_crlf.2 ⟨raw, rfl⟩), take_append_crlf]
  simp only [h]

/-- The size of a tight line is parsed. -/
theorem SizeLine.parse_of_tight {l : SizeLine} (h : l.Tight) :
    parseChunkSize l.bytes = some l.size := by
  have hhex : ¬ (l.token = [] ∨ l.token.any (fun b => !isHexByte b) = true) := by
    rintro (h | h)
    · exact l.token_ne h
    · obtain ⟨b, hb, hnot⟩ := List.any_eq_true.1 h
      rw [l.hex b hb] at hnot
      cases hnot
  have hvalid : ¬ (l.extensions ≠ [] ∧ validChunkExtensions l.extensions = false) := by
    rintro ⟨-, hfalse⟩
    rw [(validChunkExtensions_eq_true _).2 l.valid] at hfalse
    cases hfalse
  have hsplit := splitSize_of_not_mem (not_mem_of_hex l.hex (by decide)) h
  rw [SizeLine.bytes, parseChunkSize_of_split hsplit, if_neg hhex, if_neg hvalid, SizeLine.size]

/-- Whitespace in front of the first semicolon counts as a part of the size. -/
theorem SizeLine.parse_of_loose {l : SizeLine} (h : ¬ l.Tight) : parseChunkSize l.bytes = none := by
  rcases l.valid with hnil | hextensions
  · exact absurd (by simp [SizeLine.Tight, hnil]) h
  · obtain ⟨a, rest, ha, hsplit, hhead, -⟩ := hextensions.trim
    have hne : a ≠ [] := by
      rintro rfl
      apply h
      intro b hb
      rw [hsplit, List.nil_append, hhead] at hb
      exact (Option.some.inj hb).symm
    obtain ⟨b, hb⟩ := List.exists_mem_of_ne_nil a hne
    have hblank {c : UInt8} (hc : isBlankByte c = true) : isHexByte c = false ∧ c ≠ 59 := by
      simp only [isBlankByte, Bool.or_eq_true, decide_eq_true_eq] at hc
      rcases hc with rfl | rfl <;> decide
    have hsemicolon : 59 ∉ l.token ++ a := by
      rw [List.mem_append, not_or]
      exact ⟨not_mem_of_hex l.hex (by decide), fun h => (hblank (ha 59 h)).2 rfl⟩
    have hsize : splitSize (l.token ++ l.extensions) = (l.token ++ a, rest) := by
      rw [hsplit, ← List.append_assoc]
      refine splitSize_of_not_mem hsemicolon fun c hc => ?_
      rw [hhead] at hc
      exact (Option.some.inj hc).symm
    rw [SizeLine.bytes, parseChunkSize_of_split hsize, if_pos]
    refine .inr (List.any_eq_true.2 ⟨b, List.mem_append_right _ hb, ?_⟩)
    rw [(hblank (ha b hb)).1]
    rfl

/-- A parsed line is a tight size line. -/
theorem SizeLine.of_parse (h : parseChunkSize line = some n)
    (hshort : line.length ≤ maxChunkLineBytes) :
    ∃ l : SizeLine, l.Tight ∧ l.bytes = line ∧ l.size = n := by
  have hsuffix : crlf.isSuffixOf line = true := by
    by_contra hnot
    rw [parseChunkSize, if_neg hnot] at h
    cases h
  obtain ⟨raw, rfl⟩ := isSuffixOf_crlf.1 hsuffix
  rcases hsplit : splitSize raw with ⟨token, extensions⟩
  obtain ⟨rfl, htight⟩ := splitSize_append hsplit
  rw [parseChunkSize_of_split hsplit] at h
  split_ifs at h with htoken hextensions
  obtain ⟨hne, hhex⟩ := not_or.1 htoken
  have hex : ∀ b ∈ token, isHexByte b = true := by simpa using hhex
  have hvalid : extensions = [] ∨ IsExtensions extensions := by
    rw [← validChunkExtensions_eq_true]
    by_cases hnil : extensions = []
    · exact (validChunkExtensions_eq_true _).2 (.inl hnil)
    · simpa [hnil] using hextensions
  rw [List.length_append, List.length_append] at hshort
  exact ⟨⟨token, extensions, hne, hex, hvalid, hshort⟩, htight, rfl, Option.some.inj h⟩

theorem not_mem_of_printable {b : UInt8} {s : Bytes} (h : ∀ c ∈ s, isTextByte c = true)
    (hb : isTextByte b = false) : b ∉ s := by
  intro hmem
  rw [h b hmem] at hb
  cases hb

/-- A size line has one LF, at its end. -/
theorem SizeLine.bytes_eq (l : SizeLine) :
    ∃ s, l.bytes = s ++ [10] ∧ 10 ∉ s ∧ s.length + 1 ≤ maxChunkLineBytes := by
  refine ⟨l.token ++ l.extensions ++ [13], by simp [SizeLine.bytes, crlf], ?_, ?_⟩
  · have hextensions : 10 ∉ l.extensions := by
      rcases l.valid with hnil | h
      · simp [hnil]
      · exact not_mem_of_printable h.printable (by decide)
    simp [not_mem_of_hex l.hex (by decide : isHexByte 10 = false), hextensions]
  · have hshort := l.short
    simp only [List.length_append, List.length_cons, List.length_nil]
    omega

/-! ## Trailer lines -/

theorem TrailerLine.valid (t : TrailerLine) : validTrailerLine t.bytes = true := by
  have hcolon : 58 ∉ t.name := fun h => absurd (t.isToken.2 58 h) (by decide)
  have hfield : (t.name ++ 58 :: t.value).idxOf? 58 = some t.name.length :=
    Kit.idxOf?_eq_some_iff_append.2 ⟨t.name, t.value, rfl, hcolon, rfl⟩
  have hname : ¬ (t.name = [] ∨ t.name.any (fun b => !isTokenByte b) = true) := by
    rintro (h | h)
    · exact t.isToken.1 h
    · obtain ⟨b, hb, hnot⟩ := List.any_eq_true.1 h
      rw [t.isToken.2 b hb] at hnot
      cases hnot
  have hbytes : t.bytes = (t.name ++ 58 :: t.value) ++ crlf := by simp [TrailerLine.bytes]
  unfold validTrailerLine
  rw [hbytes, if_pos (isSuffixOf_crlf.2 ⟨_, rfl⟩), take_append_crlf]
  simp only [hfield, List.take_left, if_neg hname, if_neg t.allowed]
  rw [← List.drop_drop, List.drop_left]
  exact List.all_eq_true.2 t.printable

theorem TrailerLine.of_valid (h : validTrailerLine line = true) :
    ∃ t : TrailerLine, t.bytes = line := by
  have hsuffix : crlf.isSuffixOf line = true := by
    by_contra hnot
    rw [validTrailerLine, if_neg hnot] at h
    cases h
  obtain ⟨raw, rfl⟩ := isSuffixOf_crlf.1 hsuffix
  unfold validTrailerLine at h
  rw [if_pos hsuffix, take_append_crlf] at h
  simp only at h
  split at h
  · cases h
  · rename_i k hk
    obtain ⟨name, value, rfl, -, rfl⟩ := Kit.idxOf?_eq_some_iff_append.1 hk
    rw [List.take_left, ← List.drop_drop, List.drop_left] at h
    split_ifs at h with hname hallowed
    obtain ⟨hne, htoken⟩ := not_or.1 hname
    have htoken : ∀ b ∈ name, isTokenByte b = true := by simpa using htoken
    exact ⟨⟨name, value, ⟨hne, htoken⟩, hallowed, List.all_eq_true.1 h⟩,
      by simp [TrailerLine.bytes]⟩

theorem TrailerLine.bytes_eq (t : TrailerLine) :
    ∃ s, t.bytes = s ++ [10] ∧ 10 ∉ s ∧ t.bytes ≠ crlf := by
  obtain ⟨b, name, hname⟩ := List.exists_cons_of_ne_nil t.isToken.1
  have hprintable := t.isToken.printable
  refine ⟨t.name ++ 58 :: (t.value ++ [13]), by simp [TrailerLine.bytes, crlf], ?_, ?_⟩
  · simp [not_mem_of_printable hprintable (by decide : isTextByte 10 = false),
      not_mem_of_printable t.printable (by decide : isTextByte 10 = false)]
  · intro h
    rw [TrailerLine.bytes, hname, List.cons_append, crlf] at h
    have hb := hprintable b (by simp [hname])
    rw [(List.cons.inj h).1] at hb
    exact absurd hb (by decide)

end Lines

/-! ## A frame is decoded -/

section Decode

variable {maxBodyBytes trailerBytes : ℕ} {buffer : Buffer} {rest : Bytes} {r : Reader}

theorem readLine_sizeLine (l : SizeLine) (h : r.text = l.bytes ++ rest) :
    ∃ r', r.readLine maxChunkLineBytes = .ok (l.bytes, r') ∧ r'.text = rest := by
  obtain ⟨s, hs, hlf, hshort⟩ := l.bytes_eq
  rw [hs] at h ⊢
  exact Reader.readLine_of_text (by simpa using h) hlf (by exact_mod_cast hshort)

/-- A chunk that fits is read in one pass. -/
theorem chunkStep_of_chunk {c : Chunk} (htight : c.line.Tight) (h : r.text = c.bytes ++ rest)
    (hfits : (buffer.body ++ c.data).length ≤ maxBodyBytes) :
    ∃ r', chunkStep maxBodyBytes (buffer, r) =
        .ok (.inr ((buffer.request c.data.length).extend c.data, r')) ∧ r'.text = rest := by
  rw [Chunk.bytes, List.append_assoc, List.append_assoc] at h
  obtain ⟨r₁, hline, h₁⟩ := readLine_sizeLine c.line h
  obtain ⟨r₂, hchunk, h₂⟩ := Reader.readExact_of_text h₁
  obtain ⟨r₃, hend, h₃⟩ := Reader.readExact_of_text h₂
  have hpos := List.length_pos_iff.2 c.data_ne
  have hle : ¬ c.data.length > maxBodyBytes - buffer.body.length := by
    rw [List.length_append] at hfits
    omega
  refine ⟨r₃, ?_, h₃⟩
  simp only [chunkStep, hline, SizeLine.parse_of_tight htight, ← c.length_data, hchunk,
    if_neg hpos.ne', if_neg hle]
  rw [show (2 : ℕ) = crlf.length from rfl, hend]
  simp

theorem chunkStep_of_last {l : SizeLine} (htight : l.Tight) (hzero : l.size = 0)
    (h : r.text = l.bytes ++ rest) :
    ∃ r', chunkStep maxBodyBytes (buffer, r) = .ok (.inl (buffer, r')) ∧ r'.text = rest := by
  obtain ⟨r', hline, h'⟩ := readLine_sizeLine l h
  refine ⟨r', ?_, h'⟩
  simp only [chunkStep, hline, SizeLine.parse_of_tight htight, hzero, if_true]

theorem chunkStep_of_loose {l : SizeLine} (hloose : ¬ l.Tight) (h : r.text = l.bytes ++ rest) :
    chunkStep maxBodyBytes (buffer, r) = .error ⟨.malformed, buffer⟩ := by
  obtain ⟨r', hline, -⟩ := readLine_sizeLine l h
  simp only [chunkStep, hline, SizeLine.parse_of_loose hloose]

theorem readChunks_of_tight {chunks : List Chunk} {last : SizeLine} (hzero : last.size = 0)
    (htight : ∀ c ∈ chunks, c.line.Tight) (hlast : last.Tight)
    (h : r.text = chunks.flatMap Chunk.bytes ++ (last.bytes ++ rest))
    (hfits : (buffer.body ++ chunks.flatMap Chunk.data).length ≤ maxBodyBytes) :
    ∃ buffer' r', readChunks maxBodyBytes (buffer, r) = .ok (buffer', r') ∧
      buffer'.body = buffer.body ++ chunks.flatMap Chunk.data ∧ r'.text = rest := by
  induction chunks generalizing buffer r with
  | nil =>
    obtain ⟨r', hstep, h'⟩ : ∃ r', chunkStep maxBodyBytes (buffer, r) = .ok (.inl (buffer, r')) ∧
        r'.text = rest := chunkStep_of_last hlast hzero h
    exact ⟨buffer, r', by rw [readChunks, Kit.loop_of_break hstep], by simp, h'⟩
  | cons c chunks ih =>
    obtain ⟨hc, htight⟩ := List.forall_mem_cons.1 htight
    rw [List.flatMap_cons, List.append_assoc] at h
    rw [List.flatMap_cons, ← List.append_assoc] at hfits ⊢
    have hfirst : (buffer.body ++ c.data).length ≤ maxBodyBytes := by
      rw [List.length_append] at hfits
      omega
    obtain ⟨r₁, hstep, h₁⟩ := chunkStep_of_chunk hc h hfirst
    have hfits : (((buffer.request c.data.length).extend c.data).body ++
        chunks.flatMap Chunk.data).length ≤ maxBodyBytes := hfits
    obtain ⟨buffer', r', hread, hbody, h'⟩ := ih htight h₁ hfits
    exact ⟨buffer', r', by rw [readChunks, Kit.loop_of_next hstep]; exact hread, hbody, h'⟩

theorem readChunks_of_loose {chunks : List Chunk} {last : SizeLine}
    (hloose : ¬ ((∀ c ∈ chunks, c.line.Tight) ∧ last.Tight))
    (h : r.text = chunks.flatMap Chunk.bytes ++ (last.bytes ++ rest))
    (hfits : (buffer.body ++ chunks.flatMap Chunk.data).length ≤ maxBodyBytes) :
    ∃ stop, readChunks maxBodyBytes (buffer, r) = .error stop := by
  induction chunks generalizing buffer r with
  | nil =>
    have hlast : ¬ last.Tight := fun hlast => hloose ⟨nofun, hlast⟩
    exact ⟨_, by rw [readChunks, Kit.loop_of_error (chunkStep_of_loose hlast h)]⟩
  | cons c chunks ih =>
    rw [List.flatMap_cons, List.append_assoc] at h
    rw [List.flatMap_cons, ← List.append_assoc] at hfits
    by_cases hc : c.line.Tight
    · have hfirst : (buffer.body ++ c.data).length ≤ maxBodyBytes := by
        rw [List.length_append] at hfits
        omega
      obtain ⟨r₁, hstep, h₁⟩ := chunkStep_of_chunk hc h hfirst
      have hrest : ¬ ((∀ c ∈ chunks, c.line.Tight) ∧ last.Tight) := fun ⟨hchunks, hlast⟩ =>
        hloose ⟨List.forall_mem_cons.2 ⟨hc, hchunks⟩, hlast⟩
      have hfits : (((buffer.request c.data.length).extend c.data).body ++
          chunks.flatMap Chunk.data).length ≤ maxBodyBytes := hfits
      obtain ⟨stop, hread⟩ := ih hrest h₁ hfits
      exact ⟨stop, by rw [readChunks, Kit.loop_of_next hstep]; exact hread⟩
    · rw [Chunk.bytes, List.append_assoc] at h
      exact ⟨_, by rw [readChunks, Kit.loop_of_error (chunkStep_of_loose hc h)]⟩

theorem trailerStep_of_trailer {t : TrailerLine} (h : r.text = t.bytes ++ rest)
    (hshort : trailerBytes + t.bytes.length ≤ maxChunkTrailerBytes) :
    ∃ r', trailerStep buffer (trailerBytes, r) = .ok (.inr (trailerBytes + t.bytes.length, r')) ∧
      r'.text = rest := by
  obtain ⟨s, hs, hlf, hne⟩ := t.bytes_eq
  have hlength : t.bytes.length = s.length + 1 := by rw [hs, List.length_append]; rfl
  have htext : r.text = s ++ 10 :: rest := by rw [h, hs]; simp
  have hlimit : (s.length + 1 : ℤ) ≤ maxChunkTrailerBytes - trailerBytes := by omega
  obtain ⟨r', hline, h'⟩ := Reader.readLine_of_text htext hlf hlimit
  rw [← hs] at hline
  refine ⟨r', ?_, h'⟩
  simp only [trailerStep, hline, if_neg hne, t.valid, if_true]
  rw [if_neg (by omega)]

theorem trailerStep_of_end (h : r.text = crlf ++ rest)
    (hshort : trailerBytes + 2 ≤ maxChunkTrailerBytes) :
    ∃ r', trailerStep buffer (trailerBytes, r) = .ok (.inl r') ∧ r'.text = rest := by
  have htext : r.text = [13] ++ 10 :: rest := h
  have hlimit : (([13] : Bytes).length + 1 : ℤ) ≤ maxChunkTrailerBytes - trailerBytes := by
    simp only [List.length_singleton, Nat.cast_one]
    omega
  obtain ⟨r', hline, h'⟩ := Reader.readLine_of_text htext (by decide) hlimit
  have hcrlf : ([13] ++ [10] : Bytes) = crlf := rfl
  refine ⟨r', ?_, h'⟩
  simp only [trailerStep, hline, hcrlf, if_true]
  rw [if_neg (by omega)]

theorem readTrailers_of_trailers {trailers : List TrailerLine}
    (h : r.text = trailers.flatMap TrailerLine.bytes ++ (crlf ++ rest))
    (hshort : trailerBytes + (trailers.flatMap TrailerLine.bytes).length + 2 ≤
      maxChunkTrailerBytes) :
    ∃ r', readTrailers buffer (trailerBytes, r) = .ok r' ∧ r'.text = rest := by
  induction trailers generalizing trailerBytes r with
  | nil =>
    obtain ⟨r', hstep, h'⟩ : ∃ r', trailerStep buffer (trailerBytes, r) = .ok (.inl r') ∧
        r'.text = rest := trailerStep_of_end h hshort
    exact ⟨r', by rw [readTrailers, Kit.loop_of_break hstep], h'⟩
  | cons t trailers ih =>
    rw [List.flatMap_cons, List.append_assoc] at h
    rw [List.flatMap_cons, List.length_append] at hshort
    obtain ⟨r₁, hstep, h₁⟩ : ∃ r₁, trailerStep buffer (trailerBytes, r) =
        .ok (.inr (trailerBytes + t.bytes.length, r₁)) ∧
        r₁.text = trailers.flatMap TrailerLine.bytes ++ (crlf ++ rest) :=
      trailerStep_of_trailer h (by omega)
    have hrest : trailerBytes + t.bytes.length + (trailers.flatMap TrailerLine.bytes).length + 2 ≤
        maxChunkTrailerBytes := by omega
    obtain ⟨r', hread, h'⟩ := ih h₁ hrest
    exact ⟨r', by rw [readTrailers, Kit.loop_of_next hstep]; exact hread, h'⟩

end Decode

/-! ## What is decoded is a frame -/

/-- The first loop reads chunks and the last size line, and appends the chunks to the body. -/
def ChunksRead (maxBodyBytes : ℕ) (s t : Buffer × Reader) : Prop :=
  ∃ (chunks : List Chunk) (last : SizeLine), last.size = 0 ∧
    (∀ c ∈ chunks, c.line.Tight) ∧ last.Tight ∧
    t.1.body = s.1.body ++ chunks.flatMap Chunk.data ∧
    s.2.text = chunks.flatMap Chunk.bytes ++ (last.bytes ++ t.2.text) ∧
    (s.1.Within maxBodyBytes → t.1.Within maxBodyBytes)

/-- The second loop reads trailer lines and the empty line. -/
def TrailersRead (s : ℕ × Reader) (r : Reader) : Prop :=
  ∃ trailers : List TrailerLine,
    s.2.text = trailers.flatMap TrailerLine.bytes ++ (crlf ++ r.text) ∧
    s.1 + (trailers.flatMap TrailerLine.bytes).length + 2 ≤ maxChunkTrailerBytes

section Sound

variable {maxBodyBytes : ℕ} {buffer : Buffer} {stop : Stop}

theorem Buffer.within_empty : Buffer.empty.Within maxBodyBytes := ⟨Nat.zero_le _, nofun⟩

/-- A chunk that fits may be asked for. -/
theorem Buffer.Within.request {size : ℕ} (h : buffer.Within maxBodyBytes)
    (hsize : size ≤ maxBodyBytes - buffer.body.length) :
    (buffer.request size).Within maxBodyBytes := by
  refine ⟨h.body, fun q hq => ?_⟩
  rcases List.mem_append.1 hq with hq | hq
  · exact h.requests q hq
  · obtain rfl := List.mem_singleton.1 hq
    have hbody := h.body
    show buffer.body.length + size ≤ maxBodyBytes
    omega

theorem Buffer.Within.extend {chunk : Bytes} (h : buffer.Within maxBodyBytes)
    (hchunk : chunk.length ≤ maxBodyBytes - buffer.body.length) :
    (buffer.extend chunk).Within maxBodyBytes := by
  refine ⟨?_, h.requests⟩
  have hbody := h.body
  show (buffer.body ++ chunk).length ≤ maxBodyBytes
  rw [List.length_append]
  omega

theorem chunksRead_of_next {s s' t : Buffer × Reader}
    (h : chunkStep maxBodyBytes s = .ok (.inr s')) (ht : ChunksRead maxBodyBytes s' t) :
    ChunksRead maxBodyBytes s t := by
  obtain ⟨line, chunk, htext, hbuffer, -, hshort, hsize, hne, hfits⟩ := chunkStep_next h
  obtain ⟨l, htight, rfl, hlength⟩ := SizeLine.of_parse hsize hshort
  obtain ⟨chunks, last, hzero, hchunks, hlast, hresult, hrest, hle⟩ := ht
  let c : Chunk := ⟨l, chunk, hlength.symm, hne⟩
  have hbytes : c.bytes = l.bytes ++ (chunk ++ crlf) := rfl
  refine ⟨c :: chunks, last, hzero, List.forall_mem_cons.2 ⟨htight, hchunks⟩, hlast, ?_, ?_, ?_⟩
  · rw [hresult, hbuffer, List.flatMap_cons, ← List.append_assoc]
    rfl
  · rw [htext, hrest, List.flatMap_cons, hbytes]
    simp only [List.append_assoc]
  · intro hs
    apply hle
    rw [hbuffer]
    exact (hs.request hfits).extend hfits

theorem chunksRead_of_readChunks {s t : Buffer × Reader} (h : readChunks maxBodyBytes s = .ok t) :
    ChunksRead maxBodyBytes s t := by
  refine Kit.loop_eq_ok ?_ (fun s s' t => chunksRead_of_next) h
  intro s t hbreak
  obtain ⟨line, htext, hbuffer, hshort, hsize⟩ := chunkStep_break hbreak
  obtain ⟨l, htight, rfl, hzero⟩ := SizeLine.of_parse hsize hshort
  refine ⟨[], l, hzero, nofun, htight, by simp [hbuffer], htext, fun hs => by rwa [hbuffer]⟩

theorem trailersRead_of_readTrailers {s : ℕ × Reader} {r : Reader}
    (h : readTrailers buffer s = .ok r) : TrailersRead s r := by
  refine Kit.loop_eq_ok ?_ ?_ h
  · intro s r hbreak
    obtain ⟨htext, hshort⟩ := trailerStep_break hbreak
    exact ⟨[], htext, hshort⟩
  · rintro s s' r hnext ⟨trailers, htext', hshort⟩
    obtain ⟨line, htext, hbytes, -, -, hvalid⟩ := trailerStep_next hnext
    obtain ⟨t, rfl⟩ := TrailerLine.of_valid hvalid
    refine ⟨t :: trailers, ?_, ?_⟩
    · rw [htext, htext', List.flatMap_cons, List.append_assoc]
    · rw [List.flatMap_cons, List.length_append]
      omega

/-- A pass that raises has buffered and asked for no more than is allowed. -/
theorem within_of_chunkStep_error {s : Buffer × Reader} (h : chunkStep maxBodyBytes s = .error stop)
    (hs : s.1.Within maxBodyBytes) : stop.buffer.Within maxBodyBytes := by
  simp only [chunkStep] at h
  split at h
  · obtain rfl := Except.error.inj h
    exact hs
  · obtain rfl := Except.error.inj h
    exact hs
  · split at h
    · obtain rfl := Except.error.inj h
      exact hs
    · split_ifs at h with hzero hlarge
      · obtain rfl := Except.error.inj h
        exact hs
      · have hrequest := hs.request (Nat.not_lt.1 hlarge)
        split at h
        · obtain rfl := Except.error.inj h
          exact hrequest
        · rename_i chunk r hchunk
          obtain ⟨-, hlength⟩ := Reader.readExact_ok hchunk
          have hextend := hrequest.extend (hlength.le.trans (Nat.not_lt.1 hlarge))
          split at h
          · obtain rfl := Except.error.inj h
            exact hextend
          · split_ifs at h
            obtain rfl := Except.error.inj h
            exact hextend

theorem within_of_readChunks_error {s : Buffer × Reader}
    (h : readChunks maxBodyBytes s = .error stop) (hs : s.1.Within maxBodyBytes) :
    stop.buffer.Within maxBodyBytes := by
  have hstep (s : Buffer × Reader) (stop : Stop) : chunkStep maxBodyBytes s = .error stop →
      s.1.Within maxBodyBytes → stop.buffer.Within maxBodyBytes := within_of_chunkStep_error
  refine Kit.loop_eq_error hstep ?_ h hs
  intro s s' stop hnext ih hs
  obtain ⟨line, chunk, -, hbuffer, -, -, -, -, hfits⟩ := chunkStep_next hnext
  apply ih
  rw [hbuffer]
  exact (hs.request hfits).extend hfits

theorem buffer_of_readTrailers_error {s : ℕ × Reader} (h : readTrailers buffer s = .error stop) :
    stop.buffer = buffer := by
  have hstep (s : ℕ × Reader) (stop : Stop) (h : trailerStep buffer s = .error stop) :
      stop.buffer = buffer := by
    simp only [trailerStep] at h
    split_ifs at h
    · obtain rfl := Except.error.inj h
      rfl
    · split at h
      · obtain rfl := Except.error.inj h
        rfl
      · obtain rfl := Except.error.inj h
        rfl
      · split_ifs at h
        obtain rfl := Except.error.inj h
        rfl
  have hnext (s s' : ℕ × Reader) (stop : Stop) (_ : trailerStep buffer s = .ok (.inr s'))
      (ih : stop.buffer = buffer) : stop.buffer = buffer := ih
  exact Kit.loop_eq_error (Q := fun _ stop => stop.buffer = buffer) hstep hnext h

end Sound

/-! ## The decoder and the grammar -/

section Exact

variable {maxBodyBytes : ℕ} {r r' : Reader} {f : Frame} {buffer : Buffer} {rest : Bytes}
  {stop : Stop}

theorem readChunkedBody_of_tight (htight : f.Tight) (h : r.text = f.bytes ++ rest)
    (hfits : f.body.length ≤ maxBodyBytes) :
    ∃ buffer r', readChunkedBody maxBodyBytes r = .ok (buffer, r') ∧ buffer.body = f.body ∧
      r'.text = rest := by
  simp only [Frame.bytes, List.append_assoc] at h
  obtain ⟨buffer, r₁, hchunks, hbody, h₁⟩ : ∃ buffer r₁,
      readChunks maxBodyBytes (.empty, r) = .ok (buffer, r₁) ∧ buffer.body = f.body ∧
      r₁.text = f.trailers.flatMap TrailerLine.bytes ++ (crlf ++ rest) :=
    readChunks_of_tight f.last_size htight.1 htight.2 h hfits
  have hshort : 0 + (f.trailers.flatMap TrailerLine.bytes).length + 2 ≤ maxChunkTrailerBytes := by
    have hshort := f.trailers_short
    omega
  obtain ⟨r', htrailers, h'⟩ : ∃ r', readTrailers buffer (0, r₁) = .ok r' ∧ r'.text = rest :=
    readTrailers_of_trailers h₁ hshort
  refine ⟨buffer, r', ?_, hbody, h'⟩
  rw [readChunkedBody, hchunks, Kit.ok_bind]
  simp only [htrailers, Kit.ok_bind]
  rfl

theorem readChunkedBody_of_loose (hloose : ¬ f.Tight) (h : r.text = f.bytes ++ rest)
    (hfits : f.body.length ≤ maxBodyBytes) :
    ∃ stop, readChunkedBody maxBodyBytes r = .error stop := by
  simp only [Frame.bytes, List.append_assoc] at h
  obtain ⟨stop, hchunks⟩ : ∃ stop, readChunks maxBodyBytes (.empty, r) = .error stop :=
    readChunks_of_loose hloose h hfits
  exact ⟨stop, by rw [readChunkedBody, hchunks]; rfl⟩

theorem frame_of_readChunkedBody (h : readChunkedBody maxBodyBytes r = .ok (buffer, r')) :
    ∃ f : Frame, f.Tight ∧ f.body = buffer.body ∧ r.text = f.bytes ++ r'.text ∧
      buffer.Within maxBodyBytes := by
  simp only [readChunkedBody, Kit.bind_eq_ok] at h
  obtain ⟨⟨buffer, r₁⟩, hchunks, r₂, htrailers, hresult⟩ := h
  obtain ⟨rfl, rfl⟩ := Prod.mk.inj (Except.ok.inj hresult)
  obtain ⟨chunks, last, hzero, htight, hlast, hbody, htext, hle⟩ :=
    chunksRead_of_readChunks hchunks
  obtain ⟨trailers, htext', hshort⟩ := trailersRead_of_readTrailers htrailers
  refine ⟨⟨chunks, last, hzero, trailers, by omega⟩, ⟨htight, hlast⟩, hbody.symm, ?_,
    hle Buffer.within_empty⟩
  simp only [Frame.bytes, List.append_assoc]
  rw [htext, htext']

/-- What is buffered and asked for when the decoder raises is within the limit. -/
theorem within_of_readChunkedBody_error (h : readChunkedBody maxBodyBytes r = .error stop) :
    stop.buffer.Within maxBodyBytes := by
  simp only [readChunkedBody, Kit.bind_eq_error] at h
  rcases h with hchunks | ⟨⟨buffer, r₁⟩, hchunks, htrailers | ⟨r₂, -, hresult⟩⟩
  · exact within_of_readChunks_error hchunks Buffer.within_empty
  · obtain ⟨chunks, last, -, -, -, -, -, hle⟩ := chunksRead_of_readChunks hchunks
    rw [buffer_of_readTrailers_error htrailers]
    exact hle Buffer.within_empty
  · cases hresult

end Exact

/-- A frame that fits is decoded, and exactly its bytes are consumed, if and only if no size is
followed by whitespace; what is decoded is always such a frame; and at the end or when the decoder
raises, neither the body nor the body with any chunk that was asked for has been longer than
allowed. -/
theorem readChunkedBody_exact (maxBodyBytes : ℕ) (r : Reader) :
    (∀ (f : Frame) (rest : Bytes), r.text = f.bytes ++ rest → f.body.length ≤ maxBodyBytes →
      ((∃ buffer r', readChunkedBody maxBodyBytes r = .ok (buffer, r') ∧ buffer.body = f.body ∧
        r'.text = rest) ↔ f.Tight)) ∧
    (∀ buffer r', readChunkedBody maxBodyBytes r = .ok (buffer, r') →
      ∃ f : Frame, f.Tight ∧ f.body = buffer.body ∧ r.text = f.bytes ++ r'.text ∧
        buffer.Within maxBodyBytes) ∧
    (∀ stop, readChunkedBody maxBodyBytes r = .error stop → stop.buffer.Within maxBodyBytes) := by
  refine ⟨fun f rest h hfits => ⟨?_, fun htight => readChunkedBody_of_tight htight h hfits⟩,
    fun buffer r' => frame_of_readChunkedBody, fun stop => within_of_readChunkedBody_error⟩
  rintro ⟨buffer, r', hread, -⟩
  by_contra hloose
  obtain ⟨stop, hstop⟩ := readChunkedBody_of_loose hloose h hfits
  rw [hstop] at hread
  cases hread

namespace Sample

theorem isExtensions_spaced : IsExtensions [32, 59, 97] := by
  have h : IsExtension ([32] ++ 59 :: ([] ++ ([97] ++ ([] ++ [])))) :=
    .mk (by simp [IsOws, isBlankByte]) nofun ⟨by decide, by decide +kernel⟩ nofun .absent
  exact .single h

/-- The size line `1 ;a`. -/
def spacedLine : SizeLine where
  token := [49]
  extensions := [32, 59, 97]
  token_ne := by decide
  hex := by decide +kernel
  valid := .inr isExtensions_spaced
  short := by decide +kernel

/-- The chunk `x` with the extension `a`, which stands behind a space. -/
def spacedFrame : Frame where
  chunks := [⟨spacedLine, [120], by decide, by decide⟩]
  last := ⟨[48], [], by decide, by decide +kernel, .inl rfl, by decide +kernel⟩
  last_size := by decide
  trailers := []
  trailers_short := by decide +kernel

end Sample

/-- The body `x` is not decoded from `1 ;a`, `x` and `0`, however the bytes arrive. -/
theorem sample_spaced_extension :
    Sample.spacedFrame.bytes = [49, 32, 59, 97, 13, 10, 120, 13, 10, 48, 13, 10, 13, 10] ∧
      Sample.spacedFrame.body = [120] ∧ ∀ cuts result, readChunkedBody 8
        (Reader.opened Sample.spacedFrame.bytes cuts) ≠ .ok result := by
  refine ⟨by decide, by decide, fun cuts result h => ?_⟩
  have hloose : ¬ Sample.spacedFrame.Tight := by
    intro htight
    have hspace := htight.1 _ (List.mem_singleton_self _) 32 rfl
    exact absurd hspace (by decide)
  have htext : (Reader.opened Sample.spacedFrame.bytes cuts).text =
      Sample.spacedFrame.bytes ++ [] := by
    simp [Reader.opened, Reader.text]
  obtain ⟨stop, hstop⟩ := readChunkedBody_of_loose hloose htext (by decide : _ ≤ 8)
  rw [hstop] at h
  cases h

end ProofFlow.Server
