import ProofFlow.Kit.Framing
import ProofFlow.Python.Text

/-!
# The request reader

`_DeadlineRequestReader` keeps what `read1` returned beyond the current call in a buffer that its
three reading methods share.  A stream is what the client sends together with the number of bytes
that are there at each `read1`.  Each method is compared with a function of the unread text alone,
the buffer followed by the rest of the stream, so the packet boundaries do not matter.
-/

namespace ProofFlow.Server

/-- The exceptions of the reading methods, the deadline apart. -/
inductive ReadError where
  /-- `_BodyUnexpectedEOF`. -/
  | unexpectedEOF
  /-- `_BodyLineTooLong`. -/
  | lineTooLong
  deriving DecidableEq

/-- The bytes still to come, and how many of them the following `read1` calls find. -/
structure Stream where
  rest : Bytes
  cuts : ℕ → ℕ

/-- `read1`: at least one byte and at most `maxBytes`, unless the stream is at its end. -/
def Stream.read1 (s : Stream) (maxBytes : ℕ) : Bytes × Stream :=
  let n := min maxBytes (max 1 (s.cuts 0))
  (s.rest.take n, ⟨s.rest.drop n, fun i => s.cuts (i + 1)⟩)

structure Reader where
  buffer : Bytes
  stream : Stream

namespace Reader

/-- A reader of a new connection. -/
def opened (text : Bytes) (cuts : ℕ → ℕ) : Reader := ⟨[], ⟨text, cuts⟩⟩

/-- What the reading methods have not returned yet. -/
def text (r : Reader) : Bytes := r.buffer ++ r.stream.rest

/-- `self._buffer.extend(self._read_from_stream(max_bytes))`, or `none` at the end. -/
def extend (r : Reader) (maxBytes : ℕ) : Option Reader :=
  let (chunk, stream) := r.stream.read1 maxBytes
  if chunk = [] then none else some ⟨r.buffer ++ chunk, stream⟩

/-- `_take`. -/
def take (r : Reader) (size : ℕ) : Bytes × Reader :=
  (r.buffer.take size, ⟨r.buffer.drop size, r.stream⟩)

section Extend

variable {r r' : Reader} {n : ℕ}

/-- Some bytes move from the stream to the buffer. -/
theorem extend_eq_some (h : r.extend n = some r') : ∃ chunk, chunk ≠ [] ∧
    r.stream.rest = chunk ++ r'.stream.rest ∧ r'.buffer = r.buffer ++ chunk := by
  unfold extend at h
  simp only at h
  split at h
  · cases h
  · rename_i hchunk
    obtain rfl := Option.some.inj h
    exact ⟨_, hchunk, (List.take_append_drop _ _).symm, rfl⟩

theorem text_extend (h : r.extend n = some r') : r'.text = r.text := by
  obtain ⟨chunk, -, hrest, hbuffer⟩ := extend_eq_some h
  rw [text, text, hbuffer, hrest, List.append_assoc]

theorem length_extend (h : r.extend n = some r') :
    r'.stream.rest.length < r.stream.rest.length := by
  obtain ⟨chunk, hchunk, hrest, -⟩ := extend_eq_some h
  have hpos := List.length_pos_iff.2 hchunk
  rw [hrest, List.length_append]
  omega

theorem extend_eq_none (hn : 0 < n) : r.extend n = none ↔ r.stream.rest = [] := by
  simp only [extend, Stream.read1, ite_eq_left_iff, reduceCtorEq, imp_false, not_not,
    List.take_eq_nil_iff]
  constructor
  · rintro (h | h)
    · omega
    · exact h
  · exact .inr

end Extend

/-! ## The reading methods -/

/-- The loop of `readline`. -/
def readlineFrom (limit : Option ℕ) (r : Reader) : Bytes × Reader :=
  match r.buffer.idxOf? 10 with
  | some newline => r.take (limit.elim (newline + 1) (min (newline + 1)))
  | none =>
    if limit.any (· ≤ r.buffer.length) then r.take (limit.getD 0)
    else match _h : r.extend (limit.elim 4096 fun limit => min 4096 (limit - r.buffer.length)) with
      | some r' => readlineFrom limit r'
      | none =>
        if r.buffer = [] then ([], r) else r.take (limit.elim r.buffer.length (min r.buffer.length))
termination_by r.stream.rest.length
decreasing_by exact length_extend _h

/-- `readline`. -/
def readline (size : ℤ) (r : Reader) : Bytes × Reader :=
  if size = 0 then ([], r) else readlineFrom (if size < 0 then none else some size.toNat) r

/-- `read_exact`.  The callers pass the length of what is to be read, which is not negative. -/
def readExact (size : ℕ) (r : Reader) : Except ReadError (Bytes × Reader) :=
  if r.buffer.length < size then
    match _h : r.extend (min (64 * 1024) (size - r.buffer.length)) with
    | some r' => readExact size r'
    | none => .error .unexpectedEOF
  else .ok (r.take size)
termination_by r.stream.rest.length
decreasing_by exact length_extend _h

/-- `read_line`. -/
def readLine (limit : ℤ) (r : Reader) : Except ReadError (Bytes × Reader) :=
  match r.buffer.idxOf? 10 with
  | some newline =>
    if (newline + 1 : ℤ) > limit then .error .lineTooLong else .ok (r.take (newline + 1))
  | none =>
    if (r.buffer.length : ℤ) ≥ limit then .error .lineTooLong
    else match _h : r.extend (min 4096 (limit - r.buffer.length).toNat) with
      | some r' => readLine limit r'
      | none => .error .unexpectedEOF
termination_by r.stream.rest.length
decreasing_by exact length_extend _h

end Reader

/-! ## Reading a text -/

/-- The length of the first line with its LF, or of the whole text if there is none. -/
def lineLength (text : Bytes) : ℕ := (text.idxOf? 10).elim text.length (· + 1)

/-- What `readline` returns of a text. -/
def readlineText (size : ℤ) (text : Bytes) : Bytes × Bytes :=
  text.splitAt (if size < 0 then lineLength text else min (lineLength text) size.toNat)

/-- What `read_exact` returns of a text. -/
def readExactText (size : ℕ) (text : Bytes) : Except ReadError (Bytes × Bytes) :=
  if size ≤ text.length then .ok (text.splitAt size) else .error .unexpectedEOF

/-- What `read_line` returns of a text. -/
def readLineText (limit : ℤ) (text : Bytes) : Except ReadError (Bytes × Bytes) :=
  if 10 ∈ text ∧ (lineLength text : ℤ) ≤ limit then .ok (text.splitAt (lineLength text))
  else if limit ≤ text.length then .error .lineTooLong
  else .error .unexpectedEOF

namespace Reader

/-- The reader's part of a result, as the text it has left. -/
def view {α : Type} (x : α × Reader) : α × Bytes := (x.1, x.2.text)

section Text

variable {r r' : Reader} {n k : ℕ} {limit : Option ℕ} {size : ℤ}

theorem view_take (h : n ≤ r.buffer.length) : view (r.take n) = r.text.splitAt n := by
  simp [view, take, text, List.take_append_of_le_length h, List.drop_append_of_le_length h]

theorem lineLength_of_newline (h : r.buffer.idxOf? 10 = some k) :
    lineLength r.text = k + 1 ∧ k + 1 ≤ r.buffer.length ∧ 10 ∈ r.text := by
  obtain ⟨line, x, hbuffer, hline, rfl⟩ := Kit.idxOf?_eq_some_iff_append.1 h
  have htext : r.text = line ++ 10 :: (x ++ r.stream.rest) := by simp [text, hbuffer]
  refine ⟨?_, by simp [hbuffer], by simp [htext]⟩
  rw [lineLength, Kit.idxOf?_eq_some_iff_append.2 ⟨line, _, htext, hline, rfl⟩, Option.elim_some]

/-- A line that is not complete in the buffer goes on in the stream. -/
theorem lt_lineLength (h : r.buffer.idxOf? 10 = none) (hmem : 10 ∈ r.text) :
    r.buffer.length < lineLength r.text := by
  rw [List.idxOf?_eq_none_iff] at h
  obtain ⟨k, hk⟩ := Option.isSome_iff_exists.1 (List.isSome_idxOf?.2 hmem)
  obtain ⟨hlt, hnewline, -⟩ := List.idxOf?_eq_some_iff.1 hk
  rw [lineLength, hk, Option.elim_some]
  by_contra hle
  have hbuffer : k < r.buffer.length := by omega
  simp only [text, List.getElem_append_left hbuffer] at hnewline
  exact h (hnewline ▸ List.getElem_mem hbuffer)

theorem le_lineLength (h : r.buffer.idxOf? 10 = none) : r.buffer.length ≤ lineLength r.text := by
  by_cases hmem : 10 ∈ r.text
  · exact (lt_lineLength h hmem).le
  · rw [lineLength, List.idxOf?_eq_none_iff.2 hmem, Option.elim_none, text, List.length_append]
    omega

theorem lineLength_of_end (h : r.buffer.idxOf? 10 = none) (hrest : r.stream.rest = []) :
    lineLength r.text = r.buffer.length ∧ 10 ∉ r.text := by
  have htext : r.text = r.buffer := by rw [text, hrest, List.append_nil]
  rw [htext, lineLength, h]
  exact ⟨rfl, List.idxOf?_eq_none_iff.1 h⟩

theorem pos_of_limit (h : ¬ limit.any (· ≤ r.buffer.length) = true) :
    0 < limit.elim 4096 fun limit => min 4096 (limit - r.buffer.length) := by
  cases limit with
  | none => exact Nat.succ_pos _
  | some n =>
    have hn : ¬ n ≤ r.buffer.length := by simpa using h
    rw [Option.elim_some]
    omega

theorem view_readlineFrom (limit : Option ℕ) (r : Reader) : view (readlineFrom limit r) =
    r.text.splitAt (limit.elim (lineLength r.text) (min (lineLength r.text))) := by
  fun_induction readlineFrom limit r with
  | case1 r k hk =>
    obtain ⟨hlength, hle, -⟩ := lineLength_of_newline hk
    rw [view_take, hlength]
    cases limit with
    | none => exact hle
    | some n => exact (Nat.min_le_left _ _).trans hle
  | case2 r hk hlimit =>
    have hle := le_lineLength hk
    cases limit with
    | none => cases hlimit
    | some n =>
      have hn : n ≤ r.buffer.length := by simpa using hlimit
      rw [Option.getD_some, view_take hn, Option.elim_some, Nat.min_eq_right (hn.trans hle)]
  | case3 r hk hlimit r' hr' ih => rw [ih, text_extend hr']
  | case4 r hk hlimit hend hempty =>
    have hrest := (extend_eq_none (pos_of_limit hlimit)).1 hend
    have htext : r.text = [] := by rw [text, hempty, hrest, List.append_nil]
    simp [view, htext]
  | case5 r hk hlimit hend hempty =>
    have hrest := (extend_eq_none (pos_of_limit hlimit)).1 hend
    obtain ⟨hlength, -⟩ := lineLength_of_end hk hrest
    rw [view_take, hlength]
    cases limit with
    | none => exact le_rfl
    | some n => exact Nat.min_le_left _ _

/-- `readline` returns what it would return of the unread text. -/
theorem view_readline (size : ℤ) (r : Reader) :
    view (readline size r) = readlineText size r.text := by
  unfold readline readlineText
  by_cases hzero : size = 0
  · simp [hzero, view]
  · rw [if_neg hzero, view_readlineFrom]
    by_cases hneg : size < 0
    · rw [if_pos hneg, if_pos hneg, Option.elim_none]
    · rw [if_neg hneg, if_neg hneg, Option.elim_some]

/-- `read_exact` returns what it would return of the unread text. -/
theorem view_readExact (size : ℕ) (r : Reader) :
    (readExact size r).map view = readExactText size r.text := by
  unfold readExactText
  fun_induction readExact size r with
  | case1 r hshort r' hr' ih => rw [ih, text_extend hr']
  | case2 r hshort hend =>
    have hrest := (extend_eq_none (by omega)).1 hend
    rw [text, hrest, List.append_nil, if_neg (Nat.not_le.2 hshort)]
    rfl
  | case3 r hlong =>
    have hle := Nat.not_lt.1 hlong
    rw [if_pos (hle.trans (by simp [text])), Except.map, view_take hle]

/-- `read_line` returns what it would return of the unread text. -/
theorem view_readLine (limit : ℤ) (r : Reader) :
    (readLine limit r).map view = readLineText limit r.text := by
  unfold readLineText
  fun_induction readLine limit r with
  | case1 r k hk hlong =>
    obtain ⟨hlength, hle, hmem⟩ := lineLength_of_newline hk
    have hlimit : limit ≤ r.text.length := by
      have hbuffer : r.buffer.length ≤ r.text.length := by simp [text]
      omega
    rw [if_neg (fun h => by omega), if_pos hlimit]
    rfl
  | case2 r k hk hlong =>
    obtain ⟨hlength, hle, hmem⟩ := lineLength_of_newline hk
    rw [if_pos ⟨hmem, by omega⟩, Except.map, view_take hle, hlength]
  | case3 r hk hlimit =>
    have hlong : ¬ (10 ∈ r.text ∧ (lineLength r.text : ℤ) ≤ limit) := by
      rintro ⟨hmem, hle⟩
      have hlt := lt_lineLength hk hmem
      omega
    have htext : r.buffer.length ≤ r.text.length := by simp [text]
    rw [if_neg hlong, if_pos (by omega)]
    rfl
  | case4 r hk hlimit r' hr' ih => rw [ih, text_extend hr']
  | case5 r hk hlimit hend =>
    have hrest := (extend_eq_none (by omega)).1 hend
    obtain ⟨-, hmem⟩ := lineLength_of_end hk hrest
    have htext : r.text.length = r.buffer.length := by simp [text, hrest]
    rw [if_neg (fun h => hmem h.1), if_neg (by omega)]
    rfl

end Text

end Reader

/-! ## Runs -/

/-- A call of one of the reading methods. -/
inductive Call where
  | readline (size : ℤ)
  | readLine (limit : ℤ)
  | readExact (size : ℕ)

/-- A call on a reader. -/
def Call.perform (r : Reader) : Call → Except ReadError (Bytes × Reader)
  | .readline size => .ok (r.readline size)
  | .readLine limit => r.readLine limit
  | .readExact size => r.readExact size

/-- A call on a text. -/
def Call.performText (text : Bytes) : Call → Except ReadError (Bytes × Bytes)
  | .readline size => .ok (readlineText size text)
  | .readLine limit => readLineText limit text
  | .readExact size => readExactText size text

/-- What the calls return, up to and including the first exception. -/
def Reader.run (r : Reader) : List Call → List (Except ReadError Bytes)
  | [] => []
  | call :: calls =>
    match call.perform r with
    | .ok (bytes, r') => .ok bytes :: r'.run calls
    | .error e => [.error e]

/-- What the calls return of a text. -/
def runText (text : Bytes) : List Call → List (Except ReadError Bytes)
  | [] => []
  | call :: calls =>
    match call.performText text with
    | .ok (bytes, text') => .ok bytes :: runText text' calls
    | .error e => [.error e]

/-- The bytes that the calls return before the first exception. -/
def returned (results : List (Except ReadError Bytes)) : Bytes :=
  (results.filterMap Except.toOption).flatten

theorem view_perform (r : Reader) (call : Call) :
    (call.perform r).map Reader.view = call.performText r.text := by
  cases call with
  | readline size => exact congrArg Except.ok (Reader.view_readline size r)
  | readLine limit => exact Reader.view_readLine limit r
  | readExact size => exact Reader.view_readExact size r

theorem run_eq_runText (r : Reader) (calls : List Call) : r.run calls = runText r.text calls := by
  induction calls generalizing r with
  | nil => rfl
  | cons call calls ih =>
    have hview := view_perform r call
    rw [Reader.run, runText, ← hview]
    cases hcall : call.perform r with
    | ok result =>
      obtain ⟨bytes, r'⟩ := result
      exact congrArg _ (ih r')
    | error e => rfl

/-- Every call takes its bytes from the front of the text. -/
theorem performText_append {text bytes rest : Bytes} {call : Call}
    (h : call.performText text = .ok (bytes, rest)) : bytes ++ rest = text := by
  have hsplit {n : ℕ} (hn : text.splitAt n = (bytes, rest)) : bytes ++ rest = text := by
    rw [List.splitAt_eq, Prod.mk.injEq] at hn
    rw [← hn.1, ← hn.2, List.take_append_drop]
  cases call with
  | readline size => exact hsplit (Except.ok.inj h)
  | readLine limit =>
    simp only [Call.performText, readLineText] at h
    split_ifs at h
    exact hsplit (Except.ok.inj h)
  | readExact size =>
    simp only [Call.performText, readExactText] at h
    split_ifs at h
    exact hsplit (Except.ok.inj h)

theorem returned_runText_prefix (text : Bytes) (calls : List Call) :
    returned (runText text calls) <+: text := by
  induction calls generalizing text with
  | nil => exact List.nil_prefix
  | cons call calls ih =>
    rw [runText]
    cases hcall : call.performText text with
    | ok result =>
      obtain ⟨bytes, rest⟩ := result
      rw [← performText_append hcall]
      exact (List.prefix_append_right_inj bytes).2 (ih rest)
    | error e => exact List.nil_prefix

/-- Reading does not depend on how the stream is cut into packets, and what the calls return is a
prefix of the stream. -/
theorem run_cuts (text : Bytes) (cuts cuts' : ℕ → ℕ) (calls : List Call) :
    (Reader.opened text cuts).run calls = (Reader.opened text cuts').run calls ∧
      returned ((Reader.opened text cuts).run calls) <+: text := by
  rw [run_eq_runText, run_eq_runText]
  exact ⟨rfl, returned_runText_prefix text calls⟩

end ProofFlow.Server
