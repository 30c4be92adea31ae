import ProofFlow.Evaluation.Published

/-!
# What a ledger commits to

The entries of a verified ledger are linked by digests of canonical texts.  Without a collision, a
digest fixes everything up to its entry: another verified ledger that has an entry with this digest
has the same entries before it, up to the order of members and the numerals of floats
(`verified_prefix_eq`).
-/

namespace ProofFlow.Evaluation

open Kit Schema

section Verifier

variable {V : Verifier} {l l' : Ledger} {e e' : Entry} {input input' : LedgerInput}
  {commit commit' : Option PyStr}

/-- What an entry says, without its own digest. -/
def Entry.content (V : Verifier) (e : Entry) : Doc := e.hashed.respelled V.floats.repr

/-- The bytes of an entry that are hashed. -/
def Entry.payload (V : Verifier) (e : Entry) : Bytes := V.payload e.hashed

theorem lookup_filter_ne {members : List (PyStr × Doc)} {k k' : PyStr} (h : k ≠ k') :
    (members.filter fun m => m.1 ≠ k').lookup k = members.lookup k := by
  induction members with
  | nil => rfl
  | cons m members ih =>
    rw [List.filter_cons]
    split_ifs with hm
    · rw [List.lookup_cons, List.lookup_cons, ih]
    · have hk : m.1 = k' := by simpa using hm
      rw [ih, List.lookup_cons, hk, beq_eq_false_iff_ne.2 h]

/-- The respelled document of an integer is the same integer. -/
theorem integer_respelled {F : Floats} (hF : F.Lawful) {lo : ℕ} {v : Doc}
    (h : isFiniteDoc F v = true) :
    integer F lo (v.respelled F.repr) = integer F lo v := by
  cases v with
  | float numeral =>
    rw [Json.respelled]
    simp only [integer]
    rw [hF.integer numeral h]
  | _ => rfl

/-- Entries with one content have one number and one entry before them. -/
theorem eq_of_content_eq (hF : V.floats.Lawful) (hread : EntryRead V.floats e)
    (hread' : EntryRead V.floats e') (htext : HasText V e.hashed) (htext' : HasText V e'.hashed)
    (h : e.content V = e'.content V) :
    e.entryIndex = e'.entryIndex ∧ e.previousEntrySha256 = e'.previousEntrySha256 := by
  have hmember {k : PyStr} (hk : k ≠ pyLit "entry_sha256") :
      (e.members.lookup k).map (Json.respelled V.floats.repr) =
        (e'.members.lookup k).map (Json.respelled V.floats.repr) := by
    have hlookup := lookup_eq_of_respelled_eq h k
    rwa [lookup_filter_ne hk, lookup_filter_ne hk] at hlookup
  have hfinite {e : Entry} (htext : HasText V e.hashed) {k : PyStr} (hk : k ≠ pyLit "entry_sha256")
    {v : Doc} (hv : e.members.lookup k = some v) : isFiniteDoc V.floats v = true := by
    have hmem : (k, v) ∈ e.members.filter fun m => m.1 ≠ pyLit "entry_sha256" :=
      mem_of_lookup ((lookup_filter_ne hk).trans hv)
    exact (htext.member hmem).finite
  have hnumber : pyLit "entry_index" ≠ pyLit "entry_sha256" := by decide
  have hlink : pyLit "previous_entry_sha256" ≠ pyLit "entry_sha256" := by decide
  obtain ⟨v, hv, hindex⟩ := hread.index
  obtain ⟨v', hv', hindex'⟩ := hread'.index
  have hvalue := hmember hnumber
  rw [hv, hv', Option.map_some, Option.map_some, Option.some.injEq] at hvalue
  have hprevious := hmember hlink
  rw [hread.previous, hread'.previous, Option.map_some, Option.map_some,
    Option.some.injEq] at hprevious
  constructor
  · rw [← integer_respelled hF (hfinite htext hnumber hv), hvalue,
      integer_respelled hF (hfinite htext' hnumber hv'), hindex'] at hindex
    exact (Option.some.inj hindex).symm
  · exact Json.str.inj hprevious

/-- The ledger was read of the input and is verified. -/
def Verifies (V : Verifier) (input : LedgerInput) (commit : Option PyStr) (l : Ledger) : Prop :=
  verifyRunLedger V input commit = .ok (verifiedResult l.entries.length) ∧
    ∃ v, V.parse input = .ok v ∧ V.schema v = some l

theorem Verifies.certified (h : Verifies V input commit l) : Certified V l commit := by
  obtain ⟨hverified, v, hparse, hschema⟩ := h
  obtain ⟨v', l', hparse', hschema', -, hcertified, -⟩ :=
    verifyRunLedger_eq_verified_iff.1 hverified
  obtain rfl := Except.ok.inj (hparse.symm.trans hparse')
  obtain rfl := Option.some.inj (hschema.symm.trans hschema')
  exact hcertified

theorem Verifies.digest (h : Verifies V input commit l) (he : e ∈ l.entries) :
    e.entrySha256 = toPyStr (sha256Bytes V.platform (e.payload V)).val := by
  have hhashed := h.certified.hashed e he
  have htext := canonicalDigest_ok_iff.1 ⟨_, hhashed⟩
  exact (Except.ok.inj (htext.digest.symm.trans hhashed)).symm

theorem Verifies.entry (h : Verifies V input commit l) (he : e ∈ l.entries) :
    EntryRead V.floats e ∧ HasText V e.hashed := by
  have hroot := canonicalDigest_ok_iff.1 ⟨_, h.certified.root⟩
  obtain ⟨-, v, -, hschema⟩ := h
  obtain ⟨hread, htext⟩ := hroot.entry hschema he
  exact ⟨hread, htext.filter _⟩

/-- Verified ledgers that have an entry with one digest have the same entries up to it, unless two
entries collide. -/
theorem verified_prefix_eq (hF : V.floats.Lawful)
    (hfree : CollisionFree V.platform fun b => ∃ e ∈ l.entries ++ l'.entries, b = e.payload V)
    (h : Verifies V input commit l) (h' : Verifies V input' commit' l')
    {done rest done' rest' : List Entry} (hsplit : l.entries = done ++ e :: rest)
    (hsplit' : l'.entries = done' ++ e' :: rest') (hdigest : e.entrySha256 = e'.entrySha256) :
    (done ++ [e]).map (Entry.content V) = (done' ++ [e']).map (Entry.content V) := by
  have hcertified := h.certified
  have hcertified' := h'.certified
  have hnumber : EachAfter (fun done e => e.entryIndex = done.length + 1) [] l.entries :=
    eachAfter_number_iff.2 hcertified.numbered
  have hnumber' : EachAfter (fun done e => e.entryIndex = done.length + 1) [] l'.entries :=
    eachAfter_number_iff.2 hcertified'.numbered
  have hcontent : ∀ b ∈ l.entries, ∀ b' ∈ l'.entries, b.entrySha256 = b'.entrySha256 →
      b.content V = b'.content V := by
    intro b hb b' hb' heq
    refine respelled_eq_of_digest_eq hF hfree (hcertified.hashed b hb)
      (heq ▸ hcertified'.hashed b' hb') ⟨b, List.mem_append_left _ hb, rfl⟩
      ⟨b', List.mem_append_right _ hb', rfl⟩
  have hlink : ∀ b ∈ l.entries, ∀ b' ∈ l'.entries, b.content V = b'.content V →
      b.entryIndex = b'.entryIndex ∧ b.previousEntrySha256 = b'.previousEntrySha256 := by
    intro b hb b' hb' heq
    obtain ⟨hread, htext⟩ := h.entry hb
    obtain ⟨hread', htext'⟩ := h'.entry hb'
    exact eq_of_content_eq hF hread hread' htext htext' heq
  have hlinked := hcertified.linked
  have hlinked' := hcertified'.linked
  rw [hsplit] at hcontent hlink hnumber hlinked
  rw [hsplit'] at hcontent hlink hnumber' hlinked'
  exact hlinked.prefix_eq hcontent hlink hlinked' hnumber hnumber' hdigest

end Verifier

namespace Sample

theorem reads_zero {depth : ℕ} : Reads depth (lit "0.0") (.float (lit "0.0")) := by
  refine reads_scalar (c := '0') (s := ['.', '0']) (by decide) (by decide) fun rest hrest => ?_
  have hzero : ∀ c ∈ ['0'], isDigit c = true := List.forall_mem_singleton.2 rfl
  have hdigits : scanDigits (toPyStr ['0'] ++ rest) = (['0'], rest) := scanDigits_append hzero hrest
  have hfraction : scanFraction (toPyStr ['.', '0'] ++ rest) = (['.', '0'], rest) := by
    show scanFraction (toCodePoint '.' :: (toPyStr ['0'] ++ rest)) = _
    simp only [scanFraction, hdigits]
    rfl
  show scanNumber (toPyStr ['0', '.', '0'] ++ rest) = _
  have hinteger : scanInteger (toPyStr ['0', '.', '0'] ++ rest) =
      some (false, ['0'], toPyStr ['.', '0'] ++ rest) := rfl
  simp only [scanNumber, hinteger, hfraction, scanExponent_of_stops hrest]
  rfl

theorem lawful (withWorker : Bool) : (verifier withWorker).floats.Lawful where
  reads := by
    intro numeral depth h
    obtain rfl := of_decide_eq_true h
    exact reads_zero
  integer := fun _ _ => rfl

/-- A call for two replicates. -/
def twice (t : UtcTime) : BuildCall := { call t with replicateIds := some [1, 2] }

/-- The run of the deterministic arm. -/
def run (r : ℕ) : PlannedRun :=
  ⟨.deterministicReference, scenario false, r, 1, some (happyResult false), now, now⟩

/-- What is hashed of the entry of a replicate; it does not depend on the time of the recording. -/
def hashed (r : ℕ) (previous : PyStr) : Doc :=
  .obj (numberedMembers ((run r).entry (verifier false) (call now)) r previous)

theorem promised_twice {t : UtcTime} (ht : t = now ∨ t = later) :
    Promised (verifier false) runner (twice t) := by
  have h : Promised (verifier false) runner (call t) := promised ht
  exact { h with }

theorem publishable_twice (t : UtcTime) : Publishable (verifier false) runner (twice t) := by
  have hnames : NamesAllowed (verifier false) (twice now) := by
    unfold NamesAllowed
    decide +kernel
  refine ⟨?_, List.nodup_singleton _, (publishable false t).commit, hnames, ?_⟩
  · show [1, 2].Nodup
    decide
  · rintro s hs - r - t' - _ _ _ hrun
    obtain rfl := List.mem_singleton.1 hs
    cases hrun
    exact ⟨le_rfl, rfl, fun h => h.1 List.nodup_nil⟩

theorem runnable_twice (t : UtcTime) : Runnable (verifier false) runner (twice t) where
  positive := by
    show ∀ n ∈ planned (some [1, 2]) 1 ++ planned none 1, 1 ≤ n
    decide
  bound := fun _ _ _ => rfl
  runs := fun _ _ _ _ _ _ _ => ⟨now, happyResult false, now, rfl, isText_pyLit _⟩
  recursionLimit := (runnable false t).recursionLimit
  count := by
    refine Nat.lt_of_le_of_lt ?_ (Nat.lt_pow_self (n := maxStrDigits) (by decide : 1 < 10))
    show (twice now).plannedReplicates.length * ((twice now).plannedAttempts.length * _) ≤ _
    decide

/-- A ledger of two replicates has two linked entries. -/
theorem exists_pair {t : UtcTime} (ht : t = now ∨ t = later) : ∃ members l e₁ e₂,
    buildRunLedger (verifier false) runner (twice t) = .ok members ∧
      Verifies (verifier false) (.mapping members) (some (twice t).repositoryCommit) l ∧
      l.entries = [e₁, e₂] ∧ e₁.hashed = hashed 1 genesisEntrySha256 ∧
      e₂.hashed = hashed 2 e₁.entrySha256 := by
  have hpromised := promised_twice ht
  have hpublishable := publishable_twice t
  obtain ⟨members, hmembers⟩ := (runnable_twice t).exists_members hpromised hpublishable
  obtain ⟨l, root, hbuilt, rfl⟩ := buildRunLedger_eq_ok hmembers
  obtain ⟨e₁, e₂, rfl⟩ := List.length_eq_two.1 (hbuilt.length_eq : l.length = 2)
  obtain ⟨hschema, -⟩ := (hbuilt.publishable_iff hpromised).2 ⟨⟨hpublishable, rfl⟩,
    hpublishable.replicates_nodup, hpublishable.attempts_nodup, rfl⟩
  refine ⟨_, _, e₁, e₂, hmembers,
    ⟨(hbuilt.verified_iff hpromised).2 ⟨hpublishable, rfl, rfl⟩, _, hbuilt.parse, hschema⟩, rfl, ?_⟩
  have hentry {e : Entry} {r : ℕ} (he : e ∈ [e₁, e₂]) (hr : e.replicateId = r) :
      e.toEntryBody = (run r).entry (verifier false) (call now) := by
    obtain ⟨⟨a, s, r', t', result, startedAt, finishedAt⟩, hx, hentry⟩ := hbuilt.made e he
    obtain rfl : s = scenario false := List.mem_singleton.1 hx.scenario
    obtain rfl : t' = 1 := List.mem_singleton.1 hx.attempt
    obtain rfl : a = .deterministicReference := List.mem_singleton.1 hx.arm
    obtain rfl : r' = r := by
      rw [← hr]
      exact (congrArg EntryBody.replicateId hentry).symm
    cases result with
    | none =>
      have hworker : Arm.isWorker .deterministicReference := (hx.unexecuted rfl).1
      exact absurd hworker (by decide)
    | some result =>
      obtain ⟨-, hrun⟩ := hx.executed result rfl
      cases hrun
      exact hentry
  obtain ⟨hindex₁, hindex₂⟩ : e₁.entryIndex = 1 ∧ e₂.entryIndex = 2 := by
    have hnumbered : [e₁.entryIndex, e₂.entryIndex] = [1, 2] := hbuilt.numbered
    simpa using hnumbered
  obtain ⟨hreplicate₁, hreplicate₂⟩ : e₁.replicateId = 1 ∧ e₂.replicateId = 2 := by
    have hplanned : (plannedKeys (verifier false) (twice now).plannedReplicates
        (twice now).plannedAttempts).map (fun k => k.2.2.1) = [1, 2] := by
      decide
    have hids : [e₁.replicateId, e₂.replicateId] = [1, 2] :=
      (congrArg (List.map fun k : EntryKey => k.2.2.1) hbuilt.keys).trans hplanned
    simpa using hids
  obtain ⟨hprevious₁, hrest⟩ := linked_cons.1 hbuilt.linked
  have hprevious₂ : e₂.previousEntrySha256 = e₁.entrySha256 := (linked_cons.1 hrest).1
  have hfirst : e₁ ∈ [e₁, e₂] := List.mem_cons_self
  have hsecond : e₂ ∈ [e₁, e₂] := List.mem_cons_of_mem _ List.mem_cons_self
  constructor
  · rw [(hbuilt.chained e₁ hfirst).eq_chained, hashed_chained, hentry hfirst hreplicate₁, hindex₁,
      hprevious₁]
    rfl
  · rw [(hbuilt.chained e₂ hsecond).eq_chained, hashed_chained, hentry hsecond hreplicate₂, hindex₂,
      hprevious₂]
    rfl

set_option maxRecDepth 100000 in
theorem digests_differ : (do
    let first ← (verifier false).canonicalDigest (hashed 1 genesisEntrySha256)
    let second ← (verifier false).canonicalDigest (hashed 2 first)
    return decide (first = second)) = Except.ok false := by
  decide +kernel

/-- The two entries have different digests. -/
theorem digest_ne_of_pair {l : Ledger} {input : LedgerInput} {commit : Option PyStr} {e₁ e₂ : Entry}
    (hl : Verifies (verifier false) input commit l) (hentries : l.entries = [e₁, e₂])
    (h₁ : e₁.hashed = hashed 1 genesisEntrySha256) (h₂ : e₂.hashed = hashed 2 e₁.entrySha256) :
    e₁.entrySha256 ≠ e₂.entrySha256 := by
  intro heq
  have hdiffer := digests_differ
  have hcomputed₁ := hl.certified.hashed e₁ (by simp [hentries])
  have hcomputed₂ := hl.certified.hashed e₂ (by simp [hentries])
  rw [h₁] at hcomputed₁
  rw [h₂] at hcomputed₂
  rw [hcomputed₁, ok_bind, hcomputed₂, ok_bind, decide_eq_true heq] at hdiffer
  cases hdiffer

end Sample

/-- Ledgers of two runs that are recorded at different times have the same two entries. -/
theorem sample_verified_prefix : ∃ members members' l l' e₁ e₂ e₁' e₂',
    buildRunLedger (Sample.verifier false) Sample.runner (Sample.twice Sample.now) = .ok members ∧
      buildRunLedger (Sample.verifier false) Sample.runner
        (Sample.twice Sample.later) = .ok members' ∧
      Verifies (Sample.verifier false) (.mapping members)
        (some (Sample.twice Sample.now).repositoryCommit) l ∧
      Verifies (Sample.verifier false) (.mapping members')
        (some (Sample.twice Sample.later).repositoryCommit) l' ∧
      l.entries = [e₁, e₂] ∧ l'.entries = [e₁', e₂'] ∧ e₂.entrySha256 = e₂'.entrySha256 ∧
      [e₁, e₂].map (Entry.content (Sample.verifier false)) =
        [e₁', e₂'].map (Entry.content (Sample.verifier false)) := by
  obtain ⟨members, l, e₁, e₂, hmembers, hl, hentries, h₁, h₂⟩ := Sample.exists_pair (.inl rfl)
  obtain ⟨members', l', e₁', e₂', hmembers', hl', hentries', h₁', h₂'⟩ :=
    Sample.exists_pair (.inr rfl)
  have hdigest : ∀ b ∈ l.entries ++ l'.entries, b.entrySha256 =
      toPyStr (sha256Bytes (Sample.verifier false).platform
        (b.payload (Sample.verifier false))).val :=
    fun b hb => (List.mem_append.1 hb).elim hl.digest hl'.digest
  have hcongr : ∀ b ∈ l.entries ++ l'.entries, ∀ b' ∈ l.entries ++ l'.entries,
      b.hashed = b'.hashed → b.entrySha256 = b'.entrySha256 := by
    intro b hb b' hb' heq
    rw [hdigest b hb, hdigest b' hb', Entry.payload, Entry.payload, heq]
  have hsame₁ : e₁.hashed = e₁'.hashed := h₁.trans h₁'.symm
  have hdigest₁ : e₁.entrySha256 = e₁'.entrySha256 :=
    hcongr e₁ (by simp [hentries]) e₁' (by simp [hentries']) hsame₁
  have hsame₂ : e₂.hashed = e₂'.hashed := by rw [h₂, h₂', hdigest₁]
  have hdigest₂ : e₂.entrySha256 = e₂'.entrySha256 :=
    hcongr e₂ (by simp [hentries]) e₂' (by simp [hentries']) hsame₂
  have hne : e₁.entrySha256 ≠ e₂.entrySha256 := Sample.digest_ne_of_pair hl hentries h₁ h₂
  have hcases : ∀ b ∈ l.entries ++ l'.entries,
      (b.hashed = e₁.hashed ∧ b.entrySha256 = e₁.entrySha256) ∨
        (b.hashed = e₂.hashed ∧ b.entrySha256 = e₂.entrySha256) := by
    rw [hentries, hentries']
    intro b hb
    simp only [List.cons_append, List.nil_append, List.mem_cons, List.not_mem_nil, or_false] at hb
    rcases hb with rfl | rfl | rfl | rfl
    · exact .inl ⟨rfl, rfl⟩
    · exact .inr ⟨rfl, rfl⟩
    · exact .inl ⟨hsame₁.symm, hdigest₁.symm⟩
    · exact .inr ⟨hsame₂.symm, hdigest₂.symm⟩
  have hfree : CollisionFree (Sample.verifier false).platform fun b =>
      ∃ e ∈ l.entries ++ l'.entries, b = e.payload (Sample.verifier false) := by
    rintro _ _ ⟨b, hb, rfl⟩ ⟨b', hb', rfl⟩ heq
    have hequal : b.entrySha256 = b'.entrySha256 := by rw [hdigest b hb, hdigest b' hb', heq]
    refine congrArg (Sample.verifier false).payload ?_
    rcases hcases b hb with ⟨hhashed, hd⟩ | ⟨hhashed, hd⟩
    · rcases hcases b' hb' with ⟨hhashed', -⟩ | ⟨-, hd'⟩
      · rw [hhashed, hhashed']
      · exact absurd (hd.symm.trans (hequal.trans hd')) hne
    · rcases hcases b' hb' with ⟨-, hd'⟩ | ⟨hhashed', -⟩
      · exact absurd (hd'.symm.trans (hequal.symm.trans hd)) hne
      · rw [hhashed, hhashed']
  have hsplit : l.entries = [e₁] ++ e₂ :: [] := hentries
  have hsplit' : l'.entries = [e₁'] ++ e₂' :: [] := hentries'
  exact ⟨members, members', l, l', e₁, e₂, e₁', e₂', hmembers, hmembers', hl, hl', hentries,
    hentries', hdigest₂,
    verified_prefix_eq (Sample.lawful false) hfree hl hl' hsplit hsplit' hdigest₂⟩

end ProofFlow.Evaluation
