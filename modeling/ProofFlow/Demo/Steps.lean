import ProofFlow.Demo.Program

/-!
# What the steps do

One rule for each statement and system call of the program.  `Going F P` holds while no call has
failed and the world has the property `P`; `Failed F P h` holds where an exception was raised in a
world with `P`: if a call has failed by then, it is one with the property `h`.
-/

namespace ProofFlow.Demo

open Kit

variable {F : Faults} {P Q : World → Prop} {h h' : Call → Prop} {c : Call} {e : Raised} {s : State}
  {pre : State → Prop} {raised : Raised → State → Prop} {parentFd fd : ℕ} {name : PyStr}

/-- If the faulty call was made, it has the property `h`. -/
def Blames (F : Faults) (h : Call → Prop) (s : State) : Prop :=
  ∀ failure ∈ F.failing, failure.1 ∈ s.calls → h failure.1

def Going (F : Faults) (P : World → Prop) (s : State) : Prop :=
  P s.world ∧ Blames F (fun _ => False) s

def Failed (F : Faults) (P : World → Prop) (h : Call → Prop) (e : Raised) (s : State) : Prop :=
  e ≠ .keyError ∧ P s.world ∧ Blames F h s

theorem Going.mono (hs : Going F P s) (hPQ : ∀ w, P w → Q w) : Going F Q s :=
  ⟨hPQ _ hs.1, hs.2⟩

theorem Failed.mono (hs : Failed F P h e s) (hPQ : ∀ w, P w → Q w) (hh : ∀ c, h c → h' c) :
    Failed F Q h' e s :=
  ⟨hs.1, hPQ _ hs.2.1, fun failure hf hmem => hh _ (hs.2.2 failure hf hmem)⟩

/-- An exception that no failed call has caused. -/
theorem Going.failed (hs : Going F P s) (he : e ≠ .keyError) : Failed F P h e s :=
  ⟨he, hs.1, fun failure hf hmem => (hs.2 failure hf hmem).elim⟩

/-! ## Statements -/

theorem triple_require {condition : Bool} {post : PUnit → State → Prop}
    (htrue : condition = true → ∀ s, pre s → post ⟨⟩ s)
    (hfalse : condition = false → ∀ s, pre s → raised e s) :
    Triple pre (require condition e) post raised := by
  cases condition with
  | true => exact .pure (htrue rfl)
  | false => exact .throw (hfalse rfl)

theorem triple_orRaise {α : Type} {value : Option α} {post : α → State → Prop}
    (hsome : ∀ a, value = some a → ∀ s, pre s → post a s)
    (hnone : value = none → ∀ s, pre s → raised e s) :
    Triple pre (orRaise value e) post raised := by
  cases value with
  | some a => exact .pure (hsome a rfl)
  | none => exact .throw (hnone rfl)

theorem triple_world :
    Triple (Going F P) world (fun w => Going F fun w' => w' = w ∧ P w') raised :=
  Triple.bind (Triple.get (Q := fun s' s => s' = s ∧ Going F P s) fun _ hs => ⟨rfl, hs⟩)
    fun _ => .pure fun _ hs => by
      obtain ⟨rfl, hs⟩ := hs
      exact ⟨⟨rfl, hs.1⟩, hs.2⟩

theorem triple_update {f : World → World} (hf : ∀ w, P w → Q (f w)) :
    Triple (Going F P) (update f) (fun _ => Going F Q) raised :=
  .modify fun _ hs => ⟨hf _ hs.1, hs.2⟩

/-- A value that the property of the world only says to exist. -/
theorem triple_ghost {ι : Sort*} {α : Type} {P : ι → World → Prop} {m : Step α}
    {post : α → State → Prop} (h : ∀ i, Triple (Going F (P i)) m post raised) :
    Triple (Going F fun w => ∃ i, P i w) m post raised :=
  (Triple.ghost h).strengthen fun _ ⟨⟨i, hP⟩, hquiet⟩ => ⟨i, hP, hquiet⟩

/-- A part of the property that does not depend on the world. -/
theorem triple_given {p : Prop} {α : Type} {m : Step α} {post : α → State → Prop}
    (h : p → Triple (Going F P) m post raised) :
    Triple (Going F fun w => p ∧ P w) m post raised where
  returns hs := (h hs.1.1).returns ⟨hs.1.2, hs.2⟩
  raises hs := (h hs.1.1).raises ⟨hs.1.2, hs.2⟩

/-- A check that changes nothing. -/
theorem triple_check {condition : Bool} {error : DemoInitializationError} :
    Triple (Going F P) (require condition (.demo error)) (fun _ => Going F P) (Failed F P h) :=
  triple_require (fun _ _ => id) fun _ _ hs => hs.failed nofun

theorem triple_found {α : Type} {value : Option α} {error : DemoInitializationError} :
    Triple (Going F P) (orRaise value (.demo error))
      (fun a => Going F fun w => value = some a ∧ P w) (Failed F P h) :=
  triple_orRaise (fun _ ha _ hs => hs.mono fun _ hw => ⟨ha, hw⟩) fun _ _ hs => hs.failed nofun

theorem triple_attempt :
    Triple (Going F P) (attempt F c) (fun _ => Going F P) (Failed F P (· = c)) := by
  refine Triple.bind (Q := fun _ s => P s.world ∧ Blames F (· = c) s) (.modify ?_) fun _ => ?_
  · rintro s ⟨hP, hquiet⟩
    refine ⟨hP, fun failure hf hmem => ?_⟩
    rcases List.mem_cons.1 hmem with heq | hmem
    · exact heq
    · exact (hquiet failure hf hmem).elim
  · cases hc : F.errorAt c with
    | some error => exact .throw fun s hs => ⟨nofun, hs.1, hs.2⟩
    | none =>
      refine .pure fun s hs => ⟨hs.1, fun failure hf hmem => ?_⟩
      -- the faulty call would be `c`, which did not fail
      rw [Faults.errorAt, Option.mem_def.1 hf, Option.bind_some,
        if_pos (hs.2 failure hf hmem)] at hc
      cases hc

/-! ## System calls -/

theorem triple_fstat :
    Triple (Going F P) (fstat F c fd)
      (fun metadata => Going F fun w => w.disk.metadata fd = some metadata ∧ P w)
      (Failed F P (· = c)) := by
  refine triple_attempt.bind fun _ => triple_world.bind fun w => triple_orRaise ?_ ?_
  · rintro metadata hmeta s hs
    refine hs.mono fun w' hw => ?_
    obtain ⟨rfl, hw⟩ := hw
    exact ⟨hmeta, hw⟩
  · exact fun _ s hs => (hs.mono fun _ hw => hw.2).failed nofun

theorem triple_mkdir
    (hQ : ∀ w, P w → w.disk.table.lookup parentFd name = none →
      Q { w with disk := w.disk.add parentFd name .directory }) :
    Triple (Going F P) (mkdir F parentFd name) (fun _ => Going F Q)
      (Failed F P (· = .mkdir parentFd name)) := by
  refine triple_attempt.bind fun _ => triple_world.bind fun w => ?_
  refine Triple.bind
    (Q := fun _ => Going F fun w => w.disk.table.lookup parentFd name = none ∧ P w)
    (triple_require ?_ ?_) fun _ => triple_update fun w hw => hQ w hw.2 hw.1
  · intro hnone s hs
    refine hs.mono fun w' hw => ?_
    obtain ⟨rfl, hw⟩ := hw
    exact ⟨Option.isNone_iff_eq_none.1 hnone, hw⟩
  · exact fun _ s hs => (hs.mono fun _ hw => hw.2).failed nofun

theorem triple_createFile {R : ℕ → World → Prop}
    (hR : ∀ w, P w → w.disk.table.lookup parentFd name = none →
      R w.disk.nextInode { w with disk := w.disk.add parentFd name (.regular []) }) :
    Triple (Going F P) (createFile F parentFd name) (fun fd => Going F (R fd))
      (Failed F P (· = .createFile parentFd name)) := by
  refine triple_attempt.bind fun _ => triple_world.bind fun w => ?_
  refine Triple.bind
    (Q := fun _ => Going F fun w' => w' = w ∧ w.disk.table.lookup parentFd name = none ∧ P w)
    (triple_require ?_ ?_) fun _ => ?_
  · intro hnone s hs
    refine hs.mono fun w' hw => ?_
    obtain ⟨rfl, hw⟩ := hw
    exact ⟨rfl, Option.isNone_iff_eq_none.1 hnone, hw⟩
  · exact fun _ s hs => (hs.mono fun _ hw => hw.2).failed nofun
  · refine Triple.bind (Q := fun _ => Going F (R w.disk.nextInode)) (triple_update ?_)
      fun _ => .pure fun _ hs => hs
    rintro w' ⟨rfl, hnone, hw⟩
    exact hR w' hw hnone

theorem triple_openDirectory :
    Triple (Going F P) (openDirectory F parentFd name)
      (fun fd => Going F fun w =>
        w.disk.table.lookup parentFd name = some fd ∧ w.disk.node fd = some .directory ∧ P w)
      (Failed F P (· = .openDirectory parentFd name)) := by
  refine triple_attempt.bind fun _ => triple_world.bind fun w => ?_
  refine Triple.bind
    (Q := fun fd => Going F fun w' =>
      w' = w ∧ w.disk.table.lookup parentFd name = some fd ∧ P w)
    (triple_orRaise ?_ ?_) fun fd => ?_
  · intro fd hfd s hs
    refine hs.mono fun w' hw => ?_
    obtain ⟨rfl, hw⟩ := hw
    exact ⟨rfl, hfd, hw⟩
  · exact fun _ s hs => (hs.mono fun _ hw => hw.2).failed nofun
  · refine Triple.bind
      (Q := fun _ => Going F fun w => w.disk.table.lookup parentFd name = some fd ∧
        w.disk.node fd = some .directory ∧ P w)
      (triple_require ?_ ?_) fun _ => .pure fun _ hs => hs
    · intro hnode s hs
      refine hs.mono fun w' hw => ?_
      obtain ⟨rfl, hfd, hw⟩ := hw
      exact ⟨hfd, of_decide_eq_true hnode, hw⟩
    · refine fun _ s hs => (hs.mono fun w' hw => ?_).failed nofun
      obtain ⟨rfl, -, hw⟩ := hw
      exact hw

/-- The calls of `_open_pinned_directory`. -/
def Call.isOpening : Call → Bool
  | .openDirectory _ _ => true
  | .fstatDirectory _ => true
  | _ => false

theorem triple_openPinnedDirectory :
    Triple (Going F P) (openPinnedDirectory F parentFd name)
      (fun d => Going F fun w =>
        w.disk.table.lookup parentFd name = some d.inode ∧ w.disk.node d.inode = some .directory ∧
          d = ⟨name, parentFd, d.inode, w.disk.device, d.inode⟩ ∧ P w)
      (Failed F P fun c => c.isOpening = true) := by
  refine Triple.bind
    (triple_openDirectory.weaken (fun _ => id) (fun _ _ => id) fun e s hs => ?_) fun fd => ?_
  · exact hs.mono (fun _ => id) fun c hc => by rw [hc]; rfl
  refine Triple.bind (triple_fstat.weaken (fun _ => id) (fun _ _ => id) fun e s hs => ?_)
    fun metadata => ?_
  · exact hs.mono (fun _ hw => hw.2.2) fun c hc => by rw [hc]; rfl
  refine triple_world.bind fun w => Triple.bind (Q := fun _ => Going F fun w' => w' = w ∧
      w.disk.metadata fd = some metadata ∧ w.disk.table.lookup parentFd name = some fd ∧
      w.disk.node fd = some .directory ∧ P w) (triple_require ?_ ?_) fun _ => .pure ?_
  · intro _ s hs
    refine hs.mono fun w' hw => ?_
    obtain ⟨rfl, hw⟩ := hw
    exact ⟨rfl, hw⟩
  · exact fun _ s hs => (hs.mono fun _ hw => hw.2.2.2.2).failed nofun
  · refine fun s hs => hs.mono fun w' hw => ?_
    obtain ⟨rfl, hmeta, hlookup, hnode, hw⟩ := hw
    rw [Disk.metadata, hnode, Option.map_some] at hmeta
    obtain rfl := Option.some.inj hmeta
    exact ⟨hlookup, hnode, rfl, hw⟩

/-! ## Writing a file -/

/-- The calls that fill a new file. -/
def Call.isFilling : Call → Bool
  | .fstatCreated _ => true
  | .write _ _ => true
  | .fsync _ => true
  | _ => false

/-- A world with another content in a file. -/
def World.setContent (w : World) (fd : ℕ) (content : Bytes) : World :=
  { w with disk := w.disk.setContent fd content }

theorem Disk.content_setContent (disk : Disk) (fd : ℕ) (content : Bytes) :
    (disk.setContent fd content).content fd = content := by
  simp [Disk.content, Disk.setContent]

theorem Disk.setContent_setContent (disk : Disk) (fd : ℕ) (content content' : Bytes) :
    (disk.setContent fd content).setContent fd content' = disk.setContent fd content' := by
  simp [Disk.setContent]

theorem triple_writeRemaining {w : World} (fuel offset : ℕ) (remaining content : Bytes)
    (hfuel : remaining.length ≤ fuel) :
    Triple (Going F (· = w.setContent fd content)) (writeRemaining F fd fuel offset remaining)
      (fun _ => Going F (· = w.setContent fd (content ++ remaining)))
      (Failed F (fun w' => ∃ content, w' = w.setContent fd content) fun c => c.isFilling =
        true) := by
  induction fuel generalizing offset remaining content with
  | zero =>
    obtain rfl := List.eq_nil_of_length_eq_zero (Nat.le_zero.1 hfuel)
    exact .pure fun s hs => by rwa [List.append_nil]
  | succ fuel ih =>
    rw [writeRemaining]
    split_ifs with hnil
    · rw [hnil]
      exact .pure fun s hs => by rwa [List.append_nil]
    refine Triple.bind (triple_attempt.weaken (fun _ => id) (fun _ _ => id) fun e s hs => ?_)
      fun _ => ?_
    · exact hs.mono (fun _ hw => ⟨content, hw⟩) fun c hc => by rw [hc]; rfl
    generalize hwritten : min (F.accepted fd offset) remaining.length = written
    refine Triple.bind
      (Q := fun _ => Going F (· = w.setContent fd (content ++ remaining.take written)))
      (triple_update ?_) fun _ => ?_
    · rintro w' rfl
      simp only [World.setContent, Disk.content_setContent, Disk.setContent_setContent]
    by_cases hpos : 0 < written
    · refine Triple.bind (Q := fun _ =>
        Going F (· = w.setContent fd (content ++ remaining.take written)))
        (triple_require (fun _ _ => id) fun hfalse => ?_) fun _ => ?_
      · exact absurd hpos (of_decide_eq_false hfalse)
      · have hrest :=
          ih (offset + written) (remaining.drop written) (content ++ remaining.take written)
          (by rw [List.length_drop]; omega)
        rwa [List.append_assoc, List.take_append_drop] at hrest
    · refine Triple.bind (Q := fun _ _ => False) (triple_require (fun htrue => ?_) ?_)
        fun _ => .of_false fun _ => id
      · exact absurd (of_decide_eq_true htrue) hpos
      · exact fun _ s hs => (hs.mono fun _ hw => ⟨_, hw⟩).failed nofun

theorem triple_writePayload {w : World} (payload : Bytes) :
    Triple (Going F (· = w.setContent fd [])) (writePayload F fd payload)
      (fun _ => Going F (· = w.setContent fd payload))
      (Failed F (fun w' => ∃ content, w' = w.setContent fd content) fun c => c.isFilling =
        true) := by
  refine Triple.bind (triple_writeRemaining _ 0 payload [] le_rfl) fun _ => ?_
  refine triple_attempt.weaken (fun _ => id) (fun _ _ => id) fun e s hs => ?_
  exact hs.mono (fun _ hw => ⟨payload, hw⟩) fun c hc => by rw [hc]; rfl

end ProofFlow.Demo
