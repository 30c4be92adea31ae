import ProofFlow.Demo.Cleanup

/-!
# The body of the call

What the body of `initialize_demo` has done when it returns (`Complete`) and when an exception
leaves it (`Aborted`): either everything it made is recorded, or the newest entry is not, and the
call that failed says which.
-/

namespace ProofFlow.Demo

open Kit

variable {F : Faults} {T : Target} {C : World → Prop} {w : World} {disk : Disk}
  {x : DirEntry PyStr} {extra : DirTable PyStr} {d root : PinnedDirectory} {f : PinnedFile}
  {parentFd fd : ℕ} {name : PyStr} {payloads done : List (PyStr × Bytes)}

/-- A call whose failure leaves nothing behind: what it would have made does not exist, and
everything made before it is recorded. -/
def Call.isHarmless : Call → Bool
  | .fstatParent => true
  | .mkdir _ _ => true
  | .createFile _ _ => true
  | .fstatVerified _ => true
  | _ => false

/-- How an exception leaves the body. -/
def Aborted (F : Faults) (T : Target) (e : Raised) (s : State) : Prop :=
  Failed F (Tracked T) (fun c => c.isHarmless = true) e s ∨
    Failed F (Dirty T) (fun c => c.isHarmless = false) e s

/-! ## Changes of the disk -/

theorem PinnedDirectory.Valid.add {n : Node} (h : d.Valid disk) (hlt : d.inode < disk.nextInode) :
    d.Valid (disk.add parentFd name n) :=
  ⟨h.fd, h.device, (Function.update_of_ne hlt.ne _ _).trans h.node⟩

theorem PinnedFile.Valid.add {n : Node} (h : f.Valid disk) (hlt : f.inode < disk.nextInode) :
    f.Valid (disk.add parentFd name n) :=
  ⟨h.fd, h.device, (Function.update_of_ne hlt.ne _ _).trans h.node⟩

theorem Records.inode_lt (h : Records T extra w) {e : DirEntry PyStr} (he : e ∈ w.recorded) :
    e.inode < w.disk.nextInode := by
  refine (h.entries_lt e ?_).2
  rw [h.table]
  exact List.mem_append_left _ (List.mem_append_right _ he)

/-- A new object in the table. -/
theorem Records.add (h : Tracked T w) (n : Node) (hlt : parentFd < w.disk.nextInode)
    (hnone : w.disk.table.lookup parentFd name = none) :
    Records T [⟨parentFd, name, w.disk.nextInode⟩]
      { w with disk := w.disk.add parentFd name n } where
  table := congrArg (_ :: ·) h.table
  stacked := by
    have htable : w.disk.table = w.recorded ++ T.disk.table := h.table
    refine ⟨⟨hlt.ne, ?_, ?_, ?_⟩, h.stacked⟩ <;> intro e he
    · exact DirTable.lookup_eq_none.1 hnone e (htable ▸ he)
    · exact (h.entries_lt e (htable ▸ he)).1.ne
    · exact (h.entries_lt e (htable ▸ he)).2.ne
  entries_lt e he := by
    rcases List.mem_cons.1 he with rfl | he
    · exact ⟨Nat.lt_succ_of_lt hlt, Nat.lt_succ_self _⟩
    · exact ⟨Nat.lt_succ_of_lt (h.entries_lt e he).1, Nat.lt_succ_of_lt (h.entries_lt e he).2⟩
  parent_lt := Nat.lt_succ_of_lt h.parent_lt
  root r hr := ⟨(h.root r hr).1, (h.root r hr).2.1,
    (h.root r hr).2.2.add (h.inode_lt (mem_recorded_root hr))⟩
  children d hd :=
    ⟨(h.children d hd).1, (h.children d hd).2.add (h.inode_lt (mem_recorded_child hd))⟩
  files f hf := ⟨(h.files f hf).1, (h.files f hf).2.add (h.inode_lt (mem_recorded_file hf))⟩

/-- Another content of the file that is not recorded. -/
theorem Records.setContent (h : Records T [x] w) (content : Bytes) :
    Records T [x] (w.setContent x.inode content) := by
  have hne : ∀ {e}, e ∈ w.recorded → e.inode ≠ x.inode := fun he =>
    h.stacked.1.unused _ (List.mem_append_left _ he)
  exact {
    table := h.table
    stacked := h.stacked
    entries_lt := h.entries_lt
    parent_lt := h.parent_lt
    root := fun r hr => ⟨(h.root r hr).1, (h.root r hr).2.1, (h.root r hr).2.2.fd,
      (h.root r hr).2.2.device,
      (Function.update_of_ne (hne (mem_recorded_root hr)) _ _).trans (h.root r hr).2.2.node⟩
    children :=
      fun d hd => ⟨(h.children d hd).1, (h.children d hd).2.fd, (h.children d hd).2.device,
      (Function.update_of_ne (hne (mem_recorded_child hd)) _ _).trans (h.children d hd).2.node⟩
    files := fun f hf => ⟨(h.files f hf).1, (h.files f hf).2.fd, (h.files f hf).2.device,
      (Function.update_of_ne (hne (mem_recorded_file hf)) _ _).trans (h.files f hf).2.node⟩ }

/-! ## Recording -/

theorem Records.recordRoot (h : Records T [d.entry] w) (hroot : w.root = none)
    (hparent : d.parentFd = T.parentFd) (hname : d.name = T.outputName) (hd : d.Valid w.disk) :
    Tracked T { w with root := some d } := by
  obtain ⟨hchildren, hfiles⟩ := h.rootless hroot
  have hrecorded : World.recorded { w with root := some d } = [d.entry] ++ w.recorded := by
    simp [World.recorded, hchildren, hfiles, hroot]
  exact {
    table := by rw [List.nil_append, hrecorded]; exact h.table
    stacked := by rw [List.nil_append, hrecorded]; exact h.stacked
    entries_lt := h.entries_lt
    parent_lt := h.parent_lt
    root := fun r hr => by
      obtain rfl := Option.some.inj hr
      exact ⟨hparent, hname, hd⟩
    children := fun d hd => by
      rw [show w.childDirectories = [] from hchildren] at hd
      cases hd
    files := fun f hf => by
      rw [show w.writtenFiles = [] from hfiles] at hf
      cases hf }

theorem Records.recordChild (h : Records T [d.entry] w) (hroot : w.root = some root)
    (hfiles : w.writtenFiles = []) (hparent : d.parentFd = root.fd) (hd : d.Valid w.disk) :
    Tracked T { w with childDirectories := w.childDirectories ++ [d] } := by
  have hrecorded : World.recorded { w with childDirectories := w.childDirectories ++ [d] } =
      [d.entry] ++ w.recorded := by
    simp [World.recorded, hfiles]
  exact {
    table := by rw [List.nil_append, hrecorded]; exact h.table
    stacked := by rw [List.nil_append, hrecorded]; exact h.stacked
    entries_lt := h.entries_lt
    parent_lt := h.parent_lt
    root := h.root
    children := fun d' hd' => by
      rcases List.mem_append.1 hd' with hd' | hd'
      · exact h.children d' hd'
      · obtain rfl := List.mem_singleton.1 hd'
        exact ⟨⟨root, hroot, hparent⟩, hd⟩
    files := fun f hf => by
      rw [show w.writtenFiles = [] from hfiles] at hf
      cases hf }

theorem Records.recordFile (h : Records T [f.entry] w)
    (hparent : f.parent ∈ w.root ∨ f.parent ∈ w.childDirectories) (hf : f.Valid w.disk) :
    Tracked T { w with writtenFiles := w.writtenFiles ++ [f] } := by
  have hrecorded : World.recorded { w with writtenFiles := w.writtenFiles ++ [f] } =
      [f.entry] ++ w.recorded := by
    simp [World.recorded]
  exact {
    table := by rw [List.nil_append, hrecorded]; exact h.table
    stacked := by rw [List.nil_append, hrecorded]; exact h.stacked
    entries_lt := h.entries_lt
    parent_lt := h.parent_lt
    root := h.root
    children := h.children
    files := fun f' hf' => by
      rcases List.mem_append.1 hf' with hf' | hf'
      · exact h.files f' hf'
      · obtain rfl := List.mem_singleton.1 hf'
        exact ⟨hparent, hf⟩ }

/-! ## Making directories -/

/-- A directory was made in a world with `C`, and it is not recorded yet. -/
def Made (T : Target) (parentFd : ℕ) (name : PyStr) (C : World → Prop) (w : World) : Prop :=
  C w ∧ ∃ inode, Records T [⟨parentFd, name, inode⟩] w ∧ w.disk.node inode = some .directory

theorem triple_mkdir_made (hC : ∀ w disk, C w → C { w with disk := disk })
    (hlt : ∀ w, Tracked T w → C w → parentFd < w.disk.nextInode) :
    Triple (Going F fun w => Tracked T w ∧ C w) (mkdir F parentFd name)
      (fun _ => Going F (Made T parentFd name C)) (Aborted F T) := by
  refine (triple_mkdir (Q := Made T parentFd name C) ?_).weaken (fun _ => id) (fun _ _ => id) ?_
  · rintro w ⟨htracked, hw⟩ hnone
    exact ⟨hC w _ hw, w.disk.nextInode, htracked.add .directory (hlt w htracked hw) hnone,
      Function.update_self _ _ _⟩
  · intro e s hs
    exact .inl (hs.mono (fun _ hw => hw.1) fun c hc => by rw [hc]; rfl)

theorem Call.isHarmless_of_isOpening {c : Call} (h : c.isOpening = true) :
    c.isHarmless = false := by
  cases c <;> first | rfl | cases h

theorem Call.isHarmless_of_isFilling {c : Call} (h : c.isFilling = true) :
    c.isHarmless = false := by
  cases c <;> first | rfl | cases h

theorem triple_open_made
    (hang : ∀ w inode, C w → Records T [⟨parentFd, name, inode⟩] w →
      Hangs T w ⟨parentFd, name, inode⟩) :
    Triple (Going F (Made T parentFd name C)) (openPinnedDirectory F parentFd name)
      (fun d => Going F fun w => C w ∧ Records T [d.entry] w ∧ d.parentFd = parentFd ∧
        d.name = name ∧ d.Valid w.disk)
      (Failed F (Dirty T) fun c => c.isHarmless = false) := by
  refine triple_openPinnedDirectory.weaken (fun _ => id) (fun d s hs => hs.mono ?_) ?_
  · rintro w ⟨hlookup, hnode, hd, hw, inode, hrecords, -⟩
    have hinode : w.disk.table.lookup parentFd name = some inode := by
      rw [hrecords.table]
      exact DirTable.lookup_cons_self ⟨parentFd, name, inode⟩ _
    obtain rfl := Option.some.inj (hlookup.symm.trans hinode)
    have hparent : d.parentFd = parentFd := congrArg PinnedDirectory.parentFd hd
    have hname : d.name = name := congrArg PinnedDirectory.name hd
    refine ⟨hw, ?_, hparent, hname, congrArg PinnedDirectory.fd hd,
      congrArg PinnedDirectory.device hd, hnode⟩
    rw [PinnedDirectory.entry, hparent, hname]
    exact hrecords
  · intro e s hs
    refine hs.mono ?_ fun c hc => Call.isHarmless_of_isOpening hc
    rintro w ⟨hw, inode, hrecords, -⟩
    exact ⟨_, hrecords, hang w inode hw hrecords⟩

/-- The root is recorded, and the children with the names `done`; there are no files. -/
structure Branched (root : PinnedDirectory) (done : List PyStr) (w : World) : Prop where
  rooted : w.root = some root
  files : w.writtenFiles = []
  named : w.childDirectories.map PinnedDirectory.name = done

theorem Records.root_fd_lt (h : Records T extra w) (hr : w.root = some root) :
    root.fd < w.disk.nextInode := by
  rw [(h.root root hr).2.2.fd]
  exact h.inode_lt (mem_recorded_root hr)

theorem triple_makeChild (names : List PyStr) :
    Triple (Going F fun w => Tracked T w ∧ Branched root names w) (makeChild F root name)
      (fun _ => Going F fun w => Tracked T w ∧ Branched root (names ++ [name]) w)
      (Aborted F T) := by
  refine Triple.bind (triple_mkdir_made (fun w _ hw => ⟨hw.rooted, hw.files, hw.named⟩)
    fun w htracked hw => htracked.root_fd_lt hw.rooted) fun _ => ?_
  refine Triple.bind ((triple_open_made ?_).weaken (fun _ => id) (fun _ _ => id)
    fun _ _ => .inr) fun d => triple_update ?_
  · exact fun w inode hw hrecords =>
      .inr ⟨root, hw.rooted, .inl (hrecords.root root hw.rooted).2.2.fd⟩
  · rintro w ⟨hw, hrecords, hparent, hname, hvalid⟩
    refine ⟨hrecords.recordChild hw.rooted hw.files hparent hvalid, hw.rooted, hw.files, ?_⟩
    rw [List.map_append, hw.named, List.map_singleton, hname]

/-! ## Writing the files -/

/-- The record of a file is that of an item of `payloads`. -/
def IsWritten (root : PinnedDirectory) (childDirectories : List PinnedDirectory) (f : PinnedFile)
    (item : PyStr × Bytes) : Prop :=
  placeOf root childDirectories (posixParts item.1) = some (f.parent, f.name) ∧
    f.expectedPayload = item.2

/-- The root and the children with their names are recorded, and the files of the items `done`. -/
structure Filled (root : PinnedDirectory) (names : List PyStr) (done : List (PyStr × Bytes))
    (w : World) : Prop where
  rooted : w.root = some root
  named : w.childDirectories.map PinnedDirectory.name = names
  files : List.Forall₂ (IsWritten root w.childDirectories) w.writtenFiles done

theorem mem_of_placeOf {children : List PinnedDirectory} {parts : List PyStr}
    {place : PinnedDirectory × PyStr} (h : placeOf root children parts = some place) :
    place.1 = root ∨ place.1 ∈ children := by
  unfold placeOf at h
  split at h
  · obtain rfl := Option.some.inj h
    exact .inl rfl
  · obtain ⟨d, hd, rfl⟩ := Option.map_eq_some_iff.1 h
    exact .inr (List.mem_of_find?_eq_some hd)
  · cases h

/-- An entry in a recorded directory. -/
theorem Records.hangs (h : Records T extra w) (hroot : w.root = some root)
    (hd : d = root ∨ d ∈ w.childDirectories) (hx : x.parent = d.fd) : Hangs T w x := by
  rcases hd with rfl | hd
  · exact .inr ⟨d, hroot, .inl (hx.trans (h.root d hroot).2.2.fd)⟩
  · exact .inr ⟨root, hroot, .inr ⟨d, hd, hx.trans (h.children d hd).2.fd⟩⟩

theorem Records.fd_lt (h : Records T extra w) (hroot : w.root = some root)
    (hd : d = root ∨ d ∈ w.childDirectories) : d.fd < w.disk.nextInode := by
  rcases hd with rfl | hd
  · exact h.root_fd_lt hroot
  · rw [(h.children d hd).2.fd]
    exact h.inode_lt (mem_recorded_child hd)

/-- The file `fd` was made at its place and is not recorded yet; `w` is the world with the file
empty. -/
structure Opened (T : Target) (root : PinnedDirectory) (names : List PyStr)
    (done : List (PyStr × Bytes)) (item : PyStr × Bytes) (place : PinnedDirectory × PyStr) (fd : ℕ)
    (w : World) : Prop where
  records : Records T [⟨place.1.fd, place.2, fd⟩] w
  filled : Filled root names done w
  place : placeOf root w.childDirectories (posixParts item.1) = some place
  node : w.disk.node fd = some (.regular [])

theorem Opened.dirty {names : List PyStr} {item : PyStr × Bytes} {place : PinnedDirectory × PyStr}
    (h : Opened T root names done item place fd w) (content : Bytes) :
    Dirty T (w.setContent fd content) :=
  ⟨_, h.records.setContent content,
    h.records.hangs h.filled.rooted (mem_of_placeOf h.place) rfl⟩

theorem Opened.setContent_nil {names : List PyStr} {item : PyStr × Bytes}
    {place : PinnedDirectory × PyStr} (h : Opened T root names done item place fd w) :
    w.setContent fd [] = w := by
  have hnode : Function.update w.disk.node fd (some (.regular [])) = w.disk.node := by
    rw [← h.node]
    exact Function.update_eq_self _ _
  rw [World.setContent, Disk.setContent, hnode]

theorem Opened.isDirty {names : List PyStr} {item : PyStr × Bytes}
    {place : PinnedDirectory × PyStr} (h : Opened T root names done item place fd w) :
    Dirty T w := by
  have hdirty := h.dirty []
  rwa [h.setContent_nil] at hdirty

/-- The record of the file that was written. -/
theorem Opened.record {names : List PyStr} {item : PyStr × Bytes} {place : PinnedDirectory × PyStr}
    (h : Opened T root names done item place fd w) {w' : World}
    (hw' : w' = w.setContent fd item.2) :
    let record : PinnedFile := ⟨place.2, place.1, fd, w.disk.device, fd, item.2⟩
    Tracked T { w' with writtenFiles := w'.writtenFiles ++ [record] } ∧
      Filled root names (done ++ [item])
        { w' with writtenFiles := w'.writtenFiles ++ [record] } := by
  subst hw'
  intro record
  have hrecords : Records T [record.entry] (w.setContent fd item.2) := h.records.setContent item.2
  refine ⟨hrecords.recordFile ?_ ⟨rfl, rfl, Function.update_self _ _ _⟩, h.filled.rooted,
    h.filled.named, List.rel_append h.filled.files (.cons ⟨h.place, rfl⟩ .nil)⟩
  refine (mem_of_placeOf h.place).imp_left fun heq => ?_
  change w.root = some place.1
  rw [heq]
  exact h.filled.rooted

theorem triple_writeAsset {names : List PyStr} (item : PyStr × Bytes) :
    Triple (Going F fun w => Tracked T w ∧ Filled root names done w) (writeAsset F root item)
      (fun _ => Going F fun w => Tracked T w ∧ Filled root names (done ++ [item]) w)
      (Aborted F T) := by
  refine triple_world.bind fun w => Triple.bind
    (Q := fun place => Going F fun w => placeOf root w.childDirectories (posixParts item.1) =
      some place ∧ Tracked T w ∧ Filled root names done w)
    (triple_orRaise ?_ ?_) fun place => ?_
  · rintro place hplace s hs
    refine hs.mono fun w' hw => ?_
    obtain ⟨rfl, hw⟩ := hw
    exact ⟨hplace, hw⟩
  · exact fun _ s hs => .inl ((hs.mono fun _ hw => hw.2.1).failed nofun)
  refine Triple.bind (Q := fun fd => Going F (Opened T root names done item place fd))
    ((triple_createFile ?_).weaken (fun _ => id) (fun _ _ => id) ?_) fun fd => ?_
  · rintro w ⟨hplace, htracked, hfilled⟩ hnone
    have hlt := htracked.fd_lt hfilled.rooted (mem_of_placeOf hplace)
    exact ⟨htracked.add (.regular []) hlt hnone, ⟨hfilled.rooted, hfilled.named, hfilled.files⟩,
      hplace, Function.update_self _ _ _⟩
  · intro e s hs
    exact .inl (hs.mono (fun _ hw => hw.2.1) fun c hc => by rw [hc]; rfl)
  refine Triple.bind (triple_fstat.weaken (fun _ => id) (fun _ _ => id) ?_) fun metadata => ?_
  · intro e s hs
    exact .inr (hs.mono (fun _ hw => hw.isDirty) fun c hc => by rw [hc]; rfl)
  refine Triple.bind (Q := fun _ => Going F fun w => w.disk.metadata fd = some metadata ∧
    Opened T root names done item place fd w) (triple_require (fun _ _ => id) ?_) fun _ => ?_
  · exact fun _ s hs => .inr ((hs.mono fun _ hw => hw.2.isDirty).failed nofun)
  refine (triple_ghost (P := fun (o : { w : World // w.disk.metadata fd = some metadata ∧
    Opened T root names done item place fd w }) w' => w' = o.1) ?_).strengthen
    fun s hs => hs.mono fun w hw => ⟨⟨w, hw⟩, rfl⟩
  rintro ⟨w, hmeta, hopened⟩
  refine Triple.bind ((triple_writePayload (w := w) item.2).weaken ?_ (fun _ _ => id) ?_)
    fun _ => triple_update ?_
  · intro s hs
    rw [hopened.setContent_nil]
    exact hs
  · intro e s hs
    refine .inr (hs.mono ?_ fun c hc => Call.isHarmless_of_isFilling hc)
    rintro w' ⟨content, rfl⟩
    exact hopened.dirty content
  · intro w' hw'
    rw [Disk.metadata, hopened.node, Option.map_some] at hmeta
    obtain rfl := Option.some.inj hmeta
    exact hopened.record hw'

theorem triple_writeAllAssets :
    Triple (Going F fun w => Tracked T w ∧ Branched root [] w) (writeAllAssets F root payloads)
      (fun _ => Going F fun w => Tracked T w ∧
        Filled root (directoryNames payloads) (sortedItems payloads) w)
      (Aborted F T) := by
  refine Triple.bind (Triple.forM (I := fun names => Going F fun w =>
    Tracked T w ∧ Branched root names w) _ (fun names _ _ => triple_makeChild names) []) fun _ => ?_
  have hfiles := Triple.forM (I := fun done => Going F fun w => Tracked T w ∧
    Filled root (directoryNames payloads) done w) (sortedItems payloads)
    (fun _ item _ => triple_writeAsset (T := T) item) []
  refine hfiles.strengthen fun s hs => hs.mono ?_
  rintro w ⟨htracked, hbranched⟩
  refine ⟨htracked, hbranched.rooted, hbranched.named, ?_⟩
  rw [hbranched.files]
  exact .nil

/-! ## The verification -/

/-- The keys of the dictionary stay the descriptors of the children. -/
theorem keys_addExpected {expected expected' : List (ℕ × List PyStr)}
    (h : addExpected expected fd name = some expected') :
    expected'.map Prod.fst = expected.map Prod.fst := by
  rw [addExpected] at h
  split_ifs at h
  obtain rfl := Option.some.inj h
  rw [List.map_map]
  refine List.map_congr_left fun entry _ => ?_
  rw [Function.comp_apply]
  split_ifs with heq
  · exact heq.symm
  · rfl

theorem triple_verifyFile {expected : List (ℕ × List PyStr)}
    (hparent : f.parent = root ∨ f.parent ∈ w.childDirectories) :
    Triple
      (Going F fun w' => w' = w ∧ expected.map Prod.fst = w.childDirectories.map PinnedDirectory.fd)
      (verifyFile F root expected f)
      (fun expected' => Going F fun w' => w' = w ∧
        expected'.map Prod.fst = w.childDirectories.map PinnedDirectory.fd)
      (Failed F (· = w) fun c => c.isHarmless = true) := by
  refine Triple.bind (Q := fun expected' : List (ℕ × List PyStr) => Going F fun w' => w' = w ∧
    expected'.map Prod.fst = w.childDirectories.map PinnedDirectory.fd) ?_ fun expected' => ?_
  · rw [expectFile]
    split_ifs with hroot
    · exact .pure fun _ => id
    · refine triple_orRaise (fun expected' hadd s hs => hs.mono fun w' hw => ?_)
        fun hnone s hs => ?_
      · exact ⟨hw.1, (keys_addExpected hadd).trans hw.2⟩
      · -- the record's directory is a child, so it has its entry in the dictionary
        rw [addExpected, hs.1.2] at hnone
        split_ifs at hnone with hmem
        exact absurd (List.mem_map_of_mem (hparent.resolve_left hroot)) hmem
  refine Triple.bind (triple_fstat.weaken (fun _ => id) (fun _ _ => id) ?_) fun metadata => ?_
  · intro e s hs
    exact hs.mono (fun _ hw => hw.1) fun c hc => by rw [hc]; rfl
  refine triple_world.bind fun w' => Triple.bind (Q := fun _ => Going F fun w' => w' = w ∧
    expected'.map Prod.fst = w.childDirectories.map PinnedDirectory.fd)
    (triple_require (fun _ s hs => hs.mono fun _ hw => hw.2.2) fun _ s hs => ?_)
    fun _ => .pure fun _ => id
  exact (hs.mono fun _ hw => hw.2.2.1).failed nofun

theorem triple_verifyChild {expected : List (ℕ × List PyStr)} (hd : d.fd ∈ expected.map Prod.fst) :
    Triple (Going F (· = w)) (verifyChild expected d) (fun _ => Going F (· = w))
      (Failed F (· = w) fun c => c.isHarmless = true) := by
  refine triple_world.bind fun w' => Triple.bind (Q := fun _ => Going F (· = w))
    (triple_orRaise (fun _ _ s hs => hs.mono fun _ hw => hw.2) fun hnone _ _ => ?_)
    fun names => triple_check
  obtain ⟨entry, hentry, hfd⟩ := List.mem_map.1 hd
  have hne := List.lookup_eq_none_iff.1 hnone entry hentry
  rw [hfd] at hne
  simp at hne

theorem triple_world_eq {raised : Raised → State → Prop} :
    Triple (Going F (· = w)) world (fun w' => Going F fun w'' => w' = w ∧ w'' = w) raised :=
  triple_world.weaken (fun _ => id) (fun _ _ hs => hs.mono fun _ hw => ⟨hw.1.symm.trans hw.2, hw.2⟩)
    fun _ _ => id

theorem triple_verifyCompletedOutput {outputName : PyStr} {parentMetadata : Metadata}
    (hfiles : ∀ f ∈ w.writtenFiles, f.parent = root ∨ f.parent ∈ w.childDirectories) :
    Triple (Going F (· = w)) (verifyCompletedOutput F parentFd outputName parentMetadata root)
      (fun _ => Going F (· = w)) (Failed F (· = w) fun c => c.isHarmless = true) := by
  refine triple_world_eq.bind fun w' => triple_given ?_
  rintro rfl
  refine triple_found.bind fun _ => triple_given fun _ => ?_
  refine triple_found.bind fun _ => triple_given fun _ => ?_
  refine triple_check.bind fun _ => triple_check.bind fun _ => triple_check.bind fun _ => ?_
  refine Triple.bind ((Triple.foldlM (I := fun (expected : List (ℕ × List PyStr)) =>
    Going F fun w => w = w' ∧ expected.map Prod.fst = w'.childDirectories.map PinnedDirectory.fd)
    w'.writtenFiles (fun _ f hf => triple_verifyFile (hfiles f hf)) _).strengthen ?_)
    fun expected => ?_
  · refine fun s hs => hs.mono fun w hw => ⟨hw, ?_⟩
    rw [List.map_map]
    rfl
  · refine (triple_given fun hkeys => Triple.forM (I := fun _ => Going F (· = w')) _
      (fun _ d hd => triple_verifyChild ?_) []).strengthen fun s hs => hs.mono fun _ => And.symm
    rw [hkeys]
    exact List.mem_map_of_mem hd

end ProofFlow.Demo
