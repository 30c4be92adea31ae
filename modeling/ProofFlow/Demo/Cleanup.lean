import ProofFlow.Demo.Steps

/-!
# The records and the cleanup

`Records T extra w`: the table of `w` is that of the target `T` with the recorded entries on it, and
on them the entries `extra`, which the program made but has not recorded yet.  When nothing is
missing from the records (`Tracked`) the cleanup gives the table back as it was; when the newest
entry is missing (`Dirty`) it cannot empty the output directory.
-/

namespace ProofFlow.Demo

open Kit

/-- A directory in which the output's name is free. -/
structure Target where
  disk : Disk
  parentFd : ℕ
  outputName : PyStr
  parent_lt : parentFd < disk.nextInode
  entries_lt : ∀ e ∈ disk.table, e.parent < disk.nextInode ∧ e.inode < disk.nextInode
  absent : disk.table.lookup parentFd outputName = none

/-- The state in which the call starts. -/
def Target.start (T : Target) : State := ⟨⟨T.disk, none, [], []⟩, []⟩

def PinnedDirectory.entry (d : PinnedDirectory) : DirEntry PyStr := ⟨d.parentFd, d.name, d.inode⟩

def PinnedFile.entry (f : PinnedFile) : DirEntry PyStr := ⟨f.parent.fd, f.name, f.inode⟩

/-- The recorded entries, the newest first. -/
def World.recorded (w : World) : DirTable PyStr :=
  (w.writtenFiles.map PinnedFile.entry).reverse ++
    ((w.childDirectories.map PinnedDirectory.entry).reverse ++
      (w.root.map PinnedDirectory.entry).toList)

/-- The record describes a directory of the disk. -/
structure PinnedDirectory.Valid (d : PinnedDirectory) (disk : Disk) : Prop where
  fd : d.fd = d.inode
  device : d.device = disk.device
  node : disk.node d.inode = some .directory

/-- The record describes a file of the disk with the expected content. -/
structure PinnedFile.Valid (f : PinnedFile) (disk : Disk) : Prop where
  fd : f.fd = f.inode
  device : f.device = disk.device
  node : disk.node f.inode = some (.regular f.expectedPayload)

variable {T : Target} {w : World} {disk : Disk} {extra base l : DirTable PyStr} {x : DirEntry PyStr}
  {d root : PinnedDirectory} {f : PinnedFile} {parentFd : ℕ} {name : PyStr}

/-- The table consists of the target's entries, the recorded ones and `extra`. -/
structure Records (T : Target) (extra : DirTable PyStr) (w : World) : Prop where
  table : w.disk.table = extra ++ w.recorded ++ T.disk.table
  stacked : DirTable.Stacked T.disk.table (extra ++ w.recorded)
  entries_lt : ∀ e ∈ w.disk.table, e.parent < w.disk.nextInode ∧ e.inode < w.disk.nextInode
  parent_lt : T.parentFd < w.disk.nextInode
  root : ∀ r ∈ w.root, r.parentFd = T.parentFd ∧ r.name = T.outputName ∧ r.Valid w.disk
  children : ∀ d ∈ w.childDirectories, (∃ r ∈ w.root, d.parentFd = r.fd) ∧ d.Valid w.disk
  files : ∀ f ∈ w.writtenFiles, (f.parent ∈ w.root ∨ f.parent ∈ w.childDirectories) ∧ f.Valid w.disk

/-- The program has recorded everything it made. -/
abbrev Tracked (T : Target) (w : World) : Prop := Records T [] w

/-- The newest entry is in a recorded directory, or it is the output itself. -/
def Hangs (T : Target) (w : World) (x : DirEntry PyStr) : Prop :=
  w.root = none ∧ x.parent = T.parentFd ∧ x.name = T.outputName ∨
    ∃ r ∈ w.root, x.parent = r.inode ∨ ∃ d ∈ w.childDirectories, x.parent = d.inode

/-- The program has made an entry that it has not recorded. -/
def Dirty (T : Target) (w : World) : Prop := ∃ x, Records T [x] w ∧ Hangs T w x

/-! ## The recorded entries -/

theorem mem_recorded_file (hf : f ∈ w.writtenFiles) : f.entry ∈ w.recorded :=
  List.mem_append_left _ (List.mem_reverse.2 (List.mem_map_of_mem hf))

theorem mem_recorded_child (hd : d ∈ w.childDirectories) : d.entry ∈ w.recorded :=
  List.mem_append_right _ (List.mem_append_left _ (List.mem_reverse.2 (List.mem_map_of_mem hd)))

theorem mem_recorded_root (hr : root ∈ w.root) : root.entry ∈ w.recorded := by
  rw [World.recorded, Option.mem_def.1 hr]
  simp

/-- A world without a root has no records. -/
theorem Records.rootless (h : Records T extra w) (hroot : w.root = none) :
    w.childDirectories = [] ∧ w.writtenFiles = [] := by
  have hchildren : w.childDirectories = [] := List.eq_nil_iff_forall_not_mem.2 fun d hd => by
    obtain ⟨⟨r, hr, -⟩, -⟩ := h.children d hd
    rw [hroot] at hr
    cases hr
  refine ⟨hchildren, List.eq_nil_iff_forall_not_mem.2 fun f hf => ?_⟩
  rcases (h.files f hf).1 with hr | hd
  · rw [hroot] at hr
    cases hr
  · rw [hchildren] at hd
    cases hd

/-! ## Matching entries -/

/-- An entry matches its record. -/
theorem entryMatches_of_lookup {n : Node} {inode : ℕ}
    (hl : disk.table.lookup parentFd name = some inode) (hn : disk.node inode = some n) :
    entryMatches disk parentFd name disk.device inode n.mode = true := by
  simp [entryMatches, Disk.stat, hl, Disk.metadata, hn]

/-! ## Nothing is missing -/

theorem removeFile_newest (ht : disk.table = f.entry :: l ++ base)
    (hs : DirTable.Stacked base (f.entry :: l)) (hf : f.Valid disk) :
    removeFile disk f = { disk with table := l ++ base } := by
  have hl : disk.table.lookup f.entry.parent f.entry.name = some f.entry.inode := by
    rw [ht]
    exact hs.lookup_eq List.mem_cons_self
  have hmatch : entryMatches disk f.parent.fd f.name f.device f.inode .regular = true := by
    rw [hf.device]
    exact entryMatches_of_lookup hl hf.node
  rw [removeFile, if_pos hmatch, Disk.unlink, ht]
  exact congrArg (fun t => { disk with table := t }) hs.remove_newest

theorem removeDirectory_newest (ht : disk.table = d.entry :: l ++ base)
    (hs : DirTable.Stacked base (d.entry :: l)) (hd : d.Valid disk) :
    removeDirectory d.parentFd disk d = { disk with table := l ++ base } := by
  have hl : disk.table.lookup d.entry.parent d.entry.name = some d.entry.inode := by
    rw [ht]
    exact hs.lookup_eq List.mem_cons_self
  have hmatch : entryMatches disk d.parentFd d.name d.device d.inode .directory = true := by
    rw [hd.device]
    exact entryMatches_of_lookup hl hd.node
  have hempty : disk.table.isEmptyAt d.entry.inode = true := by
    rw [ht]
    exact hs.isEmptyAt_newest
  have hrmdir : disk.rmdir d.parentFd d.name = disk.unlink d.parentFd d.name := by
    simp only [Disk.rmdir]
    split
    · rename_i hnone
      exact absurd (hnone.symm.trans hl) nofun
    · rename_i inode hinode
      obtain rfl := Option.some.inj (hl.symm.trans hinode)
      exact if_pos hempty
  rw [removeDirectory, if_pos hmatch, hrmdir, Disk.unlink, ht]
  exact congrArg (fun t => { disk with table := t }) hs.remove_newest

theorem foldl_removeFile (files : List PinnedFile)
    (ht : disk.table = files.map PinnedFile.entry ++ l ++ base)
    (hs : DirTable.Stacked base (files.map PinnedFile.entry ++ l))
    (hf : ∀ f ∈ files, f.Valid disk) :
    files.foldl removeFile disk = { disk with table := l ++ base } := by
  induction files generalizing disk with
  | nil => rw [← show disk.table = l ++ base from ht]; rfl
  | cons f files ih =>
    rw [List.foldl_cons, removeFile_newest ht hs (hf f List.mem_cons_self)]
    refine ih rfl hs.2 fun g hg => ?_
    have hg := hf g (List.mem_cons_of_mem _ hg)
    exact ⟨hg.fd, hg.device, hg.node⟩

theorem foldl_removeDirectory (directories : List PinnedDirectory)
    (ht : disk.table = directories.map PinnedDirectory.entry ++ l ++ base)
    (hs : DirTable.Stacked base (directories.map PinnedDirectory.entry ++ l))
    (hd : ∀ d ∈ directories, d.parentFd = parentFd ∧ d.Valid disk) :
    directories.foldl (removeDirectory parentFd) disk = { disk with table := l ++ base } := by
  induction directories generalizing disk with
  | nil => rw [← show disk.table = l ++ base from ht]; rfl
  | cons d directories ih =>
    obtain ⟨rfl, hvalid⟩ := hd d List.mem_cons_self
    rw [List.foldl_cons, removeDirectory_newest ht hs hvalid]
    refine ih rfl hs.2 fun g hg => ?_
    obtain ⟨hparent, hg⟩ := hd g (List.mem_cons_of_mem _ hg)
    exact ⟨hparent, hg.fd, hg.device, hg.node⟩

/-- The cleanup of a world in which everything is recorded gives the target's table back. -/
theorem table_cleanup_of_tracked (h : Tracked T w) :
    (cleanupOwnedEntries T.parentFd w).table = T.disk.table := by
  have ht := h.table
  have hs := h.stacked
  rw [List.nil_append, World.recorded, ← List.map_reverse, ← List.map_reverse] at ht hs
  have hfiles := foldl_removeFile w.writtenFiles.reverse ht hs fun f hf =>
    (h.files f (List.mem_reverse.1 hf)).2
  rw [cleanupOwnedEntries]
  cases hroot : w.root with
  | none =>
    rw [hfiles, (h.rootless hroot).1, hroot]
    rfl
  | some root =>
    rw [hroot] at hfiles hs
    obtain ⟨hparent, -, hvalid⟩ := h.root root hroot
    have hchildren : w.childDirectories.reverse.foldl (removeDirectory root.fd)
        { w.disk with table := w.childDirectories.reverse.map PinnedDirectory.entry ++
          [root.entry] ++
          T.disk.table } = { w.disk with table := [root.entry] ++ T.disk.table } := by
      refine foldl_removeDirectory _ rfl hs.of_append fun d hd => ?_
      obtain ⟨⟨r, hr, hparent⟩, hd⟩ := h.children d (List.mem_reverse.1 hd)
      obtain rfl := Option.some.inj (hroot.symm.trans hr)
      exact ⟨hparent, hd.fd, hd.device, hd.node⟩
    have hlast : removeDirectory root.parentFd
        { w.disk with table := root.entry :: [] ++ T.disk.table } root =
          { w.disk with table := [] ++ T.disk.table } :=
      removeDirectory_newest rfl hs.of_append.of_append ⟨hvalid.fd, hvalid.device, hvalid.node⟩
    rw [hparent] at hlast
    simp only [hfiles, Option.map_some, Option.toList_some, hchildren]
    exact (congrArg Disk.table hlast).trans rfl

/-! ## The newest entry is missing -/

theorem removeFile_cases (disk : Disk) (f : PinnedFile) :
    removeFile disk f = disk ∨ removeFile disk f = disk.unlink f.parent.fd f.name := by
  rw [removeFile]
  split
  · exact .inr rfl
  · exact .inl rfl

/-- A directory is removed only if it is empty. -/
theorem removeDirectory_cases (parentFd : ℕ) (disk : Disk) (d : PinnedDirectory) :
    removeDirectory parentFd disk d = disk ∨
      disk.table.isEmptyAt d.inode = true ∧
        removeDirectory parentFd disk d = disk.unlink parentFd d.name := by
  rw [removeDirectory]
  split
  · rename_i hmatch
    rcases hl : disk.table.lookup parentFd d.name with _ | inode
    · exact .inl (by rw [Disk.rmdir, hl])
    have hinode : inode = d.inode := by
      simp only [entryMatches, Disk.stat, hl, Option.bind_some, Disk.metadata] at hmatch
      cases hn : disk.node inode <;> simp [hn] at hmatch
      exact hmatch.1.2
    have hrmdir : disk.rmdir parentFd d.name =
        if disk.table.isEmptyAt d.inode then disk.unlink parentFd d.name else disk := by
      rw [Disk.rmdir, hl, ← hinode]
    rw [hrmdir]
    split
    · rename_i hempty
      exact .inr ⟨hempty, rfl⟩
    · exact .inl rfl
  · exact .inl rfl

/-- The root, the entry that is not recorded and the directory between them. -/
def Upheld (w : World) (root : PinnedDirectory) (x : DirEntry PyStr) (disk : Disk) : Prop :=
  root.entry ∈ disk.table ∧ x ∈ disk.table ∧ (x.parent = root.inode ∨
    ∃ d ∈ w.childDirectories, d.parentFd = root.inode ∧ d.entry ∈ disk.table ∧ x.parent = d.inode)

theorem Upheld.unlink (h : Upheld w root x disk) (hroot : root.entry.isAt parentFd name = false)
    (hx : x.isAt parentFd name = false)
    (hd : ∀ d ∈ w.childDirectories, x.parent = d.inode → d.entry.isAt parentFd name = false) :
    Upheld w root x (disk.unlink parentFd name) := by
  obtain ⟨hr, hmem, hup⟩ := h
  refine ⟨DirTable.mem_remove.2 ⟨hr, hroot⟩, DirTable.mem_remove.2 ⟨hmem, hx⟩, hup.imp_right ?_⟩
  rintro ⟨d, hdmem, hparent, hentry, hxd⟩
  exact ⟨d, hdmem, hparent, DirTable.mem_remove.2 ⟨hentry, hd d hdmem hxd⟩, hxd⟩

/-- The root's directory is not empty. -/
theorem Upheld.not_isEmptyAt (h : Upheld w root x disk) :
    disk.table.isEmptyAt root.inode = false := by
  rw [Bool.eq_false_iff, ne_eq, DirTable.isEmptyAt_iff]
  intro hempty
  obtain ⟨-, hx, hparent | ⟨d, -, hparent, hd, -⟩⟩ := h
  · exact hempty x hx hparent
  · exact hempty _ hd hparent

/-- The entry that is not recorded has a name of its own. -/
theorem Records.extra_not_at (h : Records T [x] w) {e : DirEntry PyStr} (he : e ∈ w.recorded) :
    x.isAt e.parent e.name = false := by
  rw [Bool.eq_false_iff, ne_eq, DirEntry.isAt_comm, ← ne_eq, ← Bool.eq_false_iff]
  exact h.stacked.1.free e (List.mem_append_left _ he)

/-- A file has another name than the directories. -/
theorem Records.not_at_file (h : Records T extra w) (hf : f ∈ w.writtenFiles)
    (hd : d ∈ w.root ∨ d ∈ w.childDirectories) : d.entry.isAt f.parent.fd f.name = false := by
  refine (h.stacked.of_append.fresh_of_append (x := f.entry)
    (List.mem_reverse.2 (List.mem_map_of_mem hf)) (List.mem_append_left _ ?_)).1
  rcases hd with hr | hd
  · rw [Option.mem_def.1 hr]
    exact List.mem_append_right _ List.mem_cons_self
  · exact List.mem_append_left _ (List.mem_reverse.2 (List.mem_map_of_mem hd))

/-- A child directory has another name than the root. -/
theorem Records.root_not_at_child (h : Records T extra w) (hd : d ∈ w.childDirectories)
    (hr : root ∈ w.root) : root.entry.isAt d.parentFd d.name = false := by
  refine (h.stacked.of_append.of_append.fresh_of_append (x := d.entry)
    (List.mem_reverse.2 (List.mem_map_of_mem hd)) (List.mem_append_left _ ?_)).1
  rw [Option.mem_def.1 hr]
  exact List.mem_cons_self

theorem Upheld.removeFile (h : Records T [x] w) (hr : root ∈ w.root) (hf : f ∈ w.writtenFiles)
    (hup : Upheld w root x disk) : Upheld w root x (removeFile disk f) := by
  rcases removeFile_cases disk f with heq | heq <;> rw [heq]
  · exact hup
  · exact hup.unlink (h.not_at_file hf (.inl hr)) (h.extra_not_at (mem_recorded_file hf))
      fun d hd _ => h.not_at_file hf (.inr hd)

theorem Upheld.removeDirectory (h : Records T [x] w) (hr : root ∈ w.root)
    (hd : d ∈ w.childDirectories) (hup : Upheld w root x disk) :
    Upheld w root x (removeDirectory d.parentFd disk d) := by
  rcases removeDirectory_cases d.parentFd disk d with heq | ⟨hempty, heq⟩ <;> rw [heq]
  · exact hup
  refine hup.unlink (h.root_not_at_child hd hr) (h.extra_not_at (mem_recorded_child hd)) ?_
  intro d' hd' hx
  rw [Bool.eq_false_iff]
  intro hat
  -- the directory that holds the entry is not empty
  have heq : d'.entry = d.entry := h.stacked.2.eq_of_isAt (mem_recorded_child hd)
    (List.mem_append_left _ (mem_recorded_child hd')) hat
  have hinode : d'.inode = d.inode := congrArg DirEntry.inode heq
  exact DirTable.isEmptyAt_iff.1 hempty x hup.2.1 (hx.trans hinode)

/-- The output stays when an entry below it is missing from the records. -/
theorem lookup_cleanup_of_dirty (h : Dirty T w) :
    (cleanupOwnedEntries T.parentFd w).table.lookup T.parentFd T.outputName ≠ none := by
  obtain ⟨x, h, ⟨hroot, hparent, hname⟩ | ⟨root, hr, hx⟩⟩ := h
  · obtain ⟨hchildren, hfiles⟩ := h.rootless hroot
    have hclean : cleanupOwnedEntries T.parentFd w = w.disk := by
      simp [cleanupOwnedEntries, hfiles, hroot]
    rw [hclean, ← hparent, ← hname]
    refine DirTable.lookup_ne_none ?_
    rw [h.table]
    exact List.mem_cons_self
  · obtain ⟨hparent, hname, hvalid⟩ := h.root root hr
    have hmem : ∀ {e}, e ∈ w.recorded → e ∈ w.disk.table := fun he => by
      rw [h.table]
      exact List.mem_append_left _ (List.mem_append_right _ he)
    have hchild : ∀ d ∈ w.childDirectories, d.parentFd = root.fd := fun d hd => by
      obtain ⟨⟨r, hr', hd'⟩, -⟩ := h.children d hd
      obtain rfl := Option.some.inj (hr.symm.trans hr')
      exact hd'
    have hstart : Upheld w root x w.disk := by
      refine ⟨hmem (mem_recorded_root hr), ?_, hx.imp_right ?_⟩
      · rw [h.table]
        exact List.mem_cons_self
      · exact fun ⟨d, hd, hxd⟩ =>
          ⟨d, hd, (hchild d hd).trans hvalid.fd, hmem (mem_recorded_child hd), hxd⟩
    have hfiles : Upheld w root x (w.writtenFiles.reverse.foldl Demo.removeFile w.disk) :=
      List.foldlRecOn _ _ hstart fun _ hup f hf => hup.removeFile h hr (List.mem_reverse.1 hf)
    have hdirs : Upheld w root x (w.childDirectories.reverse.foldl (Demo.removeDirectory root.fd)
        (w.writtenFiles.reverse.foldl Demo.removeFile w.disk)) := by
      refine List.foldlRecOn _ _ hfiles fun _ hup d hd => ?_
      rw [← hchild d (List.mem_reverse.1 hd)]
      exact hup.removeDirectory h hr (List.mem_reverse.1 hd)
    rw [cleanupOwnedEntries, Option.mem_def.1 hr]
    have hkeep := removeDirectory_cases T.parentFd
      (w.childDirectories.reverse.foldl (Demo.removeDirectory root.fd)
        (w.writtenFiles.reverse.foldl Demo.removeFile w.disk)) root
    rw [hdirs.not_isEmptyAt] at hkeep
    have hlast := hkeep.resolve_right fun hempty => nomatch hempty.1
    simp only [hlast]
    rw [← hparent, ← hname]
    exact DirTable.lookup_ne_none hdirs.1

end ProofFlow.Demo
