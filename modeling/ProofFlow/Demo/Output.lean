import ProofFlow.Demo.Install
import ProofFlow.Kit.Traversal

/-!
# The installed files

When everything is recorded and all items are written, the paths below the output lead to the assets
with their bytes, to the directories on the way to them, and to nothing else.
-/

namespace ProofFlow.Demo

open Kit

variable {T : Target} {w : World} {d root : PinnedDirectory} {f : PinnedFile}
  {name : PyStr} {payloads : List (PyStr × Bytes)} {inode : ℕ} {path : List PyStr}

/-- The body has written all items, and everything is recorded. -/
structure Complete (T : Target) (payloads : List (PyStr × Bytes)) (root : PinnedDirectory)
    (w : World) : Prop where
  tracked : Tracked T w
  filled : Filled root (directoryNames payloads) (sortedItems payloads) w

/-- The directory `name` holds exactly the assets. -/
structure Installed (disk : Disk) (parentFd : ℕ) (name : PyStr) (assets : List (PyStr × Bytes)) :
    Prop where
  output : disk.nodeAt parentFd [name] = some .directory
  present : ∀ asset ∈ assets,
    disk.nodeAt parentFd (name :: posixParts asset.1) = some (.regular asset.2)
  only : ∀ path n, disk.nodeAt parentFd (name :: path) = some n →
    (∃ asset ∈ assets, posixParts asset.1 = path ∧ n = .regular asset.2) ∨
      n = .directory ∧ (path = [] ∨ ∃ asset ∈ assets, path <+: posixParts asset.1)

/-! ## The records of a directory -/

theorem Records.lookup_root (h : Tracked T w) (hr : w.root = some root) :
    w.disk.table.lookup T.parentFd T.outputName = some root.inode := by
  obtain ⟨hparent, hname, -⟩ := h.root root hr
  rw [h.table, ← hparent, ← hname]
  exact h.stacked.lookup_eq (x := root.entry) (mem_recorded_root hr)

theorem Records.lookup_child (h : Tracked T w) (hd : d ∈ w.childDirectories) :
    w.disk.table.lookup d.parentFd d.name = some d.inode := by
  rw [h.table]
  exact h.stacked.lookup_eq (x := d.entry) (mem_recorded_child hd)

theorem Records.lookup_file (h : Tracked T w) (hf : f ∈ w.writtenFiles) :
    w.disk.table.lookup f.parent.fd f.name = some f.inode := by
  rw [h.table]
  exact h.stacked.lookup_eq (x := f.entry) (mem_recorded_file hf)

/-- The output is in none of the recorded objects. -/
theorem Records.parentFd_ne (h : Tracked T w) (hr : w.root = some root) {x : DirEntry PyStr}
    (hx : x ∈ w.recorded) : T.parentFd ≠ x.inode := by
  rw [← (h.root root hr).1]
  have hroot : World.recorded w = ((w.writtenFiles.map PinnedFile.entry).reverse ++
      (w.childDirectories.map PinnedDirectory.entry).reverse) ++ [root.entry] := by
    rw [World.recorded, hr, List.append_assoc]
    rfl
  have hs : DirTable.Stacked T.disk.table w.recorded := h.stacked
  rw [hroot] at hs hx
  rcases List.mem_append.1 hx with hx | hx
  · exact (hs.fresh_of_append hx (List.mem_append_left _ List.mem_cons_self)).2.1
  · obtain rfl := List.mem_singleton.1 hx
    exact hs.own (List.mem_append_right _ List.mem_cons_self)

/-- What a recorded object holds is recorded. -/
theorem Records.of_lookup (h : Tracked T w) (hr : w.root = some root) {x : DirEntry PyStr}
    (hx : x ∈ w.recorded) (hl : w.disk.table.lookup x.inode name = some inode) :
    (∃ f ∈ w.writtenFiles, f.parent.fd = x.inode ∧ f.name = name ∧ f.inode = inode) ∨
      root.fd = x.inode ∧ ∃ c ∈ w.childDirectories, c.name = name ∧ c.inode = inode := by
  rw [h.table] at hl
  have hmem : ⟨x.inode, name, inode⟩ ∈ w.recorded := h.stacked.mem_of_lookup hx hl
  rcases List.mem_append.1 hmem with hmem | hmem
  · obtain ⟨f, hf, heq⟩ := List.mem_map.1 (List.mem_reverse.1 hmem)
    exact .inl ⟨f, hf, congrArg DirEntry.parent heq, congrArg DirEntry.name heq,
      congrArg DirEntry.inode heq⟩
  rcases List.mem_append.1 hmem with hmem | hmem
  · obtain ⟨c, hc, heq⟩ := List.mem_map.1 (List.mem_reverse.1 hmem)
    obtain ⟨r, hr', hparent⟩ := (h.children c hc).1
    obtain rfl := Option.some.inj (hr.symm.trans hr')
    exact .inr ⟨hparent.symm.trans (congrArg DirEntry.parent heq), c, hc,
      congrArg DirEntry.name heq, congrArg DirEntry.inode heq⟩
  · rw [hr] at hmem
    have heq := List.mem_singleton.1 hmem
    refine absurd ?_ (h.parentFd_ne hr hx)
    rw [← (h.root root hr).1]
    exact (congrArg DirEntry.parent heq).symm

/-- The descriptors of the recorded directories are different. -/
theorem Records.eq_of_fd (h : Tracked T w) {c : PinnedDirectory}
    (hc : c ∈ w.root ∨ c ∈ w.childDirectories) (hd : d ∈ w.root ∨ d ∈ w.childDirectories)
    (heq : c.fd = d.fd) : c = d := by
  have valid : ∀ {e : PinnedDirectory}, e ∈ w.root ∨ e ∈ w.childDirectories →
      e.Valid w.disk ∧ e.entry ∈ w.recorded := fun he => he.elim
    (fun hr => ⟨(h.root _ hr).2.2, mem_recorded_root hr⟩)
    fun hchild => ⟨(h.children _ hchild).2, mem_recorded_child hchild⟩
  obtain ⟨hvc, hmc⟩ := valid hc
  obtain ⟨hvd, hmd⟩ := valid hd
  have hinode : c.inode = d.inode := by rw [← hvc.fd, heq, hvd.fd]
  have hentry : c.entry = d.entry := h.stacked.eq_of_inode hmd hmc hinode
  cases c
  cases d
  obtain ⟨rfl, rfl, -⟩ := DirEntry.mk.inj hentry
  obtain rfl := hinode
  obtain rfl := heq
  obtain rfl := hvc.device.trans hvd.device.symm
  rfl

/-- A file holds nothing. -/
theorem Records.lookup_in_file (h : Tracked T w) (hr : w.root = some root)
    (hf : f ∈ w.writtenFiles) :
    w.disk.table.lookup f.inode name = none := by
  rcases hl : w.disk.table.lookup f.inode name with _ | inode
  · rfl
  have hnode := (h.files f hf).2.node
  -- a directory with the inode of a file
  have contra : ∀ {e : PinnedDirectory}, e ∈ w.root ∨ e ∈ w.childDirectories → e.fd ≠ f.inode := by
    intro e he hfd
    have hvalid : e.Valid w.disk :=
      he.elim (fun hr => (h.root e hr).2.2) fun hd => (h.children e hd).2
    rw [← hfd, hvalid.fd, hvalid.node] at hnode
    cases hnode
  rcases h.of_lookup hr (x := f.entry) (mem_recorded_file hf) hl with ⟨f', hf', hparent, -⟩ | ⟨hfd,
    -⟩
  · exact absurd hparent (contra (h.files f' hf').1)
  · exact absurd hfd (contra (.inl hr))

/-! ## Following a path -/

theorem resolve_cons {t : DirTable PyStr} {start : ℕ} (h : t.lookup start name = some inode)
    (path : List PyStr) : t.resolve start (name :: path) = t.resolve inode path := by
  rw [DirTable.resolve, h, Option.bind_some]

/-- A path to a file ends there. -/
theorem Records.nodeAt_file (h : Tracked T w) (hr : w.root = some root) (hf : f ∈ w.writtenFiles)
    {n : Node} (hn : w.disk.nodeAt f.inode path = some n) :
    path = [] ∧ n = .regular f.expectedPayload := by
  cases path with
  | nil => exact ⟨rfl, (Option.some.inj ((h.files f hf).2.node.symm.trans hn)).symm⟩
  | cons name path =>
    rw [Disk.nodeAt, DirTable.resolve, h.lookup_in_file hr hf] at hn
    cases hn

theorem placeOf_root {children : List PinnedDirectory} {parts : List PyStr}
    (h : placeOf root children parts = some (root, name)) (hroot : root ∉ children) :
    parts = [name] := by
  unfold placeOf at h
  split at h
  · rw [(Prod.mk.inj (Option.some.inj h)).2]
  · obtain ⟨d, hd, heq⟩ := Option.map_eq_some_iff.1 h
    obtain ⟨rfl, -⟩ := Prod.mk.inj heq
    exact absurd (List.mem_of_find?_eq_some hd) hroot
  · cases h

theorem placeOf_child {children : List PinnedDirectory} {parts : List PyStr}
    (h : placeOf root children parts = some (d, name)) (hd : d ≠ root) :
    parts = [d.name, name] := by
  unfold placeOf at h
  split at h
  · exact absurd (Prod.mk.inj (Option.some.inj h)).1.symm hd
  · obtain ⟨c, hc, heq⟩ := Option.map_eq_some_iff.1 h
    obtain ⟨rfl, rfl⟩ := Prod.mk.inj heq
    have hname := List.find?_some hc
    rw [decide_eq_true_eq] at hname
    rw [hname]
  · cases h

theorem mem_directoryNames : name ∈ directoryNames payloads ↔
    ∃ item ∈ payloads, directoryPart (posixParts item.1) = some name := by
  rw [directoryNames, (List.perm_insertionSort _ _).mem_iff, List.mem_dedup, List.mem_filterMap]

theorem mem_sortedItems {item : PyStr × Bytes} : item ∈ sortedItems payloads ↔ item ∈ payloads :=
  (List.perm_insertionSort _ _).mem_iff

theorem directoryPart_eq_some {parts : List PyStr} (h : directoryPart parts = some name) :
    ∃ filename, parts = [name, filename] := by
  unfold directoryPart at h
  split at h
  · obtain rfl := Option.some.inj h
    exact ⟨_, rfl⟩
  · cases h

section Complete

variable (h : Complete T payloads root w)
include h

theorem Complete.root_notMem : root ∉ w.childDirectories := fun hmem => by
  obtain ⟨⟨r, hr, hparent⟩, hvalid⟩ := h.tracked.children root hmem
  obtain rfl := Option.some.inj (h.filled.rooted.symm.trans hr)
  exact h.tracked.stacked.own (mem_recorded_child hmem) (hparent.trans hvalid.fd)

/-- The item of a record. -/
theorem Complete.item_of_file (hf : f ∈ w.writtenFiles) :
    ∃ item ∈ payloads, IsWritten root w.childDirectories f item := by
  obtain ⟨item, hitem, hwritten⟩ := exists_of_mem_forall₂ h.filled.files hf
  exact ⟨item, mem_sortedItems.1 hitem, hwritten⟩

/-- The record of an item. -/
theorem Complete.file_of_item {item : PyStr × Bytes} (hitem : item ∈ payloads) :
    ∃ f ∈ w.writtenFiles, IsWritten root w.childDirectories f item :=
  exists_of_mem_forall₂ h.filled.files.flip (mem_sortedItems.2 hitem)

/-- The path of a record below the output leads to it. -/
theorem Complete.resolve_file {item : PyStr × Bytes} (hf : f ∈ w.writtenFiles)
    (hwritten : IsWritten root w.childDirectories f item) :
    w.disk.table.resolve root.inode (posixParts item.1) = some f.inode := by
  have hlookup := h.tracked.lookup_file hf
  rcases mem_of_placeOf hwritten.1 with hroot | hchild
  · replace hroot : f.parent = root := hroot
    rw [hroot, (h.tracked.root root h.filled.rooted).2.2.fd] at hlookup
    have hplace := hwritten.1
    rw [hroot] at hplace
    rw [placeOf_root hplace h.root_notMem, resolve_cons hlookup]
    rfl
  · have hne : f.parent ≠ root := fun heq => h.root_notMem (heq ▸ hchild)
    obtain ⟨⟨r, hr, hparent⟩, hvalid⟩ := h.tracked.children f.parent hchild
    obtain rfl := Option.some.inj (h.filled.rooted.symm.trans hr)
    have hdir := h.tracked.lookup_child hchild
    rw [hparent, (h.tracked.root root h.filled.rooted).2.2.fd] at hdir
    rw [hvalid.fd] at hlookup
    rw [placeOf_child hwritten.1 hne, resolve_cons hdir, resolve_cons hlookup]
    rfl

/-- The path of a child leads towards an asset. -/
theorem Complete.child_prefix (hd : d ∈ w.childDirectories) :
    ∃ item ∈ payloads, [d.name] <+: posixParts item.1 := by
  have hmem : d.name ∈ directoryNames payloads := by
    rw [← h.filled.named]
    exact List.mem_map_of_mem hd
  obtain ⟨item, hitem, hpart⟩ := mem_directoryNames.1 hmem
  obtain ⟨filename, hparts⟩ := directoryPart_eq_some hpart
  exact ⟨item, hitem, hparts ▸ ⟨[filename], rfl⟩⟩

/-- What is found in a child is a file. -/
theorem Complete.nodeAt_child (hd : d ∈ w.childDirectories) {n : Node}
    (hn : w.disk.nodeAt d.inode path = some n) :
    path = [] ∧ n = .directory ∨
      ∃ f ∈ w.writtenFiles, f.parent = d ∧ path = [f.name] ∧ n = .regular f.expectedPayload := by
  have hvalid := (h.tracked.children d hd).2
  cases path with
  | nil => exact .inl ⟨rfl, (Option.some.inj (hvalid.node.symm.trans hn)).symm⟩
  | cons name path =>
    rcases hl : w.disk.table.lookup d.inode name with _ | inode
    · rw [Disk.nodeAt, DirTable.resolve, hl] at hn
      cases hn
    rw [Disk.nodeAt, resolve_cons hl] at hn
    rcases h.tracked.of_lookup h.filled.rooted (x := d.entry) (mem_recorded_child hd) hl with
      ⟨f, hf, hparent, rfl, rfl⟩ | ⟨hfd, -⟩
    · obtain ⟨rfl, rfl⟩ := h.tracked.nodeAt_file h.filled.rooted hf hn
      refine .inr ⟨f, hf, ?_, rfl, rfl⟩
      exact h.tracked.eq_of_fd (h.tracked.files f hf).1 (.inr hd) (hparent.trans hvalid.fd.symm)
    · have heq := h.tracked.eq_of_fd (.inl h.filled.rooted) (.inr hd) (hfd.trans hvalid.fd.symm)
      exact absurd (heq ▸ hd) h.root_notMem

/-- What is found below the output. -/
theorem Complete.nodeAt_root {n : Node} (hn : w.disk.nodeAt root.inode path = some n) :
    (∃ asset ∈ payloads, posixParts asset.1 = path ∧ n = .regular asset.2) ∨
      n = .directory ∧ (path = [] ∨ ∃ asset ∈ payloads, path <+: posixParts asset.1) := by
  have hvalid := (h.tracked.root root h.filled.rooted).2.2
  cases path with
  | nil => exact .inr ⟨(Option.some.inj (hvalid.node.symm.trans hn)).symm, .inl rfl⟩
  | cons name path =>
    rcases hl : w.disk.table.lookup root.inode name with _ | inode
    · rw [Disk.nodeAt, DirTable.resolve, hl] at hn
      cases hn
    rw [Disk.nodeAt, resolve_cons hl] at hn
    rcases h.tracked.of_lookup h.filled.rooted (x := root.entry)
      (mem_recorded_root h.filled.rooted) hl with
      ⟨f, hf, hparent, rfl, rfl⟩ | ⟨-, d, hd, rfl, rfl⟩
    · obtain ⟨rfl, rfl⟩ := h.tracked.nodeAt_file h.filled.rooted hf hn
      obtain ⟨item, hitem, hplace, hpayload⟩ := h.item_of_file hf
      have hroot : f.parent = root := h.tracked.eq_of_fd (h.tracked.files f hf).1
        (.inl h.filled.rooted) (hparent.trans hvalid.fd.symm)
      rw [hroot] at hplace
      exact .inl ⟨item, hitem, placeOf_root hplace h.root_notMem, by rw [hpayload]⟩
    · rcases h.nodeAt_child hd hn with ⟨rfl, rfl⟩ | ⟨f, hf, rfl, rfl, rfl⟩
      · exact .inr ⟨rfl, .inr (h.child_prefix hd)⟩
      · obtain ⟨item, hitem, hplace, hpayload⟩ := h.item_of_file hf
        have hne : f.parent ≠ root := fun heq => h.root_notMem (heq ▸ hd)
        exact .inl ⟨item, hitem, placeOf_child hplace hne, by rw [hpayload]⟩

theorem Complete.nodeAt_output (path : List PyStr) :
    w.disk.nodeAt T.parentFd (T.outputName :: path) = w.disk.nodeAt root.inode path := by
  rw [Disk.nodeAt, Disk.nodeAt, resolve_cons (h.tracked.lookup_root h.filled.rooted)]

/-- The output holds exactly the assets. -/
theorem Complete.installed : Installed w.disk T.parentFd T.outputName payloads where
  output := by
    rw [h.nodeAt_output]
    exact (h.tracked.root root h.filled.rooted).2.2.node
  present item hitem := by
    obtain ⟨f, hf, hwritten⟩ := h.file_of_item hitem
    rw [h.nodeAt_output, Disk.nodeAt, h.resolve_file hf hwritten, Option.bind_some,
      (h.tracked.files f hf).2.node, hwritten.2]
  only path n hn := by
    rw [h.nodeAt_output] at hn
    exact h.nodeAt_root hn

end Complete

end ProofFlow.Demo
