import ProofFlow.Demo.Output

/-!
# What a call leaves behind

A call that returns has installed exactly the assets.  A call in which a system call failed raises a
`DemoInitializationError`; it leaves no output exactly when the failed call is one of those after
which the records are complete.
-/

namespace ProofFlow.Demo

open Kit

variable {F : Faults} {T : Target} {w : World} {d root : PinnedDirectory} {f : PinnedFile}
  {name : PyStr} {payloads : List (PyStr × Bytes)} {inode : ℕ}

theorem tracked_start (T : Target) : Tracked T T.start.world where
  table := rfl
  stacked := trivial
  entries_lt := T.entries_lt
  parent_lt := T.parent_lt
  root _ hr := nomatch hr
  children _ hd := nomatch hd
  files _ hf := nomatch hf

theorem triple_installDemo :
    Triple (Going F (· = T.start.world)) (installDemo F payloads T.parentFd T.outputName)
      (fun _ => Going F fun w => ∃ root, Complete T payloads root w) (Aborted F T) := by
  refine Triple.bind (triple_fstat.weaken (fun _ => id) (fun _ _ => id) ?_) fun parentMetadata => ?_
  · intro e s hs
    refine .inl (hs.mono ?_ fun c hc => by rw [hc]; rfl)
    rintro w rfl
    exact tracked_start T
  refine triple_world.bind fun w => ?_
  refine Triple.bind (Q := fun _ => Going F fun w => Tracked T w ∧ w.root = none)
    (triple_check.weaken (fun _ => id) (fun _ s hs => hs.mono ?_) fun e s hs => .inl
      (hs.mono ?_ fun _ => id)) fun _ => ?_
  · rintro w ⟨-, -, rfl⟩
    exact ⟨tracked_start T, rfl⟩
  · rintro w ⟨-, -, rfl⟩
    exact tracked_start T
  refine Triple.bind (triple_mkdir_made (fun w _ hw => hw) fun w htracked _ => htracked.parent_lt)
    fun _ => ?_
  refine Triple.bind (Triple.handling (triple_open_made ?_) fun e => .throw fun s hs => ?_)
    fun root => ?_
  · exact fun w inode hw _ => .inl ⟨hw, rfl, rfl⟩
  · refine .inr ⟨?_, hs.2⟩
    cases e with
    | os error => nofun
    | demo error => nofun
    | keyError => exact absurd rfl hs.1
  refine Triple.bind (Q := fun _ => Going F fun w => Tracked T w ∧ Branched root [] w)
    (triple_update ?_) fun _ => ?_
  · rintro w ⟨hroot, hrecords, hparent, hname, hvalid⟩
    obtain ⟨hchildren, hfiles⟩ := hrecords.rootless hroot
    exact ⟨hrecords.recordRoot hroot hparent hname hvalid, rfl, hfiles, by simp [hchildren]⟩
  refine triple_writeAllAssets.bind fun _ => ?_
  refine (triple_ghost (P := fun (o : { w : World // Tracked T w ∧
    Filled root (directoryNames payloads) (sortedItems payloads) w }) w' => w' = o.1) ?_).strengthen
    fun s hs => hs.mono fun w hw => ⟨⟨w, hw⟩, rfl⟩
  rintro ⟨w, htracked, hfilled⟩
  refine (triple_verifyCompletedOutput fun f hf => ?_).weaken (fun _ => id)
    (fun _ s hs => hs.mono ?_) fun e s hs => .inl (hs.mono ?_ fun _ => id)
  · refine (htracked.files f hf).1.imp_left fun hr => ?_
    exact Option.some.inj (hr.symm.trans hfilled.rooted)
  · rintro w' rfl
    exact ⟨root, htracked, hfilled⟩
  · rintro w' rfl
    exact htracked

/-- How an exception leaves the call. -/
def LeftBehind (F : Faults) (T : Target) (e : Raised) (s : State) : Prop :=
  (∃ error, e = .demo error) ∧
    (Blames F (fun c => c.isHarmless = true) s ∧
        s.world.disk.table.lookup T.parentFd T.outputName = none ∨
      Blames F (fun c => c.isHarmless = false) s ∧
        s.world.disk.table.lookup T.parentFd T.outputName ≠ none)

theorem asDemoError_eq {e : Raised} (he : e ≠ .keyError) :
    ∃ error, asDemoError e = .demo error := by
  cases e with
  | os error => cases error <;> exact ⟨_, rfl⟩
  | demo error => exact ⟨error, rfl⟩
  | keyError => exact absurd rfl he

theorem triple_cleanupAndRaise {e : Raised} {post : PUnit → State → Prop} :
    Triple (Aborted F T e) (cleanupAndRaise T.parentFd e) post (LeftBehind F T) := by
  rw [cleanupAndRaise]
  split_ifs with he
  · refine .of_false ?_
    rintro s (hs | hs)
    · exact hs.1 he
    · exact hs.1 he
  refine Triple.bind (Q := fun _ => LeftBehind F T (asDemoError e)) (.modify ?_)
    fun _ => .throw fun _ => id
  rintro s (⟨-, htracked, hblames⟩ | ⟨-, hdirty, hblames⟩)
  · refine ⟨asDemoError_eq he, .inl ⟨hblames, ?_⟩⟩
    change (cleanupOwnedEntries T.parentFd s.world).table.lookup T.parentFd T.outputName = none
    rw [table_cleanup_of_tracked htracked]
    exact T.absent
  · exact ⟨asDemoError_eq he, .inr ⟨hblames, lookup_cleanup_of_dirty hdirty⟩⟩

theorem triple_initializeDemo (contents : PyStr → Bytes) :
    Triple (· = T.start) (initializeDemo F contents T.parentFd T.outputName)
      (fun _ => Going F fun w => Installed w.disk T.parentFd T.outputName (assetPayloads contents))
      (LeftBehind F T) := by
  have hquiet : Going F (· = T.start.world) T.start := ⟨rfl, fun _ _ hmem => nomatch hmem⟩
  refine Triple.bind (Q := fun _ => Going F (· = T.start.world))
    (triple_require (fun _ s hs => hs ▸ hquiet) fun _ s hs => ?_) fun _ => ?_
  · subst hs
    exact ⟨⟨_, rfl⟩, .inl ⟨fun _ _ hmem => (nomatch hmem), T.absent⟩⟩
  refine Triple.bind (triple_installDemo.handling fun e => triple_cleanupAndRaise) fun _ => .pure ?_
  rintro s ⟨⟨root, hcomplete⟩, hblames⟩
  exact ⟨hcomplete.installed, hblames⟩

/-- The result and the final state of the call. -/
def runInit (F : Faults) (T : Target) (contents : PyStr → Bytes) :
    Except Raised DemoInitializationResult × State :=
  (initializeDemo F contents T.parentFd T.outputName).perform T.start

/-- A failed call: it raised a `DemoInitializationError` and left no output. -/
def FailsClosed (T : Target) (run : Except Raised DemoInitializationResult × State) : Prop :=
  (∃ error, run.1 = .error (.demo error)) ∧
    run.2.world.disk.table.lookup T.parentFd T.outputName = none

/-- A call that returns has installed exactly the assets; one in which a system call failed raises a
`DemoInitializationError` and leaves no output exactly when that call is harmless. -/
theorem initialize_demo_iff (T : Target) (F : Faults) (contents : PyStr → Bytes) :
    (∀ result, (runInit F T contents).1 = .ok result →
      Installed (runInit F T contents).2.world.disk T.parentFd T.outputName
        (assetPayloads contents)) ∧
    ∀ failure ∈ F.failing, failure.1 ∈ (runInit F T contents).2.calls →
      (FailsClosed T (runInit F T contents) ↔ failure.1.isHarmless = true) := by
  have htriple := triple_initializeDemo (F := F) (T := T) contents
  rcases hrun : runInit F T contents with ⟨e | result, s⟩
  · obtain ⟨⟨error, rfl⟩, hleft⟩ := htriple.raises rfl hrun
    refine ⟨nofun, fun failure hfailure hmem => ?_⟩
    rcases hleft with ⟨hblames, hnone⟩ | ⟨hblames, hsome⟩
    · exact iff_of_true ⟨⟨error, rfl⟩, hnone⟩ (hblames failure hfailure hmem)
    · refine iff_of_false (fun hclosed => hsome hclosed.2) ?_
      rw [hblames failure hfailure hmem]
      exact Bool.false_ne_true
  · obtain ⟨hinstalled, hquiet⟩ := htriple.returns rfl hrun
    exact ⟨fun _ _ => hinstalled, fun failure hfailure hmem => (hquiet failure hfailure hmem).elim⟩

namespace Sample

/-- An empty directory and the output `demo`. -/
def emptyParent : Target where
  disk := ⟨1, fun inode => if inode = 0 then some .directory else none, [], 1⟩
  parentFd := 0
  outputName := toPyStr (lit "demo")
  parent_lt := Nat.one_pos
  entries_lt := nofun
  absent := rfl

/-- Every asset has two bytes. -/
def twoBytes : PyStr → Bytes := fun _ => [1, 2]

/-- A system that writes single bytes, and in which one call may fail. -/
def failingAt (failing : Option Call) : Faults := ⟨failing.map fun c => (c, .other), fun _ _ => 1⟩

end Sample

/-- Without a failure the assets are installed; a failed `mkdir` of a child leaves no output, a
failed `fsync` of the first file does. -/
theorem sample_initialize_demo :
    (∃ result, (runInit (Sample.failingAt none) Sample.emptyParent Sample.twoBytes).1 = .ok result ∧
      Installed (runInit (Sample.failingAt none) Sample.emptyParent Sample.twoBytes).2.world.disk
        Sample.emptyParent.parentFd Sample.emptyParent.outputName (assetPayloads Sample.twoBytes)) ∧
    FailsClosed Sample.emptyParent
      (runInit (Sample.failingAt (some (.mkdir 1 (toPyStr (lit "rules")))))
      Sample.emptyParent Sample.twoBytes) ∧
    ¬ FailsClosed Sample.emptyParent
      (runInit (Sample.failingAt (some (.fsync 4))) Sample.emptyParent Sample.twoBytes) := by
  refine ⟨⟨⟨"PUBLIC_SYNTHETIC", demoAssetFiles⟩, ?_, ?_⟩, ?_, fun h => ?_⟩
  · decide +kernel
  · exact (initialize_demo_iff Sample.emptyParent (Sample.failingAt none) Sample.twoBytes).1
      ⟨"PUBLIC_SYNTHETIC", demoAssetFiles⟩ (by decide +kernel)
  · exact ((initialize_demo_iff Sample.emptyParent _ Sample.twoBytes).2
      (.mkdir 1 (toPyStr (lit "rules")), .other) rfl (by decide +kernel)).2 rfl
  · exact absurd (((initialize_demo_iff Sample.emptyParent _ Sample.twoBytes).2
      (.fsync 4, .other) rfl (by decide +kernel)).1 h) (by decide)

/-- When the `fstat` of the new output directory fails, the directory stays. -/
theorem sample_output_left_behind :
    ¬ ∀ (T : Target) (F : Faults) (contents : PyStr → Bytes), ∀ failure ∈ F.failing,
      failure.1 ∈ (runInit F T contents).2.calls → FailsClosed T (runInit F T contents) := by
  intro h
  have hclosed := h Sample.emptyParent (Sample.failingAt (some (.fstatDirectory 1))) Sample.twoBytes
    (.fstatDirectory 1, .other) rfl (by decide +kernel)
  have hleft : (runInit (Sample.failingAt (some (.fstatDirectory 1))) Sample.emptyParent
      Sample.twoBytes).2.world.disk.table.lookup Sample.emptyParent.parentFd
        Sample.emptyParent.outputName = some 1 := by
    decide +kernel
  exact absurd (hleft.symm.trans hclosed.2) nofun

end ProofFlow.Demo
