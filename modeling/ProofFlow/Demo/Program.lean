import ProofFlow.Kit.Directory
import ProofFlow.Kit.Triple
import ProofFlow.RoundTrip

/-!
# Initializing the demo

`initialize_demo` over a model of the file system: a table of directory entries and the objects they
lead to.  A descriptor is identified with the inode it was opened on.  Each `mkdir`, `open`,
`fstat`, `write` and `fsync` of the program is a `Call`; `Faults` says which one of them fails, and
with which `OSError`.  The lists in which the program records what it created are part of the state,
since the cleanup reads what they held when the exception was raised.
-/

namespace ProofFlow.Demo

open Kit

/-! ## The file system -/

inductive FileMode where
  | directory
  | regular
  | other
  deriving DecidableEq

/-- An object of the file system. -/
inductive Node where
  | directory
  | regular (content : Bytes)
  | other
  deriving DecidableEq

def Node.mode : Node → FileMode
  | .directory => .directory
  | .regular _ => .regular
  | .other => .other

/-- `os.stat_result`. -/
structure Metadata where
  device : ℕ
  inode : ℕ
  mode : FileMode
  deriving DecidableEq

structure Disk where
  device : ℕ
  node : ℕ → Option Node
  table : DirTable PyStr
  nextInode : ℕ

namespace Disk

/-- `os.fstat(descriptor)`. -/
def metadata (disk : Disk) (inode : ℕ) : Option Metadata :=
  (disk.node inode).map fun n => ⟨disk.device, inode, n.mode⟩

/-- `os.stat(name, dir_fd=parent_fd, follow_symlinks=False)`. -/
def stat (disk : Disk) (parentFd : ℕ) (name : PyStr) : Option Metadata :=
  (disk.table.lookup parentFd name).bind disk.metadata

/-- Put a new object into a directory. -/
def add (disk : Disk) (parentFd : ℕ) (name : PyStr) (n : Node) : Disk :=
  { disk with
    node := Function.update disk.node disk.nextInode (some n)
    table := ⟨parentFd, name, disk.nextInode⟩ :: disk.table
    nextInode := disk.nextInode + 1 }

/-- Change the content of a regular file. -/
def setContent (disk : Disk) (fd : ℕ) (content : Bytes) : Disk :=
  { disk with node := Function.update disk.node fd (some (.regular content)) }

/-- The bytes of a regular file. -/
def content (disk : Disk) (fd : ℕ) : Bytes :=
  match disk.node fd with
  | some (.regular content) => content
  | _ => []

/-- `os.unlink(name, dir_fd=parent_fd)`. -/
def unlink (disk : Disk) (parentFd : ℕ) (name : PyStr) : Disk :=
  { disk with table := disk.table.remove parentFd name }

/-- `os.rmdir(name, dir_fd=parent_fd)`, which does nothing to a directory that holds entries. -/
def rmdir (disk : Disk) (parentFd : ℕ) (name : PyStr) : Disk :=
  match disk.table.lookup parentFd name with
  | none => disk
  | some inode => if disk.table.isEmptyAt inode then disk.unlink parentFd name else disk

/-- The object at a path. -/
def nodeAt (disk : Disk) (start : ℕ) (path : List PyStr) : Option Node :=
  (disk.table.resolve start path).bind disk.node

end Disk

/-! ## Records, calls and exceptions -/

structure PinnedDirectory where
  name : PyStr
  parentFd : ℕ
  fd : ℕ
  device : ℕ
  inode : ℕ
  deriving DecidableEq

structure PinnedFile where
  name : PyStr
  parent : PinnedDirectory
  fd : ℕ
  device : ℕ
  inode : ℕ
  expectedPayload : Bytes
  deriving DecidableEq

/-- A system call of the program that may fail. -/
inductive Call where
  | fstatParent
  | mkdir (parentFd : ℕ) (name : PyStr)
  | openDirectory (parentFd : ℕ) (name : PyStr)
  | fstatDirectory (fd : ℕ)
  | createFile (parentFd : ℕ) (name : PyStr)
  | fstatCreated (fd : ℕ)
  | write (fd offset : ℕ)
  | fsync (fd : ℕ)
  | fstatVerified (fd : ℕ)
  deriving DecidableEq

inductive OsError where
  | fileExists
  | other
  deriving DecidableEq

structure DemoInitializationError where
  code : String
  message : String
  deriving DecidableEq

def outputExists : DemoInitializationError :=
  ⟨"DEMO_OUTPUT_EXISTS", "the demo output target already exists; choose a new directory"⟩

def raceDetected : DemoInitializationError :=
  ⟨"DEMO_OUTPUT_RACE_DETECTED", "the demo output directory changed during initialization"⟩

def assetInvalid : DemoInitializationError :=
  ⟨"DEMO_ASSET_INVALID", "the installed demo asset bundle failed its integrity contract"⟩

def writeFailed : DemoInitializationError :=
  ⟨"DEMO_OUTPUT_WRITE_FAILED", "the demo asset bundle could not be written completely"⟩

/-- An exception of the program. -/
inductive Raised where
  | os (error : OsError)
  | demo (error : DemoInitializationError)
  | keyError
  deriving DecidableEq

/-- What the operating system does: the call that fails, and how many bytes a `write` to a
descriptor takes at an offset. -/
structure Faults where
  failing : Option (Call × OsError)
  accepted : ℕ → ℕ → ℕ

def Faults.errorAt (F : Faults) (c : Call) : Option OsError :=
  F.failing.bind fun failure => if failure.1 = c then some failure.2 else none

/-- The disk with what the program recorded of its own work. -/
structure World where
  disk : Disk
  root : Option PinnedDirectory
  /-- The values of the dictionary; the keys are their names. -/
  childDirectories : List PinnedDirectory
  writtenFiles : List PinnedFile

structure State where
  world : World
  calls : List Call

abbrev Step (α : Type) := Action State Raised α

/-! ## Statements -/

/-- `if not condition: raise e`. -/
def require (condition : Bool) (e : Raised) : Step PUnit := if condition then pure ⟨⟩ else throw e

/-- The value, if there is one. -/
def orRaise {α : Type} (value : Option α) (e : Raised) : Step α :=
  match value with
  | some a => pure a
  | none => throw e

/-- Change the disk or the records. -/
def update (f : World → World) : Step PUnit := modify fun s => { s with world := f s.world }

def world : Step World := do return (← get).world

/-- Make a call, which fails where the faults say so. -/
def attempt (F : Faults) (c : Call) : Step PUnit := do
  modify fun s => { s with calls := c :: s.calls }
  match F.errorAt c with
  | none => pure ⟨⟩
  | some e => throw (.os e)

/-! ## System calls -/

def fstat (F : Faults) (c : Call) (fd : ℕ) : Step Metadata := do
  attempt F c
  let w ← world
  orRaise (w.disk.metadata fd) (.os .other)

def mkdir (F : Faults) (parentFd : ℕ) (name : PyStr) : Step PUnit := do
  attempt F (.mkdir parentFd name)
  let w ← world
  require (w.disk.table.lookup parentFd name).isNone (.os .fileExists)
  update fun w => { w with disk := w.disk.add parentFd name .directory }

/-- `os.open` with `O_DIRECTORY` and `O_NOFOLLOW`. -/
def openDirectory (F : Faults) (parentFd : ℕ) (name : PyStr) : Step ℕ := do
  attempt F (.openDirectory parentFd name)
  let w ← world
  let fd ← orRaise (w.disk.table.lookup parentFd name) (.os .other)
  require (w.disk.node fd = some .directory) (.os .other)
  return fd

/-- `os.open` with `O_CREAT` and `O_EXCL`. -/
def createFile (F : Faults) (parentFd : ℕ) (name : PyStr) : Step ℕ := do
  attempt F (.createFile parentFd name)
  let w ← world
  require (w.disk.table.lookup parentFd name).isNone (.os .fileExists)
  update fun w => { w with disk := w.disk.add parentFd name (.regular []) }
  return w.disk.nextInode

/-! ## The program -/

/-- `_entry_matches`. -/
def entryMatches (disk : Disk) (parentFd : ℕ) (name : PyStr) (device inode : ℕ)
    (expectedMode : FileMode) : Bool :=
  match disk.stat parentFd name with
  | none => false
  | some metadata =>
    decide (metadata.device = device) && decide (metadata.inode = inode) &&
      decide (metadata.mode = expectedMode)

/-- `_open_pinned_directory`. -/
def openPinnedDirectory (F : Faults) (parentFd : ℕ) (name : PyStr) : Step PinnedDirectory := do
  let descriptor ← openDirectory F parentFd name
  let metadata ← fstat F (.fstatDirectory descriptor) descriptor
  let w ← world
  require
    (decide (metadata.mode = .directory) &&
      entryMatches w.disk parentFd name metadata.device metadata.inode .directory)
    (.demo raceDetected)
  return ⟨name, parentFd, descriptor, metadata.device, metadata.inode⟩

/-- The loop of `_write_payload`; `fuel` is at least the number of remaining bytes. -/
def writeRemaining (F : Faults) (descriptor : ℕ) : ℕ → ℕ → Bytes → Step PUnit
  | 0, _, _ => pure ⟨⟩
  | fuel + 1, offset, remaining =>
    if remaining = [] then pure ⟨⟩
    else do
      attempt F (.write descriptor offset)
      let written := min (F.accepted descriptor offset) remaining.length
      update fun w => { w with
        disk := w.disk.setContent descriptor (w.disk.content descriptor ++ remaining.take written) }
      -- "short write"
      require (decide (0 < written)) (.os .other)
      writeRemaining F descriptor fuel (offset + written) (remaining.drop written)

/-- `_write_payload`. -/
def writePayload (F : Faults) (descriptor : ℕ) (payload : Bytes) : Step PUnit := do
  writeRemaining F descriptor payload.length 0 payload
  attempt F (.fsync descriptor)

/-- `PurePosixPath(path).parts` of a relative path. -/
def posixParts (path : PyStr) : List PyStr :=
  (path.splitOn 47).filter fun part => part ≠ [] ∧ part ≠ [46]

/-- The directory of a path with two parts. -/
def directoryPart : List PyStr → Option PyStr
  | [directory, _] => some directory
  | _ => none

/-- `directory_names`. -/
def directoryNames (payloads : List (PyStr × Bytes)) : List PyStr :=
  (payloads.filterMap fun p => directoryPart (posixParts p.1)).dedup.insertionSort (· ≤ ·)

/-- `sorted(payloads.items())`: the keys are different. -/
def sortedItems (payloads : List (PyStr × Bytes)) : List (PyStr × Bytes) :=
  payloads.insertionSort fun a b => a.1 ≤ b.1

/-- The directory a file goes to, and its name there. -/
def placeOf (root : PinnedDirectory) (childDirectories : List PinnedDirectory) :
    List PyStr → Option (PinnedDirectory × PyStr)
  | [filename] => some (root, filename)
  | [directory, filename] =>
    (childDirectories.find? fun d => d.name = directory).map fun d => (d, filename)
  | _ => none

/-- Make one directory of `directory_names`. -/
def makeChild (F : Faults) (root : PinnedDirectory) (name : PyStr) : Step PUnit := do
  mkdir F root.fd name
  let directory ← openPinnedDirectory F root.fd name
  update fun w => { w with childDirectories := w.childDirectories ++ [directory] }

/-- Write one item of `payloads`. -/
def writeAsset (F : Faults) (root : PinnedDirectory) (item : PyStr × Bytes) : Step PUnit := do
  let w ← world
  let place ← orRaise (placeOf root w.childDirectories (posixParts item.1)) (.demo assetInvalid)
  let descriptor ← createFile F place.1.fd place.2
  let metadata ← fstat F (.fstatCreated descriptor) descriptor
  require (decide (metadata.mode = .regular)) (.demo raceDetected)
  writePayload F descriptor item.2
  update fun w => { w with
    writtenFiles := w.writtenFiles ++
      [⟨place.2, place.1, descriptor, metadata.device, metadata.inode, item.2⟩] }

/-- `_write_all_assets`. -/
def writeAllAssets (F : Faults) (root : PinnedDirectory) (payloads : List (PyStr × Bytes)) :
    Step PUnit := do
  (directoryNames payloads).forM (makeChild F root)
  (sortedItems payloads).forM (writeAsset F root)

/-- `"README.md"`. -/
def readmeName : PyStr := toPyStr (lit "README.md")

/-- Equality of sets. -/
def sameNames (a b : List PyStr) : Bool := decide (a ⊆ b) && decide (b ⊆ a)

/-- `expected_child_entries[fd].add(name)`. -/
def addExpected (expected : List (ℕ × List PyStr)) (fd : ℕ) (name : PyStr) :
    Option (List (ℕ × List PyStr)) :=
  if fd ∈ expected.map Prod.fst then
    some (expected.map fun entry => if entry.1 = fd then (fd, name :: entry.2) else entry)
  else none

/-- Expect the name of a record in its child directory. -/
def expectFile (root : PinnedDirectory) (expected : List (ℕ × List PyStr)) (record : PinnedFile) :
    Step (List (ℕ × List PyStr)) :=
  if record.parent = root then pure expected
  else orRaise (addExpected expected record.parent.fd record.name) .keyError

/-- Verify one record of `written_files`. -/
def verifyFile (F : Faults) (root : PinnedDirectory) (expected : List (ℕ × List PyStr))
    (record : PinnedFile) : Step (List (ℕ × List PyStr)) := do
  let expected ← expectFile root expected record
  let metadata ← fstat F (.fstatVerified record.fd) record.fd
  let w ← world
  require
    (decide (metadata.mode = .regular) &&
      decide (metadata.device = record.device) && decide (metadata.inode = record.inode) &&
      entryMatches w.disk record.parent.fd record.name record.device record.inode .regular &&
      decide (w.disk.content record.fd = record.expectedPayload))
    (.demo raceDetected)
  return expected

/-- Verify the names in one child directory. -/
def verifyChild (expected : List (ℕ × List PyStr)) (directory : PinnedDirectory) : Step PUnit := do
  let w ← world
  let names ← orRaise (expected.lookup directory.fd) .keyError
  require (sameNames (w.disk.table.names directory.fd) names) (.demo raceDetected)

/-- `_verify_completed_output`; the logical paths lead to the pinned directories. -/
def verifyCompletedOutput (F : Faults) (parentFd : ℕ) (outputName : PyStr)
    (parentMetadata : Metadata) (root : PinnedDirectory) : Step PUnit := do
  let w ← world
  let logicalParentMetadata ← orRaise (w.disk.metadata parentFd) (.demo raceDetected)
  let logicalOutputMetadata ← orRaise (w.disk.stat parentFd outputName) (.demo raceDetected)
  require
    (decide (logicalParentMetadata.device = parentMetadata.device) &&
      decide (logicalParentMetadata.inode = parentMetadata.inode) &&
      decide (logicalOutputMetadata.device = root.device) &&
      decide (logicalOutputMetadata.inode = root.inode) &&
      decide (logicalOutputMetadata.mode = .directory) &&
      entryMatches w.disk parentFd root.name root.device root.inode .directory)
    (.demo raceDetected)
  require
    (sameNames (w.disk.table.names root.fd)
      (readmeName :: w.childDirectories.map PinnedDirectory.name))
    (.demo raceDetected)
  require
    (w.childDirectories.all fun d =>
      entryMatches w.disk root.fd d.name d.device d.inode .directory)
    (.demo raceDetected)
  let expected ← w.writtenFiles.foldlM (verifyFile F root)
    (w.childDirectories.map fun d => (d.fd, []))
  w.childDirectories.forM (verifyChild expected)

/-- Remove a written file that is still in its place. -/
def removeFile (disk : Disk) (record : PinnedFile) : Disk :=
  if entryMatches disk record.parent.fd record.name record.device record.inode .regular then
    disk.unlink record.parent.fd record.name
  else disk

/-- Remove an empty directory that is still in its place. -/
def removeDirectory (parentFd : ℕ) (disk : Disk) (directory : PinnedDirectory) : Disk :=
  if entryMatches disk parentFd directory.name directory.device directory.inode .directory then
    disk.rmdir parentFd directory.name
  else disk

/-- `_cleanup_owned_entries`. -/
def cleanupOwnedEntries (parentFd : ℕ) (w : World) : Disk :=
  let disk := w.writtenFiles.reverse.foldl removeFile w.disk
  match w.root with
  | none => disk
  | some root =>
    removeDirectory parentFd
      (w.childDirectories.reverse.foldl (removeDirectory root.fd) disk) root

structure DemoInitializationResult where
  classification : String
  files : List PyStr
  deriving DecidableEq

/-- `DEMO_ASSET_FILES`. -/
def demoAssetFiles : List PyStr :=
  ["README.md", "case/contract.json", "case/manifest.json", "case/payroll.json",
    "case/termination_notice.json", "rules/cn_labor_contract_law.catalog.json"].map
    fun s => toPyStr (lit s)

/-- The validated assets by their relative paths. -/
def assetPayloads (contents : PyStr → Bytes) : List (PyStr × Bytes) :=
  demoAssetFiles.map fun path => (path, contents path)

/-- `except OSError` around the opening of the new directory. -/
def asRace : Raised → Raised
  | .os _ => .demo raceDetected
  | e => e

/-- The exception that leaves the call, after the cleanup. -/
def asDemoError : Raised → Raised
  | .os .fileExists => .demo outputExists
  | .os .other => .demo writeFailed
  | e => e

/-- The handlers of `initialize_demo`. -/
def cleanupAndRaise {α : Type} (parentFd : ℕ) (e : Raised) : Step α := do
  if e = .keyError then throw e
  else do
    update fun w => { w with disk := cleanupOwnedEntries parentFd w }
    throw (asDemoError e)

/-- The body of the `try` statement. -/
def installDemo (F : Faults) (payloads : List (PyStr × Bytes)) (parentFd : ℕ) (outputName : PyStr) :
    Step PUnit := do
  let parentMetadata ← fstat F .fstatParent parentFd
  let w ← world
  require (w.disk.stat parentFd outputName).isNone (.demo outputExists)
  mkdir F parentFd outputName
  let root ← (openPinnedDirectory F parentFd outputName).handling fun e => throw (asRace e)
  update fun w => { w with root := some root }
  writeAllAssets F root payloads
  verifyCompletedOutput F parentFd outputName parentMetadata root

/-- `initialize_demo`, from the opened parent directory on. -/
def initializeDemo (F : Faults) (contents : PyStr → Bytes) (parentFd : ℕ) (outputName : PyStr) :
    Step DemoInitializationResult := do
  require (decide (outputName ≠ [])) (.demo outputExists)
  (installDemo F (assetPayloads contents) parentFd outputName).handling (cleanupAndRaise parentFd)
  return ⟨"PUBLIC_SYNTHETIC", (sortedItems (assetPayloads contents)).map Prod.fst⟩

end ProofFlow.Demo
