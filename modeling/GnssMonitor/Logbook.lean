import GnssMonitor.Fault

/-! The packet log: which file is open, and what the files of the run hold. They lie in one
directory that has no others in it. What is written outside of it is not kept track of. -/

namespace GnssMonitor

inductive OpenMode
  | truncating
  | appending
  deriving DecidableEq, Repr

/-- What a log is written to. -/
inductive LogTarget
  /-- A file of the run. -/
  | file (name : String)
  /-- A place out of sight. -/
  | sink
  /-- A device that never has room. So many bytes wait to be put there. -/
  | full (waiting : Nat)
  /-- What was given up when it could not be closed properly. -/
  | abandoned
  deriving DecidableEq, Repr

/-- As many bytes wait at most until they are put down. -/
def blockSize : Nat := 4096

def noSpace : String := "[Errno 28] No space left on device"

/-- How the file system takes what is asked of it; a refusal comes with its reason. -/
structure Storage where
  opens : Bool := true
  writeRefusal : Option String := none
  closeRefusal : Option String := none
  deriving DecidableEq, Repr

/-- The directories that a path can lead through: that of the run, that of temporary files in
which it lies, that of the devices, and the uppermost. -/
inductive Directory
  | here
  | temporary
  | devices
  | top
  deriving DecidableEq, Repr

def nameLimit : Nat := 255

def pathLimit : Nat := 4096

/-- The devices that take whatever is written. -/
def sinkNames : List String := ["null", "zero", "random", "urandom"]

namespace Directory

def parent : Directory → Directory
  | here => temporary
  | temporary | devices | top => top

/-- One step on a path. -/
def next? (d : Directory) (part : String) : Option Directory :=
  if part = "" ∨ part = "." then some d
  else if part = ".." then some d.parent
  else if d = top then
    if part = "dev" then some devices else if part = "tmp" then some temporary else none
  else none

/-- What has this name in a directory, if it can be written to. -/
def target? (d : Directory) (name : String) : Option LogTarget :=
  if name ∈ ["", ".", ".."] ∨ nameLimit < name.utf8ByteSize then none
  else
    match d with
    | here => some (.file name)
    | temporary => some .sink
    | devices =>
      if name ∈ sinkNames then some .sink
      else if name = "full" then some (.full 0)
      else none
    | top => none

end Directory

structure Logbook where
  /-- The files of the run by name, in order of creation. -/
  files : List (String × Bytes) := []
  current : Option LogTarget := none
  storage : Storage := {}
  deriving DecidableEq, Repr

namespace Logbook

/-- What a path leads to. -/
def target? (path : String) : Option LogTarget := do
  if pathLimit ≤ path.utf8ByteSize then none
  let parts := (path.toList.splitOn '/').map String.ofList
  let start := if "/".toList.isPrefixOf path.toList then Directory.top else .here
  let place ← parts.dropLast.foldlM Directory.next? start
  place.target? (parts.getLastD "")

def isOpen (l : Logbook) : Bool := l.current.isSome

/-- Why what is open cannot be closed properly. -/
def closeRefusal? (l : Logbook) : Option String :=
  match l.current with
  | none | some .abandoned => none
  | some (.full (_ + 1)) => some noSpace
  | some (.file _) | some .sink | some (.full 0) => l.storage.closeRefusal

/-- Closes what is open. What cannot be closed properly is given up, yet stays in hand until the
next time. -/
def close (l : Logbook) : Except Fault Unit × Logbook :=
  match l.closeRefusal? with
  | some reason => (.error (.storage reason), { l with current := some .abandoned })
  | none => (.ok (), { l with current := none })

def content (files : List (String × Bytes)) (name : String) : Option Bytes :=
  (files.find? (·.1 == name)).map (·.2)

def setContent (name : String) (bs : Bytes) (files : List (String × Bytes)) :
    List (String × Bytes) :=
  if (content files name).isSome then
    files.map fun f => if f.1 == name then (name, bs) else f
  else files ++ [(name, bs)]

/-- Opens a file in place of one that has been closed; false when that fails. -/
def reopen (path : String) (mode : OpenMode) (l : Logbook) : Bool × Logbook :=
  match (target? path).filter fun _ => l.storage.opens with
  | some (.file name) =>
    let held := match mode with
      | .truncating => []
      | .appending => (content l.files name).getD []
    (true, { l with files := setContent name held l.files, current := some (.file name) })
  | some target => (true, { l with current := some target })
  | none => (false, { l with current := none })

/-- Adds bytes to what is open, if anything is. -/
def add (bs : Bytes) (l : Logbook) : Logbook :=
  match l.current with
  | none | some .sink | some .abandoned => l
  | some (.full waiting) => { l with current := some (.full (waiting + bs.length)) }
  | some (.file name) =>
    { l with files := setContent name ((content l.files name).getD [] ++ bs) l.files }

/-- Why bytes cannot be written to what is open. -/
def writeRefusal? (bs : Bytes) (l : Logbook) : Option Fault :=
  match l.current with
  | none => none
  | some .abandoned => some .closedFile
  | some (.full waiting) =>
    if blockSize < waiting + bs.length then some (.storage noSpace)
    else l.storage.writeRefusal.map .storage
  | some (.file _) | some .sink => l.storage.writeRefusal.map .storage

/-- Writes to what is open, if anything is. -/
def write (bs : Bytes) (l : Logbook) : Except Fault Unit × Logbook :=
  match l.writeRefusal? bs with
  | some e => (.error e, l)
  | none => (.ok (), l.add bs)

end Logbook
end GnssMonitor
