/-
# Files

A tree of directories and files, and the few things done with it.  Beside plain files there is
the file that is always full: it opens, but every write to it fails, and so does making sure
that it is stored.  A failure leaves behind what was done before it.
-/

import Replica.Dict
import Replica.Text.Blank
import Replica.Text.Bytes

namespace Replica

/-- Why something could not be done with a file. -/
inductive DiskFault where
  | notFound
  | isADirectory
  | alreadyExists
  | notADirectory
  /-- Bytes that are not the text that was expected. -/
  | invalidData
  | storageFull
  /-- The file cannot be asked for this. -/
  | invalidInput
deriving DecidableEq, Repr

def DiskFault.message : DiskFault → String
  | .notFound => "no such file or directory"
  | .isADirectory => "is a directory"
  | .alreadyExists => "already exists"
  | .notADirectory => "not a directory"
  | .invalidData => "is not text"
  | .storageFull => "no space left"
  | .invalidInput => "cannot be asked of this file"

/-- What stands at a path. -/
inductive DiskEntry where
  | file (content : Bytes)
  | directory
  /-- The file that is always full. -/
  | full
deriving DecidableEq, Repr

/-- What stands at each path; the root is not listed. -/
structure Disk where
  entries : Dict DiskEntry
deriving DecidableEq

/-- The names from the root to a file or a directory. -/
abbrev Path := List String

namespace Path

/-- A path by its text; a dot is no step, and two dots lead back. -/
def ofText (s : String) : Path :=
  ((Text.pieces (· = '/') s.toList).map String.ofList).foldl
    (fun path name =>
      if name = "" || name = "." then path
      else if name = ".." then path.dropLast
      else path ++ [name]) []

/-- The text of a path. -/
def toText (path : Path) : String := "/".intercalate path

def parent (path : Path) : Path := path.dropLast

end Path

namespace Disk

def empty : Disk := ⟨.empty⟩

instance : Inhabited Disk := ⟨empty⟩

/-- What stands at a path. -/
def get? (d : Disk) (path : Path) : Option DiskEntry :=
  if path = [] then some .directory else d.entries.get? path.toText

def isDirectory (d : Disk) (path : Path) : Bool := d.get? path = some .directory

/-- Puts something at a path, in place of what stood there. -/
def put (d : Disk) (path : Path) (entry : DiskEntry) : Disk :=
  ⟨d.entries.insert path.toText entry⟩

def erase (d : Disk) (path : Path) : Disk := ⟨d.entries.erase path.toText⟩

/-- The paths above a path, from the root on. -/
def above (path : Path) : List Path := (List.range path.length).map path.take

/-- The fault of going through the directories above a path, if there is one. -/
def walkFault? (d : Disk) (path : Path) : Option DiskFault :=
  (above path).findSome? fun p => match d.get? p with
    | some .directory => none
    | some _ => some .notADirectory
    | none => some .notFound

/-- Makes a directory and those above it that are missing. -/
def makeDirs (d : Disk) (path : Path) : Except DiskFault Disk :=
  let rec go (d : Disk) (done : Path) : List String → Except DiskFault Disk
    | [] => .ok d
    | name :: rest =>
      let here := done ++ [name]
      match d.get? here with
      | none => go (d.put here .directory) here rest
      | some .directory => go d here rest
      | some _ => .error (if rest.isEmpty then .alreadyExists else .notADirectory)
  go d [] path

/-- Opens a file to write at its end, and makes it if it is missing. -/
def openAppend (d : Disk) (path : Path) : Except DiskFault Disk :=
  match d.walkFault? path with
  | some f => .error f
  | none => match d.get? path with
    | none => .ok (d.put path (.file []))
    | some .directory => .error .isADirectory
    | some _ => .ok d

/-- Opens a file to write it anew, and makes it if it is missing. -/
def openNew (d : Disk) (path : Path) : Except DiskFault Disk :=
  match d.walkFault? path with
  | some f => .error f
  | none => match d.get? path with
    | some .directory => .error .isADirectory
    | some .full => .ok d
    | _ => .ok (d.put path (.file []))

/-- Writes at the end of an open file. -/
def append (d : Disk) (path : Path) (content : Bytes) : Except DiskFault Disk :=
  match d.get? path with
  | some (.file old) => .ok (d.put path (.file (old ++ content)))
  | some .full => if content.isEmpty then .ok d else .error .storageFull
  | _ => .ok d

/-- Makes sure that an open file is stored. -/
def sync (d : Disk) (path : Path) : Except DiskFault Unit :=
  match d.get? path with
  | some .full => .error .invalidInput
  | _ => .ok ()

/-- Reads a file. -/
def read (d : Disk) (path : Path) : Except DiskFault Bytes :=
  match d.walkFault? path with
  | some f => .error f
  | none => match d.get? path with
    | none => .error .notFound
    | some .directory => .error .isADirectory
    | some .full => .ok []
    | some (.file content) => .ok content

/-- Gives a file another name, in place of what had that name. -/
def rename (d : Disk) (source target : Path) : Except DiskFault Disk :=
  match d.get? source, d.get? target with
  | none, _ => .error .notFound
  | some .directory, some (.file _) => .error .notADirectory
  | some .directory, some .full => .error .notADirectory
  | some (.file _), some .directory => .error .isADirectory
  | some .full, some .directory => .error .isADirectory
  | some entry, _ => .ok ((d.erase source).put target entry)

/-- Adds to what is in a file; the file and the directories above it are made if they are
missing. -/
def force (d : Disk) (path : Path) (content : Bytes) : Disk :=
  let d := ((d.makeDirs path.parent).toOption).getD d
  let d := ((d.openAppend path).toOption).getD d
  ((d.append path content).toOption).getD d

/-- Puts the file that is always full at a path; the directories above it are made. -/
def putFull (d : Disk) (path : Path) : Disk :=
  (((d.makeDirs path.parent).toOption).getD d).put path .full

/-- The names in a directory, in order. -/
def list (d : Disk) (path : Path) : List String :=
  d.entries.keys.filterMap fun p =>
    let p := Path.ofText p
    if p.parent = path then p.getLast? else none

/-! ## Steps

What is done in several steps is a list of them, so that an interruption is a beginning of the
list. -/

/-- One thing done with a file. -/
inductive Step where
  | makeDirs (path : Path)
  | openNew (path : Path)
  | append (path : Path) (content : Bytes)
  | sync (path : Path)
  | rename (source target : Path)
deriving DecidableEq

def step (d : Disk) : Step → Except DiskFault Disk
  | .makeDirs path => d.makeDirs path
  | .openNew path => d.openNew path
  | .append path content => d.append path content
  | .sync path => (d.sync path).map fun _ => d
  | .rename source target => d.rename source target

/-- Takes steps up to the first that fails; what was done before it stays. -/
def run (d : Disk) : List Step → Except DiskFault Unit × Disk
  | [] => (.ok (), d)
  | s :: rest =>
    match d.step s with
    | .ok d => d.run rest
    | .error f => (.error f, d)

end Disk

end Replica
