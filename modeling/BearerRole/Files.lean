import BearerRole.Codec.FileName
import BearerRole.Fault

/-!
The files that a program sees: a tree of directories with one of them as the current one, and the walk along a path
that ends at a file, a directory, or a reason why there is neither. A program reads files by paths in normal form;
files and directories are made and removed by paths as they are written. Where users have their homes is known too.
-/

namespace BearerRole

set_option autoImplicit false

abbrev Path := List Bytes

/-- A locked file may be neither read nor written, and a locked directory neither read nor searched. -/
inductive FileNode
  | file (content : Bytes)
  | directory
  | lockedFile
  | lockedDirectory
  deriving Repr, DecidableEq

/-- What is to be put at a path. A text is kept as UTF-8. -/
inductive NewEntry
  | bytes (content : Bytes)
  | text (content : Text)
  | directory
  deriving Repr, DecidableEq

inductive PathFailure
  | missing
  | isDirectory
  | notDirectory
  | nameTooLong
  | denied
  deriving Repr, DecidableEq

def PathFailure.message : PathFailure → Text
  | missing => text "No such file or directory"
  | isDirectory => text "Is a directory"
  | notDirectory => text "Not a directory"
  | nameTooLong => text "File name too long"
  | denied => text "Permission denied"

def PathFailure.fault : PathFailure → Fault
  | missing => .noSuchFile
  | isDirectory => .isADirectory
  | notDirectory => .notADirectory
  | nameTooLong => .system
  | denied => .denied

/-- The home directories that the system knows: that of the user who runs the program, and those of users by their names. -/
structure Homes where
  own : Option Text
  named : List (Text × Text)
  deriving Repr, DecidableEq

structure Files where
  entries : List (Path × FileNode)
  homes : Homes
  deriving Repr, DecidableEq

namespace Files

def bytesOf (literal : String) : Bytes := (text literal).map UInt8.ofNat

def here : Path := [bytesOf "tmp", bytesOf "work"]

/-- What is there before a program makes anything: the usual directories, the device that is always empty, and the current
directory, which is empty too. -/
def empty : Files :=
  ⟨(["bin", "dev", "etc", "home", "lib", "opt", "proc", "root", "run", "sbin", "srv", "sys", "tmp",
      "usr", "var"].map fun name => ([bytesOf name], FileNode.directory)) ++
    [([bytesOf "dev", bytesOf "null"], .file []), (here, .directory)],
    ⟨some (text "/root"), [(text "root", text "/root")]⟩⟩

def node? (files : Files) (path : Path) : Option FileNode :=
  if path.isEmpty then some .directory else files.entries.lookup path

def put (files : Files) (path : Path) (node : FileNode) : Files :=
  { files with entries := files.entries.filter (fun entry => entry.1 ≠ path) ++ [(path, node)] }

def erase (files : Files) (path : Path) : Files :=
  { files with entries := files.entries.filter fun entry => entry.1 ≠ path }

def isLocked (files : Files) (place : Path) : Bool := files.node? place == some .lockedDirectory

def slash : UInt8 := 47
def dot : Bytes := [46]
def dots : Bytes := [46, 46]

def nameLimit : Nat := 255
def pathLimit : Nat := 4095

/-- The bytes of a path: it must have a form for the operating system, and no NUL. -/
def pathBytes (path : Text) : Except Fault Bytes :=
  match FileName.encode? path with
  | none => .error .unencodable
  | some bytes => if bytes.contains 0 then .error .badPath else .ok bytes

def namesOf (bytes : Bytes) : List Bytes :=
  ((Text.split 47 bytes.latin1).filter fun name => !name.isEmpty).map fun name => name.map UInt8.ofNat

def startOf (bytes : Bytes) : Path := if bytes.head? = some slash then [] else here

/-- The directory that names lead to. One dot stays; two dots go up, and stay at the root. -/
def enter (files : Files) : Path → List Bytes → Except PathFailure Path
  | place, [] => .ok place
  | place, name :: rest =>
      if files.isLocked place then .error .denied
      else if name = dot then enter files place rest
      else if name = dots then enter files place.dropLast rest
      else if name.length > nameLimit then .error .nameTooLong
      else
        match files.node? (place ++ [name]) with
        | none => .error .missing
        | some (.file _) => .error .notDirectory
        | some .lockedFile => .error .notDirectory
        | some .directory => enter files (place ++ [name]) rest
        | some .lockedDirectory => enter files (place ++ [name]) rest

/-- What a path as written leads to: a directory by way of the root or of dots, or an entry, which need not exist, of a
directory that does. A slash may follow the entry's name. -/
inductive Target
  | directory
  | entry (path : Path) (hasSlash : Bool)
  deriving Repr, DecidableEq

def target (files : Files) (bytes : Bytes) : Except PathFailure Target := do
  if bytes.isEmpty then .error .missing
  else if bytes.length > pathLimit then .error .nameTooLong
  else
    match (namesOf bytes).reverse with
    | [] => .ok .directory
    | last :: before =>
        let parent ← files.enter (startOf bytes) before.reverse
        if files.isLocked parent then .error .denied
        else if last = dot ∨ last = dots then .ok .directory
        else .ok (.entry (parent ++ [last]) (bytes.getLast? = some slash))

def targetOf (files : Files) (path : Text) : Except Fault Target := do
  match files.target (← pathBytes path) with
  | .ok target => .ok target
  | .error failure => .error failure.fault

def present? (files : Files) (path : Path) : Except Fault (Option FileNode) :=
  if path.getLast?.any fun name => name.length > nameLimit then .error .system
  else .ok (files.node? path)

def write (files : Files) (path : Text) (content : Bytes) : Except Fault Files := do
  match ← files.targetOf path with
  | .directory | .entry _ true => .error .isADirectory
  | .entry path false =>
      match ← files.present? path with
      | some .directory => .error .isADirectory
      | some .lockedDirectory => .error .isADirectory
      | some .lockedFile => .error .denied
      | some (.file _) => .ok (files.put path (.file content))
      | none => .ok (files.put path (.file content))

def makeDirectory (files : Files) (path : Text) : Except Fault Files := do
  match ← files.targetOf path with
  | .directory => .error .alreadyThere
  | .entry path _ =>
      match ← files.present? path with
      | some _ => .error .alreadyThere
      | none => .ok (files.put path .directory)

def remove (files : Files) (path : Text) : Except Fault Files := do
  match ← files.targetOf path with
  | .directory => .error .isADirectory
  | .entry path hasSlash =>
      match ← files.present? path with
      | none => .error .noSuchFile
      | some .directory => .error .isADirectory
      | some .lockedDirectory => .error .isADirectory
      | some _ => if hasSlash then .error .notADirectory else .ok (files.erase path)

def add (files : Files) (path : Text) : NewEntry → Except Fault Files
  | .bytes content => files.write path content
  | .text content =>
      match Utf8.encode? content with
      | some bytes => files.write path bytes
      | none => .error .unencodable
  | .directory => files.makeDirectory path

def normalNames (bytes : Bytes) : List Bytes := (namesOf bytes).filter fun name => name ≠ dot

def normalLength (bytes : Bytes) : Nat :=
  let names := normalNames bytes
  let root := if bytes.head? = some slash then 1 else 0
  names.foldl (fun length name => length + name.length + 1) root - 1

def find (files : Files) (bytes : Bytes) : Except PathFailure FileNode := do
  if normalLength bytes > pathLimit then .error .nameTooLong
  else
    match (normalNames bytes).reverse with
    | [] => .ok ((files.node? (startOf bytes)).getD .directory)
    | last :: before =>
        let parent ← files.enter (startOf bytes) before.reverse
        if files.isLocked parent then .error .denied
        else if last = dots then .ok ((files.node? parent.dropLast).getD .directory)
        else if last.length > nameLimit then .error .nameTooLong
        else
          match files.node? (parent ++ [last]) with
          | some node => .ok node
          | none => .error .missing

def read (files : Files) (path : Text) : Except Fault (Except PathFailure Bytes) := do
  match files.find (← pathBytes path) with
  | .ok (.file content) => .ok (.ok content)
  | .ok .directory => .ok (.error .isDirectory)
  | .ok _ => .ok (.error .denied)
  | .error failure => .ok (.error failure)

/-- The content at a path that is a file. A path that leads nowhere, or has no form for the operating system, has none; one
that is too long is a failure, and so is one that leads to where the program may not look. -/
def contentIfFile (files : Files) (path : Text) : Except Fault (Option Bytes) :=
  match pathBytes path with
  | .error _ => .ok none
  | .ok bytes =>
      match files.find bytes with
      | .ok (.file content) => .ok (some content)
      | .ok .lockedFile => .error .denied
      | .ok _ => .ok none
      | .error .nameTooLong => .error .system
      | .error .denied => .error .denied
      | .error _ => .ok none

end Files

end BearerRole
