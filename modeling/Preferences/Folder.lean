import Preferences.Dict
import Preferences.Outcome

/-!
# A folder of files

Files stand in a tree of directories and are named by relative paths. A file holds text, or bytes
that are no text. Writing a file needs its directory to be there and replaces a file, but not a
directory, of the same path. A path is followed name by name through directories that are there.
-/

namespace Preferences

inductive Node where
  | directory
  | file (text : String)
  /-- A file whose bytes are no text. -/
  | binary
deriving DecidableEq, Repr

/-- The nodes below the folder, by path. -/
structure Folder where
  nodes : Dict Node

namespace Folder

def empty : Folder := ⟨.empty⟩

instance : Inhabited Folder := ⟨empty⟩

/-! ### Paths -/

def parts (path : String) : List String := (path.toList.splitOn '/').map String.ofList

/-- Whether a part of a path names a node. Names have at most 255 bytes; no characters or a point
stand for the directory itself, and two points for the one that it is in. -/
def isName (part : String) : Bool :=
  part ≠ "" && part ≠ "." && part ≠ ".." && part.utf8ByteSize < 256 && !part.contains '\x00'

/-- The key of the node that is reached through the named directories. -/
def join (names : List String) : String := "/".intercalate names

/-- The directory that is reached from another one. Nothing leads out of the folder. -/
def walk? (folder : Folder) (names : List String) : List String → Option (List String)
  | [] => some names
  | part :: rest =>
    if part = "" ∨ part = "." then walk? folder names rest
    else if part = ".." then
      if names.isEmpty then none else walk? folder names.dropLast rest
    else if folder.nodes.get? (join (names ++ [part])) = some .directory then
      walk? folder (names ++ [part]) rest
    else none

/-- The key of the node at a path that ends with a name, if its directory is there. -/
def place? (folder : Folder) (path : String) : Option String := do
  let name ← (parts path).getLast?
  let names ← folder.walk? [] (parts path).dropLast
  if isName name then some (join (names ++ [name])) else none

def node? (folder : Folder) (path : String) : Option Node :=
  (folder.place? path).bind folder.nodes.get?

/-! ### Operations -/

def inaccessible (path : String) : Error := .inaccessible path "no such text file"

def read (folder : Folder) (path : String) : Except Error String :=
  match folder.node? path with
  | some (.file text) => .ok text
  | _ => .error (inaccessible path)

def put (folder : Folder) (path : String) (node : Node) : Except Error Folder :=
  match folder.place? path with
  | none => .error (inaccessible path)
  | some place =>
    if folder.nodes.get? place = some .directory then .error (inaccessible path)
    else .ok ⟨folder.nodes.insert place node⟩

/-- Writes a text in one step (`atomic_write`): the file is replaced as a whole, or the folder stays
as it was. -/
def write (folder : Folder) (path text : String) : Outcome Folder Unit :=
  match folder.put path (.file text) with
  | .ok folder => ⟨folder, .ok (), [.storeWritten], []⟩
  | .error e => .failed folder e []

/-- Makes the directories along a path that are not there yet. -/
def makeDirectories (folder : Folder) (names : List String) : List String → Option Folder
  | [] => some folder
  | part :: rest =>
    if part = "" ∨ part = "." then makeDirectories folder names rest
    else if part = ".." then
      if names.isEmpty then none else makeDirectories folder names.dropLast rest
    else
      let place := join (names ++ [part])
      match folder.nodes.get? place with
      | some .directory => makeDirectories folder (names ++ [part]) rest
      | some _ => none
      | none =>
        if isName part then
          makeDirectories ⟨folder.nodes.insert place .directory⟩ (names ++ [part]) rest
        else none

def makeDirectory (folder : Folder) (path : String) : Except Error Folder :=
  match folder.makeDirectories [] (parts path) with
  | some folder => .ok folder
  | none => .error (inaccessible path)

end Folder

end Preferences
