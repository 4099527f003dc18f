import TrustedAppId.Text.Blank
/-! Trees of directories, regular files and symbolic links, as values. A path is followed component
by component from the root or from the working directory, through links, and leads to a location:
the names from the root down, with no link among them. A write stores a text at the location that
its path leads to and nowhere else; it creates the file if there is none, but no directory. -/
namespace TrustedAppId

/-! Why an access to a file fails. -/

inductive FileFault where
  | notFound
  | notDirectory
  | isDirectory
  | nameTooLong
  | tooManyLinks
  /-- The path holds the character U+0000. -/
  | nulInPath
  /-- The octets of the file are not UTF-8. -/
  | notText
  /-- A refusal that trees of files do not know, with the system's words for it. -/
  | other (words : String)
deriving DecidableEq

def FileFault.message : FileFault → String
  | .notFound => "No such file or directory (os error 2)"
  | .notDirectory => "Not a directory (os error 20)"
  | .isDirectory => "Is a directory (os error 21)"
  | .nameTooLong => "File name too long (os error 36)"
  | .tooManyLinks => "Too many levels of symbolic links (os error 40)"
  | .nulInPath => "file name contained an unexpected NUL byte"
  | .notText => "stream did not contain valid UTF-8"
  | .other words => words

/-! File paths as strings. `join` puts a name below a directory; `Path.ofString` cuts a path into
its components, of which empty ones do not count. -/

namespace FileTree

/-- `name` below the directory `dir`; an empty `dir` stands for the working directory. -/
def join (dir name : String) : String :=
  if dir.isEmpty then name
  else if dir.toList.getLast? = some '/' then dir ++ name
  else dir ++ "/" ++ name

/-- A path taken apart. `slash` records a slash behind the last component, which asks for a
directory there. -/
structure Path where
  absolute : Bool
  components : List String
  slash : Bool
deriving DecidableEq

def Path.ofString (text : String) : Path where
  absolute := text.toList.head? = some '/'
  components := ((Text.split '/' text.toList).filter fun piece => !piece.isEmpty).map String.ofList
  slash := text.toList.getLast? = some '/' && text.toList.any (· ≠ '/')

end FileTree

/-! Trees. -/

/-- What a regular file holds: a text, or octets that are no text. -/
inductive Contents where
  | text (text : String)
  | octets (octets : List UInt8)
deriving DecidableEq

inductive Entry where
  | directory
  | file (contents : Contents)
  | link (target : String)
deriving DecidableEq

/-- The names from the root down. -/
abbrev Location := List String

/-- The entries below the root, which is itself always a directory. -/
structure FileTree where
  entries : List (Location × Entry)
  workingDirectory : Location

namespace FileTree

def get? (tree : FileTree) (place : Location) : Option Entry :=
  if place = [] then some .directory else tree.entries.lookup place

def put (place : Location) (entry : Entry) : List (Location × Entry) → List (Location × Entry)
  | [] => [(place, entry)]
  | (other, old) :: rest =>
    if other = place then (place, entry) :: rest else (other, old) :: put place entry rest

def set (tree : FileTree) (place : Location) (entry : Entry) : FileTree :=
  { tree with entries := put place entry tree.entries }

/-- Where a path is allowed to lead. -/
inductive Purpose where
  /-- To an entry other than a link. -/
  | lookup
  /-- To an entry other than a link, or to a free name for a regular file. -/
  | create
  /-- To any entry; a link in the last place is not followed. -/
  | entry
deriving DecidableEq

/-- The longest name of an entry, in octets. -/
def longestName : Nat := 255

/-- One octet more than the longest path. -/
def pathLimit : Nat := 4096

/-- How many links may be followed on one path. -/
def linkLimit : Nat := 40

/-- Follows `todo` from the directory `here`. The result is a location that holds an entry, or a
free one in a directory. `slash` says that the path ends in a slash. -/
def walk (tree : FileTree) (purpose : Purpose) (links : Nat) (here : Location)
    (todo : List String) (slash : Bool) : Except FileFault Location :=
  match todo with
  | [] => .ok here
  | name :: rest =>
    if name = "." then walk tree purpose links here rest slash
    else if name = ".." then walk tree purpose links here.dropLast rest slash
    else if purpose = .create ∧ rest = [] ∧ slash then .error .isDirectory
    else if name.utf8ByteSize > longestName then .error .nameTooLong
    else
      let there := here ++ [name]
      match tree.get? there with
      | none => if rest = [] then .ok there else .error .notFound
      | some .directory => walk tree purpose links there rest slash
      | some (.file _) => if rest = [] ∧ ¬ slash then .ok there else .error .notDirectory
      | some (.link target) =>
        if rest = [] ∧ ¬ slash ∧ purpose = .entry then .ok there
        else match links with
          | 0 => .error .tooManyLinks
          | links + 1 =>
            let path := Path.ofString target
            walk tree purpose links (if path.absolute then [] else here)
              (path.components ++ rest) (slash || (rest = [] && path.slash))
termination_by (links, todo.length)

/-- The location that a path leads to. -/
def resolve (tree : FileTree) (purpose : Purpose) (path : String) : Except FileFault Location :=
  if path.toList.contains '\x00' then .error .nulInPath
  else if path.isEmpty then .error .notFound
  else if path.utf8ByteSize ≥ pathLimit then .error .nameTooLong
  else
    let parts := Path.ofString path
    walk tree purpose linkLimit (if parts.absolute then [] else tree.workingDirectory)
      parts.components parts.slash

def isDirectory (tree : FileTree) (path : String) : Bool :=
  match tree.resolve .lookup path with
  | .ok place => tree.get? place = some .directory
  | .error _ => false

def read (tree : FileTree) (path : String) : Except FileFault String := do
  let place ← tree.resolve .lookup path
  match tree.get? place with
  | some (.file (.text text)) => .ok text
  | some (.file (.octets _)) => .error .notText
  | some _ => .error .isDirectory
  | none => .error .notFound

/-- Stores the contents of a file and leaves nothing of the old ones. -/
def write (tree : FileTree) (path : String) (contents : Contents) : Except FileFault FileTree := do
  let place ← tree.resolve .create path
  match tree.get? place with
  | some .directory => .error .isDirectory
  | _ => .ok (tree.set place (.file contents))

/-! Arranging a tree: directories with their parents, links, removal. -/

/-- Makes the directory `path` and those above it, where they are missing. -/
def makeDirectories (tree : FileTree) (path : String) : Except FileFault FileTree :=
  let parts := Path.ofString path
  let start := if parts.absolute then "/" else ""
  let step (state : FileTree × String) (name : String) :
      Except FileFault (FileTree × String) := do
    let (tree, done) := state
    let here := done ++ name
    let place ← tree.resolve .lookup here
    match tree.get? place with
    | none => pure (tree.set place .directory, here ++ "/")
    | some .directory => pure (tree, here ++ "/")
    | some _ => throw .notDirectory
  (parts.components.foldlM step (tree, start)).map Prod.fst

def makeLink (tree : FileTree) (target path : String) : Except FileFault FileTree := do
  let place ← tree.resolve .entry path
  match tree.get? place with
  | none => pure (tree.set place (.link target))
  | some _ => throw (.other "File exists (os error 17)")

/-- Removes an entry with all that lies below it. -/
def remove (tree : FileTree) (path : String) : Except FileFault FileTree := do
  let place ← tree.resolve .entry path
  match tree.get? place with
  | none => throw .notFound
  | some _ =>
    pure { tree with entries := tree.entries.filter fun (other, _) => !place.isPrefixOf other }

/-- The entries below a location, with their paths from there. -/
def below (tree : FileTree) (place : Location) : List (String × Entry) :=
  tree.entries.filterMap fun (other, entry) =>
    if place.isPrefixOf other && other.length > place.length then
      some ("/".intercalate (other.drop place.length), entry)
    else none

end FileTree

end TrustedAppId
