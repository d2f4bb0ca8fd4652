import XmlSettings.Entries
import XmlSettings.FileTree.Path
import XmlSettings.Text.System

/-! # File trees

Files, directories and symbolic links by name, and the few things that are done with them: reading,
replacing and extending files, and making directories.

A path is walked name by name, from the top directory if it starts with a slash and from the working
directory otherwise.  Links on the way are followed, a limited number of times; whether a link at the
very end is followed depends on the operation.
-/

namespace XmlSettings

namespace FileTree

inductive Node where
  | file (content : ByteArray)
  | directory
  | link (target : Text)

inductive Fault where
  | notFound
  | notADirectory
  | isADirectory
  | alreadyExists
  /-- A link leads on and on, or stands where none is allowed. -/
  | unwantedLink
  | nameTooLong
  | unencodable
  | nullByte
  /-- A path holds the character U+0000, where the operation is named. -/
  | nullCharacter (operation : Text)
deriving DecidableEq

def Fault.message? : Fault → Option Text
  | nullByte => some "embedded null byte"
  | nullCharacter operation => some (operation ++ ": embedded null character in path")
  | _ => none

/-- Names from a place up to the top of the tree. -/
abbrev Place := List Text

def Place.path (place : Place) : Text := Text.intercalate "/" place.reverse

end FileTree

open FileTree in
/-- Files, directories and links below the top directory, by path. -/
structure FileTree where
  nodes : Entries Text Node
  /-- Where paths start that do not start at the top directory. -/
  working : Place

namespace FileTree

def empty (working : Place) : FileTree := ⟨[], working⟩

def nodeAt (tree : FileTree) (place : Place) : Option Node :=
  if place <:+ tree.working then some .directory else tree.nodes.get? place.path

def put (tree : FileTree) (place : Place) (node : Node) : FileTree :=
  { tree with nodes := tree.nodes.put place.path node }

/-! ## Walking a path -/

inductive Found where
  | node (place : Place) (node : Node)
  | nothing (place : Place)

/-- At most so many links are followed on one walk. -/
def linkLimit : Nat := 40

/-- Names have at most so many bytes. -/
def nameLimit : Nat := 255

def start (tree : FileTree) (path : Text) : Place :=
  if Path.isAbsolute path then [] else tree.working

def walk (tree : FileTree) (followLast : Bool) (links : Nat) (here : Place) (names : List Text) :
    Except Fault Found :=
  match names with
  | [] => .ok (.node here .directory)
  | name :: rest =>
    if name = "" ∨ name = "." then tree.walk followLast links here rest
    else if name = ".." then tree.walk followLast links here.tail rest
    else if nameLimit < name.systemSize then .error .nameTooLong
    else match tree.nodeAt (name :: here) with
      | none => if rest.isEmpty then .ok (.nothing (name :: here)) else .error .notFound
      | some .directory => tree.walk followLast links (name :: here) rest
      | some (.file content) =>
        if rest.isEmpty then .ok (.node (name :: here) (.file content)) else .error .notADirectory
      | some (.link target) =>
        if rest.isEmpty ∧ !followLast then .ok (.node (name :: here) (.link target))
        else match links with
          | 0 => .error .unwantedLink
          | links + 1 =>
            let here := if Path.isAbsolute target then [] else here
            tree.walk followLast links here (Path.names target ++ rest)
termination_by (links, names.length)

/-- A path as the operating system takes it, with the fault that the character U+0000 in it is. -/
def systemPath (null : Fault) (path : Text) : Except Fault Text :=
  match path.systemForm? with
  | none => .error .unencodable
  | some path => if path.toList.contains '\x00' then .error null else .ok path

def find (tree : FileTree) (followLast : Bool) (path : Text) : Except Fault Found :=
  if path = "" then .error .notFound
  else tree.walk followLast linkLimit (tree.start path) (Path.names path)

/-- Find where a path leads, with all links followed. -/
def target? (tree : FileTree) (path : Text) : Option Node :=
  match systemPath .nullByte path with
  | .error _ => none
  | .ok path =>
    match tree.find true path with
    | .ok (.node _ node) => some node
    | _ => none

def hasNode (tree : FileTree) (path : Text) : Bool :=
  (tree.target? path).isSome

def hasDirectory (tree : FileTree) (path : Text) : Bool :=
  match tree.target? path with
  | some .directory => true
  | _ => false

/-! ## Files -/

def read (tree : FileTree) (path : Text) : Except Fault ByteArray := do
  let path ← systemPath .nullByte path
  match ← tree.find true path with
  | .node _ (.file content) => .ok content
  | .node _ .directory => .error .isADirectory
  | .node _ (.link _) | .nothing _ => .error .notFound

/-- A path without the slashes at its end, of which one is left where there is nothing else. -/
def withoutTrailingSlashes (path : Text) : Text :=
  let kept := (path.toList.reverse.dropWhile (· == .char '/')).reverse
  Text.ofList (if kept.isEmpty then path.toList.take 1 else kept)

/-- Replace the content of a file, or make the file.  A link is no file here, and a path with a slash
    at its end can only be a directory. -/
def replace (tree : FileTree) (path : Text) (content : ByteArray) : Except Fault FileTree := do
  let path ← systemPath (.nullCharacter "open") path
  -- A fault on the way is found before the slash at the end is.
  let named := withoutTrailingSlashes path
  let found ← tree.find false named
  if named ≠ path then .error .isADirectory
  else match found with
    | .node place (.file _) | .nothing place => .ok (tree.put place (.file content))
    | .node _ .directory => .error .isADirectory
    | .node _ (.link _) => .error .unwantedLink

def openAtEnd (tree : FileTree) (path : Text) : Except Fault (FileTree × Place) := do
  let path ← systemPath .nullByte path
  match ← tree.find true path with
  | .node place (.file _) => .ok (tree, place)
  | .nothing place => .ok (tree.put place (.file ByteArray.empty), place)
  | .node _ .directory => .error .isADirectory
  | .node _ (.link _) => .error .notFound

/-- Add text at the end of a file, unless it has no encoding. -/
def extend (tree : FileTree) (place : Place) (text : Text) : FileTree :=
  match tree.nodeAt place, text.string? with
  | some (.file content), some s => tree.put place (.file (content ++ s.toByteArray))
  | _, _ => tree

/-! ## Directories -/

def makeDirectory (tree : FileTree) (path : Text) : Except Fault FileTree := do
  let path ← systemPath (.nullCharacter "mkdir") path
  match ← tree.find false path with
  | .nothing place => .ok (tree.put place .directory)
  | .node _ _ => .error .alreadyExists

/-- Make a directory and the missing ones above it.  The path is given by the slashes in front and by
    its names, last one first.  Directories that were made before a fault stay. -/
def makeDirectories (tree : FileTree) (root : Text) : Place → FileTree × Except Fault Unit
  | [] => (tree, .ok ())
  | name :: above =>
    let isMissing := !above.isEmpty && !tree.hasNode (root ++ Place.path above)
    let (tree, made) :=
      if isMissing then
        match tree.makeDirectories root above with
        | (tree, .error .alreadyExists) => (tree, .ok ())
        | made => made
      else (tree, .ok ())
    match made with
    | .error fault => (tree, .error fault)
    | .ok () =>
      if isMissing ∧ name = "." then (tree, .ok ())
      else
        let path := root ++ Place.path (name :: above)
        match tree.makeDirectory path with
        | .ok tree => (tree, .ok ())
        | .error fault => if tree.hasDirectory path then (tree, .ok ()) else (tree, .error fault)

/-! ## Building a tree -/

def withDirectory (tree : FileTree) : Place → FileTree
  | [] => tree
  | name :: above =>
    let tree := tree.withDirectory above
    match tree.nodeAt (name :: above) with
    | some _ => tree
    | none => tree.put (name :: above) .directory

def withNode (tree : FileTree) (path : Text) (node : Node) : FileTree :=
  let place := (Path.normalNames (tree.start path) path).reverse
  (tree.withDirectory place.tail).put place node

/-- The path from the top directory for any path, as if no name were a link. -/
def absolutePath (tree : FileTree) (path : Text) : Text :=
  let root := if Path.isAbsolute path then Path.root path else "/"
  root ++ Text.intercalate "/" (Path.normalNames (tree.start path) path)

def ofContents (working : Place) (directories : List Text) (files : List (Text × ByteArray))
    (links : List (Text × Text)) : FileTree :=
  let tree := directories.foldl (fun tree path =>
    tree.withDirectory (Path.normalNames (tree.start path) path).reverse) (empty working)
  let tree := files.foldl (fun tree (path, content) => tree.withNode path (.file content)) tree
  links.foldl (fun tree (path, target) => tree.withNode path (.link target)) tree

end FileTree

end XmlSettings
