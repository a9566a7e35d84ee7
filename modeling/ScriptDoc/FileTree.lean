import ScriptDoc.Path
import ScriptDoc.Source

namespace ScriptDoc

-- What the system allows with what stands at a place.
structure Access where
  -- To read a file, to list a directory.
  read : Bool
  -- To write a file, to put something new into a directory.
  write : Bool
  -- To go on from a directory.
  enter : Bool
  -- How many bytes of a file can be written before the system gives up; no number is no limit.
  room : Option Nat
  deriving Repr, DecidableEq

namespace Access

def full : Access := ⟨true, true, true, none⟩

-- What is made in a directory belongs to who makes it, but lies where the directory lies.
def made (holder : Access) : Access := { full with room := holder.room }

-- What of a content is written.
def kept (access : Access) (content : Utf8.Bytes) : Utf8.Bytes :=
  match access.room with
  | some n => content.take n
  | none => content

end Access

inductive Node where
  | file (access : Access) (content : Utf8.Bytes)
  | directory (access : Access)
  deriving Repr, DecidableEq

def Node.access : Node → Access
  | .file access _ => access
  | .directory access => access

-- Everything below the root, by the names that lead there from the root.
structure FileTree where
  root : Access
  entries : List (List Text × Node)
  -- The working directory.
  home : List Text
  deriving Repr, DecidableEq

namespace FileTree

-- Nothing but the directories that lead to the working directory.
def bare (home : List Text) : FileTree :=
  ⟨.full, (List.range home.length).map fun n => (home.take (n + 1), .directory .full), home⟩

def nodeAt (tree : FileTree) : List Text → Option Node
  | [] => some (.directory tree.root)
  | place => tree.entries.lookup place

def start (tree : FileTree) (path : Text) : List Text :=
  if path.head? = some '/' then [] else tree.home

-- One piece of a path. Every piece needs a directory to stand in; an empty one asks for no more, any
-- other one is looked up there. Above the root is the root.
def step (tree : FileTree) (place : List Text) (piece : Text) : Except ReadFault (List Text) :=
  match tree.nodeAt place with
  | none => .error .notFound
  | some (.file _ _) => .error .notDirectory
  | some (.directory access) =>
    if piece ≠ [] && !access.enter then .error .denied
    else if Path.isIdle piece then .ok place
    else if piece = ".." then
      match tree.nodeAt place.dropLast with
      | some (.directory _) => .ok place.dropLast
      | _ => .error .notDirectory
    else if (tree.nodeAt (place ++ [piece])).isSome then .ok (place ++ [piece])
    else .error .notFound

def walk (tree : FileTree) (place : List Text) : List Text → Except ReadFault (List Text)
  | [] => .ok place
  | piece :: rest =>
    match tree.step place piece with
    | .ok next => tree.walk next rest
    | .error fault => .error fault

-- Where a path leads, and what is there.
def locate (tree : FileTree) (path : Text) : Except ReadFault (List Text × Node) :=
  if path = [] then .error .notFound
  else match tree.walk (tree.start path) (path.splitOn '/') with
    | .error fault => .error fault
    | .ok place =>
      match tree.nodeAt place with
      | some node => .ok (place, node)
      | none => .error .notFound

def isFile (tree : FileTree) (path : Text) : Bool :=
  match tree.locate path with
  | .ok (_, .file _ _) => true
  | _ => false

def isDirectory (tree : FileTree) (path : Text) : Bool :=
  match tree.locate path with
  | .ok (_, .directory _) => true
  | _ => false

def present (tree : FileTree) (path : Text) : Bool :=
  match tree.locate path with
  | .ok _ => true
  | .error _ => false

def namesAt (tree : FileTree) (place : List Text) : List Text :=
  tree.entries.filterMap fun e =>
    if e.1.dropLast = place then e.1.getLast?.filter Path.isName else none

-- The names in a directory.
def list (tree : FileTree) (path : Text) : Except ReadFault (List Text) :=
  match tree.locate path with
  | .error fault => .error fault
  | .ok (_, .file _ _) => .error .notDirectory
  | .ok (place, .directory access) =>
    if access.read then .ok (tree.namesAt place) else .error .denied

-- What a path leads to, if it may be read.
def opened (tree : FileTree) (path : Text) : Except ReadFault Node :=
  match tree.locate path with
  | .error fault => .error fault
  | .ok (_, node) => if node.access.read then .ok node else .error .denied

def readBytes (tree : FileTree) (path : Text) : Except ReadFault Utf8.Bytes :=
  match tree.opened path with
  | .error fault => .error fault
  | .ok (.file _ content) => .ok content
  | .ok (.directory _) => .error .isDirectory

def readText (tree : FileTree) (path : Text) : Except ReadFault Text :=
  match tree.readBytes path with
  | .ok bytes =>
    match Utf8.decode bytes with
    | some t => .ok t
    | none => .error .notUtf8
  | .error fault => .error fault

-- A directory can be opened; only reading from it fails.
def openSource (tree : FileTree) (path : Text) : Except ReadFault (Source ReadFault) :=
  match tree.opened path with
  | .error fault => .error fault
  | .ok (.file _ content) => .ok (.ofBytes content)
  | .ok (.directory _) => .ok [.error .isDirectory]

def putIn (place : List Text) (node : Node) : List (List Text × Node) → List (List Text × Node)
  | [] => [(place, node)]
  | e :: rest => if e.1 = place then (place, node) :: rest else e :: putIn place node rest

def put (tree : FileTree) (place : List Text) (node : Node) : FileTree :=
  { tree with entries := putIn place node tree.entries }

-- Walks like `walk`, and makes the directories that are missing. What was made stays, also when a
-- later one cannot be made.
def makeDirectories (tree : FileTree) (place : List Text) : List Text → Except FileTree FileTree
  | [] =>
    match tree.nodeAt place with
    | some (.directory _) => .ok tree
    | _ => .error tree
  | piece :: rest =>
    match tree.step place piece with
    | .ok next => tree.makeDirectories next rest
    | .error .notFound =>
      match tree.nodeAt place with
      | some (.directory access) =>
        if access.write then
          FileTree.makeDirectories (tree.put (place ++ [piece]) (.directory access.made))
            (place ++ [piece]) rest
        else .error tree
      | _ => .error tree
    | .error _ => .error tree

-- A file is emptied before it is written, so it loses its content also when there is no room for the
-- new one.
def store (tree : FileTree) (place : List Text) (access : Access) (content : Utf8.Bytes) :
    Except FileTree FileTree :=
  let next := tree.put place (.file access (access.kept content))
  if access.kept content = content then .ok next else .error next

def writeIn (tree : FileTree) (place : List Text) (name : Text) (content : Utf8.Bytes) :
    Except FileTree FileTree :=
  match tree.nodeAt place with
  | some (.directory holder) =>
    if holder.enter then
      match tree.nodeAt (place ++ [name]) with
      | some (.directory _) => .error tree
      | some (.file access _) =>
        if access.write then tree.store (place ++ [name]) access content else .error tree
      | none => if holder.write then tree.store (place ++ [name]) holder.made content else .error tree
    else .error tree
  | _ => .error tree

-- The directory that holds a path has to exist, and the last piece has to name a file or nothing. The
-- tree that comes back is what is left, whether all was written or not.
def write (tree : FileTree) (path : Text) (content : Text) : Except FileTree FileTree :=
  let pieces := path.splitOn '/'
  match pieces.getLast? with
  | none => .error tree
  | some last =>
    if Path.isIdle last || last = ".." then .error tree
    else match tree.walk (tree.start path) pieces.dropLast with
      | .error _ => .error tree
      | .ok place => tree.writeIn place last (Utf8.encode content)

-- The tree after an attempt, whatever came of it.
def left : Except FileTree FileTree → FileTree
  | .ok next => next
  | .error next => next

-- A tree with one more directory or file below the working directory, and with the directories that
-- lead there.
def addDirectory (tree : FileTree) (path : Text) : FileTree :=
  left (tree.makeDirectories tree.home (path.splitOn '/'))

def addFile (tree : FileTree) (path : Text) (content : Utf8.Bytes) : FileTree :=
  let names := (path.splitOn '/').filter (!Path.isIdle ·)
  let holder := tree.addDirectory (Text.join "/" names.dropLast)
  holder.put (tree.home ++ names) (.file .full content)

-- The files that the second tree has and the first one has not, or has with other content.
def written (before after : FileTree) : List (List Text × Utf8.Bytes) :=
  after.entries.filterMap fun e =>
    match e.2 with
    | .directory _ => none
    | .file _ content =>
      match before.nodeAt e.1 with
      | some (.file _ old) => if old = content then none else some (e.1, content)
      | _ => some (e.1, content)

-- Those of them that lie below the working directory, by their paths from there, sorted.
def changes (before after : FileTree) : List (Text × Utf8.Bytes) :=
  let changed := (written before after).filterMap fun e =>
    if before.home.isPrefixOf e.1 then some (Text.join "/" (e.1.drop before.home.length), e.2) else none
  changed.mergeSort fun a b => Text.le a.1 b.1

end FileTree
end ScriptDoc
