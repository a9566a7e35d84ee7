import ScriptDoc.Failure
import ScriptDoc.Pattern

-- Which files the arguments of a command ask for.
namespace ScriptDoc.Inputs

-- Files that are taken from a directory.
def scriptExtensions : List Text := ["sh", "bash", "bats", "zsh", "ksh"]

def isScript (path : Text) : Bool :=
  match Path.extension path with
  | some extension => scriptExtensions.contains extension
  | none => false

def scriptsIn (tree : FileTree) (directory : Text) (names : List Text) : List Text :=
  (names.map (Path.child directory)).filter fun path => tree.isFile path && isScript path

-- The files of one argument: a file itself, the scripts of a directory, or what a pattern leads to.
def ofArgument (tree : FileTree) (argument : Text) : Except Failure (List Text) :=
  if tree.isFile argument then .ok [argument]
  else if tree.isDirectory argument then
    match tree.list argument with
    | .ok names => .ok (scriptsIn tree argument names)
    | .error _ => .error (.unlisted argument)
  else match Pattern.parse argument with
    | none => .error (.invalidPattern argument)
    | some pieces => .ok ((Pattern.matching tree argument pieces).filter tree.isFile)

-- A pattern that leads to no file is worth a warning, an empty directory is not.
def warns (tree : FileTree) (argument : Text) (files : List Text) : Bool :=
  !tree.isFile argument && !tree.isDirectory argument && files.isEmpty

structure Found where
  files : List Text
  unmatched : List Text
  -- The directory or pattern at which the search had to stop.
  failure : Option Failure
  deriving Repr, DecidableEq

def collect (tree : FileTree) : List Text → Found
  | [] => ⟨[], [], none⟩
  | argument :: rest =>
    match ofArgument tree argument with
    | .error failure => ⟨[], [], some failure⟩
    | .ok files =>
      let more := collect tree rest
      ⟨files ++ more.files, (if warns tree argument files then [argument] else []) ++ more.unmatched,
        more.failure⟩

-- Of neighbours that are the same path the first stays.
def dropRepeated : List Text → List Text
  | [] => []
  | path :: rest =>
    match dropRepeated rest with
    | [] => [path]
    | next :: more => if Path.same path next then path :: more else path :: next :: more

def ordered (files : List Text) : List Text := dropRepeated (files.mergeSort Path.le)

end ScriptDoc.Inputs
