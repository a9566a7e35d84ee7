import ScriptDoc.Document
import ScriptDoc.Failure
import ScriptDoc.FileTree

-- Where pages go.
namespace ScriptDoc.Output

def standard : Text := "-"

def isStandard (output : Option Text) : Bool := output == none || output == some standard

def baseName (filename : Text) : Text := (Path.stem filename).getD []

-- The placeholders are filled in one after another, so text that was put in for an earlier one can
-- hold a later one.
def expand (pattern filename extension : Text) : Text :=
  Text.replace "\x7bext\x7d" extension
    (Text.replace "\x7bbasename\x7d" (baseName filename)
      (Text.replace "\x7bfilename\x7d" filename pattern))

def isConcrete (output : Text) : Bool := output != standard && '\x7b' ∉ output

-- A name for a document without a file: the stem of the output, else the name of the first document.
def guessName (output : Option Text) (docs : List Document) : Text :=
  match (output.filter isConcrete).bind Path.stem with
  | some stem => stem
  | none => (docs.head?.map (·.filename)).getD []

-- Files to be written, with their content. Paths that name the same place are one file.
abbrev Plan := List (Text × Text)

def Plan.add (path content : Text) : Plan → Plan
  | [] => [(path, content)]
  | (p, held) :: rest =>
    if Path.same p path then (p, held ++ content) :: rest else (p, held) :: Plan.add path content rest

def Plan.ofPages (pages : List (Text × Text)) : Plan :=
  pages.foldl (fun plan e => plan.add e.1 e.2) []

-- The directory of a path, when it names one.
def directoryOf (path : Text) : Option Text := (Path.parent path).filter (· ≠ [])

def prepare (tree : FileTree) (path : Text) : Except (FileTree × Failure) FileTree :=
  match directoryOf path with
  | none => .ok tree
  | some directory =>
    match tree.makeDirectories (tree.start directory) (directory.splitOn '/') with
    | .ok next => .ok next
    | .error left => .error (left, .noDirectory directory)

-- One file, after the directory that holds it. A failure comes with the tree that it leaves.
def writeFile (tree : FileTree) (path content : Text) : Except (FileTree × Failure) FileTree :=
  match prepare tree path with
  | .error ended => .error ended
  | .ok ready =>
    match ready.write path content with
    | .ok next => .ok next
    | .error left => .error (left, .unwritable path)

structure Written where
  tree : FileTree
  failure : Option Failure
  deriving Repr, DecidableEq

-- The first file that cannot be written ends the run.
def Plan.write (tree : FileTree) : Plan → Written
  | [] => ⟨tree, none⟩
  | (path, content) :: rest =>
    match writeFile tree path content with
    | .ok next => Plan.write next rest
    | .error (left, failure) => ⟨left, some failure⟩

end ScriptDoc.Output
