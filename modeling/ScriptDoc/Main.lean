import ScriptDoc.Run

-- The program itself: it gathers what a run can see, runs, and carries out what came of it.
namespace ScriptDoc.Program

def text (s : String) : Text := s.toList

def spelled (place : List Text) : String := String.ofList ('/' :: Text.join "/" place)

-- What cannot be read is there all the same.
def closed : Access := { Access.full with read := false }

-- What stands at a place, and below it as deep as the bound goes. Only files and directories count.
def readBelow (place : List Text) : Nat → IO (List (List Text × Node))
  | 0 => return []
  | depth + 1 => do
    try
      let path ← IO.FS.realPath (spelled place)
      match (← path.metadata).type with
      | .dir =>
        let listed ← try pure (some (← path.readDir).toList) catch _ => pure none
        match listed with
        | none => return [(place, .directory closed)]
        | some entries =>
          let below ← entries.mapM fun e => readBelow (place ++ [text e.fileName]) depth
          return (place, .directory .full) :: below.flatten
      | .file =>
        try
          let bytes ← IO.FS.readBinFile path
          return [(place, .file .full bytes.toList)]
        catch _ => return [(place, .file closed [])]
      | _ => return []
    catch _ => return []

def isWild (piece : Text) : Bool := piece.any ['*', '?', '['].contains

-- The place that the pieces of a path spell, up to the first wildcard.
def placeOf (home : List Text) (path : Text) : List Text :=
  ((path.splitOn '/').takeWhile (!isWild ·)).foldl (fun place piece =>
    if Path.isIdle piece then place
    else if piece = ".." then place.dropLast
    else place ++ [piece]) (if path.head? = some '/' then [] else home)

-- How deep a directory is read for a path that is given.
def depthFor (path : Text) : Nat := if path.any ['*', '?', '['].contains then 64 else 2

def mentioned : Invocation → List Text
  | .run c => c.files ++ c.contextFile.toList ++ c.output.toList
  | _ => []

-- The working directory, and beside it only what the arguments lead to.
def readTree (asked : Invocation) : IO FileTree := do
  let home := ((text (← IO.currentDir).toString).splitOn '/').filter (· ≠ [])
  let inside ← readBelow home 64
  let outside ← (mentioned asked).mapM fun path => do
    let place := placeOf home path
    if home.isPrefixOf place then return []
    let above ← (List.range place.length).mapM fun n => readBelow (place.take n) 1
    return above.flatten ++ (← readBelow place (depthFor path))
  let above ← (List.range home.length).mapM fun n => readBelow (home.take n) 1
  return ⟨.full, (above.flatten ++ inside ++ outside.flatten).filter (·.1 ≠ []), home⟩

def variableOf (entry : Utf8.Bytes) : Option (Text × Text) :=
  (Utf8.decode entry).bind (Text.cut '=')

-- The environment as the system shows it to the process; nothing where it is not shown.
def readVariables : IO (List (Text × Text)) := do
  try
    let bytes ← IO.FS.readBinFile "/proc/self/environ"
    return (pieces (· == 0) bytes.toList).filterMap variableOf
  catch _ => return []

def readsInput : Invocation → Bool
  | .run c => c.files.isEmpty
  | _ => false

def writeFile (change : List Text × Utf8.Bytes) : IO Unit := do
  IO.FS.createDirAll (spelled change.1.dropLast)
  IO.FS.writeBinFile (spelled change.1) ⟨change.2.toArray⟩

def report (o : Outcome) : IO Unit := do
  for notice in o.notices do IO.eprintln (String.ofList notice.text)
  IO.print (String.ofList o.output)
  match o.failure with
  | some failure => IO.eprintln ("Error: " ++ String.ofList failure.message)
  | none => pure ()

def perform (args : List String) : IO UInt32 := do
  let asked := CommandLine.parse (args.map text)
  let input ← if readsInput asked then (← IO.getStdin).readBinToEnd else pure ByteArray.empty
  let world : World := ⟨← readTree asked, input.toList, ← readVariables⟩
  let outcome := Run.invocation world asked
  for change in FileTree.written world.tree outcome.tree do writeFile change
  report outcome
  return outcome.exit.toUInt32

end ScriptDoc.Program

def main (args : List String) : IO UInt32 := ScriptDoc.Program.perform args
