import ScriptDoc.FileTree
import ScriptDoc.Failure
import ScriptDoc.Json.Parser
import ScriptDoc.Json.Printer
import ScriptDoc.Text.LetterCase

-- Values handed to the pages beside the document.
namespace ScriptDoc

abbrev Context := List (Text × Json)

namespace Context

def get (context : Context) (name : Text) : Option Json := context.lookup name

def members : Option Json → Context
  | some (.object inner) => inner
  | _ => []

-- Objects are laid over each other member by member; any other value replaces what was there.
mutual
def overlay (old : Option Json) : Json → Json
  | .object inner => .object (update (members old) inner)
  | .null => .null
  | .bool b => .bool b
  | .number n => .number n
  | .string t => .string t
  | .array items => .array items

def update (base : Context) : List (Text × Json) → Context
  | [] => base
  | (name, value) :: rest => update (Json.put name (overlay (base.lookup name) value) base) rest
end

-- Only the top level is replaced, member by member.
def putAll (base added : Context) : Context := added.foldl (fun acc e => Json.put e.1 e.2 acc) base

-- A value below a chain of names, one member a level.
def nest (names : List Text) (value : Json) : Json :=
  names.foldr (fun name inner => .object [(name, inner)]) value

-- One argument: an object, an assignment to a dotted name, or nothing of interest.
def addArgument (context : Context) (argument : Text) : Except Failure Context :=
  if argument.head? = some '\x7b' then
    match Json.parseObject argument with
    | some found => .ok (context.putAll found)
    | none => .error (.contextArgument argument)
  else match Text.cut '=' argument with
    | none => .ok context
    | some (name, value) =>
      match name.splitOn '.' with
      | [] => .ok context
      | head :: rest => .ok (Json.put head (nest rest (.string value)) context)

def addArguments (context : Context) : List Text → Except Failure Context
  | [] => .ok context
  | argument :: rest =>
    match context.addArgument argument with
    | .ok next => addArguments next rest
    | .error failure => .error failure

def ofArguments (arguments : List Text) : Except Failure Context := addArguments [] arguments

def variableStart : Text := "SHELLMAN_CONTEXT_"

-- Names lose the common beginning and are written in lower case.
def ofVariables (environment : List (Text × Text)) : Context :=
  putAll [] (environment.filterMap fun (name, value) =>
    (Text.after variableStart name).map fun key => (lowerCase key, .string value))

def ofFile (tree : FileTree) (path : Text) : Except Failure Context :=
  match tree.readText path with
  | .error fault => .error (.unreadable path fault)
  | .ok t =>
    match Json.parseObject t with
    | some found => .ok found
    | none => .error (.contextFile path)

def defaultFile : Text := ".shellman.json"

-- The file that is always looked for may be missing, one that was asked for may not.
def ofFiles (tree : FileTree) : Option Text → Except Failure Context
  | some path => ofFile tree path
  | none =>
    match ofFile tree defaultFile with
    | .error (.unreadable _ .notFound) => .ok []
    | other => other

-- The file first, then the variables, then the arguments, each over what came before.
def load (tree : FileTree) (file : Option Text) (environment : List (Text × Text))
    (arguments : List Text) : Except Failure Context :=
  match ofFiles tree file with
  | .error failure => .error failure
  | .ok base =>
    match ofArguments arguments with
    | .error failure => .error failure
    | .ok added => .ok (update (update base (ofVariables environment)) added)

-- Strings as they are, numbers and truth values as they are written.
def text? (context : Context) (name : Text) : Option Text :=
  match context.get name with
  | some (.string t) => some t
  | some (.number n) => some n.text
  | some (.bool b) => some (Json.boolText b)
  | _ => none

def dropPlus : Text → Text
  | '+' :: rest => rest
  | t => t

-- Decimal digits after an optional plus sign, up to 64 bits.
def parseNatural (t : Text) : Option Nat :=
  let digits := dropPlus t
  if digits ≠ [] && digits.all Char.isDigit then
    let n := Number.decimalValue (digits.filterMap Number.digit?)
    if n ≤ Number.maxNatural then some n else none
  else none

def natural? (context : Context) (name : Text) : Option Nat :=
  match context.get name with
  | some (.number (.natural n)) => some n
  | some (.string t) => parseNatural t.trim
  | _ => none

end Context
end ScriptDoc
