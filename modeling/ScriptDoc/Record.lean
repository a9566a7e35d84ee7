import ScriptDoc.Block
import ScriptDoc.Record.Flag

-- What a block says, in the form its tag asks for.
namespace ScriptDoc

inductive TextKind where
  | author | brief | bug | caveat | copyright | date | desc | error | history | license | note
  | seealso | stderr | stdin | stdout | version
  -- Blocks without a tag, or with one that is not known.
  | plain
  deriving Repr, DecidableEq

inductive EntryKind where
  | env | exit | file | usage
  deriving Repr, DecidableEq

structure Sample where
  brief : Text
  code : Text
  language : Text
  description : Text
  deriving Repr, DecidableEq

structure FunctionDoc where
  prototype : Text
  brief : Text
  description : Text
  arguments : List Text
  preconditions : List Text
  returnCodes : List Text
  seealso : List Text
  stderr : List Text
  stdin : List Text
  stdout : List Text
  deriving Repr, DecidableEq

structure OptionDoc where
  flag : Flag
  default : Text
  group : Text
  description : Text
  -- The flag column.
  signature : Text
  deriving Repr, DecidableEq

inductive Record where
  | text (kind : TextKind) (text : Text)
  | entry (kind : EntryKind) (term description : Text)
  | sample (doc : Sample)
  | function (doc : FunctionDoc)
  | option (doc : OptionDoc)
  deriving Repr, DecidableEq

def unlines (ts : List Text) : Text := Text.join "\n" ts

-- All values; lines with a tag alone have none.
def textOf (lines : List DocLine) : Text := unlines (lines.filterMap (·.value))

-- The first line is cut at its first space into a term and the beginning of its description; the
-- other lines go on with it. A missing value is an empty line here.
def entryOf : List DocLine → Text × Text
  | [] => ([], [])
  | first :: rest =>
    let value := first.value.getD []
    let more := rest.map (·.value.getD [])
    match Text.cut ' ' value with
    | some (term, description) => (term, unlines (description :: more))
    | none => (value, unlines more)

inductive SamplePart where
  | brief | code | description
  deriving Repr, DecidableEq

structure SampleDraft where
  part : SamplePart
  brief : List Text
  code : List Text
  language : Text
  description : List Text
  deriving Repr, DecidableEq

namespace SampleDraft

def empty : SampleDraft := ⟨.brief, [], [], [], []⟩

def record (d : SampleDraft) : Option Text → SampleDraft
  | none => d
  | some value =>
    match d.part with
    | .brief => { d with brief := d.brief ++ [value] }
    | .code => { d with code := d.code ++ [value] }
    | .description => { d with description := d.description ++ [value] }

-- A line that opens the code names its language and adds nothing to it.
def add (d : SampleDraft) (line : DocLine) : SampleDraft :=
  if line.tag = some "example" then { d with part := .brief }.record line.value
  else if line.tag = some "example-code" then
    { d with part := .code, language := line.value.getD [] }
  else if line.tag = some "example-description" then
    { d with part := .description }.record line.value
  else d.record line.value

def finish (d : SampleDraft) : Sample :=
  ⟨unlines d.brief, unlines d.code, d.language, unlines d.description⟩

end SampleDraft

def sampleOf (lines : List DocLine) : Sample := (lines.foldl .add SampleDraft.empty).finish

namespace FunctionDoc

def empty : FunctionDoc := ⟨[], [], [], [], [], [], [], [], [], []⟩

-- The draft of a function keeps the lines of its description beside it.
def add (d : FunctionDoc × List Text) (line : DocLine) : FunctionDoc × List Text :=
  match line.value with
  | none => d
  | some value =>
    if line.tag = some "function" then ({ d.1 with prototype := value }, d.2)
    else if line.tag = some "function-brief" then ({ d.1 with brief := value }, d.2)
    else if line.tag = some "function-argument" then
      ({ d.1 with arguments := d.1.arguments ++ [value] }, d.2)
    else if line.tag = some "function-precondition" then
      ({ d.1 with preconditions := d.1.preconditions ++ [value] }, d.2)
    else if line.tag = some "function-return" then
      ({ d.1 with returnCodes := d.1.returnCodes ++ [value] }, d.2)
    else if line.tag = some "function-seealso" then
      ({ d.1 with seealso := d.1.seealso ++ [value] }, d.2)
    else if line.tag = some "function-stderr" then
      ({ d.1 with stderr := d.1.stderr ++ [value] }, d.2)
    else if line.tag = some "function-stdin" then
      ({ d.1 with stdin := d.1.stdin ++ [value] }, d.2)
    else if line.tag = some "function-stdout" then
      ({ d.1 with stdout := d.1.stdout ++ [value] }, d.2)
    else (d.1, d.2 ++ [value])

end FunctionDoc

def functionOf (lines : List DocLine) : FunctionDoc :=
  let draft := lines.foldl FunctionDoc.add (.empty, [])
  { draft.1 with description := unlines draft.2 }

namespace OptionDoc

def empty : OptionDoc := ⟨⟨[], [], []⟩, [], [], [], []⟩

def add (d : OptionDoc × List Text) (line : DocLine) : OptionDoc × List Text :=
  match line.value with
  | none => d
  | some value =>
    if line.tag = some "option" then ({ d.1 with flag := .ofText value }, d.2)
    else if line.tag = some "option-default" then ({ d.1 with default := value }, d.2)
    else if line.tag = some "option-group" then ({ d.1 with group := value }, d.2)
    else (d.1, d.2 ++ [value])

end OptionDoc

def optionOf (lines : List DocLine) : OptionDoc :=
  let draft := lines.foldl OptionDoc.add (.empty, [])
  { draft.1 with description := unlines draft.2, signature := draft.1.flag.signature }

-- The form that a tag asks for.
inductive Form where
  | text (kind : TextKind)
  | entry (kind : EntryKind)
  | sample
  | function
  | option
  deriving Repr, DecidableEq

-- Every tag that is known, sub-tags included.
def registeredTags : List Text := List.flatten
  [["author", "brief", "bug", "caveat", "copyright", "date", "desc", "env", "error"],
   ["example", "example-code", "example-description"],
   ["exit", "file"],
   ["function", "function-brief", "function-description", "function-argument",
    "function-precondition", "function-return", "function-seealso", "function-stderr",
    "function-stdin", "function-stdout"],
   ["history", "license", "note"],
   ["option", "option-default", "option-group"],
   ["seealso", "stderr", "stdin", "stdout", "usage", "version"]]

def isRegistered (tag : Text) : Bool := registeredTags.contains tag

-- The form that each name asks for; sub-tags have that of their parent.
def forms : List (List Text × Form) := List.flatten
  [[(["author"], .text .author), (["brief"], .text .brief), (["bug"], .text .bug),
    (["caveat"], .text .caveat), (["copyright"], .text .copyright), (["date"], .text .date),
    (["desc"], .text .desc), (["env"], .entry .env), (["error"], .text .error)],
   [(["example", "example-code", "example-description"], .sample), (["exit"], .entry .exit),
    (["file"], .entry .file)],
   [(["function", "function-brief", "function-description", "function-argument",
      "function-precondition", "function-return", "function-seealso", "function-stderr",
      "function-stdin", "function-stdout"], .function)],
   [(["history"], .text .history), (["license"], .text .license), (["note"], .text .note),
    (["option", "option-default", "option-group"], .option), (["seealso"], .text .seealso)],
   [(["stderr"], .text .stderr), (["stdin"], .text .stdin), (["stdout"], .text .stdout),
    (["usage"], .entry .usage), (["version"], .text .version)]]

-- Names that are not known ask for plain text.
def Form.ofTag (tag : Text) : Form :=
  match forms.find? (·.1.contains tag) with
  | some e => e.2
  | none => .text .plain

def Form.read : Form → List DocLine → Record
  | .text kind, lines => .text kind (textOf lines)
  | .entry kind, lines => .entry kind (entryOf lines).1 (entryOf lines).2
  | .sample, lines => .sample (sampleOf lines)
  | .function, lines => .function (functionOf lines)
  | .option, lines => .option (optionOf lines)

def Record.ofLines (tag : Text) (lines : List DocLine) : Record := (Form.ofTag tag).read lines

def Block.record (b : Block) : Record := .ofLines b.tag b.lines

def TextKind.name : TextKind → Text
  | .author => "author"
  | .brief => "brief"
  | .bug => "bug"
  | .caveat => "caveat"
  | .copyright => "copyright"
  | .date => "date"
  | .desc => "desc"
  | .error => "error"
  | .history => "history"
  | .license => "license"
  | .note => "note"
  | .seealso => "seealso"
  | .stderr => "stderr"
  | .stdin => "stdin"
  | .stdout => "stdout"
  | .version => "version"
  | .plain => "text"

def EntryKind.name : EntryKind → Text
  | .env => "env"
  | .exit => "exit"
  | .file => "file"
  | .usage => "usage"

namespace Record

def kind : Record → Text
  | .text kind _ => kind.name
  | .entry kind _ _ => kind.name
  | .sample _ => "example"
  | .function _ => "function"
  | .option _ => "option"

def text? : Record → Option Text
  | .text _ t => some t
  | _ => none

def entryFor (kind : EntryKind) : Record → Option (Text × Text)
  | .entry k term description => if k = kind then some (term, description) else none
  | _ => none

def sample? : Record → Option Sample
  | .sample doc => some doc
  | _ => none

def function? : Record → Option FunctionDoc
  | .function doc => some doc
  | _ => none

def option? : Record → Option OptionDoc
  | .option doc => some doc
  | _ => none

end Record
end ScriptDoc
