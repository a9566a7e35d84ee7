import ScriptDoc.CommandLine
import ScriptDoc.Inputs
import ScriptDoc.Output
import ScriptDoc.Template

-- A whole run, as a function of what it can see.
namespace ScriptDoc

structure World where
  tree : FileTree
  input : Utf8.Bytes
  environment : List (Text × Text)
  deriving Repr, DecidableEq

inductive Notice where
  | unmatched (pattern : Text)
  | skipped (path : Text) (failure : Failure)
  | unread (name : Text) (fault : ReadFault)
  deriving Repr, DecidableEq

def Notice.text : Notice → Text
  | .unmatched pattern => "WARN shellman: no files matched: " ++ pattern.spelled
  | .skipped path failure =>
    "WARN shellman: skipping " ++ path.spelled ++ " error=" ++ failure.message.spelled
  | .unread name fault =>
    "ERROR shellman::doc: cannot read documentation, skipping input input=" ++ name.quoted
      ++ " error=" ++ fault.message

structure Outcome where
  exit : Nat
  output : Text
  failure : Option Failure
  notices : List Notice
  tree : FileTree
  deriving Repr, DecidableEq

namespace Run

def versionText : Text := "shellman 0.1.0\n"

def helpText : Text :=
  "Write documentation in comments and render it with templates\n\n"
    ++ "Usage: shellman [OPTIONS] [FILES]...\n\n"
    ++ "Arguments:\n"
    ++ "  [FILES]...  Input files, directories or glob patterns. If omitted, reads from stdin\n\n"
    ++ "Options:\n"
    ++ "  -c, --context <CONTEXT>    Context value: name=value, a.b=value or a JSON object\n"
    ++ "      --context-file <FILE>  JSON file with the base context\n"
    ++ "  -t, --template <TEMPLATE>  Template [default: helptext]\n"
    ++ "  -m, --merge                Merge all inputs into one document\n"
    ++ "  -o, --output <OUTPUT>      Output file, - for stdout\n"
    ++ "  -v, --verbose              Log debug information to stderr\n"
    ++ "  -h, --help                 Print help\n"
    ++ "  -V, --version              Print version\n"

-- What a file says, under its own name. A path that ends in no name stands for itself.
def documentAt (tree : FileTree) (path : Text) : Except Failure Reading :=
  match tree.openSource path with
  | .error fault => .error (.unreadable path fault)
  | .ok source =>
    .ok (Document.ofSource path ((Path.fileName path).getD path) (some path) source)

def unreadNotice (name : Text) (r : Reading) : List Notice :=
  match r.fault with
  | some fault => [.unread name fault]
  | none => []

-- Documents with what is to be said about reading them.
structure Gathered where
  documents : List Document
  notices : List Notice
  deriving Repr, DecidableEq

def readFiles (tree : FileTree) : List Text → Gathered
  | [] => ⟨[], []⟩
  | path :: rest =>
    let more := readFiles tree rest
    match documentAt tree path with
    | .ok r => ⟨r.document :: more.documents, unreadNotice path r ++ more.notices⟩
    | .error failure => ⟨more.documents, .skipped path failure :: more.notices⟩

def readInput (w : World) (output : Option Text) : Gathered :=
  let name := Output.guessName output []
  let r := Document.ofStream w.input name
  ⟨[r.document], unreadNotice name r⟩

def failed (w : World) (failure : Failure) (notices : List Notice) : Outcome :=
  ⟨1, [], some failure, notices, w.tree⟩

def merged (c : Command) (docs : List Document) : List Document :=
  if c.merge then [Document.merge docs (Output.guessName c.output docs)] else docs

-- The pages to be written, each with its path.
def pages (t : Template) (context : Context) (pattern : Text) (docs : List Document) :
    List (Text × Text) :=
  docs.map fun d => (Output.expand pattern d.filename t.extension, t.render d context)

def printed (t : Template) (context : Context) (docs : List Document) : Text :=
  Text.each docs fun d => t.render d context

def deliver (w : World) (c : Command) (t : Template) (context : Context) (g : Gathered) : Outcome :=
  let docs := merged c g.documents
  match c.output.filter (· ≠ Output.standard) with
  | none => ⟨0, printed t context docs, none, g.notices, w.tree⟩
  | some pattern =>
    let written := (Output.Plan.ofPages (pages t context pattern docs)).write w.tree
    match written.failure with
    | none => ⟨0, [], none, g.notices, written.tree⟩
    | some failure => ⟨1, [], some failure, g.notices, written.tree⟩

def gather (w : World) (c : Command) : Except (Failure × List Notice) Gathered :=
  if c.files = [] then .ok (readInput w c.output)
  else
    let found := Inputs.collect w.tree c.files
    let warnings := found.unmatched.map Notice.unmatched
    match found.failure with
    | some failure => .error (failure, warnings)
    | none =>
      let g := readFiles w.tree (Inputs.ordered found.files)
      .ok ⟨g.documents, warnings ++ g.notices⟩

-- Context, template, inputs and outputs, in this order; the first that fails ends the run.
def command (w : World) (c : Command) : Outcome :=
  match Context.load w.tree c.contextFile w.environment c.context with
  | .error failure => failed w failure []
  | .ok context =>
    match Template.find (c.template.getD "helptext") with
    | .error failure => failed w failure []
    | .ok t =>
      match gather w c with
      | .error (failure, notices) => failed w failure notices
      | .ok g => deliver w c t context g

def invocation (w : World) : Invocation → Outcome
  | .run c => command w c
  | .version => ⟨0, versionText, none, [], w.tree⟩
  | .help => ⟨0, helpText, none, [], w.tree⟩
  | .misused => ⟨2, [], none, [], w.tree⟩

def run (w : World) (args : List Text) : Outcome := invocation w (CommandLine.parse args)

end Run
end ScriptDoc
