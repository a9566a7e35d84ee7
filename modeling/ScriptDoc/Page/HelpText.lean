import ScriptDoc.Page.Parts
import ScriptDoc.Wrap

namespace ScriptDoc.HelpText

structure Layout where
  indent : Nat
  -- The column in which descriptions begin.
  column : Nat
  width : Nat
  deriving Repr, DecidableEq

def Layout.ofContext (context : Context) : Layout :=
  ⟨(context.natural? "indent").getD 2, (context.natural? "option_padding").getD 22,
    (context.natural? "width").getD 79⟩

def Layout.pad (l : Layout) : Text := Text.spaces l.indent

def usageLead : Text := "Usage: "
def usageIndent : Text := "       "

-- The lines of one usage; those after the first are aligned under it.
def usageLines (lead : Text) (usage : Text × Text) : List Text :=
  match (Page.usageText usage).lines with
  | [] => []
  | first :: rest => (lead ++ first) :: rest.map (usageIndent ++ ·)

def usages : List (Text × Text) → List Text
  | [] => []
  | first :: rest => usageLines usageLead first ++ rest.flatMap (usageLines usageIndent)

def usageBlock (d : Document) : Text := Text.join "\n" (usages (d.entries .usage))

-- The description begins in its column, or on the next line when the term leaves no two spaces.
def definition (l : Layout) (term description : Text) : Text :=
  let head := l.pad ++ term
  if head.length + 2 ≤ l.column then head ++ Text.spaces (l.column - head.length) ++ description
  else head ++ "\n" ++ Text.spaces l.column ++ description

def defaultNote (o : OptionDoc) : Text := "(default: " ++ o.default ++ ")"

def optionDescription (o : OptionDoc) : Text :=
  if o.default = [] then o.description
  else if o.description = [] then defaultNote o
  else o.description ++ " " ++ defaultNote o

def option (l : Layout) (o : OptionDoc) : Text :=
  if optionDescription o = [] then l.pad ++ o.signature
  else definition l o.signature (wrap (optionDescription o) l.column l.width false)

def optionGroup (l : Layout) (group : Text × List OptionDoc) : Text :=
  Text.given group.1 ("\n\n" ++ group.1 ++ ":")
    ++ Text.each group.2 fun o => "\n" ++ option l o

def options (l : Layout) (d : Document) : List Text :=
  if d.options = [] then [] else ["Options:" ++ (Page.optionGroups d).flatMap (optionGroup l)]

-- Further lines of a description go under its first one.
def entry (l : Layout) (e : Text × Text) : Text :=
  definition l e.1 (Text.replaceChar '\n' ("\n" ++ Text.spaces l.column) e.2)

def entries (l : Layout) (title : Text) (es : List (Text × Text)) : List Text :=
  Page.titled (title ++ "\n") "\n" (es.map (entry l))

def sample (l : Layout) (s : Sample) : Text :=
  l.pad ++ s.brief ++ (Text.each s.code.lines fun line => "\n" ++ l.pad ++ l.pad ++ line)
    ++ Text.given s.description ("\n" ++ wrap s.description (l.indent * 2) l.width true)

def function (l : Layout) (f : FunctionDoc) : Text :=
  if f.brief = [] then l.pad ++ f.prototype else definition l f.prototype f.brief

def remarks (l : Layout) (d : Document) (title name : Text) : List Text :=
  match d.fullText name with
  | none => []
  | some t => [title ++ "\n" ++ wrap t l.indent l.width true]

def parts (l : Layout) (d : Document) : List Text :=
  (if usageBlock d = [] then [] else [usageBlock d])
    ++ (d.firstText "brief").toList
    ++ ((d.fullText "desc").map fun t => wrap t 0 l.width true).toList
    ++ options l d
    ++ entries l "Environment variables:" (d.entries .env)
    ++ entries l "Files:" (d.entries .file)
    ++ entries l "Exit status:" (d.entries .exit)
    ++ Page.titled "Examples:\n" "\n\n" (d.samples.map (sample l))
    ++ Page.titled "Functions:\n" "\n" (d.functions.map (function l))
    ++ remarks l d "Notes:" "note"
    ++ remarks l d "Caveats:" "caveat"
    ++ remarks l d "Bugs:" "bug"

def render (d : Document) (context : Context) : Text := Page.assemble (parts (.ofContext context) d)

-- The usages alone.
def renderUsage (d : Document) : Text :=
  if usageBlock d = [] then [] else usageBlock d ++ "\n"

end ScriptDoc.HelpText
