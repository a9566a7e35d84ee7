import ScriptDoc.Markup.Groff
import ScriptDoc.Page.Parts

namespace ScriptDoc.ManPage

-- Requests without an argument of the document's.
inductive Request where
  | adjust | noHyphen | item | paragraph | lineBreak | space | indent | asIs | fill | outdent
  deriving Repr, DecidableEq

def Request.text : Request → Text
  | .adjust => ".if n.ad l"
  | .noHyphen => ".nh"
  | .item => ".TP"
  | .paragraph => ".PP"
  | .lineBreak => ".br"
  | .space => ".sp"
  | .indent => ".RS"
  | .asIs => ".nf"
  | .fill => ".fi"
  | .outdent => ".RE"

-- A page is a list of entries; only here they become text. What an entry holds is already escaped,
-- and may go over several lines.
inductive Entry where
  | header (program chapter date version manual : Text)
  | heading (title : Text)
  | subheading (title : Text)
  | term (title : Text)
  | label (title : Text)
  | request (r : Request)
  | body (t : Text)
  deriving Repr, DecidableEq

def inQuotes (t : Text) : Text := "\"" ++ t ++ "\""

def Entry.text : Entry → Text
  | .header program chapter date version manual =>
    ".TH " ++ Text.join " " ([program, chapter, date, version, manual].map inQuotes)
  | .heading title => ".SH " ++ inQuotes title
  | .subheading title => ".SS " ++ inQuotes title
  | .term title => ".IP " ++ inQuotes title ++ " 4"
  | .label title => ".I " ++ title
  | .request r => r.text
  | .body t => t

def header (d : Document) (context : Context) : Entry :=
  .header (Groff.escape (upperCase d.program))
    (Groff.escape ((context.text? "section").getD "1"))
    (Groff.escape ((Page.valueOrText d context "date").getD []))
    (Groff.escape ((Page.valueOrText d context "version").getD []))
    (Groff.escape ((context.text? "manual").getD "User Commands"))

def name (d : Document) : List Entry :=
  [.heading "NAME",
    .body (match d.firstText "brief" with
      | some brief => Groff.escape d.program ++ " \\- " ++ Groff.autoEscaped brief
      | none => Groff.escape d.program)]

def usage (u : Text × Text) : Entry :=
  .body (Groff.strong (Groff.escape u.1) ++ " " ++ Groff.autoEscaped u.2)

def synopsis (d : Document) : List Entry :=
  match d.entries .usage with
  | [] => []
  | first :: rest =>
    .heading "SYNOPSIS" :: usage first :: rest.flatMap fun u => [.request .lineBreak, usage u]

-- Blank lines divide paragraphs.
def prose (t : Text) : List Entry :=
  t.lines.map fun line =>
    if line.all isBlank then .request .paragraph else .body (Groff.autoEscaped line)

def option (o : OptionDoc) : List Entry :=
  [.request .item, .body (Groff.autoEscaped (Page.flagText o))]
    ++ prose o.description
    ++ (if o.default = [] then []
      else [.body ("Default: " ++ Groff.strong (Groff.escape o.default))])

def optionGroup (group : Text × List OptionDoc) : List Entry :=
  (if group.1 = [] then [] else [.subheading (Groff.escape group.1)]) ++ group.2.flatMap option

-- Options without a group come first; otherwise the order stays as it is.
def groupsInOrder (groups : Groups Text OptionDoc) : Groups Text OptionDoc :=
  groups.sortedBy fun a b => decide (a ≠ []) ≤ decide (b ≠ [])

def options (d : Document) : List Entry :=
  if d.options = [] then []
  else .heading "OPTIONS" :: (groupsInOrder (Page.optionGroups d)).flatMap optionGroup

def entry (e : Text × Text) : List Entry :=
  .request .item :: .body (Groff.strong (Groff.escape e.1)) :: prose e.2

def entries (title : Text) (es : List (Text × Text)) : List Entry :=
  if es = [] then [] else .heading title :: es.flatMap entry

def sample (s : Sample) : List Entry :=
  [.request .item, .body (Groff.strong (Groff.escape s.brief))]
    ++ (if s.code = [] then []
      else [.request .indent, .request .asIs, .body (Groff.verbatim s.code), .request .fill,
        .request .outdent])
    ++ prose s.description

def samples (d : Document) : List Entry :=
  if d.samples = [] then [] else .heading "EXAMPLES" :: d.samples.flatMap sample

def functionList (title : Text) (items : List Text) : List Entry :=
  if items = [] then []
  else .request .space :: .label title :: items.flatMap fun item =>
    [.request .lineBreak, .body ("  " ++ Groff.autoEscaped item)]

def function (f : FunctionDoc) : List Entry :=
  [.term (Groff.strong (Groff.escape f.prototype))]
    ++ (if f.brief = [] then [] else [.body (Groff.autoEscaped f.brief)])
    ++ (if f.description = [] then [] else .request .lineBreak :: prose f.description)
    ++ functionList "Arguments:" f.arguments
    ++ functionList "Preconditions:" f.preconditions
    ++ functionList "Return codes:" f.returnCodes
    ++ functionList "Standard input:" f.stdin
    ++ functionList "Standard output:" f.stdout
    ++ functionList "Standard error:" f.stderr
    ++ functionList "See also:" f.seealso

def functions (d : Document) : List Entry :=
  if d.functions = [] then [] else .heading "FUNCTIONS" :: d.functions.flatMap function

def remarks (d : Document) (title topic : Text) : List Entry :=
  match d.fullText topic with
  | none => []
  | some t => .heading title :: prose t

def authors (d : Document) : List Entry :=
  match (d.texts "author").filter (· ≠ []) with
  | [] => []
  | names =>
    .heading "AUTHORS" :: names.flatMap fun n => [.request .lineBreak, .body (Groff.escape n)]

def references (d : Document) : List Entry :=
  match (d.texts "seealso").filter (· ≠ []) with
  | [] => []
  | items => [.heading "SEE ALSO", .body (Groff.autoEscaped (Text.join ", " items))]

def page (d : Document) (context : Context) : List Entry :=
  [.request .adjust, .request .noHyphen, header d context]
    ++ name d
    ++ synopsis d
    ++ remarks d "DESCRIPTION" "desc"
    ++ options d
    ++ entries "ENVIRONMENT VARIABLES" (d.entries .env)
    ++ entries "FILES" (d.entries .file)
    ++ entries "EXIT STATUS" (d.entries .exit)
    ++ samples d
    ++ functions d
    ++ remarks d "ERRORS" "error"
    ++ remarks d "BUGS" "bug"
    ++ remarks d "CAVEATS" "caveat"
    ++ remarks d "NOTES" "note"
    ++ remarks d "HISTORY" "history"
    ++ authors d
    ++ remarks d "COPYRIGHT" "copyright"
    ++ remarks d "LICENSE" "license"
    ++ references d

def render (d : Document) (context : Context) : Text :=
  (page d context).flatMap fun e => e.text ++ "\n"

end ScriptDoc.ManPage
