import ScriptDoc.Markup.Html
import ScriptDoc.Page.Parts

namespace ScriptDoc.WikiPage

def inTicks (t : Text) : Text := "`" ++ t ++ "`"

-- The cells of one row of a table.
def row (cells : List Text) : Text := "|" ++ Text.each cells fun c => " " ++ c ++ " |"

def usages (d : Document) : List Text :=
  match (d.entries .usage).map fun u => Html.escape [] (Page.usageText u) with
  | [] => []
  | us => ["## Usage\n\n<pre><code>" ++ Text.join "\n" us ++ "</code></pre>"]

def optionRow (o : OptionDoc) : Text :=
  row [inTicks (Page.flagText o), Html.cell o.description,
    Text.given o.default (inTicks o.default)]

def optionTable : Text :=
  "\n\n| Option | Description | Default |\n|--------|-------------|---------|"

def optionGroup (group : Text × List OptionDoc) : Text :=
  Text.given group.1 ("\n\n### " ++ Html.escape [] group.1) ++ optionTable
    ++ Text.each group.2 fun o => "\n" ++ optionRow o

-- Groups are sorted by name here.
def options (d : Document) : List Text :=
  if d.options = [] then []
  else ["## Options" ++ (Page.optionGroups d).sorted.flatMap optionGroup]

def exitRow (e : Text × Text) : Text := row [inTicks e.1, Html.cell e.2]

def exits (d : Document) : List Text :=
  Page.titled "## Exit status\n\n| Code | Meaning |\n|------|---------|\n" "\n"
    ((d.entries .exit).map exitRow)

def function (f : FunctionDoc) : Text :=
  "- " ++ inTicks f.prototype ++ Text.given f.brief (": " ++ Html.escape [] f.brief)

-- In descriptions a line that begins with an angle bracket is markup of its own.
def parts (d : Document) : List Text :=
  ((d.firstText "brief").map (Html.escape [])).toList
    ++ usages d
    ++ ((d.fullText "desc").map (Html.escape ["<"])).toList
    ++ options d
    ++ exits d
    ++ Page.titled "## Functions\n\n" "\n" (d.functions.map function)

def render (d : Document) : Text := Page.assemble (parts d)

end ScriptDoc.WikiPage
