import ScriptDoc.Page.Data
import ScriptDoc.Page.HelpText
import ScriptDoc.Page.ManPage
import ScriptDoc.Page.Markdown
import ScriptDoc.Page.WikiPage

namespace ScriptDoc

inductive Template where
  | helpText | usageText | manPage | markdown | wikiPage | json
  deriving Repr, DecidableEq

namespace Template

-- Some templates go by several names.
def names : Template → List Text
  | .helpText => ["helptext", "text"]
  | .usageText => ["usagetext"]
  | .manPage => ["manpage", "manpage.groff", "groff"]
  | .markdown => ["markdown", "manpage.md", "md"]
  | .wikiPage => ["wikipage", "wikipage.md"]
  | .json => ["json"]

def all : List Template := [.helpText, .usageText, .manPage, .markdown, .wikiPage, .json]

def find (name : Text) : Except Failure Template :=
  match all.find? fun t => t.names.contains name with
  | some t => .ok t
  | none => .error (.unknownTemplate name)

def extension : Template → Text
  | .helpText => "txt"
  | .usageText => "txt"
  | .manPage => "1"
  | .markdown => "md"
  | .wikiPage => "md"
  | .json => "json"

def render (t : Template) (d : Document) (context : Context) : Text :=
  match t with
  | .helpText => HelpText.render d context
  | .usageText => HelpText.renderUsage d
  | .manPage => ManPage.render d context
  | .markdown => Markdown.render d context
  | .wikiPage => WikiPage.render d
  | .json => d.renderJson

end Template
end ScriptDoc
