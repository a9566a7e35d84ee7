import ScriptDoc.Page.Parts

namespace ScriptDoc.Markdown

def inTicks (t : Text) : Text := "`" ++ t ++ "`"

def inStars (label t : Text) : Text := "*" ++ label ++ t ++ "*"

-- Further lines belong to the item they stand in.
def continued (t : Text) : Text := Text.replaceChar '\n' "\n  " t

def title (d : Document) : Text :=
  "# " ++ d.program ++
    match d.firstText "brief" with
    | some brief => "\n\n**" ++ d.program ++ "** - " ++ brief
    | none => []

def versionAndDate (d : Document) (context : Context) : List Text :=
  Page.titled [] "  \n"
    ((Page.valueOrText d context "version").toList.map (inStars "Version: ")
      ++ (Page.valueOrText d context "date").toList.map (inStars "Date: "))

def synopsis (d : Document) : List Text :=
  match (d.entries .usage).map Page.usageText with
  | [] => []
  | usages => ["## Synopsis\n\n```\n" ++ Text.join "\n" usages ++ "\n```"]

def option (o : OptionDoc) : Text :=
  "- " ++ inTicks (Page.flagText o)
    ++ Text.given o.description (": " ++ continued o.description)
    ++ Text.given o.default (" Default: " ++ inTicks o.default ++ ".")

def optionGroup (group : Text × List OptionDoc) : Text :=
  Text.given group.1 ("\n\n### " ++ group.1) ++ "\n"
    ++ Text.each group.2 fun o => "\n" ++ option o

def options (d : Document) : List Text :=
  if d.options = [] then [] else ["## Options" ++ (Page.optionGroups d).flatMap optionGroup]

def entry (e : Text × Text) : Text :=
  "- " ++ inTicks e.1 ++ Text.given e.2 (": " ++ continued e.2)

def heading (name : Text) : Text := "## " ++ name ++ "\n\n"

def entries (name : Text) (es : List (Text × Text)) : List Text :=
  Page.titled (heading name) "\n" (es.map entry)

def sample (s : Sample) : Text :=
  "**" ++ s.brief ++ "**"
    ++ Text.given s.code ("\n\n```" ++ s.language ++ "\n" ++ s.code ++ "\n```")
    ++ Text.given s.description ("\n\n" ++ s.description)

def functionList (name : Text) (items : List Text) : Text :=
  if items = [] then []
  else "\n\n#### " ++ name ++ "\n" ++ Text.each items fun item => "\n- " ++ item

def function (f : FunctionDoc) : Text :=
  "### " ++ inTicks f.prototype
    ++ Text.given f.brief ("\n\n" ++ f.brief)
    ++ Text.given f.description ("\n\n" ++ f.description)
    ++ functionList "Arguments" f.arguments
    ++ functionList "Preconditions" f.preconditions
    ++ functionList "Return codes" f.returnCodes
    ++ functionList "Standard input" f.stdin
    ++ functionList "Standard output" f.stdout
    ++ functionList "Standard error" f.stderr
    ++ functionList "See also" f.seealso

def remarks (d : Document) (name topic : Text) : List Text :=
  match d.fullText topic with
  | none => []
  | some t => [heading name ++ t]

def bullets (d : Document) (name topic : Text) : List Text :=
  Page.titled (heading name) "\n" (((d.texts topic).filter (· ≠ [])).map fun t => "- " ++ t)

def parts (d : Document) (context : Context) : List Text :=
  [title d]
    ++ versionAndDate d context
    ++ synopsis d
    ++ remarks d "Description" "desc"
    ++ options d
    ++ entries "Environment variables" (d.entries .env)
    ++ entries "Files" (d.entries .file)
    ++ entries "Exit status" (d.entries .exit)
    ++ Page.titled (heading "Examples") "\n\n" (d.samples.map sample)
    ++ Page.titled (heading "Functions") "\n\n" (d.functions.map function)
    ++ remarks d "Errors" "error"
    ++ remarks d "Bugs" "bug"
    ++ remarks d "Caveats" "caveat"
    ++ remarks d "Notes" "note"
    ++ remarks d "History" "history"
    ++ bullets d "Authors" "author"
    ++ remarks d "Copyright" "copyright"
    ++ remarks d "License" "license"
    ++ bullets d "See also" "seealso"

-- There is always a title.
def render (d : Document) (context : Context) : Text := Text.join "\n\n" (parts d context) ++ "\n"

end ScriptDoc.Markdown
