import ScriptDoc.Document
import ScriptDoc.Json.Printer

-- The document itself, as data.
namespace ScriptDoc

def Record.fields : Record → List (Text × Json)
  | .text _ t => [("text", .string t)]
  | .entry .env term description => [("name", .string term), ("description", .string description)]
  | .entry .exit term description => [("code", .string term), ("description", .string description)]
  | .entry .file term description => [("name", .string term), ("description", .string description)]
  | .entry .usage term description => [("program", .string term), ("command", .string description)]
  | .sample s =>
    [("brief", .string s.brief), ("code", .string s.code), ("code_lang", .string s.language),
      ("description", .string s.description)]
  | .function f =>
    [("prototype", .string f.prototype), ("brief", .string f.brief),
      ("description", .string f.description), ("arguments", .array (f.arguments.map .string)),
      ("preconditions", .array (f.preconditions.map .string)),
      ("return_codes", .array (f.returnCodes.map .string)),
      ("seealso", .array (f.seealso.map .string)), ("stderr", .array (f.stderr.map .string)),
      ("stdin", .array (f.stdin.map .string)), ("stdout", .array (f.stdout.map .string))]
  | .option o =>
    [("short", .string o.flag.short), ("long", .string o.flag.long),
      ("positional", .string o.flag.positional), ("default", .string o.default),
      ("group", .string o.group), ("description", .string o.description),
      ("signature", .string o.signature)]

def Record.json (r : Record) : Json := .object (("type", .string r.kind) :: r.fields)

def Document.json (d : Document) : Json :=
  .object
    [("filename", .string d.filename),
      ("filepath", match d.filepath with
        | some path => .string path
        | none => .null),
      ("sections", .object (d.sections.map fun e => (e.1, .array (e.2.map Record.json))))]

def Document.renderJson (d : Document) : Text := d.json.pretty ++ "\n"

end ScriptDoc
