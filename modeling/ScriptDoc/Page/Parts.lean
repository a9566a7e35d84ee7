import ScriptDoc.Context
import ScriptDoc.Document

-- What several pages say in the same way.
namespace ScriptDoc.Page

-- A value from the context, else the first text of the section of that name.
def valueOrText (d : Document) (context : Context) (name : Text) : Option Text :=
  match context.text? name with
  | some t => some t
  | none => d.firstText name

-- A program with its command; no space at the end.
def usageText (usage : Text × Text) : Text := Text.trimEnd (usage.1 ++ " " ++ usage.2)

-- Options under their groups, in the order in which the groups first come.
def optionGroups (d : Document) : Groups Text OptionDoc := .ofItems (·.group) d.options

-- The signature without its alignment.
def flagText (o : OptionDoc) : Text := Text.trimStart o.signature

-- A titled part is left out when there is nothing to say.
def titled (title : Text) (sep : Text) (items : List Text) : List Text :=
  match items with
  | [] => []
  | _ => [title ++ Text.join sep items]

-- Blank lines between the parts, and a line feed at the end unless there are none.
def assemble (parts : List Text) : Text :=
  match Text.join "\n\n" parts with
  | [] => []
  | page => page ++ "\n"

end ScriptDoc.Page
