import ScriptDoc.Groups
import ScriptDoc.Record
import ScriptDoc.Source

namespace ScriptDoc

-- Records by the tag they came under.
abbrev Sections := Groups Text Record

namespace Sections

def addBlock (s : Sections) (b : Block) : Sections := s.append b.tag [b.record]

def ofBlocks (blocks : List Block) : Sections := blocks.foldl addBlock []

end Sections

-- A fault anywhere leaves nothing of the input.
def resolveFrom {ε : Type} (s : Sections) : List (Except ε Block) → Except ε Sections
  | [] => .ok s
  | .ok b :: rest => resolveFrom (s.addBlock b) rest
  | .error e :: _ => .error e

def resolve {ε : Type} (blocks : List (Except ε Block)) : Except ε Sections := resolveFrom [] blocks

structure Document where
  filename : Text
  filepath : Option Text
  sections : Sections
  deriving Repr, DecidableEq

-- A document as it was read, with the fault that kept it empty, if any.
structure Reading where
  document : Document
  fault : Option ReadFault
  deriving Repr, DecidableEq

namespace Document

def ofSource (origin filename : Text) (filepath : Option Text) (source : Source ReadFault) : Reading :=
  match resolve (source.blocks origin) with
  | .ok sections => ⟨⟨filename, filepath, sections⟩, none⟩
  | .error fault => ⟨⟨filename, filepath, []⟩, some fault⟩

-- Streams have no path; the name is the caller's.
def ofStream (bytes : Utf8.Bytes) (filename : Text) : Reading :=
  ofSource [] filename none (.ofBytes bytes)

def parse (t filename : Text) : Document := (ofStream (Utf8.encode t) filename).document

def isEmpty (d : Document) : Bool := d.sections.isEmpty

def get (d : Document) (name : Text) : List Record := d.sections.get name

def texts (d : Document) (name : Text) : List Text := (d.get name).filterMap (·.text?)
def firstText (d : Document) (name : Text) : Option Text := (d.texts name).head?

def entries (d : Document) (kind : EntryKind) : List (Text × Text) :=
  (d.get kind.name).filterMap (·.entryFor kind)

def samples (d : Document) : List Sample := (d.get "example").filterMap (·.sample?)
def functions (d : Document) : List FunctionDoc := (d.get "function").filterMap (·.function?)
def options (d : Document) : List OptionDoc := (d.get "option").filterMap (·.option?)

-- The first program that a usage names, else the file name.
def program (d : Document) : Text :=
  (((d.entries .usage).map (·.1)).find? (· ≠ [])).getD d.filename

-- The texts of a section that are not empty, with blank lines between them.
def fullText (d : Document) (name : Text) : Option Text :=
  match (d.texts name).filter (· ≠ []) with
  | [] => none
  | ts => some (Text.join "\n\n" ts)

-- Section by section, in the order of the documents.
def merge (docs : List Document) (filename : Text) : Document :=
  ⟨filename, none, docs.foldl (fun acc d => acc.addAll d.sections) []⟩

end Document
end ScriptDoc
