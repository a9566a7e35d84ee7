import ScriptDoc.Proofs.ReachedDocuments

-- Where a line stands, and what stands between the marked lines, is not part of what is documented.
namespace ScriptDoc.Placement
open MarkedLines Grouping ReadSections ReachedDocuments

-- The marked lines of a text in their order, without their indentation.
def marks (t : Text) : List Text := (t.lines.filter bears).map (·.dropWhile isIndent)

-- What a document can be read from.
inductive Input where
  | stream (bytes : Utf8.Bytes) (filename : Text)
  | file (tree : FileTree) (path : Text)

namespace Input

def text : Input → Except ReadFault Text
  | .stream bytes _ =>
    match Utf8.decode bytes with
    | some t => .ok t
    | none => .error .notUtf8
  | .file tree path => tree.readText path

def read : Input → Except Failure Reading
  | .stream bytes filename => .ok (Document.ofStream bytes filename)
  | .file tree path => Run.documentAt tree path

end Input

def said (mark : Text) : DocLine := MarkedLine.read ⟨[], 0, mark⟩

theorem documented_marks (path t : Text) : (documented path t).map bare = (marks t).map said :=
  bare_documentedFrom path 1 t.lines

theorem ofSource_marks (origin filename : Text) (filepath : Option Text) (t : Text) :
    Document.ofSource origin filename filepath (.ofBytes (Utf8.encode t))
      = ⟨⟨filename,filepath,.ofBlocks (blocksOf ((marks t).map said))⟩,none⟩ := by
  have lines : (markedOf origin 0 t.lines).map (·.read) = documented origin t := read_marked origin t
  rw [ofBytes_encode,Source.ofText,ofSource_ok,lines,← documented_marks origin t,ofBlocks_bare]

theorem readText_file {tree : FileTree} {path t : Text} (spelled : tree.readText path = .ok t) :
    tree.openSource path = .ok (.ofBytes (Utf8.encode t)) := by
  unfold FileTree.readText FileTree.readBytes at spelled
  unfold FileTree.openSource
  cases found : tree.opened path with
  | error fault => rw [found] at spelled; cases spelled
  | ok node =>
    rw [found] at spelled
    cases node with
    | directory => cases spelled
    | file access content =>
      simp only at spelled ⊢
      cases decoded : Utf8.decode content with
      | none => rw [decoded] at spelled; cases spelled
      | some other =>
        rw [decoded] at spelled
        cases spelled
        rw [Encoding.encode_of_decode decoded]

theorem read_marks {input : Input} {t : Text} (spelled : input.text = .ok t) :
    ∃ reading, input.read = .ok reading ∧ reading.fault = none ∧
      reading.document.sections = .ofBlocks (blocksOf ((marks t).map said)) := by
  cases input with
  | stream bytes filename =>
    refine ⟨Document.ofStream bytes filename,rfl,?_⟩
    cases decoded : Utf8.decode bytes with
    | none => simp [Input.text,decoded] at spelled
    | some other =>
      simp only [Input.text,decoded] at spelled
      cases spelled
      rw [Document.ofStream,← Encoding.encode_of_decode decoded,ofSource_marks]
      exact ⟨rfl,rfl⟩
  | file tree path =>
    have opened : Run.documentAt tree path
        = .ok (Document.ofSource path ((Path.fileName path).getD path) (some path) (.ofBytes (Utf8.encode t))) := by
      rw [Run.documentAt,readText_file spelled]
    refine ⟨_,opened,?_⟩
    rw [ofSource_marks]
    exact ⟨rfl,rfl⟩

theorem same_marks_same_sections {first second : Input} {t u : Text} (one : first.text = .ok t)
    (other : second.text = .ok u) (same : marks t = marks u) :
    ∃ d e, first.read = .ok d ∧ second.read = .ok e ∧ d.fault = none ∧ e.fault = none ∧
      d.document.sections = e.document.sections := by
  obtain ⟨d,readFirst,wholeFirst,sections⟩ := read_marks one
  obtain ⟨e,readSecond,wholeSecond,others⟩ := read_marks other
  exact ⟨d,e,readFirst,readSecond,wholeFirst,wholeSecond,by rw [sections,others,same]⟩

def script : Text := "#!/bin/sh\n## \\option -a\n\n## All.\nrun # ## no\n## \\bug"
def scattered : Text := "\t## \\option -a\r\n ## All.\r\n\r\n  ## \\bug\n"

def bin : FileTree :=
  ⟨.full, [(["bin"], .directory .full), (["bin", "run.sh"], .file .full (Utf8.encode scattered)),
    (["home"], .directory .full)], ["home"]⟩

theorem same_marks_same_sections_scattered :
    (Input.stream (Utf8.encode script) "one").text = .ok script ∧ (Input.file bin "/bin/run.sh").text = .ok scattered ∧
    marks script = marks scattered ∧
    ∃ d e, (Input.stream (Utf8.encode script) "one").read = .ok d ∧ (Input.file bin "/bin/run.sh").read = .ok e ∧
      d.fault = none ∧ e.fault = none ∧ d.document.sections = e.document.sections := by
  have one : (Input.stream (Utf8.encode script) "one").text = .ok script := by
    simp [Input.text,Encoding.decode_encode]
  have found : bin.opened "/bin/run.sh" = .ok (.file .full (Utf8.encode scattered)) := rfl
  have other : (Input.file bin "/bin/run.sh").text = .ok scattered := by
    simp only [Input.text,FileTree.readText,FileTree.readBytes,found,Encoding.decode_encode]
  have same : marks script = marks scattered := by decide
  exact ⟨one,other,same,same_marks_same_sections one other same⟩

end ScriptDoc.Placement
