import ScriptDoc.Proofs.ReadSections
import ScriptDoc.Run

namespace ScriptDoc.ReachedDocuments
open MarkedLines Grouping ReadSections KeyedGroups

-- Documents that can be had: read from somewhere, or merged from such. Nothing else makes one, and
-- in particular not every list of sections is a document's.
inductive Reached : Document → Prop where
  | stream (bytes : Utf8.Bytes) (filename : Text) : Reached (Document.ofStream bytes filename).document
  | text (t filename : Text) : Reached (Document.parse t filename)
  | file {tree : FileTree} {path : Text} {reading : Reading} (opened : Run.documentAt tree path = .ok reading) :
      Reached reading.document
  | merged {docs : List Document} (all : ∀ d ∈ docs, Reached d) (filename : Text) :
      Reached (Document.merge docs filename)

-- A line as it comes out of reading: one marked line, without line feeds.
def ReadLine (line : DocLine) : Prop := ∃ m : MarkedLine, '\n' ∉ m.text ∧ line = m.read

-- A record under a key was made from a block that goes by that key.
def Origin (key : Text) (r : Record) : Prop :=
  ∃ b : Block, b.tag = key ∧ b.record = r ∧ ∀ line ∈ b.lines, ReadLine line

structure Kept (s : Sections) : Prop where
  distinct : s.keys.Nodup
  filled : ∀ e ∈ s, e.2 ≠ []
  origin : ∀ e ∈ s, ∀ r ∈ e.2, Origin e.1 r

theorem kept_nil : Kept [] := ⟨List.nodup_nil,by simp,by simp⟩

theorem kept_append {s : Sections} (kept : Kept s) {key : Text} {records : List Record} (nonempty : records ≠ [])
    (origins : ∀ r ∈ records, Origin key r) : Kept (s.append key records) := by
  refine ⟨nodup_append kept.distinct key records,?_,?_⟩
  · intro e member
    rcases mem_append_cases member with old | ⟨held,rfl,_⟩
    · exact kept.filled e old
    · simp [nonempty]
  · intro e member r inside
    rcases mem_append_cases member with old | ⟨held,rfl,was⟩
    · exact kept.origin e old r inside
    · rcases List.mem_append.mp inside with earlier | new
      · rcases was with rfl | before
        · cases earlier
        · exact kept.origin _ before r earlier
      · exact origins r new

theorem kept_addAll {s more : Sections} (kept : Kept s) (filled : ∀ e ∈ more, e.2 ≠ [])
    (origin : ∀ e ∈ more, ∀ r ∈ e.2, Origin e.1 r) : Kept (s.addAll more) := by
  induction more generalizing s with
  | nil => exact kept
  | cons e more ih =>
    rw [addAll_cons]
    apply ih (kept_append kept (filled e (by simp)) (origin e (by simp)))
    · exact fun other member => filled other (List.mem_cons_of_mem _ member)
    · exact fun other member => origin other (List.mem_cons_of_mem _ member)

theorem kept_ofBlocks {blocks : List Block} (read : ∀ b ∈ blocks, ∀ line ∈ b.lines, ReadLine line) :
    Kept (.ofBlocks blocks) := by
  rw [ofBlocks_eq]
  apply kept_addAll kept_nil
  · intro e member
    obtain ⟨b,_,rfl⟩ := List.mem_map.mp member
    simp [blockEntry]
  · intro e member r inside
    obtain ⟨b,among,rfl⟩ := List.mem_map.mp member
    rw [List.mem_singleton.mp inside]
    exact ⟨b,rfl,rfl,read b among⟩

theorem readLine_markedOf {origin : Text} {n : Nat} {lines : List Text} (clean : ∀ line ∈ lines, '\n' ∉ line)
    {line : DocLine} (member : line ∈ (markedOf origin n lines).map (·.read)) : ReadLine line := by
  rw [read_markedOf origin n clean] at member
  obtain ⟨k,raw,among,rfl⟩ := mem_documentedFrom member
  exact ⟨_,fun inside => clean raw among ((List.dropWhile_sublist _).subset inside),rfl⟩

-- Reading keeps the sections in order whether it comes to an end or not.
theorem kept_ofSource (origin filename : Text) (filepath : Option Text) {source : Source ReadFault}
    (clean : ∀ line, .ok line ∈ source → '\n' ∉ line) :
    Kept (Document.ofSource origin filename filepath source).document.sections := by
  rcases source_cases source with ⟨lines,rfl⟩ | ⟨lines,e,rest,rfl⟩
  · rw [ofSource_ok]
    have single : ∀ line ∈ lines, '\n' ∉ line := fun line member =>
      clean line (List.mem_map.mpr ⟨line,member,rfl⟩)
    exact kept_ofBlocks fun b member line inside => readLine_markedOf single (mem_blocksOf member line inside)
  · rw [ofSource_fault]
    exact kept_nil

theorem ofBytes_clean {bytes : Utf8.Bytes} {line : Text} (member : .ok line ∈ Source.ofBytes bytes) :
    '\n' ∉ line := by
  obtain ⟨raw,among,read⟩ := List.mem_map.mp member
  obtain ⟨piece,cut,subset⟩ := TextLines.mem_closeLines among
  cases decoded : Utf8.decode raw with
  | none => simp [decoded] at read
  | some t =>
    rw [decoded] at read
    cases read
    intro inside
    have feed : (10 : UInt8) ∈ raw := by
      rw [← Encoding.encode_of_decode decoded]
      exact List.mem_flatMap.mpr ⟨'\n',inside,by decide⟩
    have other := TextLines.sep_of_mem_pieces cut 10 (subset 10 feed)
    cases other

theorem kept_stream (bytes : Utf8.Bytes) (filename : Text) :
    Kept (Document.ofStream bytes filename).document.sections :=
  kept_ofSource [] filename none fun _ => ofBytes_clean

theorem openSource_clean {tree : FileTree} {path : Text} {source : Source ReadFault}
    (opened : tree.openSource path = .ok source) : ∀ line, .ok line ∈ source → '\n' ∉ line := by
  unfold FileTree.openSource at opened
  split at opened
  · cases opened
  · cases opened
    exact fun _ => ofBytes_clean
  · cases opened
    intro line member
    simp at member

theorem documentAt_parts {tree : FileTree} {path : Text} {reading : Reading}
    (opened : Run.documentAt tree path = .ok reading) :
    ∃ source, tree.openSource path = .ok source ∧
      reading = Document.ofSource path ((Path.fileName path).getD path) (some path) source := by
  unfold Run.documentAt at opened
  split at opened
  · cases opened
  · rename_i source found
    cases opened
    exact ⟨source,found,rfl⟩

theorem kept_merged {docs : List Document} (all : ∀ d ∈ docs, Kept d.sections) (filename : Text) :
    Kept (Document.merge docs filename).sections := by
  have onward : ∀ s : Sections, Kept s → Kept (docs.foldl (fun acc d => acc.addAll d.sections) s) := by
    induction docs with
    | nil => exact fun _ kept => kept
    | cons d docs ih =>
      intro s kept
      have here := all d (by simp)
      exact ih (fun other member => all other (List.mem_cons_of_mem _ member)) _
        (kept_addAll kept here.filled here.origin)
  exact onward [] kept_nil

theorem reached_kept {d : Document} (reached : Reached d) : Kept d.sections := by
  induction reached with
  | stream bytes filename => exact kept_stream bytes filename
  | text t filename => exact kept_stream (Utf8.encode t) filename
  | file opened =>
    obtain ⟨source,found,rfl⟩ := documentAt_parts opened
    exact kept_ofSource _ _ _ (openSource_clean found)
  | merged all filename ih => exact kept_merged ih filename

theorem Kept.get_origin {s : Sections} (kept : Kept s) {key : Text} {r : Record} (member : r ∈ s.get key) :
    Origin key r := by
  obtain ⟨held,among,inside⟩ := mem_of_get member
  exact kept.origin _ among r inside

end ScriptDoc.ReachedDocuments
