import ScriptDoc.Proofs.ReadSections

-- Lines are decoded one by one, before anything else is known of the input.
namespace ScriptDoc.StreamDecoding
open Utf8 TextLines MarkedLines Grouping Encoding ReadSections

def Spelled (bytes : Bytes) : Prop := ∃ t, bytes = encode t

theorem spelled_append {front back : Bytes} (first : Spelled front) (second : Spelled back) :
    Spelled (front ++ back) := by
  obtain ⟨t,rfl⟩ := first
  obtain ⟨u,rfl⟩ := second
  exact ⟨t ++ u,(encode_append t u).symm⟩

theorem spelled_feed : Spelled [10] := ⟨['\n'],by decide⟩
theorem spelled_return : Spelled [13] := ⟨['\r'],by decide⟩

theorem decode_append (t : Text) (rest : Bytes) : decode (encode t ++ rest) = (decode rest).map (t ++ ·) := by
  induction t with
  | nil => simp
  | cons ch t ih =>
    rw [encode_cons,List.append_assoc,decode_spelled (spells_encodeChar ch),ih,Option.map_map]
    rfl

theorem decode_eq_none_iff {bytes : Bytes} : decode bytes = none ↔ ¬ Spelled bytes := by
  cases decoded : decode bytes with
  | none =>
    refine ⟨?_,fun _ => rfl⟩
    rintro _ ⟨t,spelled⟩
    rw [decode_eq_some_iff.mpr spelled] at decoded
    cases decoded
  | some t =>
    constructor
    · intro impossible
      cases impossible
    · intro unspelled
      exact absurd ⟨t,decode_eq_some_iff.mp decoded⟩ unspelled

-- Where the first piece ends, either the input ends too or a separator stands.
theorem pieces_first {sep : UInt8} {l piece : Bytes} {more : List Bytes}
    (found : pieces (· == sep) l = piece :: more) :
    (more = [] ∧ l = piece) ∨ ∃ rest, l = piece ++ sep :: rest ∧ pieces (· == sep) rest = more := by
  induction l generalizing piece with
  | nil =>
    cases found
    exact .inl ⟨rfl,rfl⟩
  | cons a l ih =>
    by_cases here : a = sep
    · subst a
      rw [pieces_cons_sep (by simp)] at found
      cases found
      exact .inr ⟨l,rfl,rfl⟩
    · obtain ⟨first,others,shape⟩ := pieces_cases (· == sep) l
      rw [pieces_cons_other (by simpa using here) shape] at found
      cases found
      rcases ih shape with ⟨alone,whole⟩ | ⟨rest,whole,left⟩
      · exact .inl ⟨alone,by rw [whole]⟩
      · exact .inr ⟨rest,by rw [whole,List.cons_append],left⟩

theorem spelled_pieces {bytes : Bytes} {cut : List Bytes} (found : pieces (· == 10) bytes = cut)
    (each : ∀ piece ∈ cut, Spelled piece) : Spelled bytes := by
  induction cut generalizing bytes with
  | nil => exact absurd found (pieces_ne_nil _ _)
  | cons piece more ih =>
    have here := each piece (by simp)
    rcases pieces_first found with ⟨_,rfl⟩ | ⟨rest,rfl,left⟩
    · exact here
    · have there := ih left fun other member => each other (List.mem_cons_of_mem _ member)
      exact spelled_append here (spelled_append spelled_feed there)

theorem spelled_dropFinal {line : Bytes} (kept : Spelled (dropFinal 13 line)) : Spelled line := by
  unfold dropFinal at kept
  split at kept
  · rename_i last
    obtain ⟨before,rfl⟩ := List.getLast?_eq_some_iff.mp last
    rw [List.dropLast_concat] at kept
    exact spelled_append kept spelled_return
  · exact kept

theorem spelled_closeLines {cut : List Bytes} (each : ∀ line ∈ closeLines 13 cut, Spelled line) :
    ∀ piece ∈ cut, Spelled piece := by
  induction cut with
  | nil => simp
  | cons piece rest ih =>
    cases rest with
    | nil =>
      intro other member
      cases List.mem_singleton.mp member
      by_cases empty : piece = []
      · exact ⟨[],empty⟩
      · exact each piece (by simp [closeLines,empty])
    | cons next rest =>
      rw [closeLines] at each
      have later := ih fun line member => each line (List.mem_cons_of_mem _ member)
      intro other member
      rcases List.mem_cons.mp member with rfl | old
      · exact spelled_dropFinal (each _ (by simp))
      · exact later other old

theorem ofBytes_fault {bytes : Bytes} {e : ReadFault} (member : .error e ∈ Source.ofBytes bytes) :
    e = .notUtf8 := by
  obtain ⟨line,_,read⟩ := List.mem_map.mp member
  split at read
  · cases read
  · cases read
    rfl

-- Bytes that spell no text have a line that spells none, so reading comes to a fault.
theorem ofBytes_unspelled {bytes : Bytes} (unspelled : ¬ Spelled bytes) :
    ∃ (lines : List Text) (rest : Source ReadFault),
      Source.ofBytes bytes = lines.map .ok ++ .error .notUtf8 :: rest := by
  rcases source_cases (Source.ofBytes bytes) with ⟨lines,all⟩ | ⟨lines,e,rest,shape⟩
  · refine absurd (spelled_pieces rfl (spelled_closeLines fun line member => ?_)) unspelled
    apply Classical.byContradiction
    intro broken
    have fault : .error .notUtf8 ∈ Source.ofBytes bytes :=
      List.mem_map.mpr ⟨line,member,by rw [decode_eq_none_iff.mpr broken]⟩
    rw [all] at fault
    simp at fault
  · have cause : e = .notUtf8 := @ofBytes_fault bytes e (by simp [shape])
    subst e
    exact ⟨lines,rest,shape⟩

theorem documented_bare (path t : Text) : (documented path t).map bare = (documented [] t).map bare := by
  unfold documented
  rw [bare_documentedFrom,bare_documentedFrom]

-- Blocks know their path; sections do not.
theorem ofBlocks_path (path t : Text) :
    Sections.ofBlocks (Text.blocks path t) = Sections.ofBlocks (Text.blocks [] t) := by
  rw [blocks_eq,blocks_eq,← ofBlocks_bare,documented_bare,ofBlocks_bare]

theorem resolve_blocks (path t : Text) :
    resolve ((Text.blocks path t).map .ok : List (Except ReadFault Block)) = .ok (.ofBlocks (Text.blocks [] t)) := by
  rw [← ofBlocks_path path]
  exact resolveFrom_ok [] _

theorem blocks_encode (path t : Text) :
    (Source.ofBytes (encode t)).blocks path = (Text.blocks path t).map .ok := by
  rw [ofBytes_encode,blocks_ofText]

-- A stream has the sections of the text that its bytes spell, and none when they spell no text.
theorem stream_spelled_or_empty (bytes : Bytes) (filename path : Text) :
    (∀ t, bytes = encode t →
      resolve ((Text.blocks path t).map .ok : List (Except ReadFault Block))
          = .ok (Document.ofStream bytes filename).document.sections ∧
        (Document.ofStream bytes filename).fault = none) ∧
    ((∀ t, bytes ≠ encode t) →
      (Document.ofStream bytes filename).document.sections = [] ∧
        (Document.ofStream bytes filename).fault = some .notUtf8) ∧
    ∀ t, (Source.ofBytes (encode t)).blocks path = (Text.blocks path t).map .ok ∧
      ∀ calls, poll (BlockCursor.next path) calls (.start (.ofBytes (encode t)))
        = poll (BlockCursor.next path) calls (.start (.ofText t)) := by
  refine ⟨?_,?_,fun t => ⟨blocks_encode path t,fun calls => by rw [ofBytes_encode]⟩⟩
  · rintro t rfl
    refine ⟨?_,?_⟩
    · rw [resolve_blocks,← parse_sections t filename]
      rfl
    · rw [Document.ofStream,ofBytes_encode,Source.ofText,ofSource_ok]
  · intro unspelled
    have nowhere : ¬ Spelled bytes := by
      rintro ⟨t,spelled⟩
      exact unspelled t spelled
    obtain ⟨lines,rest,shape⟩ := ofBytes_unspelled nowhere
    rw [Document.ofStream,shape,ofSource_fault]
    exact ⟨rfl,rfl⟩

def mixedEnds : Text := "## \\brief Größe\r\n##\r\n\r## \\desc\r"

-- Two complete blocks, and a last line that documents nothing and is no text.
def strayByte : Bytes := encode "## \\brief A\n## \\desc B\n## \\bug\n" ++ [120, 255, 10]

theorem strayByte_unspelled (t : Text) : strayByte ≠ encode t := by
  intro spelled
  have stray : decode [120, 255, 10] = none := by decide
  refine decode_eq_none_iff.mp ?_ ⟨t,spelled⟩
  rw [strayByte,decode_append,stray,Option.map_none]

theorem stream_spelled_or_empty_mixed :
    (resolve ((Text.blocks "in" mixedEnds).map .ok : List (Except ReadFault Block))
        = .ok (Document.ofStream (encode mixedEnds) "in").document.sections ∧
      (Document.ofStream (encode mixedEnds) "in").fault = none) ∧
    (Document.ofStream strayByte "in").document.sections = [] ∧
    (Document.ofStream strayByte "in").fault = some .notUtf8 :=
  ⟨(stream_spelled_or_empty _ _ _).1 _ rfl,(stream_spelled_or_empty _ _ []).2.1 strayByte_unspelled⟩

end ScriptDoc.StreamDecoding
