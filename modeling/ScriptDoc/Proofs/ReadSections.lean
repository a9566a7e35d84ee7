import ScriptDoc.Document
import ScriptDoc.Proofs.Encoding
import ScriptDoc.Proofs.Grouping
import ScriptDoc.Proofs.KeyedGroups

namespace ScriptDoc.ReadSections
open MarkedLines Grouping

def blockEntry (b : Block) : Text × List Record := (b.tag, [b.record])

theorem ofBlocks_eq (blocks : List Block) : Sections.ofBlocks blocks = Groups.addAll [] (blocks.map blockEntry) := by
  rw [Groups.addAll,List.foldl_map]
  rfl

section Records

theorem sampleOf_bare (lines : List DocLine) : sampleOf (lines.map bare) = sampleOf lines := by
  unfold sampleOf
  rw [List.foldl_map]
  rfl

theorem functionOf_bare (lines : List DocLine) : functionOf (lines.map bare) = functionOf lines := by
  unfold functionOf
  rw [List.foldl_map]
  rfl

theorem optionOf_bare (lines : List DocLine) : optionOf (lines.map bare) = optionOf lines := by
  unfold optionOf
  rw [List.foldl_map]
  rfl

theorem textOf_bare (lines : List DocLine) : textOf (lines.map bare) = textOf lines := by
  unfold textOf
  rw [List.filterMap_map]
  rfl

theorem entryOf_bare (lines : List DocLine) : entryOf (lines.map bare) = entryOf lines := by
  cases lines with
  | nil => rfl
  | cons first rest => simp [entryOf,Function.comp_def]

-- A record keeps nothing of where its lines stood.
theorem ofLines_bare (tag : Text) (lines : List DocLine) :
    Record.ofLines tag (lines.map bare) = Record.ofLines tag lines := by
  unfold Record.ofLines Form.read
  cases Form.ofTag tag with
  | text kind => simp only [textOf_bare]
  | entry kind => simp only [entryOf_bare]
  | sample => simp only [sampleOf_bare]
  | function => simp only [functionOf_bare]
  | option => simp only [optionOf_bare]

theorem blockEntry_bare (b : Block) : blockEntry (bareBlock b) = blockEntry b := by
  rw [blockEntry,Block.record,bareBlock_tag,bareBlock_lines,ofLines_bare]
  rfl

end Records

-- So the sections of a list of lines depend on what the lines say, in their order.
theorem ofBlocks_bare (lines : List DocLine) :
    Sections.ofBlocks (blocksOf (lines.map bare)) = Sections.ofBlocks (blocksOf lines) := by
  rw [blocksOf_bare,ofBlocks_eq,ofBlocks_eq,List.map_map]
  congr 1
  apply List.map_congr_left
  intro b _
  exact blockEntry_bare b

section Faults
variable {ε : Type}

-- A source is read to its end or to its first fault.
theorem source_cases (source : Source ε) :
    (∃ lines : List Text, source = lines.map .ok) ∨
      ∃ (lines : List Text) (e : ε) (rest : Source ε), source = lines.map .ok ++ .error e :: rest := by
  induction source with
  | nil => exact .inl ⟨[],rfl⟩
  | cons item source ih =>
    cases item with
    | error e => exact .inr ⟨[],e,source,rfl⟩
    | ok line =>
      rcases ih with ⟨lines,rfl⟩ | ⟨lines,e,rest,rfl⟩
      · exact .inl ⟨line :: lines,rfl⟩
      · exact .inr ⟨line :: lines,e,rest,rfl⟩

theorem markedFrom_fault (path : Text) (n : Nat) (lines : List Text) (e : ε) (rest : Source ε) :
    Source.markedFrom path n (lines.map .ok ++ .error e :: rest) = (markedOf path n lines).map .ok ++ [.error e] := by
  induction lines generalizing n with
  | nil => rfl
  | cons line lines ih =>
    have tail := ih (n + 1)
    unfold markedOf at tail ⊢
    cases side : MarkedLine.ofLine? path (n + 1) line with
    | none => simpa [Source.markedFrom,side] using tail
    | some m => simpa [Source.markedFrom,side] using tail

theorem blocksFrom_ne_nil (b : Block) (lines : List DocLine) : blocksFrom (some b) lines ≠ [] := by
  obtain ⟨rest,more,shape⟩ := blocksFrom_head b lines
  simp [shape]

-- Of what was read before a fault, the block that is still open is lost.
theorem groupFrom_fault (current : Option Block) (ms : List MarkedLine) (e : ε) :
    Source.groupFrom current (ms.map .ok ++ [.error e])
      = ((blocksFrom current (ms.map (·.read))).dropLast).map .ok ++ [.error e] := by
  induction ms generalizing current with
  | nil => cases current <;> rfl
  | cons m ms ih =>
    cases current with
    | none => exact ih (some (.single m.read))
    | some b =>
      cases side : b.takes m.read with
      | true => simpa [Source.groupFrom,blocksFrom,side] using ih (some (b.push m.read))
      | false =>
        have tail := ih (some (.single m.read))
        simpa [Source.groupFrom,blocksFrom,side,List.dropLast_cons_of_ne_nil (blocksFrom_ne_nil _ _)] using tail

theorem blocks_fault (path : Text) (lines : List Text) (e : ε) (rest : Source ε) :
    Source.blocks path (lines.map .ok ++ .error e :: rest)
      = ((blocksOf ((markedOf path 0 lines).map (·.read))).dropLast).map .ok ++ [.error e] := by
  rw [Source.blocks,Source.marked,markedFrom_fault,groupFrom_fault]
  rfl

theorem resolveFrom_ok (s : Sections) (blocks : List Block) :
    resolveFrom s (blocks.map .ok : List (Except ε Block)) = .ok (blocks.foldl Sections.addBlock s) := by
  induction blocks generalizing s with
  | nil => rfl
  | cons b blocks ih => exact ih (s.addBlock b)

theorem resolveFrom_fault (s : Sections) (blocks : List Block) (e : ε) (rest : List (Except ε Block)) :
    resolveFrom s (blocks.map .ok ++ .error e :: rest) = .error e := by
  induction blocks generalizing s with
  | nil => rfl
  | cons b blocks ih => exact ih (s.addBlock b)

end Faults

theorem ofSource_ok (origin filename : Text) (filepath : Option Text) (lines : List Text) :
    Document.ofSource origin filename filepath (lines.map .ok) =
      ⟨⟨filename,filepath,.ofBlocks (blocksOf ((markedOf origin 0 lines).map (·.read)))⟩,none⟩ := by
  have read : resolve (Source.blocks origin (lines.map .ok : Source ReadFault))
      = .ok (.ofBlocks (blocksOf ((markedOf origin 0 lines).map (·.read)))) := by
    rw [blocks_ok]
    exact resolveFrom_ok [] _
  rw [Document.ofSource,read]

theorem ofSource_fault (origin filename : Text) (filepath : Option Text) (lines : List Text)
    (e : ReadFault) (rest : Source ReadFault) :
    Document.ofSource origin filename filepath (lines.map .ok ++ .error e :: rest) =
      ⟨⟨filename,filepath,[]⟩,some e⟩ := by
  have failed : resolve (Source.blocks origin (lines.map .ok ++ .error e :: rest)) = .error e := by
    rw [blocks_fault]
    exact resolveFrom_fault [] _ e []
  rw [Document.ofSource,failed]

theorem ofBytes_encode (t : Text) : Source.ofBytes (Utf8.encode t) = Source.ofText t := by
  unfold Source.ofBytes Source.ofText
  rw [Encoding.byteLines_encode,List.map_map]
  apply List.map_congr_left
  intro line _
  simp [Encoding.decode_encode]

theorem parse_sections (t filename : Text) :
    (Document.parse t filename).sections = .ofBlocks (Text.blocks [] t) := by
  unfold Document.parse Document.ofStream
  rw [ofBytes_encode,Source.ofText,ofSource_ok]
  rfl

end ScriptDoc.ReadSections
