import Mathlib.Data.List.Chain
import ScriptDoc.Proofs.Cursors
import ScriptDoc.Proofs.MarkedLines

namespace ScriptDoc.Grouping
open MarkedLines

-- How lines may be divided into blocks. Nothing here says in which order the blocks are found.
structure Division (lines : List DocLine) (blocks : List Block) : Prop where
  whole : blocks.flatMap Block.lines = lines
  kept : ∀ b ∈ blocks, ∀ line ∈ b.rest, ∀ tag ∈ line.tag, isSubtag tag b.tag = true
  broken : blocks.IsChain fun b next => ∃ tag, next.first.tag = some tag ∧ isSubtag tag b.tag = false

theorem takes_iff (b : Block) (line : DocLine) :
    b.takes line = true ↔ ∀ tag ∈ line.tag, isSubtag tag b.tag = true := by
  unfold Block.takes
  cases line.tag <;> simp

theorem breaks_iff (b : Block) (line : DocLine) :
    b.takes line = false ↔ ∃ tag, line.tag = some tag ∧ isSubtag tag b.tag = false := by
  unfold Block.takes
  cases line.tag <;> simp

theorem blocksFrom_taken (b : Block) {taken : List DocLine} (more : List DocLine)
    (all : ∀ line ∈ taken, b.takes line = true) :
    blocksFrom (some b) (taken ++ more) = blocksFrom (some ⟨b.first,b.rest ++ taken⟩) more := by
  induction taken generalizing b with
  | nil => simp
  | cons line taken ih =>
    have here := all line (by simp)
    have others := ih (b.push line) fun other member => all other (List.mem_cons_of_mem _ member)
    rw [List.cons_append,blocksFrom,if_pos here,others]
    simp [Block.push]

theorem blocksFrom_broken {b : Block} {line : DocLine} (rest : List DocLine) (breaks : b.takes line = false) :
    blocksFrom (some b) (line :: rest) = b :: blocksOf (line :: rest) := by
  rw [blocksFrom,if_neg (by simp [breaks])]
  rfl

theorem Division.blocksOf_eq {lines : List DocLine} {blocks : List Block}
    (division : Division lines blocks) : blocksOf lines = blocks := by
  obtain ⟨rfl,kept,broken⟩ := division
  induction blocks with
  | nil => rfl
  | cons b more ih =>
    have tail := ih (fun other member => kept other (List.mem_cons_of_mem _ member)) broken.of_cons
    have own : ∀ line ∈ b.rest, (Block.single b.first).takes line = true := fun line member =>
      (takes_iff _ line).mpr (kept b (by simp) line member)
    have opened : blocksOf ((b :: more).flatMap Block.lines)
        = blocksFrom (some b) (more.flatMap Block.lines) := by
      rw [List.flatMap_cons,Block.lines,List.cons_append]
      exact blocksFrom_taken (.single b.first) _ own
    rw [opened]
    cases more with
    | nil => rfl
    | cons next others =>
      have breaks : b.takes next.first = false :=
        (breaks_iff b next.first).mpr (List.isChain_cons_cons.mp broken).1
      rw [List.flatMap_cons,Block.lines,List.cons_append] at tail ⊢
      rw [blocksFrom_broken _ breaks,tail]

theorem blocksFrom_head (b : Block) (lines : List DocLine) :
    ∃ rest more, blocksFrom (some b) lines = ⟨b.first,rest⟩ :: more := by
  induction lines generalizing b with
  | nil => exact ⟨b.rest,[],rfl⟩
  | cons line lines ih =>
    rw [blocksFrom]
    split
    · exact ih (b.push line)
    · exact ⟨b.rest,_,rfl⟩

-- The invariant of the run: the open block has only lines that belong to it, and what has been
-- read since it was opened is divided together with what is still to come.
theorem division_from (b : Block) (lines : List DocLine) (own : ∀ line ∈ b.rest, b.takes line = true) :
    Division (b.lines ++ lines) (blocksFrom (some b) lines) := by
  induction lines generalizing b with
  | nil =>
    refine ⟨by simp [blocksFrom],?_,.singleton b⟩
    intro other member
    have same : other = b := by simpa [blocksFrom] using member
    subst other
    exact fun line inside => (takes_iff b line).mp (own line inside)
  | cons line lines ih =>
    cases side : b.takes line with
    | true =>
      have pushed : ∀ other ∈ (b.push line).rest, (b.push line).takes other = true := by
        intro other member
        rcases List.mem_append.mp member with old | new
        · exact own other old
        · rw [List.mem_singleton.mp new]
          exact side
      have step := ih (b.push line) pushed
      rw [blocksFrom,if_pos side]
      simpa [Block.push,Block.lines] using step
    | false =>
      have step := ih (.single line) (by simp [Block.single])
      obtain ⟨rest,more,shape⟩ := blocksFrom_head (.single line) lines
      rw [blocksFrom,if_neg (by simp [side])]
      refine ⟨?_,?_,?_⟩
      · rw [List.flatMap_cons,step.whole]
        simp [Block.lines,Block.single]
      · intro other member
        rcases List.mem_cons.mp member with rfl | old
        · exact fun l inside => (takes_iff other l).mp (own l inside)
        · exact step.kept other old
      · have chain := step.broken
        rw [shape] at chain ⊢
        exact .cons_cons ((breaks_iff b line).mp side) chain

theorem division_blocksOf (lines : List DocLine) : Division lines (blocksOf lines) := by
  cases lines with
  | nil => exact ⟨rfl,by simp [blocksOf,blocksFrom],.nil⟩
  | cons line lines => exact division_from (.single line) lines (by simp [Block.single])

theorem division_iff (lines : List DocLine) (blocks : List Block) :
    Division lines blocks ↔ blocks = blocksOf lines := by
  constructor
  · exact fun division => division.blocksOf_eq.symm
  · rintro rfl
    exact division_blocksOf lines

theorem mem_blocksOf {lines : List DocLine} {b : Block} (member : b ∈ blocksOf lines) :
    ∀ line ∈ b.lines, line ∈ lines := by
  intro line inside
  rw [← (division_blocksOf lines).whole]
  exact List.mem_flatMap.mpr ⟨b,member,inside⟩

theorem blocksOf_head {line : DocLine} {lines : List DocLine} {b : Block}
    (head : b ∈ (blocksOf (line :: lines)).head?) : b.first = line := by
  obtain ⟨rest,more,shape⟩ := blocksFrom_head (.single line) lines
  rw [blocksOf,blocksFrom,shape] at head
  cases Option.some.inj head
  rfl

-- Two lists of lines are grouped apart when the last block of the first ends where the second begins.
theorem blocksOf_append {before after : List DocLine}
    (apart : ∀ b ∈ (blocksOf before).getLast?, ∀ line ∈ after.head?, b.takes line = false) :
    blocksOf (before ++ after) = blocksOf before ++ blocksOf after := by
  have first := division_blocksOf before
  have second := division_blocksOf after
  apply Division.blocksOf_eq
  refine ⟨by rw [List.flatMap_append,first.whole,second.whole],?_,?_⟩
  · intro b member
    rcases List.mem_append.mp member with old | new
    · exact first.kept b old
    · exact second.kept b new
  · refine first.broken.append second.broken ?_
    intro b last next head
    cases after with
    | nil => cases head
    | cons line lines =>
      rw [blocksOf_head head]
      exact (breaks_iff b line).mp (apart b last line rfl)

def bareBlock (b : Block) : Block := ⟨bare b.first, b.rest.map bare⟩

@[simp] theorem bareBlock_tag (b : Block) : (bareBlock b).tag = b.tag := rfl
@[simp] theorem bareBlock_lines (b : Block) : (bareBlock b).lines = b.lines.map bare := rfl

theorem blocksOf_bare (lines : List DocLine) :
    blocksOf (lines.map bare) = (blocksOf lines).map bareBlock := by
  have division := division_blocksOf lines
  apply Division.blocksOf_eq
  refine ⟨?_,?_,?_⟩
  · have mapped := congrArg (List.map bare) division.whole
    rw [List.map_flatMap] at mapped
    rw [List.flatMap_map,← mapped]
    rfl
  · intro other member line inside
    obtain ⟨b,among,rfl⟩ := List.mem_map.mp member
    obtain ⟨origin,there,rfl⟩ := List.mem_map.mp inside
    exact division.kept b among origin there
  · exact List.isChain_map_of_isChain bareBlock (fun _ _ breaks => breaks) division.broken

theorem groupFrom_ok {ε : Type} (current : Option Block) (ms : List MarkedLine) :
    Source.groupFrom current (ms.map .ok : List (Except ε MarkedLine))
      = (blocksFrom current (ms.map (·.read))).map .ok := by
  induction ms generalizing current with
  | nil => cases current <;> rfl
  | cons m ms ih =>
    cases current with
    | none => exact ih (some (.single m.read))
    | some b =>
      cases side : b.takes m.read with
      | true => simpa [Source.groupFrom,blocksFrom,side] using ih (some (b.push m.read))
      | false => simpa [Source.groupFrom,blocksFrom,side] using ih (some (.single m.read))

theorem blocks_ok {ε : Type} (path : Text) (lines : List Text) :
    Source.blocks path (lines.map .ok : Source ε)
      = (blocksOf ((markedOf path 0 lines).map (·.read))).map .ok := by
  rw [Source.blocks,Source.marked,markedFrom_ok,groupFrom_ok]
  rfl

theorem blocks_ofText {ε : Type} (path t : Text) :
    Source.blocks path (.ofText t : Source ε) = (Text.blocks path t).map .ok :=
  blocks_ok path t.lines

theorem blocks_eq (path t : Text) : Text.blocks path t = blocksOf (documented path t) := by
  rw [Text.blocks,read_marked]

-- An untagged block is open to no tag at all: only a name that begins with a dash would extend the
-- empty one, and no line is tagged so.
theorem untagged_block {path t : Text} {b : Block} (member : b ∈ Text.blocks path t)
    (plain : b.first.tag = none) : ∀ line ∈ b.lines, line.tag = none := by
  rw [blocks_eq] at member
  intro line inside
  rcases List.mem_cons.mp inside with rfl | later
  · exact plain
  · cases tagged : line.tag with
    | none => rfl
    | some tag =>
      have extended := (division_blocksOf _).kept b member line later tag tagged
      obtain ⟨k,raw,_,rfl⟩ := mem_documentedFrom (mem_blocksOf member line inside)
      rw [Block.tag,plain,Option.getD_none,isSubtag_nil tagged] at extended
      cases extended

-- The blocks of a text are the only division of its documentation lines, and they are what a
-- reader gets that asks for one block after another, before it gets nothing for ever.
theorem blocks_sole_division (ε : Type) (path t : Text) :
    (∀ blocks, Division (documented path t) blocks ↔ blocks = Text.blocks path t) ∧
    (∀ b ∈ Text.blocks path t, b.first.tag = none → ∀ line ∈ b.lines, line.tag = none) ∧
    ∀ calls, poll (BlockCursor.next path) calls (.start (.ofText t : Source ε))
      = ((Text.blocks path t).map (some ∘ Except.ok) ++ List.replicate calls none).take calls := by
  refine ⟨?_,fun b member plain => untagged_block member plain,?_⟩
  · intro blocks
    rw [blocks_eq]
    exact division_iff _ blocks
  · intro calls
    rw [Cursors.poll_blocks,blocks_ofText,List.map_map]

end ScriptDoc.Grouping
