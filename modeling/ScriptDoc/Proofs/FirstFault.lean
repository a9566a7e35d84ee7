import ScriptDoc.Proofs.ReadSections

namespace ScriptDoc.FirstFault
open Cursors MarkedLines Grouping ReadSections

variable {ε : Type}

def marksLeft (path : Text) : MarkCursor ε → List (Except ε MarkedLine)
  | .reading n pending => Source.markedFrom path n pending
  | .stopped => []

theorem scan_marks (path : Text) (n : Nat) (pending : Source ε) :
    (MarkCursor.scan path n pending).1 = (Source.markedFrom path n pending).head? ∧
      marksLeft path (MarkCursor.scan path n pending).2 = (Source.markedFrom path n pending).tail := by
  induction pending generalizing n with
  | nil => exact ⟨rfl,rfl⟩
  | cons item rest ih =>
    cases item with
    | error e => exact ⟨rfl,rfl⟩
    | ok line =>
      cases marked : MarkedLine.ofLine? path (n + 1) line with
      | none => simpa [MarkCursor.scan,Source.markedFrom,marked] using ih (n + 1)
      | some m => simp [MarkCursor.scan,Source.markedFrom,marked,marksLeft]

theorem marks_unroll (path : Text) : Unrolls (@MarkCursor.next ε path) (marksLeft path) := by
  intro marks
  cases marks with
  | reading n pending => exact scan_marks path n pending
  | stopped => exact ⟨rfl,rfl⟩

def pendingLines : MarkCursor ε → Nat
  | .reading _ pending => pending.length
  | .stopped => 0

theorem scan_shorter (path : Text) (n : Nat) {pending : Source ε} {m : MarkedLine}
    (found : (MarkCursor.scan path n pending).1 = some (.ok m)) :
    pendingLines (MarkCursor.scan path n pending).2 < pending.length := by
  induction pending generalizing n with
  | nil => cases found
  | cons item rest ih =>
    cases item with
    | error e => cases found
    | ok line =>
      cases marked : MarkedLine.ofLine? path (n + 1) line with
      | none =>
        simp only [MarkCursor.scan,marked] at found ⊢
        exact Nat.lt_succ_of_lt (ih (n + 1) found)
      | some other => simp [MarkCursor.scan,marked,pendingLines]

theorem next_shorter {path : Text} {marks left : MarkCursor ε} {m : MarkedLine}
    (found : marks.next path = (some (.ok m), left)) : pendingLines left < pendingLines marks := by
  cases marks with
  | reading n pending =>
    have shorter := scan_shorter path n (congrArg Prod.fst found)
    rwa [show (MarkCursor.scan path n pending).2 = left from congrArg Prod.snd found] at shorter
  | stopped => cases found

-- Blocks asked for through a cursor of marked lines. Each of the two remembers for itself that it has
-- ended; the cursor for blocks has one state for both.
structure Layered (ε : Type) where
  marks : MarkCursor ε
  current : Option Block
  done : Bool

namespace Layered

def start (source : Source ε) : Layered ε := ⟨.start source, none, false⟩

def run (path : Text) (marks : MarkCursor ε) (current : Option Block) :
    Option (Except ε Block) × Layered ε :=
  match _found : marks.next path with
  | (none, left) => (current.map .ok, ⟨left, none, true⟩)
  | (some (.error e), left) => (some (.error e), ⟨left, none, true⟩)
  | (some (.ok m), left) =>
    match current with
    | none => run path left (some (.single m.read))
    | some b =>
      if b.takes m.read then run path left (some (b.push m.read))
      else (some (.ok b), ⟨left, some (.single m.read), false⟩)
termination_by pendingLines marks
decreasing_by all_goals exact next_shorter _found

def next (path : Text) (s : Layered ε) : Option (Except ε Block) × Layered ε :=
  if s.done then (none, s) else run path s.marks s.current

def left (path : Text) (s : Layered ε) : List (Except ε Block) :=
  if s.done then [] else Source.groupFrom s.current (marksLeft path s.marks)

theorem run_unrolls (path : Text) (marks : MarkCursor ε) (current : Option Block) :
    (run path marks current).1 = (Source.groupFrom current (marksLeft path marks)).head? ∧
      left path (run path marks current).2 = (Source.groupFrom current (marksLeft path marks)).tail := by
  fun_induction run path marks current with
  | case1 marks current later found =>
    rw [(marks_unroll path).nothing found]
    cases current <;> exact ⟨rfl,rfl⟩
  | case2 marks current e later found =>
    rw [(marks_unroll path).item found]
    cases current <;> exact ⟨rfl,rfl⟩
  | case3 marks m later found ih =>
    rw [(marks_unroll path).item found]
    exact ih
  | case4 marks m later found b taken ih =>
    rw [(marks_unroll path).item found,Source.groupFrom,if_pos taken]
    exact ih
  | case5 marks m later found b broken =>
    rw [(marks_unroll path).item found,Source.groupFrom,if_neg broken]
    exact ⟨rfl,rfl⟩

theorem unroll (path : Text) : Unrolls (@next ε path) (left path) := by
  intro s
  unfold next left
  split
  · simp
  · exact run_unrolls path s.marks s.current

theorem poll_eq (path : Text) (source : Source ε) (calls : Nat) :
    poll (next path) calls (.start source) = poll (BlockCursor.next path) calls (.start source) := by
  rw [poll_left (unroll path),poll_blocks]
  rfl

end Layered

-- The lines in front of the first fault, and that fault if there is one.
def front : Source ε → List Text × Option ε
  | [] => ([], none)
  | .error e :: _ => ([], some e)
  | .ok line :: rest => (line :: (front rest).1, (front rest).2)

theorem front_ok (lines : List Text) : front (lines.map .ok : Source ε) = (lines, none) := by
  induction lines with
  | nil => rfl
  | cons line lines ih => rw [List.map_cons,front,ih]

theorem front_fault (lines : List Text) (e : ε) (rest : Source ε) :
    front (lines.map .ok ++ .error e :: rest) = (lines, some e) := by
  induction lines with
  | nil => rfl
  | cons line lines ih => rw [List.map_cons,List.cons_append,front,ih]

-- The last block is closed by the end of the lines and by nothing else.
def expected (path : Text) : List Text × Option ε → List (Except ε Block)
  | (lines, none) => (blocksOf ((markedOf path 0 lines).map (·.read))).map .ok
  | (lines, some e) => ((blocksOf ((markedOf path 0 lines).map (·.read))).dropLast).map .ok ++ [.error e]

theorem blocks_front (path : Text) (source : Source ε) : source.blocks path = expected path (front source) := by
  rcases source_cases source with ⟨lines,rfl⟩ | ⟨lines,e,rest,rfl⟩
  · rw [blocks_ok,front_ok]
    rfl
  · rw [blocks_fault,front_fault]
    rfl

-- However often it is asked, a reader gives what stands in front of the first fault, the fault, and
-- then nothing any more.
theorem polls_to_first_fault (path : Text) (source : Source ε) (calls : Nat) :
    poll (BlockCursor.next path) calls (.start source)
      = ((expected path (front source)).map some ++ List.replicate calls none).take calls ∧
    poll (Layered.next path) calls (.start source) = poll (BlockCursor.next path) calls (.start source) := by
  refine ⟨?_,Layered.poll_eq path source calls⟩
  rw [poll_blocks,blocks_front]

end ScriptDoc.FirstFault
