import ScriptDoc.Polling

-- A cursor stands for the list of what it has still to give.
namespace ScriptDoc.Cursors

section Poll
variable {σ α : Type} {next : σ → Option α × σ} {left : σ → List α}

-- One call gives the first item that is left and leaves the others.
def Unrolls (next : σ → Option α × σ) (left : σ → List α) : Prop :=
  ∀ s, (next s).1 = (left s).head? ∧ left (next s).2 = (left s).tail

theorem poll_left (unrolls : Unrolls next left) (calls : Nat) (s : σ) :
    poll next calls s = ((left s).map some ++ List.replicate calls none).take calls := by
  induction calls generalizing s with
  | zero => simp [poll]
  | succ calls ih =>
    obtain ⟨here,there⟩ := unrolls s
    rw [poll,here,ih,there]
    cases left s with
    | nil => simp [List.replicate_succ]
    | cons item more =>
      simp [List.take_append,List.take_replicate]
      omega

theorem Unrolls.nothing (unrolls : Unrolls next left) {s t : σ} (found : next s = (none, t)) : left s = [] := by
  have here := (unrolls s).1
  rw [found] at here
  exact List.head?_eq_none_iff.mp here.symm

theorem Unrolls.item (unrolls : Unrolls next left) {s t : σ} {a : α} (found : next s = (some a, t)) :
    left s = a :: left t := by
  obtain ⟨here,there⟩ := unrolls s
  rw [found] at here there
  cases shape : left s with
  | nil =>
    rw [shape] at here
    cases here
  | cons first more =>
    rw [shape] at here there
    cases Option.some.inj here
    rw [there,List.tail_cons]

end Poll

variable {ε : Type}

def blocksLeft (path : Text) : BlockCursor ε → List (Except ε Block)
  | .reading n current pending => Source.groupFrom current (Source.markedFrom path n pending)
  | .stopped => []

-- The scan runs over the lines that belong to the open block and over those that say nothing, so the
-- induction is on the lines, with the count and the open block free.
theorem scan_unrolls (path : Text) (n : Nat) (current : Option Block) (pending : Source ε) :
    (BlockCursor.scan path n current pending).1
        = (blocksLeft path (.reading n current pending)).head? ∧
      blocksLeft path (BlockCursor.scan path n current pending).2
        = (blocksLeft path (.reading n current pending)).tail := by
  induction pending generalizing n current with
  | nil => cases current <;> exact ⟨rfl,rfl⟩
  | cons item rest ih =>
    cases item with
    | error e => cases current <;> exact ⟨rfl,rfl⟩
    | ok line =>
      cases marked : MarkedLine.ofLine? path (n + 1) line with
      | none =>
        have steps := ih (n + 1) current
        simpa [BlockCursor.scan,blocksLeft,Source.markedFrom,marked] using steps
      | some m =>
        cases current with
        | none =>
          have steps := ih (n + 1) (some (.single m.read))
          simpa [BlockCursor.scan,blocksLeft,Source.markedFrom,Source.groupFrom,marked] using steps
        | some b =>
          cases side : b.takes m.read with
          | true =>
            have steps := ih (n + 1) (some (b.push m.read))
            simpa [BlockCursor.scan,blocksLeft,Source.markedFrom,Source.groupFrom,marked,side] using steps
          | false =>
            simp [BlockCursor.scan,blocksLeft,Source.markedFrom,Source.groupFrom,marked,side]

theorem blocks_unroll (path : Text) : Unrolls (@BlockCursor.next ε path) (blocksLeft path) := by
  intro cursor
  cases cursor with
  | reading n current pending => exact scan_unrolls path n current pending
  | stopped => exact ⟨rfl,rfl⟩

theorem poll_blocks (path : Text) (source : Source ε) (calls : Nat) :
    poll (BlockCursor.next path) calls (.start source)
      = ((source.blocks path).map some ++ List.replicate calls none).take calls :=
  poll_left (blocks_unroll path) calls _

end ScriptDoc.Cursors
