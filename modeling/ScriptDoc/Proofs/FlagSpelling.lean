import ScriptDoc.Proofs.FlagReading

-- When the signature of an option is what its author wrote.
namespace ScriptDoc.FlagSpelling
open ScriptDoc.Flag FlagReading

inductive Flags : Text → Prop where
  | short {s : Text} (short : ShortFlag s) : Flags s
  | both {s l : Text} (short : ShortFlag s) (long : LongFlag l) : Flags (s ++ ", " ++ l)
  | long {l : Text} (long : LongFlag l) : Flags l

-- Flags, and then any argument, directly behind them or after a space.
def Written (v : Text) : Prop :=
  ∃ flags gap argument : Text, Flags flags ∧ (gap = [] ∨ gap = " ") ∧ v = flags ++ gap ++ argument

-- Flags alone, or with an argument behind a space.
def SetApart (v : Text) : Prop :=
  ∃ flags : Text, Flags flags ∧ (v = flags ∨ ∃ argument : Text, argument ≠ [] ∧ v = flags ++ " " ++ argument)

section Flagging
variable {f : Flag} {v : Text}

theorem short_filled {s : Text} (short : ShortFlag s) : s ≠ [] := by
  obtain ⟨c,_,rfl⟩ := short
  simp

theorem long_filled {l : Text} (long : LongFlag l) : l ≠ [] := by
  obtain ⟨name,_,_,rfl⟩ := long
  simp

theorem flagged_flags (flagged : Flagged f) : Flags (f.short ++ shownComma f ++ f.long) := by
  unfold shownComma
  rcases flagged.short with none | short
  · have long := flagged.long.resolve_left (flagged.some.resolve_left (absurd none))
    simpa [none] using Flags.long long
  rcases flagged.long with none | long
  · simpa [none] using Flags.short short
  · simpa [short_filled short,long_filled long] using Flags.both short long

theorem flagged_of_flags {flags : Text} (is : Flags flags) (argument : Text) :
    ∃ f, Flagged f ∧ f.positional = argument ∧ f.short ++ shownComma f ++ f.long = flags := by
  cases is with
  | short short =>
    refine ⟨⟨flags,[],argument⟩,⟨.inr short,.inl rfl,.inl (short_filled short)⟩,rfl,?_⟩
    simp [shownComma]
  | @both s l short long =>
    refine ⟨⟨s,l,argument⟩,⟨.inr short,.inr long,.inl (short_filled short)⟩,rfl,?_⟩
    simp [shownComma,short_filled short,long_filled long]
  | long long =>
    refine ⟨⟨[],flags,argument⟩,⟨.inl rfl,.inr long,.inr (long_filled long)⟩,rfl,?_⟩
    simp [shownComma]

-- What is set apart is what signatures look like.
theorem setApart_iff : SetApart v ↔ ∃ f, Flagged f ∧ v = Text.trimStart f.signature := by
  constructor
  · intro ⟨flags,is,shape⟩
    rcases shape with alone | ⟨argument,filled,behind⟩
    · obtain ⟨f,flagged,none,same⟩ := flagged_of_flags is []
      refine ⟨f,flagged,?_⟩
      rw [flagged.trimStart_signature,same,none,shownSpace,if_neg (by simp [none]),alone]
      simp
    · obtain ⟨f,flagged,rest,same⟩ := flagged_of_flags is argument
      refine ⟨f,flagged,?_⟩
      rw [flagged.trimStart_signature,same,shownSpace,if_pos ⟨flagged.some,by simpa [rest] using filled⟩,rest,behind]
  · intro ⟨f,flagged,same⟩
    rw [flagged.trimStart_signature] at same
    refine ⟨_,flagged_flags flagged,?_⟩
    by_cases none : f.positional = []
    · exact .inl (by simpa [shownSpace,none] using same)
    · rw [shownSpace,if_pos ⟨flagged.some,none⟩] at same
      exact .inr ⟨f.positional,none,same⟩

theorem flags_begin {flags : Text} (is : Flags flags) :
    ∃ start, (ShortFlag start ∨ LongFlag start) ∧ start <+: flags := by
  cases is with
  | short short => exact ⟨flags,.inl short,List.prefix_rfl⟩
  | @both s l short long => exact ⟨s,.inl short,by simp [List.append_assoc]⟩
  | long long => exact ⟨flags,.inr long,List.prefix_rfl⟩

theorem written_flagged (written : Written v) (single : '\n' ∉ v) : Flagged (ofText v) := by
  obtain ⟨flags,gap,argument,is,_,whole⟩ := written
  obtain ⟨comma,space,divided⟩ := ofText_divided single
  refine ⟨divided.short,divided.long,?_⟩
  obtain ⟨start,kind,begins⟩ := flags_begin is
  have front : start <+: v := by
    rw [whole,List.append_assoc]
    exact begins.trans (List.prefix_append _ _)
  -- Without both flags the value would begin with one that was passed over.
  refine Decidable.or_iff_not_not_and_not.mpr fun ⟨noShort,noLong⟩ => ?_
  rw [Decidable.not_not] at noShort noLong
  rcases kind with short | long
  · exact divided.noShort noShort start short front
  · have rest := divided.whole
    rw [noShort,noLong,List.append_nil,List.nil_append,List.append_assoc] at rest
    rw [rest] at front
    rcases divided.separator with none | comma
    · rw [none] at front
      exact divided.noLong noLong start long front
    · obtain ⟨more,rfl⟩ := long_front long
      simp [comma] at front

end Flagging

-- A value and the signature that comes of it. They have the same parts, but a signature puts its own
-- separators between them.
structure Respelled (v : Text) : Prop where
  divided : ∃ comma space, Divided v (readOption v).flag comma space
  shown : Page.flagText (readOption v) = (readOption v).flag.short ++ shownComma (readOption v).flag
    ++ (readOption v).flag.long ++ shownSpace (readOption v).flag ++ (readOption v).flag.positional
  same : Page.flagText (readOption v) = v ↔ SetApart v

theorem signature_respelled {v : Text} (written : Written v) (single : '\n' ∉ v) : Respelled v where
  divided := ofText_divided single
  shown := (written_flagged written single).trimStart_signature
  same := by
    rw [setApart_iff]
    constructor
    · intro same
      exact ⟨ofText v,written_flagged written single,same.symm⟩
    · intro ⟨f,flagged,same⟩
      have read : ofText v = f := divided_ofText (same ▸ flagged.divided) single
      rw [Page.flagText,readOption_signature,read,same]

theorem output_long : LongFlag "--output" := ⟨"output",by decide,List.all_eq_true.mp (by decide),rfl⟩

theorem output_written : Written "-o, --output FILE" :=
  ⟨"-o, --output"," ","FILE",.both ⟨'o',by decide,rfl⟩ output_long,.inr rfl,rfl⟩

theorem signature_respelled_output :
    let v : Text := "-o, --output FILE"
    Written v ∧ '\n' ∉ v ∧ Respelled v ∧ Page.flagText (readOption v) = v :=
  ⟨output_written,by decide,signature_respelled output_written (by decide),by decide⟩

-- An argument that is written to its flag is moved away from it, and a comma that no long flag follows is lost.
theorem attached_argument_moved :
    Written "--output=FILE" ∧ Page.flagText (readOption "--output=FILE") = "--output =FILE" ∧
      Written "-a, -b" ∧ Page.flagText (readOption "-a, -b") = "-a -b" :=
  ⟨⟨"--output",[],"=FILE",.long output_long,.inl rfl,rfl⟩,by decide,
    ⟨"-a",[],", -b",.short ⟨'a',by decide,rfl⟩,.inl rfl,rfl⟩,by decide⟩

end ScriptDoc.FlagSpelling
