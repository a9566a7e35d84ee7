import ScriptDoc.Page.Parts
import ScriptDoc.Proofs.LineGrammar
import ScriptDoc.Proofs.TextLines

-- How an option value is divided into its flags, and that the signature is divided in the same way.
namespace ScriptDoc.FlagReading
open ScriptDoc.Flag LineGrammar TextLines

def ShortFlag (t : Text) : Prop := ∃ c, isWord c = true ∧ t = ['-', c]

def LongFlag (t : Text) : Prop := ∃ name : Text, name ≠ [] ∧ (∀ c ∈ name, isLongChar c = true) ∧ t = "--" ++ name

-- A value cut from left to right. A part is missing only where it cannot begin, and a long flag ends
-- only where it cannot go on.
structure Divided (v : Text) (f : Flag) (comma space : Text) : Prop where
  whole : v = f.short ++ comma ++ f.long ++ space ++ f.positional
  separator : comma = [] ∨ comma = ", "
  gap : space = [] ∨ space = " "
  short : f.short = [] ∨ ShortFlag f.short
  long : f.long = [] ∨ LongFlag f.long
  noShort : f.short = [] → ∀ start, ShortFlag start → ¬ start <+: v
  noComma : comma = [] → ¬ (", " : Text) <+: f.long ++ space ++ f.positional
  noLong : f.long = [] → ∀ start, LongFlag start → ¬ start <+: space ++ f.positional
  longEnds : f.long ≠ [] → ∀ c ∈ (space ++ f.positional).head?, isLongChar c = false
  noSpace : space = [] → ¬ (" " : Text) <+: f.positional

theorem dash_not_word : isWord '-' = false := by decide
theorem space_not_long : isLongChar ' ' = false := by decide

section Taking

theorem takeShort_taken {s : Text} (short : ShortFlag s) (rest : Text) : takeShort (s ++ rest) = (s, rest) := by
  obtain ⟨c,word,rfl⟩ := short
  exact if_pos word

theorem takeShort_none {t : Text} (none : ∀ start, ShortFlag start → ¬ start <+: t) : takeShort t = ([], t) := by
  unfold takeShort
  split
  · rename_i c rest
    rw [if_neg]
    intro word
    exact none _ ⟨c,word,rfl⟩ ⟨rest,rfl⟩
  · rfl

theorem takeShort_parts (t : Text) :
    t = (takeShort t).1 ++ (takeShort t).2 ∧ ((takeShort t).1 = [] ∨ ShortFlag (takeShort t).1) ∧
      ((takeShort t).1 = [] → ∀ start, ShortFlag start → ¬ start <+: t) := by
  by_cases found : ∃ start, ShortFlag start ∧ start <+: t
  · obtain ⟨start,short,rest,rfl⟩ := found
    rw [takeShort_taken short]
    refine ⟨rfl,.inr short,?_⟩
    obtain ⟨c,_,rfl⟩ := short
    exact fun empty => absurd empty (by simp)
  · have none : ∀ start, ShortFlag start → ¬ start <+: t := fun start short begins => found ⟨start,short,begins⟩
    rw [takeShort_none none]
    exact ⟨rfl,.inl rfl,fun _ => none⟩

theorem skipComma_none {t : Text} (none : ¬ (", " : Text) <+: t) : skipComma t = t := by
  unfold skipComma
  split
  · rename_i rest
    exact absurd ⟨rest,rfl⟩ none
  · rfl

theorem skipSpace_none {t : Text} (none : ¬ (" " : Text) <+: t) : skipSpace t = t := by
  unfold skipSpace
  split
  · rename_i rest
    exact absurd ⟨rest,rfl⟩ none
  · rfl

theorem takeLong_taken {l rest : Text} (long : LongFlag l) (ends : ∀ c ∈ rest.head?, isLongChar c = false) :
    takeLong (l ++ rest) = (l, rest) := by
  obtain ⟨name,filled,run,rfl⟩ := long
  obtain ⟨taken,left⟩ := run_found run ends
  have first : (name ++ rest).head?.any isLongChar = true := by
    obtain ⟨c,more,rfl⟩ := List.exists_cons_of_ne_nil filled
    exact run c (by simp)
  have split : takeLong ("--" ++ name ++ rest)
      = ("--" ++ (name ++ rest).takeWhile isLongChar, (name ++ rest).dropWhile isLongChar) := if_pos first
  rw [split,taken,left]

theorem takeLong_none {t : Text} (none : ∀ start, LongFlag start → ¬ start <+: t) : takeLong t = ([], t) := by
  unfold takeLong
  split
  · rename_i rest
    rw [if_neg]
    intro first
    cases rest with
    | nil => cases first
    | cons c rest =>
      have alone : LongFlag ['-','-',c] := ⟨[c],by simp,by simpa using first,rfl⟩
      exact none _ alone ⟨rest,rfl⟩
  · rfl

theorem takeLong_parts (t : Text) :
    t = (takeLong t).1 ++ (takeLong t).2 ∧ ((takeLong t).1 = [] ∨ LongFlag (takeLong t).1) ∧
      ((takeLong t).1 = [] → ∀ start, LongFlag start → ¬ start <+: (takeLong t).2) ∧
      ((takeLong t).1 ≠ [] → ∀ c ∈ (takeLong t).2.head?, isLongChar c = false) := by
  by_cases found : ∃ start, LongFlag start ∧ start <+: t
  · obtain ⟨start,⟨name,filled,run,rfl⟩,rest,rfl⟩ := found
    -- The flag goes on behind the beginning that was found.
    have long : LongFlag ("--" ++ (name ++ rest.takeWhile isLongChar)) := by
      refine ⟨_,by simp [filled],?_,rfl⟩
      intro c inside
      rcases List.mem_append.mp inside with front | later
      · exact run c front
      · exact List.all_eq_true.mp List.all_takeWhile c later
    have ends : ∀ c ∈ (rest.dropWhile isLongChar).head?, isLongChar c = false := by
      intro c first
      have stopped := List.head?_dropWhile_not isLongChar rest
      rw [Option.mem_def.mp first] at stopped
      exact stopped
    have whole : ("--" ++ name ++ rest : Text)
        = ("--" ++ (name ++ rest.takeWhile isLongChar)) ++ rest.dropWhile isLongChar := by
      simp [List.append_assoc]
    rw [whole,takeLong_taken long ends]
    exact ⟨rfl,.inr long,fun empty => absurd empty (by simp),fun _ => ends⟩
  · have none : ∀ start, LongFlag start → ¬ start <+: t := fun start long begins => found ⟨start,long,begins⟩
    rw [takeLong_none none]
    exact ⟨rfl,.inl rfl,fun _ => none,fun some => absurd rfl some⟩

end Taking

section Dividing
variable {v comma space : Text} {f : Flag}

theorem divided_ofText (divided : Divided v f comma space) (single : '\n' ∉ v) : ofText v = f := by
  have first : takeShort v = (f.short, comma ++ f.long ++ space ++ f.positional) := by
    rcases divided.short with none | some
    · rw [takeShort_none (divided.noShort none),none,divided.whole,none]
      simp
    · have whole : v = f.short ++ (comma ++ f.long ++ space ++ f.positional) := by
        simpa only [List.append_assoc] using divided.whole
      rw [whole]
      exact takeShort_taken some _
  have second : skipComma (comma ++ f.long ++ space ++ f.positional) = f.long ++ space ++ f.positional := by
    rcases divided.separator with rfl | rfl
    · exact skipComma_none (divided.noComma rfl)
    · rfl
  have third : takeLong (f.long ++ space ++ f.positional) = (f.long, space ++ f.positional) := by
    rw [List.append_assoc]
    rcases divided.long with none | some
    · rw [none]
      exact takeLong_none (divided.noLong none)
    · apply takeLong_taken some (divided.longEnds _)
      obtain ⟨name,_,_,shape⟩ := some
      simp [shape]
  have last : skipSpace (space ++ f.positional) = f.positional := by
    rcases divided.gap with rfl | rfl
    · exact skipSpace_none (divided.noSpace rfl)
    · rfl
  have clean : f.positional.takeWhile (· ≠ '\n') = f.positional := by
    apply firstLine_clean
    intro inside
    exact single (by rw [divided.whole]; exact List.mem_append_right _ inside)
  simp only [ofText,first,second,third,last,clean]

-- What is skipped in front, if it is there, and once only.
theorem skip_parts {sep : Text} {skip : Text → Text} (filled : sep ≠ []) (taken : ∀ rest, skip (sep ++ rest) = rest)
    (none : ∀ t, ¬ sep <+: t → skip t = t) (t : Text) :
    ∃ skipped, t = skipped ++ skip t ∧ (skipped = [] ∨ skipped = sep) ∧ (skipped = [] → ¬ sep <+: skip t) := by
  by_cases found : sep <+: t
  · obtain ⟨rest,rfl⟩ := found
    exact ⟨sep,by rw [taken],.inr rfl,fun empty => absurd empty filled⟩
  · refine ⟨[],?_,.inl rfl,fun _ => ?_⟩
    · exact (none t found).symm
    · rwa [none t found]

theorem ofText_divided (single : '\n' ∉ v) : ∃ comma space, Divided v (ofText v) comma space := by
  obtain ⟨first,short,noShort⟩ := takeShort_parts v
  obtain ⟨comma,second,separator,noComma⟩ :=
    skip_parts (by decide) (fun _ => rfl) (fun _ => skipComma_none) (takeShort v).2
  obtain ⟨third,long,noLong,longEnds⟩ := takeLong_parts (skipComma (takeShort v).2)
  obtain ⟨space,last,gap,noSpace⟩ :=
    skip_parts (by decide) (fun _ => rfl) (fun _ => skipSpace_none) (takeLong (skipComma (takeShort v).2)).2
  have whole : v = (takeShort v).1 ++ comma ++ (takeLong (skipComma (takeShort v).2)).1 ++ space
      ++ skipSpace (takeLong (skipComma (takeShort v).2)).2 := by
    rw [List.append_assoc _ space,← last,List.append_assoc _ _ (takeLong _).2,← third,List.append_assoc,← second,← first]
  have clean : (ofText v).positional = skipSpace (takeLong (skipComma (takeShort v).2)).2 := by
    apply firstLine_clean
    intro inside
    exact single (by rw [whole]; exact List.mem_append_right _ inside)
  refine ⟨comma,space,?_,separator,gap,short,long,noShort,?_,?_,?_,?_⟩
  · rw [clean]
    exact whole
  · rw [clean,List.append_assoc,← last]
    exact fun none => third ▸ noComma none
  · rw [clean,← last]
    exact noLong
  · rw [clean,← last]
    exact longEnds
  · rw [clean]
    exact noSpace

end Dividing

section Signatures

-- What the signature puts between its parts.
def shownComma (f : Flag) : Text := if f.short ≠ [] ∧ f.long ≠ [] then ", " else []

def shownSpace (f : Flag) : Text := if (f.short ≠ [] ∨ f.long ≠ []) ∧ f.positional ≠ [] then " " else []

variable {f : Flag}

-- The alignment is the only difference between the signature and its parts.
theorem signature_aligned (f : Flag) :
    ∃ n, f.signature = Text.spaces n ++ (f.short ++ shownComma f ++ f.long ++ shownSpace f ++ f.positional) := by
  refine ⟨if f.short = [] ∧ f.long ≠ [] then 4 else 0,?_⟩
  unfold signature shownComma shownSpace
  by_cases short : f.short = [] <;> by_cases long : f.long = [] <;> by_cases rest : f.positional = []
  all_goals simp [short,long,rest,Text.spaces]

theorem trimStart_spaces (n : Nat) (t : Text) : Text.trimStart (Text.spaces n ++ t) = t.trimStart := by
  apply List.dropWhile_append_of_pos
  intro c inside
  rw [List.eq_of_mem_replicate inside]
  decide

theorem trimStart_solid {t : Text} (solid : ∀ c ∈ t.head?, isBlank c = false) : t.trimStart = t :=
  (@run_found isBlank [] t (by simp) solid).2

theorem short_front {s : Text} (short : ShortFlag s) : ∃ rest, s = '-' :: rest := by
  obtain ⟨c,_,rfl⟩ := short
  exact ⟨[c],rfl⟩

theorem long_front {l : Text} (long : LongFlag l) : ∃ rest, l = '-' :: '-' :: rest := by
  obtain ⟨name,_,_,rfl⟩ := long
  exact ⟨name,rfl⟩

-- A flag that begins with two dashes is no short one.
theorem long_not_short {start l : Text} (short : ShortFlag start) (long : LongFlag l) (rest : Text) :
    ¬ start <+: l ++ rest := by
  obtain ⟨c,word,rfl⟩ := short
  obtain ⟨more,rfl⟩ := long_front long
  intro begins
  have dash : c = '-' := by simpa using begins
  rw [dash,dash_not_word] at word
  cases word

structure Flagged (f : Flag) : Prop where
  short : f.short = [] ∨ ShortFlag f.short
  long : f.long = [] ∨ LongFlag f.long
  some : f.short ≠ [] ∨ f.long ≠ []

theorem Flagged.trimStart_signature (flagged : Flagged f) :
    Text.trimStart f.signature = f.short ++ shownComma f ++ f.long ++ shownSpace f ++ f.positional := by
  have dash : ∃ rest, f.short ++ shownComma f ++ f.long ++ shownSpace f ++ f.positional = '-' :: rest := by
    rcases flagged.short with none | some
    · have long := flagged.long.resolve_left (flagged.some.resolve_left (absurd none))
      obtain ⟨rest,shape⟩ := long_front long
      exact ⟨_,by rw [none,shownComma,if_neg (by simp [none]),shape]; rfl⟩
    · obtain ⟨rest,shape⟩ := short_front some
      exact ⟨_,by rw [shape]; rfl⟩
  obtain ⟨n,aligned⟩ := signature_aligned f
  obtain ⟨rest,front⟩ := dash
  rw [aligned,trimStart_spaces,front]
  apply trimStart_solid
  rintro c ⟨⟩
  decide

-- What stands behind the flags of a signature is behind a space.
theorem Flagged.gap (flagged : Flagged f) :
    (shownSpace f = [] ∧ f.positional = []) ∨ shownSpace f = " " := by
  unfold shownSpace
  by_cases rest : f.positional = []
  · exact .inl ⟨if_neg fun both => both.2 rest,rest⟩
  · exact .inr (if_pos ⟨flagged.some,rest⟩)

theorem Flagged.divided (flagged : Flagged f) :
    Divided (Text.trimStart f.signature) f (shownComma f) (shownSpace f) where
  whole := flagged.trimStart_signature
  separator := by
    unfold shownComma
    split
    · exact .inr rfl
    · exact .inl rfl
  gap := flagged.gap.imp And.left id
  short := flagged.short
  long := flagged.long
  noShort none start short := by
    have long := flagged.long.resolve_left (flagged.some.resolve_left (absurd none))
    rw [flagged.trimStart_signature,none,shownComma,if_neg (by simp [none]),List.nil_append,List.nil_append,
      List.append_assoc]
    exact long_not_short short long _
  noComma _ := by
    rcases flagged.long with none | some
    · rw [none]
      rcases flagged.gap with ⟨space,rest⟩ | space <;> simp [*]
    · obtain ⟨rest,shape⟩ := long_front some
      simp [shape]
  noLong none start long := by
    obtain ⟨rest,rfl⟩ := long_front long
    rcases flagged.gap with ⟨space,rest⟩ | space <;> simp [*]
  longEnds _ := by
    rcases flagged.gap with ⟨space,rest⟩ | space <;> simp [*,space_not_long]
  noSpace none := by
    rcases flagged.gap with ⟨space,rest⟩ | space
    · simp [rest]
    · rw [space] at none
      cases none

end Signatures

section Options
variable {v : Text}

theorem flag_single (single : '\n' ∉ v) :
    '\n' ∉ (ofText v).short ∧ '\n' ∉ (ofText v).long ∧ '\n' ∉ (ofText v).positional := by
  obtain ⟨comma,space,divided⟩ := ofText_divided single
  rw [divided.whole] at single
  simp only [List.mem_append,not_or] at single
  exact ⟨single.1.1.1.1,single.1.1.2,single.2⟩

theorem signature_single (single : '\n' ∉ v) : '\n' ∉ (ofText v).signature := by
  obtain ⟨short,long,rest⟩ := flag_single single
  have comma : '\n' ∉ shownComma (ofText v) := by
    unfold shownComma
    split <;> decide
  have space : '\n' ∉ shownSpace (ofText v) := by
    unfold shownSpace
    split <;> decide
  obtain ⟨n,aligned⟩ := signature_aligned (ofText v)
  simp [aligned,short,long,rest,comma,space,Text.spaces]

-- The record of a block that is one option line.
def readOption (v : Text) : OptionDoc := optionOf [⟨[], 1, some "option", some v⟩]

theorem readOption_flag (v : Text) : (readOption v).flag = ofText v := rfl

theorem readOption_signature (v : Text) : (readOption v).signature = (ofText v).signature := rfl

-- Without flags the value is its own signature, if nothing was skipped in front.
theorem flagless_value {comma space : Text} {f : Flag} (divided : Divided v f comma space) (none : f.short = [])
    (missing : f.long = []) (solid : ∀ c ∈ v.head?, isBlank c = false) (closed : ¬ (", " : Text) <+: v) :
    f.signature = v := by
  have whole := divided.whole
  rw [none,missing,List.append_nil] at whole
  have separator : comma = [] := divided.separator.resolve_right fun there =>
    closed ⟨space ++ f.positional,by rw [whole,there]; rfl⟩
  have gap : space = [] := divided.gap.resolve_right fun there => by
    have blank := solid ' ' (by rw [whole,separator,there]; rfl)
    cases blank
  rw [whole,separator,gap,signature,none,missing]
  rfl

theorem signature_canonical (single : '\n' ∉ v) :
    (∃ comma space, Divided v (readOption v).flag comma space) ∧
    ((∀ c ∈ v.head?, isBlank c = false) → ¬ (", " : Text) <+: v →
      (readOption (Page.flagText (readOption v))).flag = (readOption v).flag) := by
  obtain ⟨comma,space,divided⟩ := ofText_divided single
  refine ⟨⟨comma,space,divided⟩,?_⟩
  intro solid closed
  rw [readOption_flag,readOption_flag,Page.flagText,readOption_signature]
  by_cases flagged : (ofText v).short ≠ [] ∨ (ofText v).long ≠ []
  · have again := Flagged.divided ⟨divided.short,divided.long,flagged⟩
    apply divided_ofText again
    exact fun inside => signature_single single ((List.dropWhile_sublist _).subset inside)
  · obtain ⟨none,missing⟩ := not_or.mp flagged
    have same := flagless_value divided (Decidable.not_not.mp none) (Decidable.not_not.mp missing) solid closed
    rw [same,trimStart_solid solid]

-- What was attached to the flag comes back behind a space, and is divided from it all the same.
theorem signature_canonical_attached :
    let v : Text := "-o--out=FILE, x"
    (∃ comma space, Divided v ⟨"-o", "--out", "=FILE, x"⟩ comma space) ∧
      Page.flagText (readOption v) = "-o, --out =FILE, x" ∧
      (readOption (Page.flagText (readOption v))).flag = ⟨"-o", "--out", "=FILE, x"⟩ := by
  intro v
  have read : (readOption v).flag = ⟨"-o", "--out", "=FILE, x"⟩ := by decide
  obtain ⟨divided,again⟩ := @signature_canonical v (by decide)
  refine ⟨read ▸ divided,by decide,read ▸ again ?_ (by decide)⟩
  rintro c ⟨⟩
  decide

end Options
end ScriptDoc.FlagReading
