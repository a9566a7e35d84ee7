import ScriptDoc.Line

-- What a documentation line has to look like to be tagged, said without reading it.
namespace ScriptDoc.LineGrammar

-- The code points with the White_Space property, one by one.
def whiteSpace : List Nat :=
  [0x9, 0xA, 0xB, 0xC, 0xD, 0x20, 0x85, 0xA0, 0x1680, 0x2000, 0x2001, 0x2002, 0x2003, 0x2004, 0x2005, 0x2006,
    0x2007, 0x2008, 0x2009, 0x200A, 0x2028, 0x2029, 0x202F, 0x205F, 0x3000]

def WhiteSpace (c : Char) : Prop := c.toNat ∈ whiteSpace

def Letter (c : Char) : Prop := ('A' ≤ c ∧ c ≤ 'Z') ∨ ('a' ≤ c ∧ c ≤ 'z')
def Digit (c : Char) : Prop := '0' ≤ c ∧ c ≤ '9'

def Identifier : Text → Prop
  | [] => False
  | c :: rest => (Letter c ∨ c = '_') ∧ ∀ d ∈ rest, Letter d ∨ Digit d ∨ d = '_' ∨ d = '-'

-- The parts of a tagged content. A tag without a value may still have blanks behind it.
structure Division where
  indent : Text
  sign : Char
  name : Text
  gap : Text
  value : Option Text

namespace Division

def text (d : Division) : Text := d.indent ++ d.sign :: (d.name ++ (d.gap ++ d.value.getD []))

structure Valid (d : Division) : Prop where
  indent : ∀ c ∈ d.indent, WhiteSpace c
  sign : d.sign = '\\' ∨ d.sign = '@'
  name : Identifier d.name
  gap : ∀ c ∈ d.gap, WhiteSpace c
  value : ∀ v ∈ d.value, d.gap ≠ [] ∧ (∃ c rest, v = c :: rest ∧ ¬ WhiteSpace c) ∧ '\n' ∉ v

end Division

theorem isBlank_iff (c : Char) : isBlank c = true ↔ WhiteSpace c := by
  have listed : ∀ r ∈ blankRanges, ∀ n ∈ List.range' r.1 (r.2 + 1 - r.1), n ∈ whiteSpace := by decide
  have ranged : ∀ n ∈ whiteSpace, ∃ r ∈ blankRanges, r.1 ≤ n ∧ n ≤ r.2 := by decide
  rw [isBlank,inRanges_iff]
  refine ⟨?_,ranged c.toNat⟩
  rintro ⟨r,among,least,most⟩
  exact listed r among c.toNat (List.mem_range'_1.mpr ⟨least,by omega⟩)

theorem isAlpha_iff (c : Char) : c.isAlpha = true ↔ Letter c := by
  have capital : c.isUpper = true ↔ 'A' ≤ c ∧ c ≤ 'Z' := decide_eq_true_iff
  have small : c.isLower = true ↔ 'a' ≤ c ∧ c ≤ 'z' :=
    Bool.and_eq_true_iff.trans (and_congr decide_eq_true_iff decide_eq_true_iff)
  rw [Letter,← capital,← small]
  exact Bool.or_eq_true_iff

theorem isAlphanum_iff (c : Char) : c.isAlphanum = true ↔ Letter c ∨ Digit c := by
  have digit : c.isDigit = true ↔ Digit c :=
    Bool.and_eq_true_iff.trans (and_congr decide_eq_true_iff decide_eq_true_iff)
  rw [← isAlpha_iff,← digit]
  exact Bool.or_eq_true_iff

theorem isNameStart_iff (c : Char) : isNameStart c = true ↔ Letter c ∨ c = '_' := by
  simp [isNameStart,isAlpha_iff]

theorem isNameChar_iff (c : Char) : isNameChar c = true ↔ Letter c ∨ Digit c ∨ c = '_' ∨ c = '-' := by
  simp [isNameChar,isAlphanum_iff,or_assoc]

theorem isTagSign_iff (c : Char) : isTagSign c = true ↔ c = '\\' ∨ c = '@' := by
  simp [isTagSign]

theorem sign_not_blank {c : Char} (sign : c = '\\' ∨ c = '@') : isBlank c = false := by
  rcases sign with rfl | rfl <;> decide

theorem blank_not_nameChar {c : Char} (blank : isBlank c = true) : isNameChar c = false := by
  have none : ∀ n ∈ whiteSpace, isNameChar (Char.ofNat n) = false := by decide
  have here := none c.toNat ((isBlank_iff c).mp blank)
  rwa [Char.ofNat_toNat] at here

-- A run of one class ends where something else begins, so it can be found again.
theorem run_found {p : Char → Bool} {run rest : Text} (inside : ∀ c ∈ run, p c = true)
    (ends : ∀ c ∈ rest.head?, p c = false) :
    (run ++ rest).takeWhile p = run ∧ (run ++ rest).dropWhile p = rest := by
  rw [List.takeWhile_append_of_pos inside,List.dropWhile_append_of_pos inside]
  cases rest with
  | nil => simp
  | cons c rest => simp [ends c rfl]

theorem run_unique {p : Char → Bool} {run rest other more : Text} (inside : ∀ c ∈ run, p c = true)
    (ends : ∀ c ∈ rest.head?, p c = false) (within : ∀ c ∈ other, p c = true) (stops : ∀ c ∈ more.head?, p c = false)
    (same : run ++ rest = other ++ more) : run = other ∧ rest = more := by
  obtain ⟨taken,left⟩ := run_found inside ends
  obtain ⟨found,behind⟩ := run_found within stops
  rw [same] at taken left
  exact ⟨taken.symm.trans found,left.symm.trans behind⟩

namespace Division.Valid
variable {d : Division}

theorem indent_run (valid : d.Valid) : ∀ c ∈ d.indent, isBlank c = true :=
  fun c inside => (isBlank_iff c).mpr (valid.indent c inside)

theorem gap_run (valid : d.Valid) : ∀ c ∈ d.gap, isBlank c = true :=
  fun c inside => (isBlank_iff c).mpr (valid.gap c inside)

theorem sign_ends (valid : d.Valid) (rest : Text) : ∀ c ∈ (d.sign :: rest).head?, isBlank c = false := by
  rintro c ⟨⟩
  exact sign_not_blank valid.sign

theorem name_run (valid : d.Valid) : ∀ c ∈ d.name, isNameChar c = true := by
  have named := valid.name
  cases shape : d.name with
  | nil => simp
  | cons first rest =>
    rw [shape] at named
    intro c inside
    rw [isNameChar_iff]
    rcases List.mem_cons.mp inside with rfl | later
    · exact named.1.imp id fun line => .inr (.inl line)
    · exact named.2 c later

theorem value_ends (valid : d.Valid) : ∀ c ∈ (d.value.getD []).head?, isBlank c = false := by
  cases given : d.value with
  | none => simp
  | some v =>
    obtain ⟨_,⟨c,rest,rfl,solid⟩,_⟩ := valid.value v given
    rintro c ⟨⟩
    rw [← Bool.not_eq_true,isBlank_iff]
    exact solid

-- A value never touches the name.
theorem gap_ends (valid : d.Valid) : ∀ c ∈ (d.gap ++ d.value.getD []).head?, isNameChar c = false := by
  intro c first
  cases blanks : d.gap with
  | nil =>
    cases given : d.value with
    | none => simp [blanks,given] at first
    | some v => exact absurd blanks (valid.value v given).1
  | cons b rest =>
    rw [blanks] at first
    cases first
    exact blank_not_nameChar (valid.gap_run c (by simp [blanks]))

-- A value is never empty, so the end of the content tells whether there is one.
theorem value_shown (valid : d.Valid) :
    d.value = if d.value.getD [] = [] then none else some (d.value.getD []) := by
  cases given : d.value with
  | none => rfl
  | some v =>
    obtain ⟨_,⟨c,rest,rfl,_⟩,_⟩ := valid.value v given
    rfl

end Division.Valid

-- There is at most one way to read a content as a tagged one.
theorem division_unique {d e : Division} (one : d.Valid) (other : e.Valid) (same : d.text = e.text) : d = e := by
  obtain ⟨indent,rest⟩ := run_unique one.indent_run (one.sign_ends _) other.indent_run (other.sign_ends _) same
  obtain ⟨sign,rest⟩ := List.cons_eq_cons.mp rest
  obtain ⟨name,rest⟩ := run_unique one.name_run one.gap_ends other.name_run other.gap_ends rest
  obtain ⟨gap,shown⟩ := run_unique one.gap_run one.value_ends other.gap_run other.value_ends rest
  have value : d.value = e.value := by rw [one.value_shown,other.value_shown,shown]
  cases d
  cases e
  simp_all

theorem tagName_identifier {name more : Text} (named : Identifier name) (run : ∀ c ∈ name, isNameChar c = true)
    (ends : ∀ c ∈ more.head?, isNameChar c = false) : tagName? (name ++ more) = some (name, more) := by
  cases name with
  | nil => exact named.elim
  | cons c rest =>
    obtain ⟨taken,left⟩ := run_found (fun d inside => run d (List.mem_cons_of_mem _ inside)) ends
    rw [List.cons_append,tagName?,if_pos ((isNameStart_iff c).mpr named.1),taken,left]

theorem tagName_parts {t name more : Text} (found : tagName? t = some (name, more)) :
    Identifier name ∧ t = name ++ more := by
  cases t with
  | nil => cases found
  | cons c rest =>
    rw [tagName?] at found
    split at found
    · rename_i starts
      cases found
      refine ⟨⟨(isNameStart_iff c).mp starts,?_⟩,by rw [List.cons_append,List.takeWhile_append_dropWhile]⟩
      intro d inside
      exact (isNameChar_iff d).mp (List.all_eq_true.mp List.all_takeWhile d inside)
    · cases found

theorem tagOf_text {d : Division} (valid : d.Valid) : tagOf? d.text = some (d.name, d.value) := by
  have behind := (run_found valid.indent_run (valid.sign_ends (d.name ++ (d.gap ++ d.value.getD [])))).2
  have named := tagName_identifier valid.name valid.name_run valid.gap_ends
  have closing := (run_found valid.gap_run valid.value_ends).2
  simp only [tagOf?,Division.text,behind,if_pos ((isTagSign_iff d.sign).mpr valid.sign),named,closing]
  cases given : d.value with
  | none => rfl
  | some v =>
    obtain ⟨apart,⟨c,rest,rfl,_⟩,clean⟩ := valid.value v given
    cases blanks : d.gap with
    | nil => exact absurd blanks apart
    | cons b gap => simp [valid.gap_run b (by simp [blanks]),clean]

theorem blanks_front (t : Text) : ∀ c ∈ t.takeWhile isBlank, WhiteSpace c :=
  fun c inside => (isBlank_iff c).mp (List.all_eq_true.mp List.all_takeWhile c inside)

theorem solid_front {t rest : Text} {c : Char} (left : t.dropWhile isBlank = c :: rest) : ¬ WhiteSpace c := by
  rw [← isBlank_iff,Bool.not_eq_true]
  have stopped := List.head?_dropWhile_not isBlank t
  rw [left] at stopped
  exact stopped

theorem division_of_tag {content name : Text} {value : Option Text} (found : tagOf? content = some (name, value)) :
    ∃ d : Division, d.Valid ∧ d.text = content ∧ d.name = name ∧ d.value = value := by
  unfold tagOf? at found
  split at found
  case h_2 => cases found
  rename_i sign rest behind
  split at found
  case isFalse => cases found
  rename_i signed
  split at found
  case h_2 => cases found
  rename_i other more named
  obtain ⟨identifier,rfl⟩ := tagName_parts named
  have whole : content = content.takeWhile isBlank ++ sign :: (other ++ more) := by
    rw [← behind,List.takeWhile_append_dropWhile]
  have gap := blanks_front more
  split at found
  · rename_i closing
    cases found
    refine ⟨⟨content.takeWhile isBlank,sign,name,more.takeWhile isBlank,none⟩,
      ⟨blanks_front content,(isTagSign_iff sign).mp signed,identifier,gap,by simp⟩,?_,rfl,rfl⟩
    rw [Division.text,Option.getD_none,← closing,List.takeWhile_append_dropWhile]
    exact whole.symm
  · rename_i v tail closing
    split at found
    case isFalse => cases found
    rename_i allowed
    cases found
    obtain ⟨touched,clean⟩ := Bool.and_eq_true_iff.mp allowed
    refine ⟨⟨content.takeWhile isBlank,sign,name,more.takeWhile isBlank,some (v :: tail)⟩,
      ⟨blanks_front content,(isTagSign_iff sign).mp signed,identifier,gap,?_⟩,?_,rfl,rfl⟩
    · rintro _ ⟨⟩
      refine ⟨?_,⟨v,tail,rfl,solid_front closing⟩,by simpa using clean⟩
      cases more with
      | nil => cases touched
      | cons b more =>
        have blank : isBlank b = true := touched
        simp [blank]
    · rw [Division.text,Option.getD_some,← closing,List.takeWhile_append_dropWhile]
      exact whole.symm

theorem tagOf_iff {content name : Text} {value : Option Text} :
    tagOf? content = some (name, value) ↔
      ∃ d : Division, d.Valid ∧ d.text = content ∧ d.name = name ∧ d.value = value := by
  refine ⟨division_of_tag,?_⟩
  rintro ⟨d,valid,rfl,rfl,rfl⟩
  exact tagOf_text valid

theorem tagOf_none_iff {content : Text} :
    tagOf? content = none ↔ ¬ ∃ d : Division, d.Valid ∧ d.text = content := by
  constructor
  · rintro nothing ⟨d,valid,rfl⟩
    rw [tagOf_text valid] at nothing
    cases nothing
  · intro undivided
    cases found : tagOf? content with
    | none => rfl
    | some parts =>
      obtain ⟨d,valid,text,_,_⟩ := division_of_tag found
      exact absurd ⟨d,valid,text⟩ undivided

theorem read_tagged (m : MarkedLine) (name : Text) (value : Option Text) :
    m.read.tag = some name ∧ m.read.value = value ↔ tagOf? m.content = some (name, value) := by
  unfold MarkedLine.read
  split <;> rename_i found <;> simp [found]

theorem read_untagged (m : MarkedLine) :
    m.read.tag = none ∧ m.read.value = some m.content ↔ tagOf? m.content = none := by
  unfold MarkedLine.read
  split <;> rename_i found <;> simp [found]

theorem read_grammar (m : MarkedLine) :
    (∀ name value, m.read.tag = some name ∧ m.read.value = value ↔
      ∃ d : Division, d.Valid ∧ d.text = m.text.drop 3 ∧ d.name = name ∧ d.value = value) ∧
    (m.read.tag = none ∧ m.read.value = some (m.text.drop 3) ↔
      ¬ ∃ d : Division, d.Valid ∧ d.text = m.text.drop 3) ∧
    (∀ d e : Division, d.Valid → e.Valid → d.text = m.text.drop 3 → e.text = m.text.drop 3 → d = e) := by
  refine ⟨fun name value => ?_,?_,?_⟩
  · exact (read_tagged m name value).trans tagOf_iff
  · exact (read_untagged m).trans tagOf_none_iff
  · intro d e one other first second
    exact division_unique one other (first.trans second.symm)

-- Blanks of any kind stand around the tag, and the value keeps those at its end.
example : MarkedLine.read ⟨[], 1, "##\x09\u2003@a-b\u00a0 v  w "⟩ = ⟨[],1,some "a-b",some "v  w "⟩ := by decide

end ScriptDoc.LineGrammar
