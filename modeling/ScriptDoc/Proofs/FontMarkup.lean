import ScriptDoc.Markup.Groff
import ScriptDoc.Proofs.Substitution

-- That the fonts a man page gives to words and flags are only added to its text.
namespace ScriptDoc.FontMarkup
open Groff Substitution

inductive Font where
  | bold | italic | roman
  deriving Repr, DecidableEq

namespace Font

def code : Font → Text
  | .bold => "\\fB"
  | .italic => "\\fI"
  | .roman => "\\fR"

def all : List Font := [.bold, .italic, .roman]

end Font

def fontAt? (t : Text) : Option Font := Font.all.find? (·.code.isPrefixOf t)

-- The font escapes of a text, in their order. No two of them overlap.
def fonts : Text → List Font
  | [] => []
  | c :: rest => (fontAt? (c :: rest)).toList ++ fonts rest

-- Each font is opened while none is open, and closed before the end.
def alternating : List Font → Bool
  | [] => true
  | [_] => false
  | first :: second :: rest => first ≠ .roman && second = .roman && alternating rest

def fontTable : Table := Font.all.map fun font => (font.code, [])

-- A text without its font escapes.
def unmarked (t : Text) : Text := substitute fontTable t

def escapes : Codes := [('-', "\\-"), ('\'', "\\'"), ('"', "\\\""), ('.', "\\."), ('$', "\\f$")]

-- A text with its other escapes undone.
def unescaped (t : Text) : Text := substitute (reading escapes) t

-- A text, and the same with fonts added: each character as it is written, and spans of them between a
-- font and the way back from it.
inductive Marked (write : Char → Text) (within : Text → Prop) : Text → Text → Prop where
  | nil : Marked write within [] []
  | char {c : Char} {t shown : Text} (plain : c ≠ '\\') (rest : Marked write within t shown) :
      Marked write within (c :: t) (write c ++ shown)
  | span {font : Font} {span t shown : Text} (opens : font ≠ .roman) (plain : '\\' ∉ span) (fits : within span)
      (rest : Marked write within t shown) :
      Marked write within (span ++ t) (font.code ++ span.flatMap write ++ Font.roman.code ++ shown)

section Fonts

theorem fontTable_separate : Separate fontTable := ⟨by decide,by decide⟩

theorem fonts_code (font : Font) (rest : Text) : fonts (font.code ++ rest) = font :: fonts rest := by
  cases font <;> rfl

theorem unmarked_code (font : Font) (rest : Text) : unmarked (font.code ++ rest) = unmarked rest := by
  have listed : (font.code, ([] : Text)) ∈ fontTable := by cases font <;> decide
  exact substitute_entry fontTable_separate listed rest

-- A text in which no font begins, whatever it is put before.
def Fontless (t : Text) : Prop := ∀ rest, fonts (t ++ rest) = fonts rest ∧ unmarked (t ++ rest) = t ++ unmarked rest

theorem fontless_nil : Fontless [] := fun _ => ⟨rfl,rfl⟩

theorem fontless_cons {c : Char} {t : Text} (none : ∀ rest, fontAt? (c :: (t ++ rest)) = none) (tail : Fontless t) :
    Fontless (c :: t) := by
  intro rest
  obtain ⟨same,kept⟩ := tail rest
  constructor
  · rw [List.cons_append,fonts,none,same]
    rfl
  · rw [List.cons_append,List.cons_append,← kept]
    apply substitute_other
    intro entry listed begins
    obtain ⟨font,member,rfl⟩ := List.mem_map.mp listed
    exact List.find?_eq_none.mp (none rest) font member (List.isPrefixOf_iff_prefix.mpr begins)

theorem fontless_append {t more : Text} (first : Fontless t) (second : Fontless more) : Fontless (t ++ more) := by
  intro rest
  obtain ⟨same,kept⟩ := first (more ++ rest)
  obtain ⟨again,still⟩ := second rest
  rw [List.append_assoc,same,kept,again,still,List.append_assoc]
  exact ⟨rfl,rfl⟩

theorem fontless_char {c : Char} (plain : c ≠ '\\') : Fontless [c] := by
  apply fontless_cons _ fontless_nil
  intro rest
  apply List.find?_eq_none.mpr
  intro font _ begins
  have front : font.code <+: c :: rest := List.isPrefixOf_iff_prefix.mp begins
  cases font <;> exact plain (List.cons_prefix_cons.mp front).1.symm

theorem escapeChar_code (c : Char) : escapeChar c = Substitution.code escapes c := by
  simp only [escapes,code_cons]
  rfl

-- The escape of the dollar sign begins like a font, but is none.
theorem escapes_fontless : ∀ e ∈ escapes, Fontless e.2 := by
  have slash : ∀ {d : Char}, d ≠ '\\' → (∀ rest, fontAt? ('\\' :: d :: rest) = none) → Fontless ['\\', d] :=
    fun plain none => fontless_cons none (fontless_char plain)
  have dollar : Fontless "\\f$" :=
    fontless_cons (fun _ => rfl) (fontless_append (fontless_char (by decide)) (fontless_char (by decide)))
  simp only [escapes,List.forall_mem_cons]
  refine ⟨?_,?_,?_,?_,dollar,by simp⟩
  all_goals exact slash (by decide) fun _ => rfl

theorem fontless_escape {c : Char} (plain : c ≠ '\\') : Fontless (escapeChar c) := by
  rw [escapeChar_code]
  rcases @code_cases escapes c with ⟨e,listed,_,shown⟩ | ⟨_,shown⟩
  · rw [shown]
    exact escapes_fontless e listed
  · rw [shown]
    exact fontless_char plain

end Fonts

section Alternating
variable {write : Char → Text} {within : Text → Prop} {t shown : Text}

theorem fontless_flatMap (quiet : ∀ c, c ≠ '\\' → Fontless (write c)) {span : Text} (plain : '\\' ∉ span) :
    Fontless (span.flatMap write) := by
  induction span with
  | nil => exact fontless_nil
  | cons c span ih =>
    obtain ⟨here,later⟩ := List.ne_and_not_mem_of_not_mem_cons plain
    exact fontless_append (quiet c (Ne.symm here)) (ih later)

theorem Marked.fonts_alternate (marked : Marked write within t shown) (quiet : ∀ c, c ≠ '\\' → Fontless (write c)) :
    alternating (fonts shown) = true := by
  induction marked with
  | nil => rfl
  | char plain _ ih =>
    rw [(quiet _ plain _).1]
    exact ih
  | @span font span t shown opens plain fits _ ih =>
    rw [List.append_assoc,List.append_assoc,fonts_code,(fontless_flatMap quiet plain _).1,fonts_code]
    simp [alternating,opens,ih]

theorem Marked.unmarked_eq (marked : Marked write within t shown) (quiet : ∀ c, c ≠ '\\' → Fontless (write c)) :
    unmarked shown = t.flatMap write := by
  induction marked with
  | nil => rfl
  | char plain _ ih => rw [(quiet _ plain _).2,ih,List.flatMap_cons]
  | @span font span t shown opens plain fits _ ih =>
    rw [List.append_assoc,List.append_assoc,unmarked_code,(fontless_flatMap quiet plain _).2,unmarked_code,ih,
      List.flatMap_append]

theorem escape_append (front back : Text) : escape (front ++ back) = escape front ++ escape back := List.flatMap_append

theorem escape_code (font : Font) : escape font.code = font.code := by
  cases font <;> rfl

-- Escaping leaves the fonts as they are.
theorem Marked.escape (marked : Marked (fun c => [c]) within t shown) : Marked escapeChar within t (escape shown) := by
  induction marked with
  | nil => exact .nil
  | char plain _ ih => exact .char plain ih
  | @span font span t shown opens plain fits _ ih =>
    rw [List.flatMap_singleton',escape_append,escape_append,escape_append,escape_code,escape_code]
    exact .span opens plain fits ih

end Alternating

section Emphasis

theorem runs_flatten (p : Char → Bool) (t : Text) : (t.runs p).flatMap (·.2) = t := by
  induction t with
  | nil => rfl
  | cons c t ih =>
    rw [Text.runs]
    split
    · rename_i none
      rw [none] at ih
      simpa using ih
    · rename_i b run more found
      rw [found] at ih
      split <;> simpa using ih

theorem Marked.text {write : Char → Text} {within : Text → Prop} {t shown : Text} (marked : Marked write within t shown)
    {front : Text} (plain : '\\' ∉ front) : Marked write within (front ++ t) (front.flatMap write ++ shown) := by
  induction front with
  | nil => exact marked
  | cons c front ih =>
    obtain ⟨here,later⟩ := List.ne_and_not_mem_of_not_mem_cons plain
    rw [List.flatMap_cons,List.append_assoc]
    exact .char (Ne.symm here) (ih later)

theorem loud_capital {run : Text} (loud : isLoud run = true) {c : Char} (other : isCapital c = false) : c ∉ run := by
  intro inside
  have capital := List.all_eq_true.mp (Bool.and_eq_true_iff.mp loud).2 c inside
  rw [other] at capital
  cases capital

theorem runs_marked {runs : List (Bool × Text)} (plain : ∀ r ∈ runs, '\\' ∉ r.2) :
    Marked (fun c => [c]) ('-' ∉ ·) (runs.flatMap (·.2))
      (runs.flatMap fun (inWord, run) => if inWord && isLoud run then emphasis run else run) := by
  induction runs with
  | nil => exact .nil
  | cons r runs ih =>
    obtain ⟨inWord,run⟩ := r
    have tail := ih fun other member => plain other (List.mem_cons_of_mem _ member)
    have here : '\\' ∉ run := plain (inWord,run) (by simp)
    rw [List.flatMap_cons,List.flatMap_cons]
    dsimp only
    split
    · rename_i loud
      have dashless := loud_capital (Bool.and_eq_true_iff.mp loud).2 (show isCapital '-' = false by decide)
      have marked := Marked.span (show Font.italic ≠ .roman by decide) here dashless tail
      rwa [List.flatMap_singleton'] at marked
    · have marked := tail.text here
      rwa [List.flatMap_singleton'] at marked

theorem autoEmphasis_marked {t : Text} (plain : '\\' ∉ t) : Marked (fun c => [c]) ('-' ∉ ·) t (autoEmphasis t) := by
  have marked := @runs_marked (t.runs isWord) ?_
  · rwa [runs_flatten] at marked
  · intro r member inside
    apply plain
    rw [← runs_flatten isWord t]
    exact List.mem_flatMap.mpr ⟨r,member,inside⟩

end Emphasis

section Strength

theorem runs_first (p : Char → Bool) (c : Char) (rest : Text) :
    ∃ run more, Text.runs p (c :: rest) = (p c, c :: run) :: more := by
  rw [Text.runs]
  split
  · exact ⟨[],[],rfl⟩
  · split
    · rename_i b run more _ same
      exact ⟨run,more,by rw [same]⟩
    · exact ⟨[],_,rfl⟩

-- A run ends where the class changes.
theorem runs_append {p : Char → Bool} {side : Bool} {run rest : Text} (filled : run ≠ []) (inside : ∀ c ∈ run, p c = side)
    (ends : ∀ c ∈ rest.head?, p c ≠ side) : Text.runs p (run ++ rest) = (side, run) :: rest.runs p := by
  induction run with
  | nil => exact absurd rfl filled
  | cons c run ih =>
    have here : p c = side := inside c (by simp)
    by_cases last : run = []
    · subst run
      cases rest with
      | nil => simp [Text.runs,here]
      | cons d rest =>
        obtain ⟨next,more,shape⟩ := runs_first p d rest
        have apart : p d ≠ side := ends d rfl
        rw [shape,List.singleton_append,Text.runs,shape]
        simp [here,Ne.symm apart]
    · have tail := ih last fun d member => inside d (List.mem_cons_of_mem _ member)
      rw [List.cons_append,Text.runs,tail]
      simp [here]

theorem flagParts_cons {c : Char} (other : c ≠ '-') (run : Text) :
    flagParts (c :: run) = (flagParts run).map fun parts => (c :: parts.1, parts.2) := by
  unfold flagParts
  simp only [List.dropWhile_cons,List.takeWhile_cons]
  split <;> simp_all

theorem strongRuns_plain {side : Bool} {run : Text} (none : side = true → flagParts run = none) (rest : List (Bool × Text)) :
    strongRuns ((side, run) :: rest) = run ++ strongRuns rest := by
  cases side with
  | false => rfl
  | true => rw [strongRuns,none rfl]

theorem strongRuns_cons {c : Char} (other : c ≠ '-') (side : Bool) (run : Text) (rest : List (Bool × Text)) :
    strongRuns ((side, c :: run) :: rest) = c :: strongRuns ((side, run) :: rest) := by
  cases side with
  | false => rfl
  | true =>
    rw [strongRuns,strongRuns,flagParts_cons other]
    cases flagParts run <;> rfl

-- What does not begin a flag is passed over.
theorem autoStrong_other {c : Char} (other : c ≠ '-') (rest : Text) : autoStrong (c :: rest) = c :: autoStrong rest := by
  have lone : flagParts [c] = none := by rw [flagParts_cons other]; rfl
  unfold autoStrong
  rw [Text.runs]
  split
  · rename_i none
    rw [none,strongRuns_plain fun _ => lone]
    rfl
  · rename_i side run more found
    rw [found]
    split
    · exact strongRuns_cons other side run more
    · rw [strongRuns_plain fun _ => lone]
      rfl

theorem autoStrong_dashless {front : Text} (dashless : '-' ∉ front) (rest : Text) :
    autoStrong (front ++ rest) = front ++ autoStrong rest := by
  induction front with
  | nil => rfl
  | cons c front ih =>
    obtain ⟨here,later⟩ := List.ne_and_not_mem_of_not_mem_cons dashless
    rw [List.cons_append,autoStrong_other (Ne.symm here),ih later,List.cons_append]

theorem autoStrong_run {name rest : Text} (flag : ∀ c ∈ name, isFlagChar c = true)
    (ends : ∀ c ∈ rest.head?, isFlagChar c = false) :
    autoStrong ('-' :: name ++ rest) = strongRuns ((true, '-' :: name) :: rest.runs isFlagChar) := by
  have stops : ∀ c ∈ rest.head?, isFlagChar c ≠ true := fun c first => by simp [ends c first]
  rw [autoStrong,runs_append (List.cons_ne_nil _ _) (List.forall_mem_cons.mpr ⟨by decide,flag⟩) stops]

-- A dash that no flag character follows begins no flag.
theorem autoStrong_dash {rest : Text} (ends : ∀ c ∈ rest.head?, isFlagChar c = false) :
    autoStrong ('-' :: rest) = '-' :: autoStrong rest := by
  have run := @autoStrong_run [] rest (by simp) ends
  rw [strongRuns_plain fun _ => rfl] at run
  exact run

-- A flag goes on as long as it can, and takes an equals sign behind it with it.
theorem autoStrong_flag {name rest : Text} (filled : name ≠ []) (flag : ∀ c ∈ name, isFlagChar c = true)
    (ends : ∀ c ∈ rest.head?, isFlagChar c = false) :
    ∃ sign more : Text, (sign = [] ∨ sign = "=") ∧ rest = sign ++ more ∧
      autoStrong ('-' :: name ++ rest) = strong ('-' :: name ++ sign) ++ autoStrong more := by
  have parts : flagParts ('-' :: name) = some ([], '-' :: name) := by
    obtain ⟨c,more,rfl⟩ := List.exists_cons_of_ne_nil filled
    rfl
  rw [autoStrong_run flag ends,strongRuns,parts]
  cases rest with
  | nil => exact ⟨[],[],.inl rfl,rfl,by simp [Text.runs,autoStrong,strongRuns]⟩
  | cons d rest =>
    obtain ⟨other,others,shape⟩ := runs_first isFlagChar d rest
    by_cases equals : d = '='
    · subst d
      -- The sign is the first character of its run, and the rest of this is passed over.
      have behind : '=' :: autoStrong rest = '=' :: (other ++ strongRuns others) := by
        rw [← autoStrong_other (by decide),autoStrong,shape]
        rfl
      refine ⟨"=",rest,.inr rfl,rfl,?_⟩
      rw [shape,List.cons.inj behind |>.2]
      simp
    · refine ⟨[],d :: rest,.inl rfl,rfl,?_⟩
      rw [autoStrong,shape]
      simp [equals]

end Strength

section Marking
variable {within : Text → Prop} {t shown : Text}

-- A character that is shown and begins no font is one of the text.
theorem Marked.uncons {c : Char} (marked : Marked (fun c => [c]) within t (c :: shown)) (plain : c ≠ '\\') :
    ∃ rest, t = c :: rest ∧ Marked (fun c => [c]) within rest shown := by
  generalize whole : c :: shown = all at marked
  cases marked with
  | nil => cases whole
  | @char d rest more _ marked =>
    obtain ⟨rfl,rfl⟩ := List.cons.inj whole
    exact ⟨rest,rfl,marked⟩
  | @span font span t more _ _ _ _ =>
    have slash : c = '\\' := by
      cases font <;> exact (List.cons.inj whole).1
    exact absurd slash plain

theorem Marked.drop {front : Text} (marked : Marked (fun c => [c]) within t (front ++ shown)) (plain : '\\' ∉ front) :
    ∃ rest, t = front ++ rest ∧ Marked (fun c => [c]) within rest shown := by
  induction front generalizing t with
  | nil => exact ⟨t,rfl,marked⟩
  | cons c front ih =>
    obtain ⟨here,later⟩ := List.ne_and_not_mem_of_not_mem_cons plain
    obtain ⟨rest,rfl,tail⟩ := marked.uncons (Ne.symm here)
    obtain ⟨last,rfl,left⟩ := ih tail later
    exact ⟨last,rfl,left⟩

theorem flag_plain {flag : Text} (run : ∀ c ∈ flag, isFlagChar c = true) : '\\' ∉ flag := by
  intro inside
  have slash : isFlagChar '\\' = false := by decide
  rw [run _ inside] at slash
  cases slash

-- What begins with a flag character begins with a run of them that cannot go on.
theorem flag_run (starts : ¬ ∀ c ∈ shown.head?, isFlagChar c = false) :
    ∃ name rest, shown = name ++ rest ∧ name ≠ [] ∧ (∀ c ∈ name, isFlagChar c = true) ∧
      ∀ c ∈ rest.head?, isFlagChar c = false := by
  refine ⟨shown.takeWhile isFlagChar,shown.dropWhile isFlagChar,List.takeWhile_append_dropWhile.symm,?_,?_,?_⟩
  · intro none
    apply starts
    intro c first
    obtain ⟨more,rfl⟩ := List.head?_eq_some_iff.mp first
    cases flag : isFlagChar c with
    | false => rfl
    | true => simp [flag] at none
  · exact fun c inside => List.all_eq_true.mp List.all_takeWhile c inside
  · intro c first
    have stopped := List.head?_dropWhile_not isFlagChar shown
    rw [Option.mem_def.mp first] at stopped
    exact stopped

-- One flag becomes one span, whatever is made of the text behind it.
theorem flag_marked (marked : Marked (fun c => [c]) within t shown) (starts : ¬ ∀ c ∈ shown.head?, isFlagChar c = false)
    (later : ∀ {rest more : Text}, more.length < shown.length → Marked (fun c => [c]) within rest more →
      Marked (fun c => [c]) (fun _ => True) rest (autoStrong more)) :
    Marked (fun c => [c]) (fun _ => True) ('-' :: t) (autoStrong ('-' :: shown)) := by
  obtain ⟨name,rest,rfl,filled,run,ends⟩ := flag_run starts
  obtain ⟨sign,more,either,rfl,made⟩ := autoStrong_flag filled run ends
  have plain : '\\' ∉ name ++ sign := by
    apply List.not_mem_append (flag_plain run)
    rcases either with rfl | rfl <;> decide
  rw [← List.append_assoc] at marked
  obtain ⟨last,rfl,tail⟩ := marked.drop plain
  have shorter : more.length < (name ++ (sign ++ more)).length := by
    have some := List.length_pos_iff.mpr filled
    simp only [List.length_append]
    omega
  have flag : '\\' ∉ '-' :: (name ++ sign) := by simpa using plain
  have span : Marked (fun c => [c]) (fun _ => True) ('-' :: (name ++ sign) ++ last) _ :=
    .span (show Font.bold ≠ .roman by decide) flag trivial (later shorter tail)
  rw [List.flatMap_singleton'] at span
  have whole : autoStrong ('-' :: (name ++ (sign ++ more))) = strong ('-' :: (name ++ sign)) ++ autoStrong more := made
  rw [whole]
  exact span

-- The spans of the first pass have no dashes and the flags of the second no backslashes, so that neither
-- reaches into the other.
theorem autoStrong_marked (marked : Marked (fun c => [c]) ('-' ∉ ·) t shown) :
    Marked (fun c => [c]) (fun _ => True) t (autoStrong shown) := by
  induction size : shown.length using Nat.strongRecOn generalizing t shown with
  | ind n ih =>
    subst n
    cases marked with
    | nil => exact .nil
    | @char c t shown plain rest =>
      have next := ih shown.length (by simp) rest rfl
      rw [List.singleton_append]
      by_cases other : c ≠ '-'
      · rw [autoStrong_other other]
        exact .char plain next
      obtain rfl : c = '-' := Decidable.not_not.mp other
      by_cases alone : ∀ c ∈ shown.head?, isFlagChar c = false
      · rw [autoStrong_dash alone]
        exact .char plain next
      · apply flag_marked rest alone
        intro last more shorter tail
        exact ih more.length (Nat.lt_succ_of_lt shorter) tail rfl
    | @span font span t shown opens plain fits rest =>
      have dashless : '-' ∉ font.code ++ span ++ Font.roman.code := by
        have code : ∀ font : Font, '-' ∉ font.code := by
          intro font
          cases font <;> decide
        exact List.not_mem_append (List.not_mem_append (code font) fits) (code .roman)
      have next := ih shown.length (by simp [Font.code]; omega) rest rfl
      have marked : Marked (fun c => [c]) (fun _ => True) (span ++ t) _ := .span opens plain trivial next
      rw [List.flatMap_singleton'] at marked ⊢
      rwa [autoStrong_dashless dashless]

end Marking

theorem auto_marked {t : Text} (plain : '\\' ∉ t) : Marked (fun c => [c]) (fun _ => True) t (auto t) :=
  autoStrong_marked (autoEmphasis_marked plain)

theorem escape_passes (t : Text) : escape t = passes escapes t := by
  rw [passes_eq (by decide),escape,funext escapeChar_code]

theorem unescaped_escape {t : Text} (plain : '\\' ∉ t) : unescaped (escape t) = t := by
  rw [escape,funext escapeChar_code]
  apply reading_code ⟨by decide,by decide⟩
  intro c inside _ e listed begins
  have slash : ∀ e ∈ escapes, e.2.head? = some '\\' := by decide
  rw [slash e listed] at begins
  exact plain (Option.some.inj begins ▸ inside)

-- What becomes of a text on the page, without and with escapes.
structure OnlyAdded (t : Text) : Prop where
  alternate : alternating (fonts (auto t)) = true
  same : unmarked (auto t) = t
  passes : autoEscaped t = passes escapes (auto t)
  escapedAlternate : alternating (fonts (autoEscaped t)) = true
  escapedSame : unescaped (unmarked (autoEscaped t)) = t

theorem auto_only_adds {t : Text} (plain : '\\' ∉ t) : OnlyAdded t where
  alternate := (auto_marked plain).fonts_alternate fun _ => fontless_char
  same := by
    rw [(auto_marked plain).unmarked_eq fun _ => fontless_char]
    exact List.flatMap_singleton' t
  passes := escape_passes _
  escapedAlternate := (auto_marked plain).escape.fonts_alternate fun _ => fontless_escape
  escapedSame := by
    have bare : unmarked (autoEscaped t) = escape t := (auto_marked plain).escape.unmarked_eq fun _ => fontless_escape
    rw [bare,unescaped_escape plain]

-- Flags that begin or end at a word in capitals, and a dollar sign.
theorem auto_only_adds_mixed :
    let t : Text := "--FOO-a=BAR $B."
    '\\' ∉ t ∧ OnlyAdded t ∧ auto t = "\\fB--\\fR\\fIFOO\\fR\\fB-a=\\fR\\fIBAR\\fR $B." ∧
      autoEscaped t = "\\fB\\-\\-\\fR\\fIFOO\\fR\\fB\\-a=\\fR\\fIBAR\\fR \\f$B\\." :=
  ⟨by decide,auto_only_adds (by decide),by decide +kernel,by decide +kernel⟩

end ScriptDoc.FontMarkup
