import Mathlib.Data.List.Induction
import ScriptDoc.Record

-- To which field of its record each line of a block gives its value.
namespace ScriptDoc.RecordFields

section Division
variable {α κ : Type}

-- A run is known when it is known what each line adds to what the lines before it have come to.
theorem foldl_described {σ : Type} {step : σ → α → σ} {start : σ} {described : List α → σ} (none : described [] = start)
    (one : ∀ items item, step (described items) item = described (items ++ [item])) (items : List α) :
    items.foldl step start = described items := by
  induction items using List.reverseRecOn with
  | nil => exact none.symm
  | append_singleton items item ih => rw [List.foldl_append,ih,List.foldl_cons,List.foldl_nil,one]

theorem filter_keys_perm [DecidableEq κ] [BEq κ] [LawfulBEq κ] {keys : List κ} (distinct : keys.Nodup) (key : α → κ)
    (items : List α) :
    (keys.flatMap (fun k => items.filter (key · = k)) ++ items.filter (key · ∉ keys)).Perm items := by
  induction keys with
  | nil => simp [List.filter_eq_self.mpr]
  | cons k keys ih =>
    obtain ⟨absent,tail⟩ := List.nodup_cons.mp distinct
    -- What has none of the other keys is divided once more.
    have parted : (items.filter (key · = k) ++ items.filter (key · ∉ k :: keys)).Perm (items.filter (key · ∉ keys)) := by
      have halves := List.filter_append_perm (fun a => decide (key a = k)) (items.filter (key · ∉ keys))
      rw [List.filter_filter,List.filter_filter] at halves
      convert halves using 3
      · funext a
        by_cases same : key a = k <;> simp [same,absent]
      · funext a
        simp
    rw [List.flatMap_cons,List.append_assoc]
    exact (List.perm_append_comm_assoc _ _ _).trans ((parted.append_left _).trans (ih tail))

end Division

-- The values under one tag, and those of the lines that have none of several tags, in their order.
def valuesUnder (tag : Text) (lines : List DocLine) : List Text := (lines.filter (·.tag = some tag)).filterMap (·.value)

def valuesBeside (tags : List Text) (lines : List DocLine) : List Text :=
  (lines.filter (·.tag ∉ tags.map some)).filterMap (·.value)

def lastUnder (tag : Text) (lines : List DocLine) : Text := (valuesUnder tag lines).getLast?.getD []

section Values
variable (lines : List DocLine) (line : DocLine) (tag : Text) (tags : List Text)

theorem values_divided {tags : List Text} (distinct : tags.Nodup) :
    (tags.flatMap (valuesUnder · lines) ++ valuesBeside tags lines).Perm (lines.filterMap (·.value)) := by
  have named : (tags.map some).Nodup :=
    List.Pairwise.map some (fun _ _ other same => other (Option.some.inj same)) distinct
  have whole := (filter_keys_perm named (·.tag) lines).filterMap (·.value)
  rwa [List.filterMap_append,List.filterMap_flatMap,List.flatMap_map] at whole

theorem valuesUnder_snoc :
    valuesUnder tag (lines ++ [line]) = valuesUnder tag lines ++ if line.tag = some tag then line.value.toList else [] := by
  unfold valuesUnder
  split
  all_goals cases given : line.value <;> simp [*]

theorem valuesBeside_snoc :
    valuesBeside tags (lines ++ [line]) =
      valuesBeside tags lines ++ if line.tag ∉ tags.map some then line.value.toList else [] := by
  unfold valuesBeside
  split
  all_goals cases given : line.value <;> simp_all

theorem lastUnder_snoc :
    lastUnder tag (lines ++ [line]) =
      if line.tag = some tag then line.value.getD (lastUnder tag lines) else lastUnder tag lines := by
  unfold lastUnder
  rw [valuesUnder_snoc]
  split
  · cases given : line.value <;> simp
  · simp

-- A line without a value adds none to any field.
theorem values_spoken (p : DocLine → Bool) :
    ((lines.filter (·.value.isSome)).filter p).filterMap (·.value) = (lines.filter p).filterMap (·.value) := by
  induction lines with
  | nil => rfl
  | cons first lines ih =>
    rw [List.filter_filter] at ih ⊢
    cases given : first.value <;> by_cases side : p first <;> simp [given,side,ih]

end Values

section Functions

-- The tags of a function that have a field of their own.
def functionTags : List Text :=
  ["function", "function-brief", "function-argument", "function-precondition", "function-return", "function-seealso",
    "function-stderr", "function-stdin", "function-stdout"]

def functionDraft (lines : List DocLine) : FunctionDoc × List Text :=
  (⟨lastUnder "function" lines, lastUnder "function-brief" lines, [], valuesUnder "function-argument" lines,
    valuesUnder "function-precondition" lines, valuesUnder "function-return" lines, valuesUnder "function-seealso" lines,
    valuesUnder "function-stderr" lines, valuesUnder "function-stdin" lines, valuesUnder "function-stdout" lines⟩,
    valuesBeside functionTags lines)

theorem functionDraft_add (lines : List DocLine) (line : DocLine) :
    FunctionDoc.add (functionDraft lines) line = functionDraft (lines ++ [line]) := by
  unfold FunctionDoc.add functionDraft
  simp only [Option.pure_def,Option.bind_eq_bind,Option.bind_some]
  simp only [valuesUnder_snoc,valuesBeside_snoc,lastUnder_snoc]
  cases line.value with
  | none => simp only [Option.toList_none,Option.getD_none,ite_self,List.append_nil]
  | some value =>
    by_cases listed : line.tag ∈ functionTags.map some
    · simp only [functionTags,List.map_cons,List.map_nil,List.mem_cons,List.not_mem_nil,or_false] at listed
      rcases listed with tag | tag | tag | tag | tag | tag | tag | tag | tag
      all_goals simp [tag,functionTags]
    · have apart := listed
      simp only [functionTags,List.map_cons,List.map_nil,List.mem_cons,List.not_mem_nil,or_false,not_or] at apart
      simp only [apart,listed,if_false,not_false_eq_true,if_true,List.append_nil,Option.toList_some]

theorem functionDraft_spoken (lines : List DocLine) :
    functionDraft (lines.filter (·.value.isSome)) = functionDraft lines := by
  simp only [functionDraft,lastUnder,valuesUnder,valuesBeside,values_spoken]

theorem functionOf_draft (lines : List DocLine) :
    functionOf lines = { (functionDraft lines).1 with description := unlines (functionDraft lines).2 } := by
  have run : lines.foldl FunctionDoc.add (.empty, []) = functionDraft lines := foldl_described rfl functionDraft_add lines
  rw [functionOf,run]

end Functions

section Options

def optionTags : List Text := ["option", "option-default", "option-group"]

def optionDraft (lines : List DocLine) : OptionDoc × List Text :=
  (⟨.ofText (lastUnder "option" lines), lastUnder "option-default" lines, lastUnder "option-group" lines, [], []⟩,
    valuesBeside optionTags lines)

theorem optionDraft_add (lines : List DocLine) (line : DocLine) :
    OptionDoc.add (optionDraft lines) line = optionDraft (lines ++ [line]) := by
  unfold OptionDoc.add optionDraft
  simp only [Option.pure_def,Option.bind_eq_bind,Option.bind_some]
  simp only [valuesBeside_snoc,lastUnder_snoc]
  cases line.value with
  | none => simp only [Option.toList_none,Option.getD_none,ite_self,List.append_nil]
  | some value =>
    by_cases listed : line.tag ∈ optionTags.map some
    · simp only [optionTags,List.map_cons,List.map_nil,List.mem_cons,List.not_mem_nil,or_false] at listed
      rcases listed with tag | tag | tag
      all_goals simp [tag,optionTags]
    · have apart := listed
      simp only [optionTags,List.map_cons,List.map_nil,List.mem_cons,List.not_mem_nil,or_false,not_or] at apart
      simp only [apart,listed,if_false,not_false_eq_true,if_true,Option.toList_some]

theorem optionDraft_spoken (lines : List DocLine) : optionDraft (lines.filter (·.value.isSome)) = optionDraft lines := by
  simp only [optionDraft,lastUnder,valuesUnder,valuesBeside,values_spoken]

theorem optionOf_draft (lines : List DocLine) :
    optionOf lines = { (optionDraft lines).1 with
      description := unlines (optionDraft lines).2, signature := (optionDraft lines).1.flag.signature } := by
  have run : lines.foldl OptionDoc.add (.empty, []) = optionDraft lines := foldl_described (by decide) optionDraft_add lines
  rw [optionOf,run]

end Options

section Samples

def sampleParts : List (Text × SamplePart) :=
  [("example", .brief), ("example-code", .code), ("example-description", .description)]

-- The part of a sample that the tag of a line turns to.
def turnedTo (line : DocLine) : Option SamplePart := line.tag.bind (List.lookup · sampleParts)

-- The part that is open behind some lines: the one they turned to last.
def openPart (lines : List DocLine) : SamplePart := (lines.filterMap turnedTo).getLast?.getD .brief

-- The part that is open on a line, its own tag included.
def partAt (lines : List DocLine) (i : Nat) : SamplePart := openPart (lines.take (i + 1))

def codeTag : Text := "example-code"

-- The values of the lines on which a part is open. A line that opens the code only names its language.
def valuesIn (part : SamplePart) (lines : List DocLine) : List Text :=
  (lines.zipIdx.filter fun p => partAt lines p.2 = part ∧ p.1.tag ≠ some codeTag).filterMap (·.1.value)

-- The language is that of the last line that opens the code, and empty where that line names none.
def lastLanguage (lines : List DocLine) : Text := ((lines.filter (·.tag = some codeTag)).getLast?.bind (·.value)).getD []

variable (lines : List DocLine) (line : DocLine) (part : SamplePart)

theorem openPart_snoc : openPart (lines ++ [line]) = (turnedTo line).getD (openPart lines) := by
  unfold openPart
  cases turned : turnedTo line <;> simp [turned]

theorem lastLanguage_snoc :
    lastLanguage (lines ++ [line]) = if line.tag = some codeTag then line.value.getD [] else lastLanguage lines := by
  unfold lastLanguage
  split <;> simp [*]

theorem partAt_within {lines : List DocLine} {i : Nat} (within : i < lines.length) (more : List DocLine) :
    partAt (lines ++ more) i = partAt lines i := by
  rw [partAt,partAt,List.take_append_of_le_length within]

theorem partAt_last : partAt (lines ++ [line]) lines.length = openPart (lines ++ [line]) := by
  rw [partAt,List.take_of_length_le (by simp)]

theorem valuesIn_snoc :
    valuesIn part (lines ++ [line]) = valuesIn part lines ++
      if openPart (lines ++ [line]) = part ∧ line.tag ≠ some codeTag then line.value.toList else [] := by
  have before : lines.zipIdx.filter (fun p => partAt (lines ++ [line]) p.2 = part ∧ p.1.tag ≠ some codeTag)
      = lines.zipIdx.filter fun p => partAt lines p.2 = part ∧ p.1.tag ≠ some codeTag := by
    apply List.filter_congr
    intro p member
    rw [partAt_within (List.snd_lt_of_mem_zipIdx member)]
  have last : (lines ++ [line]).zipIdx = lines.zipIdx ++ [(line, lines.length)] := by simp [List.zipIdx_append]
  rw [valuesIn,last,List.filter_append,List.filterMap_append,before,← valuesIn]
  simp only [List.filter_cons,List.filter_nil,partAt_last,decide_eq_true_eq]
  congr 1
  split
  · cases given : line.value <;> simp [given]
  · rfl

theorem turnedTo_none {line : DocLine} (brief : line.tag ≠ some ("example" : Text)) (code : line.tag ≠ some codeTag)
    (description : line.tag ≠ some ("example-description" : Text)) : turnedTo line = none := by
  unfold turnedTo
  cases tag : line.tag with
  | none => rfl
  | some name =>
    rw [tag,Ne,Option.some_inj] at brief code description
    have absent : ∀ part ∈ sampleParts, name ≠ part.1 := by simpa [sampleParts] using ⟨brief,code,description⟩
    exact List.lookup_eq_none_iff.mpr fun part listed => bne_iff_ne.mpr (absent part listed)

-- What one line does, whichever tag it has: it turns to a part, and says something in it or names the language.
theorem add_turned (d : SampleDraft) :
    d.add line = if line.tag = some codeTag then { d with part := .code, language := line.value.getD [] }
      else { d with part := (turnedTo line).getD d.part }.record line.value := by
  by_cases brief : line.tag = some ("example" : Text)
  · have turned : turnedTo line = some .brief := by
      rw [turnedTo,brief]
      rfl
    rw [if_neg (by rw [brief]; decide),turned]
    exact if_pos brief
  by_cases code : line.tag = some codeTag
  · rw [if_pos code]
    exact (if_neg brief).trans (if_pos code)
  rw [if_neg code]
  by_cases description : line.tag = some ("example-description" : Text)
  · have turned : turnedTo line = some .description := by
      rw [turnedTo,description]
      rfl
    rw [turned]
    exact (if_neg brief).trans ((if_neg code).trans (if_pos description))
  · rw [turnedTo_none brief code description]
    exact (if_neg brief).trans ((if_neg code).trans (if_neg description))

theorem record_values (d : SampleDraft) (value : Option Text) :
    d.record value = { d with
      brief := d.brief ++ if d.part = .brief then value.toList else []
      code := d.code ++ if d.part = .code then value.toList else []
      description := d.description ++ if d.part = .description then value.toList else [] } := by
  unfold SampleDraft.record
  cases value with
  | none => simp
  | some value => cases d.part <;> simp

def sampleDraft (lines : List DocLine) : SampleDraft :=
  ⟨openPart lines, valuesIn .brief lines, valuesIn .code lines, lastLanguage lines, valuesIn .description lines⟩

theorem sampleDraft_add : (sampleDraft lines).add line = sampleDraft (lines ++ [line]) := by
  rw [add_turned]
  unfold sampleDraft
  rw [valuesIn_snoc,valuesIn_snoc,valuesIn_snoc,lastLanguage_snoc,openPart_snoc]
  by_cases code : line.tag = some codeTag
  · have turned : turnedTo line = some .code := by
      rw [turnedTo,code]
      rfl
    simp only [code,turned,if_true,Option.getD_some,ne_eq,not_true_eq_false,and_false,if_false,List.append_nil]
  · rw [record_values]
    simp only [code,if_false,ne_eq,not_false_eq_true,and_true]

theorem sampleOf_draft : sampleOf lines = (sampleDraft lines).finish := by
  have run : lines.foldl .add SampleDraft.empty = sampleDraft lines := foldl_described rfl sampleDraft_add lines
  rw [sampleOf,run]

-- Where the value of a line goes: to the part that is open on it, unless it names a language.
def placeAt (lines : List DocLine) (p : DocLine × Nat) : Option SamplePart :=
  if p.1.tag = some codeTag then none else some (partAt lines p.2)

def places : List (Option SamplePart) := [some .brief, some .code, some .description]

theorem valuesIn_placed :
    valuesIn part lines = (lines.zipIdx.filter (placeAt lines · = some part)).filterMap (·.1.value) := by
  unfold valuesIn
  congr 1
  apply List.filter_congr
  intro p _
  by_cases code : p.1.tag = some codeTag <;> simp [placeAt,code]

theorem valuesUnder_placed :
    valuesUnder codeTag lines = (lines.zipIdx.filter (placeAt lines · ∉ places)).filterMap (·.1.value) := by
  have nowhere : lines.zipIdx.filter (placeAt lines · ∉ places) = lines.zipIdx.filter (·.1.tag = some codeTag) := by
    apply List.filter_congr
    intro p _
    by_cases code : p.1.tag = some codeTag
    · simp [placeAt,places,code]
    · cases opened : partAt lines p.2 <;> simp [placeAt,places,code,opened]
  calc valuesUnder codeTag lines
    _ = valuesUnder codeTag (lines.zipIdx.map Prod.fst) := by rw [List.zipIdx_map_fst]
    _ = (lines.zipIdx.filter (·.1.tag = some codeTag)).filterMap (·.1.value) := by
      rw [valuesUnder,List.filter_map,List.filterMap_map]
      rfl
    _ = _ := by rw [nowhere]

theorem sample_values :
    (valuesIn .brief lines ++ valuesIn .code lines ++ valuesIn .description lines ++ valuesUnder codeTag lines).Perm
      (lines.filterMap (·.value)) := by
  have distinct : places.Nodup := by decide
  have whole := (filter_keys_perm distinct (placeAt lines) lines.zipIdx).filterMap (·.1.value)
  have all : lines.zipIdx.filterMap (·.1.value) = lines.filterMap (·.value) := by
    conv_rhs => rw [← List.zipIdx_map_fst 0 lines,List.filterMap_map]
    rfl
  rw [all,List.filterMap_append,List.filterMap_flatMap,← valuesUnder_placed] at whole
  simpa [places,← valuesIn_placed] using whole

-- The language that is kept is the last of those that were named.
theorem lastLanguage_named (named : lastLanguage lines ≠ []) :
    (valuesUnder codeTag lines).getLast? = some (lastLanguage lines) := by
  unfold lastLanguage at named ⊢
  unfold valuesUnder
  generalize lines.filter (·.tag = some codeTag) = openers at named ⊢
  rcases List.eq_nil_or_concat openers with rfl | ⟨before,last,rfl⟩
  · exact absurd rfl named
  · cases given : last.value with
    | none => simp [given] at named
    | some language => simp [given]

end Samples

-- What a sample has of the lines it was read from.
structure SampleShares (lines : List DocLine) (s : Sample) : Prop where
  brief : s.brief = unlines (valuesIn .brief lines)
  code : s.code = unlines (valuesIn .code lines)
  description : s.description = unlines (valuesIn .description lines)
  language : s.language = lastLanguage lines
  named : s.language ≠ [] → (valuesUnder codeTag lines).getLast? = some s.language
  -- Every value is in one of the parts or was named as a language, and once only.
  complete : (valuesIn .brief lines ++ valuesIn .code lines ++ valuesIn .description lines ++ valuesUnder codeTag lines).Perm
    (lines.filterMap (·.value))

theorem sample_shares (lines : List DocLine) : SampleShares lines (sampleOf lines) := by
  rw [sampleOf_draft]
  exact ⟨rfl,rfl,rfl,rfl,lastLanguage_named lines,sample_values lines⟩

-- The brief is taken up again, and a bare line opens the code without a language.
example :
    sampleOf [⟨[], 1, some "example", some "a"⟩, ⟨[], 2, some "example-code", some "sh"⟩, ⟨[], 3, none, some "b"⟩,
      ⟨[], 4, some "example", some "c"⟩, ⟨[], 5, some "example-code", none⟩] = ⟨"a\nc", "b", "", ""⟩ := by
  decide

-- What a function and an option have of theirs. Lines without a value give nothing to either.
structure FunctionShares (lines : List DocLine) (f : FunctionDoc) : Prop where
  prototype : f.prototype = lastUnder "function" lines
  brief : f.brief = lastUnder "function-brief" lines
  arguments : f.arguments = valuesUnder "function-argument" lines
  preconditions : f.preconditions = valuesUnder "function-precondition" lines
  returnCodes : f.returnCodes = valuesUnder "function-return" lines
  seealso : f.seealso = valuesUnder "function-seealso" lines
  stderr : f.stderr = valuesUnder "function-stderr" lines
  stdin : f.stdin = valuesUnder "function-stdin" lines
  stdout : f.stdout = valuesUnder "function-stdout" lines
  description : f.description = unlines (valuesBeside functionTags lines)
  complete : (functionTags.flatMap (valuesUnder · lines) ++ valuesBeside functionTags lines).Perm (lines.filterMap (·.value))
  silent : functionOf (lines.filter (·.value.isSome)) = f

structure OptionShares (lines : List DocLine) (o : OptionDoc) : Prop where
  flag : o.flag = .ofText (lastUnder "option" lines)
  signature : o.signature = o.flag.signature
  default : o.default = lastUnder "option-default" lines
  group : o.group = lastUnder "option-group" lines
  description : o.description = unlines (valuesBeside optionTags lines)
  complete : (optionTags.flatMap (valuesUnder · lines) ++ valuesBeside optionTags lines).Perm (lines.filterMap (·.value))
  silent : optionOf (lines.filter (·.value.isSome)) = o

theorem function_shares (lines : List DocLine) : FunctionShares lines (functionOf lines) := by
  have silent : functionOf (lines.filter (·.value.isSome)) = functionOf lines := by
    rw [functionOf_draft,functionOf_draft,functionDraft_spoken]
  rw [functionOf_draft lines] at silent ⊢
  exact ⟨rfl,rfl,rfl,rfl,rfl,rfl,rfl,rfl,rfl,rfl,values_divided lines (by decide),silent⟩

theorem option_shares (lines : List DocLine) : OptionShares lines (optionOf lines) := by
  have silent : optionOf (lines.filter (·.value.isSome)) = optionOf lines := by
    rw [optionOf_draft,optionOf_draft,optionDraft_spoken]
  rw [optionOf_draft lines] at silent ⊢
  exact ⟨rfl,rfl,rfl,rfl,rfl,values_divided lines (by decide),silent⟩

theorem values_by_tag (lines : List DocLine) : FunctionShares lines (functionOf lines) ∧ OptionShares lines (optionOf lines) :=
  ⟨function_shares lines,option_shares lines⟩

end ScriptDoc.RecordFields
