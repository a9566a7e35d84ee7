import Mathlib.Data.List.Forall2
import ScriptDoc.Proofs.ContextLayers
import ScriptDoc.Proofs.TextLines
import ScriptDoc.Proofs.Updating

-- What a list of arguments sets, said of the list as a whole.
namespace ScriptDoc.ArgumentOverlay
open Context DistinctMembers TextLines ContextLayers Updating

-- One member a level, and the text below the last.
inductive Chain (value : Text) : List Text → Json → Prop where
  | leaf : Chain value [] (.string value)
  | level {names : List Text} {inner : Json} (name : Text) (chain : Chain value names inner) :
      Chain value (name :: names) (.object [(name, inner)])

-- What one argument gives by itself. A name ends at the first equals sign, so that the value may hold
-- more of them, and its parts end at every dot.
inductive Gives (argument : Text) : Context → Prop where
  | object {members : Context} (opens : argument.head? = some '\x7b')
      (read : Json.parse argument = some (.object members)) : Gives argument members
  | assignment {head value : Text} {rest : List Text} {inner : Json} (plain : argument.head? ≠ some '\x7b')
      (whole : argument = Text.join "." (head :: rest) ++ '=' :: value)
      (parts : ∀ part ∈ head :: rest, '.' ∉ part ∧ '=' ∉ part) (chain : Chain value rest inner) :
      Gives argument [(head, inner)]
  | nothing (plain : argument.head? ≠ some '\x7b') (unset : '=' ∉ argument) : Gives argument []

def Mentions (argument name : Text) : Prop := ∃ members, Gives argument members ∧ name ∈ names members

-- The last argument that mentions a name is the one that counts.
def LastGives (arguments : List Text) (name : Text) (v : Json) : Prop :=
  ∃ before argument after members, arguments = before ++ argument :: after ∧ Gives argument members ∧
    members.lookup name = some v ∧ ∀ later ∈ after, ¬ Mentions later name

structure Overlaid (arguments : List Text) (context : Context) : Prop where
  order : ∃ parts, List.Forall₂ Gives arguments parts ∧ names context = (parts.flatMap names).eraseDups
  value : ∀ name v, context.lookup name = some v ↔ LastGives arguments name v

-- One context put over another at the top level only.
structure Overwritten (old new result : Context) : Prop where
  order : names result = names old ++ (names new).filter (· ∉ names old)
  value : ∀ name, result.lookup name = (new.lookup name).or (old.lookup name)

section Putting
variable {old new result : Context}

theorem overwritten_nothing (old : Context) : Overwritten old [] old := ⟨by simp [names],fun _ => rfl⟩

theorem overwritten_put (covers : Overwritten old new result) (name : Text) (value : Json) :
    Overwritten old (Json.put name value new) (Json.put name value result) where
  order := by
    rw [names_put,names_put,covers.order]
    by_cases held : name ∈ names old <;> by_cases fresh : name ∈ names new <;> simp [held,fresh]
  value key := by
    rw [lookup_put,lookup_put,covers.value]
    split <;> rfl

theorem overwritten_putAll (covers : Overwritten old new result) (added : Context) :
    Overwritten old (new.putAll added) (result.putAll added) := by
  induction added generalizing new result with
  | nil => exact covers
  | cons m added ih => exact ih (overwritten_put covers m.1 m.2)

theorem overwritten_unique (covers : Overwritten old new result) {other : Context} (again : Overwritten old new other)
    (once : (names result).Nodup) : result = other := by
  apply members_ext (covers.order.trans again.order.symm) once
  intro name
  rw [covers.value,again.value]

theorem put_fresh {members : Context} {name : Text} (fresh : name ∉ names members) (value : Json) :
    Json.put name value members = members ++ [(name, value)] := by
  induction members with
  | nil => rfl
  | cons m members ih =>
    have other : m.1 ≠ name := fun same => fresh (by simp [names,same])
    rw [put_other other,ih fun inside => fresh (List.mem_cons_of_mem _ inside),List.cons_append]

theorem putAll_fresh {front added : Context} (once : (names (front ++ added)).Nodup) :
    front.putAll added = front ++ added := by
  induction added generalizing front with
  | nil => exact (List.append_nil front).symm
  | cons m added ih =>
    have moved : front ++ m :: added = (front ++ [m]) ++ added := by simp
    have absent : m.1 ∉ names front := by
      intro inside
      rw [names,List.map_append,List.nodup_append] at once
      exact once.2.2 m.1 inside m.1 (by simp) rfl
    rw [moved] at once ⊢
    rw [← ih once,← put_fresh absent m.2]
    rfl

theorem lookup_putAll {added : Context} (once : (names added).Nodup) (base : Context) (name : Text) :
    (base.putAll added).lookup name = (added.lookup name).or (base.lookup name) := by
  have covers := overwritten_putAll (overwritten_nothing base) added
  rw [@putAll_fresh [] added once,List.nil_append] at covers
  exact covers.value name

theorem putAll_append (base first second : Context) :
    base.putAll (first ++ second) = (base.putAll first).putAll second := List.foldl_append

-- Names are put as keys are grouped, so they come in the order in which they are first mentioned.
theorem names_putAll {base : Context} {groups : Groups Text Json} (same : names base = groups.keys) (added : Context) :
    names (base.putAll added) = (groups.addAll (added.map fun m => (m.1, [m.2]))).keys := by
  induction added generalizing base groups with
  | nil => exact same
  | cons m added ih =>
    apply @ih (Json.put m.1 m.2 base) (groups.append m.1 [m.2])
    rw [names_put,KeyedGroups.keys_append,same]
    by_cases present : m.1 ∈ groups.keys <;> simp only [present,if_true,if_false]

theorem names_gathered (added : Context) : names (putAll [] added) = (names added).eraseDups := by
  rw [@names_putAll [] [] rfl,KeyedGroups.keys_gathered,Groups.keys,List.map_map]
  rfl

end Putting

section Saying
variable {argument : Text} {members : Context}

theorem chain_iff (value : Text) (parts : List Text) (v : Json) :
    Chain value parts v ↔ v = nest parts (.string value) := by
  constructor
  · intro chain
    induction chain with
    | leaf => rfl
    | level name _ ih => rw [ih]; rfl
  · intro same
    subst v
    induction parts with
    | nil => exact .leaf
    | cons name parts ih => exact .level name ih

theorem gives_once (gives : Gives argument members) : (names members).Nodup := by
  cases gives with
  | object opens read => exact (distinct_object.mp (parse_distinct read)).1
  | assignment => simp [names]
  | nothing => exact List.nodup_nil

-- An assignment is cut where its name ends, and the name wherever one of its parts does.
theorem assignment_cut {head value : Text} {rest : List Text}
    (parts : ∀ part ∈ head :: rest, '.' ∉ part ∧ '=' ∉ part) :
    Text.cut '=' (Text.join "." (head :: rest) ++ '=' :: value) = some (Text.join "." (head :: rest), value) ∧
      Text.splitOn '.' (Text.join "." (head :: rest)) = head :: rest := by
  refine ⟨cut_some_iff.mpr ⟨rfl,?_⟩,splitOn_join_clean (by simp) fun part listed => (parts part listed).1⟩
  intro inside
  rcases mem_join_cases inside with dot | ⟨part,listed,among⟩
  · revert dot
    decide
  · exact (parts part listed).2 among

theorem addArgument_gives (gives : Gives argument members) (context : Context) :
    context.addArgument argument = .ok (context.putAll members) := by
  unfold addArgument
  cases gives with
  | object opens read => rw [if_pos opens,parseObject_some.mpr read]
  | @assignment head value rest inner plain whole parts chain =>
    obtain ⟨cut,split⟩ := @assignment_cut head value rest parts
    rw [if_neg plain,whole,cut]
    simp only [split]
    rw [(chain_iff value rest inner).mp chain]
    rfl
  | nothing plain unset =>
    rw [if_neg plain,cut_none_iff.mpr unset]
    rfl

theorem gives_or_refused (argument : Text) : (∃ members, Gives argument members) ∨ ArgumentRefused argument := by
  by_cases opens : argument.head? = some '\x7b'
  · by_cases object : IsObject argument
    · obtain ⟨members,read⟩ := object
      exact .inl ⟨members,.object opens read⟩
    · exact .inr ⟨opens,object⟩
  · cases found : Text.cut '=' argument with
    | none => exact .inl ⟨[],.nothing opens (cut_none_iff.mp found)⟩
    | some parts =>
      obtain ⟨name,value⟩ := parts
      obtain ⟨whole,clean⟩ := cut_some_iff.mp found
      obtain ⟨head,rest,split⟩ := splitOn_cases '.' name
      have joined : Text.join "." (head :: rest) = name := by
        rw [← split]
        exact join_splitOn '.' name
      refine .inl ⟨_,.assignment opens (whole.trans (by rw [joined])) ?_ ((chain_iff value rest _).mpr rfl)⟩
      intro part listed
      refine ⟨sep_not_mem_splitOn (split ▸ listed),fun inside => clean ?_⟩
      rw [← joined]
      exact mem_join listed inside

theorem addArgument_ok_iff (context : Context) (argument : Text) {next : Context} :
    context.addArgument argument = .ok next ↔ ∃ members, Gives argument members ∧ next = context.putAll members := by
  constructor
  · intro added
    rcases gives_or_refused argument with ⟨members,gives⟩ | refused
    · rw [addArgument_gives gives] at added
      cases added
      exact ⟨members,gives,rfl⟩
    · rw [(addArgument_error_iff context argument).mpr ⟨refused,rfl⟩] at added
      cases added
  · intro given
    obtain ⟨members,gives,rfl⟩ := given
    exact addArgument_gives gives context

theorem gives_unique (gives : Gives argument members) {others : Context} (again : Gives argument others) :
    members = others := by
  have one := addArgument_gives gives []
  have two := addArgument_gives again []
  rw [@putAll_fresh [] members (gives_once gives)] at one
  rw [@putAll_fresh [] others (gives_once again)] at two
  exact Except.ok.inj (one.symm.trans two)

theorem mentions_iff (gives : Gives argument members) (name : Text) : Mentions argument name ↔ name ∈ names members := by
  constructor
  · intro given
    obtain ⟨others,again,inside⟩ := given
    rwa [gives_unique gives again]
  · exact fun inside => ⟨members,gives,inside⟩

end Saying

section Listing
variable {context result : Context} {arguments : List Text}

theorem addArguments_cons_iff (context : Context) (argument : Text) (rest : List Text) :
    context.addArguments (argument :: rest) = .ok result ↔
      ∃ members, Gives argument members ∧ (context.putAll members).addArguments rest = .ok result := by
  rw [addArguments]
  constructor
  · intro taken
    cases added : context.addArgument argument with
    | error failure =>
      rw [added] at taken
      cases taken
    | ok next =>
      rw [added] at taken
      obtain ⟨members,gives,rfl⟩ := (addArgument_ok_iff context argument).mp added
      exact ⟨members,gives,taken⟩
  · intro given
    obtain ⟨members,gives,taken⟩ := given
    rw [addArgument_gives gives]
    exact taken

-- All that is said, one argument after another.
theorem addArguments_ok_iff (context : Context) (arguments : List Text) :
    context.addArguments arguments = .ok result ↔
      ∃ parts, List.Forall₂ Gives arguments parts ∧ result = context.putAll parts.flatten := by
  induction arguments generalizing context with
  | nil =>
    constructor
    · intro taken
      cases taken
      exact ⟨[],.nil,rfl⟩
    · intro given
      obtain ⟨_,⟨⟩,rfl⟩ := given
      rfl
  | cons argument arguments ih =>
    rw [addArguments_cons_iff]
    constructor
    · intro given
      obtain ⟨members,gives,taken⟩ := given
      obtain ⟨parts,all,rfl⟩ := (ih _).mp taken
      exact ⟨members :: parts,.cons gives all,by rw [List.flatten_cons,putAll_append]⟩
    · intro given
      obtain ⟨_,all,rfl⟩ := given
      cases all with
      | cons gives later => exact ⟨_,gives,(ih _).mpr ⟨_,later,by rw [List.flatten_cons,putAll_append]⟩⟩

theorem lastGives_cons {argument : Text} {members : Context} (gives : Gives argument members) {name : Text} {v : Json} :
    LastGives (argument :: arguments) name v ↔ LastGives arguments name v ∨
      ((∀ later ∈ arguments, ¬ Mentions later name) ∧ members.lookup name = some v) := by
  constructor
  · intro given
    obtain ⟨before,last,after,others,listed,said,found,silent⟩ := given
    cases before with
    | nil =>
      cases listed
      rw [gives_unique gives said]
      exact .inr ⟨silent,found⟩
    | cons first before =>
      cases listed
      exact .inl ⟨before,last,after,others,rfl,said,found,silent⟩
  · intro given
    rcases given with ⟨before,last,after,others,rfl,said,found,silent⟩ | ⟨silent,found⟩
    · exact ⟨argument :: before,last,after,others,rfl,said,found,silent⟩
    · exact ⟨[],argument,arguments,members,rfl,gives,found,silent⟩

-- The invariant of the run: a name that no argument mentions any more keeps what it has.
theorem addArguments_lookup (taken : context.addArguments arguments = .ok result) (name : Text) (v : Json) :
    result.lookup name = some v ↔ LastGives arguments name v ∨
      ((∀ later ∈ arguments, ¬ Mentions later name) ∧ context.lookup name = some v) := by
  induction arguments generalizing context with
  | nil =>
    cases taken
    simp [LastGives]
  | cons argument arguments ih =>
    obtain ⟨members,gives,rest⟩ := (addArguments_cons_iff context argument arguments).mp taken
    rw [ih rest,lastGives_cons gives,List.forall_mem_cons,mentions_iff gives,lookup_putAll (gives_once gives)]
    cases found : members.lookup name with
    | none =>
      have absent : name ∉ names members := lookup_none_iff.mp found
      simp [absent]
    | some u =>
      have present : name ∈ names members := by
        by_contra absent
        cases found.symm.trans (lookup_absent absent)
      simp [present]

theorem once_taken (taken : ofArguments arguments = .ok context) : (names context).Nodup :=
  (distinct_object.mp (distinct_addArguments distinct_empty taken)).1

theorem names_parts (parts : List Context) : names (putAll [] parts.flatten) = (parts.flatMap names).eraseDups := by
  rw [names_gathered,names,List.map_flatten]
  rfl

theorem taken_overlaid (taken : ofArguments arguments = .ok context) : Overlaid arguments context where
  order := by
    obtain ⟨parts,all,rfl⟩ := (addArguments_ok_iff [] arguments).mp taken
    exact ⟨parts,all,names_parts parts⟩
  value name v := by
    rw [addArguments_lookup taken]
    simp

-- Order and values leave no choice, so they say when the arguments are taken as well.
theorem ofArguments_ok_iff (arguments : List Text) (context : Context) :
    ofArguments arguments = .ok context ↔ Overlaid arguments context := by
  refine ⟨taken_overlaid,fun overlaid => ?_⟩
  obtain ⟨parts,all,order⟩ := overlaid.order
  have taken : ofArguments arguments = .ok (putAll [] parts.flatten) :=
    (addArguments_ok_iff [] arguments).mpr ⟨parts,all,rfl⟩
  have same : putAll [] parts.flatten = context := by
    apply members_ext ((names_parts parts).trans order.symm) (once_taken taken)
    intro name
    apply Option.ext
    intro v
    rw [(taken_overlaid taken).value,overlaid.value]
  rw [taken,same]

theorem addArguments_append_iff (context : Context) (arguments more : List Text) :
    context.addArguments (arguments ++ more) = .ok result ↔
      ∃ middle, context.addArguments arguments = .ok middle ∧ middle.addArguments more = .ok result := by
  induction arguments generalizing context with
  | nil => simp [addArguments]
  | cons argument arguments ih =>
    rw [List.cons_append,addArguments_cons_iff]
    simp only [addArguments_cons_iff,ih]
    constructor
    · intro given
      obtain ⟨members,gives,middle,front,back⟩ := given
      exact ⟨middle,⟨members,gives,front⟩,back⟩
    · intro given
      obtain ⟨middle,⟨members,gives,front⟩,back⟩ := given
      exact ⟨members,gives,middle,front,back⟩

-- Arguments do to what came before them what they do to nothing.
theorem addArguments_over_iff (distinct : Distinct (.object context)) (arguments : List Text) :
    context.addArguments arguments = .ok result ↔
      ∃ added, ofArguments arguments = .ok added ∧ Overwritten context added result := by
  constructor
  · intro taken
    obtain ⟨parts,all,rfl⟩ := (addArguments_ok_iff context arguments).mp taken
    exact ⟨_,(addArguments_ok_iff [] arguments).mpr ⟨parts,all,rfl⟩,
      overwritten_putAll (overwritten_nothing context) parts.flatten⟩
  · intro given
    obtain ⟨added,taken,covers⟩ := given
    obtain ⟨parts,all,rfl⟩ := (addArguments_ok_iff [] arguments).mp taken
    have made : context.addArguments arguments = .ok (context.putAll parts.flatten) :=
      (addArguments_ok_iff context arguments).mpr ⟨parts,all,rfl⟩
    have once := (distinct_object.mp (distinct_addArguments distinct made)).1
    rw [made,overwritten_unique (overwritten_putAll (overwritten_nothing context) parts.flatten) covers once]

theorem ofArguments_append_iff (arguments more : List Text) (context : Context) :
    ofArguments (arguments ++ more) = .ok context ↔ ∃ first second, ofArguments arguments = .ok first ∧
      ofArguments more = .ok second ∧ Overwritten first second context := by
  rw [ofArguments,addArguments_append_iff]
  apply exists_congr
  intro first
  constructor
  · intro taken
    obtain ⟨second,parts⟩ := (addArguments_over_iff (distinct_addArguments distinct_empty taken.1) more).mp taken.2
    exact ⟨second,taken.1,parts⟩
  · intro given
    obtain ⟨second,front,parts⟩ := given
    exact ⟨front,(addArguments_over_iff (distinct_addArguments distinct_empty front) more).mpr ⟨second,parts⟩⟩

end Listing

theorem arguments_overlaid (arguments : List Text) :
    ((∃ failure, ofArguments arguments = .error failure) ↔ ∃ argument ∈ arguments, ArgumentRefused argument) ∧
    (∀ failure, ofArguments arguments = .error failure ↔ FirstRefused arguments failure) ∧
    (∀ context, ofArguments arguments = .ok context ↔ Overlaid arguments context) ∧
    (∀ before after, arguments = before ++ after → ∀ context, ofArguments arguments = .ok context ↔
      ∃ first second, ofArguments before = .ok first ∧ ofArguments after = .ok second ∧
        Overwritten first second context) := by
  have refused : ∀ failure, ofArguments arguments = .error failure ↔ FirstRefused arguments failure :=
    fun _ => addArguments_error_iff [] arguments
  refine ⟨?_,refused,ofArguments_ok_iff arguments,?_⟩
  · rw [← firstRefused_exists]
    exact exists_congr refused
  · intro before after listed
    subst arguments
    exact ofArguments_append_iff before after

-- A dotted name discards what its first part held and keeps its place; a value may hold anything.
example : ofArguments ["a=1", "b.c.=x=.y", "plain", "a.b=2"] =
    .ok [("a", .object [("b", .string "2")]), ("b", .object [("c", .object [([], .string "x=.y")])])] := rfl

end ScriptDoc.ArgumentOverlay
