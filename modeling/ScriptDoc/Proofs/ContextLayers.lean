import ScriptDoc.Proofs.Overlaying

namespace ScriptDoc.ContextLayers
open Context DistinctMembers Overlaying

def IsObject (t : Text) : Prop := ∃ members, Json.parse t = some (.object members)

theorem parseObject_some {t : Text} {found : Context} : Json.parseObject t = some found ↔ Json.parse t = some (.object found) := by
  unfold Json.parseObject
  split
  · rename_i parsed
    simp [parsed]
  · rename_i other
    exact ⟨nofun,fun parsed => absurd parsed (other found)⟩

theorem parseObject_none {t : Text} : Json.parseObject t = none ↔ ¬ IsObject t := by
  rw [Option.eq_none_iff_forall_not_mem]
  constructor
  · rintro nothing ⟨found,parsed⟩
    exact nothing found (parseObject_some.mpr parsed)
  · intro other found parsed
    exact other ⟨found,parseObject_some.mp parsed⟩

section Files
variable {tree : FileTree} {file : Option Text}

-- The file that is looked into, whether it was asked for or not.
def source (file : Option Text) : Text := file.getD defaultFile

-- Only a file that nobody asked for may be missing.
inductive FileRefused (tree : FileTree) (file : Option Text) : Failure → Prop where
  | unread {fault : ReadFault} (failed : tree.readText (source file) = .error fault)
      (counts : file = none → fault ≠ .notFound) : FileRefused tree file (.unreadable (source file) fault)
  | noObject {t : Text} (read : tree.readText (source file) = .ok t) (other : ¬ IsObject t) :
      FileRefused tree file (.contextFile (source file))

inductive FileGives (tree : FileTree) (file : Option Text) : Context → Prop where
  | read {t : Text} {base : Context} (read : tree.readText (source file) = .ok t)
      (object : Json.parse t = some (.object base)) : FileGives tree file base
  | missing (unasked : file = none) (nowhere : tree.readText (source file) = .error .notFound) : FileGives tree file []

theorem ofFiles_error {fault : ReadFault} (failed : tree.readText (source file) = .error fault) :
    ofFiles tree file = if file = none ∧ fault = .notFound then .ok []
      else .error (.unreadable (source file) fault) := by
  cases file with
  | some path =>
    have unread : tree.readText path = .error fault := failed
    simp [ofFiles,ofFile,unread,source]
  | none =>
    have unread : tree.readText defaultFile = .error fault := failed
    cases fault <;> simp [ofFiles,ofFile,unread,source]

theorem ofFiles_ok {t : Text} (read : tree.readText (source file) = .ok t) :
    ofFiles tree file = match Json.parseObject t with
      | some base => .ok base
      | none => .error (.contextFile (source file)) := by
  cases file with
  | some path =>
    have found : tree.readText path = .ok t := read
    cases parsed : Json.parseObject t <;> simp [ofFiles,ofFile,found,source,parsed]
  | none =>
    have found : tree.readText defaultFile = .ok t := read
    cases parsed : Json.parseObject t <;> simp [ofFiles,ofFile,found,source,parsed]

theorem ofFiles_error_iff {failure : Failure} : ofFiles tree file = .error failure ↔ FileRefused tree file failure := by
  constructor
  · intro refused
    cases read : tree.readText (source file) with
    | error fault =>
      rw [ofFiles_error read] at refused
      split at refused
      · cases refused
      · rename_i counts
        cases refused
        exact .unread read fun unasked missing => counts ⟨unasked,missing⟩
    | ok t =>
      rw [ofFiles_ok read] at refused
      split at refused
      · cases refused
      · rename_i other
        cases refused
        exact .noObject read (parseObject_none.mp other)
  · rintro (⟨failed,counts⟩ | ⟨read,other⟩)
    · rw [ofFiles_error failed,if_neg fun missing => counts missing.1 missing.2]
    · rw [ofFiles_ok read,parseObject_none.mpr other]

theorem ofFiles_ok_iff {base : Context} : ofFiles tree file = .ok base ↔ FileGives tree file base := by
  constructor
  · intro given
    cases read : tree.readText (source file) with
    | error fault =>
      rw [ofFiles_error read] at given
      split at given
      · rename_i missing
        cases given
        exact .missing missing.1 (by rw [read,missing.2])
      · cases given
    | ok t =>
      rw [ofFiles_ok read] at given
      split at given
      · rename_i parsed
        cases given
        exact .read read (parseObject_some.mp parsed)
      · cases given
  · rintro (⟨read,object⟩ | ⟨unasked,nowhere⟩)
    · rw [ofFiles_ok read,parseObject_some.mpr object]
    · rw [ofFiles_error nowhere,if_pos ⟨unasked,rfl⟩]

end Files

def ArgumentRefused (argument : Text) : Prop := argument.head? = some '\x7b' ∧ ¬ IsObject argument

-- One argument fails or not by itself, whatever came before it.
theorem addArgument_error_iff (context : Context) (argument : Text) {failure : Failure} :
    context.addArgument argument = .error failure ↔ ArgumentRefused argument ∧ failure = .contextArgument argument := by
  unfold addArgument
  split
  · rename_i opens
    split
    · rename_i found parsed
      refine ⟨nofun,?_⟩
      rintro ⟨⟨_,other⟩,_⟩
      exact absurd ⟨found,parseObject_some.mp parsed⟩ other
    · rename_i other
      constructor
      · intro refused
        cases refused
        exact ⟨⟨opens,parseObject_none.mp other⟩,rfl⟩
      · rintro ⟨_,rfl⟩
        rfl
  · rename_i plain
    refine ⟨fun impossible => ?_,fun refused => absurd refused.1.1 plain⟩
    split at impossible
    · cases impossible
    · split at impossible <;> cases impossible

-- The first argument that fails is the one that is told of.
def FirstRefused (arguments : List Text) (failure : Failure) : Prop :=
  ∃ before argument after, arguments = before ++ argument :: after ∧ (∀ a ∈ before, ¬ ArgumentRefused a) ∧
    ArgumentRefused argument ∧ failure = .contextArgument argument

theorem addArguments_error_iff (context : Context) (arguments : List Text) {failure : Failure} :
    context.addArguments arguments = .error failure ↔ FirstRefused arguments failure := by
  induction arguments generalizing context with
  | nil =>
    refine ⟨nofun,?_⟩
    rintro ⟨before,argument,after,listed,_⟩
    cases before <;> cases listed
  | cons argument arguments ih =>
    rw [addArguments]
    cases added : context.addArgument argument with
    | error cause =>
      obtain ⟨refused,rfl⟩ := (addArgument_error_iff context argument).mp added
      constructor
      · intro same
        cases same
        exact ⟨[],argument,arguments,rfl,by simp,refused,rfl⟩
      · rintro ⟨before,other,after,listed,clean,_,rfl⟩
        cases before with
        | nil => cases listed; rfl
        | cons first before =>
          cases listed
          exact absurd refused (clean argument (by simp))
    | ok next =>
      have fine : ¬ ArgumentRefused argument := by
        intro refused
        rw [(addArgument_error_iff context argument).mpr ⟨refused,rfl⟩] at added
        cases added
      rw [ih]
      constructor
      · rintro ⟨before,other,after,rfl,clean,refused⟩
        exact ⟨argument :: before,other,after,rfl,List.forall_mem_cons.mpr ⟨fine,clean⟩,refused⟩
      · rintro ⟨before,other,after,listed,clean,refused⟩
        cases before with
        | nil => cases listed; exact absurd refused.1 fine
        | cons first before =>
          cases listed
          exact ⟨before,other,after,rfl,fun a member => clean a (List.mem_cons_of_mem _ member),refused⟩

theorem firstRefused_exists {arguments : List Text} :
    (∃ failure, FirstRefused arguments failure) ↔ ∃ argument ∈ arguments, ArgumentRefused argument := by
  constructor
  · rintro ⟨_,before,argument,after,rfl,_,refused,_⟩
    exact ⟨argument,by simp,refused⟩
  · intro some
    induction arguments with
    | nil => simp at some
    | cons argument arguments ih =>
      by_cases here : ArgumentRefused argument
      · exact ⟨_,[],argument,arguments,rfl,by simp,here,rfl⟩
      · have later : ∃ other ∈ arguments, ArgumentRefused other := by simpa [here] using some
        obtain ⟨failure,before,other,after,rfl,clean,refused⟩ := ih later
        exact ⟨failure,argument :: before,other,after,rfl,List.forall_mem_cons.mpr ⟨here,clean⟩,refused⟩

section Layers

theorem distinct_putAll {base : Context} (distinct : Distinct (.object base)) {added : Context}
    (each : ∀ m ∈ added, Distinct m.2) : Distinct (.object (base.putAll added)) := by
  induction added generalizing base with
  | nil => exact distinct
  | cons m added ih =>
    obtain ⟨here,later⟩ := List.forall_mem_cons.mp each
    exact ih (distinct_put distinct m.1 here) later

theorem distinct_nest (names : List Text) {value : Json} (distinct : Distinct value) : Distinct (nest names value) := by
  induction names with
  | nil => exact distinct
  | cons name names ih => exact .object (by simp [DistinctMembers.names]) (List.forall_mem_cons.mpr ⟨ih,by simp⟩)

theorem distinct_addArgument {context next : Context} (distinct : Distinct (.object context)) {argument : Text}
    (added : context.addArgument argument = .ok next) : Distinct (.object next) := by
  unfold addArgument at added
  split at added
  · split at added
    · rename_i found parsed
      cases added
      cases parse_distinct (parseObject_some.mp parsed) with
      | object _ each => exact distinct_putAll distinct each
    · cases added
  · split at added
    · cases added
      exact distinct
    · rename_i name value _
      split at added
      · cases added
        exact distinct
      · rename_i rest _
        cases added
        exact distinct_put distinct _ (distinct_nest rest (.string value))

theorem distinct_addArguments {context added : Context} (distinct : Distinct (.object context)) {arguments : List Text}
    (taken : context.addArguments arguments = .ok added) : Distinct (.object added) := by
  induction arguments generalizing context with
  | nil =>
    cases taken
    exact distinct
  | cons argument arguments ih =>
    rw [addArguments] at taken
    cases step : context.addArgument argument with
    | error failure =>
      rw [step] at taken
      cases taken
    | ok next =>
      rw [step] at taken
      exact ih (distinct_addArgument distinct step) taken

-- Layers from the top down, over a last one at the bottom.
def stacked (bottom : Context) : List Context → Context
  | [] => bottom
  | top :: rest => update (stacked bottom rest) top

-- A plain value of one layer that no layer above has one of its own for, and that none hides.
def Shows (layers : List Context) (path : List Text) (v : Json) : Prop :=
  ∃ above layer under, layers = above ++ layer :: under ∧ below (.object layer) path = some v ∧
    ∀ higher ∈ above, (∀ w, Plain w → below (.object higher) path ≠ some w) ∧ ¬ Hides (.object higher) path

theorem shows_cons {top : Context} {rest : List Context} {path : List Text} {v : Json} :
    Shows (top :: rest) path v ↔
      below (.object top) path = some v ∨ (Free (.object top) path ∧ Shows rest path v) := by
  constructor
  · rintro ⟨above,layer,under,listed,found,clear⟩
    cases above with
    | nil =>
      cases listed
      exact .inl found
    | cons first above =>
      cases listed
      obtain ⟨here,later⟩ := List.forall_mem_cons.mp clear
      exact .inr ⟨(free_iff _ _).mpr here,above,layer,under,rfl,found,later⟩
  · rintro (found | ⟨free,above,layer,under,rfl,found,later⟩)
    · exact ⟨[],top,rest,rfl,found,by simp⟩
    · exact ⟨top :: above,layer,under,rfl,found,List.forall_mem_cons.mpr ⟨(free_iff _ _).mp free,later⟩⟩

theorem stacked_shows {tops : List Context} (distinct : ∀ top ∈ tops, Distinct (.object top)) (bottom : Context)
    (path : List Text) {v : Json} (plain : Plain v) :
    below (.object (stacked bottom tops)) path = some v ↔ Shows (tops ++ [bottom]) path v := by
  induction tops with
  | nil =>
    rw [List.nil_append,shows_cons,stacked]
    refine ⟨.inl,?_⟩
    rintro (found | ⟨_,above,_,_,listed,_⟩)
    · exact found
    · cases above <;> cases listed
  | cons top tops ih =>
    obtain ⟨here,later⟩ := List.forall_mem_cons.mp distinct
    have layered : Json.object (stacked bottom (top :: tops))
        = overlay (some (.object (stacked bottom tops))) (.object top) := by
      rw [overlay_object]
      rfl
    rw [layered,overlay_visible here plain,List.cons_append,shows_cons,Option.bind_some,ih later]

end Layers

end ScriptDoc.ContextLayers
