import ScriptDoc.Proofs.ArgumentOverlay
import ScriptDoc.Proofs.Encoding

-- What a run is told beside its documents: a file, the environment and the arguments, one over the other.
namespace ScriptDoc.ContextLoading
open Context DistinctMembers Overlaying ContextLayers ArgumentOverlay

section Variables

-- A variable sets the key that is left of its name in lower case, after the common beginning.
def Sets (entry : Text × Text) (key : Text) : Prop :=
  ∃ rest, entry.1 = variableStart ++ rest ∧ lowerCase rest = key

-- Of several variables for one key the last one counts.
def LastSets (environment : List (Text × Text)) (key value : Text) : Prop :=
  ∃ before name after, environment = before ++ (name, value) :: after ∧ Sets (name, value) key ∧
    ∀ later ∈ after, ¬ Sets later key

-- The keys that variables set, each once and with a text.
structure Exported (environment : List (Text × Text)) (layer : Context) : Prop where
  once : (names layer).Nodup
  value : ∀ key v, layer.lookup key = some v ↔ ∃ value, v = .string value ∧ LastSets environment key value

theorem after_eq_some {start t rest : Text} : Text.after start t = some rest ↔ t = start ++ rest := by
  unfold Text.after
  split
  · rename_i begins
    obtain ⟨more,rfl⟩ := List.isPrefixOf_iff_prefix.mp begins
    simp
  · rename_i other
    refine ⟨nofun,?_⟩
    rintro rfl
    exact absurd (List.isPrefixOf_iff_prefix.mpr (List.prefix_append _ _)) other

-- What a variable gives to the context, if it gives anything.
def given (entry : Text × Text) : Option (Text × Json) :=
  (Text.after variableStart entry.1).map fun key => (lowerCase key, .string entry.2)

theorem given_eq_some {entry : Text × Text} {m : Text × Json} :
    given entry = some m ↔ Sets entry m.1 ∧ m.2 = .string entry.2 := by
  obtain ⟨key,v⟩ := m
  simp only [given,Option.map_eq_some_iff,after_eq_some,Sets,Prod.mk.injEq]
  constructor
  · rintro ⟨rest,named,lower,rfl⟩
    exact ⟨⟨rest,named,lower⟩,rfl⟩
  · rintro ⟨⟨rest,named,lower⟩,rfl⟩
    exact ⟨rest,named,lower,rfl⟩

theorem given_eq_none {entry : Text × Text} : given entry = none ↔ ∀ key, ¬ Sets entry key := by
  rw [Option.eq_none_iff_forall_not_mem]
  constructor
  · intro nothing key sets
    exact nothing (key, .string entry.2) (given_eq_some.mpr ⟨sets,rfl⟩)
  · intro none m found
    exact none m.1 (given_eq_some.mp found).1

theorem sets_unique {entry : Text × Text} {key other : Text} (one : Sets entry key) (two : Sets entry other) :
    key = other := by
  obtain ⟨rest,named,rfl⟩ := one
  obtain ⟨more,again,rfl⟩ := two
  rw [List.append_cancel_left (named.symm.trans again)]

theorem lastSets_cons {entry : Text × Text} {environment : List (Text × Text)} {key value : Text} :
    LastSets (entry :: environment) key value ↔ LastSets environment key value ∨
      (Sets entry key ∧ entry.2 = value ∧ ∀ later ∈ environment, ¬ Sets later key) := by
  constructor
  · rintro ⟨before,name,after,listed,sets,last⟩
    cases before with
    | nil =>
      cases listed
      exact .inr ⟨sets,rfl,last⟩
    | cons first before =>
      cases listed
      exact .inl ⟨before,name,after,rfl,sets,last⟩
  · rintro (⟨before,name,after,rfl,sets,last⟩ | ⟨sets,rfl,last⟩)
    · exact ⟨entry :: before,name,after,rfl,sets,last⟩
    · exact ⟨[],entry.1,environment,rfl,sets,last⟩

-- The variables are put one after another over what was there.
theorem lookup_given (base : Context) (environment : List (Text × Text)) (key : Text) (v : Json) :
    (putAll base (environment.filterMap given)).lookup key = some v ↔
      (∃ value, v = .string value ∧ LastSets environment key value) ∨
        (base.lookup key = some v ∧ ∀ entry ∈ environment, ¬ Sets entry key) := by
  induction environment generalizing base with
  | nil =>
    have never : ∀ value, ¬ LastSets [] key value := by
      rintro value ⟨before,name,after,listed,_⟩
      cases before <;> cases listed
    simp [putAll,never]
  | cons entry environment ih =>
    rw [List.forall_mem_cons]
    simp only [lastSets_cons]
    cases gives : given entry with
    | none =>
      have unset := given_eq_none.mp gives key
      rw [List.filterMap_cons_none gives,ih]
      simp [unset]
    | some m =>
      obtain ⟨sets,shown⟩ := given_eq_some.mp gives
      rw [List.filterMap_cons_some gives,putAll,List.foldl_cons,← putAll,ih,lookup_put,shown]
      by_cases here : key = m.1
      · subst key
        simp only [if_true,Option.some.injEq,sets,true_and,not_true_eq_false,false_and,and_false,or_false]
        constructor
        · rintro (⟨value,rfl,last⟩ | ⟨rfl,never⟩)
          · exact ⟨value,rfl,.inl last⟩
          · exact ⟨entry.2,rfl,.inr ⟨rfl,never⟩⟩
        · rintro ⟨value,rfl,last | ⟨rfl,never⟩⟩
          · exact .inl ⟨value,rfl,last⟩
          · exact .inr ⟨rfl,never⟩
      · have unset : ¬ Sets entry key := fun other => here (sets_unique other sets)
        simp [here,unset]

theorem distinct_ofVariables (environment : List (Text × Text)) : Distinct (.object (ofVariables environment)) := by
  apply distinct_putAll distinct_empty
  intro m member
  obtain ⟨entry,_,named⟩ := List.mem_filterMap.mp member
  obtain ⟨key,_,rfl⟩ := Option.map_eq_some_iff.mp named
  exact .string entry.2

theorem ofVariables_exported (environment : List (Text × Text)) : Exported environment (ofVariables environment) where
  once := (distinct_object.mp (distinct_ofVariables environment)).1
  value key v := by
    have built : ofVariables environment = putAll [] (environment.filterMap given) := rfl
    rw [built,lookup_given]
    simp

-- Only the order of the keys is left open.
theorem Exported.lookup_eq {environment : List (Text × Text)} {layer : Context} (exported : Exported environment layer)
    (key : Text) : layer.lookup key = (ofVariables environment).lookup key := by
  apply Option.ext
  intro v
  rw [exported.value,(ofVariables_exported environment).value]

end Variables

-- A file that cannot be used is told of before an argument that cannot.
inductive Refused (tree : FileTree) (file : Option Text) (arguments : List Text) : Failure → Prop where
  | file {failure : Failure} (refused : FileRefused tree file failure) : Refused tree file arguments failure
  | argument {base : Context} {failure : Failure} (given : FileGives tree file base)
      (refused : FirstRefused arguments failure) : Refused tree file arguments failure

theorem load_error_iff (tree : FileTree) (file : Option Text) (environment : List (Text × Text))
    (arguments : List Text) {failure : Failure} :
    load tree file environment arguments = .error failure ↔ Refused tree file arguments failure := by
  unfold load
  cases read : ofFiles tree file with
  | error cause =>
    have refused := ofFiles_error_iff.mp read
    constructor
    · intro same
      cases same
      exact .file refused
    · rintro (other | ⟨given,_⟩)
      · cases read.symm.trans (ofFiles_error_iff.mpr other)
        rfl
      · cases read.symm.trans (ofFiles_ok_iff.mpr given)
  | ok base =>
    have given := ofFiles_ok_iff.mp read
    cases taken : ofArguments arguments with
    | error cause =>
      have refused := (addArguments_error_iff [] arguments).mp taken
      constructor
      · intro same
        cases same
        exact .argument given refused
      · rintro (other | ⟨_,other⟩)
        · cases read.symm.trans (ofFiles_error_iff.mpr other)
        · cases taken.symm.trans ((addArguments_error_iff [] arguments).mpr other)
          rfl
    | ok added =>
      refine ⟨nofun,?_⟩
      rintro (other | ⟨_,other⟩)
      · cases read.symm.trans (ofFiles_error_iff.mpr other)
      · cases taken.symm.trans ((addArguments_error_iff [] arguments).mpr other)

theorem refused_exists {tree : FileTree} {file : Option Text} {arguments : List Text} :
    (∃ failure, Refused tree file arguments failure) ↔
      (∃ failure, FileRefused tree file failure) ∨ ∃ argument ∈ arguments, ArgumentRefused argument := by
  rw [← firstRefused_exists]
  constructor
  · rintro ⟨failure,refused | ⟨_,refused⟩⟩
    · exact .inl ⟨failure,refused⟩
    · exact .inr ⟨failure,refused⟩
  · rintro (⟨failure,refused⟩ | ⟨failure,refused⟩)
    · exact ⟨failure,.file refused⟩
    · cases read : ofFiles tree file with
      | error cause => exact ⟨cause,.file (ofFiles_error_iff.mp read)⟩
      | ok base => exact ⟨failure,.argument (ofFiles_ok_iff.mp read) refused⟩

theorem load_parts {tree : FileTree} {file : Option Text} {environment : List (Text × Text)} {arguments : List Text}
    {context : Context} (loaded : load tree file environment arguments = .ok context) :
    ∃ base added, FileGives tree file base ∧ ofArguments arguments = .ok added ∧
      context = stacked base [added, ofVariables environment] := by
  unfold load at loaded
  split at loaded
  · cases loaded
  · rename_i base read
    split at loaded
    · cases loaded
    · rename_i added taken
      cases loaded
      exact ⟨base,added,ofFiles_ok_iff.mp read,taken,rfl⟩

theorem load_layered (tree : FileTree) (file : Option Text) (environment : List (Text × Text)) (arguments : List Text) :
    (∀ failure, load tree file environment arguments = .error failure ↔ Refused tree file arguments failure) ∧
    ((∃ failure, Refused tree file arguments failure) ↔
      (∃ failure, FileRefused tree file failure) ∨ ∃ argument ∈ arguments, ArgumentRefused argument) ∧
    ((∀ failure, ¬ Refused tree file arguments failure) →
      ∃ base exported added context, FileGives tree file base ∧ Exported environment exported ∧
        Overlaid arguments added ∧ load tree file environment arguments = .ok context ∧
        ∀ path v, Plain v → (below (.object context) path = some v ↔ Shows [added, exported, base] path v)) := by
  refine ⟨fun _ => load_error_iff tree file environment arguments,refused_exists,?_⟩
  intro accepted
  cases loaded : load tree file environment arguments with
  | error failure => exact absurd ((load_error_iff tree file environment arguments).mp loaded) (accepted failure)
  | ok context =>
    obtain ⟨base,added,given,taken,rfl⟩ := load_parts loaded
    refine ⟨base,ofVariables environment,added,_,given,ofVariables_exported environment,taken_overlaid taken,rfl,
      fun path v plain => ?_⟩
    have distinct : ∀ top ∈ [added, ofVariables environment], Distinct (.object top) :=
      List.forall_mem_cons.mpr ⟨distinct_addArguments distinct_empty taken,
        List.forall_mem_cons.mpr ⟨distinct_ofVariables environment,by simp⟩⟩
    exact stacked_shows distinct base path plain

def settings : Text := "\x7b\"a\":\x7b\"b\":\"1\"\x7d,\"d\":true\x7d"
def bottom : Context := [("a", .object [("b", .string "1")]), ("d", .bool true)]

-- The file does not lie where the program runs.
def machine : FileTree :=
  ⟨.full, [(["etc"], .directory .full), (["etc", "page.json"], .file .full (Utf8.encode settings)),
    (["home"], .directory .full)], ["home"]⟩

def configured : Option Text := some "/etc/page.json"

def surroundings : List (Text × Text) :=
  [("SHELLMAN_CONTEXT_A", "x"), ("HOME", "/"), ("SHELLMAN_CONTEXT_E", "old"), ("SHELLMAN_CONTEXT_e", "new")]

theorem settings_read : Json.parse settings = some (.object bottom) := by
  have spelled : settings = ['\x7b', '"', 'a', '"', ':', '\x7b', '"', 'b', '"', ':', '"', '1', '"', '\x7d', ',',
    '"', 'd', '"', ':', 't', 'r', 'u', 'e', '\x7d'] := rfl
  rw [spelled]
  rfl

theorem machine_gives : FileGives machine configured bottom := by
  refine @FileGives.read machine configured settings bottom ?_ settings_read
  have found : machine.readBytes (source configured) = .ok (Utf8.encode settings) := rfl
  simp only [FileTree.readText,found,Encoding.decode_encode]

theorem machine_accepted (failure : Failure) : ¬ Refused machine configured ["a.c=y"] failure := by
  rintro (refused | ⟨_,refused⟩)
  · cases (ofFiles_ok_iff.mpr machine_gives).symm.trans (ofFiles_error_iff.mpr refused)
  · obtain ⟨argument,listed,opens,_⟩ := firstRefused_exists.mp ⟨failure,refused⟩
    cases List.mem_singleton.mp listed
    cases opens

-- A variable cuts off what the file has below the same name, and an argument enters it again.
theorem load_layered_reopened : (∀ failure, ¬ Refused machine configured ["a.c=y"] failure) ∧
    ∃ context, load machine configured surroundings ["a.c=y"] = .ok context ∧
      below (.object context) ["a", "c"] = some (.string "y") ∧ below (.object context) ["d"] = some (.bool true) ∧
      below (.object context) ["e"] = some (.string "new") ∧
      ∀ v, Plain v → below (.object context) ["a", "b"] ≠ some v := by
  refine ⟨machine_accepted,?_⟩
  obtain ⟨base,exported,added,context,given,gives,overlaid,loaded,visible⟩ :=
    (load_layered machine configured surroundings ["a.c=y"]).2.2 machine_accepted
  cases (ofFiles_ok_iff.mpr given).symm.trans (ofFiles_ok_iff.mpr machine_gives)
  have top : added = [("a".toList, .object [("c".toList, .string "y")])] := by
    cases (ofArguments_ok_iff _ _).mpr overlaid
    rfl
  have a : exported.lookup ("a" : Text) = some (.string "x") := gives.lookup_eq "a"
  have d : exported.lookup ("d" : Text) = none := gives.lookup_eq "d"
  have e : exported.lookup ("e" : Text) = some (.string "new") := gives.lookup_eq "e"
  rw [top] at visible
  refine ⟨context,loaded,(visible _ (.string "y") trivial).mpr ?_,(visible _ (.bool true) trivial).mpr ?_,
    (visible _ (.string "new") trivial).mpr ?_,?_⟩
  · exact shows_cons.mpr (.inl rfl)
  · exact shows_cons.mpr (.inr ⟨free_absent rfl _,shows_cons.mpr (.inr ⟨free_absent d _,shows_cons.mpr (.inl rfl)⟩)⟩)
  · exact shows_cons.mpr (.inr ⟨free_absent rfl _,shows_cons.mpr (.inl (by rw [below_object,e]; rfl))⟩)
  · intro v plain found
    rcases shows_cons.mp ((visible _ v plain).mp found) with top | ⟨_,rest⟩
    · cases top
    · rcases shows_cons.mp rest with second | ⟨free,_⟩
      · rw [below_object,a] at second
        cases second
      · exact free.2 ["a"] (.string "x") (by simp) (by rw [below_object,a]; rfl) trivial

end ScriptDoc.ContextLoading
