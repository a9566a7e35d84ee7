import ScriptDoc.Proofs.TreeWrites
import ScriptDoc.Run

namespace ScriptDoc.Delivery
open Output Run TreeWalks TreeWrites

section Firsts
variable {α : Type} {r : α → α → Bool}

-- The induction that goes with `eraseDupsBy`: whatever is like the first goes with the first.
theorem first_induction {motive : List α → Prop} (empty : motive [])
    (more : ∀ a rest, motive (rest.filter fun b => r b a = false) → motive (a :: rest)) :
    ∀ items, motive items
  | [] => empty
  | a :: rest => more a rest (first_induction empty more (rest.filter fun b => r b a = false))
termination_by items => items.length
decreasing_by exact Nat.lt_succ_of_le (List.length_filter_le _ _)

theorem firsts_sublist (items : List α) : (items.eraseDupsBy r).Sublist items := by
  induction items using first_induction (r := r) with
  | empty => exact .slnil
  | more a rest ih =>
    rw [List.eraseDupsBy_cons]
    exact .cons_cons a (ih.trans List.filter_sublist)

theorem firsts_apart (items : List α) : (items.eraseDupsBy r).Pairwise fun a b => r b a = false := by
  induction items using first_induction (r := r) with
  | empty => exact .nil
  | more a rest ih =>
    rw [List.eraseDupsBy_cons]
    refine .cons ?_ ih
    intro b later
    exact of_decide_eq_true (List.mem_filter.mp ((firsts_sublist _).subset later)).2

theorem first_of_mem (reflexive : ∀ a, r a a = true) {items : List α} {a : α} (member : a ∈ items) :
    ∃ b ∈ items.eraseDupsBy r, r a b = true := by
  induction items using first_induction (r := r) with
  | empty => cases member
  | more b rest ih =>
    rw [List.eraseDupsBy_cons]
    rcases List.mem_cons.mp member with rfl | later
    · exact ⟨a,by simp,reflexive a⟩
    · cases like : r a b with
      | true => exact ⟨b,by simp,like⟩
      | false =>
        obtain ⟨first,kept,alike⟩ := ih (List.mem_filter.mpr ⟨later,by simp [like]⟩)
        exact ⟨first,List.mem_cons_of_mem _ kept,alike⟩

end Firsts

theorem same_iff {a b : Text} : Path.same a b = true ↔ Path.components a = Path.components b := by
  rw [Path.same,beq_iff_eq]

theorem same_comm (a b : Text) : Path.same a b = Path.same b a := by
  rw [Bool.eq_iff_iff,same_iff,same_iff,eq_comm]

-- What the pages for one path hold together.
def contentAt (path : Text) (pages : List (Text × Text)) : Text :=
  Text.each (pages.filter fun e => Path.same e.1 path) (·.2)

theorem foldl_add (path held : Text) (plan : Plan) (pages : List (Text × Text)) :
    pages.foldl (fun plan e => Plan.add e.1 e.2 plan) ((path, held) :: plan) =
      (path, held ++ contentAt path pages) ::
        (pages.filter fun e => Path.same e.1 path = false).foldl (fun plan e => Plan.add e.1 e.2 plan) plan := by
  induction pages generalizing held plan with
  | nil => simp [contentAt,Text.each]
  | cons e pages ih =>
    rw [List.foldl_cons,Plan.add,same_comm path e.1]
    cases like : Path.same e.1 path <;> simp [ih,contentAt,Text.each,like]

-- A page that is not for one path is not for any path like it.
theorem contentAt_others {path other : Text} (apart : Path.same other path = false) (content : Text)
    (pages : List (Text × Text)) :
    contentAt other (pages.filter fun e => Path.same e.1 path = false) = contentAt other ((path, content) :: pages) := by
  have front : Path.same path other = false := by rw [same_comm,apart]
  rw [contentAt,contentAt,List.filter_filter,List.filter_cons_of_neg (by simp [front])]
  congr 1
  apply List.filter_congr
  intro e _
  cases like : Path.same e.1 other with
  | false => rfl
  | true =>
    have away : Path.same e.1 path = false := by
      rw [← apart,Bool.eq_iff_iff,same_iff,same_iff,same_iff.mp like]
    simp [away]

theorem ofPages_eq (pages : List (Text × Text)) :
    Plan.ofPages pages = ((pages.map (·.1)).eraseDupsBy Path.same).map fun path => (path, contentAt path pages) := by
  induction pages using first_induction (r := fun (e f : Text × Text) => Path.same e.1 f.1) with
  | empty => rfl
  | more e pages ih =>
    obtain ⟨path,content⟩ := e
    have own : contentAt path ((path, content) :: pages) = content ++ contentAt path pages := by
      simp [contentAt,Text.each,same_iff.mpr]
    rw [Plan.ofPages,List.foldl_cons,Plan.add,foldl_add,List.map_cons,List.eraseDupsBy_cons,List.map_cons,own]
    rw [List.filter_map]
    congr 1
    refine ih.trans (List.map_congr_left ?_)
    intro other first
    obtain ⟨e,member,rfl⟩ := List.mem_map.mp ((firsts_sublist _).subset first)
    have apart := of_decide_eq_true (List.mem_filter.mp member).2
    rw [contentAt_others apart content]

def destination (t : Template) (pattern : Text) (d : Document) : Text := expand pattern d.filename t.extension

-- One file for each place that documents go to, the first first, with what these documents say.
structure Planned (t : Template) (context : Context) (pattern : Text) (docs : List Document) (plan : Plan) : Prop where
  entries : plan = ((docs.map (destination t pattern)).eraseDupsBy Path.same).map fun path =>
    (path, printed t context (docs.filter fun d => Path.same (destination t pattern d) path))
  apart : plan.Pairwise fun a b => Path.same b.1 a.1 = false
  covered : ∀ d ∈ docs, ∃ e ∈ plan, Path.same (destination t pattern d) e.1 = true

theorem contentAt_pages (t : Template) (context : Context) (pattern path : Text) (docs : List Document) :
    contentAt path (pages t context pattern docs)
      = printed t context (docs.filter fun d => Path.same (destination t pattern d) path) := by
  rw [contentAt,pages,printed,Text.each,Text.each,List.filter_map,List.flatMap_map]
  rfl

theorem pages_planned (t : Template) (context : Context) (pattern : Text) (docs : List Document) :
    Planned t context pattern docs (.ofPages (pages t context pattern docs)) := by
  have entries := ofPages_eq (pages t context pattern docs)
  have paths : (pages t context pattern docs).map (·.1) = docs.map (destination t pattern) := List.map_map
  simp only [paths,contentAt_pages] at entries
  rw [entries]
  refine ⟨rfl,List.pairwise_map.mpr (firsts_apart _),?_⟩
  intro d member
  have listed : destination t pattern d ∈ docs.map (destination t pattern) := List.mem_map_of_mem member
  obtain ⟨path,first,like⟩ := first_of_mem (fun _ => same_iff.mpr rfl) listed
  exact ⟨_,List.mem_map_of_mem first,like⟩

theorem Planned.alone {t : Template} {context : Context} {pattern : Text} {docs : List Document} {plan : Plan}
    (planned : Planned t context pattern docs plan) (present : docs ≠ [])
    (together : ∀ d ∈ docs, ∀ e ∈ docs, Path.same (destination t pattern d) (destination t pattern e) = true) :
    ∃ path, plan = [(path, printed t context docs)] := by
  rw [planned.entries]
  cases docs with
  | nil => exact absurd rfl present
  | cons first rest =>
    have all : ∀ d ∈ first :: rest, Path.same (destination t pattern d) (destination t pattern first) = true :=
      fun d member => together d member first (by simp)
    have gone : (rest.map (destination t pattern)).filter
        (fun path => Path.same path (destination t pattern first) = false) = [] := by
      simp only [List.filter_eq_nil_iff,List.mem_map]
      rintro _ ⟨d,member,rfl⟩
      simp [all d (List.mem_cons_of_mem _ member)]
    refine ⟨destination t pattern first,?_⟩
    rw [List.map_cons,List.eraseDupsBy_cons,gone,List.map_cons,List.filter_eq_self.mpr all]
    rfl

-- The files of a plan, all written, one after another.
inductive Wrote : FileTree → Plan → FileTree → Prop where
  | nil {tree : FileTree} : Wrote tree [] tree
  | cons {tree next final : FileTree} {path content : Text} {rest : Plan}
      (written : writeFile tree path content = .ok next) (others : Wrote next rest final) :
      Wrote tree ((path, content) :: rest) final

-- A plan of which the first files can be written, and the next one cannot.
inductive StopsAt (tree : FileTree) (done : Plan) (path content : Text) (after : FileTree) (failure : Failure) :
    Plan → Prop where
  | next {held : FileTree} (wrote : Wrote tree done held)
      (stops : writeFile held path content = .error (after, failure)) (rest : Plan) :
      StopsAt tree done path content after failure (done ++ (path, content) :: rest)

theorem write_whole {tree final : FileTree} {plan : Plan} (wrote : Wrote tree plan final) :
    plan.write tree = ⟨final, none⟩ := by
  induction wrote with
  | nil => rfl
  | cons written _ ih =>
    rw [Plan.write,written]
    exact ih

theorem write_stopped {tree after : FileTree} {done plan : Plan} {path content : Text} {failure : Failure}
    (stops : StopsAt tree done path content after failure plan) : plan.write tree = ⟨after, some failure⟩ := by
  obtain ⟨wrote,stops,rest⟩ := stops
  induction wrote with
  | nil => rw [List.nil_append,Plan.write,stops]
  | cons written _ ih =>
    rw [List.cons_append,Plan.write,written]
    exact ih stops

theorem wrote_or_stopped (tree : FileTree) (plan : Plan) :
    (∃ final, Wrote tree plan final) ∨
      ∃ done path content after failure, StopsAt tree done path content after failure plan := by
  induction plan generalizing tree with
  | nil => exact .inl ⟨tree,.nil⟩
  | cons e plan ih =>
    obtain ⟨path,content⟩ := e
    cases written : writeFile tree path content with
    | error ended =>
      obtain ⟨after,failure⟩ := ended
      exact .inr ⟨[],path,content,after,failure,.next .nil written plan⟩
    | ok next =>
      rcases ih next with ⟨final,others⟩ | ⟨done,other,said,after,failure,⟨others,stops,rest⟩⟩
      · exact .inl ⟨final,.cons written others⟩
      · exact .inr ⟨(path, content) :: done,other,said,after,failure,.next (.cons written others) stops rest⟩

-- What a plan leaves at a place: paths that are not the same may still lead to one place.
def lastAt (tree : FileTree) (plan : Plan) (place : List Text) : Option Utf8.Bytes :=
  (plan.reverse.find? fun e => target tree e.1 = place).map fun e => Utf8.encode e.2

-- What is at a place when all of a plan is written and nothing else.
def heldAfter (tree : FileTree) (plan : Plan) (place : List Text) : Option Utf8.Bytes :=
  (lastAt tree plan place).or (fileAt tree place)

theorem lastAt_cons (tree : FileTree) (path content : Text) (plan : Plan) (place : List Text) :
    lastAt tree ((path, content) :: plan) place
      = (lastAt tree plan place).or (if target tree path = place then some (Utf8.encode content) else none) := by
  rw [lastAt,List.reverse_cons,List.find?_append,Option.map_or,← lastAt]
  by_cases here : target tree path = place <;> simp [here]

theorem writeFile_ok {tree next : FileTree} {path content : Text} (written : writeFile tree path content = .ok next) :
    next.home = tree.home ∧ ∀ place, fileAt next place
      = if target tree path = place then some (Utf8.encode content) else fileAt tree place := by
  have ending := writeFile_ending tree path content
  rw [written] at ending
  cases ending with
  | written spares there =>
    refine ⟨spares.home,fun place => ?_⟩
    by_cases here : target tree path = place
    · rw [if_pos here,← here,there]
    · rw [if_neg here,spares.others place (Ne.symm here)]

theorem wrote_held {tree final : FileTree} {plan : Plan} (wrote : Wrote tree plan final) :
    final.home = tree.home ∧ ∀ place, fileAt final place = heldAfter tree plan place := by
  induction wrote with
  | nil => exact ⟨rfl,fun place => rfl⟩
  | @cons tree next final path content rest written _ ih =>
    obtain ⟨home,files⟩ := writeFile_ok written
    refine ⟨ih.1.trans home,fun place => ?_⟩
    rw [ih.2,heldAfter,heldAfter,lastAt_cons,Option.or_assoc,files]
    have same : lastAt next rest place = lastAt tree rest place := by
      unfold lastAt
      rw [target_congr home]
    rw [same]
    congr 1
    split <;> rfl

-- Where a run stopped: everything that was planned before is written, nothing that was planned after, and
-- of the file itself at most a beginning.
structure Stopped (tree : FileTree) (done : Plan) (path content : Text) (failure : Failure) (after : FileTree) : Prop where
  others : ∀ place, place ≠ target tree path → fileAt after place = heldAfter tree done place
  own : fileAt after (target tree path) = heldAfter tree done (target tree path) ∨
    failure = .unwritable path ∧ ∃ part, part <+: Utf8.encode content ∧ part ≠ Utf8.encode content ∧
      fileAt after (target tree path) = some part
  reason : failure = .unwritable path ∨ ∃ directory, directoryOf path = some directory ∧ failure = .noDirectory directory

theorem stopped_left {tree after : FileTree} {done plan : Plan} {path content : Text} {failure : Failure}
    (stops : StopsAt tree done path content after failure plan) : Stopped tree done path content failure after := by
  obtain @⟨held,wrote,stops,rest⟩ := stops
  obtain ⟨home,files⟩ := wrote_held wrote
  have ending := writeFile_ending held path content
  rw [stops] at ending
  have same := congrFun (target_congr home) path
  cases ending with
  | noDirectory held untouched =>
    refine ⟨fun place _ => ?_,.inl ?_,.inr ⟨_,held,rfl⟩⟩
    · rw [untouched.files,files]
    · rw [untouched.files,files]
  | refused untouched =>
    refine ⟨fun place _ => ?_,.inl ?_,.inl rfl⟩
    · rw [untouched.files,files]
    · rw [untouched.files,files]
  | short spares front shorter there =>
    rw [same] at spares there
    refine ⟨fun place away => ?_,.inr ⟨rfl,_,front,shorter,there⟩,.inl rfl⟩
    rw [spares.others place away,files]

-- Either all is written, or what was planned before the first file that cannot be written.
structure Ended (tree : FileTree) (plan : Plan) (after : FileTree) (failure : Option Failure) : Prop where
  either : (∃ final, Wrote tree plan final) ∨
    ∃ done path content left reason, StopsAt tree done path content left reason plan
  whole : ∀ final, Wrote tree plan final →
    failure = none ∧ after = final ∧ ∀ place, fileAt after place = heldAfter tree plan place
  stopped : ∀ done path content left reason, StopsAt tree done path content left reason plan →
    failure = some reason ∧ after = left ∧ Stopped tree done path content reason after

theorem write_ended (tree : FileTree) (plan : Plan) :
    Ended tree plan (plan.write tree).tree (plan.write tree).failure := by
  refine ⟨wrote_or_stopped tree plan,?_,?_⟩
  · intro final wrote
    rw [write_whole wrote]
    exact ⟨rfl,rfl,(wrote_held wrote).2⟩
  · intro done path content left reason stops
    rw [write_stopped stops]
    exact ⟨rfl,rfl,stopped_left stops⟩

theorem Ended.complete {tree after : FileTree} {plan : Plan} {failure : Option Failure}
    (ended : Ended tree plan after failure) (unfailed : failure = none) (place : List Text) :
    fileAt after place = heldAfter tree plan place := by
  rcases ended.either with ⟨final,wrote⟩ | ⟨done,path,content,left,reason,stops⟩
  · exact (ended.whole final wrote).2.2 place
  · cases unfailed.symm.trans (ended.stopped _ _ _ _ _ stops).1

theorem deliver_standard {c : Command} (standard : isStandard c.output = true) (w : World) (t : Template)
    (context : Context) (g : Gathered) :
    (deliver w c t context g).output = printed t context (merged c g.documents) := by
  have nowhere : c.output.filter (· ≠ Output.standard) = none := by
    cases named : c.output with
    | none => rfl
    | some output => simpa [named,isStandard] using standard
  rw [deliver,nowhere]

theorem deliver_written {c : Command} {pattern : Text} (given : c.output = some pattern)
    (elsewhere : isStandard c.output = false) (w : World) (t : Template) (context : Context) (g : Gathered) :
    let written := Plan.write w.tree (.ofPages (pages t context pattern (merged c g.documents)))
    let outcome := deliver w c t context g
    outcome.output = [] ∧ outcome.tree = written.tree ∧ outcome.failure = written.failure := by
  have named : c.output.filter (· ≠ Output.standard) = some pattern := by
    rw [given] at elsewhere ⊢
    simpa [isStandard] using elsewhere
  simp only [deliver,named]
  split <;> rename_i ended <;> exact ⟨rfl,rfl,ended.symm⟩

theorem deliver_planned {c : Command} {pattern : Text} (given : c.output = some pattern)
    (elsewhere : isStandard c.output = false) (w : World) (t : Template) (context : Context) (g : Gathered) :
    let docs := merged c g.documents
    let plan := Plan.ofPages (pages t context pattern docs)
    let outcome := deliver w c t context g
    Planned t context pattern docs plan ∧ outcome.output = [] ∧ Ended w.tree plan outcome.tree outcome.failure ∧
      (docs ≠ [] → (∀ d ∈ docs, ∀ e ∈ docs, Path.same (destination t pattern d) (destination t pattern e) = true) →
        ∃ path content, plan = [(path, content)] ∧
          (outcome.failure = none → fileAt outcome.tree (target w.tree path) = some (Utf8.encode content)) ∧
          ∀ other command gathered, isStandard command.output = true → merged command gathered.documents = docs →
            (deliver other command t context gathered).output = content) := by
  intro docs plan outcome
  obtain ⟨silent,tree,failure⟩ := deliver_written given elsewhere w t context g
  have planned : Planned t context pattern docs plan := pages_planned t context pattern docs
  have ended : Ended w.tree plan outcome.tree outcome.failure := by
    rw [tree,failure]
    exact write_ended w.tree plan
  refine ⟨planned,silent,ended,?_⟩
  intro present together
  obtain ⟨path,alone⟩ := planned.alone present together
  refine ⟨path,printed t context docs,alone,?_,?_⟩
  · intro complete
    rw [ended.complete complete,alone,heldAfter,lastAt_cons,if_pos rfl]
    rfl
  · intro other command gathered standard same
    rw [deliver_standard standard,same]

def byName : Command := { Command.empty with output := some "\x7bfilename\x7d" }

def showing (filename usage : Text) : Document := ⟨filename, none, [("usage", [.entry .usage usage []])]⟩

def usages : List Document :=
  [showing "/srv/out/a" "one", showing "../b" "two", showing "/srv//out/a" "three", showing "c" "four",
    showing "d" "five"]

-- One file in the working directory takes no more than six bytes.
def crowded : World :=
  ⟨⟨.full, [(["home"], .directory .full), (["home", "c"], .file { Access.full with room := some 6 } [])], ["home"]⟩,
    [], []⟩

def shared : Text := "Usage: one\nUsage: three\n"

def usagePlan : Plan :=
  [("/srv/out/a", shared), ("../b", "Usage: two\n"), ("c", "Usage: four\n"), ("d", "Usage: five\n")]

def together : Command := { Command.empty with output := some "/srv/sub/usage.txt" }

theorem deliver_planned_crowded :
    (isStandard byName.output = false ∧
      let outcome := deliver crowded byName .usageText [] ⟨usages, []⟩
      Ended crowded.tree usagePlan outcome.tree outcome.failure ∧ outcome.failure = some (.unwritable "c") ∧
        fileAt outcome.tree ["srv", "out", "a"] = some (Utf8.encode shared) ∧
        fileAt outcome.tree ["b"] = some (Utf8.encode "Usage: two\n") ∧
        fileAt outcome.tree ["home", "c"] = some (Utf8.encode "Usage:") ∧ fileAt outcome.tree ["home", "d"] = none) ∧
    (isStandard together.output = false ∧
      let outcome := deliver crowded together .usageText [] ⟨usages, []⟩
      outcome.failure = none ∧ fileAt outcome.tree ["srv", "sub", "usage.txt"]
        = some (Utf8.encode (deliver crowded .empty .usageText [] ⟨usages, []⟩).output)) := by
  constructor
  · have plan : Plan.ofPages (pages .usageText [] "\x7bfilename\x7d" usages) = usagePlan := by decide +kernel
    obtain ⟨_,_,ended,_⟩ := deliver_planned (c := byName) rfl rfl crowded .usageText [] ⟨usages, []⟩
    exact ⟨rfl,plan ▸ ended,by decide +kernel,by decide +kernel,by decide +kernel,by decide +kernel,by decide +kernel⟩
  · have done : (deliver crowded together .usageText [] ⟨usages, []⟩).failure = none := by decide +kernel
    have first : (Plan.ofPages (pages .usageText [] "/srv/sub/usage.txt" usages)).map (·.1)
        = ["/srv/sub/usage.txt".toList] := by decide +kernel
    obtain ⟨_,_,_,alone⟩ := deliver_planned (c := together) rfl rfl crowded .usageText [] ⟨usages, []⟩
    obtain ⟨path,content,plan,written,printed⟩ := alone (by decide) (by decide +kernel)
    have named : path = "/srv/sub/usage.txt" := by
      rw [show merged together usages = usages from rfl] at plan
      rw [plan] at first
      exact List.singleton_inj.mp first
    subst named
    refine ⟨rfl,done,?_⟩
    rw [printed crowded .empty ⟨usages, []⟩ rfl rfl]
    exact written done

end ScriptDoc.Delivery
