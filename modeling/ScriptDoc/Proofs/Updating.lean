import ScriptDoc.Proofs.Overlaying

-- What becomes of a context when another is laid over it: by paths, and by the order of its members.
namespace ScriptDoc.Updating
open Context DistinctMembers Overlaying
open KeyedGroups (lookup_cons)

-- A plain value stands on the way, so that nothing can lie at the end of the path.
def Cut (v : Json) (path : List Text) : Prop :=
  ∃ start w, start <+: path ∧ start ≠ path ∧ below v start = some w ∧ Plain w

theorem free_uncut {v : Json} {path : List Text} (nothing : below v path = none) (uncut : ¬ Cut v path) :
    Free v path := by
  refine (free_iff v path).mpr ⟨by simp [nothing],?_⟩
  rintro (cut | ⟨inner,found⟩)
  · exact uncut cut
  · rw [nothing] at found
    cases found

@[simp] theorem members_none : members none = [] := rfl
@[simp] theorem members_object (inner : Context) : members (some (.object inner)) = inner := rfl

theorem update_overlay (base added : Context) :
    Json.object (update base added) = overlay (some (.object base)) (.object added) := by
  rw [overlay_object]
  rfl

theorem update_paths (base : Context) {added : Context} (distinct : Distinct (.object added)) (path : List Text) :
    (∀ v, Plain v → below (.object added) path = some v → below (.object (update base added)) path = some v) ∧
    (∀ inner, below (.object added) path = some (.object inner) →
      below (.object (update base added)) path
        = some (.object (update (members (below (.object base) path)) inner))) ∧
    (below (.object added) path = none → Cut (.object added) path →
      below (.object (update base added)) path = none) ∧
    (below (.object added) path = none → ¬ Cut (.object added) path →
      below (.object (update base added)) path = below (.object base) path) := by
  rw [update_overlay]
  refine ⟨?_,?_,?_,?_⟩
  · intro v plain found
    exact overlay_shows distinct plain found _
  · intro inner found
    rw [overlay_at distinct found,overlay_object,Option.bind_some]
  · rintro _ ⟨start,w,front,short,found,plain⟩
    exact overlay_cuts distinct front short found plain _
  · intro nothing uncut
    rw [overlay_free distinct (free_uncut nothing uncut),Option.bind_some]

def defaults : Context := [("a", .object [("x", .string "1"), ("y", .string "2")]), ("b", .string "3")]

def overrides : Context :=
  [("c", .array []), ("a", .object [("z", .null), ("x", .object [("k", .string "v")])]),
    ("b", .object [("e", .bool true)])]

theorem overrides_distinct : Distinct (.object overrides) := by
  simp [overrides,distinct_object,names,Distinct.null,Distinct.bool,Distinct.string,Distinct.array]

theorem sibling_uncut : ¬ Cut (.object overrides) ["a", "y"] := by
  rintro ⟨start,w,front,short,found,plain⟩
  rcases List.prefix_cons_iff.mp front with rfl | ⟨rest,rfl,further⟩
  · cases found
    exact plain
  rcases List.prefix_cons_iff.mp further with rfl | ⟨rest,rfl,none⟩
  · cases found
    exact plain
  · exact short (by rw [List.prefix_nil.mp none])

theorem update_paths_mixed :
    Distinct (.object overrides) ∧ Cut (.object overrides) ["c", "q"] ∧ ¬ Cut (.object overrides) ["a", "y"] ∧
    below (.object (update defaults overrides)) ["a", "x", "k"] = some (.string "v") ∧
    below (.object (update defaults overrides)) ["b"] = some (.object [("e", .bool true)]) ∧
    below (.object (update defaults overrides)) ["c", "q"] = none ∧
    below (.object (update defaults overrides)) ["a", "y"] = some (.string "2") := by
  have laws := update_paths defaults overrides_distinct
  have cut : Cut (.object overrides) ["c", "q"] := ⟨["c"],.array [],by simp,by simp,rfl,trivial⟩
  refine ⟨overrides_distinct,cut,sibling_uncut,(laws _).1 _ trivial rfl,?_,(laws _).2.2.1 rfl cut,
    (laws _).2.2.2 rfl sibling_uncut⟩
  rw [(laws ["b"]).2.1 [("e", .bool true)] rfl]
  rfl

-- Members that are held keep their places, and new ones follow in their own order.
theorem names_update (base : Context) {added : Context} (once : (names added).Nodup) :
    names (update base added) = names base ++ (names added).filter (· ∉ names base) := by
  induction added generalizing base with
  | nil => simp [update,names]
  | cons m added ih =>
    obtain ⟨name,value⟩ := m
    obtain ⟨absent,others⟩ := List.nodup_cons.mp once
    have listed : names ((name, value) :: added) = name :: names added := rfl
    rw [update,ih _ others,names_put,listed]
    split
    · rename_i present
      rw [List.filter_cons_of_neg (by simpa using present)]
    · rename_i fresh
      have same : (names added).filter (· ∉ names base ++ [name]) = (names added).filter (· ∉ names base) := by
        apply List.filter_congr
        intro key member
        have other : key ≠ name := by
          rintro rfl
          exact absent member
        simp [other]
      rw [same,List.filter_cons_of_pos (by simpa using fresh),List.append_assoc,List.singleton_append]

theorem distinct_update {base added : Context} (held : Distinct (.object base))
    (each : ∀ m ∈ added, ∀ old, (∀ u ∈ old, Distinct u) → Distinct (overlay old m.2)) :
    Distinct (.object (update base added)) := by
  induction added generalizing base with
  | nil => exact held
  | cons m added ih =>
    obtain ⟨name,value⟩ := m
    obtain ⟨here,later⟩ := List.forall_mem_cons.mp each
    rw [update]
    exact ih (distinct_put held name (here _ fun u found => distinct_lookup held found)) later

theorem distinct_members {old : Option Json} (held : ∀ u ∈ old, Distinct u) : Distinct (.object (members old)) := by
  unfold members
  split
  · exact held _ rfl
  · exact distinct_empty

theorem distinct_overlay {v : Json} (distinct : Distinct v) :
    ∀ old, (∀ u ∈ old, Distinct u) → Distinct (overlay old v) := by
  induction distinct with
  | object _ _ ih =>
    intro old held
    rw [overlay_object]
    exact distinct_update (distinct_members held) ih
  | null => exact fun _ _ => by rw [overlay]; exact .null
  | bool b => exact fun _ _ => by rw [overlay]; exact .bool b
  | number n => exact fun _ _ => by rw [overlay]; exact .number n
  | string t => exact fun _ _ => by rw [overlay]; exact .string t
  | array each _ => exact fun _ _ => by rw [overlay]; exact .array each

theorem distinct_below {v w : Json} {path : List Text} (distinct : Distinct v) (found : below v path = some w) :
    Distinct w := by
  induction path generalizing v with
  | nil =>
    rw [below_nil] at found
    cases found
    exact distinct
  | cons name rest ih =>
    obtain ⟨inner,next,rfl,here,there⟩ := below_cons found
    exact ih (distinct_lookup distinct here) there

-- Names in their order and what is found under them make up the whole list.
theorem members_ext {a b : Context} (same : names a = names b) (once : (names a).Nodup)
    (found : ∀ name, a.lookup name = b.lookup name) : a = b := by
  induction a generalizing b with
  | nil => exact (List.map_eq_nil_iff.mp same.symm).symm
  | cons m a ih =>
    cases b with
    | nil => cases same
    | cons n b =>
      obtain ⟨name,value⟩ := m
      obtain ⟨other,held⟩ := n
      obtain ⟨rfl,tail⟩ := List.cons_eq_cons.mp same
      obtain ⟨absent,others⟩ := List.nodup_cons.mp once
      have first := found name
      rw [lookup_cons,lookup_cons,if_pos rfl,if_pos rfl] at first
      cases first
      rw [ih tail others]
      intro key
      have later := found key
      rw [lookup_cons,lookup_cons] at later
      split at later
      · rename_i here
        subst key
        have gone : name ∉ names b := by
          rw [names,← tail]
          exact absent
        rw [lookup_absent absent,lookup_absent gone]
      · exact later

theorem overlay_nothing {v : Json} (distinct : Distinct v) : overlay none v = v := by
  induction distinct with
  | @object inner once _ ih =>
    rw [overlay_object,members_none]
    congr 1
    have order : names (update [] inner) = names inner := by
      rw [names_update [] once]
      simp [names]
    refine members_ext order (order ▸ once) ?_
    intro name
    rw [lookup_update [] once]
    cases found : inner.lookup name with
    | none => rfl
    | some u =>
      obtain ⟨front,back,rfl,_⟩ := List.lookup_eq_some_iff.mp found
      exact congrArg some (ih (name, u) (by simp))
  | null | bool | number | string | array => rw [overlay]

-- What is already there is put in its own place again.
theorem overlay_again {v : Json} (distinct : Distinct v) :
    ∀ old, (∀ u ∈ old, Distinct u) → overlay (some (overlay old v)) v = overlay old v := by
  induction distinct with
  | @object inner once each ih =>
    intro old held
    rw [overlay_object,overlay_object,members_object]
    congr 1
    have first : Distinct (.object (update (members old) inner)) := by
      rw [← overlay_object]
      exact distinct_overlay (.object once each) old held
    have order : names (update (update (members old) inner) inner) = names (update (members old) inner) := by
      have nothing : (names inner).filter (· ∉ names (update (members old) inner)) = [] := by
        rw [List.filter_eq_nil_iff]
        intro name listed
        rw [names_update _ once]
        by_cases held : name ∈ names (members old) <;> simp [listed,held]
      rw [names_update _ once,nothing,List.append_nil]
    refine members_ext order (order ▸ (distinct_object.mp first).1) ?_
    intro name
    rw [lookup_update _ once,lookup_update _ once]
    cases found : inner.lookup name with
    | none => rfl
    | some u =>
      obtain ⟨front,back,rfl,_⟩ := List.lookup_eq_some_iff.mp found
      exact congrArg some (ih (name, u) (by simp) _ fun w inside => distinct_lookup (distinct_members held) inside)
  | null | bool | number | string | array => exact fun _ _ => by rw [overlay,overlay]

theorem update_ordered {base added : Context} (held : Distinct (.object base)) (distinct : Distinct (.object added)) :
    Distinct (.object (update base added)) ∧
    (∀ path mine theirs, below (.object base) path = some (.object mine) →
      below (.object added) path = some (.object theirs) →
      ∃ merged, below (.object (update base added)) path = some (.object merged) ∧
        names merged = names mine ++ (names theirs).filter (· ∉ names mine)) ∧
    update base [] = base ∧ update [] added = added ∧ update (update base added) added = update base added := by
  have once : ∀ u ∈ some (Json.object base), Distinct u := by
    rintro u ⟨⟩
    exact held
  have fresh := overlay_nothing distinct
  have again := overlay_again distinct _ once
  have whole := distinct_overlay distinct _ once
  rw [overlay_object,members_none] at fresh
  rw [← update_overlay] at whole again
  rw [← update_overlay] at again
  refine ⟨whole,?_,rfl,Json.object.inj fresh,Json.object.inj again⟩
  intro path mine theirs here there
  rw [update_overlay,overlay_at distinct there,Option.bind_some,here,overlay_object]
  exact ⟨_,rfl,names_update mine (distinct_object.mp (distinct_below distinct there)).1⟩

theorem defaults_distinct : Distinct (.object defaults) := by
  simp [defaults,distinct_object,names,Distinct.string]

theorem update_ordered_mixed :
    Distinct (.object defaults) ∧ Distinct (.object overrides) ∧
    names (update defaults overrides) = (["a", "b", "c"] : List Text) ∧
    (∃ merged, below (.object (update defaults overrides)) ["a"] = some (.object merged) ∧
      names merged = (["x", "y", "z"] : List Text)) ∧
    update (update defaults overrides) overrides = update defaults overrides := by
  obtain ⟨_,order,_,_,again⟩ := update_ordered defaults_distinct overrides_distinct
  obtain ⟨whole,same,names⟩ := order [] defaults overrides rfl rfl
  cases same
  exact ⟨defaults_distinct,overrides_distinct,names,order ["a"] _ _ rfl rfl,again⟩

end ScriptDoc.Updating
