import ScriptDoc.Context
import ScriptDoc.Proofs.DistinctMembers

namespace ScriptDoc.Overlaying
open Context DistinctMembers
open KeyedGroups (lookup_cons)

-- What lies below a value at the end of a path of names.
def below : Json → List Text → Option Json
  | v, [] => some v
  | .object members, name :: rest => (members.lookup name).bind fun v => below v rest
  | _, _ :: _ => none

-- Values that nothing lies below.
def Plain : Json → Prop
  | .object _ => False
  | _ => True

@[simp] theorem below_nil (v : Json) : below v [] = some v := by cases v <;> rfl

@[simp] theorem below_object (members : Context) (name : Text) (rest : List Text) :
    below (.object members) (name :: rest) = (members.lookup name).bind fun v => below v rest := rfl

theorem below_plain {v : Json} (plain : Plain v) (name : Text) (rest : List Text) : below v (name :: rest) = none := by
  cases v with
  | object members => exact plain.elim
  | null | bool | number | string | array => rfl

theorem below_cons {v w : Json} {name : Text} {rest : List Text} (found : below v (name :: rest) = some w) :
    ∃ inner next, v = .object inner ∧ inner.lookup name = some next ∧ below next rest = some w := by
  cases v with
  | object inner =>
    obtain ⟨next,here,there⟩ := Option.bind_eq_some_iff.mp found
    exact ⟨inner,next,rfl,here,there⟩
  | null | bool | number | string | array => cases found

theorem below_append (v : Json) (start rest : List Text) :
    below v (start ++ rest) = (below v start).bind fun u => below u rest := by
  induction start generalizing v with
  | nil => simp
  | cons name start ih =>
    cases v with
    | object members =>
      rw [List.cons_append,below_object,below_object,Option.bind_assoc]
      exact Option.bind_congr fun u _ => ih u
    | null | bool | number | string | array => rfl

theorem plain_or_object (v : Json) : Plain v ∨ ∃ members, v = .object members := by
  cases v with
  | object members => exact .inr ⟨members,rfl⟩
  | null | bool | number | string | array => exact .inl trivial

theorem overlay_plain {v : Json} (plain : Plain v) (old : Option Json) : overlay old v = v := by
  cases v with
  | object members => exact plain.elim
  | null | bool | number | string | array => rw [overlay]

theorem overlay_object (old : Option Json) (inner : Context) :
    overlay old (.object inner) = .object (update (members old) inner) := by
  rw [overlay]

theorem lookup_members (old : Option Json) (name : Text) :
    (members old).lookup name = old.bind fun v => below v [name] := by
  cases old with
  | none => rfl
  | some v =>
    rcases plain_or_object v with plain | ⟨inner,rfl⟩
    · rw [Option.bind_some,below_plain plain]
      cases v with
      | object members => exact plain.elim
      | null | bool | number | string | array => rfl
    · simp [members]

-- Names come once in what is laid over, so the order in which they are put does not matter.
theorem lookup_update (base : Context) {added : Context} (once : (names added).Nodup) (name : Text) :
    (update base added).lookup name = match added.lookup name with
      | some v => some (overlay (base.lookup name) v)
      | none => base.lookup name := by
  induction added generalizing base with
  | nil => rfl
  | cons m added ih =>
    obtain ⟨first,value⟩ := m
    obtain ⟨absent,others⟩ := List.nodup_cons.mp once
    rw [update,ih _ others,lookup_put,lookup_cons]
    by_cases here : name = first
    · subst first
      rw [lookup_absent absent,if_pos rfl,if_pos rfl]
    · rw [if_neg here,if_neg here]

theorem below_overlay (old : Option Json) {inner : Context} (once : (names inner).Nodup) (name : Text)
    (rest : List Text) :
    below (overlay old (.object inner)) (name :: rest) = match inner.lookup name with
      | some v => below (overlay (old.bind fun u => below u [name]) v) rest
      | none => old.bind fun u => below u (name :: rest) := by
  rw [overlay_object,below_object,lookup_update _ once,lookup_members]
  cases inner.lookup name with
  | some v => rfl
  | none =>
    rw [Option.bind_assoc]
    exact Option.bind_congr fun u _ => (below_append u [name] rest).symm

-- Nothing lies at the path, and every value on the way there can be entered.
def Free (v : Json) (path : List Text) : Prop :=
  below v path = none ∧ ∀ start w, start <+: path → below v start = some w → ¬ Plain w

-- A value that does not show what lies at the same path under it.
def Hides (v : Json) (path : List Text) : Prop :=
  (∃ start w, start <+: path ∧ start ≠ path ∧ below v start = some w ∧ Plain w) ∨
    ∃ inner, below v path = some (.object inner)

theorem free_iff (v : Json) (path : List Text) :
    Free v path ↔ (∀ w, Plain w → below v path ≠ some w) ∧ ¬ Hides v path := by
  constructor
  · rintro ⟨nothing,entered⟩
    refine ⟨by simp [nothing],?_⟩
    rintro (⟨start,w,front,_,found,plain⟩ | ⟨inner,found⟩)
    · exact entered start w front found plain
    · rw [nothing] at found
      cases found
  · rintro ⟨noPlain,shows⟩
    have nothing : below v path = none := by
      cases found : below v path with
      | none => rfl
      | some w =>
        rcases plain_or_object w with plain | ⟨inner,rfl⟩
        · exact absurd found (noPlain w plain)
        · exact absurd (.inr ⟨inner,found⟩) shows
    refine ⟨nothing,fun start w front found plain => shows (.inl ⟨start,w,front,?_,found,plain⟩)⟩
    rintro rfl
    rw [nothing] at found
    cases found

theorem free_absent {members : Context} {name : Text} (absent : members.lookup name = none) (rest : List Text) :
    Free (.object members) (name :: rest) := by
  refine ⟨by simp [absent],?_⟩
  intro start w front found
  cases start with
  | nil =>
    cases found
    exact id
  | cons first start =>
    cases (List.cons_prefix_cons.mp front).1
    simp [absent] at found

theorem free_cons {members : Context} {name : Text} {v : Json} (found : members.lookup name = some v)
    {rest : List Text} (free : Free (.object members) (name :: rest)) : Free v rest := by
  obtain ⟨nothing,entered⟩ := free
  refine ⟨by simpa [found] using nothing,?_⟩
  intro start w front inside
  exact entered (name :: start) w (List.cons_prefix_cons.mpr ⟨rfl,front⟩) (by simpa [found] using inside)

section Laws
variable {v w : Json} {path : List Text}

theorem distinct_lookup {members : Context} (distinct : Distinct (.object members)) {name : Text} {v : Json}
    (found : members.lookup name = some v) : Distinct v := by
  cases distinct with
  | object _ each =>
    obtain ⟨front,back,rfl,_⟩ := List.lookup_eq_some_iff.mp found
    exact each (name, v) (by simp)

-- What is laid over meets what was held at the same path, and nothing else of it.
theorem overlay_at (distinct : Distinct v) (found : below v path = some w) (old : Option Json) :
    below (overlay old v) path = some (overlay (old.bind fun u => below u path) w) := by
  induction path generalizing v old with
  | nil =>
    rw [below_nil] at found
    cases found
    simp
  | cons name rest ih =>
    obtain ⟨inner,next,rfl,here,there⟩ := below_cons found
    cases distinct with
    | object once each =>
      have later := ih (distinct_lookup (.object once each) here) there (old.bind fun u => below u [name])
      rw [Option.bind_assoc] at later
      rw [below_overlay old once,here]
      simpa only [← below_append,List.singleton_append] using later

theorem overlay_shows (distinct : Distinct v) (plain : Plain w) (found : below v path = some w) (old : Option Json) :
    below (overlay old v) path = some w := by
  rw [overlay_at distinct found,overlay_plain plain]

theorem overlay_keeps_object (distinct : Distinct v) {inner : Context} (found : below v path = some (.object inner))
    (old : Option Json) : ∃ merged, below (overlay old v) path = some (.object merged) :=
  ⟨_,by rw [overlay_at distinct found,overlay_object]⟩

-- A plain value on the way is put in place of all that was there.
theorem overlay_cuts (distinct : Distinct v) {start : List Text} (front : start <+: path) (short : start ≠ path)
    (found : below v start = some w) (plain : Plain w) (old : Option Json) : below (overlay old v) path = none := by
  obtain ⟨rest,rfl⟩ := front
  rw [below_append,overlay_shows distinct plain found old,Option.bind_some]
  cases rest with
  | nil => exact absurd (List.append_nil start).symm short
  | cons name rest => exact below_plain plain name rest

theorem overlay_free (distinct : Distinct v) (free : Free v path) (old : Option Json) :
    below (overlay old v) path = old.bind fun u => below u path := by
  induction path generalizing v old with
  | nil =>
    have nothing := free.1
    rw [below_nil] at nothing
    cases nothing
  | cons name rest ih =>
    rcases plain_or_object v with leaf | ⟨inner,rfl⟩
    · exact absurd leaf (free.2 [] v (List.nil_prefix) (below_nil v))
    · cases distinct with
      | object once each =>
        rw [below_overlay old once]
        cases here : inner.lookup name with
        | none => rfl
        | some next =>
          have later := ih (distinct_lookup (.object once each) here) (free_cons here free)
            (old.bind fun u => below u [name])
          rw [Option.bind_assoc] at later
          exact later.trans (Option.bind_congr fun u _ => (below_append u [name] rest).symm)

-- A plain value is seen where it was laid on top, or through what is laid over it.
theorem overlay_visible (distinct : Distinct v) (plain : Plain w) (old : Option Json) :
    below (overlay old v) path = some w ↔
      below v path = some w ∨ (Free v path ∧ (old.bind fun u => below u path) = some w) := by
  by_cases free : Free v path
  · rw [overlay_free distinct free old]
    simp [free,free.1]
  · simp only [free,false_and,or_false]
    refine ⟨fun found => ?_,fun found => overlay_shows distinct plain found old⟩
    rw [free_iff,Classical.not_and_iff_not_or_not,Classical.not_not] at free
    rcases free with top | ⟨start,u,front,short,inside,leaf⟩ | ⟨inner,inside⟩
    · obtain ⟨u,leaf,inside⟩ : ∃ u, Plain u ∧ below v path = some u := by simpa using top
      rw [overlay_shows distinct leaf inside old] at found
      rwa [inside]
    · rw [overlay_cuts distinct front short inside leaf old] at found
      cases found
    · obtain ⟨merged,object⟩ := overlay_keeps_object distinct inside old
      rw [object] at found
      cases found
      exact plain.elim

end Laws

end ScriptDoc.Overlaying
