import ScriptDoc.Json.Parser
import ScriptDoc.Proofs.KeyedGroups

namespace ScriptDoc.DistinctMembers
open Json
open KeyedGroups (lookup_cons)

def names (members : List (Text × Json)) : List Text := members.map (·.1)

theorem put_same (name : Text) (value old : Json) (rest : List (Text × Json)) :
    put name value ((name, old) :: rest) = (name, value) :: rest := by
  simp [put]

theorem put_other {key name : Text} (other : key ≠ name) (value old : Json) (rest : List (Text × Json)) :
    put name value ((key, old) :: rest) = (key, old) :: put name value rest := by
  simp [put,other]

theorem lookup_put (name : Text) (value : Json) (members : List (Text × Json)) (key : Text) :
    (put name value members).lookup key = if key = name then some value else members.lookup key := by
  induction members with
  | nil => rw [put,lookup_cons]
  | cons m members ih =>
    obtain ⟨first,old⟩ := m
    by_cases here : first = name
    · subst first
      rw [put_same,lookup_cons,lookup_cons]
      by_cases same : key = name <;> simp [same]
    · rw [put_other here,lookup_cons,lookup_cons,ih]
      by_cases front : key = first
      · subst key
        simp [here]
      · simp [front]

theorem lookup_absent {members : List (Text × Json)} {name : Text} (absent : name ∉ names members) :
    members.lookup name = none := by
  rw [List.lookup_eq_none_iff]
  intro m member
  rw [bne_iff_ne]
  rintro rfl
  exact absent (List.mem_map.mpr ⟨m,member,rfl⟩)

theorem lookup_none_iff {members : List (Text × Json)} {name : Text} :
    members.lookup name = none ↔ name ∉ names members := by
  refine ⟨fun missing inside => ?_,lookup_absent⟩
  obtain ⟨m,member,rfl⟩ := List.mem_map.mp inside
  exact absurd (List.lookup_eq_none_iff.mp missing m member) (by simp)

theorem names_put (name : Text) (value : Json) (members : List (Text × Json)) :
    names (put name value members) = if name ∈ names members then names members else names members ++ [name] := by
  induction members with
  | nil => rfl
  | cons m members ih =>
    obtain ⟨first,old⟩ := m
    by_cases here : first = name
    · subst first
      simp [put_same,names]
    · unfold names at ih ⊢
      rw [put_other here,List.map_cons,List.map_cons,ih]
      by_cases present : name ∈ members.map (·.1) <;> simp [present,Ne.symm here]

theorem mem_put {name : Text} {value : Json} {members : List (Text × Json)} {m : Text × Json}
    (member : m ∈ put name value members) : m ∈ members ∨ m.2 = value := by
  induction members with
  | nil =>
    cases List.mem_singleton.mp member
    exact .inr rfl
  | cons first members ih =>
    obtain ⟨key,old⟩ := first
    by_cases here : key = name
    · subst key
      rw [put_same] at member
      rcases List.mem_cons.mp member with rfl | later
      · exact .inr rfl
      · exact .inl (List.mem_cons_of_mem _ later)
    · rw [put_other here] at member
      rcases List.mem_cons.mp member with rfl | later
      · exact .inl (by simp)
      · exact (ih later).imp (List.mem_cons_of_mem _) id

-- No object, however deep it lies, has two members of one name.
inductive Distinct : Json → Prop where
  | null : Distinct .null
  | bool (b : Bool) : Distinct (.bool b)
  | number (n : Number) : Distinct (.number n)
  | string (t : Text) : Distinct (.string t)
  | array {items : List Json} (each : ∀ v ∈ items, Distinct v) : Distinct (.array items)
  | object {members : List (Text × Json)} (once : (names members).Nodup) (each : ∀ m ∈ members, Distinct m.2) :
      Distinct (.object members)

theorem distinct_object {members : List (Text × Json)} :
    Distinct (.object members) ↔ (names members).Nodup ∧ ∀ m ∈ members, Distinct m.2 := by
  refine ⟨fun distinct => ?_,fun parts => .object parts.1 parts.2⟩
  cases distinct with
  | object once each => exact ⟨once,each⟩

theorem distinct_empty : Distinct (.object []) := .object List.nodup_nil (by simp)

theorem distinct_put {members : List (Text × Json)} (distinct : Distinct (.object members)) (name : Text)
    {value : Json} (new : Distinct value) : Distinct (.object (put name value members)) := by
  cases distinct with
  | object once each =>
    refine .object ?_ ?_
    · rw [names_put]
      split
      · exact once
      · rename_i absent
        exact List.nodup_append.mpr ⟨once,by simp,fun a inside b last => by
          rw [List.mem_singleton.mp last]
          rintro rfl
          exact absent inside⟩
    · intro m member
      rcases mem_put member with old | fresh
      · exact each m old
      · rw [fresh]
        exact new

-- What the three readers keep when they may call each other so many times.
structure Sound (fuel : Nat) : Prop where
  value : ∀ {depth t v rest}, readValue fuel depth t = some (v, rest) → Distinct v
  items : ∀ {depth t vs rest}, readItems fuel depth t = some (vs, rest) → ∀ v ∈ vs, Distinct v
  members : ∀ {depth found t ms rest}, Distinct (.object found) →
    readMembers fuel depth found t = some (ms, rest) → Distinct (.object ms)

theorem sound_zero : Sound 0 where
  value read := by cases read
  items read := by cases read
  members _ read := by cases read

theorem readValue_succ {fuel depth : Nat} {t rest : Text} {v : Json} (sound : Sound fuel)
    (read : readValue (fuel + 1) depth t = some (v, rest)) : Distinct v := by
  rw [readValue] at read
  split at read
  · cases read
  · obtain ⟨p,_,equal⟩ := Option.map_eq_some_iff.mp read
    cases equal
    exact .string p.1
  · split at read
    · cases read
    · split at read
      · cases read
        exact .array (by simp)
      · obtain ⟨p,found,equal⟩ := Option.map_eq_some_iff.mp read
        cases equal
        exact .array (sound.items found)
  · split at read
    · cases read
    · split at read
      · cases read
        exact distinct_empty
      · obtain ⟨p,found,equal⟩ := Option.map_eq_some_iff.mp read
        cases equal
        exact sound.members distinct_empty found
  · cases read
    exact .null
  · cases read
    exact .bool true
  · cases read
    exact .bool false
  · obtain ⟨p,_,equal⟩ := Option.map_eq_some_iff.mp read
    cases equal
    exact .number p.1

theorem readItems_succ {fuel depth : Nat} {t rest : Text} {vs : List Json} (sound : Sound fuel)
    (read : readItems (fuel + 1) depth t = some (vs, rest)) : ∀ v ∈ vs, Distinct v := by
  rw [readItems] at read
  split at read
  · cases read
  · rename_i first _ found
    have here := sound.value found
    split at read
    · obtain ⟨p,later,equal⟩ := Option.map_eq_some_iff.mp read
      cases equal
      exact List.forall_mem_cons.mpr ⟨here,sound.items later⟩
    · cases read
      exact List.forall_mem_cons.mpr ⟨here,by simp⟩
    · cases read

theorem readMembers_succ {fuel depth : Nat} {found ms : List (Text × Json)} {t rest : Text} (sound : Sound fuel)
    (distinct : Distinct (.object found)) (read : readMembers (fuel + 1) depth found t = some (ms, rest)) :
    Distinct (.object ms) := by
  rw [readMembers] at read
  split at read
  · split at read
    · cases read
    · split at read
      · split at read
        · cases read
        · rename_i valued
          have new := sound.value valued
          split at read
          · exact sound.members (distinct_put distinct _ new) read
          · cases read
            exact distinct_put distinct _ new
          · cases read
      · cases read
  · cases read

theorem sound_readers (fuel : Nat) : Sound fuel := by
  induction fuel with
  | zero => exact sound_zero
  | succ fuel ih => exact ⟨readValue_succ ih,readItems_succ ih,readMembers_succ ih⟩

theorem parse_distinct {t : Text} {v : Json} (parsed : Json.parse t = some v) : Distinct v := by
  unfold Json.parse at parsed
  split at parsed
  · rename_i found
    split at parsed
    · cases parsed
      exact (sound_readers _).value found
    · cases parsed
  · cases parsed

end ScriptDoc.DistinctMembers
