import ScriptDoc.Groups

namespace ScriptDoc.KeyedGroups
open Groups

variable {κ α : Type}

@[simp] theorem keys_nil : keys ([] : Groups κ α) = [] := rfl
@[simp] theorem keys_cons (e : κ × List α) (groups : Groups κ α) : keys (e :: groups) = e.1 :: keys groups := rfl

variable [DecidableEq κ]

@[simp] theorem get_nil (key : κ) : get ([] : Groups κ α) key = [] := rfl

theorem append_same (key : κ) (held items : List α) (groups : Groups κ α) :
    append key items ((key, held) :: groups) = (key, held ++ items) :: groups := by
  simp [append]

theorem append_other {k key : κ} (other : k ≠ key) (held items : List α) (groups : Groups κ α) :
    append key items ((k, held) :: groups) = (k, held) :: append key items groups := by
  simp [append,other]

theorem lookup_cons {β : Type} [BEq κ] [LawfulBEq κ] (k key : κ) (value : β) (rest : List (κ × β)) :
    List.lookup key ((k, value) :: rest) = if key = k then some value else rest.lookup key := by
  rw [List.lookup_cons]
  by_cases same : key = k
  · simp [same]
  · simp [same,beq_eq_false_iff_ne.mpr same]

theorem get_cons (k key : κ) (held : List α) (groups : Groups κ α) :
    get ((k, held) :: groups) key = if key = k then held else get groups key := by
  unfold Groups.get
  rw [lookup_cons]
  split <;> rfl

theorem get_append (groups : Groups κ α) (key k : κ) (items : List α) :
    get (append key items groups) k = if k = key then get groups key ++ items else get groups k := by
  induction groups with
  | nil => rw [append,get_cons,get_nil,get_nil,List.nil_append]
  | cons e groups ih =>
    obtain ⟨first,held⟩ := e
    by_cases same : first = key
    · subst first
      rw [append_same,get_cons,get_cons,get_cons]
      split <;> simp
    · rw [append_other same,get_cons,get_cons,get_cons,ih,if_neg (Ne.symm same)]
      by_cases here : k = first
      · subst k
        simp [same]
      · simp [here]

theorem keys_append (groups : Groups κ α) (key : κ) (items : List α) :
    keys (append key items groups) = if key ∈ keys groups then keys groups else keys groups ++ [key] := by
  induction groups with
  | nil => rfl
  | cons e groups ih =>
    obtain ⟨first,held⟩ := e
    by_cases same : first = key
    · subst first
      simp [append_same]
    · rw [append_other same,keys_cons,keys_cons,ih]
      have apart : key ≠ first := Ne.symm same
      by_cases present : key ∈ keys groups <;> simp [present,apart]

theorem nodup_append {groups : Groups κ α} (distinct : (keys groups).Nodup) (key : κ) (items : List α) :
    (keys (append key items groups)).Nodup := by
  rw [keys_append]
  split
  · exact distinct
  · rename_i absent
    exact List.nodup_append.mpr ⟨distinct,by simp,by
      intro a inside b last
      rw [List.mem_singleton.mp last]
      rintro rfl
      exact absent inside⟩

-- What an entry can be after something is appended: one that was there, or the one appended to.
theorem mem_append_cases {groups : Groups κ α} {key : κ} {items : List α} {e : κ × List α}
    (member : e ∈ append key items groups) :
    e ∈ groups ∨ ∃ held, e = (key, held ++ items) ∧ (held = [] ∨ (key, held) ∈ groups) := by
  induction groups with
  | nil => exact .inr ⟨[],by simpa [append] using member,.inl rfl⟩
  | cons first groups ih =>
    obtain ⟨k,held⟩ := first
    by_cases same : k = key
    · subst k
      rw [append_same] at member
      rcases List.mem_cons.mp member with rfl | old
      · exact .inr ⟨held,rfl,.inr (by simp)⟩
      · exact .inl (List.mem_cons_of_mem _ old)
    · rw [append_other same] at member
      rcases List.mem_cons.mp member with rfl | old
      · exact .inl (by simp)
      · rcases ih old with before | ⟨was,shape,origin⟩
        · exact .inl (List.mem_cons_of_mem _ before)
        · exact .inr ⟨was,shape,origin.imp id (List.mem_cons_of_mem _)⟩

theorem append_append (groups : Groups κ α) (key : κ) (items more : List α) :
    append key more (append key items groups) = append key (items ++ more) groups := by
  induction groups with
  | nil => simp [append]
  | cons e groups ih =>
    obtain ⟨first,held⟩ := e
    by_cases same : first = key
    · subst first
      simp [append_same]
    · rw [append_other same,append_other same,append_other same,ih]

-- A key that is there already does not move, so it does not matter when something is added to it.
theorem append_comm {groups : Groups κ α} {key : κ} (present : key ∈ keys groups) {k : κ} (other : k ≠ key)
    (items more : List α) :
    append k more (append key items groups) = append key items (append k more groups) := by
  induction groups with
  | nil => simp at present
  | cons e groups ih =>
    obtain ⟨first,held⟩ := e
    by_cases same : first = key
    · subst first
      rw [append_same,append_other (Ne.symm other),append_other (Ne.symm other),append_same]
    · have later : key ∈ keys groups := by
        rcases List.mem_cons.mp present with here | later
        · exact absurd here (Ne.symm same)
        · exact later
      rw [append_other same]
      by_cases front : first = k
      · subst first
        rw [append_same,append_same,append_other same]
      · rw [append_other front,append_other front,append_other same,ih later]

@[simp] theorem addAll_nil (groups : Groups κ α) : addAll groups [] = groups := rfl
@[simp] theorem addAll_cons (groups : Groups κ α) (e : κ × List α) (more : Groups κ α) :
    addAll groups (e :: more) = addAll (append e.1 e.2 groups) more := rfl

theorem addAll_append (groups first second : Groups κ α) :
    addAll groups (first ++ second) = addAll (addAll groups first) second := List.foldl_append

theorem mem_keys_append {groups : Groups κ α} (key : κ) (items : List α) {k : κ} :
    k ∈ keys (append key items groups) ↔ k ∈ keys groups ∨ k = key := by
  rw [keys_append]
  split
  · rename_i present
    exact ⟨.inl,fun either => either.elim id fun same => same ▸ present⟩
  · simp

theorem addAll_append_front {groups more : Groups κ α} {key : κ} (present : key ∈ keys groups)
    (absent : key ∉ keys more) (items : List α) :
    addAll (append key items groups) more = append key items (addAll groups more) := by
  induction more generalizing groups with
  | nil => rfl
  | cons e more ih =>
    have other : e.1 ≠ key := fun same => absent (by simp [same])
    have still : key ∈ keys (append e.1 e.2 groups) := (mem_keys_append _ _).mpr (.inl present)
    rw [addAll_cons,append_comm present other,ih still (fun inside => absent (by simp [inside])),addAll_cons]

-- With distinct keys, what is appended to the second may as well be appended to the sum.
theorem addAll_append_inside (groups : Groups κ α) {more : Groups κ α} (distinct : (keys more).Nodup)
    (key : κ) (items : List α) :
    addAll groups (append key items more) = append key items (addAll groups more) := by
  induction more generalizing groups with
  | nil => rfl
  | cons e more ih =>
    obtain ⟨first,held⟩ := e
    obtain ⟨absent,tail⟩ := List.nodup_cons.mp distinct
    by_cases same : first = key
    · subst first
      have present : key ∈ keys (append key held groups) := (mem_keys_append _ _).mpr (.inr rfl)
      rw [append_same,addAll_cons,addAll_cons,← append_append,addAll_append_front present absent]
    · rw [append_other same,addAll_cons,addAll_cons,ih _ tail]

theorem addAll_addAll (groups before entries : Groups κ α) (distinct : (keys before).Nodup) :
    addAll groups (addAll before entries) = addAll (addAll groups before) entries := by
  induction entries generalizing before with
  | nil => rfl
  | cons e entries ih =>
    rw [addAll_cons,ih _ (nodup_append distinct e.1 e.2),addAll_append_inside groups distinct,addAll_cons]

-- Entries may be gathered before they are added.
theorem addAll_gathered (groups entries : Groups κ α) : addAll groups (addAll [] entries) = addAll groups entries :=
  addAll_addAll groups [] entries List.nodup_nil

theorem get_addAll (groups more : Groups κ α) (key : κ) :
    get (addAll groups more) key = get groups key ++ (more.filter (·.1 = key)).flatMap (·.2) := by
  induction more generalizing groups with
  | nil => simp
  | cons e more ih =>
    rw [addAll_cons,ih,get_append]
    by_cases same : e.1 = key
    · simp [same]
    · simp [same,Ne.symm same]

theorem get_distinct {groups : Groups κ α} (distinct : (keys groups).Nodup) (key : κ) :
    get groups key = (groups.filter (·.1 = key)).flatMap (·.2) := by
  induction groups with
  | nil => rfl
  | cons e groups ih =>
    obtain ⟨first,held⟩ := e
    obtain ⟨absent,tail⟩ := List.nodup_cons.mp distinct
    rw [get_cons]
    by_cases same : key = first
    · subst first
      have alone : groups.filter (·.1 = key) = [] := by
        rw [List.filter_eq_nil_iff]
        intro other member equal
        exact absent (List.mem_map.mpr ⟨other,member,of_decide_eq_true equal⟩)
      simp [alone]
    · simp [same,Ne.symm same,ih tail]

-- Keys come in the order in which they are first mentioned, by whatever test they are compared.
theorem keys_addAll [BEq κ] [LawfulBEq κ] (groups more : Groups κ α) :
    keys (addAll groups more) = keys groups ++ ((keys more).removeAll (keys groups)).eraseDups := by
  induction more generalizing groups with
  | nil => simp [List.removeAll]
  | cons e more ih =>
    rw [addAll_cons,ih,keys_append]
    split
    · rename_i present
      simp [List.cons_removeAll,present]
    · rename_i absent
      simp [absent,List.eraseDups_cons,List.removeAll,List.filter_filter,Bool.and_comm]
      congr 2
      funext k
      rw [Bool.eq_iff_iff]
      simp

theorem keys_gathered [BEq κ] [LawfulBEq κ] (more : Groups κ α) : keys (addAll [] more) = (keys more).eraseDups := by
  rw [keys_addAll]
  simp

theorem mem_of_get {groups : Groups κ α} {key : κ} {a : α} (member : a ∈ get groups key) :
    ∃ held, (key, held) ∈ groups ∧ a ∈ held := by
  induction groups with
  | nil => cases member
  | cons first groups ih =>
    obtain ⟨k,held⟩ := first
    rw [get_cons] at member
    split at member
    · rename_i same
      subst k
      exact ⟨held,by simp,member⟩
    · obtain ⟨other,there,inside⟩ := ih member
      exact ⟨other,List.mem_cons_of_mem _ there,inside⟩

-- Grouping moves what it groups, and neither drops nor repeats any of it.
theorem held_append (groups : Groups κ α) (key : κ) (items : List α) :
    ((append key items groups).flatMap (·.2)).Perm (groups.flatMap (·.2) ++ items) := by
  induction groups with
  | nil => simp [append]
  | cons e groups ih =>
    obtain ⟨k,held⟩ := e
    by_cases same : k = key
    · subst k
      rw [append_same,List.flatMap_cons,List.flatMap_cons,List.append_assoc,List.append_assoc]
      exact .append_left held List.perm_append_comm
    · rw [append_other same,List.flatMap_cons,List.flatMap_cons,List.append_assoc]
      exact .append_left held ih

theorem held_addAll (groups more : Groups κ α) :
    ((addAll groups more).flatMap (·.2)).Perm (groups.flatMap (·.2) ++ more.flatMap (·.2)) := by
  induction more generalizing groups with
  | nil => simp [addAll_nil]
  | cons e more ih =>
    rw [addAll_cons,List.flatMap_cons,← List.append_assoc]
    exact (ih _).trans (.append_right _ (held_append groups e.1 e.2))

theorem ofItems_eq (key : α → κ) (items : List α) : ofItems key items = addAll [] (items.map fun a => (key a, [a])) := by
  rw [addAll,List.foldl_map]
  rfl

theorem held_ofItems (key : α → κ) (items : List α) : ((ofItems key items).flatMap (·.2)).Perm items := by
  rw [ofItems_eq]
  simpa [List.flatMap_map] using held_addAll [] (items.map fun a => (key a,[a]))

theorem mem_ofItems {key : α → κ} {items : List α} {e : κ × List α} (member : e ∈ ofItems key items) :
    ∃ a ∈ items, key a = e.1 := by
  have listed : e.1 ∈ keys (ofItems key items) := List.mem_map.mpr ⟨e,member,rfl⟩
  rw [ofItems_eq,keys_gathered,List.mem_eraseDups,keys,List.map_map] at listed
  exact List.mem_map.mp listed

theorem nodup_addAll {groups : Groups κ α} (distinct : (keys groups).Nodup) (more : Groups κ α) :
    (keys (addAll groups more)).Nodup := by
  induction more generalizing groups with
  | nil => exact distinct
  | cons e more ih => exact ih (nodup_append distinct e.1 e.2)

-- With distinct keys, keys and look-up make up the whole.
theorem entries_distinct {groups : Groups κ α} (distinct : (keys groups).Nodup) :
    groups = (keys groups).map fun key => (key, get groups key) := by
  induction groups with
  | nil => rfl
  | cons e groups ih =>
    obtain ⟨first,held⟩ := e
    obtain ⟨absent,tail⟩ := List.nodup_cons.mp distinct
    have others : ∀ key ∈ keys groups, (key, get groups key) = (key, get ((first, held) :: groups) key) := by
      intro key inside
      rw [get_cons,if_neg]
      rintro rfl
      exact absent inside
    rw [keys_cons,List.map_cons,get_cons,if_pos rfl,← List.map_congr_left others,← ih tail]

theorem get_ofItems (key : α → κ) (items : List α) (k : κ) : get (ofItems key items) k = items.filter (key · = k) := by
  rw [ofItems_eq,get_addAll,get_nil,List.nil_append,List.filter_map,List.flatMap_map]
  exact List.flatMap_singleton' _

theorem keys_ofItems [BEq κ] [LawfulBEq κ] (key : α → κ) (items : List α) :
    keys (ofItems key items) = (items.map key).eraseDups := by
  rw [ofItems_eq,keys_gathered,keys,List.map_map]
  rfl

theorem nodup_ofItems (key : α → κ) (items : List α) : (keys (ofItems key items)).Nodup := by
  rw [ofItems_eq]
  exact @nodup_addAll κ α _ [] List.nodup_nil _

-- The whole of a grouping at once: every key where it first comes, with all that has it.
theorem ofItems_entries (key : α → κ) (items : List α) :
    ofItems key items = (keys (ofItems key items)).map fun k => (k, items.filter (key · = k)) := by
  have whole := entries_distinct (nodup_ofItems key items)
  simpa only [get_ofItems] using whole

end ScriptDoc.KeyedGroups
