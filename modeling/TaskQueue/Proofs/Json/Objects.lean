import TaskQueue.Json.Value

/-!
# Objects by key

The order in which the members of an object are written does not count.  The normal form of a value is the
one representative in which the keys of each object ascend; it holds the same value for every key, the last
one where a key is repeated.

Principal results: `get?_normal` — what a normal form holds for a key; `ordered_normal` and
`normal_of_ordered` — a normal form is ordered, and an ordered value is its own normal form.
-/

set_option autoImplicit false

namespace TaskQueue.Json

/-- The keys of the members ascend, each key once. -/
def Ascending (ms : List (String × Json)) : Prop := ms.Pairwise fun m m' => m.1 < m'.1

instance (ms : List (String × Json)) : Decidable (Ascending ms) :=
  inferInstanceAs (Decidable (ms.Pairwise fun m m' => m.1 < m'.1))

/-- A value in whose objects the keys ascend. -/
inductive Ordered : Json → Prop
  | null : Ordered Json.null
  | bool (b : Bool) : Ordered (Json.bool b)
  | int (z : Int) : Ordered (Json.int z)
  | real (x : Json.Real) : Ordered (Json.real x)
  | string (s : String) : Ordered (Json.string s)
  | array {items : List Json} (h : ∀ v ∈ items, Ordered v) : Ordered (Json.array items)
  | members {ms : List (String × Json)} (hkeys : Ascending ms) (h : ∀ m ∈ ms, Ordered m.2) :
      Ordered (Json.members ms)

mutual

/-- The value with the keys of its objects in ascending order, the last of a key counting. -/
def normal : Json → Json
  | array items => array (normalItems items)
  | members ms => object (normalMembers ms)
  | v => v

/-- The items, each in normal form. -/
def normalItems : List Json → List Json
  | [] => []
  | v :: rest => v.normal :: normalItems rest

/-- The members as they are given, each with its value in normal form. -/
def normalMembers : List (String × Json) → List (String × Json)
  | [] => []
  | (k, v) :: rest => (k, v.normal) :: normalMembers rest

end

/-- What the members of an object say last for a key, in the order in which they are written. -/
def last? (key : String) : Json → Option Json
  | members ms => ms.reverse.lookup key
  | _ => none

/-! ## Setting one member -/

theorem lookup_cons_eq (key k : String) (v : Json) (ms : List (String × Json)) :
    ((k, v) :: ms).lookup key = if key = k then some v else ms.lookup key := by
  rw [List.lookup_cons]
  by_cases h : key = k
  · rw [if_pos h, beq_iff_eq.mpr h]
  · rw [if_neg h, beq_false_of_ne h]

theorem lookup_setMember (key k : String) (v : Json) (ms : List (String × Json)) :
    (setMember k v ms).lookup key = if key = k then some v else ms.lookup key := by
  induction ms with
  | nil => exact lookup_cons_eq key k v []
  | cons m ms ih =>
    rw [setMember]
    split
    · exact lookup_cons_eq key k v _
    · split
      · rename_i heq
        rw [lookup_cons_eq, lookup_cons_eq, ← heq]
        split <;> rfl
      · rename_i hne
        rw [lookup_cons_eq, lookup_cons_eq, ih]
        by_cases h : key = m.1
        · rw [if_pos h, if_pos h, if_neg fun hk : key = k => hne (hk.symm.trans h)]
        · rw [if_neg h, if_neg h]

theorem mem_setMember {k : String} {v : Json} {ms : List (String × Json)} {m : String × Json}
    (h : m ∈ setMember k v ms) : m = (k, v) ∨ m ∈ ms := by
  induction ms with
  | nil => exact Or.inl (List.mem_singleton.mp h)
  | cons m' ms ih =>
    rw [setMember] at h
    split at h
    · exact List.mem_cons.mp h
    · split at h
      · exact (List.mem_cons.mp h).imp_right (List.mem_cons_of_mem _)
      · rcases List.mem_cons.mp h with rfl | h
        · exact Or.inr List.mem_cons_self
        · exact (ih h).imp_right (List.mem_cons_of_mem _)

theorem ascending_setMember (k : String) (v : Json) {ms : List (String × Json)} (h : Ascending ms) :
    Ascending (setMember k v ms) := by
  induction ms with
  | nil => exact List.pairwise_singleton _ _
  | cons m ms ih =>
    obtain ⟨hfirst, hrest⟩ := List.pairwise_cons.mp h
    rw [setMember]
    split
    · rename_i hlt
      refine List.pairwise_cons.mpr ⟨fun m' hm' => ?_, h⟩
      rcases List.mem_cons.mp hm' with rfl | hm'
      · exact hlt
      · exact String.lt_trans hlt (hfirst m' hm')
    · split
      · rename_i heq
        exact List.pairwise_cons.mpr ⟨fun m' hm' => heq ▸ hfirst m' hm', hrest⟩
      · rename_i hnot hne
        have hlt : m.1 < k :=
          String.not_le.mp fun hle => hne (String.le_antisymm hle (String.not_lt.mp hnot))
        refine List.pairwise_cons.mpr ⟨fun m' hm' => ?_, ih hrest⟩
        rcases mem_setMember hm' with rfl | hm'
        · exact hlt
        · exact hfirst m' hm'

/-- A key that is greater than all others is set at the end. -/
theorem setMember_of_greatest {key : String} (v : Json) {ms : List (String × Json)}
    (h : ∀ m ∈ ms, m.1 < key) : setMember key v ms = ms ++ [(key, v)] := by
  induction ms with
  | nil => rfl
  | cons m ms ih =>
    obtain ⟨hm, hms⟩ := List.forall_mem_cons.mp h
    rw [setMember, if_neg (String.lt_asymm hm), if_neg (fun heq => String.lt_irrefl _ (heq ▸ hm)), ih hms]
    rfl

/-! ## Objects -/

/-- The members of an object that is made by setting one member after the other. -/
def setMembers (acc ms : List (String × Json)) : List (String × Json) :=
  ms.foldl (fun acc m => setMember m.1 m.2 acc) acc

theorem setMembers_cons (acc : List (String × Json)) (m : String × Json) (ms : List (String × Json)) :
    setMembers acc (m :: ms) = setMembers (setMember m.1 m.2 acc) ms := rfl

theorem lookup_setMembers (key : String) (acc ms : List (String × Json)) :
    (setMembers acc ms).lookup key = (ms.reverse.lookup key).or (acc.lookup key) := by
  induction ms generalizing acc with
  | nil => rfl
  | cons m ms ih =>
    rw [setMembers_cons, ih, List.reverse_cons, List.lookup_append, Option.or_assoc, lookup_setMember,
      lookup_cons_eq]
    split <;> rfl

theorem mem_setMembers {acc ms : List (String × Json)} {m : String × Json}
    (h : m ∈ setMembers acc ms) : m ∈ acc ∨ m ∈ ms := by
  induction ms generalizing acc with
  | nil => exact Or.inl h
  | cons m' ms ih =>
    rcases ih h with h | h
    · rcases mem_setMember h with rfl | h
      · exact Or.inr List.mem_cons_self
      · exact Or.inl h
    · exact Or.inr (List.mem_cons_of_mem _ h)

theorem ascending_setMembers {acc : List (String × Json)} (ms : List (String × Json))
    (h : Ascending acc) : Ascending (setMembers acc ms) := by
  induction ms generalizing acc with
  | nil => exact h
  | cons m ms ih => exact ih (ascending_setMember m.1 m.2 h)

theorem setMembers_of_ascending {acc ms : List (String × Json)} (h : Ascending (acc ++ ms)) :
    setMembers acc ms = acc ++ ms := by
  induction ms generalizing acc with
  | nil => exact (List.append_nil acc).symm
  | cons m ms ih =>
    have hsplit : acc ++ m :: ms = acc ++ [m] ++ ms := by simp
    have hlast : setMember m.1 m.2 acc = acc ++ [m] :=
      setMember_of_greatest m.2 fun m' hm' => (List.pairwise_append.mp h).2.2 m' hm' m List.mem_cons_self
    rw [setMembers_cons, hlast, hsplit]
    exact ih (hsplit ▸ h)

/-- **An object holds the last value that is given for a key.** -/
theorem get?_object (key : String) (ms : List (String × Json)) :
    (object ms).get? key = ms.reverse.lookup key := by
  show (setMembers [] ms).lookup key = _
  rw [lookup_setMembers, List.lookup_nil, Option.or_none]

/-- An object whose keys ascend is made of its own members. -/
theorem object_of_ascending {ms : List (String × Json)} (h : Ascending ms) : object ms = members ms :=
  congrArg members (setMembers_of_ascending ((List.nil_append ms).symm ▸ h))

theorem ordered_object {ms : List (String × Json)} (h : ∀ m ∈ ms, Ordered m.2) : Ordered (object ms) :=
  .members (ascending_setMembers ms List.Pairwise.nil) fun m hm =>
    (mem_setMembers hm).elim (fun h => absurd h List.not_mem_nil) (h m)

/-! ## Normal forms -/

mutual

/-- **A normal form is ordered.** -/
theorem ordered_normal : ∀ v : Json, v.normal.Ordered
  | null => .null
  | bool b => .bool b
  | int z => .int z
  | real x => .real x
  | string s => .string s
  | array items => .array (ordered_normalItems items)
  | members ms => ordered_object (ordered_normalMembers ms)

theorem ordered_normalItems : ∀ items : List Json, ∀ v ∈ normalItems items, v.Ordered
  | [] => fun _ h => absurd h List.not_mem_nil
  | v :: rest => List.forall_mem_cons.mpr ⟨ordered_normal v, ordered_normalItems rest⟩

theorem ordered_normalMembers : ∀ ms : List (String × Json), ∀ m ∈ normalMembers ms, m.2.Ordered
  | [] => fun _ h => absurd h List.not_mem_nil
  | (_, v) :: rest => List.forall_mem_cons.mpr ⟨ordered_normal v, ordered_normalMembers rest⟩

end

theorem normalItems_eq_map (items : List Json) : normalItems items = items.map normal := by
  induction items with
  | nil => rfl
  | cons v rest ih => rw [normalItems, ih, List.map_cons]

theorem normalMembers_eq_map (ms : List (String × Json)) :
    normalMembers ms = ms.map fun m => (m.1, m.2.normal) := by
  induction ms with
  | nil => rfl
  | cons m rest ih => rw [normalMembers, ih, List.map_cons]

theorem lookup_map_snd (f : Json → Json) (key : String) (ms : List (String × Json)) :
    (ms.map fun m => (m.1, f m.2)).lookup key = (ms.lookup key).map f := by
  induction ms with
  | nil => rfl
  | cons m ms ih =>
    rw [List.map_cons, lookup_cons_eq, lookup_cons_eq, ih]
    split <;> rfl

/-- **A normal form holds for each key what the value says last for it**, in normal form too. -/
theorem get?_normal (key : String) (v : Json) : v.normal.get? key = (v.last? key).map normal := by
  cases v with
  | members ms =>
    rw [normal, get?_object, normalMembers_eq_map, ← List.map_reverse, lookup_map_snd, last?]
  | null | bool b | int z | real x | string s | array items => rfl

/-- **An ordered value is its own normal form.** -/
theorem normal_of_ordered {v : Json} (h : v.Ordered) : v.normal = v := by
  induction h with
  | null | bool _ | int _ | real _ | string _ => rfl
  | array _ ih =>
    rw [normal, normalItems_eq_map, List.map_congr_left ih, List.map_id']
  | members hkeys _ ih =>
    have hsame := List.map_congr_left fun m hm => congrArg (Prod.mk m.1) (ih m hm)
    rw [normal, normalMembers_eq_map, hsame, List.map_id', object_of_ascending hkeys]

end TaskQueue.Json
