import Mathlib.Data.List.AList

/-!
# Finite maps

What insertions and removals do to the entries and the size of an `AList`.
-/

namespace Foundation
variable {K V : Type} [DecidableEq K] {map : AList (fun _ : K => V)} {key k : K} {value v : V}

theorem lookup_insert_cases (found : (map.insert k v).lookup key = some value) :
    (key = k ∧ value = v) ∨ map.lookup key = some value := by
  by_cases same : key = k
  · subst same
    rw [AList.lookup_insert] at found
    exact .inl ⟨rfl, (Option.some.inj found).symm⟩
  · rw [AList.lookup_insert_ne same] at found
    exact .inr found

theorem lookup_erase_cases (found : (map.erase k).lookup key = some value) :
    key ≠ k ∧ map.lookup key = some value := by
  by_cases same : key = k
  · subst same
    rw [AList.lookup_erase] at found
    cases found
  · rw [AList.lookup_erase_ne same] at found
    exact ⟨same, found⟩

theorem mem_of_lookup (found : map.lookup key = some value) : key ∈ map :=
  AList.lookup_isSome.mp (by rw [found]; rfl)

theorem keys_length_insert_absent (absent : map.lookup key = none) :
    (map.insert key value).keys.length = map.keys.length + 1 := by
  rw [AList.keys_insert, List.length_cons, List.erase_of_not_mem (AList.lookup_eq_none.mp absent)]

theorem keys_length_insert_present (present : key ∈ map) :
    (map.insert key value).keys.length = map.keys.length := by
  have pos : 0 < map.keys.length := List.length_pos_of_mem present
  rw [AList.keys_insert, List.length_cons, List.length_erase_of_mem present]
  omega

theorem keys_length_insert_le : (map.insert key value).keys.length ≤ map.keys.length + 1 := by
  rw [AList.keys_insert, List.length_cons]
  exact Nat.succ_le_succ List.length_erase_le

theorem keys_length_le_insert : map.keys.length ≤ (map.insert key value).keys.length := by
  by_cases present : key ∈ map
  · rw [keys_length_insert_present present]
  · rw [keys_length_insert_absent (AList.lookup_eq_none.mpr present)]
    omega

theorem keys_length_erase_le : (map.erase key).keys.length ≤ map.keys.length := by
  rw [AList.keys_erase]
  exact List.length_erase_le

/-! ### Removing several keys -/

def eraseAll (map : AList (fun _ : K => V)) (keys : List K) : AList (fun _ : K => V) :=
  keys.foldl (fun map key => map.erase key) map

theorem mem_eraseAll {keys : List K} : key ∈ eraseAll map keys ↔ key ∈ map ∧ key ∉ keys := by
  unfold eraseAll
  induction keys generalizing map with
  | nil => simp
  | cons first keys ih =>
    rw [List.foldl_cons, ih, AList.mem_erase, List.mem_cons, not_or, and_assoc]
    exact and_left_comm

theorem lookup_erase_or {first : K} {keys : List K} [Decidable (key ∈ keys)]
    [Decidable (key ∈ first :: keys)] :
    (if key ∈ keys then none else (map.erase first).lookup key) =
      if key ∈ first :: keys then none else map.lookup key := by
  by_cases same : key = first
  · subst same
    simp
  · simp [same, AList.lookup_erase_ne same]

theorem lookup_eraseAll {keys : List K} :
    (eraseAll map keys).lookup key = if key ∈ keys then none else map.lookup key := by
  unfold eraseAll
  induction keys generalizing map with
  | nil => simp
  | cons first keys ih =>
    rw [List.foldl_cons, ih]
    exact lookup_erase_or

theorem keys_length_eraseAll_le {keys : List K} : (eraseAll map keys).keys.length ≤ map.keys.length := by
  unfold eraseAll
  induction keys generalizing map with
  | nil => exact Nat.le_refl _
  | cons first keys ih => exact Nat.le_trans ih keys_length_erase_le

end Foundation
