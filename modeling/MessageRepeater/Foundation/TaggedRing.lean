import Mathlib.Data.List.Basic

/-!
# A ring of slots as a window on a log

An unbounded log is kept in a fixed number of slots, entry `q` in slot `q % n` under its tag
`q`. `Window slots tag log` says that the slots hold the last `n` entries of the log and that
no other slot is filled.
-/

namespace Foundation

variable {Entry Slot : Type}

/-- The slots hold the last `slots.length` entries of `log`, each under its own number. -/
structure Window (slots : List (Option Slot)) (tag : Nat → Entry → Slot) (log : List Entry) :
    Prop where
  held : ∀ q (lt : q < log.length), log.length ≤ q + slots.length →
    slots[q % slots.length]? = some (some (tag q log[q]))
  empty : ∀ i, log.length ≤ i → i < slots.length → slots[i]? = some none

theorem Window.replicate (n : Nat) (tag : Nat → Entry → Slot) :
    Window (List.replicate n none) tag [] where
  held q lt := absurd lt (by simp)
  empty i _ lt := by
    simp only [List.length_replicate] at lt
    simp [lt]

/-- Two numbers less than `n` apart share a residue only when they are equal. -/
theorem residue_ne {n q p : Nat} (lt : q < p) (near : p < q + n) : q % n ≠ p % n := by
  intro same
  have h₁ := Nat.div_add_mod q n
  have h₂ := Nat.div_add_mod p n
  have : q / n = p / n ∨ q / n < p / n := by
    have := Nat.div_le_div_right (c := n) (Nat.le_of_lt lt)
    omega
  rcases this with h | h
  · rw [h] at h₁
    omega
  · have := Nat.mul_le_mul_left n (show q / n + 1 ≤ p / n from h)
    rw [Nat.mul_add, Nat.mul_one] at this
    omega

/-- Writing the next entry over the slot of its residue moves the window by one. -/
theorem Window.append {slots : List (Option Slot)} {tag : Nat → Entry → Slot} {log : List Entry}
    (window : Window slots tag log) (entry : Entry) (pos : 0 < slots.length) :
    Window (slots.set (log.length % slots.length) (some (tag log.length entry))) tag
      (log ++ [entry]) where
  held q lt near := by
    simp only [List.length_append, List.length_cons, List.length_nil, List.length_set] at lt near ⊢
    by_cases old : q < log.length
    · have apart := residue_ne (n := slots.length) old (by omega)
      rw [List.getElem?_set_ne (Ne.symm apart), window.held q old (by omega)]
      simp [List.getElem_append_left, old]
    · obtain rfl : q = log.length := by omega
      rw [List.getElem?_set_self (Nat.mod_lt _ pos)]
      simp
  empty i le lt := by
    simp only [List.length_append, List.length_cons, List.length_nil, List.length_set] at le lt ⊢
    have small : log.length % slots.length = log.length := Nat.mod_eq_of_lt (by omega)
    rw [small, List.getElem?_set_ne (by omega)]
    exact window.empty i (by omega) lt

end Foundation
