import Mathlib.Data.List.Forall2
import Mathlib.Data.List.Infix

/-!
# A cursor over a growing log

A reader moves a cursor forward over a log and sends entries as it passes them. `Consumed` is what
stays true of it: nothing is sent twice or out of order, and every position it has passed without
sending is excused.
-/

namespace Foundation

variable {Entry : Type} {log log' : List Entry} {Excused Excused' : Nat → Prop}
  {sent : List (Nat × Entry)} {start cursor position : Nat} {entry : Entry}

structure Consumed (log : List Entry) (Excused : Nat → Prop) (sent : List (Nat × Entry))
    (start cursor : Nat) : Prop where
  start_le : start ≤ cursor
  ordered : (sent.map Prod.fst).Pairwise (· < ·)
  inside : ∀ item ∈ sent, start ≤ item.1 ∧ item.1 < cursor ∧ log[item.1]? = some item.2
  passed : ∀ q, start ≤ q → q < cursor → (∃ entry, (q, entry) ∈ sent) ∨ Excused q

theorem Consumed.nil (log : List Entry) (Excused : Nat → Prop) (start : Nat) :
    Consumed log Excused [] start start where
  start_le := Nat.le_refl start
  ordered := .nil
  inside := nofun
  passed q le lt := by omega

theorem entry_kept (grown : log <+: log') (found : log[position]? = some entry) :
    log'[position]? = some entry := by
  obtain ⟨lt, rfl⟩ := List.getElem?_eq_some_iff.mp found
  exact List.prefix_iff_getElem?.mp grown position lt

/-- Nothing changes for the reader when the log grows or more is excused. -/
theorem Consumed.mono (consumed : Consumed log Excused sent start cursor) (grown : log <+: log')
    (more : ∀ q, Excused q → Excused' q) : Consumed log' Excused' sent start cursor where
  start_le := consumed.start_le
  ordered := consumed.ordered
  inside item member := by
    obtain ⟨le, lt, found⟩ := consumed.inside item member
    exact ⟨le, lt, entry_kept grown found⟩
  passed q le lt := (consumed.passed q le lt).imp_right (more q)

/-- The cursor moves past positions that are all excused. -/
theorem Consumed.skip (consumed : Consumed log Excused sent start cursor) (le : cursor ≤ position)
    (excused : ∀ q, cursor ≤ q → q < position → Excused q) :
    Consumed log Excused sent start position where
  start_le := consumed.start_le.trans le
  ordered := consumed.ordered
  inside item member := by
    obtain ⟨from_, lt, found⟩ := consumed.inside item member
    exact ⟨from_, by omega, found⟩
  passed q from_ lt := by
    by_cases old : q < cursor
    · exact consumed.passed q from_ old
    · exact .inr (excused q (by omega) lt)

/-- The cursor moves past the entry it stands at, which is sent. -/
theorem Consumed.send (consumed : Consumed log Excused sent start position)
    (found : log[position]? = some entry) :
    Consumed log Excused (sent ++ [(position, entry)]) start (position + 1) where
  start_le := by have := consumed.start_le; omega
  ordered := by
    rw [List.map_append, List.pairwise_append]
    refine ⟨consumed.ordered, List.pairwise_singleton _ _, ?_⟩
    intro a earlier b last
    obtain ⟨item, member, rfl⟩ := List.mem_map.mp earlier
    obtain rfl : b = position := by simpa using last
    exact (consumed.inside item member).2.1
  inside item member := by
    rcases List.mem_append.mp member with old | new
    · obtain ⟨from_, lt, at_⟩ := consumed.inside item old
      exact ⟨from_, by omega, at_⟩
    · obtain rfl : item = (position, entry) := by simpa using new
      exact ⟨consumed.start_le, by omega, found⟩
  passed q from_ lt := by
    by_cases last : q = position
    · exact .inl ⟨entry, by simp [last]⟩
    · rcases consumed.passed q from_ (by omega) with ⟨body, member⟩ | excused
      · exact .inl ⟨body, List.mem_append_left _ member⟩
      · exact .inr excused

/-- Entries at increasing positions are a subsequence. -/
theorem sublist_of_increasing {positions : List Nat} {entries : List Entry} {base : Nat}
    (increasing : positions.Pairwise (· < ·)) (beyond : ∀ p ∈ positions, base ≤ p)
    (found : List.Forall₂ (fun entry (p : Nat) => log[p]? = some entry) entries positions) :
    entries.Sublist (log.drop base) := by
  induction found generalizing base with
  | nil => exact List.nil_sublist _
  | @cons entry p entries positions at_ found ih =>
    obtain ⟨later, increasing⟩ := List.pairwise_cons.mp increasing
    obtain ⟨lt, rfl⟩ := List.getElem?_eq_some_iff.mp at_
    have onward : (log[p] :: entries).Sublist (log.drop p) := by
      rw [List.drop_eq_getElem_cons lt]
      exact (ih increasing later).cons_cons _
    exact onward.trans (List.drop_sublist_drop_left log (beyond p List.mem_cons_self))

end Foundation
