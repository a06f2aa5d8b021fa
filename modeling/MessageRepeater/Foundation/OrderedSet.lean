import Mathlib.Data.List.Dedup
import Mathlib.Data.List.Perm.Subperm

/-!
# Ordered sets

A set that lists its entries in the order in which they came, the calls on it, and the account of what
becomes of an entry that was let in.
-/

namespace Foundation
variable {Entry : Type}

inductive SetCall (Entry : Type) where
  | insert (entry : Entry)
  | takeFirst
  | takeAll
  | nonempty
  | clear
  deriving DecidableEq, Repr

inductive SetAnswer (Entry : Type) where
  | inserted (new : Bool)
  | first (entry : Option Entry)
  | all (entries : List Entry)
  | nonempty (any : Bool)
  | cleared
  deriving DecidableEq, Repr

/-- A call with its answer and the entries that it found. -/
structure SetEvent (Entry : Type) where
  call : SetCall Entry
  answer : SetAnswer Entry
  found : List Entry
  deriving DecidableEq, Repr

inductive Fate where
  | taken | cleared
  deriving DecidableEq, Repr

/-- The entry that a call has let in. -/
def SetEvent.accepted (event : SetEvent Entry) : List Entry :=
  match event.call, event.answer with
  | .insert entry, .inserted true => [entry]
  | _, _ => []

/-- The entries that a call has taken out, in order. -/
def SetEvent.settled (event : SetEvent Entry) : List (Entry × Fate) :=
  match event.call, event.answer with
  | .takeFirst, .first (some entry) => [(entry, .taken)]
  | .takeAll, .all entries => entries.map fun entry => (entry, .taken)
  | .clear, _ => event.found.map fun entry => (entry, .cleared)
  | _, _ => []

/-- The entry that a call asks to let in. -/
def SetCall.offered : SetCall Entry → List Entry
  | .insert entry => [entry]
  | _ => []

@[ext]
structure OrderedSet (Entry : Type) where
  entries : List Entry := []
  distinct : entries.Nodup := by exact List.nodup_nil

namespace OrderedSet

def insert [DecidableEq Entry] (set : OrderedSet Entry) (entry : Entry) : Bool × OrderedSet Entry :=
  if absent : entry ∉ set.entries then
    (true, { entries := set.entries.concat entry, distinct := set.distinct.concat absent })
  else (false, set)

def takeFirst (set : OrderedSet Entry) : Option Entry × OrderedSet Entry :=
  (set.entries.head?, { entries := set.entries.tail, distinct := set.distinct.tail })

def perform [DecidableEq Entry] (set : OrderedSet Entry) :
    SetCall Entry → SetAnswer Entry × OrderedSet Entry
  | .insert entry => (.inserted (set.insert entry).1, (set.insert entry).2)
  | .takeFirst => (.first set.takeFirst.1, set.takeFirst.2)
  | .takeAll => (.all set.entries, {})
  | .nonempty => (.nonempty (!set.entries.isEmpty), set)
  | .clear => (.cleared, {})

/-- The calls in turn. -/
def performAll [DecidableEq Entry] :
    OrderedSet Entry → List (SetCall Entry) → List (SetEvent Entry) × OrderedSet Entry
  | set, [] => ([], set)
  | set, call :: calls =>
    let rest := (set.perform call).2.performAll calls
    ({ call, answer := (set.perform call).1, found := set.entries } :: rest.1, rest.2)

variable [DecidableEq Entry]

/-- One call: what was there and what is let in is what is taken out and what stays, in this order. -/
theorem perform_account (set : OrderedSet Entry) (call : SetCall Entry) :
    let event : SetEvent Entry := { call, answer := (set.perform call).1, found := set.entries }
    set.entries ++ event.accepted = event.settled.map Prod.fst ++ (set.perform call).2.entries := by
  cases call with
  | insert entry =>
    simp only [perform, insert]
    split <;> simp [SetEvent.accepted, SetEvent.settled]
  | takeFirst =>
    simp only [perform, takeFirst]
    cases set.entries <;> simp [SetEvent.accepted, SetEvent.settled]
  | takeAll | nonempty | clear => simp [perform, SetEvent.accepted, SetEvent.settled, Function.comp_def]

/-- Every entry that was let in is taken out once, or cleared, or still there: first come, first out. -/
theorem performAll_account (set : OrderedSet Entry) (calls : List (SetCall Entry)) :
    set.entries ++ (set.performAll calls).1.flatMap SetEvent.accepted =
      ((set.performAll calls).1.flatMap SetEvent.settled).map Prod.fst ++
        (set.performAll calls).2.entries := by
  induction calls generalizing set with
  | nil => simp [performAll]
  | cons call calls ih =>
    have first := perform_account set call
    have later := ih (set.perform call).2
    dsimp only at first
    simp only [performAll, List.flatMap_cons, List.map_append]
    rw [← List.append_assoc, first, List.append_assoc, later, List.append_assoc]

theorem perform_mem {set : OrderedSet Entry} {call : SetCall Entry} {entry : Entry}
    (member : entry ∈ (set.perform call).2.entries) : entry ∈ set.entries ∨ entry ∈ call.offered := by
  cases call with
  | insert new =>
    simp only [perform, insert] at member
    split at member
    · simpa [SetCall.offered] using member
    · exact .inl member
  | takeFirst => exact .inl (List.mem_of_mem_tail member)
  | nonempty => exact .inl member
  | takeAll | clear => cases member

theorem performAll_mem {set : OrderedSet Entry} {calls : List (SetCall Entry)} {entry : Entry}
    (member : entry ∈ (set.performAll calls).2.entries) :
    entry ∈ set.entries ∨ entry ∈ calls.flatMap SetCall.offered := by
  induction calls generalizing set with
  | nil => exact .inl member
  | cons call calls ih =>
    rw [List.flatMap_cons, List.mem_append]
    rcases ih member with held | offered
    · exact (perform_mem held).imp_right .inl
    · exact .inr (.inr offered)

/-- There are never more entries than different ones have been offered. -/
theorem performAll_length_le (calls : List (SetCall Entry)) :
    (({} : OrderedSet Entry).performAll calls).2.entries.length ≤
      (calls.flatMap SetCall.offered).dedup.length := by
  have offered : (({} : OrderedSet Entry).performAll calls).2.entries ⊆
      (calls.flatMap SetCall.offered).dedup := by
    intro entry member
    rw [List.mem_dedup]
    exact (performAll_mem member).resolve_left List.not_mem_nil
  exact ((OrderedSet.distinct _).subperm offered).length_le

end OrderedSet

end Foundation
