import MessageRepeater.Combiner.TopicStore
import MessageRepeater.Subscriber.ThreadFrames

/-!
# The topic store along a run

Every ring holds the end of its topic's log, and only the publishers change either.
-/

namespace MessageRepeater.Subscriber
open Foundation Combiner Config Connection

def Rings (s : State) : Prop := Holding s.store s.logs

theorem Rings.holds {s : State} (rings : Rings s) {topic : Topic} {ring : MessageCircle}
    (made : s.store.getCircle topic = some ring) : Holds ring (s.logs topic) :=
  Holding.holds rings made

theorem Rings.nextSequence {s : State} (rings : Rings s) (topic : Topic) :
    s.nextSequence topic = (s.logs topic).length := by
  unfold State.nextSequence
  cases made : s.store.getCircle topic with
  | none => rw [Holding.unmade rings made, List.length_nil]
  | some ring => exact (rings.holds made).next

theorem Rings.congr {s s' : State} (rings : Rings s) (store : s'.store = s.store)
    (logs : s'.logs = s.logs) : Rings s' := by
  unfold Rings at *
  rw [store, logs]
  exact rings

/-- What a publisher does to the store: make an empty ring, append one message, or nothing. -/
theorem publisherStep_rings {d : Deployment} {s s' : State} {id : Nat} {input : PublisherInput}
    (rings : Rings s) (taken : publisherStep d s id input = some s') :
    Rings s' ∧ ∀ t, s.logs t <+: s'.logs t := by
  have kept : ∀ t, s.logs t <+: s.logs t := fun t => List.prefix_rfl
  unfold publisherStep at taken
  split at taken
  case h_1 topic message _ =>
    split at taken
    · cases taken
    · cases taken
      exact ⟨rings, kept⟩
    · rename_i store created
      cases taken
      exact ⟨Holding.create rings created, kept⟩
  case h_2 topic _ =>
    split at taken
    · cases taken
    · rename_i made store created
      cases taken
      exact ⟨Holding.create rings created, kept⟩
  case h_4 topic message _ =>
    split at taken
    · cases taken
    · cases taken
      exact ⟨rings, kept⟩
    · rename_i store stored
      cases taken
      exact ⟨Holding.append rings stored, appendLog_prefix s.logs topic message⟩
  case h_7 => cases taken
  all_goals
    cases taken
    exact ⟨rings, kept⟩

theorem step_store {d : Deployment} {s s' : State} {action : Action}
    (taken : step d s action = some s') :
    (∃ id input, publisherStep d s id input = some s') ∨ (s'.store = s.store ∧ s'.logs = s.logs) := by
  by_cases publishes : ∃ id input, action = .publisher id input
  · obtain ⟨id, input, rfl⟩ := publishes
    exact .inl ⟨id, input, taken⟩
  · obtain ⟨store, logs, _⟩ := step_stores (fun id input same => publishes ⟨id, input, same⟩) taken
    exact .inr ⟨store, logs⟩

theorem step_rings {d : Deployment} {s s' : State} {action : Action} (rings : Rings s)
    (taken : step d s action = some s') : Rings s' ∧ ∀ t, s.logs t <+: s'.logs t := by
  rcases step_store taken with ⟨id, input, published⟩ | ⟨store, logs⟩
  · exact publisherStep_rings rings published
  · refine ⟨rings.congr store logs, fun t => ?_⟩
    rw [logs]

theorem initial_rings (d : Deployment) : Rings (initial d) := holding_init _

end MessageRepeater.Subscriber
