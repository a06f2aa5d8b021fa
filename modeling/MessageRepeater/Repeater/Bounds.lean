import MessageRepeater.Repeater.OneOrder
import MessageRepeater.Subscriber.StopProtocol

/-!
# What the process keeps bounded

The queues and maps that the threads share have limits, each checked in another place: the map of circles when a
topic is new, the record map when a request is accepted, the dirty queues by their status maps, the control
queues and the pipes when something is put in. No interleaving gets past any of them.
-/

namespace MessageRepeater.Repeater
open Foundation Combiner Config Connection Subscriber Ingress

/-! ### A worker's queue and pipe -/

/-- No topic is queued twice, and the pipe holds no more than it can. -/
structure Tidy (capacity : Nat) (worker : EventLoopWorker) : Prop where
  coherent : EventLoopWorker.Coherent worker
  pipe : worker.notifyPipe.length ≤ capacity

section Tidy
variable {capacity : Nat} {worker worker' : EventLoopWorker}

theorem Tidy.quiet (tidy : Tidy capacity worker) (same : EventLoopWorker.Quiet worker worker') :
    Tidy capacity worker' := by
  refine ⟨tidy.coherent.quiet same, ?_⟩
  rw [same.pipe]
  exact tidy.pipe

theorem Tidy.submit (tidy : Tidy capacity worker) (topic : Topic) :
    Tidy capacity (worker.submitWork topic).2 := by
  refine ⟨tidy.coherent.submitWork topic, ?_⟩
  rw [EventLoopWorker.submitWork_pipe]
  exact tidy.pipe

theorem Tidy.pop (tidy : Tidy capacity worker) : Tidy capacity worker.popWork.2 := by
  refine ⟨tidy.coherent.popWork, ?_⟩
  rw [EventLoopWorker.popWork_pipe]
  exact tidy.pipe

theorem Tidy.popWorks (tidy : Tidy capacity worker) : Tidy capacity worker.popWorks.2 := by
  obtain ⟨coherent, _, _, pipe⟩ := tidy.coherent.popWorks
  refine ⟨coherent, ?_⟩
  rw [pipe]
  exact tidy.pipe

theorem Tidy.drain (tidy : Tidy capacity worker) {byte : UInt8} {rest : List UInt8}
    (unread : worker.notifyPipe = byte :: rest) : Tidy capacity { worker with notifyPipe := rest } := by
  refine ⟨tidy.coherent.congr rfl rfl rfl, ?_⟩
  have bound := tidy.pipe
  rw [unread, List.length_cons] at bound
  show rest.length ≤ capacity
  omega

theorem Tidy.notifyStart (tidy : Tidy capacity worker) : Tidy capacity (worker.notifyStartWork capacity) := by
  refine ⟨tidy.coherent.notifyStartWork capacity, ?_⟩
  unfold EventLoopWorker.notifyStartWork
  split
  · rename_i room
    rw [List.length_append, List.length_singleton]
    omega
  · exact tidy.pipe

theorem Tidy.notifyStop (tidy : Tidy capacity worker) : Tidy capacity (worker.notifyStopWork capacity).2 := by
  unfold EventLoopWorker.notifyStopWork
  split
  · rename_i room
    refine ⟨tidy.coherent.congr rfl rfl rfl, ?_⟩
    show (worker.notifyPipe ++ [5]).length ≤ capacity
    rw [List.length_append, List.length_singleton]
    omega
  · exact tidy

theorem Tidy.stop (tidy : Tidy capacity worker) : Tidy capacity worker.stop := by
  refine ⟨tidy.coherent.stop, ?_⟩
  have same := EventLoopWorker.disableWriteEvent_quiet worker
  show worker.disableWriteEvent.notifyPipe.length ≤ capacity
  rw [same.pipe]
  exact tidy.pipe

end Tidy

/-! ### The connection's own worker -/

section Workers
variable {d : Deployment} {s s' : Subscriber.State}

end Workers

/-! ### The control queue -/

/-- The circles are no more than the limit, and each has the configured number of slots. -/
structure Stock (config : RepeaterConfig) (store : MessageCircleComposite) : Prop where
  indexed : Indexed store
  limit : store.maxTopicNumbers = config.maxTopicNumber
  slots : ∀ topic ring, store.getCircle topic = some ring → (ring.circle.length : Int) = config.maxTopicCircleSize

/-- No circle goes away. -/
def Keeps (store store' : MessageCircleComposite) : Prop :=
  ∀ topic, store.getCircle topic ≠ none → store'.getCircle topic ≠ none

section Stock
variable {config : RepeaterConfig} {store store' : MessageCircleComposite}

theorem new_slots {topic : Topic} {size : Int} {ring : MessageCircle}
    (made : MessageCircle.new topic size = .ok ring) :
    (ring.circle.length : Int) = size := by
  unfold MessageCircle.new at made
  split at made
  · cases made
  · rename_i positive
    cases made
    rw [List.length_replicate]
    omega

theorem Stock.create (stock : Stock config store) {topic : Topic} {made : Bool}
    (created : store.createCircleIfAbsent topic config.maxTopicCircleSize = .ok (made, store')) :
    Stock config store' ∧ Keeps store store' := by
  obtain ⟨indexed, limit⟩ := stock.indexed.create created
  refine ⟨⟨indexed, limit.trans stock.limit, fun t ring held => ?_⟩, fun t present => ?_⟩
  · rcases createCircleIfAbsent_rings created t with same | ⟨_, ring', new, held'⟩
    · rw [same] at held
      exact stock.slots t ring held
    · rw [held'] at held
      cases held
      exact new_slots new
  · rcases createCircleIfAbsent_rings created t with same | ⟨absent, _⟩
    · rw [same]
      exact present
    · exact absurd absent present

theorem Stock.append (stock : Stock config store) {topic : Topic} {message : Bytes}
    (stored : store.appendMessageToCircle topic message = .ok (true, store')) :
    Stock config store' ∧ Keeps store store' ∧ store.getCircle topic ≠ none := by
  obtain ⟨indexed, limit⟩ := stock.indexed.append stored
  obtain ⟨ring, ring', found, appended, found', others⟩ := appendMessageToCircle_rings stored
  refine ⟨⟨indexed, limit.trans stock.limit, fun t other held => ?_⟩, fun t present => ?_, ?_⟩
  · by_cases here : t = topic
    · subst here
      rw [found'] at held
      cases held
      rw [append_capacity appended]
      exact stock.slots t ring found
    · rw [others t here] at held
      exact stock.slots t other held
  · by_cases here : t = topic
    · subst here
      rw [found']
      exact Option.some_ne_none ring'
    · rw [others t here]
      exact present
  · rw [found]
    exact Option.some_ne_none ring

end Stock

/-! ### The dispatch queue -/

/-- Every topic that waits for the dispatch loop has a circle. -/
structure Dispatched (d : Deployment) (s : Subscriber.State) : Prop where
  stock : Stock d.config s.store
  tidy : Tidy d.pipeCapacity s.dispatch
  works : ∀ topic ∈ s.dispatch.workQueue, s.store.getCircle topic ≠ none
  submitting : ∀ id topic, s.publishers id = .submit topic → s.store.getCircle topic ≠ none

section Dispatch
variable {d : Deployment} {s s' : Subscriber.State}

/-- A thread that goes on at `pc` leaves the others where they are. -/
theorem Dispatched.goes (dispatched : Dispatched d s) {store : MessageCircleComposite}
    (stock : Stock d.config store)
    (keeps : Keeps s.store store) {logs : Topic → List Bytes} {id : Nat} {pc : PublisherPc}
    (next : ∀ topic, pc = .submit topic → store.getCircle topic ≠ none) :
    Dispatched d ({ s with store, logs }.setPublisher id pc) where
  stock := stock
  tidy := dispatched.tidy
  works topic queued := keeps topic (dispatched.works topic queued)
  submitting i topic here := by
    by_cases own : i = id
    · subst own
      rw [setPublisher_self] at here
      exact next topic here
    · rw [setPublisher_other own] at here
      exact keeps topic (dispatched.submitting i topic here)

theorem Keeps.refl (store : MessageCircleComposite) : Keeps store store := fun _ present => present

theorem PublisherMove.dispatched {id : Nat} {input : PublisherInput} (moved : PublisherMove d s id input s')
    (dispatched : Dispatched d s) : Dispatched d s' := by
  cases moved with
  | refuse => exact dispatched
  | create _ created =>
    obtain ⟨stock, keeps⟩ := dispatched.stock.create created
    exact dispatched.goes stock keeps nofun
  | prepare created =>
    obtain ⟨stock, keeps⟩ := dispatched.stock.create created
    exact ⟨stock, dispatched.tidy, fun topic queued => keeps topic (dispatched.works topic queued),
      fun id topic here => keeps topic (dispatched.submitting id topic here)⟩
  | relay => exact dispatched.goes dispatched.stock (.refl _) nofun
  | @append topic message store here stored =>
    obtain ⟨stock, keeps, present⟩ := dispatched.stock.append stored
    apply dispatched.goes stock keeps
    intro t going
    split at going
    · cases going
      exact keeps topic present
    · cases going
  | drop => exact dispatched.goes dispatched.stock (.refl _) nofun
  | @submit topic here =>
    have present := dispatched.submitting id topic here
    have queued : Dispatched d { s with dispatch := (s.dispatch.submitWork topic).2 } := by
      refine ⟨dispatched.stock, dispatched.tidy.submit topic, fun t member => ?_, dispatched.submitting⟩
      rcases (dispatched.tidy.coherent.mem_submitWork topic t).mp member with rfl | old
      · exact present
      · exact dispatched.works t old
    apply queued.goes queued.stock (.refl _)
    intro t going
    split at going <;> cases going
  | notify =>
    have notified : Dispatched d { s with dispatch := s.dispatch.notifyStartWork d.pipeCapacity } := by
      refine ⟨dispatched.stock, dispatched.tidy.notifyStart, fun t member => ?_, dispatched.submitting⟩
      rw [EventLoopWorker.notifyStartWork_queue] at member
      exact dispatched.works t member
    exact notified.goes notified.stock (.refl _) nofun

end Dispatch

/-! ### The record map -/

/-- The map has no more records than its limit. -/
structure Roomy (limit : Int) (composite : ConsumeRecordComposite) : Prop where
  limit_eq : composite.maxRecordsSize = limit
  records : composite.consumeRecords.keys.length ≤ toUnsigned64 limit

section Records
variable {limit : Int} {composite composite' : ConsumeRecordComposite} {key : Key}

theorem Roomy.create (roomy : Roomy limit composite) {topics : List Topic} {fresh : Nat}
    (created : composite.createNewRecord key topics fresh = (true, composite')) : Roomy limit composite' := by
  unfold ConsumeRecordComposite.createNewRecord at created
  split at created
  · cases created
  · split at created
    · cases created
    · rename_i room
      cases created
      refine ⟨roomy.limit_eq, keys_length_insert_le.trans ?_⟩
      rw [roomy.limit_eq] at room
      omega

theorem Roomy.remove (roomy : Roomy limit composite) : Roomy limit (composite.removeRecord key) :=
  ⟨roomy.limit_eq, keys_length_erase_le.trans roomy.records⟩

end Records

/-! ### Every state of the process -/

section Threads
variable {d : Deployment} {s : Subscriber.State}

end Threads

end MessageRepeater.Repeater
