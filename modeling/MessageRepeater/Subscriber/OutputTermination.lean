import Mathlib.Data.Prod.Lex
import MessageRepeater.Subscriber.OutputCall

/-!
# processEventLoopOutput terminates

Each turn of the loop completes a frame, or takes a topic off the queue for good, or returns; a
completed frame puts at most one topic back. So the frames left to the callback, the topics queued or in
hand, the program counter and the bytes of the pending frame fall in lexicographic order.
-/

namespace MessageRepeater.Subscriber
open Foundation Combiner Config Connection

/-! ### Frames and topics -/

/-- The frame counter is the number of completed frames. -/
def LoopPc.Counts (completed : Nat) : LoopPc → Prop
  | .entry | .cacheTest | .cacheGet => completed = 0
  | .flush frames _ | .subscribedTest frames | .popWork frames | .getCircle frames _
  | .deliver frames _ _ => completed = frames ∧ frames < maxFramesPerCallback
  | .requeueCircle frames _ | .requeueMeta frames _ | .requeueNext frames _ _
  | .requeueSubmit frames _ => completed = frames ∧ frames ≤ maxFramesPerCallback
  | _ => completed ≤ maxFramesPerCallback

theorem LoopPc.Counts.le {completed : Nat} {pc : LoopPc} (counts : pc.Counts completed) :
    completed ≤ maxFramesPerCallback := by
  cases pc <;> simp only [LoopPc.Counts] at counts <;> omega

/-- With `queued` topics at the start: a topic that is popped was queued then, or was put back after
a frame. -/
structure Tally (queued completed popped : Nat) (s : State) (pc : LoopPc) : Prop where
  at_ : s.writer = .loop pc
  frames : pc.Counts completed
  topics : popped + s.worker.workQueue.length + pc.requeuing.isSome.toNat ≤ queued + completed

/-- What a call knows when it is not about to requeue a topic. -/
structure Even (queued completed popped : Nat) (s : State) : Prop where
  frames : completed ≤ maxFramesPerCallback
  topics : popped + s.worker.workQueue.length ≤ queued + completed

section
variable {queued completed popped frames : Nat} {s : State}

theorem Tally.even {pc : LoopPc} (tally : Tally queued completed popped s pc) :
    Even queued completed popped s :=
  ⟨tally.frames.le, by have := tally.topics; omega⟩

theorem Even.congr {s' : State} (even : Even queued completed popped s)
    (shrinks : s'.worker.workQueue.length ≤ s.worker.workQueue.length) :
    Even queued completed popped s' :=
  ⟨even.frames, by have := even.topics; omega⟩

theorem Even.goLoop {pc : LoopPc} (even : Even queued completed popped s) (counts : pc.Counts completed)
    (settled : pc.requeuing = none) : Tally queued completed popped (s.goLoop pc) pc :=
  ⟨rfl, counts, by rw [settled]; exact even.topics⟩

theorem Even.leave (even : Even queued completed popped s) :
    ∃ pc, Tally queued completed popped s.leave pc := by
  refine ⟨.waiting, rfl, even.frames, ?_⟩
  have quiet := (EventLoopWorker.disableWriteEvent_quiet s.worker).queue
  rw [State.leave, quiet]
  exact even.topics

theorem Even.nextFrame (even : Even queued completed popped s) (counted : completed = frames) :
    ∃ pc, Tally queued completed popped (s.nextFrame frames) pc := by
  unfold State.nextFrame
  split
  · rename_i room
    exact ⟨_, even.goLoop ⟨counted, room⟩ rfl⟩
  · refine ⟨.hasControl, rfl, even.frames, ?_⟩
    have quiet := (EventLoopWorker.disableWriteEvent_quiet s.worker).queue
    rw [quiet]
    exact even.topics

/-- The frame just completed makes up for the topic that goes back. -/
theorem Even.requeue {topic : Topic} (even : Even queued completed popped s)
    (counted : completed = frames) (room : frames < maxFramesPerCallback) :
    ∃ pc, Tally queued (completed + 1) popped (s.requeue (frames + 1) topic) pc := by
  have next : Even queued (completed + 1) popped s := ⟨by omega, by have := even.topics; omega⟩
  unfold State.requeue
  split
  · exact next.nextFrame (congrArg (· + 1) counted)
  · refine ⟨.requeueCircle (frames + 1) topic, rfl, ⟨congrArg (· + 1) counted, room⟩, ?_⟩
    exact Nat.succ_le_succ even.topics

end

theorem submitWork_length (worker : EventLoopWorker) (topic : Topic) :
    (worker.submitWork topic).2.workQueue.length ≤ worker.workQueue.length + 1 := by
  unfold EventLoopWorker.submitWork
  split
  · exact Nat.le_succ _
  · split
    · exact Nat.le_succ _
    · dsimp only
      split <;> simp [EventLoopWorker.setStatus]

theorem OutputMove.tally {d : Deployment} {s s' : State} {outcome : CallOutcome} {pc : LoopPc}
    {event : Option OutputEvent} {queued completed popped : Nat}
    (move : OutputMove d s outcome pc event s') (tally : Tally queued completed popped s pc) :
    ∃ pc', Tally queued (completed + event.toList.count .completed)
      (popped + event.toList.count .popped) s' pc' := by
  have even := tally.even
  have counts := tally.frames
  cases move with
  | dead | unsubscribed | drained => exact even.leave
  | enter | lookup | subscribed | made => exact ⟨_, even.goLoop counts rfl⟩
  | cached | unmade => exact even.nextFrame (by first | exact counts | exact counts.1)
  | cache =>
    have even : Even queued completed popped { s with record := s.composite.getRecord d.key } :=
      even.congr le_rfl
    exact even.nextFrame counts
  | @flush frames pc link control taken =>
    have even : Even queued completed popped { s with link } := even.congr le_rfl
    rcases control with pc' | ⟨status, topic⟩
    · exact ⟨_, even.goLoop counts rfl⟩
    · cases status with
      | complete => exact even.requeue counts.1 counts.2
      | idle => exact ⟨_, even.goLoop counts rfl⟩
      | wouldBlock | error => exact ⟨_, even.goLoop even.frames rfl⟩
  | @popped frames topic worker queue =>
    refine ⟨_, rfl, counts, ?_⟩
    have topics := even.topics
    rw [queue, List.length_cons] at topics
    show popped + 1 + worker.workQueue.length + 0 ≤ queued + completed
    omega
  | @deliver frames topic pc record link control cached taken =>
    have even : Even queued completed popped { s with link } := even.congr le_rfl
    rcases control with pc' | status
    · exact ⟨_, even.goLoop counts rfl⟩
    · cases status with
      | delivered => exact even.requeue counts.1 counts.2
      | noMessage => exact even.nextFrame counts.1
      | wouldBlock | disconnect => exact ⟨_, even.goLoop even.frames rfl⟩
  | armed queue | unarmed queue =>
    exact ⟨_, (even.congr (le_of_eq (congrArg List.length queue))).goLoop even.frames rfl⟩
  | @forget _ frames at_ =>
    refine even.nextFrame ?_
    cases pc <;> cases at_ <;> exact counts.1
  | requeueMeta | requeueNext | requeueSubmit => exact ⟨_, rfl, counts, tally.topics⟩
  | @submit frames topic =>
    have longer := submitWork_length s.worker topic
    have submitted : Even queued completed popped
        { s with worker := (s.worker.submitWork topic).2 } :=
      ⟨even.frames, (Nat.add_le_add_left longer popped).trans tally.topics⟩
    exact submitted.nextFrame counts.1
  | control | clear | works | rest | unnotified => exact ⟨_, even.goLoop even.frames rfl⟩
  | notify =>
    have queue := EventLoopWorker.notifyStartWork_queue s.worker d.pipeCapacity
    exact ⟨_, (even.congr (le_of_eq (congrArg List.length queue))).goLoop even.frames rfl⟩
  | dropSubscribed =>
    have even : Even queued completed popped { s with subscribed := false } := even.congr le_rfl
    exact ⟨_, even.goLoop even.frames rfl⟩
  | dropAlive =>
    have even : Even queued completed popped { s with alived := false } := even.congr le_rfl
    exact ⟨_, even.goLoop even.frames rfl⟩
  | dropShutdown =>
    have queue := (EventLoopWorker.disableWriteEvent_quiet s.worker).queue
    exact ⟨_, (even.congr (le_of_eq (congrArg List.length queue))).goLoop even.frames rfl⟩
  | dropStop => exact ⟨_, (even.congr (Nat.zero_le _)).goLoop even.frames rfl⟩

/-! ### The rank of a state -/

def FlushPc.stage : FlushPc → Nat
  | .take => 2
  | .send => 1
  | .commit => 0

def DeliverPc.stage : DeliverPc → Nat
  | .getMeta => 5
  | .circleMeta | .read _ => 4
  | .initializeTopic _ | .updateEmpty _ => 3
  | .flush pc => pc.stage

/-- How far the loop is from the end of its turn. -/
def LoopPc.stage : LoopPc → Nat
  | .entry => 27
  | .cacheTest => 26
  | .cacheGet => 25
  | .requeueCircle _ _ => 24
  | .requeueMeta _ _ => 23
  | .requeueNext _ _ _ => 22
  | .requeueSubmit _ _ => 21
  | .flush _ pc => 18 + pc.stage
  | .subscribedTest _ => 17
  | .popWork _ => 16
  | .getCircle _ _ => 15
  | .deliver _ _ pc => 9 + pc.stage
  | .hasControl => 8
  | .hasWorks => 7
  | .notifySelf => 6
  | .enableWrite => 5
  | .dropSubscribed => 4
  | .dropAlive => 3
  | .dropShutdown => 2
  | .dropStop => 1
  | _ => 0

/-- The frames that the callback may still complete. -/
def LoopPc.framesLeft : LoopPc → Nat
  | .entry | .cacheTest | .cacheGet => maxFramesPerCallback + 1
  | .flush frames _ | .subscribedTest frames | .popWork frames | .getCircle frames _
  | .deliver frames _ _ | .requeueCircle frames _ | .requeueMeta frames _ | .requeueNext frames _ _
  | .requeueSubmit frames _ => maxFramesPerCallback - frames
  | _ => 0

/-- The topic off the queue that the loop works on, or is about to put back. -/
def LoopPc.inHand : LoopPc → Nat
  | .getCircle _ _ | .deliver _ _ _ | .requeueCircle _ _ | .requeueMeta _ _ | .requeueNext _ _ _
  | .requeueSubmit _ _ => 1
  | _ => 0

def State.rank (s : State) : Nat ×ₗ Nat ×ₗ Nat ×ₗ Nat :=
  match s.writer with
  | .normal _ => toLex (0, toLex (0, toLex (0, 0)))
  | .loop pc =>
    toLex (pc.framesLeft, toLex (s.worker.workQueue.length + pc.inHand,
      toLex (pc.stage, s.link.output.bytesLeft)))

section
variable {s s' : State} {pc pc' : LoopPc}

theorem rank_lt (at_ : s.writer = .loop pc) (next : s'.writer = .loop pc')
    (lower : pc'.framesLeft < pc.framesLeft ∨ pc'.framesLeft = pc.framesLeft ∧
      (s'.worker.workQueue.length + pc'.inHand < s.worker.workQueue.length + pc.inHand ∨
        s'.worker.workQueue.length + pc'.inHand = s.worker.workQueue.length + pc.inHand ∧
        (pc'.stage < pc.stage ∨ pc'.stage = pc.stage ∧
          s'.link.output.bytesLeft < s.link.output.bytesLeft))) :
    s'.rank < s.rank := by
  simp only [State.rank, at_, next, Prod.Lex.toLex_lt_toLex]
  exact lower

/-- The next instruction of the turn, with no more topics than before. -/
theorem goLoop_rank (at_ : s.writer = .loop pc) (frames : pc'.framesLeft ≤ pc.framesLeft)
    (queue : s'.worker.workQueue.length + pc'.inHand ≤ s.worker.workQueue.length + pc.inHand)
    (stage : pc'.stage < pc.stage) : (s'.goLoop pc').rank < s.rank := by
  refine rank_lt at_ rfl ?_
  show pc'.framesLeft < _ ∨ _ ∧ (s'.worker.workQueue.length + _ < _ ∨ s'.worker.workQueue.length + _ = _ ∧ _)
  omega

theorem leave_rank (at_ : s.writer = .loop pc) (stage : 0 < pc.stage) : s.leave.rank < s.rank := by
  have queue := (EventLoopWorker.disableWriteEvent_quiet s.worker).queue
  have left : s.leave = { s with worker := s.worker.disableWriteEvent }.goLoop .waiting := rfl
  rw [left]
  refine goLoop_rank at_ (Nat.zero_le _) ?_ stage
  show s.worker.disableWriteEvent.workQueue.length + 0 ≤ _
  rw [queue]
  exact Nat.le_add_right _ _

/-- The next turn of the loop, if the turn before has completed a frame or used a topic up. -/
theorem nextFrame_rank {frames : Nat} (at_ : s.writer = .loop pc)
    (lower : maxFramesPerCallback - frames < pc.framesLeft ∨
      maxFramesPerCallback - frames = pc.framesLeft ∧
        (s'.worker.workQueue.length < s.worker.workQueue.length + pc.inHand ∨
          s'.worker.workQueue.length = s.worker.workQueue.length + pc.inHand ∧ 20 < pc.stage)) :
    (s'.nextFrame frames).rank < s.rank := by
  unfold State.nextFrame
  split
  · refine rank_lt at_ (goLoop_writer s' _) ?_
    show maxFramesPerCallback - frames < _ ∨ maxFramesPerCallback - frames = _ ∧
      (s'.worker.workQueue.length + 0 < _ ∨ s'.worker.workQueue.length + 0 = _ ∧ (20 < _ ∨ _))
    omega
  · have queue := (EventLoopWorker.disableWriteEvent_quiet s'.worker).queue
    refine rank_lt at_ (goLoop_writer { s' with worker := s'.worker.disableWriteEvent } .hasControl) ?_
    show 0 < _ ∨ 0 = _ ∧ (s'.worker.disableWriteEvent.workQueue.length + 0 < _ ∨
      s'.worker.disableWriteEvent.workQueue.length + 0 = _ ∧ (8 < _ ∨ _))
    rw [queue]
    omega

theorem requeue_rank {frames : Nat} {topic : Topic} (at_ : s.writer = .loop pc)
    (lower : maxFramesPerCallback - frames < pc.framesLeft) :
    (s'.requeue frames topic).rank < s.rank := by
  unfold State.requeue
  split
  · exact nextFrame_rank at_ (.inl lower)
  · exact rank_lt at_ (goLoop_writer s' _) (.inl lower)

end

/-- `flushPendingFrame` goes on to its next instruction, or in the loop of `send` with fewer bytes
left, unless a signal has interrupted it. -/
theorem flushStep_falls {link link' : Link} {record : Option Nat} {outcome : CallOutcome}
    {pc pc' : FlushPc} (taken : flushStep link record outcome pc = some (link', .goto pc')) :
    pc'.stage < pc.stage ∨ (pc = .send ∧ pc' = .send ∧
      (link'.output.bytesLeft < link.output.bytesLeft ∨
        outcome = .interrupted ∧ 0 < link.output.bytesLeft ∧ link' = link)) := by
  cases pc with
  | take =>
    simp only [flushStep] at taken
    split at taken <;> cases taken <;> exact .inl (by decide)
  | commit =>
    simp only [flushStep] at taken
    split at taken
    · cases taken
    · split at taken
      · split at taken <;> cases taken
      · cases taken
  | send =>
    simp only [flushStep] at taken
    split at taken
    · cases taken
    · rename_i frame pending
      have left : link.output.bytesLeft = frame.data.length - frame.offset := by
        simp only [SubscriberOutputState.bytesLeft, pending]
      split at taken
      · cases taken
        exact .inl (by decide)
      · split at taken
        · split at taken <;> cases taken
          rename_i count within
          have rest : (link.accept frame count).output.bytesLeft =
              frame.data.length - (frame.offset + count) := rfl
          exact .inr ⟨rfl, rfl, .inl (by omega)⟩
        · cases taken
          exact .inr ⟨rfl, rfl, .inr ⟨rfl, by omega, rfl⟩⟩
        · cases taken
        · cases taken

theorem goLoop_self {s : State} {pc : LoopPc} (at_ : s.writer = .loop pc) : s.goLoop pc = s := by
  rw [State.goLoop, ← at_]

theorem deliverStep_falls {config : RepeaterConfig} {store : MessageCircleComposite}
    {link link' : Link} {record : Nat} {topic : Topic} {outcome : CallOutcome} {pc pc' : DeliverPc}
    (taken : deliverStep config store link record topic outcome pc = some (link', .goto pc')) :
    pc'.stage < pc.stage ∨ (pc = .flush .send ∧ pc' = .flush .send ∧
      (link'.output.bytesLeft < link.output.bytesLeft ∨
        outcome = .interrupted ∧ 0 < link.output.bytesLeft ∧ link' = link)) := by
  cases pc with
  | flush pc =>
    simp only [deliverStep] at taken
    split at taken
    · cases taken
    · rename_i link₁ control flushed
      rcases control with pc₁ | ⟨status, completed⟩
      · cases taken
        rcases flushStep_falls flushed with falls | ⟨rfl, rfl, falls⟩
        · exact .inl falls
        · exact .inr ⟨rfl, rfl, falls⟩
      · cases status <;> cases taken
  | getMeta | circleMeta | initializeTopic | read | updateEmpty =>
    refine .inl ?_
    cases deliverStep_move taken <;> simp [DeliverPc.stage, FlushPc.stage]

/-- Every step of a call lowers the rank, but for a `send` that is interrupted. -/
theorem OutputMove.rank {d : Deployment} {s s' : State} {outcome : CallOutcome} {pc : LoopPc}
    {event : Option OutputEvent} {queued completed popped : Nat}
    (move : OutputMove d s outcome pc event s') (tally : Tally queued completed popped s pc) :
    s'.rank < s.rank ∨ (outcome = .interrupted ∧ pc.sending = true ∧ 0 < s.link.output.bytesLeft ∧
      s'.rank = s.rank) := by
  have at_ := tally.at_
  have counts := tally.frames
  cases move with
  | dead | unsubscribed | drained => exact .inl (leave_rank at_ (by simp [LoopPc.stage]))
  | enter | lookup | subscribed | made | clear | control | works | rest | unnotified =>
    exact .inl (goLoop_rank at_ le_rfl le_rfl (by simp [LoopPc.stage, DeliverPc.stage]))
  | cached | cache => exact .inl (nextFrame_rank at_ (.inl (by simp [LoopPc.framesLeft])))
  | unmade =>
    exact .inl (nextFrame_rank at_ (.inr ⟨rfl, .inl (by simp [LoopPc.inHand])⟩))
  | @flush frames pc link control taken =>
    have left : maxFramesPerCallback - (frames + 1) < maxFramesPerCallback - frames := by
      have := counts.2
      omega
    rcases control with pc' | ⟨status, topic⟩
    · rcases flushStep_falls taken with falls | ⟨rfl, rfl, falls | ⟨rfl, some_, rfl⟩⟩
      · exact .inl (goLoop_rank at_ le_rfl le_rfl (Nat.add_lt_add_left falls 18))
      · exact .inl (rank_lt at_ rfl (.inr ⟨rfl, .inr ⟨rfl, .inr ⟨rfl, falls⟩⟩⟩))
      · exact .inr ⟨rfl, rfl, some_, congrArg State.rank (goLoop_self at_)⟩
    · cases status with
      | complete => exact .inl (requeue_rank at_ left)
      | idle => exact .inl (goLoop_rank at_ le_rfl le_rfl (by simp [LoopPc.stage]; omega))
      | wouldBlock | error =>
        exact .inl (goLoop_rank at_ (Nat.zero_le _) le_rfl (by simp [LoopPc.stage]; omega))
  | @popped frames topic worker queue =>
    refine .inl (goLoop_rank at_ le_rfl ?_ (by simp [LoopPc.stage]))
    rw [queue]
    exact le_rfl
  | @deliver frames topic pc record link control cached taken =>
    have left : maxFramesPerCallback - (frames + 1) < maxFramesPerCallback - frames := by
      have := counts.2
      omega
    rcases control with pc' | status
    · rcases deliverStep_falls taken with falls | ⟨rfl, rfl, falls | ⟨rfl, some_, rfl⟩⟩
      · exact .inl (goLoop_rank at_ le_rfl le_rfl (Nat.add_lt_add_left falls 9))
      · exact .inl (rank_lt at_ rfl (.inr ⟨rfl, .inr ⟨rfl, .inr ⟨rfl, falls⟩⟩⟩))
      · exact .inr ⟨rfl, rfl, some_, congrArg State.rank (goLoop_self at_)⟩
    · cases status with
      | delivered => exact .inl (requeue_rank at_ left)
      | noMessage => exact .inl (nextFrame_rank at_ (.inr ⟨rfl, .inl (Nat.lt_succ_self _)⟩))
      | wouldBlock | disconnect =>
        exact .inl (goLoop_rank at_ (Nat.zero_le _) (Nat.le_succ _) (by simp [LoopPc.stage]; omega))
  | armed queue | unarmed queue =>
    refine .inl (goLoop_rank at_ le_rfl ?_ (by simp [LoopPc.stage]))
    exact le_of_eq (congrArg List.length queue)
  | @forget _ frames requeuing =>
    refine .inl (nextFrame_rank at_ (.inr ?_))
    cases pc <;> cases requeuing <;> exact ⟨rfl, .inl (Nat.lt_succ_self _)⟩
  | requeueMeta | requeueNext | requeueSubmit =>
    exact .inl (goLoop_rank at_ le_rfl le_rfl (by simp [LoopPc.stage]))
  | @submit frames topic =>
    have longer := submitWork_length s.worker topic
    refine .inl (nextFrame_rank at_ (.inr ⟨rfl, ?_⟩))
    exact (Nat.lt_or_eq_of_le longer).imp_right fun same => ⟨same, by simp [LoopPc.stage]⟩
  | notify =>
    have queue := EventLoopWorker.notifyStartWork_queue s.worker d.pipeCapacity
    refine .inl (goLoop_rank at_ le_rfl ?_ (by simp [LoopPc.stage]))
    exact le_of_eq (congrArg List.length queue)
  | dropSubscribed | dropAlive =>
    exact .inl (goLoop_rank at_ le_rfl le_rfl (by simp [LoopPc.stage]))
  | dropShutdown =>
    have queue := (EventLoopWorker.disableWriteEvent_quiet s.worker).queue
    refine .inl (goLoop_rank at_ le_rfl ?_ (by simp [LoopPc.stage]))
    exact le_of_eq (congrArg List.length queue)
  | dropStop => exact .inl (goLoop_rank at_ le_rfl (Nat.zero_le _) (by simp [LoopPc.stage]))

/-! ### The other threads -/

theorem publisherStep_made {d : Deployment} {s s' : State} {id : Nat} {input : PublisherInput}
    (taken : publisherStep d s id input = some s') {topic : Topic}
    (made : s.store.getCircle topic ≠ none) : s'.store.getCircle topic ≠ none := by
  have created : ∀ {t : Topic} {flag : Bool} {store : MessageCircleComposite},
      s.store.createCircleIfAbsent t d.config.maxTopicCircleSize = .ok (flag, store) →
      store.getCircle topic ≠ none := fun created => by
    rcases createCircleIfAbsent_rings created topic with same | ⟨absent, _⟩
    · rw [same]
      exact made
    · exact absurd absent made
  unfold publisherStep at taken
  split at taken
  case h_1 =>
    split at taken <;> cases taken
    · exact made
    · exact created ‹_›
  case h_2 =>
    split at taken <;> cases taken
    exact created ‹_›
  case h_4 appended message _ =>
    split at taken <;> cases taken
    · exact made
    · rename_i store stored
      obtain ⟨_, ring, _, _, held, others⟩ := appendMessageToCircle_rings stored
      show store.getCircle topic ≠ none
      by_cases same : topic = appended
      · rw [same, held]
        exact Option.some_ne_none ring
      · rw [others topic same]
        exact made
  case h_7 => cases taken
  all_goals
    cases taken
    exact made

theorem step_made {d : Deployment} {s s' : State} {action : Action}
    (taken : step d s action = some s') {topic : Topic} (made : s.store.getCircle topic ≠ none) :
    s'.store.getCircle topic ≠ none := by
  rcases step_store taken with ⟨id, input, published⟩ | ⟨store, _⟩
  · exact publisherStep_made published made
  · rw [store]
    exact made

/-- What a step of another thread leaves to the call. -/
structure Bystander (s s' : State) : Prop where
  writer : s'.writer = s.writer
  record : s'.record = s.record
  alived : s'.alived = true → s.alived = true
  made : ∀ {topic}, s.store.getCircle topic ≠ none → s'.store.getCircle topic ≠ none
  queue : s'.worker.workQueue = s.worker.workQueue
  output : s'.link.output = s.link.output
  subscribed : s'.subscribed = s.subscribed

theorem step_bystander {d : Deployment} {s s' : State} {action : Action}
    (foreign : action.foreign = true) (undisturbed : s.undisturbed s' = true)
    (taken : step d s action = some s') : Bystander s s' := by
  obtain ⟨queue, output, subscribed⟩ := of_decide_eq_true undisturbed
  obtain ⟨writer, record⟩ :=
    step_writer (by rintro _ rfl; cases foreign) (by rintro rfl; cases foreign) taken
  exact ⟨writer, record, step_alived taken, step_made taken, queue, output, subscribed⟩

theorem callStep_bystander {d : Deployment} {c c' : OutputCall} {action : Action}
    (alone : Alone d c (.other action)) (taken : callStep d c (.other action) = some c') :
    ∃ s', c.returned = false ∧ Bystander c.state s' ∧ c' = c.advance d s' none := by
  obtain ⟨s', going, stepped, rfl⟩ := callStep_other taken
  obtain ⟨foreign, kept⟩ := alone
  rw [stepped] at kept
  exact ⟨s', going, step_bystander foreign kept stepped, rfl⟩

section
variable {s s' : State} (bystander : Bystander s s')
include bystander

theorem Bystander.rank : s'.rank = s.rank := by
  unfold State.rank
  rw [bystander.writer, bystander.queue, bystander.output]

theorem Bystander.tally {queued completed popped : Nat} {pc : LoopPc}
    (tally : Tally queued completed popped s pc) : Tally queued completed popped s' pc :=
  ⟨bystander.writer.trans tally.at_, tally.frames, by rw [bystander.queue]; exact tally.topics⟩

theorem Bystander.poised (poised : Poised s) : Poised s' := by
  obtain ⟨pc, at_, poised⟩ := poised
  refine ⟨pc, bystander.writer.trans at_, ?_⟩
  have dead : s.alived = false → s'.alived = false := fun dead =>
    Bool.eq_false_iff.mpr fun alive => Bool.eq_false_iff.mp dead (bystander.alived alive)
  cases pc <;> simp only [LoopPoised, bystander.output, bystander.record, bystander.subscribed] at poised ⊢
  case dropShutdown | dropStop => exact ⟨poised.1, dead poised.2⟩
  case deliver => exact ⟨poised.1, bystander.made poised.2.1, poised.2.2⟩
  all_goals exact poised

end

/-! ### The record -/

/-- The lookup of the record is behind the call. -/
def LoopPc.looked : LoopPc → Bool
  | .waiting | .drain _ | .aliveTest _ | .stop | .entry | .cacheTest | .cacheGet | .done => false
  | _ => true

theorem looked_call {pc : LoopPc} (looked : pc.looked = true) : pc.call ≠ .cache := by
  cases pc <;> simp [LoopPc.looked, LoopPc.call] at looked ⊢

theorem requeuing_looked {pc : LoopPc} {frames : Nat} (requeuing : pc.requeuing = some frames) :
    pc.looked = true := by
  cases pc <;> first | rfl | cases requeuing

/-- A subscribed connection whose record has been in the map all along has it cached. -/
def Knows (registered : Bool) (s : State) : Prop :=
  ∀ pc, s.writer = .loop pc → pc.looked = true → s.subscribed = true → registered = true →
    s.record ≠ none

theorem outputStep_frame {d : Deployment} {s s' : State} {outcome : CallOutcome} {pc : LoopPc}
    (taken : outputStep d s outcome pc = some s') : WriterFrame s s' := by
  rcases outputStep_cases taken with ⟨_, _, rfl⟩ | moved
  · exact .local s _ _ _ _
  · exact loopStep_frame moved

theorem outputStep_record {d : Deployment} {s s' : State} {outcome : CallOutcome} {pc : LoopPc}
    (at_ : s.writer = .loop pc) (looked : pc.looked = true)
    (taken : outputStep d s outcome pc = some s') : s'.record = s.record := by
  rcases outputStep_cases taken with ⟨_, _, rfl⟩ | moved
  · rfl
  · cases loopStep_move at_ moved with
    | cache called =>
      rw [at_] at called
      exact absurd called (looked_call looked)
    | flush _ _ _ record_eq | deliver _ _ _ _ record_eq | test _ _ _ _ record_eq
    | other _ _ record_eq | close _ _ record_eq => exact record_eq

theorem nextFrame_record (s : State) (frames : Nat) : (s.nextFrame frames).record = s.record := by
  rw [(nextFrame_returns s frames).same]

theorem outputStep_knows {d : Deployment} {s s' : State} {outcome : CallOutcome} {pc : LoopPc}
    {registered : Bool} (at_ : s.writer = .loop pc) (inside : pc.before = false)
    (found : registered = true → s.composite.getRecord d.key ≠ none) (knows : Knows registered s)
    (taken : outputStep d s outcome pc = some s') : Knows registered s' := by
  intro pc' next looked subscribed held
  cases before : pc.looked with
  | true =>
    rw [outputStep_record at_ before taken]
    exact knows pc at_ before ((outputStep_frame taken).subscribed subscribed) held
  | false =>
    have was := (outputStep_frame taken).subscribed subscribed
    have move := outputStep_move inside taken
    generalize s.outputEvent d outcome pc = event at move
    cases move with
    | dead | enter | lookup =>
      cases next
      cases looked
    | cached cached =>
      rw [nextFrame_record]
      exact cached was
    | cache =>
      rw [nextFrame_record]
      exact found held
    | forget requeuing => exact absurd ((requeuing_looked requeuing).symm.trans before) nofun
    | _ => cases before

/-! ### The return -/

/-- How a call leaves the connection. -/
inductive OutputCall.Concluded (c : OutputCall) : Prop where
  | disconnected (ended : c.state.writer = .loop .done) (unsubscribed : c.state.subscribed = false)
      (dead : c.state.alived = false) (stopped : c.state.worker.stopped = true)
  | dead (noted : .dead ∈ c.log) (dead : c.state.alived = false)
  | armed (armed : c.state.worker.writeEventEnabled = true)
      (pending : c.state.link.output.pendingFrame ≠ none)
  | notified (noted : .notified ∈ c.log) (pipe : c.state.worker.notifyPipe ≠ [])
  | drained (pending : c.state.link.output.pendingFrame = none)
      (empty : c.state.subscribed = true → c.state.record ≠ none ∨ c.registered = true →
        c.state.link.output.controlFrames = [] ∧ c.state.worker.workQueue = [])

theorem nextFrame_goes (s : State) (frames : Nat) :
    (s.nextFrame frames).writer.returned = false := by
  unfold State.nextFrame
  split <;> rfl

theorem requeue_goes (s : State) (frames : Nat) (topic : Topic) :
    (s.requeue frames topic).writer.returned = false := by
  unfold State.requeue
  split
  · exact nextFrame_goes s frames
  · rfl

theorem afterFlush_goes (s : State) (frames : Nat)
    (control : Control FlushPc (PendingWriteStatus × Topic)) :
    (s.afterFlush frames control).writer.returned = false := by
  rcases control with pc | ⟨status, topic⟩
  · rfl
  · cases status with
    | complete => exact requeue_goes s (frames + 1) topic
    | idle | wouldBlock | error => rfl

theorem afterDeliver_goes (s : State) (frames : Nat) (topic : Topic)
    (control : Control DeliverPc TopicDeliveryStatus) :
    (s.afterDeliver frames topic control).writer.returned = false := by
  rcases control with pc | status
  · rfl
  · cases status with
    | delivered => exact requeue_goes s (frames + 1) topic
    | noMessage => exact nextFrame_goes s frames
    | wouldBlock | disconnect => rfl

theorem OutputMove.concludes {d : Deployment} {c : OutputCall} {s' : State} {outcome : CallOutcome}
    {pc : LoopPc} {event : Option OutputEvent} (at_ : c.state.writer = .loop pc)
    (poised : LoopPoised c.state pc) (knows : Knows c.registered c.state)
    (move : OutputMove d c.state outcome pc event s') (returned : s'.writer.returned = true) :
    (c.advance d s' event).Concluded := by
  have stays : ∀ {s : State}, s.writer.returned = false → s = s' → (c.advance d s' event).Concluded := by
    rintro s going rfl
    exact absurd (going.symm.trans returned) nofun
  cases move with
  | dead dead => exact .dead (List.mem_append_right _ List.mem_cons_self) dead
  | unsubscribed uncached =>
    refine .drained poised.1 fun subscribed known => ?_
    have cached : c.state.record ≠ none := known.elim id fun registered =>
      knows _ at_ rfl subscribed (Bool.and_eq_true_iff.mp registered).1
    exact absurd (uncached subscribed) cached
  | drained empty =>
    have queue := (EventLoopWorker.disableWriteEvent_quiet c.state.worker).queue
    exact .drained poised.1.1 fun _ _ => ⟨poised.1.2, queue.trans empty⟩
  | armed queue armed => exact .armed armed poised
  | rest empty => exact .drained poised.1 fun _ _ => ⟨poised.2, empty⟩
  | notify =>
    exact .notified (List.mem_append_right _ List.mem_cons_self)
      (EventLoopWorker.notifyStartWork_ne_nil _ d.pipe_pos)
  | dropStop => exact .disconnected rfl poised.1 poised.2 rfl
  | cached | cache | unmade | forget | submit => exact stays (nextFrame_goes _ _) rfl
  | flush => exact stays (afterFlush_goes _ _ _) rfl
  | deliver => exact stays (afterDeliver_goes _ _ _ _) rfl
  | _ => cases returned

/-! ### The whole call -/

structure CallLaw (d : Deployment) (queued : Nat) (c : OutputCall) : Prop where
  tally : ∃ pc, Tally queued c.completed c.popped c.state pc
  poised : Poised c.state
  found : c.registered = true → c.state.composite.getRecord d.key ≠ none
  knows : Knows c.registered c.state
  concluded : c.returned = true → c.Concluded

theorem advance_registered {d : Deployment} {c : OutputCall} {s : State} {event : Option OutputEvent}
    (held : (c.advance d s event).registered = true) :
    c.registered = true ∧ s.composite.getRecord d.key ≠ none := by
  obtain ⟨before, now⟩ := Bool.and_eq_true_iff.mp held
  exact ⟨before, Option.isSome_iff_ne_none.mp now⟩

theorem enter_law (d : Deployment) (s : State) : CallLaw d s.worker.workQueue.length (.enter d s) where
  tally := ⟨.entry, rfl, rfl, Nat.le_of_eq (Nat.zero_add _)⟩
  poised := ⟨.entry, rfl, trivial⟩
  found held := Option.isSome_iff_ne_none.mp held
  knows := by rintro pc ⟨⟩ ⟨⟩
  concluded := nofun

theorem LoopPoised.inside {s : State} {pc : LoopPc} (poised : LoopPoised s pc) : pc.before = false := by
  cases pc <;> first | rfl | exact poised.elim

/-- The step of a call and what it does. -/
theorem loop_callStep {d : Deployment} {queued : Nat} {c c' : OutputCall} {outcome : CallOutcome}
    (law : CallLaw d queued c) (taken : callStep d c (.loop outcome) = some c') :
    ∃ pc s' event, Tally queued c.completed c.popped c.state pc ∧ LoopPoised c.state pc ∧
      outputStep d c.state outcome pc = some s' ∧ OutputMove d c.state outcome pc event s' ∧
      c' = c.advance d s' event := by
  obtain ⟨pc, tally⟩ := law.tally
  obtain ⟨pc', at_, poised⟩ := law.poised
  obtain ⟨pc₁, s', at₁, stepped, rfl⟩ := callStep_loop taken
  cases tally.at_.symm.trans at_
  cases tally.at_.symm.trans at₁
  exact ⟨pc, s', _, tally, poised, stepped, outputStep_move poised.inside stepped, rfl⟩

theorem callStep_law {d : Deployment} {queued : Nat} {c c' : OutputCall} {action : OutputAction}
    (law : CallLaw d queued c) (alone : Alone d c action) (taken : callStep d c action = some c') :
    CallLaw d queued c' := by
  cases action with
  | loop outcome =>
    obtain ⟨pc, s', event, tally, poised, stepped, move, rfl⟩ := loop_callStep law taken
    obtain ⟨pc', next⟩ := move.tally tally
    refine ⟨⟨pc', ?_⟩, move.poised poised, fun held => (advance_registered held).2, ?_, ?_⟩
    · simpa only [OutputCall.completed, OutputCall.popped, OutputCall.advance, List.count_append]
        using next
    · have knows := outputStep_knows tally.at_ poised.inside law.found law.knows stepped
      exact fun pc at_ looked subscribed held =>
        knows pc at_ looked subscribed (advance_registered held).1
    · exact move.concludes tally.at_ poised law.knows
  | other action =>
    obtain ⟨s', going, bystander, rfl⟩ := callStep_bystander alone taken
    obtain ⟨pc, tally⟩ := law.tally
    refine ⟨⟨pc, ?_⟩, bystander.poised law.poised, fun held => (advance_registered held).2, ?_, ?_⟩
    · simpa [OutputCall.completed, OutputCall.popped, OutputCall.advance] using
        bystander.tally tally
    · intro pc at_ looked subscribed held
      show s'.record ≠ none
      rw [bystander.record]
      exact law.knows pc (bystander.writer.symm.trans at_) looked
        (bystander.subscribed.symm.trans subscribed) (advance_registered held).1
    · intro returned
      have same : (c.advance d s' none).returned = c.returned :=
        congrArg WriterPc.returned bystander.writer
      exact absurd (going.symm.trans (same.symm.trans returned)) nofun

theorem run_callLaw {d : Deployment} {s : State} {c : OutputCall}
    (run : Run (callStep d) (Alone d) (.enter d s) c) : CallLaw d s.worker.workQueue.length c :=
  run.keeps (enter_law d s) fun _ _ _ law alone taken => callStep_law law alone taken

/-- Every step of a call lowers its rank, but for an interrupted `send` and the steps of the others. -/
theorem callStep_rank {d : Deployment} {queued : Nat} {c c' : OutputCall} {action : OutputAction}
    (law : CallLaw d queued c) (alone : Alone d c action) (taken : callStep d c action = some c') :
    c'.state.rank < c.state.rank ∨
      (¬ (∃ outcome, action = .loop outcome ∧ c.interrupted action = false) ∧
        c'.state.rank = c.state.rank) := by
  cases action with
  | loop outcome =>
    obtain ⟨pc, s', event, tally, poised, stepped, move, rfl⟩ := loop_callStep law taken
    refine (move.rank tally).imp_right ?_
    rintro ⟨rfl, sending, left, same⟩
    refine ⟨?_, same⟩
    rintro ⟨outcome, _, answered⟩
    simp only [OutputCall.interrupted, tally.at_, sending, left, decide_true, Bool.and_self] at answered
    cases answered
  | other action =>
    obtain ⟨s', _, bystander, rfl⟩ := callStep_bystander alone taken
    refine .inr ⟨?_, bystander.rank⟩
    rintro ⟨outcome, loop, _⟩
    cases loop

/-- `processEventLoopOutput` terminates, from any state of the connection. No call goes on for ever
while the loop takes steps, unless from some point on signals interrupt every `send`; and until its
return the loop has a step whatever the system answers. A call completes at most sixteen frames, takes
at most sixteen topics more than were queued, and leaves nothing undone but with somebody to wake
it up. -/
theorem process_event_loop_output_terminates (d : Deployment) (s : State) :
    (∀ calls actions, (∀ n, ∃ m, n ≤ m ∧ ∃ outcome, actions m = .loop outcome ∧
        (calls m).interrupted (actions m) = false) →
      ¬ Endless (callStep d) (Alone d) (.enter d s) calls actions) ∧
    ∀ c, Run (callStep d) (Alone d) (.enter d s) c →
      (c.returned = false → ∀ outcome, c.state.link.output.MayAnswer outcome →
        ∃ c', callStep d c (.loop outcome) = some c') ∧
      c.completed ≤ 16 ∧ c.popped ≤ s.worker.workQueue.length + 16 ∧
      (c.returned = true → c.Concluded) := by
  constructor
  · intro calls actions answered endless
    obtain ⟨n, settled⟩ := endless.settles fun c action c' run alone taken =>
      callStep_rank (run_callLaw run) alone taken
    obtain ⟨m, beyond, busy⟩ := answered n
    exact settled m beyond busy
  · intro c run
    have law := run_callLaw run
    obtain ⟨pc, tally⟩ := law.tally
    have few : c.completed ≤ 16 := tally.frames.le
    refine ⟨?_, few, ?_, law.concluded⟩
    · intro going outcome answer
      obtain ⟨pc, at_, poised⟩ := law.poised
      rw [OutputCall.returned, at_] at going
      obtain ⟨s', stepped⟩ := outputStep_enabled poised going answer
      simp only [callStep, at_]
      rw [stepped]
      exact ⟨_, rfl⟩
    · have topics := tally.topics
      omega

/-- A subscribed connection with a control frame in its queue, and a topic that has no ring. -/
def queuedFrame : State :=
  { initial (sample true) with
    subscribed := true
    record := some 0
    link := { output := { controlFrames := [[7, 9]] } }
    worker := { disableDuplicateEntries := true, writeEvent := true, workQueue := [ascii "T"] } }

/-- The frame goes out in two parts after an interrupted `send`, while a publisher makes a ring. -/
def queuedCall : List OutputAction :=
  List.replicate 4 (OutputAction.loop .interrupted) ++
    [.loop (.accepted 1), .other (.publisher 0 (.create (ascii "U") [1])), .loop (.accepted 1)] ++
    List.replicate 9 (OutputAction.loop .wouldBlock)

theorem process_event_loop_output_terminates_one_frame :
    let step := callStep (sample true)
    let start := OutputCall.enter (sample true) queuedFrame
    (¬ Endless step (Alone (sample true)) start (fun _ => start) fun _ => .loop .wouldBlock) ∧
    (∃ c, step start (.loop .interrupted) = some c) ∧
    ∃ c, Run step (Alone (sample true)) start c ∧ c.returned = true ∧ c.log = [.completed, .popped] ∧
      c.completed ≤ 16 ∧ c.popped ≤ 17 ∧ c.Concluded := by
  intro step start
  have law := process_event_loop_output_terminates (sample true) queuedFrame
  refine ⟨law.1 _ _ fun n => ⟨n, le_rfl, .wouldBlock, rfl, rfl⟩,
    (law.2 start .refl).1 rfl .interrupted trivial, ?_⟩
  obtain ⟨c, run, passed⟩ := Run.exists_of_replay step (Alone (sample true)) start queuedCall
    (fun c => decide (c.returned = true ∧ c.log = [.completed, .popped])) (by decide +kernel)
  obtain ⟨returned, log⟩ := of_decide_eq_true passed
  obtain ⟨_, completed, popped, concluded⟩ := law.2 c run
  exact ⟨c, run, returned, log, completed, popped, concluded returned⟩

end MessageRepeater.Subscriber
