import MessageRepeater.Subscriber.Scheduling

/-!
# The stop protocol of the event loop

A stop is heard if its byte gets into the pipe, or if `connection_alived` is false before the loop
comes to test it. The detecting thread writes its byte before it clears the flag, and the byte is lost on
a full pipe. But it writes only where it has found the flag false already, or the connection gone; and the
lock of alive detection lets it find the connection gone only when the release has cleared the flag.
-/

namespace MessageRepeater.Subscriber
open Foundation Combiner Config Connection

/-- The callback is on its way to `EventLoopWorker::stop` whatever else happens, or the loop is stopped. -/
def LoopPc.Stopping : LoopPc → Prop
  | .drain true | .aliveTest true | .stop | .dropSubscribed | .dropAlive | .dropShutdown | .dropStop
  | .done => True
  | _ => False

/-- The callback has `connection_alived` still to test. -/
def LoopPc.Testing : LoopPc → Prop
  | .drain _ | .aliveTest _ => True
  | _ => False

/-- The loop is stopped, or a callback is running that will stop it. -/
def Heeded (s : State) : Prop :=
  ∃ pc, s.writer = .loop pc ∧ (pc.Stopping ∨ s.alived = false ∧ pc.Testing)

/-- The loop will stop without anything further from outside. -/
def Doomed (s : State) : Prop :=
  Heeded s ∨ (5 : UInt8) ∈ s.worker.notifyPipe ∨ s.alived = false ∧ s.worker.notifyPipe ≠ []

/-- The steps that the detecting thread has before it writes its stop byte, once the flag is cleared. -/
def DetectorPc.toNotify : DetectorPc → Nat
  | .existsTest => 6
  | .subscribedTest => 5
  | .scan => 4
  | .shutdown => 3
  | .kill => 2
  | .notifyStop => 1
  | _ => 0

/-- The steps that alive detection has before it writes its stop byte. -/
def ReclaimerPc.toNotify : ReclaimerPc → Nat
  | .watch => 6
  | .erase => 5
  | .removeRecord => 4
  | .removeSubscribed => 3
  | .releaseAlive => 2
  | .releaseNotify => 1
  | _ => 0

/-! ### Nothing is lost once the loop is doomed -/

theorem Doomed.heeded {s : State} (doomed : Doomed s) :
    Heeded s ∨ s.worker.notifyPipe ≠ [] := by
  rcases doomed with heeded | stop | ⟨_, byte⟩
  · exact .inl heeded
  · exact .inr (List.ne_nil_of_mem stop)
  · exact .inr byte

theorem step_dead {d : Deployment} {s s' : State} {action : Action}
    (taken : step d s action = some s') (dead : s.alived = false) : s'.alived = false := by
  by_contra live
  rw [step_alived taken (by simpa using live)] at dead
  cases dead

/-- What the pipe alone has doomed stays doomed while the pipe only fills. -/
theorem Doomed.fills {s s' : State} (doomed : Doomed s) (unheeded : ¬ Heeded s)
    (dead : s.alived = false → s'.alived = false)
    (pipe : s.worker.notifyPipe <+: s'.worker.notifyPipe) : Doomed s' := by
  rcases doomed with heeded | stop | ⟨false_, byte⟩
  · exact absurd heeded unheeded
  · exact .inr (.inl (pipe.subset stop))
  · exact .inr (.inr ⟨dead false_, fun nil => byte (List.prefix_nil.mp (nil ▸ pipe))⟩)

/-- A step of another thread: the loop stays where it is and the pipe only fills. -/
theorem Doomed.other {s s' : State} (doomed : Doomed s) (writer : s'.writer = s.writer)
    (dead : s.alived = false → s'.alived = false)
    (pipe : s.worker.notifyPipe <+: s'.worker.notifyPipe) : Doomed s' := by
  by_cases heeded : Heeded s
  · obtain ⟨pc, at_, cause⟩ := heeded
    exact .inl ⟨pc, writer.trans at_, cause.imp_right (And.imp_left dead)⟩
  · exact doomed.fills heeded dead pipe

theorem notifyStartWork_fills (worker : EventLoopWorker) (capacity : Nat) :
    worker.notifyPipe <+: (worker.notifyStartWork capacity).notifyPipe := by
  unfold EventLoopWorker.notifyStartWork
  split
  · exact List.prefix_append _ _
  · exact List.prefix_rfl

theorem notifyStopWork_fills (worker : EventLoopWorker) (capacity : Nat) :
    worker.notifyPipe <+: (worker.notifyStopWork capacity).2.notifyPipe := by
  unfold EventLoopWorker.notifyStopWork
  split
  · exact List.prefix_append _ _
  · exact List.prefix_rfl

theorem notifyStopWork_ne_nil (worker : EventLoopWorker) {capacity : Nat} (pos : 0 < capacity) :
    (worker.notifyStopWork capacity).2.notifyPipe ≠ [] := by
  unfold EventLoopWorker.notifyStopWork
  split
  · simp
  · rename_i full
    intro nil
    dsimp only at nil
    rw [nil] at full
    exact full pos

/-- What a thread other than the writer does to the event loop's worker. -/
inductive WorkerCall (capacity : Nat) (worker : EventLoopWorker) : EventLoopWorker → Prop where
  | none : WorkerCall capacity worker worker
  | submitWork (topic : Topic) : WorkerCall capacity worker (worker.submitWork topic).2
  | notifyStartWork : WorkerCall capacity worker (worker.notifyStartWork capacity)
  | notifyStopWork : WorkerCall capacity worker (worker.notifyStopWork capacity).2

theorem WorkerCall.fills {capacity : Nat} {worker worker' : EventLoopWorker}
    (call : WorkerCall capacity worker worker') : worker.notifyPipe <+: worker'.notifyPipe := by
  cases call with
  | none => exact List.prefix_rfl
  | submitWork topic => rw [EventLoopWorker.submitWork_pipe]
  | notifyStartWork => exact notifyStartWork_fills _ _
  | notifyStopWork => exact notifyStopWork_fills _ _

theorem dispatcherStep_workerCall {d : Deployment} {s s' : State}
    (taken : dispatcherStep d s = some s') : WorkerCall d.pipeCapacity s.worker s'.worker := by
  unfold dispatcherStep at taken
  split at taken
  case h_1 | h_2 => split at taken <;> cases taken <;> exact .none
  case h_7 =>
    split at taken <;> cases taken
    · exact .submitWork _
    · exact .none
  case h_8 =>
    cases taken
    exact .notifyStartWork
  all_goals
    cases taken
    exact .none

theorem readerStep_workerCall {d : Deployment} {s s' : State} {input : ReaderInput}
    (taken : readerStep d s input = some s') : WorkerCall d.pipeCapacity s.worker s'.worker := by
  unfold readerStep at taken
  split at taken
  case h_26 => cases taken
  case h_8 | h_21 =>
    cases taken
    exact .notifyStartWork
  case h_20 =>
    cases taken
    exact .submitWork _
  case h_7 | h_9 | h_11 | h_13 | h_25 => split at taken <;> cases taken <;> exact .none
  case h_10 =>
    split at taken
    · split at taken <;> cases taken <;> exact .none
    · cases taken
  all_goals
    cases taken
    exact .none

theorem detectorStep_workerCall {d : Deployment} {s s' : State} (taken : detectorStep d s = some s') :
    WorkerCall d.pipeCapacity s.worker s'.worker := by
  unfold detectorStep at taken
  split at taken
  case h_1 | h_2 | h_5 =>
    split at taken <;> cases taken
    exact .none
  case h_6 =>
    cases taken
    exact .notifyStopWork
  all_goals
    cases taken <;> exact .none

theorem reclaimerStep_workerCall {d : Deployment} {s s' : State} (taken : reclaimerStep d s = some s') :
    WorkerCall d.pipeCapacity s.worker s'.worker := by
  unfold reclaimerStep at taken
  split at taken
  case h_6 =>
    cases taken
    exact .notifyStopWork
  all_goals
    cases taken <;> exact .none

theorem step_workerCall {d : Deployment} {s s' : State} {action : Action}
    (writer : ∀ outcome, action ≠ .writer outcome) (taken : step d s action = some s') :
    WorkerCall d.pipeCapacity s.worker s'.worker := by
  cases action with
  | writer outcome => exact absurd rfl (writer outcome)
  | dispatcher => exact dispatcherStep_workerCall taken
  | reader input => exact readerStep_workerCall taken
  | detector => exact detectorStep_workerCall taken
  | reclaimer => exact reclaimerStep_workerCall taken
  | publisher id input =>
    rw [publisherStep_same taken]
    exact .none
  | writable =>
    obtain ⟨_, _, rfl⟩ := writableStep_same taken
    exact .none
  | other key record =>
    rw [otherStep_same taken]
    exact .none

theorem LoopWorker.fills {d : Deployment} {s s' : State} (changed : LoopWorker d s s')
    (dry : ∀ stopRequested, s.writer ≠ .loop (.drain stopRequested)) :
    s.worker.notifyPipe <+: s'.worker.notifyPipe := by
  cases changed with
  | quiet same => exact same.pipe ▸ List.prefix_rfl
  | drain at_ => exact absurd at_ (dry _)
  | pop worker_eq =>
    rw [worker_eq, EventLoopWorker.popWork_pipe]
  | submit _ same =>
    rw [same.pipe, EventLoopWorker.submitWork_pipe]
  | notify worker_eq =>
    rw [worker_eq]
    exact notifyStartWork_fills _ _
  | stop worker_eq =>
    rw [worker_eq]
    exact (EventLoopWorker.disableWriteEvent_quiet s.worker).pipe ▸ List.prefix_rfl

theorem loopStep_doomed {d : Deployment} {s s' : State} {outcome : CallOutcome} {pc : LoopPc}
    (at_ : s.writer = .loop pc) (doomed : Doomed s) (dead : s.alived = false → s'.alived = false)
    (taken : loopStep d s outcome pc = some s') : Doomed s' := by
  have heard : Heeded s → pc.Stopping ∨ s.alived = false ∧ pc.Testing := by
    rintro ⟨other, here, heeded⟩
    cases at_.symm.trans here
    exact heeded
  -- Outside of the callback's head only the pipe can have doomed the loop, and it keeps its bytes.
  have later : ¬ pc.Stopping → ¬ pc.Testing → Doomed s' := by
    intro going past
    refine doomed.fills ?_ dead ((loopStep_worker at_ taken).fills fun stopRequested drain => ?_)
    · intro heeded
      rcases heard heeded with stopping | ⟨_, testing⟩
      · exact going stopping
      · exact past testing
    · cases at_.symm.trans drain
      exact past trivial
  cases pc with
  | drain stopRequested =>
    simp only [loopStep] at taken
    split at taken
    · rename_i nil
      cases taken
      rcases doomed with heeded | stop | ⟨_, byte⟩
      · refine .inl ⟨_, rfl, (heard heeded).imp (fun stopping => ?_) (And.imp_right fun _ => trivial)⟩
        cases stopRequested
        · exact stopping.elim
        · trivial
      · rw [nil] at stop
        cases stop
      · exact absurd nil byte
    · rename_i byte rest pipe
      cases taken
      by_cases requested : (stopRequested || byte == 5) = true
      · exact .inl ⟨_, rfl, .inl (by rw [requested]; trivial)⟩
      · simp only [Bool.or_eq_true, beq_iff_eq, not_or, Bool.not_eq_true] at requested
        obtain ⟨rfl, other⟩ := requested
        rcases doomed with heeded | stop | ⟨dead, _⟩
        · rcases heard heeded with stopping | ⟨dead, _⟩
          · exact stopping.elim
          · exact .inl ⟨_, rfl, .inr ⟨dead, trivial⟩⟩
        · rw [pipe, List.mem_cons] at stop
          exact .inr (.inl (stop.resolve_left (Ne.symm other)))
        · exact .inl ⟨_, rfl, .inr ⟨dead, trivial⟩⟩
  | aliveTest stopRequested =>
    cases taken
    by_cases stops : stopRequested = true ∨ s.alived = false
    · rw [if_pos stops]
      exact .inl ⟨_, rfl, .inl trivial⟩
    · rw [if_neg stops]
      obtain ⟨unrequested, live⟩ := not_or.mp stops
      rcases doomed with heeded | stop | ⟨dead, _⟩
      · rcases heard heeded with stopping | ⟨dead, _⟩
        · cases stopRequested
          · exact stopping.elim
          · exact absurd rfl unrequested
        · exact absurd dead live
      · exact .inr (.inl stop)
      · exact absurd dead live
  | stop | dropSubscribed | dropAlive | dropShutdown | dropStop =>
    cases taken
    exact .inl ⟨_, rfl, .inl trivial⟩
  | done => cases taken
  | _ => exact later id id

theorem normalStep_worker {d : Deployment} {s s' : State} {outcome : CallOutcome} {pc : NormalPc}
    (taken : normalStep d s outcome pc = some s') : s'.worker = s.worker := by
  cases pc <;> simp only [normalStep] at taken
  case existsTest | flush | getTopics | getCircle | exitKill => split at taken <;> cases taken <;> rfl
  case deliver =>
    split at taken
    · cases taken
    · split at taken <;> cases taken
      rfl
  all_goals
    cases taken <;> rfl

theorem step_doomed {d : Deployment} {s s' : State} {action : Action} (doomed : Doomed s)
    (taken : step d s action = some s') : Doomed s' := by
  have dead := step_dead taken
  cases action with
  | writer outcome =>
    simp only [step, writerStep] at taken
    split at taken
    · rename_i pc at_
      refine doomed.fills ?_ dead (by rw [normalStep_worker taken])
      rintro ⟨other, here, _⟩
      cases at_.symm.trans here
    · rename_i pc at_
      exact loopStep_doomed at_ doomed dead taken
  | writable =>
    obtain ⟨waiting, _, rfl⟩ := writableStep_same taken
    refine doomed.fills ?_ dead List.prefix_rfl
    rintro ⟨pc, here, cause⟩
    cases waiting.symm.trans here
    exact cause.elim id And.right
  | _ =>
    have writer := (step_writer (by simp) (by simp) taken).1
    exact doomed.other writer dead (step_workerCall (by simp) taken).fills

/-! ### How far the two stopping threads are -/

/-- The detecting thread has written its stop byte. -/
def DetectorPc.Notified : DetectorPc → Prop
  | .dropAlive | .finish | .finished => True
  | _ => False

/-- The detecting thread has found the connection broken and not written its stop byte yet. -/
def DetectorPc.Breaking : DetectorPc → Prop
  | .shutdown | .kill | .notifyStop => True
  | _ => False

/-- The release has cleared the flag. -/
def ReclaimerPc.Cleared : ReclaimerPc → Prop
  | .releaseNotify | .releaseMaps | .done => True
  | _ => False

/-- The release has written its stop byte. -/
def ReclaimerPc.Notified : ReclaimerPc → Prop
  | .releaseMaps | .done => True
  | _ => False

/-- What the two stopping threads have done for the loop. -/
structure Announced (s : State) : Prop where
  breaking : s.detector.Breaking → s.alived = false
  detected : s.detector.Notified → Doomed s
  erased : s.exists_ = false → s.reclaimer ≠ .watch
  cleared : s.reclaimer.Cleared → s.alived = false
  released : s.reclaimer.Notified → Doomed s

theorem Announced.other {s s' : State} (announced : Announced s) (detector : s'.detector = s.detector)
    (reclaimer : s'.reclaimer = s.reclaimer) (present : s'.exists_ = s.exists_)
    (dead : s.alived = false → s'.alived = false) (doomed : Doomed s → Doomed s') : Announced s' := by
  obtain ⟨breaking, detected, erased, cleared, released⟩ := announced
  refine ⟨?_, ?_, ?_, ?_, ?_⟩
  · rw [detector]
    exact fun at_ => dead (breaking at_)
  · rw [detector]
    exact fun at_ => doomed (detected at_)
  · rw [reclaimer, present]
    exact erased
  · rw [reclaimer]
    exact fun at_ => dead (cleared at_)
  · rw [reclaimer]
    exact fun at_ => doomed (released at_)

/-- Who finds the connection gone has waited for the whole release. -/
theorem Announced.gone {s : State} (announced : Announced s) (free : s.baseFree) (absent : s.exists_ = false) :
    s.alived = false := by
  rcases free with watching | done
  · exact absurd watching (announced.erased absent)
  · apply announced.cleared
    rw [done]
    trivial

/-- A stop byte, or the one that left no room for it, dooms a loop whose flag is cleared. -/
theorem notifyStop_doomed {d : Deployment} {s s' : State}
    (worker : s'.worker = (s.worker.notifyStopWork d.pipeCapacity).2) (dead : s'.alived = false) : Doomed s' := by
  refine .inr (.inr ⟨dead, ?_⟩)
  rw [worker]
  exact notifyStopWork_ne_nil s.worker d.pipe_pos

theorem detectorStep_announced {d : Deployment} {s s' : State} (announced : Announced s)
    (taken : detectorStep d s = some s') : Announced s' := by
  have doomed : Doomed s → Doomed s' := fun doomed => @step_doomed d s s' .detector doomed taken
  have dead : s.alived = false → s'.alived = false := @step_dead d s s' .detector taken
  have gone := announced.gone
  obtain ⟨breaking, detected, erased, cleared, released⟩ := announced
  have same := detectorStep_same taken
  have later : (s'.detector.Breaking → s'.alived = false) → (s'.detector.Notified → Doomed s') →
      Announced s' := by
    intro breaking' detected'
    refine ⟨breaking', detected', ?_, ?_, ?_⟩
    · rw [same]
      exact erased
    · intro at_
      rw [same] at at_
      exact dead (cleared at_)
    · intro at_
      rw [same] at at_
      exact doomed (released at_)
  unfold detectorStep at taken
  split at taken
  case h_1 at_ =>
    split at taken <;> cases taken
    refine later ?_ ?_
    · cases alive : s.alived with
      | false => exact fun _ => rfl
      | true => exact fun at_ => at_.elim
    · cases s.alived <;> exact fun at_ => at_.elim
  case h_2 at_ =>
    split at taken
    · rename_i free
      cases taken
      refine later ?_ ?_
      · cases present : s.exists_ with
        | false => exact fun _ => gone free present
        | true => exact fun at_ => at_.elim
      · cases s.exists_ <;> exact fun at_ => at_.elim
    · cases taken
  case h_3 =>
    cases taken
    exact later (fun at_ => at_.elim) fun at_ => at_.elim
  case h_4 at_ =>
    cases taken
    refine later (fun _ => breaking ?_) fun at_ => at_.elim
    rw [at_]
    trivial
  case h_5 at_ =>
    split at taken <;> cases taken
    refine later (fun _ => breaking ?_) fun at_ => at_.elim
    rw [at_]
    trivial
  case h_6 at_ =>
    cases taken
    refine later (fun at_ => at_.elim) fun _ => notifyStop_doomed rfl (breaking ?_)
    rw [at_]
    trivial
  case h_7 at_ | h_8 at_ =>
    cases taken
    refine later (fun at_ => at_.elim) fun _ => doomed (detected ?_)
    rw [at_]
    trivial
  case h_9 => cases taken

theorem reclaimerStep_announced {d : Deployment} {s s' : State}
    (loopMode : d.config.subscriberEnableEventLoop = true) (announced : Announced s)
    (taken : reclaimerStep d s = some s') : Announced s' := by
  have doomed : Doomed s → Doomed s' := fun doomed => @step_doomed d s s' .reclaimer doomed taken
  have dead : s.alived = false → s'.alived = false := @step_dead d s s' .reclaimer taken
  obtain ⟨breaking, detected, erased, cleared, released⟩ := announced
  have same := reclaimerStep_same taken
  have later : (s'.exists_ = false → s'.reclaimer ≠ .watch) → (s'.reclaimer.Cleared → s'.alived = false) →
      (s'.reclaimer.Notified → Doomed s') → Announced s' := by
    intro erased' cleared' released'
    refine ⟨fun at_ => ?_, fun at_ => ?_, erased', cleared', released'⟩
    · rw [same] at at_
      exact dead (breaking at_)
    · rw [same] at at_
      exact doomed (detected at_)
  unfold reclaimerStep at taken
  split at taken
  case h_1 at_ =>
    cases taken
    exact later (fun absent => absurd at_ (erased absent)) (fun at_ => at_.elim) fun at_ => at_.elim
  case h_2 | h_3 =>
    cases taken
    exact later (fun _ => nofun) (fun at_ => at_.elim) fun at_ => at_.elim
  case h_4 =>
    rw [if_pos loopMode] at taken
    cases taken
    exact later (fun _ => nofun) (fun at_ => at_.elim) fun at_ => at_.elim
  case h_5 =>
    cases taken
    exact later (fun _ => nofun) (fun _ => rfl) fun at_ => at_.elim
  case h_6 at_ =>
    cases taken
    have off : s.alived = false := cleared (by rw [at_]; trivial)
    exact later (fun _ => nofun) (fun _ => off) fun _ => notifyStop_doomed rfl off
  case h_7 at_ =>
    cases taken
    refine later (fun _ => nofun) (fun _ => cleared ?_) fun _ => doomed (released ?_)
    · rw [at_]
      trivial
    · rw [at_]
      trivial
  case h_8 => cases taken

theorem step_announced {d : Deployment} {s s' : State} {action : Action}
    (loopMode : d.config.subscriberEnableEventLoop = true) (announced : Announced s)
    (taken : step d s action = some s') : Announced s' := by
  have dead := step_dead taken
  have doomed : Doomed s → Doomed s' := fun doomed => step_doomed doomed taken
  cases action with
  | detector => exact detectorStep_announced announced taken
  | reclaimer => exact reclaimerStep_announced loopMode announced taken
  | _ =>
    obtain ⟨detector, reclaimer⟩ := step_watchers taken
    have present := step_exists (by simp) taken
    exact announced.other (detector (by simp)) (reclaimer (by simp)) present dead doomed

theorem reachable_announced {d : Deployment} {s : State}
    (loopMode : d.config.subscriberEnableEventLoop = true) (run : Run (step d) Free (initial d) s) :
    Announced s := by
  induction run with
  | refl => exact ⟨fun at_ => at_.elim, fun at_ => at_.elim, nofun, fun at_ => at_.elim, fun at_ => at_.elim⟩
  | tail _ _ _ taken ih => exact step_announced loopMode ih taken

/-! ### Waking a loop that sleeps -/

/-- The two threads that stop the loop. -/
def Action.stops : Action → Bool
  | .detector | .reclaimer => true
  | _ => false

/-- In every continuation the loop is woken for its stop before the detecting thread and alive detection have
taken twelve steps. Until then the detecting thread can go on, or it waits for the release, which can. -/
def Wakes (d : Deployment) (s : State) : Prop :=
  ∀ actions s', replay (step d) s actions = some s' →
    (Heeded s' ∨ s'.worker.notifyPipe ≠ []) ∨
      (actions.countP Action.stops < 12 ∧ ((∃ next, step d s' .detector = some next) ∨
        (s'.reclaimer ≠ .watch ∧ ∃ next, step d s' .reclaimer = some next)))

/-- The steps of the two threads before their stop bytes. -/
def State.toNotify (s : State) : Nat := s.detector.toNotify + s.reclaimer.toNotify

theorem detectorStep_nearer {d : Deployment} {s s' : State} (announced : Announced s) (dead : s.alived = false)
    (taken : detectorStep d s = some s') : Doomed s' ∨ s'.detector.toNotify + 1 ≤ s.detector.toNotify := by
  have notified : s.detector.Notified → Doomed s' := fun at_ =>
    @step_doomed d s s' .detector (announced.detected at_) taken
  unfold detectorStep at taken
  split at taken
  case h_1 at_ =>
    split at taken <;> cases taken
    rw [dead, at_]
    exact .inr (Nat.le_refl _)
  case h_2 at_ =>
    split at taken <;> cases taken
    rw [at_]
    cases s.exists_
    · exact .inr (show 3 + 1 ≤ 6 by decide)
    · exact .inr (show 5 + 1 ≤ 6 by decide)
  case h_3 at_ | h_4 at_ =>
    cases taken
    rw [at_]
    exact .inr (Nat.le_refl _)
  case h_5 at_ =>
    split at taken <;> cases taken
    rw [at_]
    exact .inr (Nat.le_refl _)
  case h_6 =>
    cases taken
    exact .inl (notifyStop_doomed rfl dead)
  case h_7 at_ | h_8 at_ =>
    refine .inl (notified ?_)
    rw [at_]
    trivial
  case h_9 => cases taken

theorem reclaimerStep_nearer {d : Deployment} {s s' : State}
    (loopMode : d.config.subscriberEnableEventLoop = true) (announced : Announced s) (dead : s.alived = false)
    (taken : reclaimerStep d s = some s') : Doomed s' ∨ s'.reclaimer.toNotify + 1 ≤ s.reclaimer.toNotify := by
  have notified : s.reclaimer.Notified → Doomed s' := fun at_ =>
    @step_doomed d s s' .reclaimer (announced.released at_) taken
  unfold reclaimerStep at taken
  split at taken
  case h_1 at_ | h_2 at_ | h_3 at_ | h_5 at_ =>
    cases taken
    rw [at_]
    exact .inr (Nat.le_refl _)
  case h_4 at_ =>
    rw [if_pos loopMode] at taken
    cases taken
    rw [at_]
    exact .inr (Nat.le_refl _)
  case h_6 =>
    cases taken
    exact .inl (notifyStop_doomed rfl dead)
  case h_7 at_ =>
    refine .inl (notified ?_)
    rw [at_]
    trivial
  case h_8 => cases taken

/-- The flag is cleared, and neither thread has failed the loop. -/
def StopDue (s : State) : Prop := s.alived = false ∧ Announced s

theorem step_nearer {d : Deployment} {s s' : State} {action : Action}
    (loopMode : d.config.subscriberEnableEventLoop = true) (due : StopDue s)
    (taken : step d s action = some s') :
    Doomed s' ∨ (StopDue s' ∧ s'.toNotify + (if action.stops then 1 else 0) ≤ s.toNotify) := by
  obtain ⟨dead, announced⟩ := due
  have due' : StopDue s' := ⟨step_dead taken dead, step_announced loopMode announced taken⟩
  obtain ⟨detector, reclaimer⟩ := step_watchers taken
  unfold State.toNotify
  cases action with
  | detector =>
    rw [reclaimer (by simp)]
    refine (detectorStep_nearer announced dead taken).imp_right fun nearer => ⟨due', ?_⟩
    simp only [Action.stops, if_true]
    omega
  | reclaimer =>
    rw [detector (by simp)]
    refine (reclaimerStep_nearer loopMode announced dead taken).imp_right fun nearer => ⟨due', ?_⟩
    simp only [Action.stops, if_true]
    omega
  | _ =>
    rw [detector (by simp), reclaimer (by simp)]
    exact .inr ⟨due', Nat.le_refl _⟩

/-- The detecting thread has its byte still to write, and waits for nobody but the release. -/
theorem StopDue.ahead {d : Deployment} {s : State} (loopMode : d.config.subscriberEnableEventLoop = true)
    (due : StopDue s) (undoomed : ¬ Doomed s) :
    0 < s.toNotify ∧ ((∃ next, step d s .detector = some next) ∨
      (s.reclaimer ≠ .watch ∧ ∃ next, step d s .reclaimer = some next)) := by
  obtain ⟨_, announced⟩ := due
  have undetected : ¬ s.detector.Notified := fun at_ => undoomed (announced.detected at_)
  have unreleased : ¬ s.reclaimer.Notified := fun at_ => undoomed (announced.released at_)
  have pending : 0 < s.detector.toNotify := by
    cases at_ : s.detector with
    | dropAlive | finish | finished =>
      rw [at_] at undetected
      exact absurd trivial undetected
    | _ => decide
  refine ⟨Nat.lt_of_lt_of_le pending (Nat.le_add_right _ _), ?_⟩
  by_cases watching : s.reclaimer = .watch
  · have free : s.baseFree := .inl watching
    refine .inl ?_
    cases at_ : s.detector <;> simp only [step, detectorStep, at_, if_pos loopMode, if_pos free]
    case finished =>
      rw [at_] at undetected
      exact absurd trivial undetected
    all_goals exact ⟨_, rfl⟩
  · refine .inr ⟨watching, ?_⟩
    cases at_ : s.reclaimer <;> simp only [step, reclaimerStep, at_]
    case done =>
      rw [at_] at unreleased
      exact absurd trivial unreleased
    all_goals exact ⟨_, rfl⟩

theorem toNotify_le (s : State) : s.toNotify ≤ 12 := by
  have detector : s.detector.toNotify ≤ 6 := by cases s.detector <;> decide
  have reclaimer : s.reclaimer.toNotify ≤ 6 := by cases s.reclaimer <;> decide
  exact Nat.add_le_add detector reclaimer

theorem StopDue.wakes {d : Deployment} {s : State} (loopMode : d.config.subscriberEnableEventLoop = true)
    (due : StopDue s) : Wakes d s := by
  intro actions s' replayed
  by_cases doomed : Doomed s'
  · exact .inl doomed.heeded
  · have stay : ∀ t action t', Doomed t → step d t action = some t' → Doomed t' :=
      fun _ _ _ doomed taken => step_doomed doomed taken
    have nearer := fun t action t' => @step_nearer d t t' action loopMode
    have ranked := replay_rank stay nearer due replayed
    obtain ⟨due', paid⟩ := ranked.resolve_left doomed
    obtain ⟨pending, enabled⟩ := due'.ahead loopMode doomed
    have limit := toNotify_le s
    refine .inr ⟨?_, enabled⟩
    omega

/-- The stop reaches the loop. A dead connection that the detecting thread or the release is done with has a
loop that is stopped, is about to stop, or has a byte to read; and a loop of a dead connection that sleeps on an
empty pipe is still woken by one of the two. -/
theorem stop_reaches_loop {d : Deployment} (loopMode : d.config.subscriberEnableEventLoop = true) {s : State}
    (run : Run (step d) Free (initial d) s) (dead : s.alived = false) :
    ((s.detector = .finished ∨ s.reclaimer = .done) → Heeded s ∨ s.worker.notifyPipe ≠ []) ∧
      (s.writer = .loop .waiting → s.worker.notifyPipe = [] → Wakes d s) := by
  have announced := reachable_announced loopMode run
  refine ⟨fun ended => ?_, fun _ _ => StopDue.wakes loopMode ⟨dead, announced⟩⟩
  rcases ended with finished | done
  · refine (announced.detected ?_).heeded
    rw [finished]
    trivial
  · refine (announced.released ?_).heeded
    rw [done]
    trivial

/-- The client hangs up and the reading thread marks the connection dead. -/
def hangUp : List Action := [.reader .run, .reader .broken, .reader .run]

/-- The reading thread answers a ping. -/
def answerPing : List Action :=
  [.reader .run, .reader (.request .ping), .reader .run, .reader .run, .reader .run]

/-- Four pings fill the pipe behind a callback that answers them all. The connection is then released, and the
detecting thread finds it gone: its stop byte finds no room, but the flag is cleared. -/
def fullPipe : List Action :=
  answerPing ++ List.replicate 6 (Action.writer (.accepted 14)) ++
    (List.replicate 4 answerPing).flatten ++ List.replicate 22 (Action.writer (.accepted 14)) ++
    [Action.detector] ++ List.replicate 7 Action.reclaimer ++ List.replicate 6 Action.detector

theorem stop_reaches_loop_full_pipe :
    (∃ s, Run (step (sample true)) Free (initial (sample true)) s ∧ s.detector = .finished ∧
      s.worker.notifyPipe = [1, 1, 1, 1] ∧ (Heeded s ∨ s.worker.notifyPipe ≠ [])) ∧
    ∃ s, Run (step (sample true)) Free (initial (sample true)) s ∧ s.writer = .loop .waiting ∧
      s.worker.notifyPipe = [] ∧ Wakes (sample true) s := by
  constructor
  · obtain ⟨s, run, tested⟩ := Run.exists_of_replay (step (sample true)) Free (initial (sample true)) fullPipe
      (fun s => s.alived = false ∧ s.detector = .finished ∧ s.worker.notifyPipe = [1, 1, 1, 1])
      (by decide +kernel)
    obtain ⟨dead, finished, full⟩ := of_decide_eq_true tested
    exact ⟨s, run, finished, full, (stop_reaches_loop rfl run dead).1 (.inl finished)⟩
  · obtain ⟨s, run, tested⟩ := Run.exists_of_replay (step (sample true)) Free (initial (sample true)) hangUp
      (fun s => s.alived = false ∧ s.writer = .loop .waiting ∧ s.worker.notifyPipe = []) (by decide)
    obtain ⟨dead, waiting, empty⟩ := of_decide_eq_true tested
    exact ⟨s, run, waiting, empty, (stop_reaches_loop rfl run dead).2 waiting empty⟩

end MessageRepeater.Subscriber
