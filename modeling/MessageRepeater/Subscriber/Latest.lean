import MessageRepeater.Subscriber.Acknowledgement
import MessageRepeater.Subscriber.DeliveryLaw

/-!
# Send-latest mode

A read in this mode takes the newest message for everything unread. When that message is empty the
cursor passes the others with it, so the last update is safe as long as no such read happens.
-/

namespace MessageRepeater.Subscriber
open Foundation Combiner Config Connection

/-- Where `deliverTopic` reads a ring, its newest message is not empty or everything unread is. -/
def State.readsNewest (s : State) : Action → Bool
  | .writer _ =>
    match s.writer.call with
    | .deliver topic (.read entry) =>
      (s.logs topic).getLast? ≠ some [] || ((s.logs topic).drop entry.nextSequence).all List.isEmpty
    | _ => true
  | _ => true

def ReadsNewest (s : State) (action : Action) : Prop := s.readsNewest action = true

instance (s : State) (action : Action) : Decidable (ReadsNewest s action) :=
  inferInstanceAs (Decidable (_ = true))

/-- The state in which the newest update should have arrived: the one accepted request asked for the
topic, nothing is pending, and the cursor has reached the ring's next sequence. -/
structure CaughtUp (s : State) (answer : Answer) (topic : Topic) : Prop where
  live : s.alived = true
  accepted : s.link.history.answers = [answer]
  last : answer.record + 1 = s.link.records.length
  asked : topic ∈ answer.topics
  idle : s.link.output.pendingFrame = none
  cursor : (s.link.getMeta answer.record topic).map ConsumeMeta.nextSequence = some (s.nextSequence topic)

/-- The newest non-empty message appended after the answer is written, and nothing after it. -/
def Converged (s : State) (answer : Answer) (topic : Topic) : Prop :=
  ∀ sequence body, answer.nextSequence topic ≤ sequence → (s.logs topic)[sequence]? = some body →
    body ≠ [] → (∀ q text, sequence < q → (s.logs topic)[q]? = some text → text = []) →
    (s.link.written topic).getLast? = some (sequence, body)

/-- Every message read is the log's, and one read as empty had only empty ones below it. -/
def Honest (s : State) : Prop :=
  ∀ event ∈ s.link.history.reads, event.result.status = .message →
    ∃ body, (s.logs event.topic)[event.result.messageSequence]? = some body ∧
      (body = [] → ∀ q text, event.consumerSequence ≤ q → q ≤ event.result.messageSequence →
        (s.logs event.topic)[q]? = some text → text = [])

/-- No business frame carries an empty body. -/
def Bodied (s : State) : Prop :=
  ∀ topic sequence body, .business topic sequence body ∈ s.link.carried → body ≠ []

theorem ReadsNewest.unread {s : State} {outcome : CallOutcome} {topic : Topic} {entry : ConsumeMeta}
    (guard : ReadsNewest s (.writer outcome)) (at_ : s.writer.call = .deliver topic (.read entry))
    (empty : (s.logs topic).getLast? = some []) {q : Nat} {body : Bytes} (le : entry.nextSequence ≤ q)
    (found : (s.logs topic)[q]? = some body) : body = [] := by
  simp only [ReadsNewest, State.readsNewest, at_, empty, ne_eq, not_true_eq_false, decide_false,
    Bool.false_or, List.all_eq_true, List.isEmpty_iff] at guard
  apply guard
  apply List.mem_of_getElem? (i := q - entry.nextSequence)
  rw [List.getElem?_drop, Nat.add_sub_cancel' le]
  exact found

theorem step_bodied {d : Deployment} {s s' : State} {action : Action} (sound : Sound s)
    (bodied : Bodied s) (taken : step d s action = some s') : Bodied s' := by
  intro topic sequence body member
  obtain ⟨_, same | ⟨bytes, more⟩ | ⟨_, _, frame, _, _, parks, more⟩⟩ := step_carries sound taken
  · exact bodied topic sequence body (same ▸ member)
  · rw [more, List.mem_append, List.mem_singleton] at member
    rcases member with old | new
    · exact bodied topic sequence body old
    · cases new
  · rw [more, List.mem_append, List.mem_singleton] at member
    rcases member with old | rfl
    · exact bodied topic sequence body old
    · cases parks with
      | message _ _ _ nonempty => exact nonempty

theorem FlushMove.reads {link link' : Link} {record : Option Nat} {pc : FlushPc}
    {control : Control FlushPc (PendingWriteStatus × Topic)}
    (moved : FlushMove link record pc link' control) : link'.history.reads = link.history.reads := by
  cases moved <;> rfl

/-- What a read of the ring by `deliverTopic` notes. -/
def ringRead (config : RepeaterConfig) (ring : MessageCircle) (topic : Topic) (entry : ConsumeMeta) :
    ReadEvent where
  topic := topic
  consumerSequence := entry.nextSequence
  result := ring.read entry.nextSequence config.subscriberAlwaysSendLatest config.subscriberOverrunPolicy

theorem DeliverMove.reads {config : RepeaterConfig} {store : MessageCircleComposite}
    {link link' : Link} {record : Nat} {topic : Topic} {pc : DeliverPc}
    {control : Control DeliverPc TopicDeliveryStatus}
    (moved : DeliverMove config store link record topic pc link' control) :
    link'.history.reads = link.history.reads ∨ ∃ entry ring, pc = .read entry ∧
      store.getCircle topic = some ring ∧
      link'.history.reads = link.history.reads ++ [ringRead config ring topic entry] := by
  cases moved with
  | initializeTopic => exact .inl (by rw [link.initializeTopic_history])
  | flush moved => exact .inl moved.reads
  | disconnect made read | nothing made read | empty made read | park made read =>
    subst read
    exact .inr ⟨_, _, rfl, made, rfl⟩
  | _ => exact .inl rfl

/-- The writer's step that reads a ring notes the read; no other step notes one. -/
theorem step_reads {d : Deployment} {s s' : State} {action : Action} (taken : step d s action = some s') :
    s'.link.history.reads = s.link.history.reads ∨ ∃ outcome topic entry ring,
      action = .writer outcome ∧ s.writer.call = .deliver topic (.read entry) ∧
      s.store.getCircle topic = some ring ∧
      s'.link.history.reads = s.link.history.reads ++ [ringRead d.config ring topic entry] := by
  cases action with
  | reader input =>
    left
    cases (readerStep_move taken).1 with
    | same link_eq => rw [link_eq]
    | create _ link_eq => rw [link_eq, Link.createRecord]
    | enqueue _ pushed link_eq =>
      rw [link_eq]
      cases Link.enqueueControlFrame_some pushed
      rfl
    | initializeTopic _ link_eq => rw [link_eq, s.link.initializeTopic_history]
  | writer outcome =>
    cases writerStep_move taken with
    | flush _ move link_eq => exact .inl (link_eq ▸ move.reads)
    | @deliver topic _ _ _ _ at_ _ move link_eq =>
      rcases move.reads with same | ⟨entry, ring, rfl, made, more⟩
      · exact .inl (link_eq ▸ same)
      · exact .inr ⟨outcome, topic, entry, ring, rfl, at_, made, link_eq ▸ more⟩
    | test _ link_eq | cache _ link_eq | other _ link_eq | close _ link_eq => exact .inl (by rw [link_eq])
  | _ => exact .inl (by rw [(step_frame (by simp) (by simp) taken).link])

/-- A read of the newest message is honest where the guard holds. -/
theorem ringRead_honest {config : RepeaterConfig} {ring : MessageCircle} {log : List Bytes} (topic : Topic)
    {entry : ConsumeMeta} (latest : config.subscriberAlwaysSendLatest = true) (holds : Holds ring log)
    (guard : log.getLast? = some [] →
      ∀ q body, entry.nextSequence ≤ q → log[q]? = some body → body = [])
    (status : (ringRead config ring topic entry).result.status = .message) :
    ∃ body, log[(ringRead config ring topic entry).result.messageSequence]? = some body ∧
      (body = [] → ∀ q text, entry.nextSequence ≤ q → log[q]? = some text → text = []) := by
  have outcome := read_outcome holds entry.nextSequence config.subscriberAlwaysSendLatest
    config.subscriberOverrunPolicy
  simp only [ringRead] at status ⊢
  generalize ring.read entry.nextSequence config.subscriberAlwaysSendLatest config.subscriberOverrunPolicy =
    result at outcome status
  cases outcome with
  | idle => cases status
  | disconnect => cases status
  | message q _ _ lt _ _ _ newest =>
    have last : q = log.length - 1 := by have := newest latest; omega
    refine ⟨log[q], List.getElem?_eq_getElem lt, fun empty => ?_⟩
    apply guard
    rw [List.getLast?_eq_getElem?, ← last, List.getElem?_eq_getElem lt, empty]

theorem step_honest {d : Deployment} {s s' : State} {action : Action}
    (latest : d.config.subscriberAlwaysSendLatest = true) (rings : Rings s) (honest : Honest s)
    (guard : ReadsNewest s action) (taken : step d s action = some s') : Honest s' := by
  have grown := (step_rings rings taken).2
  have kept : ∀ event ∈ s.link.history.reads, event.result.status = .message →
      ∃ body, (s'.logs event.topic)[event.result.messageSequence]? = some body ∧
        (body = [] → ∀ q text, event.consumerSequence ≤ q → q ≤ event.result.messageSequence →
          (s'.logs event.topic)[q]? = some text → text = []) := by
    intro event member status
    obtain ⟨body, found, below⟩ := honest event member status
    refine ⟨body, entry_kept (grown _) found, fun empty q text le upto at_ => ?_⟩
    obtain ⟨lt, _⟩ := List.getElem?_eq_some_iff.mp found
    have old : (s.logs event.topic)[q]? = some text := by
      rw [← at_]
      exact ((List.prefix_iff_getElem?.mp (grown event.topic)) q (by omega)).symm ▸
        List.getElem?_eq_getElem (by omega)
    exact below empty q text le upto old
  intro event member status
  rcases step_reads taken with same | ⟨outcome, topic, entry, ring, rfl, at_, made, more⟩
  · exact kept event (same ▸ member) status
  · rw [more, List.mem_append, List.mem_singleton] at member
    rcases member with old | rfl
    · exact kept event old status
    · have logs : s'.logs = s.logs := (writerStep_frame taken).logs
      obtain ⟨body, found, below⟩ := ringRead_honest topic latest (rings.holds made)
        (fun empty q text => guard.unread at_ empty) status
      rw [logs]
      exact ⟨body, found, fun empty q text le _ => below empty q text le⟩

/-! ### Every run -/

theorem reachable_bodied {d : Deployment} {s : State} (run : Run (step d) Free (initial d) s) : Bodied s :=
  run.keeps_under (fun _ before => reachable_sound before)
    (fun _ _ _ member => by simp [Link.carried, initial] at member)
    fun _ _ _ sound bodied _ taken => step_bodied sound bodied taken

theorem reachable_honest {d : Deployment} (latest : d.config.subscriberAlwaysSendLatest = true) {s : State}
    (run : Run (step d) ReadsNewest (initial d) s) : Honest s :=
  run.keeps_under
    (fun _ before => (reachable_delivering (before.weaken fun _ _ _ => trivial)).rings) nofun
    fun _ _ _ rings honest guard taken => step_honest latest rings honest guard taken

theorem Bodied.written {link : Link} {topic : Topic}
    (bodied : ∀ t q body, .business t q body ∈ link.carried → body ≠ [])
    (idle : link.output.pendingFrame = none) {item : Nat × Bytes} (member : item ∈ link.written topic) :
    item.2 ≠ [] := by
  rw [Link.written, Link.sentPending, idle, List.append_nil] at member
  obtain ⟨frame, sent, entry⟩ := List.mem_filterMap.mp member
  cases frame with
  | control => cases entry
  | business t q body =>
    simp only [WireFrame.entry?] at entry
    split at entry <;> cases entry
    exact bodied t q body (List.mem_append_left _ sent)

theorem getLast_of_ordered {items : List (Nat × Bytes)} (ordered : (items.map Prod.fst).Pairwise (· < ·))
    {item : Nat × Bytes} (member : item ∈ items) (largest : ∀ other ∈ items, other.1 ≤ item.1) :
    items.getLast? = some item := by
  rcases List.eq_nil_or_concat items with rfl | ⟨init, last, rfl⟩
  · cases member
  · rw [List.concat_eq_append] at *
    rw [List.getLast?_concat]
    rcases List.mem_append.mp member with early | only
    · rw [List.map_append, List.pairwise_append] at ordered
      have before := ordered.2.2 item.1 (List.mem_map_of_mem early) last.1 (by simp)
      have after := largest last (by simp)
      omega
    · rw [List.mem_singleton.mp only]

/-- In send-latest mode every run converges to the newest update in which no read takes an empty newest
message while a non-empty one is unread. -/
theorem latest_converges (d : Deployment) (latest : d.config.subscriberAlwaysSendLatest = true)
    {s : State} (run : Run (step d) ReadsNewest (initial d) s) {answer : Answer} {topic : Topic}
    (caughtUp : CaughtUp s answer topic) : Converged s answer topic := by
  intro sequence body after appended nonempty newest
  have free : Run (step d) Free (initial d) s := run.weaken fun _ _ _ => trivial
  have honest := reachable_honest latest run
  have rings := (reachable_delivering free).rings
  obtain ⟨start, entry, found, le, inOrder⟩ :=
    (delivered_in_order d free caughtUp.accepted caughtUp.last topic).1 caughtUp.asked
  have reached : entry.nextSequence = (s.logs topic).length := by
    have cursor := caughtUp.cursor
    rw [found, rings.nextSequence] at cursor
    exact Option.some.inj cursor
  obtain ⟨lt, _⟩ := List.getElem?_eq_some_iff.mp appended
  have written : (sequence, body) ∈ s.link.written topic := by
    rcases inOrder.accounted sequence (by omega) (by omega) with
      ⟨text, member⟩ | empty | ⟨event, read, rfl, skips⟩
    · obtain rfl : body = text := Option.some.inj (appended.symm.trans (inOrder.bodies _ member).2)
      exact member
    · exact absurd (Option.some.inj (appended.symm.trans empty)) nonempty
    · obtain ⟨text, taken, below⟩ := honest event read skips.message
      have empty := newest _ text skips.lt taken
      exact absurd (below empty sequence body skips.le (Nat.le_of_lt skips.lt) appended) nonempty
  refine getLast_of_ordered inOrder.ordered written fun other member => ?_
  by_contra later
  have empty := newest other.1 other.2 (by omega) (inOrder.bodies other member).2
  exact Bodied.written (reachable_bodied free) caughtUp.idle member empty

/-! ### An empty message over an unread one -/

/-- The default configuration in send-latest mode, for runs on concrete inputs. -/
def sampleLatest : Deployment :=
  { sample false with config := { subscriberAlwaysSendLatest := true } }

/-- A request for `T` is answered, `first` and `second` are appended, and the writer reads the ring. -/
def latestRun (first second : Bytes) : List Action :=
  [Action.reader .run, .reader (.request (.subscribe [ascii "T"])), .reader (.order [ascii "T"])] ++
    List.replicate 6 (Action.reader .run) ++
    [Action.publisher 0 (.create (ascii "T") first), .publisher 0 .run,
      .publisher 0 (.create (ascii "T") second), .publisher 0 .run] ++
    List.replicate 5 (Action.writer .interrupted) ++ [Action.writer (.accepted 19)] ++
    List.replicate 12 (Action.writer .interrupted)

def latestTest (s : State) (written : List (Nat × Bytes)) : Bool :=
  decide (s.alived = true ∧ s.link.history.answers.map Answer.record = [0] ∧
    s.link.history.answers.map Answer.topics = [[ascii "T"]] ∧
    s.link.history.answers.map (fun answer => answer.nextSequence (ascii "T")) = [0] ∧
    s.link.records.length = 1 ∧ s.link.output.pendingFrame = none ∧
    (s.link.getMeta 0 (ascii "T")).map ConsumeMeta.nextSequence = some (s.nextSequence (ascii "T")) ∧
    s.link.written (ascii "T") = written)

theorem latestTest_caughtUp {s : State} {written : List (Nat × Bytes)}
    (passed : latestTest s written = true) : ∃ answer, CaughtUp s answer (ascii "T") ∧
      answer.nextSequence (ascii "T") = 0 ∧ s.link.written (ascii "T") = written := by
  obtain ⟨live, records, topics, next, length, idle, cursor, sent⟩ := of_decide_eq_true passed
  obtain ⟨answer, accepted⟩ := List.length_eq_one_iff.mp
    (show s.link.history.answers.length = 1 by simpa using congrArg List.length records)
  rw [accepted] at records topics next
  have record : answer.record = 0 := by simpa using records
  have asked : answer.topics = [ascii "T"] := by simpa using topics
  refine ⟨answer, ⟨live, accepted, by rw [record, length], ?_, idle, by rw [record]; exact cursor⟩, ?_,
    sent⟩
  · rw [asked]
    exact List.mem_singleton_self _
  · simpa using next

theorem latest_converges_two_messages : ∃ s answer,
    Run (step sampleLatest) ReadsNewest (initial sampleLatest) s ∧ CaughtUp s answer (ascii "T") ∧
    s.link.written (ascii "T") = [(1, ascii "n")] ∧ Converged s answer (ascii "T") := by
  obtain ⟨s, run, passed⟩ := Run.exists_of_replay (step sampleLatest) ReadsNewest (initial sampleLatest)
    (latestRun (ascii "m") (ascii "n") ++
      [.writer (.accepted 10), .writer .interrupted, .writer .interrupted])
    (fun s => latestTest s [(1, ascii "n")]) (by decide +kernel)
  obtain ⟨answer, caughtUp, _, sent⟩ := latestTest_caughtUp passed
  exact ⟨s, answer, run, caughtUp, sent, latest_converges sampleLatest rfl run caughtUp⟩

/-- `m` and an empty message are appended before the writer reads: the cursor passes both, and `m` is
never written. -/
theorem latest_update_lost : ∃ s answer,
    Run (step sampleLatest) Free (initial sampleLatest) s ∧ CaughtUp s answer (ascii "T") ∧
    ¬ Converged s answer (ascii "T") := by
  obtain ⟨s, run, passed⟩ := Run.exists_of_replay (step sampleLatest) Free (initial sampleLatest)
    (latestRun (ascii "m") [])
    (fun s => latestTest s [] && decide (s.logs (ascii "T") = [ascii "m", []])) (by decide +kernel)
  rw [Bool.and_eq_true] at passed
  obtain ⟨answer, caughtUp, next, sent⟩ := latestTest_caughtUp passed.1
  have logs := of_decide_eq_true passed.2
  refine ⟨s, answer, run, caughtUp, fun converged => ?_⟩
  have lost := converged 0 (ascii "m") (by omega) (by rw [logs]; rfl) (by decide) ?_
  · rw [sent] at lost
    cases lost
  · intro q text lt found
    rw [logs] at found
    obtain ⟨below, _⟩ := List.getElem?_eq_some_iff.mp found
    obtain rfl : q = 1 := by simp at below; omega
    exact (Option.some.inj found).symm

end MessageRepeater.Subscriber
