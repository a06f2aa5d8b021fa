import MessageRepeater.Subscriber.Acknowledgement

/-!
# Where topics and bodies come from

What holds of every topic that is published, of every body that is stored and of every topic that the
client asks for holds of the circles, of the records and of the business frames too.
-/

namespace MessageRepeater.Subscriber
open Foundation Combiner Config Connection

variable {asked stored : Topic → Prop} {body : Bytes → Prop}

/-- The action brings in only what the three predicates let in. -/
def LetIn (asked stored : Topic → Prop) (body : Bytes → Prop) : Action → Prop
  | .publisher _ (.create topic message) => stored topic ∧ body message
  | .publisher _ (.relay _ message) => body message
  | .publisher _ (.prepare topic) => stored topic
  | .reader (.request (.subscribe topics)) => ∀ topic ∈ topics, asked topic
  | _ => True

/-- Every message in a slot of the ring has an allowed body. -/
def HoldsOnly (body : Bytes → Prop) (ring : MessageCircle) : Prop :=
  ∀ message, some message ∈ ring.circle → body message.body

structure Provenance (asked stored : Topic → Prop) (body : Bytes → Prop) (s : State) : Prop where
  storing : ∀ id topic message, s.publishers id = .append topic message → body message
  circles : ∀ topic ring, s.store.getCircle topic = some ring → stored topic ∧ HoldsOnly body ring
  request : ∀ topics, s.reader = .createRecord topics → ∀ topic ∈ topics, asked topic
  records : ∀ record topic, (s.link.getMeta record topic).isSome = true → asked topic
  frames : ∀ topic sequence message, .business topic sequence message ∈ s.link.carried →
    asked topic ∧ body message

/-! ### Rings -/

theorem new_holdsOnly {topic : Topic} {size : Int} {ring : MessageCircle}
    (made : MessageCircle.new topic size = .ok ring) : HoldsOnly body ring := by
  unfold MessageCircle.new at made
  split at made
  · cases made
  · cases made
    intro message member
    cases List.eq_of_mem_replicate member

theorem append_holdsOnly {ring ring' : MessageCircle} {message : Bytes} (only : HoldsOnly body ring)
    (allowed : body message) (appended : ring.append message = (.appended, ring')) :
    HoldsOnly body ring' := by
  unfold MessageCircle.append at appended
  split at appended
  · cases appended
  · cases appended
    intro held member
    rcases List.mem_or_eq_of_mem_set member with old | new
    · exact only held old
    · cases new
      exact allowed

theorem readSlot_message {ring : MessageCircle} {sendLatest : Bool} {policy : SubscriberOverrunPolicy}
    {target : Nat} {result : MessageReadResult} {found : Bytes} (unset : result.message = none)
    (read : (ring.readSlot sendLatest policy target result).message = some found) :
    ∃ message, some message ∈ ring.circle ∧ message.body = found := by
  unfold MessageCircle.readSlot at read
  split at read
  · rw [unset] at read
    cases read
  · rename_i slot held
    split at read
    · rw [unset] at read
      cases read
    · refine ⟨slot, ?_, Option.some.inj read⟩
      obtain ⟨lt, at_⟩ := List.getElem?_eq_some_iff.mp (Option.join_eq_some_iff.mp held)
      exact at_ ▸ List.getElem_mem lt

theorem read_message {ring : MessageCircle} {consumerSequence : Nat} {sendLatest : Bool}
    {policy : SubscriberOverrunPolicy} {found : Bytes}
    (read : (ring.read consumerSequence sendLatest policy).message = some found) :
    ∃ message, some message ∈ ring.circle ∧ message.body = found := by
  unfold MessageCircle.read at read
  dsimp only at read
  split at read
  · cases read
  · split at read
    · exact readSlot_message rfl read
    · split at read
      · split at read
        · cases read
        · exact readSlot_message rfl read
        · exact readSlot_message rfl read
      · exact readSlot_message rfl read

/-! ### Steps -/

theorem Provenance.mono {asked' : Topic → Prop} {s : State} (provenance : Provenance asked stored body s)
    (more : ∀ topic, asked topic → asked' topic) : Provenance asked' stored body s := by
  obtain ⟨storing, circles, request, records, frames⟩ := provenance
  exact ⟨storing, circles, fun topics at_ topic member => more _ (request topics at_ topic member),
    fun record topic present => more _ (records record topic present),
    fun topic sequence message sent => (frames topic sequence message sent).imp_left (more _)⟩

theorem publisherStep_circles {d : Deployment} {s s' : State} {id : Nat} {input : PublisherInput}
    (provenance : Provenance asked stored body s)
    (letIn : LetIn asked stored body (.publisher id input))
    (taken : publisherStep d s id input = some s') :
    (∀ id topic message, s'.publishers id = .append topic message → body message) ∧
      ∀ topic ring, s'.store.getCircle topic = some ring → stored topic ∧ HoldsOnly body ring := by
  obtain ⟨storing, circles, _, _, _⟩ := provenance
  have moved : ∀ {t : State} {pc : PublisherPc}, t.publishers = s.publishers →
      (∀ topic message, pc = .append topic message → body message) →
      ∀ i topic message, (t.setPublisher id pc).publishers i = .append topic message →
        body message := by
    intro t pc same allowed i topic message at_
    simp only [State.setPublisher, same] at at_
    split at at_
    · exact allowed topic message at_
    · exact storing i topic message at_
  have made : ∀ {topic : Topic} {made : Bool} {store : MessageCircleComposite}, stored topic →
      s.store.createCircleIfAbsent topic d.config.maxTopicCircleSize = .ok (made, store) →
      ∀ t ring, store.getCircle t = some ring → stored t ∧ HoldsOnly body ring := by
    intro topic made store allowed created t ring held
    rcases createCircleIfAbsent_rings created t with same | ⟨absent, fresh, new, new_eq⟩
    · exact circles t ring (same ▸ held)
    · obtain rfl : fresh = ring := Option.some.inj (new_eq.symm.trans held)
      refine ⟨?_, new_holdsOnly new⟩
      by_cases same : t = topic
      · exact same ▸ allowed
      · rw [createCircleIfAbsent_other created same, absent] at new_eq
        cases new_eq
  unfold publisherStep at taken
  split at taken
  case h_1 topic message _ =>
    split at taken
    · cases taken
    · cases taken
      exact ⟨storing, circles⟩
    · rename_i store created
      cases taken
      refine ⟨moved rfl ?_, made letIn.1 created⟩
      rintro _ _ ⟨⟩
      exact letIn.2
  case h_2 topic _ =>
    split at taken
    · cases taken
    · rename_i store created
      cases taken
      exact ⟨storing, made letIn created⟩
  case h_3 topic message _ =>
    cases taken
    refine ⟨moved rfl ?_, circles⟩
    rintro _ _ ⟨⟩
    exact letIn
  case h_4 topic message at_ =>
    split at taken
    · cases taken
    · cases taken
      exact ⟨moved rfl nofun, circles⟩
    · rename_i store appended
      cases taken
      refine ⟨moved rfl ?_, ?_⟩
      · split <;> nofun
      · obtain ⟨ring, ring', held, pushed, new, others⟩ := appendMessageToCircle_rings appended
        intro t ring₀ held₀
        by_cases same : t = topic
        · subst same
          obtain rfl := Option.some.inj (new.symm.trans held₀)
          obtain ⟨allowed, only⟩ := circles t ring held
          exact ⟨allowed, append_holdsOnly only (storing id t message at_) pushed⟩
        · exact circles t ring₀ ((others t same) ▸ held₀)
  case h_5 =>
    cases taken
    refine ⟨moved rfl ?_, circles⟩
    split <;> nofun
  case h_6 =>
    cases taken
    exact ⟨moved rfl nofun, circles⟩
  case h_7 => cases taken

/-- The reading thread comes to make a record only by a subscribe request. -/
theorem readerStep_request {d : Deployment} {s s' : State} {input : ReaderInput} {topics : List Topic}
    (taken : readerStep d s input = some s') (at_ : s'.reader = .createRecord topics) :
    input = .request (.subscribe topics) := by
  have goes := readerStep_goes taken
  rw [at_] at goes
  cases goes with
  | quiet quiet => cases quiet
  | create asked => exact asked

/-- A topic comes into a record only by the request that the reading thread makes the record for. -/
theorem step_present {d : Deployment} {s s' : State} {action : Action}
    (taken : step d s action = some s') {record : Nat} {topic : Topic}
    (present : (s'.link.getMeta record topic).isSome = true) :
    (s.link.getMeta record topic).isSome = true ∨
      ∃ topics, s.reader = .createRecord topics ∧ topic ∈ topics := by
  rcases step_output taken with moved | ⟨moved, _⟩ | frame
  · exact .inl (moved.present record topic ▸ present)
  · cases moved with
    | same link_eq => exact .inl (link_eq ▸ present)
    | enqueue _ pushed link_eq =>
      rw [link_eq] at present
      have records := (enqueueControlFrame_link pushed).1
      rw [getMeta_congr (show (Link.noteAnswers _ _).records = _ from records)] at present
      exact .inl present
    | @create topics order at_ link_eq =>
      rw [link_eq, Link.createRecord_getMeta] at present
      split at present
      · split at present
        · rename_i asked
          exact .inr ⟨topics, at_, asked⟩
        · cases present
      · exact .inl present
    | initializeTopic _ link_eq =>
      rw [link_eq, initializeTopic_present] at present
      exact .inl present
  · exact .inl (frame.link ▸ present)

theorem step_provenance {d : Deployment} {s s' : State} {action : Action} (sound : Sound s)
    (due : CallDue d.config s s.writer.call) (provenance : Provenance asked stored body s)
    (letIn : LetIn asked stored body action) (taken : step d s action = some s') :
    Provenance asked stored body s' := by
  have stocked : (∀ id topic message, s'.publishers id = .append topic message → body message) ∧
      ∀ topic ring, s'.store.getCircle topic = some ring → stored topic ∧ HoldsOnly body ring := by
    by_cases publishes : ∃ id input, action = .publisher id input
    · obtain ⟨id, input, rfl⟩ := publishes
      exact publisherStep_circles provenance letIn taken
    · obtain ⟨store, _, publishers⟩ := step_stores (fun id input same => publishes ⟨id, input, same⟩) taken
      rw [store, publishers]
      exact ⟨provenance.storing, provenance.circles⟩
  refine ⟨stocked.1, stocked.2, ?_, ?_, ?_⟩
  · intro topics at_
    by_cases reads : ∃ input, action = .reader input
    · obtain ⟨input, rfl⟩ := reads
      obtain rfl := readerStep_request taken at_
      exact letIn
    · refine provenance.request topics ?_
      rw [← at_, step_reader (fun input same => reads ⟨input, same⟩) taken]
  · intro record topic present
    rcases step_present taken present with before | ⟨topics, at_, member⟩
    · exact provenance.records record topic before
    · exact provenance.request topics at_ topic member
  · intro topic sequence message sent
    rcases (step_carries sound taken).2 with same | ⟨bytes, more⟩ |
      ⟨t, entry, frame, at_, _, parks, more⟩
    · exact provenance.frames topic sequence message (same ▸ sent)
    · rw [more] at sent
      rcases List.mem_append.mp sent with before | new
      · exact provenance.frames topic sequence message before
      · cases List.mem_singleton.mp new
    · rw [more] at sent
      rcases List.mem_append.mp sent with before | new
      · exact provenance.frames topic sequence message before
      · obtain rfl := List.mem_singleton.mp new
        cases parks with
        | message made read found nonempty =>
          rw [at_] at due
          obtain ⟨record, _, held, _⟩ := due
          refine ⟨provenance.records record topic (by rw [held]; rfl), ?_⟩
          obtain ⟨stored, slot, rfl⟩ := read_message (read ▸ found)
          exact (provenance.circles topic _ made).2 stored slot

theorem initial_provenance (d : Deployment) : Provenance asked stored body (initial d) where
  storing _ _ _ := nofun
  circles topic ring held := by
    simp [initial, MessageCircleComposite.init, MessageCircleComposite.getCircle] at held
  request _ := nofun
  records record topic present := by
    simp [initial, Link.getMeta] at present
  frames topic sequence message sent := by
    simp [initial, Link.carried] at sent

end MessageRepeater.Subscriber
