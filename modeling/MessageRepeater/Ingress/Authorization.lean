import MessageRepeater.Ingress.Inputs

/-!
# Topic authorization

The filters stand where topics come in. From there on a name travels through circles, records, queues
and program counters, and none of them makes up a name.
-/

namespace MessageRepeater.Ingress
open Foundation Combiner Config Connection Subscriber Publisher

theorem subscribable_iff {context : GlobalContext} {topic : Topic} :
    subscribable context topic = true ↔ context.isAllownTopic topic = true ∧
      context.isEnabledSubscribeTopic topic = true ∧ context.isDisabledSubscribeTopic topic = false := by
  simp [subscribable, and_assoc]

theorem controlReply_reserved {topic message : Bytes} (reply : ControlReply topic message) :
    GlobalContext.isReservedTopic topic = true := by
  rcases reply with ⟨rfl, _⟩ | ⟨rfl, _⟩ <;> decide

/-- In every run of either writer, every circle is of an allowed topic. The connection's wire is a
sequence of frames: the control frames carry reserved names, and the business frames carry topics that
the client has named and that pass all filters, so no reserved name. -/
theorem topic_authorization (site : Site) {s : State} (run : Run (step site) Free (initial site) s) :
    (∀ topic ring, s.system.store.getCircle topic = some ring →
      site.context.isAllownTopic topic = true) ∧
    s.system.link.history.wire <+: (s.system.link.carried.map WireFrame.image).flatten ∧
    (∀ topic sequence body, .business topic sequence body ∈ s.system.link.carried →
      (∃ text ∈ s.texts, Names site.parse text topic) ∧ site.context.isAllownTopic topic = true ∧
        site.context.isEnabledSubscribeTopic topic = true ∧
        site.context.isDisabledSubscribeTopic topic = false ∧
        GlobalContext.isReservedTopic topic = false) ∧
    (∀ data, .control data ∈ s.system.link.carried → ∃ topic message,
      data = encodeSocketFrame topic message ∧ GlobalContext.isReservedTopic topic = true) := by
  have free := run_system run
  have provenance : Provenance (Asked site s) _ (fun _ => True) s.system :=
    run_provenance (fun _ _ _ _ _ _ _ => trivial) run
  have framed := (reachable_sound free).framed
  refine ⟨fun topic ring held => (provenance.circles topic ring held).1, ?_, ?_, ?_⟩
  · obtain ⟨missing, wire⟩ := framed.carried_wire
    exact ⟨missing, wire⟩
  · intro topic sequence body sent
    obtain ⟨⟨named, passes⟩, _⟩ := provenance.frames topic sequence body sent
    obtain ⟨allowed, enabled, undisabled⟩ := subscribable_iff.mp passes
    exact ⟨named, allowed, enabled, undisabled, GlobalContext.isAllownTopic_not_reserved allowed⟩
  · intro data sent
    obtain ⟨topic, message, reply, image⟩ := reachable_replied free data (framed.control_queued sent)
    exact ⟨topic, message, image, controlReply_reserved reply⟩

/-! ### A run with one request and one message -/

/-- A subscribe request for the topic `T`. -/
def requestText : Bytes := ascii "\x7b\"topics\":[\"T\"]\x7d"

/-- A site that lets `T` in, with a library that can read `requestText`. -/
def sampleSite : Site where
  deployment := { sample false with config := { allownTopics := [ascii "T"] } }
  parse text :=
    if text = requestText then .object [(ascii "topics", .array [.scalar (ascii "T")])] else .null

/-- The client asks for `T`, a publisher sends `m`, and the answer and the message go out. -/
def requestAndMessage : List Input :=
  [Input.turn (.reader .run), .clientFrame (encodeSocketFrame messageOpSubscribe requestText),
    .turn (.reader (.order [ascii "T"]))] ++
  List.replicate 6 (Input.turn (.reader .run)) ++
  [Input.publisherFrame 0 (encodeSocketFrame (ascii "T") (ascii "m")), .turn (.publisher 0 .run)] ++
  List.replicate 5 (Input.turn (.writer .interrupted)) ++ [Input.turn (.writer (.accepted 19))] ++
  List.replicate 12 (Input.turn (.writer .interrupted)) ++ [Input.turn (.writer (.accepted 4))]

theorem requestAndMessage_run : ∃ s, Run (step sampleSite) Free (initial sampleSite) s ∧
    s.system.link.carried = [.control okResponse, .business (ascii "T") 0 (ascii "m")] := by
  obtain ⟨s, run, passed⟩ := Run.exists_of_replay (step sampleSite) Free (initial sampleSite)
    requestAndMessage
    (fun s => s.system.link.carried = [.control okResponse, .business (ascii "T") 0 (ascii "m")])
    (by decide +kernel)
  exact ⟨s, run, of_decide_eq_true passed⟩

theorem topic_authorization_one_message : ∃ s, Run (step sampleSite) Free (initial sampleSite) s ∧
    .business (ascii "T") 0 (ascii "m") ∈ s.system.link.carried ∧
    ∃ text ∈ s.texts, Names sampleSite.parse text (ascii "T") := by
  obtain ⟨s, run, carried⟩ := requestAndMessage_run
  have sent : .business (ascii "T") 0 (ascii "m") ∈ s.system.link.carried := by
    rw [carried]
    simp
  obtain ⟨_, _, business, _⟩ := topic_authorization sampleSite run
  exact ⟨s, run, sent, (business (ascii "T") 0 (ascii "m") sent).1⟩

end MessageRepeater.Ingress
