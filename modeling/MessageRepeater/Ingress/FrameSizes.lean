import MessageRepeater.Ingress.BodyLimit

/-!
# The size limits of the relay

Whatever a repeater writes to a subscriber fits the reader of the next layer connection. The bodies are
bounded where they come in, the topics by the size of the subscribe request that named them.
-/

namespace MessageRepeater.Ingress
open Foundation Combiner Config Connection Subscriber Publisher

/-- The string value of an element is no longer than the text it was read from, or than 64 bytes. -/
def StringsBounded (parse : Bytes → JsonValue) : Prop :=
  ∀ text element value, element ∈ (parse text).topics → element.asString = some value →
    ∃ source, source <:+: text ∧ value.length ≤ max source.length 64

/-- The fields of a frame on the wire. -/
def Encodes (frame : WireFrame) (fields : Bytes × Bytes) : Prop :=
  frame.image = Layer.image fields ∧
    ∀ topic sequence body, frame = .business topic sequence body → fields = (topic, body)

theorem encodes_images {frames : List WireFrame} {fields : List (Bytes × Bytes)}
    (encodes : List.Forall₂ Encodes frames fields) :
    frames.map WireFrame.image = fields.map Layer.image := by
  induction encodes with
  | nil => rfl
  | cons first _ ih => rw [List.map_cons, List.map_cons, first.1, ih]

theorem exists_forall₂ {α β : Type} {related : α → β → Prop} {good : β → Prop} {xs : List α}
    (choice : ∀ x ∈ xs, ∃ y, related x y ∧ good y) :
    ∃ ys, List.Forall₂ related xs ys ∧ ∀ y ∈ ys, good y := by
  induction xs with
  | nil => exact ⟨[], .nil, nofun⟩
  | cons x xs ih =>
    obtain ⟨y, first, holds⟩ := choice x List.mem_cons_self
    obtain ⟨ys, later, all⟩ := ih fun x' member => choice x' (List.mem_cons_of_mem x member)
    exact ⟨y :: ys, .cons first later, List.forall_mem_cons.mpr ⟨holds, all⟩⟩

/-! ### Where the bounds come from -/

def ShortTexts (s : State) : Prop := ∀ text ∈ s.texts, text.length ≤ maxMessageSize

theorem step_shortTexts {site : Site} {s s' : State} {input : Input} (short : ShortTexts s)
    (taken : step site s input = some s') : ShortTexts s' := by
  intro text member
  obtain ⟨_, _, _, texts⟩ := step_system taken
  rw [texts] at member
  rcases List.mem_append.mp member with old | new
  · exact short text old
  · cases input with
    | clientFrame received =>
      simp only [Input.subscribeText] at new
      split at new
      · rename_i read
        split at new
        · rw [List.mem_singleton.mp new]
          exact receive_message_le read
        · cases new
      · cases new
    | _ => cases new

theorem named_le {parse : Bytes → JsonValue} (bounded : StringsBounded parse) {text topic : Bytes}
    (short : text.length ≤ maxMessageSize) (named : Names parse text topic) :
    topic.length ≤ Layer.maxLayerFrameFieldSize := by
  obtain ⟨element, member, value⟩ := named
  obtain ⟨source, part, le⟩ := bounded text element topic member value
  have within := part.length_le
  unfold maxMessageSize at short
  unfold Layer.maxLayerFrameFieldSize
  omega

theorem controlReply_fits {topic message : Bytes} (reply : ControlReply topic message) :
    Layer.Fits (topic, message) := by
  rcases reply with ⟨rfl, rfl⟩ | ⟨rfl, text, member, rfl⟩
  · exact ⟨by decide, by decide⟩
  · simp only [responseTexts, List.mem_cons, List.not_mem_nil, or_false] at member
    rcases member with rfl | rfl | rfl <;> exact ⟨by decide, by decide⟩

/-- The bodies that come in have at most 65536 bytes on either path. -/
theorem run_bodies {site : Site} {s : State} (run : Run (step site) Free (initial site) s) :
    Provenance (Asked site s) (fun topic => site.context.isAllownTopic topic = true)
      (fun body => body.length ≤ Layer.maxLayerFrameFieldSize) s.system := by
  refine run_provenance (fun before input id topic message _ decoded => ?_) run
  rcases decode_body decoded with ⟨_, short⟩ | ⟨read, _⟩
  · exact short
  · cases input with
    | layerFrame id events => exact (Layer.readSocketFrame_fits read).2
    | _ => cases read

theorem run_fits {site : Site} (bounded : StringsBounded site.parse) {s : State}
    (run : Run (step site) Free (initial site) s) :
    ∀ frame ∈ s.system.link.carried, ∃ fields, Encodes frame fields ∧ Layer.Fits fields := by
  have free := run_system run
  have short : ShortTexts s :=
    run.keeps (fun _ member => absurd member List.not_mem_nil)
      fun _ _ _ short _ taken => step_shortTexts short taken
  intro frame sent
  cases frame with
  | business topic sequence body =>
    obtain ⟨⟨⟨text, member, named⟩, _⟩, fits⟩ := (run_bodies run).frames topic sequence body sent
    refine ⟨(topic, body), ⟨rfl, ?_⟩, named_le bounded (short text member) named, fits⟩
    rintro _ _ _ ⟨⟩
    rfl
  | control data =>
    have framed := (reachable_sound free).framed
    obtain ⟨topic, message, reply, rfl⟩ := reachable_replied free data (framed.control_queued sent)
    exact ⟨(topic, message), ⟨rfl, nofun⟩, controlReply_fits reply⟩

/-- In every run of either writer the wire is a sequence of frames with both fields within 65536 bytes.
Their lengths survive the casts of `encodeSocketFrame`, and a layer connection that reads the wire, cut
in any way and at any point, gets these frames in order and never answers `TooLarge`. The layer frames
that this repeater has read itself may be anything, so the same holds of every repeater of a chain. -/
theorem relay_closure (site : Site) (bounded : StringsBounded site.parse) {s : State}
    (run : Run (step site) Free (initial site) s) :
    ∃ frames : List (Bytes × Bytes), List.Forall₂ Encodes s.system.link.carried frames ∧
      s.system.link.history.wire <+: frames.flatMap Layer.image ∧
      (∀ frame ∈ frames, frame.1.length ≤ 65536 ∧ frame.2.length ≤ 65536 ∧
        ofBe (be32 frame.1.length) = frame.1.length ∧ ofBe (be32 frame.2.length) = frame.2.length) ∧
      ∀ events calls, stream events <+: s.system.link.history.wire →
        (Layer.readLoop calls events).1 <+: frames ∧
          (Layer.readLoop calls events).2 ≠ some .tooLarge := by
  obtain ⟨frames, encodes, fits⟩ : ∃ frames : List (Bytes × Bytes),
      List.Forall₂ Encodes s.system.link.carried frames ∧ ∀ frame ∈ frames, Layer.Fits frame :=
    exists_forall₂ (run_fits bounded run)
  obtain ⟨missing, wire⟩ := (reachable_sound (run_system run)).framed.carried_wire
  have sent : s.system.link.history.wire <+: frames.flatMap Layer.image :=
    ⟨missing, by rw [wire, encodes_images encodes, List.flatMap]⟩
  refine ⟨frames, encodes, sent, fun frame member => ?_, fun events calls arrived => ?_⟩
  · have fit := fits frame member
    obtain ⟨topic_lt, message_lt⟩ := fit.lt
    exact ⟨fit.1, fit.2, ofBe_be32 topic_lt, ofBe_be32 message_lt⟩
  · exact Layer.readLoop_fitting fits (arrived.trans sent) calls

theorem sampleSite_bounded : StringsBounded sampleSite.parse := by
  intro text element value member string
  by_cases request : text = requestText
  · have elements : (sampleSite.parse text).topics = [.scalar (ascii "T")] := by
      rw [request]
      rfl
    rw [elements, List.mem_singleton] at member
    subst member
    cases string
    exact ⟨ascii "T", request ▸ ⟨ascii "\x7b\"topics\":[\"", ascii "\"]\x7d", by decide⟩, by decide⟩
  · have elements : (sampleSite.parse text).topics = [] := by
      simp [sampleSite, request, JsonValue.topics]
    rw [elements] at member
    cases member

theorem relay_closure_one_message : ∃ s, Run (step sampleSite) Free (initial sampleSite) s ∧
    s.system.link.carried = [.control okResponse, .business (ascii "T") 0 (ascii "m")] ∧
    ∃ frames : List (Bytes × Bytes), List.Forall₂ Encodes s.system.link.carried frames ∧
      s.system.link.history.wire <+: frames.flatMap Layer.image := by
  obtain ⟨s, run, carried⟩ := requestAndMessage_run
  obtain ⟨frames, encodes, sent, _⟩ := relay_closure sampleSite sampleSite_bounded run
  exact ⟨s, run, carried, frames, encodes, sent⟩

end MessageRepeater.Ingress
