import MessageRepeater.Ingress.Authorization

/-!
# The body limit

`max_message_body_size` bounds what publishers may store. The layer connections read bodies of up to
65536 bytes and store them without a look at the limit.
-/

namespace MessageRepeater.Ingress
open Foundation Combiner Config Connection Subscriber Publisher

/-- Every message in a circle is within the configured limit. -/
def BodiesWithin (site : Site) (s : State) : Prop :=
  ∀ topic ring message, s.system.store.getCircle topic = some ring → some message ∈ ring.circle →
    (message.body.length : Int) ≤ site.deployment.config.maxMessageBodySize

/-- The frame that a layer connection reads. -/
def Input.layerRead : Input → Option (Bytes × Bytes)
  | .layerFrame _ events => (Layer.readSocketFrame events).1
  | _ => none

/-- The body that a layer connection reads for an allowed topic is within the limit. -/
def LayerFits (site : Site) (_ : State) (input : Input) : Prop :=
  ∀ frame ∈ input.layerRead, site.context.isAllownTopic frame.1 = true →
    (frame.2.length : Int) ≤ site.deployment.config.maxMessageBodySize

instance (site : Site) (s : State) (input : Input) : Decidable (LayerFits site s input) :=
  inferInstanceAs (Decidable (∀ _ ∈ _, _ → _))

theorem toUnsigned64_le {n : Int} (nonneg : 0 ≤ n) : (toUnsigned64 n : Int) ≤ n := by
  unfold toUnsigned64
  omega

/-- What a message has passed when it comes in: the checks of the publisher loop, or none but those of
the layer reader. -/
theorem decode_body {site : Site} {input : Input} {id : Nat} {topic : Topic} {message : Bytes}
    (decoded : decode site input = some (.publisher id (.create topic message)) ∨
      decode site input = some (.publisher id (.relay topic message))) :
    (message.length ≤ toUnsigned64 site.deployment.config.maxMessageBodySize ∧
        message.length ≤ maxMessageSize) ∨
      (input.layerRead = some (topic, message) ∧ site.context.isAllownTopic topic = true) := by
  rcases decoded with created | relayed
  · cases decode_cases created with
    | create _ fits short => exact .inl ⟨fits, short⟩
    | other nothing => exact (nothing (fun _ => False) (fun _ => False) (fun _ => False)).1.elim
  · cases decode_cases relayed with
    | relay from_ read allowed =>
      subst from_
      exact .inr ⟨read, allowed⟩
    | other nothing => exact (nothing (fun _ => False) (fun _ => False) (fun _ => False)).elim

/-- Both paths together keep to the limit where the layer connections bring in nothing beyond it. -/
theorem stored_bodies_within_limit (site : Site)
    (nonneg : 0 ≤ site.deployment.config.maxMessageBodySize) {s : State}
    (run : Run (step site) (LayerFits site) (initial site) s) : BodiesWithin site s := by
  have provenance : Provenance (Asked site s) (fun topic => site.context.isAllownTopic topic = true)
      (fun body => (body.length : Int) ≤ site.deployment.config.maxMessageBodySize) s.system := by
    refine run_provenance (fun before input id topic message fits decoded => ?_) run
    rcases decode_body decoded with ⟨published, _⟩ | ⟨read, allowed⟩
    · have limit := toUnsigned64_le nonneg
      omega
    · exact fits _ read allowed
  intro topic ring message held stored
  exact (provenance.circles topic ring held).2 message stored

/-! ### A body of two bytes under a limit of one -/

/-- A site with a limit of one byte that is subscribed to `T` of another repeater. -/
def limitedSite : Site where
  deployment :=
    { sample false with
      config :=
        { maxMessageBodySize := 1
          allownTopics := [ascii "T"]
          layerSubscribeTopics := [ascii "T"]
          layerSubscribeAddresses := [ascii "127.0.0.1:20001"] } }
  parse _ := .null

/-- `start_layer_replay` makes the circle, and a layer connection reads one frame. -/
def layerBody (body : Bytes) : List Input :=
  [.prepare 0 (ascii "T"), .layerFrame 0 [.chunk 0 (encodeSocketFrame (ascii "T") body).tail],
    .turn (.publisher 0 .run)]

/-- The test that `body` is in the circle of `T`. -/
def holdsBody (body : Bytes) (s : State) : Bool :=
  match s.system.store.getCircle (ascii "T") with
  | none => false
  | some ring => ring.circle.contains (some { sequence := 0, body })

theorem holdsBody_spec {body : Bytes} {s : State} (held : holdsBody body s = true) : ∃ ring,
    s.system.store.getCircle (ascii "T") = some ring ∧ some { sequence := 0, body } ∈ ring.circle := by
  unfold holdsBody at held
  split at held
  · cases held
  · rename_i ring made
    exact ⟨ring, made, List.contains_iff_mem.mp held⟩

theorem stored_bodies_within_limit_one_byte : ∃ s,
    Run (step limitedSite) (LayerFits limitedSite) (initial limitedSite) s ∧
      holdsBody (ascii "m") s = true ∧ BodiesWithin limitedSite s := by
  obtain ⟨s, run, held⟩ := Run.exists_of_replay (step limitedSite) (LayerFits limitedSite)
    (initial limitedSite) (layerBody (ascii "m")) (holdsBody (ascii "m")) (by decide +kernel)
  exact ⟨s, run, held, stored_bodies_within_limit limitedSite (by decide) run⟩

theorem layer_body_beyond_limit :
    ¬ ∀ s, Run (step limitedSite) Free (initial limitedSite) s → BodiesWithin limitedSite s := by
  intro always
  obtain ⟨s, run, held⟩ := Run.exists_of_replay (step limitedSite) Free (initial limitedSite)
    (layerBody (ascii "mm")) (holdsBody (ascii "mm")) (by decide +kernel)
  obtain ⟨ring, made, stored⟩ := holdsBody_spec held
  exact absurd (always s run _ ring _ made stored) (by decide)

end MessageRepeater.Ingress
