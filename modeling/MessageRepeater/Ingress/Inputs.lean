import MessageRepeater.Layer.LayerConnector
import MessageRepeater.Publisher.AcceptHandle
import MessageRepeater.Subscriber.Provenance
import MessageRepeater.Subscriber.SubscribeRequest

/-!
# What comes into a repeater

The threads around a subscriber connection with the bytes that reach them from outside: frames of
publishers, of the layer connections and of the client itself. Each input is read and checked by the
code of its own path, and what is left of it is an action of the system.
-/

namespace MessageRepeater.Ingress
open Foundation Combiner Config Connection Subscriber Publisher

/-- A deployment with its JSON library. -/
structure Site where
  deployment : Deployment
  parse : Bytes → JsonValue

def Site.context (site : Site) : GlobalContext := .init site.deployment.config

/-- What reaches the process, and the steps that need nothing from outside. The bytes are those from
the head of a frame on. -/
inductive Input where
  | publisherFrame (id : Nat) (received : Bytes)
  | layerFrame (id : Nat) (events : List RecvEvent)
  | prepare (id : Nat) (topic : Topic)
  | clientFrame (received : Bytes)
  | turn (action : Action)
  deriving DecidableEq, Repr

/-- The actions that bring nothing in. -/
def internal : Action → Bool
  | .publisher _ .run => true
  | .publisher _ _ | .reader (.request _) => false
  | _ => true

/-- The action that an input comes to, `none` if the code drops it. The reading thread reads a frame in
the same steps as the publisher loop. -/
def decode (site : Site) : Input → Option Action
  | .publisherFrame id received =>
    match receive received with
    | .frame topicBuffer messageBuffer _ =>
      (accepted site.deployment.config site.context topicBuffer messageBuffer).map fun entry =>
        .publisher id (.create entry.1 entry.2)
    | _ => none
  | .layerFrame id events =>
    match (Layer.readSocketFrame events).1 with
    | some frame =>
      (Layer.relayed site.context frame.1 frame.2).map fun entry =>
        .publisher id (.relay entry.1 entry.2)
    | none => none
  | .prepare id topic =>
    if topic ∈ Layer.preparedTopics site.context then some (.publisher id (.prepare topic)) else none
  | .clientFrame received =>
    match receive received with
    | .frame topicBuffer messageBuffer _ =>
      some (.reader (.request (requestOf site.context site.parse topicBuffer messageBuffer)))
    | .ended => some (.reader .broken)
    | .overflow => none
  | .turn action => if internal action then some action else none

/-- The text of a subscribe request. -/
def Input.subscribeText : Input → Option Bytes
  | .clientFrame received =>
    match receive received with
    | .frame topicBuffer messageBuffer _ =>
      if cString topicBuffer = messageOpSubscribe then some (cString messageBuffer) else none
    | _ => none
  | _ => none

/-- The system, and the texts of the subscribe requests that the client has sent. -/
structure State where
  system : Subscriber.State
  texts : List Bytes := []

def initial (site : Site) : State where
  system := Subscriber.initial site.deployment

def step (site : Site) (s : State) (input : Input) : Option State :=
  match decode site input with
  | none => none
  | some action =>
    match Subscriber.step site.deployment s.system action with
    | none => none
    | some system => some { system, texts := s.texts ++ input.subscribeText.toList }

/-! ### Every input is a step of the system -/

theorem step_system {site : Site} {s s' : State} {input : Input} (taken : step site s input = some s') :
    ∃ action, decode site input = some action ∧
      Subscriber.step site.deployment s.system action = some s'.system ∧
      s'.texts = s.texts ++ input.subscribeText.toList := by
  unfold step at taken
  split at taken
  · cases taken
  · rename_i action decoded
    split at taken
    · cases taken
    · rename_i system moved
      cases taken
      exact ⟨action, decoded, moved, rfl⟩

theorem run_system {site : Site} {s : State} {ok : State → Input → Prop}
    (run : Run (step site) ok (initial site) s) :
    Run (Subscriber.step site.deployment) Free (Subscriber.initial site.deployment) s.system := by
  induction run with
  | refl => exact .refl
  | tail _ input _ taken ih =>
    obtain ⟨action, _, moved, _⟩ := step_system taken
    exact ih.tail action trivial moved

/-- The action of an input, with what the checks of its path say. -/
inductive Decoded (site : Site) (input : Input) : Action → Prop where
  | create {id topic message} (allowed : site.context.isAllownTopic topic = true)
      (fits : message.length ≤ toUnsigned64 site.deployment.config.maxMessageBodySize)
      (short : message.length ≤ maxMessageSize) : Decoded site input (.publisher id (.create topic message))
  | relay {id events topic message} (from_ : input = .layerFrame id events)
      (read : (Layer.readSocketFrame events).1 = some (topic, message))
      (allowed : site.context.isAllownTopic topic = true) :
      Decoded site input (.publisher id (.relay topic message))
  | prepare {id topic} (allowed : site.context.isAllownTopic topic = true) :
      Decoded site input (.publisher id (.prepare topic))
  | request {text} (sent : input.subscribeText = some text) (short : text.length ≤ maxMessageSize) :
      Decoded site input
        (.reader (.request (.subscribe (parseSubscribeTopics site.context site.parse text))))
  | other {action} (nothing : ∀ asked stored body, LetIn asked stored body action) :
      Decoded site input action

theorem internal_letIn {action : Action} (inside : internal action = true) (asked stored : Topic → Prop)
    (body : Bytes → Prop) : LetIn asked stored body action := by
  cases action with
  | publisher id input => cases input <;> trivial
  | reader input => cases input <;> trivial
  | _ => trivial

theorem decode_cases {site : Site} {input : Input} {action : Action}
    (decoded : decode site input = some action) : Decoded site input action := by
  cases input with
  | publisherFrame id received =>
    simp only [decode] at decoded
    split at decoded
    · rename_i read
      obtain ⟨entry, kept, rfl⟩ := Option.map_eq_some_iff.mp decoded
      obtain ⟨rfl, allowed, fits⟩ := accepted_some kept
      exact .create allowed fits (receive_message_le read)
    · cases decoded
  | layerFrame id events =>
    simp only [decode] at decoded
    split at decoded
    · rename_i frame read
      obtain ⟨entry, kept, rfl⟩ := Option.map_eq_some_iff.mp decoded
      obtain ⟨rfl, allowed⟩ := Layer.relayed_some kept
      exact .relay rfl read allowed
    · cases decoded
  | prepare id topic =>
    simp only [decode] at decoded
    split at decoded
    · rename_i member
      cases decoded
      exact .prepare (Layer.preparedTopics_allown (GlobalContext.init_layerAllown _) topic member)
    · cases decoded
  | clientFrame received =>
    simp only [decode] at decoded
    split at decoded
    · rename_i topicBuffer messageBuffer rest read
      cases decoded
      cases request : requestOf site.context site.parse topicBuffer messageBuffer with
      | subscribe topics =>
        obtain ⟨named, rfl⟩ := requestOf_subscribe request
        refine .request ?_ (receive_message_le read)
        simp only [Input.subscribeText, read, if_pos named]
      | _ => exact .other fun _ _ _ => trivial
    · cases decoded
      exact .other fun _ _ _ => trivial
    · cases decoded
  | turn action =>
    simp only [decode] at decoded
    split at decoded
    · rename_i inside
      cases decoded
      exact .other (internal_letIn inside)
    · cases decoded

/-! ### What is let in stays so -/

/-- The client has named the topic in a subscribe request, and the topic passes the filters. -/
def Asked (site : Site) (s : State) (topic : Topic) : Prop :=
  (∃ text ∈ s.texts, Names site.parse text topic) ∧ subscribable site.context topic = true

/-- In a run whose stored bodies all meet `body` when they come in, so does everything that is kept. -/
theorem run_provenance {site : Site} {s : State} {ok : State → Input → Prop} {body : Bytes → Prop}
    (bodies : ∀ s input id topic message, ok s input →
      (decode site input = some (.publisher id (.create topic message)) ∨
        decode site input = some (.publisher id (.relay topic message))) → body message)
    (run : Run (step site) ok (initial site) s) :
    Provenance (Asked site s) (fun topic => site.context.isAllownTopic topic = true) body s.system := by
  induction run with
  | refl => exact initial_provenance site.deployment
  | @tail before after run input guard taken ih =>
    have sound := reachable_sound (run_system run)
    have due := (reachable_delivering (run_system run)).call
    obtain ⟨action, decoded, moved, texts⟩ := step_system taken
    have kept : Provenance (Asked site after) (fun topic => site.context.isAllownTopic topic = true)
        body before.system := by
      refine ih.mono fun topic asked => asked.imp_left fun ⟨text, member, named⟩ => ⟨text, ?_, named⟩
      rw [texts]
      exact List.mem_append_left _ member
    refine step_provenance sound due kept ?_ moved
    cases decode_cases decoded with
    | create allowed _ _ => exact ⟨allowed, bodies _ _ _ _ _ guard (.inl decoded)⟩
    | relay _ _ _ => exact bodies _ _ _ _ _ guard (.inr decoded)
    | prepare allowed => exact allowed
    | request sent _ =>
      intro topic member
      obtain ⟨named, passes⟩ := mem_parseSubscribeTopics member
      refine ⟨⟨_, ?_, named⟩, passes⟩
      rw [texts, sent]
      exact List.mem_append_right _ (List.mem_singleton.mpr rfl)
    | other nothing => exact nothing _ _ _

end MessageRepeater.Ingress
