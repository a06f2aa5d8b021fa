import MessageRepeater.Layer.Subsequence
import MessageRepeater.Repeater.OneOrder
import Mathlib.Data.Fintype.Defs
import Mathlib.Data.Fintype.Basic

/-!
# A network of repeaters

Any number of repeaters with layer threads between them, in any graph: a thread is subscribed to one repeater
and stores what it reads in another, among the publishers and the other layer threads of that repeater.
-/

namespace MessageRepeater.Layer
open Foundation Combiner Config Connection Subscriber Publisher Repeater Ingress

/-- Each repeater tells the threads that store messages in it apart. -/
structure Network (Node Hop : Type) where
  host : Node → Host
  upstream : Hop → Node
  downstream : Hop → Node
  thread : Hop → Nat
  distinct : ∀ g h, downstream g = downstream h → thread g = thread h → g = h
  serializeTopics : List Topic → Bytes

namespace Network
variable {Node Hop : Type}

def chain (net : Network Node Hop) (h : Hop) : Chain where
  upstream := net.host (net.upstream h)
  downstream := net.host (net.downstream h)
  serializeTopics := net.serializeTopics

/-- What is the layer thread's own in the state of a chain. -/
structure Thread where
  layer : LayerPc := .sleep
  socketDisconnected : Bool := false
  outbox : Nat → Option Bytes := fun _ => none
  fetched : Nat → Nat := fun _ => 0
  received : Nat := 0
  frames : Nat := 0
  appended : List Appended := []

def threadOf (s : Layer.State) : Thread where
  layer := s.layer
  socketDisconnected := s.socketDisconnected
  outbox := s.outbox
  fetched := s.fetched
  received := s.received
  frames := s.frames
  appended := s.appended

/-- The repeaters with their ledgers, and the layer threads. -/
structure State (Node Hop : Type) where
  nodes : Node → Repeater.State × Ledger
  threads : Hop → Thread

def initial (net : Network Node Hop) : State Node Hop where
  nodes n := (Repeater.initial (net.host n), {})
  threads _ := {}

/-- A layer thread with its two repeaters. -/
def view (net : Network Node Hop) (s : State Node Hop) (h : Hop) : Layer.State where
  upstream := (s.nodes (net.upstream h)).1
  downstream := (s.nodes (net.downstream h)).1
  layer := (s.threads h).layer
  socketDisconnected := (s.threads h).socketDisconnected
  outbox := (s.threads h).outbox
  fetched := (s.threads h).fetched
  received := (s.threads h).received
  frames := (s.threads h).frames
  appended := (s.threads h).appended

/-! ### Steps -/

/-- Something happens to a repeater, or a layer thread goes on. -/
inductive Action (Node Hop : Type) where
  | node (n : Node) (event : Event)
  | hop (h : Hop) (action : Layer.Action)

/-- The connection from which a client's frame is read. -/
def fetches : Event → Option Nat
  | .input k (.clientFrame _) => some k
  | _ => none

/-- The thread that takes a message or goes on storing it. -/
def stores : Event → Option Nat
  | .input _ (.publisherFrame id _) | .input _ (.layerFrame id _) | .input _ (.prepare id _) |
    .input _ (.turn (.publisher id _)) => some id
  | _ => none

/-- Nothing of what a layer thread does: its upstream reads nothing from its connections, and its downstream
does not go on with it. -/
def Outside (net : Network Node Hop) (s : State Node Hop) (n : Node) (event : Event) (h : Hop) : Prop :=
  (net.upstream h = n → (fetches event).all (fun k => ((s.threads h).outbox k).isNone) = true) ∧
    (net.downstream h = n → stores event ≠ some (net.thread h))

instance [DecidableEq Node] (net : Network Node Hop) (s : State Node Hop) (n : Node) (event : Event) (h : Hop) :
    Decidable (Outside net s n event h) :=
  inferInstanceAs (Decidable (_ ∧ _))

/-- The actions of a layer thread, and its upstream's reading from its connections. -/
def Thread.takes (t : Thread) : Layer.Action → Bool
  | .upstream event => (fetches event).any fun k => (t.outbox k).isSome
  | .downstream _ => false
  | _ => true

/-- What the action of a layer thread, which it leaves as `layer`, is to one of its repeaters. -/
def event (net : Network Node Hop) (s : State Node Hop) (h : Hop) (layer : LayerPc) :
    Layer.Action → Option (Node × Event)
  | .connect => some (net.upstream h, .accept)
  | .upstream event => some (net.upstream h, event)
  | .read events =>
    match layer with
    | .append _ _ _ _ => some (net.downstream h, .input 0 (.layerFrame (net.thread h) events))
    | _ => none
  | .run =>
    match (s.threads h).layer with
    | .append _ _ _ _ | .submit _ _ | .notify _ =>
      some (net.downstream h, .input 0 (.turn (.publisher (net.thread h) .run)))
    | _ => none
  | _ => none

section
variable [DecidableEq Node] [DecidableEq Hop]

def State.setNode (s : State Node Hop) (n : Node) (node : Repeater.State × Ledger) : State Node Hop :=
  { s with nodes := fun m => if m = n then node else s.nodes m }

def State.setThread (s : State Node Hop) (h : Hop) (thread : Thread) : State Node Hop :=
  { s with threads := fun g => if g = h then thread else s.threads g }

def step [Fintype Hop] (net : Network Node Hop) (s : State Node Hop) : Action Node Hop → Option (State Node Hop)
  | .node n event =>
    if ∀ h, Outside net s n event h then (recorded (net.host n) (s.nodes n) event).map (s.setNode n) else none
  | .hop h action =>
    if (s.threads h).takes action then
      match Layer.step (net.chain h) (view net s h) action with
      | none => none
      | some moved =>
        let s' := s.setThread h (threadOf moved)
        match event net s h moved.layer action with
        | none => some s'
        | some (n, event) => (recorded (net.host n) (s.nodes n) event).map (s'.setNode n)
    else none

end

/-! ### One action of a thread -/

/-- How far the thread is among the threads of its repeater that store messages. -/
def storing : LayerPc → PublisherPc
  | .append _ _ topic body => .append topic body
  | .submit _ topic => .submit topic
  | .notify _ => .notify
  | _ => .idle

/-- What an action of the thread does to its upstream. -/
theorem layer_upstream {chain : Chain} {v moved : Layer.State} {action : Layer.Action}
    (taken : Layer.step chain v action = some moved) :
    (action = .connect ∧ Repeater.step chain.upstream v.upstream .accept = some moved.upstream) ∨
      (∃ event, action = .upstream event ∧ Repeater.step chain.upstream v.upstream event = some moved.upstream) ∨
      (action ≠ .connect ∧ (∀ event, action ≠ .upstream event) ∧ moved.upstream = v.upstream) := by
  cases action with
  | upstream event => exact .inr (.inl ⟨event, rfl, (upstreamStep_some taken).1⟩)
  | connect =>
    simp only [Layer.step] at taken
    split at taken <;> cases taken
    exact .inl ⟨rfl, rfl⟩
  | read events =>
    refine .inr (.inr ⟨by simp, by simp, ?_⟩)
    simp only [Layer.step] at taken
    split at taken
    · split at taken <;> cases taken
      unfold responseStep
      split
      · rfl
      · split
        · rfl
        · split <;> rfl
    · split at taken <;> cases taken
      unfold readStep
      split <;> rfl
    · cases taken
  | run =>
    refine .inr (.inr ⟨by simp, by simp, ?_⟩)
    simp only [Layer.step, runStep] at taken
    split at taken
    case h_2 => split at taken <;> cases taken <;> rfl
    case h_6 => cases taken
    all_goals
      cases taken
      rfl
  | downstream | setTimeoutFailed | subscribe | ping =>
    refine .inr (.inr ⟨by simp, by simp, ?_⟩)
    simp only [Layer.step] at taken
    split at taken <;> cases taken
    rfl

theorem storing_append {layer : LayerPc} {topic : Topic} {body : Bytes}
    (at_ : storing layer = .append topic body) :
    ∃ k frame, layer = .append k frame topic body := by
  cases layer <;> cases at_
  exact ⟨_, _, rfl⟩

theorem storing_submit {layer : LayerPc} {topic : Topic} (at_ : storing layer = .submit topic) :
    ∃ k, layer = .submit k topic := by
  cases layer <;> cases at_
  exact ⟨_, rfl⟩

theorem storing_notify {layer : LayerPc} (at_ : storing layer = .notify) : ∃ k, layer = .notify k := by
  cases layer <;> cases at_
  exact ⟨_, rfl⟩

/-- A read finds a message to store, or leaves the thread idle to the others. -/
theorem layer_read {chain : Chain} {v moved : Layer.State} {events : List RecvEvent}
    (taken : Layer.step chain v (.read events) = some moved) :
    storing v.layer = .idle ∧ moved.appended = v.appended ∧
      ((storing moved.layer = .idle ∧ ∀ k i topic body, moved.layer ≠ .append k i topic body) ∨
        ∃ k i topic body frame left, moved.layer = .append k i topic body ∧
          readSocketFrame events = (some frame, left) ∧
          relayed chain.context frame.1 frame.2 = some (topic, body)) := by
  simp only [Layer.step] at taken
  split at taken
  · rename_i waiting
    split at taken <;> cases taken
    rw [waiting]
    unfold responseStep
    split
    · exact ⟨rfl, rfl, .inl ⟨rfl, by simp⟩⟩
    · split
      · exact ⟨rfl, rfl, .inl ⟨rfl, by simp⟩⟩
      · split <;> exact ⟨rfl, rfl, .inl ⟨rfl, by simp⟩⟩
  · rename_i reading
    split at taken <;> cases taken
    rw [reading]
    unfold readStep
    split
    · exact ⟨rfl, rfl, .inl ⟨rfl, by simp⟩⟩
    · rename_i frame left read
      cases kept : relayed chain.context frame.1 frame.2 with
      | none => exact ⟨rfl, rfl, .inl ⟨rfl, by simp⟩⟩
      | some entry => exact ⟨rfl, rfl, .inr ⟨_, _, _, _, _, _, rfl, read, kept⟩⟩
  · cases taken

/-- Outside its storing the thread is idle to the others. -/
theorem layer_idle {net : Network Node Hop} {s : State Node Hop} {h : Hop} {v moved : Layer.State}
    {action : Layer.Action}
    (taken : Layer.step (net.chain h) v action = some moved) (same : v.layer = (s.threads h).layer)
    (nothing : event net s h moved.layer action = none ∨ action = .connect ∨ ∃ event, action = .upstream event) :
    storing moved.layer = storing v.layer ∧ moved.appended = v.appended := by
  cases action with
  | upstream event =>
    obtain ⟨_, layer, _, _, appended⟩ := upstreamStep_some taken
    rw [layer]
    exact ⟨rfl, appended⟩
  | downstream event =>
    simp only [Layer.step] at taken
    split at taken <;> cases taken
    exact ⟨rfl, rfl⟩
  | connect =>
    simp only [Layer.step] at taken
    split at taken <;> cases taken
    rename_i asleep
    rw [asleep]
    exact ⟨rfl, rfl⟩
  | setTimeoutFailed =>
    simp only [Layer.step] at taken
    split at taken <;> cases taken
    rename_i connected
    rw [connected]
    exact ⟨rfl, rfl⟩
  | subscribe written =>
    simp only [Layer.step] at taken
    split at taken <;> cases taken
    rename_i connected
    rw [connected]
    refine ⟨?_, rfl⟩
    dsimp only
    split <;> rfl
  | ping written =>
    simp only [Layer.step] at taken
    split at taken <;> cases taken
    exact ⟨rfl, rfl⟩
  | read events =>
    obtain ⟨idle, appended, found⟩ := layer_read taken
    rcases found with ⟨still, _⟩ | ⟨_, _, _, _, _, _, next, _⟩
    · exact ⟨still.trans idle.symm, appended⟩
    · rcases nothing with none_ | other | ⟨_, other⟩
      · rw [next] at none_
        cases none_
      · cases other
      · cases other
  | run =>
    have quiet : event net s h moved.layer .run = none := by
      rcases nothing with none_ | other | ⟨_, other⟩
      · exact none_
      · cases other
      · cases other
    unfold event at quiet
    dsimp only at quiet
    rw [← same] at quiet
    simp only [Layer.step, runStep] at taken
    split at taken
    case h_1 at_ =>
      cases taken
      rw [at_]
      refine ⟨?_, rfl⟩
      dsimp only
      split <;> rfl
    case h_2 at_ | h_3 at_ | h_4 at_ =>
      rw [at_] at quiet
      cases quiet
    case h_5 at_ =>
      cases taken
      rw [at_]
      exact ⟨rfl, rfl⟩
    case h_6 => cases taken

/-- Where the thread stays as it is, its upstream may go on. -/
theorem follow_upstream {host : Host} {v v' : Layer.State} {noted : List (Appended × Nat)}
    (following : Following v noted) (run : Run (Repeater.step host) Free (Repeater.initial host) v.upstream)
    (upstream : v'.upstream = v.upstream ∨ ∃ event, Repeater.step host v.upstream event = some v'.upstream)
    (same : threadOf v' = threadOf v) : Following v' noted := by
  have layer : v'.layer = v.layer := congrArg Thread.layer same
  have frames : v'.frames = v.frames := congrArg Thread.frames same
  have received : v'.received = v.received := congrArg Thread.received same
  have appended : v'.appended = v.appended := congrArg Thread.appended same
  rcases upstream with kept | ⟨event, moved⟩
  · apply following.moved kept appended
    intro k here
    rw [layer] at here
    exact (following.current k here).onward kept frames received fun _ _ _ _ => layer
  · exact following.grow run moved layer frames received appended

/-! ### What the threads of a repeater store -/

/-- What the actions of a layer thread are to its repeaters. -/
inductive Sent (net : Network Node Hop) (h : Hop) (layer : LayerPc) : Layer.Action → Node → Event → Prop where
  | accept : Sent net h layer .connect (net.upstream h) .accept
  | fetch {k received} : Sent net h layer (.upstream (.input k (.clientFrame received))) (net.upstream h)
      (.input k (.clientFrame received))
  | read {k i topic body events} (found : layer = .append k i topic body) :
      Sent net h layer (.read events) (net.downstream h) (.input 0 (.layerFrame (net.thread h) events))
  | run : Sent net h layer .run (net.downstream h) (.input 0 (.turn (.publisher (net.thread h) .run)))

theorem event_sent {net : Network Node Hop} {s : State Node Hop} {h : Hop} {layer : LayerPc}
    {action : Layer.Action} {n : Node} {event : Event} (takes : (s.threads h).takes action = true)
    (also : net.event s h layer action = some (n, event)) : Sent net h layer action n event := by
  cases action with
  | connect =>
    cases also
    exact .accept
  | upstream event =>
    cases also
    simp only [Thread.takes] at takes
    unfold fetches at takes
    split at takes
    · exact .fetch
    · cases takes
  | read events =>
    simp only [Network.event] at also
    split at also <;> cases also
    exact .read rfl
  | run =>
    simp only [Network.event] at also
    split at also <;> cases also <;> exact .run
  | downstream | setTimeoutFailed | subscribe | ping => cases also

/-- A layer thread goes on with its own message only, and in its own repeater. -/
theorem Sent.stores {net : Network Node Hop} {h : Hop} {layer : LayerPc} {action : Layer.Action} {n : Node}
    {event : Event} (sent : Sent net h layer action n event) :
    Network.stores event = none ∨ n = net.downstream h ∧ Network.stores event = some (net.thread h) := by
  cases sent with
  | accept | fetch => exact .inl rfl
  | read | run => exact .inr ⟨rfl, rfl⟩

theorem decode_stores {site : Site} {k id : Nat} {input : Input} {published : PublisherInput}
    (decoded : decode site input = some (.publisher id published)) : stores (.input k input) = some id := by
  cases input with
  | publisherFrame i received =>
    simp only [decode] at decoded
    split at decoded
    · obtain ⟨_, _, same⟩ := Option.map_eq_some_iff.mp decoded
      cases same
      rfl
    · cases decoded
  | layerFrame i events =>
    simp only [decode] at decoded
    split at decoded
    · obtain ⟨_, _, same⟩ := Option.map_eq_some_iff.mp decoded
      cases same
      rfl
    · cases decoded
  | prepare i topic =>
    simp only [decode] at decoded
    split at decoded <;> cases decoded
    rfl
  | clientFrame received =>
    simp only [decode] at decoded
    split at decoded <;> cases decoded
  | turn action =>
    simp only [decode] at decoded
    split at decoded <;> cases decoded
    rfl

/-- What another thread stores leaves a thread as it is, and what it has stored. -/
theorem recorded_others {host : Host} {r r' : Repeater.State × Ledger} {event : Event} {id : Nat}
    (taken : recorded host r event = some r') (other : stores event ≠ some id) :
    r'.1.publishers id = r.1.publishers id ∧ r'.2.creating id = r.2.creating id ∧
      r'.2.storedBy (.layer id) = r.2.storedBy (.layer id) := by
  obtain ⟨node, moved, rfl⟩ := Option.map_eq_some_iff.mp taken
  rcases step_kinds moved with ⟨j, input, i, published, rfl, decoded⟩ | quiet
  · have apart : id ≠ i := by
      rintro rfl
      exact other (decode_stores decoded)
    obtain ⟨publishers, _, creating, _, stored⟩ := (input_publisher decoded moved).1.others r.2 apart
    rw [← after_publisher decoded] at creating stored
    exact ⟨publishers, creating, stored⟩
  · dsimp only
    rw [quiet.ledger, quiet.publishers]
    exact ⟨rfl, rfl, rfl⟩

/-! ### Steps of the network -/

section Steps
variable [DecidableEq Node] [DecidableEq Hop]

/-- What a step does. -/
inductive Move (net : Network Node Hop) (s : State Node Hop) : Action Node Hop → State Node Hop → Prop where
  | node {n event node} (outside : ∀ h, Outside net s n event h)
      (taken : recorded (net.host n) (s.nodes n) event = some node) : Move net s (.node n event) (s.setNode n node)
  | alone {h action moved} (taken : Layer.step (net.chain h) (view net s h) action = some moved)
      (takes : (s.threads h).takes action = true) (nothing : event net s h moved.layer action = none) :
      Move net s (.hop h action) (s.setThread h (threadOf moved))
  | both {h action moved n event node} (taken : Layer.step (net.chain h) (view net s h) action = some moved)
      (takes : (s.threads h).takes action = true)
      (also : Network.event net s h moved.layer action = some (n, event))
      (with_ : recorded (net.host n) (s.nodes n) event = some node) :
      Move net s (.hop h action) ((s.setThread h (threadOf moved)).setNode n node)

variable [Fintype Hop] {net : Network Node Hop} {s s' : State Node Hop}

theorem step_move {action : Action Node Hop} (taken : step net s action = some s') : Move net s action s' := by
  cases action with
  | node n event =>
    simp only [step] at taken
    split at taken
    · obtain ⟨node, moved, rfl⟩ := Option.map_eq_some_iff.mp taken
      exact .node ‹_› moved
    · cases taken
  | hop h action =>
    simp only [step] at taken
    split at taken
    · rename_i takes
      split at taken
      · cases taken
      · rename_i moved stepped
        split at taken
        · cases taken
          exact .alone stepped takes ‹_›
        · rename_i n event also
          obtain ⟨node, with_, rfl⟩ := Option.map_eq_some_iff.mp taken
          exact .both stepped takes also with_
    · cases taken

/-- A step of the network is a step of a repeater, by itself or for a layer thread, or nothing to it. -/
theorem step_node {action : Action Node Hop} (taken : step net s action = some s') (n : Node) :
    s'.nodes n = s.nodes n ∨ ∃ event, recorded (net.host n) (s.nodes n) event = some (s'.nodes n) ∧
      (action = .node n event ∨ ∃ h own layer, action = .hop h own ∧ Sent net h layer own n event) := by
  have set : ∀ (t : State Node Hop) {m event node}, t.nodes = s.nodes →
      recorded (net.host m) (s.nodes m) event = some node → (t.setNode m node).nodes n = s.nodes n ∨
        n = m ∧ recorded (net.host n) (s.nodes n) event = some ((t.setNode m node).nodes n) := by
    intro t m event node same moved
    by_cases here : n = m
    · subst here
      refine .inr ⟨rfl, ?_⟩
      simp only [State.setNode, if_pos]
      exact moved
    · refine .inl ?_
      simp only [State.setNode, if_neg here, same]
  cases step_move taken with
  | node _ moved =>
    rcases set s rfl moved with same | ⟨rfl, moved⟩
    · exact .inl same
    · exact .inr ⟨_, moved, .inl rfl⟩
  | alone => exact .inl rfl
  | both _ takes also moved =>
    rcases set (s.setThread _ _) rfl moved with same | ⟨rfl, moved⟩
    · exact .inl same
    · exact .inr ⟨_, moved, .inr ⟨_, _, _, rfl, event_sent takes also⟩⟩

theorem run_node (run : Run (step net) Free (initial net) s) (n : Node) :
    Run (recorded (net.host n)) Free (Repeater.initial (net.host n), {}) (s.nodes n) :=
  run.simulate fun _ _ _ _ _ taken =>
    (step_node taken n).imp_right fun ⟨event, moved, _⟩ => ⟨event, moved⟩

theorem run_repeater (run : Run (step net) Free (initial net) s) (n : Node) :
    Run (Repeater.step (net.host n)) Free (Repeater.initial (net.host n)) (s.nodes n).1 :=
  run_process (run_node run n)

end Steps

end Network
end MessageRepeater.Layer
