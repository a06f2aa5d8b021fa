import MessageRepeater.Config.RepeaterConfig

/-!
# Global context

The topics that `src/combiner/global_context.*` lets in, the filters for subscribers, and the topics
and addresses of the layer connections.
-/

namespace MessageRepeater.Combiner
open Foundation Config

/-! ### String helpers -/

namespace StrHelper

def startsWith (str start : Bytes) : Bool :=
  decide (start.length ≤ str.length) && str.take start.length == start

def endsWith (str suffix : Bytes) : Bool :=
  decide (suffix.length ≤ str.length) && str.drop (str.length - suffix.length) == suffix

/-- `replaceString` for a pattern of one byte. -/
def replaceString (str : Bytes) (old : UInt8) (new : Bytes) : Bytes :=
  str.flatMap fun byte => if byte = old then new else [byte]

end StrHelper

/-- The exact names of a filter for subscribers, and its names with a `*` at the end or in front. -/
structure TopicFilter where
  names : List Topic := []
  starts : List Topic := []
  suffixes : List Topic := []
  deriving DecidableEq, Repr

/-- One of the three tests that `is_disabled_subscribe_topic` and `is_enabled_subscribe_topic` share. -/
def TopicFilter.accepts (filter : TopicFilter) (topic : Topic) : Bool :=
  filter.names.contains topic || filter.starts.any (StrHelper.startsWith topic) ||
    filter.suffixes.any (StrHelper.endsWith topic)

structure GlobalContext where
  allownTopics : List Topic := []
  allownAllTopics : Bool := false
  disabledSubscribeTopics : TopicFilter := {}
  enabledSubscribeTopics : TopicFilter := {}
  layerSubscribeTopics : List Topic := []
  layerSubscribeAddresses : List Bytes := []
  deriving DecidableEq, Repr

namespace GlobalContext

def isReservedTopic (topic : Topic) : Bool :=
  topic == ascii "*" || topic == ascii "ping" || topic == ascii "pong" ||
    topic == ascii "subscribe" || topic == ascii "error"

def isAllownTopic (context : GlobalContext) (topic : Topic) : Bool :=
  !isReservedTopic topic && (context.allownAllTopics || context.allownTopics.contains topic)

def isDisabledSubscribeTopic (context : GlobalContext) (topic : Topic) : Bool :=
  context.disabledSubscribeTopics.accepts topic

def isEnabledSubscribeTopic (context : GlobalContext) (topic : Topic) : Bool :=
  if context.enabledSubscribeTopics = {} then true else context.enabledSubscribeTopics.accepts topic

/-! ### Initialization -/

/-- One turn of the loop of `init` over the configured topics. -/
def initAllown (context : GlobalContext) (topic : Topic) : GlobalContext :=
  if topic = ascii "*" then { context with allownAllTopics := true }
  else if isReservedTopic topic then context
  else { context with allownTopics := context.allownTopics.insert topic }

/-- One turn of either loop of `init` over the filters for subscribers. -/
def initFilter (filter : TopicFilter) (topic : Topic) : TopicFilter :=
  if isReservedTopic topic then filter
  else if StrHelper.endsWith topic (ascii "*") then
    { filter with starts := filter.starts ++ [StrHelper.replaceString topic 42 []] }
  else if StrHelper.startsWith topic (ascii "*") then
    { filter with suffixes := filter.suffixes ++ [StrHelper.replaceString topic 42 []] }
  else { filter with names := filter.names.insert topic }

/-- One turn of the loop over the layer topics. -/
def initLayerTopic (context : GlobalContext) (topic : Topic) : GlobalContext :=
  if context.isAllownTopic topic then
    { context with layerSubscribeTopics := context.layerSubscribeTopics ++ [topic] }
  else context

def listenAddress (address : Bytes) (port : Int) : Bytes := address ++ ascii ":" ++ ascii (toString port)

/-- One turn of the loop over the layer addresses: a repeater does not subscribe to itself. -/
def initLayerAddress (config : RepeaterConfig) (context : GlobalContext) (address : Bytes) :
    GlobalContext :=
  if address ≠ listenAddress config.publisherListenAddress config.publisherListenPort ∧
      address ≠ listenAddress config.subscriberListenAddress config.subscriberListenPort then
    { context with layerSubscribeAddresses := context.layerSubscribeAddresses ++ [address] }
  else context

def init (config : RepeaterConfig) : GlobalContext :=
  let context : GlobalContext := config.allownTopics.foldl initAllown {}
  let context :=
    { context with
      disabledSubscribeTopics := config.disabledSubscribeTopics.foldl initFilter {}
      enabledSubscribeTopics := config.enabledSubscribeTopics.foldl initFilter {} }
  let context := config.layerSubscribeTopics.foldl initLayerTopic context
  config.layerSubscribeAddresses.foldl (initLayerAddress config) context

/-- A control topic is never let in. -/
theorem isAllownTopic_not_reserved {context : GlobalContext} {topic : Topic}
    (allowed : context.isAllownTopic topic = true) : isReservedTopic topic = false := by
  unfold isAllownTopic at allowed
  cases reserved : isReservedTopic topic with
  | false => rfl
  | true => simp [reserved] at allowed

/-! ### What the layer topics are -/

/-- Every layer topic is let in. -/
def LayerAllown (context : GlobalContext) : Prop :=
  ∀ topic ∈ context.layerSubscribeTopics, context.isAllownTopic topic = true

theorem initLayerTopic_allown {context : GlobalContext} (layer : LayerAllown context) (topic : Topic) :
    LayerAllown (initLayerTopic context topic) := by
  unfold initLayerTopic
  split
  · rename_i allowed
    intro t member
    rcases List.mem_append.mp member with old | new
    · exact layer t old
    · rw [List.mem_singleton.mp new]
      exact allowed
  · exact layer

theorem initLayerAddress_allown {config : RepeaterConfig} {context : GlobalContext}
    (layer : LayerAllown context) (address : Bytes) :
    LayerAllown (initLayerAddress config context address) := by
  unfold initLayerAddress
  split <;> exact layer

theorem init_layerAllown (config : RepeaterConfig) : LayerAllown (init config) := by
  have empty : (config.allownTopics.foldl initAllown {}).layerSubscribeTopics = [] := by
    refine List.foldlRecOn (motive := fun context => context.layerSubscribeTopics = [])
      config.allownTopics initAllown (b := {}) rfl fun context none_ topic _ => ?_
    unfold initAllown
    split
    · exact none_
    · split <;> exact none_
  unfold init
  refine List.foldlRecOn (motive := LayerAllown) config.layerSubscribeAddresses _ ?_
    fun context layer address _ => initLayerAddress_allown layer address
  refine List.foldlRecOn (motive := LayerAllown) config.layerSubscribeTopics _ ?_
    fun context layer topic _ => initLayerTopic_allown layer topic
  intro topic member
  dsimp only at member
  rw [empty] at member
  cases member

end GlobalContext

end MessageRepeater.Combiner
