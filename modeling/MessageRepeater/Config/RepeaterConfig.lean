import MessageRepeater.Combiner.MessageContainer

/-!
# Configuration

The fields of `src/config/repeater_config.h` that the modelled code reads. An `int` is an `Int`.
-/

namespace MessageRepeater.Config
open Foundation Combiner

structure RepeaterConfig where
  maxTopicNumber : Int := 10
  maxTopicCircleSize : Int := 16
  maxMessageBodySize : Int := 4096
  maxConnectionIdleSecond : Int := 30
  allownTopics : List Topic := []
  disabledSubscribeTopics : List Topic := []
  enabledSubscribeTopics : List Topic := []
  layerSubscribeAddresses : List Bytes := []
  layerSubscribeTopics : List Topic := []
  publisherListenAddress : Bytes := []
  publisherListenPort : Int := 0
  publisherMaxConnection : Int := 10
  subscriberEnableEventLoop : Bool := false
  subscriberAlwaysSendLatest : Bool := false
  subscriberOverrunPolicy : SubscriberOverrunPolicy := .latest
  subscriberListenAddress : Bytes := []
  subscriberListenPort : Int := 0
  subscriberMaxConnection : Int := 20
  deriving DecidableEq, Repr

end MessageRepeater.Config
