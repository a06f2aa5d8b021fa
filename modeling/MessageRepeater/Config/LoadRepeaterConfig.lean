import MessageRepeater.Config.RepeaterConfig
import MessageRepeater.Json.Value

/-!
# Loading the configuration

`RepeaterConfig::loadRepeaterConfig` of `src/config/repeater_config.cpp`, behind the common keys that
`Config::load_config` reads.
-/

namespace MessageRepeater.Config
open Foundation Combiner Json

/-- All that the loader sets. -/
structure LoadedConfig extends RepeaterConfig where
  loggerName : Bytes := []
  loggerFilePath : Bytes := []
  loggerLevel : Int := 0
  loggerMaxFiles : Int := 0
  processNodeName : Bytes := []
  enableRunWatchdog : Bool := false
  tgBotToken : Bytes := []
  tgChatId : Int := 0
  tgSendMessage : Bool := false
  socketWriteTimeoutSecond : Int := 0
  enableLayerSubscribe : Bool := false
  disableAcceptPublisher : Bool := false
  subscriberSocketSendBufferBytes : Int := 0
  deriving DecidableEq, Repr

def overrunPolicy (name : Bytes) : Option SubscriberOverrunPolicy :=
  if name = ascii "latest" then some .latest
  else if name = ascii "oldest" then some .oldest
  else if name = ascii "disconnect" then some .disconnect
  else none

/-- `file` is the parsed document, `none` if the file cannot be opened or the parser throws. The result
is `none` where the loader returns false. -/
def loadRepeaterConfig (file : Option Value) : Except Bytes (Option LoadedConfig) := do
  let some doc := file | return none
  let loggerName ← (← doc.member (ascii "logger_name")).asString
  let loggerFilePath ← (← doc.member (ascii "logger_file_path")).asString
  let loggerLevel ← (← doc.member (ascii "logger_level")).asInt
  let loggerMaxFiles ← (← doc.member (ascii "logger_max_files")).asInt
  let processNodeName ← (← doc.member (ascii "process_node_name")).asString
  let enableRunWatchdog ← (← doc.member (ascii "enable_run_watchdog")).asBool
  let tgBotToken ← (← doc.member (ascii "tg_bot_token")).asString
  let tgChatId ← (← doc.member (ascii "tg_chat_id")).asInt64
  let tgSendMessage ← (← doc.member (ascii "tg_send_message")).asBool
  let maxTopicNumber ← (← doc.member (ascii "max_topic_number")).asInt
  let maxTopicCircleSize ← (← doc.member (ascii "max_topic_circle_size")).asInt
  let maxMessageBodySize ← (← doc.member (ascii "max_message_body_size")).asInt
  let maxConnectionIdleSecond ← (← doc.member (ascii "max_connection_idle_second")).asInt
  let allownTopics ← doc.texts (ascii "allown_topics")
  let disabledSubscribeTopics ←
    if ← doc.isMember (ascii "disabled_subscribe_topics") then
      doc.texts (ascii "disabled_subscribe_topics") else pure []
  let enabledSubscribeTopics ←
    if ← doc.isMember (ascii "enabled_subscribe_topics") then
      doc.texts (ascii "enabled_subscribe_topics") else pure []
  let socketWriteTimeoutSecond ← (← doc.member (ascii "socket_write_timeout_second")).asInt
  let enableLayerSubscribe ← (← doc.member (ascii "enable_layer_subscribe")).asBool
  let layerSubscribeAddresses ← doc.texts (ascii "layer_subscribe_addresses")
  let layerSubscribeTopics ← doc.texts (ascii "layer_subscribe_topics")
  let disableAcceptPublisher ← (← doc.member (ascii "disable_accept_publisher")).asBool
  let publisherListenAddress ← (← doc.member (ascii "publisher_listen_address")).asString
  let publisherListenPort ← (← doc.member (ascii "publisher_listen_port")).asInt
  let publisherMaxConnection ← (← doc.member (ascii "publisher_max_connection")).asInt
  let subscriberEnableEventLoop ← (← doc.member (ascii "subscriber_enable_event_loop")).asBool
  let subscriberAlwaysSendLatest ←
    if ← doc.isMember (ascii "subscriber_always_send_latest") then
      (← doc.member (ascii "subscriber_always_send_latest")).asBool else pure false
  let policyName ←
    if ← doc.isMember (ascii "subscriber_overrun_policy") then
      (← doc.member (ascii "subscriber_overrun_policy")).asString else pure (ascii "latest")
  let some subscriberOverrunPolicy := overrunPolicy policyName | return none
  let subscriberSocketSendBufferBytes ←
    if ← doc.isMember (ascii "subscriber_socket_send_buffer_bytes") then
      (← doc.member (ascii "subscriber_socket_send_buffer_bytes")).asInt else pure 0
  if subscriberSocketSendBufferBytes < 0 then return none
  let subscriberListenAddress ← (← doc.member (ascii "subscriber_listen_address")).asString
  let subscriberListenPort ← (← doc.member (ascii "subscriber_listen_port")).asInt
  let subscriberMaxConnection ← (← doc.member (ascii "subscriber_max_connection")).asInt
  return some
    { maxTopicNumber, maxTopicCircleSize, maxMessageBodySize, maxConnectionIdleSecond, allownTopics
      disabledSubscribeTopics, enabledSubscribeTopics, layerSubscribeAddresses, layerSubscribeTopics
      publisherListenAddress, publisherListenPort, publisherMaxConnection, subscriberEnableEventLoop
      subscriberAlwaysSendLatest, subscriberOverrunPolicy, subscriberListenAddress
      subscriberListenPort, subscriberMaxConnection, loggerName, loggerFilePath, loggerLevel
      loggerMaxFiles, processNodeName, enableRunWatchdog, tgBotToken, tgChatId, tgSendMessage
      socketWriteTimeoutSecond, enableLayerSubscribe, disableAcceptPublisher
      subscriberSocketSendBufferBytes }

end MessageRepeater.Config
