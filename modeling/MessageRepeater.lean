import MessageRepeater.Combiner.CircleRefinement
import MessageRepeater.Combiner.ReadAccounting
import MessageRepeater.Combiner.TopicFilters
import MessageRepeater.Combiner.ConcurrentStore
import MessageRepeater.Combiner.DirtyTopics
import MessageRepeater.Connection.FrameStream
import MessageRepeater.Publisher.Fidelity
import MessageRepeater.Publisher.FrameFold
import MessageRepeater.Publisher.PongReplies
import MessageRepeater.Subscriber.DeliveryLaw
import MessageRepeater.Subscriber.Quiescence
import MessageRepeater.Subscriber.Teardown
import MessageRepeater.Subscriber.Resubscription
import MessageRepeater.Subscriber.Acknowledgement
import MessageRepeater.Subscriber.Commits
import MessageRepeater.Subscriber.Latest
import MessageRepeater.Subscriber.StopProtocol
import MessageRepeater.Subscriber.RequestAcceptance
import MessageRepeater.Subscriber.SubscriptionIndex
import MessageRepeater.Subscriber.Bypass
import MessageRepeater.Subscriber.Starvation
import MessageRepeater.Subscriber.OutputTermination
import MessageRepeater.Ingress.Authorization
import MessageRepeater.Ingress.BodyLimit
import MessageRepeater.Ingress.FrameSizes
import MessageRepeater.Ingress.ReceiveBuffers
import MessageRepeater.Config.ConfigFile
import MessageRepeater.Ingress.JsonRequests
import MessageRepeater.Layer.Subsequence
import MessageRepeater.Layer.ConnectorRuns
import MessageRepeater.Layer.Addresses
import MessageRepeater.Repeater.Startup
import MessageRepeater.Layer.NetworkOrder
import MessageRepeater.Lifecycle.DescriptorOwnership
import MessageRepeater.Lifecycle.Succession
import MessageRepeater.Lifecycle.Reclamation
import MessageRepeater.Lifecycle.ServerRuns
import MessageRepeater.Lifecycle.Watchdog
import MessageRepeater.Repeater.Bounds
