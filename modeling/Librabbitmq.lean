import Librabbitmq.Tables
import Librabbitmq.TableErrors
import Librabbitmq.TableRoundTrip
import Librabbitmq.Encoding
import Librabbitmq.Positions
import Librabbitmq.References
import Librabbitmq.Ownership
import Librabbitmq.OwnedStrings
import Librabbitmq.Amqp
import Librabbitmq.Connection
import Librabbitmq.Recv
import Librabbitmq.BodyLoop
import Librabbitmq.RecvRun
import Librabbitmq.BodyBuffer
import Librabbitmq.FrameQueue
import Librabbitmq.Delivery
import Librabbitmq.PendingErrors
import Librabbitmq.Drain
import Librabbitmq.PartialMessages
import Librabbitmq.Isolation
import Librabbitmq.ConsumeAndGet
import Librabbitmq.Properties
import Librabbitmq.Demux
import Librabbitmq.Channel
import Librabbitmq.BasicGet
import Librabbitmq.Cancellation
import Librabbitmq.Session
import Librabbitmq.Handles
import Librabbitmq.Recovery
import Librabbitmq.Acts
import Librabbitmq.Dialing
import Librabbitmq.Receiving
import Librabbitmq.Programs
import Librabbitmq.Lifetimes
import Librabbitmq.Handshakes
import Librabbitmq.Pool
import Librabbitmq.Allocation
import Librabbitmq.Bookkeeping
import Librabbitmq.Registrations
import Librabbitmq.Conversions
import Librabbitmq.Revivals
import Librabbitmq.MethodFrames
import Librabbitmq.Sending
import Librabbitmq.Truthful
import Librabbitmq.PropertyFields
import Librabbitmq.PropertySteps
import Librabbitmq.PropertyRoundTrip
import Librabbitmq.Metadata
import Librabbitmq.BodyCuts
import Librabbitmq.PublishErrors
import Librabbitmq.SyncReplies
import Librabbitmq.Wire
import Librabbitmq.LoginProperties
import Librabbitmq.IntegerArguments
import Librabbitmq.Cells
import Librabbitmq.Tracker
import Librabbitmq.ListReferences
import Librabbitmq.Walks
import Librabbitmq.ArrayBounds
import Librabbitmq.StringArguments
import Librabbitmq.NoAckConsumers
import Librabbitmq.NonBlocking
import Librabbitmq.Containers
import Librabbitmq.GetReferences
import Librabbitmq.PublishReferences
import Librabbitmq.Memory
import Librabbitmq.Forwarding
import Librabbitmq.Republishing
import Librabbitmq.Readback
import Librabbitmq.ChannelNumbers
import Librabbitmq.Acknowledgements
import Librabbitmq.DrainReferences
import Librabbitmq.SyncReferences
import Librabbitmq.ConnectionReferences
