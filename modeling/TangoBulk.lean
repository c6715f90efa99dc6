import TangoBulk.LibTransition
import TangoBulk.LibRing
import TangoBulk.Geometry
import TangoBulk.LibBytes
import TangoBulk.CreditWindow
import TangoBulk.ReleaseTracker
import TangoBulk.ProtocolData
import TangoBulk.BoundedQueue
import TangoBulk.SubscriberEngine
import TangoBulk.SubscriberRing
import TangoBulk.SubscriberSafety
import TangoBulk.SubscriberWindow
import TangoBulk.Config
import TangoBulk.Publisher
import TangoBulk.LibRefPool
import TangoBulk.PublisherSlots
import TangoBulk.PublisherSends
import TangoBulk.PublisherEffects
import TangoBulk.PublisherOrdinals
import TangoBulk.PublisherAdmission
import TangoBulk.PublisherStrict
import TangoBulk.DeliveryMachine
import TangoBulk.DeliveryFailure
import TangoBulk.ProtocolRoundTrip
import TangoBulk.Subscription
import TangoBulk.PublisherGrant
import TangoBulk.CellQueue
import TangoBulk.ProtocolBounds
import TangoBulk.DeliveryWakeup
import TangoBulk.PublisherLease
import TangoBulk.PublisherPromise
import TangoBulk.PublisherFrameSize
import TangoBulk.PublisherHeadroom
import TangoBulk.CreditProtocol
import TangoBulk.CreditConservation
import TangoBulk.CreditLimits
import TangoBulk.PublisherCoordination
import TangoBulk.PublisherRecord
import TangoBulk.PublisherMoves
import TangoBulk.PublisherLifecycle
import TangoBulk.PublisherOpens
import TangoBulk.ReleaseSet
import TangoBulk.ProtocolEnvelope
import TangoBulk.Adoption
import TangoBulk.PublisherConnect
import TangoBulk.PublisherIngress
import TangoBulk.SubscriptionControl
import TangoBulk.SubscriptionMachine
import TangoBulk.SubscriptionExit
import TangoBulk.SubscriptionGrants
import TangoBulk.SubscriptionArray
import TangoBulk.CreditWords
import TangoBulk.PublisherCredits
import TangoBulk.ReleaseAcks
import TangoBulk.PublisherNumbering
import TangoBulk.PublisherAnswers
import TangoBulk.PublisherMemory
import TangoBulk.CellLinear
import TangoBulk.CellServes
import TangoBulk.DeliveryCalls
import TangoBulk.DeliveryReference
import TangoBulk.DeliveryArming
import TangoBulk.SubscriptionIngress
import TangoBulk.DeliveryGenerations
import TangoBulk.GeometryExact
import TangoBulk.GeometryBounds
import TangoBulk.GeometryResolve
import TangoBulk.LibRecord
import TangoBulk.ProtocolShape
import TangoBulk.ProtocolReading
import TangoBulk.ProtocolCanonical
import TangoBulk.ProtocolExtension
import TangoBulk.ProtocolRefusals
import TangoBulk.LibDecimal
import TangoBulk.OfferRow
import TangoBulk.PublisherFrames
import TangoBulk.Discovery
import TangoBulk.PinnedLedger
import TangoBulk.ReceivePlans
import TangoBulk.RegisteredMemory
import TangoBulk.LibSlots
import TangoBulk.RegisteredRing
import TangoBulk.OfferGrammar
import TangoBulk.CellAlone
import TangoBulk.CellGauge
import TangoBulk.LeasePool
import TangoBulk.SubscriberPlans
import TangoBulk.SubscriberTeardown
