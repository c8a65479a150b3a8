import SceneHub.Theory.Deadlines
import SceneHub.Theory.OperatorAdvance
import SceneHub.Theory.RoundTrip
import SceneHub.Theory.RuleMeaning
import SceneHub.Theory.GenerationRuns
import SceneHub.Theory.BundleStore
import SceneHub.Theory.FallbackTiming
import SceneHub.Theory.BrokerAccess
import SceneHub.Theory.ControlSlots
import SceneHub.Theory.RequestReply
import SceneHub.Theory.FallbackSafety
import SceneHub.Theory.SocketOwnership
import SceneHub.Theory.RefusedConnect
import SceneHub.Theory.TableFiles
import SceneHub.Theory.OwnEvents
import SceneHub.Theory.RegistryFreshness
import SceneHub.Theory.EventOrder
import SceneHub.Theory.DesktopStaleness
import SceneHub.Theory.Countdown
import SceneHub.Theory.TriggerMatches
import SceneHub.Theory.Uploads
import SceneHub.Theory.ReaderLifecycle
import SceneHub.Theory.MessageOrder
import SceneHub.Theory.LastCommand
import SceneHub.Theory.ExecutedParams
import SceneHub.Theory.OnComplete
import SceneHub.Theory.PendingCommands
import SceneHub.Theory.ValidatorsAgree
import SceneHub.Theory.PreparedRefs
import SceneHub.Theory.MergedArguments
import SceneHub.Theory.ContainsExpected
import SceneHub.Theory.PinNames
import SceneHub.Theory.InputHolds
import SceneHub.Theory.RepliesSettled
import SceneHub.Theory.AdminAtomic
import SceneHub.Theory.HardwareParams
import SceneHub.Theory.PublishBytes
import SceneHub.Theory.TimerFires
import SceneHub.Theory.TopicMatches
import SceneHub.Theory.InFlight
import SceneHub.Theory.FadeEnvelope
