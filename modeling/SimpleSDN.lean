import SimpleSDN.Flow.Tidy
import SimpleSDN.Setup.Children
import SimpleSDN.Primary.IcmpRoute
import SimpleSDN.Primary.RuleBeforeData
import SimpleSDN.Primary.Sequence
import SimpleSDN.Primary.PortalRemoval
import SimpleSDN.System.Acknowledge
import SimpleSDN.System.ServiceChain
import SimpleSDN.System.Installed
import SimpleSDN.Network.Build
import SimpleSDN.Relay.Echo
import SimpleSDN.Flow.Default
import SimpleSDN.Secondary.Segment
import SimpleSDN.Secondary.Icmp
import SimpleSDN.Primary.Expired
import SimpleSDN.Config.Blocks
import SimpleSDN.Setup.Main
import SimpleSDN.Memory.LinkedList
import SimpleSDN.Timers.Calls
import SimpleSDN.Timers.LinkedRefines
import SimpleSDN.Secondary.Control
import SimpleSDN.System.Datagrams
import SimpleSDN.System.Recipients
import SimpleSDN.System.Wire
import SimpleSDN.System.Settled
import SimpleSDN.System.Budget
import SimpleSDN.Primary.Plan
import SimpleSDN.System.Answer
import SimpleSDN.Secondary.Idle
import SimpleSDN.Relay.Return
import SimpleSDN.Relay.Idle
import SimpleSDN.Pair.Basic
import SimpleSDN.Pair.Control
import SimpleSDN.Pair.Relay
