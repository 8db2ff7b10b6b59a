import XpliantSwitchd.Lib.Transition
import XpliantSwitchd.Lib.Traversal
import XpliantSwitchd.Lib.KeyedList
import XpliantSwitchd.Basic
import XpliantSwitchd.Routing.Defs
import XpliantSwitchd.Routing.Groups
import XpliantSwitchd.Routing.Outcomes
import XpliantSwitchd.Routing.References
import XpliantSwitchd.Routing.Contents
import XpliantSwitchd.Routing.Refinement
import XpliantSwitchd.Routing.Slots
import XpliantSwitchd.Routing.Fib
import XpliantSwitchd.Lib.LongestPrefix
import XpliantSwitchd.Routing.Blocks
import XpliantSwitchd.Routing.Shape
import XpliantSwitchd.Routing.Failures
import XpliantSwitchd.Routing.Resolved
import XpliantSwitchd.Routing.Adjacencies
import XpliantSwitchd.Lib.InetText
import XpliantSwitchd.AddressPrefix
import XpliantSwitchd.Routing.Forwarding
import XpliantSwitchd.Routing.Teardown
import XpliantSwitchd.Lib.Ternary
import XpliantSwitchd.Classifier.Key
import XpliantSwitchd.Classifier.Defs
import XpliantSwitchd.Classifier.Ids
import XpliantSwitchd.Classifier.Validation
import XpliantSwitchd.Lib.Tcam
import XpliantSwitchd.Classifier.Rules
import XpliantSwitchd.Classifier.InForce
import XpliantSwitchd.Classifier.Sound
import XpliantSwitchd.Classifier.Update
import XpliantSwitchd.Classifier.RoundTrip
import XpliantSwitchd.Classifier.Exhaustion
import XpliantSwitchd.Lib.Ring
import XpliantSwitchd.Classifier.Links
import XpliantSwitchd.Classifier.Settling
import XpliantSwitchd.Classifier.Represented
import XpliantSwitchd.Classifier.Stats
import XpliantSwitchd.MacLearning.Defs
import XpliantSwitchd.MacLearning.Table
import XpliantSwitchd.MacLearning.Tracked
import XpliantSwitchd.MacLearning.Handoff
import XpliantSwitchd.MacLearning.Reader
import XpliantSwitchd.MacLearning.Recorded
import XpliantSwitchd.MacLearning.Moves
import XpliantSwitchd.MacLearning.Flushes
import XpliantSwitchd.MacLearning.Stations
import XpliantSwitchd.MacLearning.Slots
import XpliantSwitchd.MacLearning.Ageing
import XpliantSwitchd.Hosts.Defs
import XpliantSwitchd.Hosts.Ownership
import XpliantSwitchd.Hosts.Entries
import XpliantSwitchd.Hosts.Table
import XpliantSwitchd.Hosts.Teardown
import XpliantSwitchd.Hosts.Unconfigure
import XpliantSwitchd.Hosts.Reconcile
import XpliantSwitchd.Lib.Roster
import XpliantSwitchd.Vlan.Defs
import XpliantSwitchd.Vlan.Membership
import XpliantSwitchd.Vlan.Hardware
import XpliantSwitchd.Vlan.Interrupted
import XpliantSwitchd.Lib.Hmap
import XpliantSwitchd.Lib.Draining
import XpliantSwitchd.Vlan.Shrinking
import XpliantSwitchd.Bundles.Lag
import XpliantSwitchd.Bundles.Defs
import XpliantSwitchd.Bundles.VlanConfig
import XpliantSwitchd.Bundles.VlanBitmap
import XpliantSwitchd.Bundles.Coherence
import XpliantSwitchd.Bundles.Ports
import XpliantSwitchd.Lib.Backlinks
import XpliantSwitchd.Bundles.Links
import XpliantSwitchd.Bundles.Retagging
import XpliantSwitchd.Bundles.Interrupted
import XpliantSwitchd.Bundles.VlanRetry
import XpliantSwitchd.Bundles.LagPorts
import XpliantSwitchd.Bundles.LagControl
import XpliantSwitchd.Bundles.Sound
import XpliantSwitchd.Bundles.Kept
import XpliantSwitchd.Bundles.Repeat
import XpliantSwitchd.Bundles.Twice
import XpliantSwitchd.Bundles.Frames
import XpliantSwitchd.Bundles.Runs
import XpliantSwitchd.Bundles.Trunks
import XpliantSwitchd.L3Intf.Defs
import XpliantSwitchd.L3Intf.Failures
import XpliantSwitchd.L3Intf.RoundTrip
import XpliantSwitchd.PortAcls
import XpliantSwitchd.PortVerdicts
import XpliantSwitchd.VlanRemoval
import XpliantSwitchd.HostTap
import XpliantSwitchd.TapListener
import XpliantSwitchd.PortMacMode
import XpliantSwitchd.Netdev.Defs
import XpliantSwitchd.Netdev.Calls
import XpliantSwitchd.Netdev.Carrier
import XpliantSwitchd.Netdev.Polling
import XpliantSwitchd.Ofprotos.Defs
import XpliantSwitchd.Ofprotos.Directory
import XpliantSwitchd.Ofprotos.Answers
import XpliantSwitchd.L3Intf.Routed
import XpliantSwitchd.L3Intf.Effects
import XpliantSwitchd.L3Intf.Lifecycle
import XpliantSwitchd.L3Intf.Settings
import XpliantSwitchd.L3Intf.Runs
import XpliantSwitchd.Qos
