import LightCtrl.Library.Runs
import LightCtrl.Core.Protocol
import LightCtrl.Core.FaultMode
import LightCtrl.Core.CommandCodec
import LightCtrl.Fault.Operations
import LightCtrl.Core.Contract
import LightCtrl.Fault.Lifecycle
import LightCtrl.Fault.Severity
import LightCtrl.Domains.Faultmg
import LightCtrl.Fault.Recovery
import LightCtrl.Core.ControlLogic
import LightCtrl.Core.Execution
import LightCtrl.Core.VehicleState
import LightCtrl.Domains.Gpio
import LightCtrl.Domains.Lightctl
import LightCtrl.Actuation.Lamps
import LightCtrl.Actuation.Refinement
import LightCtrl.Actuation.Agreement
import LightCtrl.Actuation.Pins
import LightCtrl.Domains.Scheduler
import LightCtrl.Domains.VehicleState
import LightCtrl.Actuation.Realisation
import LightCtrl.Fault.Escalation
import LightCtrl.System.Feedback
import LightCtrl.System.Propagation
import LightCtrl.Library.NulTerminated
import LightCtrl.Transport.LineReading
import LightCtrl.Transport.LineEntry
import LightCtrl.Library.SharedSlot
import LightCtrl.Domains.Commandin
import LightCtrl.Transport.InputBuffer
import LightCtrl.Transport.Delivery
import LightCtrl.Fault.Window
import LightCtrl.Fault.Thresholds
import LightCtrl.Fault.ClockFree
import LightCtrl.Fault.Publication
import LightCtrl.Actuation.FailSafe
import LightCtrl.Transport.Routing
import LightCtrl.Transport.Grammar
import LightCtrl.Transport.LineTracking
import LightCtrl.Transport.WireFormat
import LightCtrl.Library.Signals
import LightCtrl.System.Reporting
import LightCtrl.Library.LastWrite
import LightCtrl.Requests.OperatorCommands
import LightCtrl.Requests.VehicleWrites
import LightCtrl.Actuation.Planning
import LightCtrl.Actuation.Prediction
import LightCtrl.Actuation.Rules
import LightCtrl.Fault.Wraparound
import LightCtrl.Transport.LineMachine
import LightCtrl.Transport.Resynchronisation
import LightCtrl.Transport.Acceptance
import LightCtrl.Transport.Overflow
import LightCtrl.Fault.ClockWrap
import LightCtrl.Core.FaultHistory
import LightCtrl.Fault.History
import LightCtrl.Actuation.FlagWord
import LightCtrl.Library.Positional
import LightCtrl.Transport.DecimalOutput
import LightCtrl.Library.Backlog
import LightCtrl.Core.Names
import LightCtrl.System.Topology
import LightCtrl.Domains.Console
import LightCtrl.System.Board
import LightCtrl.Fault.Ranges
import LightCtrl.Transport.ConsoleOutput
import LightCtrl.System.Integrity
import LightCtrl.System.Convergence
import LightCtrl.System.Workload
import LightCtrl.Library.Handoff
import LightCtrl.System.LampPins
import LightCtrl.System.OperatorPath
import LightCtrl.System.Settling
import LightCtrl.Library.Completion
import LightCtrl.System.Handlers
import LightCtrl.Library.Delimited
import LightCtrl.Library.FlagSets
import LightCtrl.Requests.PolicyCommands
import LightCtrl.System.StatusLine
import LightCtrl.System.MessagePath
import LightCtrl.System.TypedText
import LightCtrl.System.QuietTyping
import LightCtrl.System.OneMachine
import LightCtrl.System.TextDecides
