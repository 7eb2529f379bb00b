import ScriptBench.Main
import ScriptBench.Trace.Cursor
import ScriptBench.Proofs.Engine.DriverFile
import ScriptBench.Proofs.Engine.Framing
import ScriptBench.Proofs.Engine.MemberOrder
import ScriptBench.Proofs.Engine.Report
import ScriptBench.Proofs.Engine.Steady
import ScriptBench.Proofs.Execution.Contract
import ScriptBench.Proofs.Execution.Kinds
import ScriptBench.Proofs.Json.Fields
import ScriptBench.Proofs.Json.Reading
import ScriptBench.Proofs.Markers.Last
import ScriptBench.Proofs.Markers.Scan
import ScriptBench.Proofs.Markers.Stream
import ScriptBench.Proofs.Report.Layout
import ScriptBench.Proofs.Script.FunctionName
import ScriptBench.Proofs.Script.Literal
import ScriptBench.Proofs.Script.Quotation
import ScriptBench.Proofs.Script.Scripts
import ScriptBench.Proofs.Script.Substitution
import ScriptBench.Proofs.Settings.Layers
import ScriptBench.Proofs.Settings.Limits
import ScriptBench.Proofs.Suite.Apart
import ScriptBench.Proofs.Suite.Atomic
import ScriptBench.Proofs.Suite.Durable
import ScriptBench.Proofs.Suite.Names
import ScriptBench.Proofs.Suite.Pipeline
import ScriptBench.Proofs.Suite.Tally
import ScriptBench.Proofs.Suite.Verdict
import ScriptBench.Proofs.Trace.Payload
import ScriptBench.Proofs.Trace.Replay
import ScriptBench.Proofs.Traffic.Engine
import ScriptBench.Proofs.Traffic.Starts
import ScriptBench.Proofs.Traffic.Wire
