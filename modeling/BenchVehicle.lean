import BenchVehicle.Main
import BenchVehicle.Proofs.Request.Accounting
import BenchVehicle.Proofs.Store.History
import BenchVehicle.Proofs.Hardware.Coherence
import BenchVehicle.Proofs.Hardware.Reading
import BenchVehicle.Proofs.Hardware.Refresh
import BenchVehicle.Proofs.Hardware.Timeless
import BenchVehicle.Proofs.Hardware.Race
import BenchVehicle.Proofs.Hardware.LostUpdate
import BenchVehicle.Proofs.Store.Mirror
import BenchVehicle.Proofs.Timer.Firing
import BenchVehicle.Proofs.Hardware.SampleRate
import BenchVehicle.Proofs.Hardware.OneTimer
import BenchVehicle.Proofs.Hardware.Accesses
import BenchVehicle.Proofs.Hardware.Moves
import BenchVehicle.Proofs.Hardware.Snapshot
import BenchVehicle.Proofs.Hardware.FailedSet
import BenchVehicle.Proofs.Hardware.Batching
import BenchVehicle.Proofs.Hardware.Responses
import BenchVehicle.Proofs.Hardware.Publication
import BenchVehicle.Proofs.Hardware.PowerHandshake
import BenchVehicle.Proofs.Hardware.FrameIndex
import BenchVehicle.Proofs.Hardware.Validity
import BenchVehicle.Proofs.Hardware.Related
import BenchVehicle.Proofs.Hardware.Unpooled
import BenchVehicle.Proofs.Hardware.Announcements
import BenchVehicle.Proofs.Hardware.Undeclared
import BenchVehicle.Proofs.Hardware.Confinement
import BenchVehicle.Proofs.Hardware.StartContents
import BenchVehicle.Proofs.Store.Areas
import BenchVehicle.Proofs.Hardware.Availability
import BenchVehicle.Proofs.Hardware.SavedValues
import BenchVehicle.Proofs.Timer.Collecting
import BenchVehicle.Proofs.Command.ValueGrammar
import BenchVehicle.Proofs.Command.Integers
import BenchVehicle.Proofs.Property.Document
import BenchVehicle.Proofs.Hardware.FrameLayout
import BenchVehicle.Proofs.Timer.Phase
import BenchVehicle.Proofs.Hardware.ClimateGate
