import Athrill.Cpu.Machine
import Athrill.Cpu.Registers
import Athrill.Cpu.Reset
import Athrill.Dec.Format
import Athrill.Dec.OpCodeId
import Athrill.Dec.Parse
import Athrill.Intc.Control
import Athrill.Intc.Registers
import Athrill.Intc.Types
import Athrill.Lib.Routine
import Athrill.Lib.Bits
import Athrill.Lib.MinScan
import Athrill.Mpu.Config
import Athrill.Mpu.Coverage
import Athrill.Mpu.Permission
import Athrill.Exec.Ops
import Athrill.Exec.Ordinary
import Athrill.Exec.Arithm
import Athrill.Exec.Logic
import Athrill.Exec.Memory
import Athrill.Exec.Bit
import Athrill.Exec.Fpu
import Athrill.Exec.Stack
import Athrill.Exec.System
import Athrill.Cpu.Clock
import Athrill.Cpu.Step
import Athrill.Lib.Run
import Athrill.Mpu.Frame
import Athrill.Cpu.Run
import Athrill.Cpu.Fetch
import Athrill.Cpu.Cached
import Athrill.Cpu.Privilege
import Athrill.Cpu.Ldsr
import Athrill.Mpu.Mirror
import Athrill.Cpu.Entry
import Athrill.Mpu.Decoded
import Athrill.Cpu.Return
import Athrill.Dec.Lossless
import Athrill.Can.Mode
import Athrill.Can.Phase
import Athrill.Can.Coherence
import Athrill.Can.Independence
import Athrill.Cpu.Advance
import Athrill.Cpu.Alias
import Athrill.Exec.Restart
import Athrill.Cpu.Resume
import Athrill.Intc.Access
import Athrill.Intc.System
import Athrill.Intc.Masks
import Athrill.Intc.Queues
import Athrill.Can.Fifo
import Athrill.Can.Buffer
import Athrill.Can.Controller
import Athrill.Can.Mapping
import Athrill.Can.Steps
import Athrill.Can.Queue
import Athrill.Can.Rings
import Athrill.Can.Flags
import Athrill.Can.IntrStatus
import Athrill.Can.Reset
import Athrill.Can.Rules
import Athrill.Can.Delivery
import Athrill.Can.Memory
import Athrill.Can.Sends
import Athrill.Can.Snapshots
import Athrill.Can.Staging
import Athrill.Can.Offers
import Athrill.Can.Reports
import Athrill.Exec.Conditions
import Athrill.Exec.Saturate
import Athrill.Can.Clock
import Athrill.Can.Codec
import Athrill.Timer.Device
import Athrill.Timer.Skip
import Athrill.Intc.Cancel
import Athrill.Intc.Handler
import Athrill.Mpu.Command
import Athrill.Mpu.Violation
import Athrill.Intc.Conserve
import Athrill.Exec.DoubleWord
import Athrill.Exec.Division
import Athrill.Exec.Product
import Athrill.Exec.Shifts
import Athrill.Dec.Extended
import Athrill.Exec.Insert
import Athrill.Cpu.Syscall
import Athrill.Exec.Selector
import Athrill.Exec.Ram
import Athrill.Exec.Transfer
import Athrill.Exec.Frames
import Athrill.Exec.Ranges
import Athrill.Intc.Rank
import Athrill.Intc.Starts
import Athrill.Intc.Records
import Athrill.Exec.Search
import Athrill.Exec.Immediate
import Athrill.Exec.Loop
import Athrill.Exec.Rotate
import Athrill.Exec.Exchange
import Athrill.Exec.Linked
import Athrill.Lib.Ieee
import Athrill.Exec.Classes
import Athrill.Exec.Flush
import Athrill.Timer.Interval
import Athrill.Timer.Commands
import Athrill.Intc.Requests
import Athrill.Intc.Nesting
import Athrill.Can.Arbitration
import Athrill.Can.Link
import Athrill.Can.BufferOrder
import Athrill.Can.Threshold
import Athrill.Can.Entries
import Athrill.Can.History
import Athrill.Can.Accepted
import Athrill.Lib.Journal
import Athrill.Serial.Debug
import Athrill.Serial.Device
import Athrill.Serial.Steps
import Athrill.Serial.Runs
import Athrill.Serial.Receive
import Athrill.Serial.Timing
import Athrill.Serial.Send
import Athrill.Serial.Modes
import Athrill.Exec.Guarded
import Athrill.Intc.Frame
import Athrill.Cpu.Isolation
import Athrill.Can.Bus
import Athrill.Can.BusRings
import Athrill.Can.HakoLink
import Athrill.Cpu.Secrecy
import Athrill.Cpu.Window
import Athrill.Cpu.Writers
