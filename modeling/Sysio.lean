import Sysio.Lib.Polling
import Sysio.Lib.CString
import Sysio.Lib.Memory
import Sysio.Radio.Crc
import Sysio.Lib.ShiftRegister
import Sysio.Radio.Bursts
import Sysio.Lib.Linked
import Sysio.Lib.Refinement
import Sysio.Lib.Block
import Sysio.Containers.DList
import Sysio.Containers.DListRefinement
import Sysio.Containers.Vector
import Sysio.Containers.VectorRefinement
import Sysio.Radio.Ax25.Frame
import Sysio.Radio.Ax25.Link
import Sysio.Radio.Ax25.Transmit
import Sysio.Radio.Ax25.Receive
import Sysio.Radio.Ax25.Soundness
import Sysio.Radio.Ax25.Decode
import Sysio.Radio.Ax25.Session
import Sysio.Radio.Ax25.RoundTrip
import Sysio.Radio.Ax25.Reads
import Sysio.Radio.Ax25.Limits
import Sysio.Radio.Ax25.Traffic
import Sysio.Radio.Tnc.Controller
import Sysio.Radio.Tnc.RoundTrip
import Sysio.Radio.Tnc.Grammar
import Sysio.Radio.Tnc.Acceptance
import Sysio.Radio.Tnc.Bounds
import Sysio.Radio.Tnc.Traffic
import Sysio.XBee.Bytewise
import Sysio.XBee.Frames
import Sysio.XBee.Reception
import Sysio.XBee.Ownership
import Sysio.XBee.Handover
import Sysio.Lib.Layout
import Sysio.XBee.Packets
import Sysio.XBee.Callbacks
import Sysio.XBee.Parameters
import Sysio.XBee.Samples
import Sysio.XBee.Send
import Sysio.XBee.Output
import Sysio.XBee.Sending
import Sysio.XBee.SendReceive
import Sysio.Lib.Strings
import Sysio.Tinfo.Frame
import Sysio.Tinfo.Items
import Sysio.Tinfo.Receiver
import Sysio.Tinfo.Chunks
import Sysio.Tinfo.Storage
import Sysio.Tinfo.Overflow
import Sysio.Tinfo.OwnBytes
import Sysio.Tinfo.Groups
import Sysio.Tinfo.Dispatch
import Sysio.Tinfo.Acceptance
import Sysio.Tinfo.Carried
import Sysio.Tinfo.Stated
import Sysio.Tinfo.Events
import Sysio.Tinfo.SinglePhase
import Sysio.Tinfo.Decoding
import Sysio.Tinfo.ThreePhase
import Sysio.Lib.Routine
import Sysio.Lib.Script
import Sysio.Rf69.Module
import Sysio.Rf69.Driver
import Sysio.Rf69.Rules
import Sysio.Rf69.Operations
import Sysio.Rf69.Primitives
import Sysio.Unix.Timer
import Sysio.Unix.Registration
import Sysio.Unix.Dispatch
import Sysio.Lib.Bits
import Sysio.Gpio.Inputs
import Sysio.Gpio.Decoding
import Sysio.Gpio.Edges
import Sysio.Gpio.Blyss
import Sysio.Gpio.BlyssFields
import Sysio.Gpio.BlyssRecords
import Sysio.Gpio.Waveform
import Sysio.I2c.Memory
import Sysio.I2c.Transfers
import Sysio.I2c.RoundTrip
import Sysio.I2c.Array
import Sysio.Rf69.Modes
import Sysio.Rf69.Faults
import Sysio.Rf69.Frames
import Sysio.Rf69.Propagation
import Sysio.Gpio.Iterator
import Sysio.Gpio.Outputs
import Sysio.Gpio.NanoPi
import Sysio.Gpio.Release
import Sysio.I2c.Leds
import Sysio.I2c.LedRuns
import Sysio.Rf69.Registers
import Sysio.Rf69.Frequency
import Sysio.Rf69.Opening
import Sysio.Rf69.Power
import Sysio.Rf69.Strings
import Sysio.ChipIo.Serial
import Sysio.Rf69.Amplifier
import Sysio.Rf69.PollThread
import Sysio.Rf69.Hearing
import Sysio.Rf69.Listening
import Sysio.Rf69.Retries
import Sysio.Containers.VectorRuns
import Sysio.I2c.Addressing
import Sysio.Radio.Ax25.Residue
import Sysio.Containers.VectorBounds
import Sysio.Containers.VectorClearing
import Sysio.Containers.VectorResizing
import Sysio.Containers.VectorLedger
import Sysio.Radio.Ax25.Text
import Sysio.Gps.Angle
import Sysio.ChipIo.Attributes
import Sysio.Gpio.Board.Lookup
import Sysio.Gpio.Board.Levels
import Sysio.Gpio.PinRegisters
import Sysio.XBee.Link
import Sysio.Unix.SerialLine
