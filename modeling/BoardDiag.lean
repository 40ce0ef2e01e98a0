import BoardDiag.Machine.Program
import BoardDiag.Machine.CString
import BoardDiag.Machine.Triple
import BoardDiag.Model.TestId
import BoardDiag.Model.EventLog
import BoardDiag.Model.TestList
import BoardDiag.Model.Diagtest
import BoardDiag.Model.Command
import BoardDiag.Session.Basic
import BoardDiag.Session.Execution
import BoardDiag.Session.Display
import BoardDiag.Session.Parse
import BoardDiag.Session.Command
import BoardDiag.Session.Moves
import BoardDiag.History.Status
import BoardDiag.History.Reachable
import BoardDiag.Usage.CommandLine
import BoardDiag.History.Bench
import BoardDiag.Usage.Grammar
import BoardDiag.Usage.Repetition
import BoardDiag.Usage.Dispatch
import BoardDiag.Usage.Sequence
import BoardDiag.Usage.Report
import BoardDiag.Suite.I2cUtils
import BoardDiag.Suite.Eeprom
import BoardDiag.Suite.NorFlash
import BoardDiag.Suite.DeadStorage
import BoardDiag.Suite.Memory
import BoardDiag.Suite.AddressLine
import BoardDiag.Usage.Listed
import BoardDiag.Suite.NorContents
import BoardDiag.Machine.Emits
import BoardDiag.Suite.Reports
import BoardDiag.Suite.I2cDevices
import BoardDiag.Suite.Peripherals
import BoardDiag.Suite.Registered
import BoardDiag.Suite.Verdicts
import BoardDiag.Suite.Attribution
import BoardDiag.Machine.Recorded
import BoardDiag.Machine.Registers
import BoardDiag.Suite.Transfers
import BoardDiag.Suite.NorArea
import BoardDiag.Suite.EepromContents
import BoardDiag.Suite.Probe
import BoardDiag.Suite.Pins
import BoardDiag.Suite.Link
import BoardDiag.Suite.Card
import BoardDiag.Suite.Clock
import BoardDiag.Suite.ClockRuns
import BoardDiag.Machine.Rounds
import BoardDiag.Usage.TestNames
import BoardDiag.Usage.SubCommands
import BoardDiag.Console.Listing
import BoardDiag.Driver.EepromBoard
import BoardDiag.Driver.NorFlashBoard
import BoardDiag.Driver.Commands
