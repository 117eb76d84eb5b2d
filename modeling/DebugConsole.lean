import DebugConsole.Proofs.Command.Arity
import DebugConsole.Proofs.Command.Course
import DebugConsole.Proofs.Command.Normal
import DebugConsole.Proofs.Command.Registration
import DebugConsole.Proofs.Config.Application
import DebugConsole.Proofs.Config.Overrides
import DebugConsole.Proofs.Config.RoundTrip
import DebugConsole.Proofs.Console.Announcement
import DebugConsole.Proofs.Console.Buffer
import DebugConsole.Proofs.Console.Coloring
import DebugConsole.Proofs.Console.Docking
import DebugConsole.Proofs.Console.Failure
import DebugConsole.Proofs.Console.LiveEnvironment
import DebugConsole.Proofs.Console.Mail
import DebugConsole.Proofs.Console.Refusal
import DebugConsole.Proofs.Console.Reporting
import DebugConsole.Proofs.Console.Reset
import DebugConsole.Proofs.Panel.Readout
import DebugConsole.Proofs.Session.Batching
import DebugConsole.Proofs.Session.Capture
import DebugConsole.Proofs.Session.Confinement
import DebugConsole.Proofs.Session.Dealings
import DebugConsole.Proofs.Session.Mailing
import DebugConsole.Proofs.Session.Startup
import DebugConsole.Proofs.Session.UserCommand
import DebugConsole.Proofs.Terminal
import DebugConsole.Session
