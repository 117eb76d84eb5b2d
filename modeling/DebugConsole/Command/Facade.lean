import DebugConsole.HostLog
import DebugConsole.Problem
import DebugConsole.Settings

/-!
# What commands act on

Stock commands reach a console through a facade: the calls they may make, how each of them turns out, and whether mail can be sent.
A facade over states `σ` may answer as it likes, so what is known of commands is known for every console.
-/

namespace DebugConsole

/-- Something that a stock command may ask of a console. -/
inductive Call
  | setColor (slot : ColorSlot) (value : Color)
  | setDiagnostics (on : Bool)
  | enterFullscreen
  /-- Back to the dock before fullscreen. -/
  | exitFullscreen
  | closePanel
  | reset
  | sendMail (recipients : List String)
  | print (destination : Destination) (line : Line)
deriving DecidableEq, Repr

/-- Whether a call only prints. -/
def Call.isPrint : Call → Bool
  | .print _ _ => true
  | _ => false

/-- A console as commands see it. -/
structure Facade (σ : Type) where
  /-- Whether the host can compose mail. -/
  canMail : σ → Bool
  /-- What a call leads to, and the problem with it if it failed. -/
  perform : Call → σ → Outcome σ (Option Problem)

end DebugConsole
