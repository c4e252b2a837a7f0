import LobsterServer.Host.Tool.Bytes
import LobsterServer.Host.Tool.Copy
import LobsterServer.Host.Tool.Count
import LobsterServer.Host.Tool.Idle
import LobsterServer.Host.Tool.Wait

set_option autoImplicit false

/-!
# The tools of the host

Each tool has a name and does its work for a task.
-/

namespace LobsterServer.Host.Tool

/-- The tools, by their names. -/
def table : List (String × (Task → Effort)) :=
  [("true", fun t => .exit t 0),
   ("false", fun t => .exit t 1),
   ("cat", concatenate),
   ("head", copyFirst),
   ("tail", copyLast),
   ("yes", repeatLine),
   ("wc", count),
   ("tr", replaceBytes),
   ("sleep", wait)]
    ++ idle

/-- The tool of a name. -/
def named? (name : String) : Option (Task → Effort) := table.lookup name

end LobsterServer.Host.Tool
