import SwayControl.CommandLine.Example
import SwayControl.Service.Dispatch

/-!
The version of the program beside that of the window manager it talks to.
-/

namespace SwayControl.Version

/-- The result for what the window manager tells; what it leaves out is absent. -/
def told (entries : Entries) : ServiceResult :=
  let entry (name : String) : Datum := (entries.lookup name).getD .absent
  .success "version"
    [("swaycmd", .text programVersion), ("sway", entry "human_readable"), ("major", entry "major"),
      ("minor", entry "minor"), ("patch", entry "patch"),
      ("config_file", entry "loaded_config_file_name")]

/-- The result where the window manager cannot be asked, and the event that tells of it. -/
def failed (fault : IpcFault) : ServiceResult × List Event :=
  if fault.isNoSocket then (.failure "version" "NO_SOCKET" fault.message [], [])
  else (.failure "version" "IPC_ERROR" fault.message [], [.versionFailed fault])

def run (plan : ClientPlan) (peers : List Peer) : Served :=
  .ofExchange told failed (plan.serve peers Exchange.getVersion)

end SwayControl.Version
