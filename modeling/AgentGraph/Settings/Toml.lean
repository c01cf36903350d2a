import AgentGraph.Settings.Basic
import AgentGraph.Toml.Parser

/-!
Settings from TOML. Entries of other names are passed over; an entry of the wrong
type spoils the whole document.
-/

namespace AgentGraph.Settings

open Toml

def withEntry? (settings : Settings) (key : String) (item : Item) : Option Settings :=
  match key, item with
  | "entry_point", .scalar (.string entryPoint) => some { settings with entryPoint }
  | "reasoning_suffix", .scalar (.string reasoningSuffix) =>
      some { settings with reasoningSuffix }
  | "default_host", .scalar (.string defaultHost) => some { settings with defaultHost }
  | "default_port", .scalar (.integer port) =>
      if 0 ≤ port ∧ port < 65536 then
        some { settings with defaultPort := UInt16.ofNat port.toNat }
      else none
  | "default_password", .scalar (.string defaultPassword) =>
      some { settings with defaultPassword }
  | "header", .scalar (.boolean header) => some { settings with header }
  | key, _ =>
      if ["entry_point", "reasoning_suffix", "default_host", "default_port",
          "default_password", "header"].contains key then none
      else some settings

def ofToml? (text : String) : Option Settings := do
  (← Toml.parse? text).foldlM (fun settings entry => settings.withEntry? entry.1 entry.2) {}

end AgentGraph.Settings
