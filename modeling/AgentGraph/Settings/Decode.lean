import AgentGraph.Decode.Record
import AgentGraph.Settings.Basic

/-!
Settings from JSON and to JSON. Settings that are left out keep their defaults.
-/

namespace AgentGraph

open Decode

def Settings.record : Record Settings where
  name := "GeneratorConfig"
  fields := [
    .optional "entry_point" string fun entryPoint settings => { settings with entryPoint },
    .optional "reasoning_suffix" string fun reasoningSuffix settings =>
      { settings with reasoningSuffix },
    .optional "default_host" string fun defaultHost settings =>
      { settings with defaultHost },
    .optional "default_port" word16 fun defaultPort settings =>
      { settings with defaultPort },
    .optional "default_password" string fun defaultPassword settings =>
      { settings with defaultPassword },
    .optional "header" boolean fun header settings => { settings with header }]

def Settings.decode : Json → Decoded Settings := Settings.record.decode {}

def Settings.toJson (settings : Settings) : Json :=
  .object [("entry_point", .string settings.entryPoint),
    ("reasoning_suffix", .string settings.reasoningSuffix),
    ("default_host", .string settings.defaultHost),
    ("default_port", .nat settings.defaultPort.toNat),
    ("default_password", .string settings.defaultPassword),
    ("header", .bool settings.header)]

end AgentGraph
