import GoldenRun.Json.Record
import GoldenRun.Settings.Basic

/-!
# Settings in JSON

The written form of settings: a record at the top and one for each of simulator and toolchain.
Fields that are missing have their defaults.
-/

namespace GoldenRun

open Json

/-- A length of time is a number of seconds that 64 bits can hold. -/
def Duration.ofJson? (value : Json) : Option Duration :=
  (asNumber (Nat.pow 2 64) value).map ofSeconds

/-- A pattern is a choice between two kinds, each with its text. -/
def PatternSpec.ofJson? (value : Json) : Option PatternSpec :=
  match asChoice value with
  | some ("substring", some content) => (asText content).map .substring
  | some ("regex", some content) => (asText content).map .regex
  | _ => none

/-- A rule is a choice between two names. -/
def LengthRule.ofJson? (value : Json) : Option LengthRule :=
  match asChoice value with
  | some ("common_prefix", content) => if isBare content then some .lenient else none
  | some ("exact", content) => if isBare content then some .strict else none
  | _ => none

def SimulatorSettings.names : List String :=
  ["path", "quiet", "memory_size", "timeout_secs"]

/-- The size of a memory is a number that 32 bits can hold. -/
def SimulatorSettings.memorySizeOfJson? : Json → Option Nat :=
  asNumber (Nat.pow 2 32)

def SimulatorSettings.ofJson? (value : Json) : Option SimulatorSettings := do
  let default : SimulatorSettings := {}
  match ← fields? names value with
  | [path, quiet, memorySize, limit] =>
    let path ← fieldOr default.path (asOptional asText) path
    let quiet ← fieldOr default.quiet asBool quiet
    let memorySize ← fieldOr default.memorySize (asOptional memorySizeOfJson?) memorySize
    let limit ← fieldOr default.limit (asOptional Duration.ofJson?) limit
    some { path, quiet, memorySize, limit }
  | _ => none

def ToolchainSettings.names : List String :=
  ["search_var", "root_var", "assembler", "disassembler", "march", "mabi", "timeout_secs"]

def ToolchainSettings.ofJson? (value : Json) : Option ToolchainSettings := do
  let default : ToolchainSettings := {}
  match ← fields? names value with
  | [searchVariable, rootVariable, assembler, disassembler, architecture, convention, limit] =>
    let searchVariable ← fieldOr default.searchVariable asText searchVariable
    let rootVariable ← fieldOr default.rootVariable asText rootVariable
    let assembler ← fieldOr default.assembler PatternSpec.ofJson? assembler
    let disassembler ← fieldOr default.disassembler PatternSpec.ofJson? disassembler
    let architecture ← fieldOr default.architecture asText architecture
    let convention ← fieldOr default.convention asText convention
    let limit ← fieldOr default.limit (asOptional Duration.ofJson?) limit
    some { searchVariable, rootVariable, assembler, disassembler, architecture, convention, limit }
  | _ => none

namespace Settings

def names : List String :=
  ["root", "simulator", "toolchain", "length_policy", "keep_artifacts"]

def ofJson? (value : Json) : Option Settings := do
  let default : Settings := {}
  match ← fields? names value with
  | [root, simulator, toolchain, lengthRule, keepArtifacts] =>
    let root ← fieldOr default.root asText root
    let simulator ← fieldOr default.simulator SimulatorSettings.ofJson? simulator
    let toolchain ← fieldOr default.toolchain ToolchainSettings.ofJson? toolchain
    let lengthRule ← fieldOr default.lengthRule LengthRule.ofJson? lengthRule
    let keepArtifacts ← fieldOr default.keepArtifacts asBool keepArtifacts
    some { root, simulator, toolchain, lengthRule, keepArtifacts }
  | _ => none

def ofText? (text : String) : Option Settings :=
  (Json.parse? text.toList).bind ofJson?

end Settings

end GoldenRun
