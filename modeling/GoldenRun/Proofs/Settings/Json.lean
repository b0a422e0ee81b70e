import GoldenRun.Proofs.Disk.Contents
import GoldenRun.Proofs.Json.Record
import GoldenRun.Proofs.Json.Value
import GoldenRun.Settings.Source

/-!
# What a file of settings says

Each field of the settings has the value that the file gives to it, or its default. A file is
accepted if it gives no field twice and none a value of a wrong type; what else it has, and in which
order, makes no difference.
-/

namespace GoldenRun

open Json

def Duration.Means (value : Json) (limit : Duration) : Prop :=
  ∃ seconds, IsNumber (2 ^ 64) value seconds ∧ limit = ofSeconds seconds

/-- A pattern is an object of its kind and its text. -/
inductive PatternSpec.Means : Json → PatternSpec → Prop
  | substring (text : String) :
      Means (.object [(some "substring", .text (some text))]) (.substring text)
  | regex (text : String) : Means (.object [(some "regex", .text (some text))]) (.regex text)

/-- A rule is its name, or an object of its name and null. -/
inductive LengthRule.Means : Json → LengthRule → Prop
  | lenient : Means (.text (some "common_prefix")) .lenient
  | lenient_null : Means (.object [(some "common_prefix", .null)]) .lenient
  | strict : Means (.text (some "exact")) .strict
  | strict_null : Means (.object [(some "exact", .null)]) .strict

/-- What the values of its fields say about the settings of the simulator. -/
@[mk_iff]
structure SimulatorSettings.Described (given : String → List Json) (settings : SimulatorSettings) :
    Prop where
  path : Gives (Nullable IsText) none (given "path") settings.path
  quiet : Gives IsFlag true (given "quiet") settings.quiet
  memorySize : Gives (Nullable (IsNumber (2 ^ 32))) none (given "memory_size") settings.memorySize
  limit : Gives (Nullable Duration.Means) none (given "timeout_secs") settings.limit

def SimulatorSettings.Means (value : Json) (settings : SimulatorSettings) : Prop :=
  ∃ given, Fields names value given ∧ Described given settings

/-- What the values of its fields say about the settings of the toolchain. -/
@[mk_iff]
structure ToolchainSettings.Described (given : String → List Json) (settings : ToolchainSettings) :
    Prop where
  searchVariable : Gives IsText "PATH" (given "search_var") settings.searchVariable
  rootVariable : Gives IsText "RISCV" (given "root_var") settings.rootVariable
  assembler : Gives PatternSpec.Means .defaultAssembler (given "assembler") settings.assembler
  disassembler :
    Gives PatternSpec.Means .defaultDisassembler (given "disassembler") settings.disassembler
  architecture : Gives IsText "rv32i" (given "march") settings.architecture
  convention : Gives IsText "ilp32" (given "mabi") settings.convention
  limit : Gives (Nullable Duration.Means) none (given "timeout_secs") settings.limit

def ToolchainSettings.Means (value : Json) (settings : ToolchainSettings) : Prop :=
  ∃ given, Fields names value given ∧ Described given settings

namespace Settings

/-- What the values of its fields say about settings. -/
@[mk_iff]
structure Described (given : String → List Json) (settings : Settings) : Prop where
  root : Gives IsText "." (given "root") settings.root
  simulator : Gives SimulatorSettings.Means {} (given "simulator") settings.simulator
  toolchain : Gives ToolchainSettings.Means {} (given "toolchain") settings.toolchain
  lengthRule : Gives LengthRule.Means .lenient (given "length_policy") settings.lengthRule
  keepArtifacts : Gives IsFlag false (given "keep_artifacts") settings.keepArtifacts

def Means (value : Json) (settings : Settings) : Prop :=
  ∃ given, Fields names value given ∧ Described given settings

end Settings

variable {value : Json}

theorem Duration.ofJson?_eq_some_iff {limit : Duration} :
    ofJson? value = some limit ↔ Means value limit := by
  unfold ofJson? Means
  rw [Option.map_eq_some_iff]
  exact exists_congr fun seconds => and_congr asNumber_eq_some_iff eq_comm

theorem PatternSpec.ofJson?_eq_some_iff {pattern : PatternSpec} :
    ofJson? value = some pattern ↔ Means value pattern := by
  constructor
  · intro h
    unfold ofJson? at h
    split at h
    · next content hchoice =>
      obtain ⟨text, htext, rfl⟩ := Option.map_eq_some_iff.mp h
      obtain rfl := asText_eq_some_iff.mp htext
      obtain rfl := asChoice_some_iff.mp hchoice
      exact .substring text
    · next content hchoice =>
      obtain ⟨text, htext, rfl⟩ := Option.map_eq_some_iff.mp h
      obtain rfl := asText_eq_some_iff.mp htext
      obtain rfl := asChoice_some_iff.mp hchoice
      exact .regex text
    · contradiction
  · rintro ⟨⟩ <;> rfl

theorem LengthRule.ofJson?_eq_some_iff {rule : LengthRule} :
    ofJson? value = some rule ↔ Means value rule := by
  constructor
  · intro h
    unfold ofJson? at h
    split at h
    · next content hchoice =>
      obtain ⟨hbare, rfl⟩ : isBare content = true ∧ lenient = rule := by simpa using h
      rcases isBare_iff.mp hbare with rfl | rfl
      · obtain rfl := asChoice_none_iff.mp hchoice
        exact .lenient
      · obtain rfl := asChoice_some_iff.mp hchoice
        exact .lenient_null
    · next content hchoice =>
      obtain ⟨hbare, rfl⟩ : isBare content = true ∧ strict = rule := by simpa using h
      rcases isBare_iff.mp hbare with rfl | rfl
      · obtain rfl := asChoice_none_iff.mp hchoice
        exact .strict
      · obtain rfl := asChoice_some_iff.mp hchoice
        exact .strict_null
    · contradiction
  · rintro ⟨⟩ <;> rfl

theorem asOptional_asText_iff {x : Option String} :
    asOptional asText value = some x ↔ Nullable IsText value x :=
  asOptional_eq_some_iff (fun _ _ => asText_eq_some_iff) rfl

theorem asOptional_duration_iff {x : Option Duration} :
    asOptional Duration.ofJson? value = some x ↔ Nullable Duration.Means value x :=
  asOptional_eq_some_iff (fun _ _ => Duration.ofJson?_eq_some_iff) rfl

theorem SimulatorSettings.asOptional_memorySize_iff {x : Option ℕ} :
    asOptional memorySizeOfJson? value = some x ↔ Nullable (IsNumber (2 ^ 32)) value x :=
  asOptional_eq_some_iff (fun _ _ => asNumber_eq_some_iff) rfl

theorem SimulatorSettings.ofJson?_eq_some_iff {settings : SimulatorSettings} :
    ofJson? value = some settings ↔ Means value settings := by
  unfold ofJson? Means
  rw [Option.bind_eq_bind, fields?_bind_eq_some_iff (by decide)]
  -- What is left is the same of each field on both sides: it is given once at most, and decoded.
  refine exists_congr fun given => and_congr_right fun _ => ?_
  simp only [names, List.forall_mem_cons, List.map_cons, List.map_nil, Option.bind_eq_bind,
    Option.bind_eq_some_iff, described_iff, gives_iff fun _ _ => asOptional_asText_iff,
    gives_iff fun _ _ => asBool_eq_some_iff,
    gives_iff fun _ _ => asOptional_memorySize_iff,
    gives_iff fun _ _ => asOptional_duration_iff]
  grind

theorem ToolchainSettings.ofJson?_eq_some_iff {settings : ToolchainSettings} :
    ofJson? value = some settings ↔ Means value settings := by
  unfold ofJson? Means
  rw [Option.bind_eq_bind, fields?_bind_eq_some_iff (by decide)]
  refine exists_congr fun given => and_congr_right fun _ => ?_
  simp only [names, List.forall_mem_cons, List.map_cons, List.map_nil, Option.bind_eq_bind,
    Option.bind_eq_some_iff, described_iff, gives_iff fun _ _ => asText_eq_some_iff,
    gives_iff fun _ _ => PatternSpec.ofJson?_eq_some_iff,
    gives_iff fun _ _ => asOptional_duration_iff]
  grind

theorem Settings.ofJson?_eq_some_iff {settings : Settings} :
    ofJson? value = some settings ↔ Means value settings := by
  unfold ofJson? Means
  rw [Option.bind_eq_bind, fields?_bind_eq_some_iff (by decide)]
  refine exists_congr fun given => and_congr_right fun _ => ?_
  simp only [names, List.forall_mem_cons, List.map_cons, List.map_nil, Option.bind_eq_bind,
    Option.bind_eq_some_iff, described_iff, gives_iff fun _ _ => asText_eq_some_iff,
    gives_iff fun _ _ => SimulatorSettings.ofJson?_eq_some_iff,
    gives_iff fun _ _ => ToolchainSettings.ofJson?_eq_some_iff,
    gives_iff fun _ _ => LengthRule.ofJson?_eq_some_iff,
    gives_iff fun _ _ => asBool_eq_some_iff]
  grind

/-- The fields of the settings of the simulator, and the types of their values. -/
def SimulatorSettings.types : List (String × (Json → Prop)) :=
  [("path", fun value => ∃ path, Nullable IsText value path),
    ("quiet", fun value => ∃ quiet, IsFlag value quiet),
    ("memory_size", fun value => ∃ size, Nullable (IsNumber (2 ^ 32)) value size),
    ("timeout_secs", fun value => ∃ limit, Nullable Duration.Means value limit)]

def ToolchainSettings.types : List (String × (Json → Prop)) :=
  [("search_var", fun value => ∃ name, IsText value name),
    ("root_var", fun value => ∃ name, IsText value name),
    ("assembler", fun value => ∃ pattern, PatternSpec.Means value pattern),
    ("disassembler", fun value => ∃ pattern, PatternSpec.Means value pattern),
    ("march", fun value => ∃ architecture, IsText value architecture),
    ("mabi", fun value => ∃ convention, IsText value convention),
    ("timeout_secs", fun value => ∃ limit, Nullable Duration.Means value limit)]

def Settings.types : List (String × (Json → Prop)) :=
  [("root", fun value => ∃ root, IsText value root),
    ("simulator", IsRecord SimulatorSettings.types),
    ("toolchain", IsRecord ToolchainSettings.types),
    ("length_policy", fun value => ∃ rule, LengthRule.Means value rule),
    ("keep_artifacts", fun value => ∃ keep, IsFlag value keep)]

theorem SimulatorSettings.exists_means (h : IsRecord types value) :
    ∃ settings, Means value settings := by
  obtain ⟨given, hgiven, hfields⟩ := h
  simp only [types, List.forall_mem_cons] at hfields
  obtain ⟨hpath, hquiet, hmemorySize, hlimit, -⟩ := hfields
  obtain ⟨path, hpath⟩ := exists_gives none hpath.1 hpath.2
  obtain ⟨quiet, hquiet⟩ := exists_gives true hquiet.1 hquiet.2
  obtain ⟨memorySize, hmemorySize⟩ := exists_gives none hmemorySize.1 hmemorySize.2
  obtain ⟨limit, hlimit⟩ := exists_gives none hlimit.1 hlimit.2
  exact ⟨⟨path, quiet, memorySize, limit⟩, given, hgiven, hpath, hquiet, hmemorySize, hlimit⟩

theorem ToolchainSettings.exists_means (h : IsRecord types value) :
    ∃ settings, Means value settings := by
  obtain ⟨given, hgiven, hfields⟩ := h
  simp only [types, List.forall_mem_cons] at hfields
  obtain ⟨hsearch, hroot, hassembler, hdisassembler, harchitecture, hconvention, hlimit, -⟩ :=
    hfields
  obtain ⟨searchVariable, hsearch⟩ := exists_gives "PATH" hsearch.1 hsearch.2
  obtain ⟨rootVariable, hroot⟩ := exists_gives "RISCV" hroot.1 hroot.2
  obtain ⟨assembler, hassembler⟩ := exists_gives .defaultAssembler hassembler.1 hassembler.2
  obtain ⟨disassembler, hdisassembler⟩ :=
    exists_gives .defaultDisassembler hdisassembler.1 hdisassembler.2
  obtain ⟨architecture, harchitecture⟩ := exists_gives "rv32i" harchitecture.1 harchitecture.2
  obtain ⟨convention, hconvention⟩ := exists_gives "ilp32" hconvention.1 hconvention.2
  obtain ⟨limit, hlimit⟩ := exists_gives none hlimit.1 hlimit.2
  exact ⟨⟨searchVariable, rootVariable, assembler, disassembler, architecture, convention, limit⟩,
    given, hgiven, hsearch, hroot, hassembler, hdisassembler, harchitecture, hconvention, hlimit⟩

theorem Settings.exists_means (h : IsRecord types value) : ∃ settings, Means value settings := by
  obtain ⟨given, hgiven, hfields⟩ := h
  simp only [types, List.forall_mem_cons] at hfields
  obtain ⟨hroot, hsimulator, htoolchain, hlengthRule, hkeep, -⟩ := hfields
  obtain ⟨root, hroot⟩ := exists_gives "." hroot.1 hroot.2
  obtain ⟨simulator, hsimulator⟩ := exists_gives {} hsimulator.1 fun value hvalue =>
    SimulatorSettings.exists_means (hsimulator.2 value hvalue)
  obtain ⟨toolchain, htoolchain⟩ := exists_gives {} htoolchain.1 fun value hvalue =>
    ToolchainSettings.exists_means (htoolchain.2 value hvalue)
  obtain ⟨lengthRule, hlengthRule⟩ := exists_gives .lenient hlengthRule.1 hlengthRule.2
  obtain ⟨keepArtifacts, hkeep⟩ := exists_gives false hkeep.1 hkeep.2
  exact ⟨⟨root, simulator, toolchain, lengthRule, keepArtifacts⟩, given, hgiven, hroot, hsimulator,
    htoolchain, hlengthRule, hkeep⟩

variable {given given' : String → List Json} {inner inner' members members' :
  List (Option String × Json)}

theorem SimulatorSettings.described_perm
    (h : ∀ name ∈ names, (given name).Perm (given' name)) {settings : SimulatorSettings} :
    Described given settings ↔ Described given' settings := by
  simp only [names, List.forall_mem_cons] at h
  obtain ⟨hpath, hquiet, hmemorySize, hlimit, -⟩ := h
  simp only [described_iff, gives_perm hpath, gives_perm hquiet, gives_perm hmemorySize,
    gives_perm hlimit]

theorem ToolchainSettings.described_perm
    (h : ∀ name ∈ names, (given name).Perm (given' name)) {settings : ToolchainSettings} :
    Described given settings ↔ Described given' settings := by
  simp only [names, List.forall_mem_cons] at h
  obtain ⟨hsearch, hroot, hassembler, hdisassembler, harchitecture, hconvention, hlimit, -⟩ := h
  simp only [described_iff, gives_perm hsearch, gives_perm hroot, gives_perm hassembler,
    gives_perm hdisassembler, gives_perm harchitecture, gives_perm hconvention, gives_perm hlimit]

theorem Settings.described_perm
    (h : ∀ name ∈ names, (given name).Perm (given' name)) {settings : Settings} :
    Described given settings ↔ Described given' settings := by
  simp only [names, List.forall_mem_cons] at h
  obtain ⟨hroot, hsimulator, htoolchain, hlengthRule, hkeep, -⟩ := h
  simp only [described_iff, gives_perm hroot, gives_perm hsimulator, gives_perm htoolchain,
    gives_perm hlengthRule, gives_perm hkeep]

theorem SimulatorSettings.means_reworded (h : Json.Reworded names inner inner')
    (settings : SimulatorSettings) :
    Means (.object inner) settings ↔ Means (.object inner') settings :=
  h.exists_fields_iff fun _ _ hperm => described_perm hperm

theorem ToolchainSettings.means_reworded (h : Json.Reworded names inner inner')
    (settings : ToolchainSettings) :
    Means (.object inner) settings ↔ Means (.object inner') settings :=
  h.exists_fields_iff fun _ _ hperm => described_perm hperm

theorem SimulatorSettings.means_empty {settings : SimulatorSettings} :
    Means (.object []) settings ↔ settings = {} := by
  unfold Means
  rw [exists_fields_object_iff]
  simp only [described_iff, values_nil, gives_nil_iff]
  cases settings
  simp [Named]

theorem ToolchainSettings.means_empty {settings : ToolchainSettings} :
    Means (.object []) settings ↔ settings = {} := by
  unfold Means
  rw [exists_fields_object_iff]
  simp only [described_iff, values_nil, gives_nil_iff]
  cases settings
  simp [Named]

theorem SimulatorSettings.Described.length_le {settings : SimulatorSettings}
    (h : Described given settings) : ∀ name ∈ names, (given name).length ≤ 1 := by
  simp only [names, List.forall_mem_cons]
  exact ⟨h.path.length_le, h.quiet.length_le, h.memorySize.length_le, h.limit.length_le, by simp⟩

theorem ToolchainSettings.Described.length_le {settings : ToolchainSettings}
    (h : Described given settings) : ∀ name ∈ names, (given name).length ≤ 1 := by
  simp only [names, List.forall_mem_cons]
  exact ⟨h.searchVariable.length_le, h.rootVariable.length_le, h.assembler.length_le,
    h.disassembler.length_le, h.architecture.length_le, h.convention.length_le, h.limit.length_le,
    by simp⟩

theorem Settings.Described.length_le {settings : Settings} (h : Described given settings) :
    ∀ name ∈ names, (given name).length ≤ 1 := by
  simp only [names, List.forall_mem_cons]
  exact ⟨h.root.length_le, h.simulator.length_le, h.toolchain.length_le, h.lengthRule.length_le,
    h.keepArtifacts.length_le, by simp⟩

namespace Settings

/-- The fields that are records themselves, and the names of their fields. -/
def records : List (String × List String) :=
  [("simulator", SimulatorSettings.names), ("toolchain", ToolchainSettings.names)]

/-- Files with the same known members, at the top and in the records: in another order, and among
other unknown ones. A record that is missing is one without members. -/
inductive Reworded : List (Option String × Json) → List (Option String × Json) → Prop
  | members {members members' : List (Option String × Json)}
      (h : Json.Reworded names members members') : Reworded members members'
  | record {members inner inner' : List (Option String × Json)} {record : String × List String}
      (hrecord : record ∈ records) (h : Json.Reworded record.2 inner inner') :
      Reworded ((some record.1, .object inner) :: members)
        ((some record.1, .object inner') :: members)
  | missing {members : List (Option String × Json)} {record : String × List String}
      (hrecord : record ∈ records) (h : values record.1 members = []) :
      Reworded members ((some record.1, .object []) :: members)
  | symm {members members' : List (Option String × Json)} (h : Reworded members members') :
      Reworded members' members
  | trans {first second third : List (Option String × Json)} (h : Reworded first second)
      (h' : Reworded second third) : Reworded first third

theorem means_object_iff {settings : Settings} : Means (.object members) settings ↔
    Named members ∧ Described (fun name => values name members) settings :=
  exists_fields_object_iff

theorem Reworded.means (h : Reworded members members') {settings : Settings} :
    Means (.object members) settings ↔ Means (.object members') settings := by
  induction h with
  | members h => exact h.exists_fields_iff fun _ _ hperm => described_perm hperm
  | @record members inner inner' record hrecord h =>
    simp only [records, List.mem_cons, List.not_mem_nil, or_false] at hrecord
    rcases hrecord with rfl | rfl
    · simp [means_object_iff, named_cons, described_iff, values_cons_of_ne,
        gives_cons_congr (SimulatorSettings.means_reworded h _)]
    · simp [means_object_iff, named_cons, described_iff, values_cons_of_ne,
        gives_cons_congr (ToolchainSettings.means_reworded h _)]
  | missing hrecord h =>
    simp only [records, List.mem_cons, List.not_mem_nil, or_false] at hrecord
    rcases hrecord with rfl | rfl
    · simp [means_object_iff, named_cons, described_iff, values_cons_of_ne, h, gives_nil_iff,
        gives_singleton_iff, SimulatorSettings.means_empty]
    · simp [means_object_iff, named_cons, described_iff, values_cons_of_ne, h, gives_nil_iff,
        gives_singleton_iff, ToolchainSettings.means_empty]
  | symm h ih => exact ih.symm
  | trans h h' ih ih' => exact ih.trans ih'

/-- A field is written twice, at the top or in one of the records. -/
def Repeats (members : List (Option String × Json)) : Prop :=
  (∃ name ∈ names, 2 ≤ (values name members).length) ∨
    ∃ record ∈ records, ∃ inner, (some record.1, .object inner) ∈ members ∧
      ∃ name ∈ record.2, 2 ≤ (values name inner).length

theorem Repeats.not_means (h : Repeats members) {settings : Settings} :
    ¬Means (.object members) settings := by
  intro hmeans
  obtain ⟨-, hdescribed⟩ := means_object_iff.mp hmeans
  rcases h with ⟨name, hname, htwice⟩ | ⟨record, hrecord, inner, hmem, name, hname, htwice⟩
  · have hone := hdescribed.length_le name hname
    omega
  · simp only [records, List.mem_cons, List.not_mem_nil, or_false] at hrecord
    rcases hrecord with rfl | rfl
    · have hinner := hdescribed.simulator.means_of_mem (mem_values.mpr hmem)
      obtain ⟨-, hinner⟩ := exists_fields_object_iff.mp hinner
      have hone := hinner.length_le name hname
      omega
    · have hinner := hdescribed.toolchain.means_of_mem (mem_values.mpr hmem)
      obtain ⟨-, hinner⟩ := exists_fields_object_iff.mp hinner
      have hone := hinner.length_le name hname
      omega

variable {disk disk' : Disk} {path : Path} {text text' : String}

theorem load_of_written (hread : disk.readText path = .ok text)
    (hwritten : Written value text.toList) : load disk path =
      (ofJson? value).elim (.error (.badSettings path)) .ok := by
  unfold load ofText?
  simp only [hread, parse?_of_written hwritten, Option.bind_some]
  cases ofJson? value <;> rfl

theorem load_eq_ok_iff (hread : disk.readText path = .ok text)
    (hwritten : Written value text.toList) {settings : Settings} :
    load disk path = .ok settings ↔ Means value settings := by
  rw [load_of_written hread hwritten, ← ofJson?_eq_some_iff]
  cases ofJson? value <;> simp

theorem load_eq_error (hread : disk.readText path = .ok text)
    (hwritten : Written value text.toList) (h : ∀ settings, ¬Means value settings) :
    load disk path = .error (.badSettings path) := by
  have hnone : ofJson? value = none := by
    rw [Option.eq_none_iff_forall_ne_some]
    exact fun settings hsome => h settings (ofJson?_eq_some_iff.mp hsome)
  rw [load_of_written hread hwritten, hnone]
  rfl

theorem load_congr {value' : Json} (hread : disk.readText path = .ok text)
    (hwritten : Written value text.toList) (hread' : disk'.readText path = .ok text')
    (hwritten' : Written value' text'.toList)
    (h : ∀ settings, Means value settings ↔ Means value' settings) :
    load disk' path = load disk path := by
  have hsame : ofJson? value' = ofJson? value := by
    refine Option.ext fun settings => ?_
    rw [ofJson?_eq_some_iff, ofJson?_eq_some_iff, h]
  rw [load_of_written hread hwritten, load_of_written hread' hwritten', hsame]

/-- A file that turns the quiet output of the simulator off. -/
def loudFile : String :=
  "\x7b\"root\": \"r\", \"simulator\": \x7b\"quiet\": false\x7d\x7d"

def oneFile (data : Bytes) : Disk where
  home := []
  entries := [(["c"], .file data false)]
  nodup := List.nodup_singleton _

def loudMembers : List (Option String × Json) :=
  [(some "root", .text (some "r")),
    (some "simulator", .object [(some "quiet", .bool false)])]

theorem written_loudFile : Written (.object loudMembers) loudFile.toList := by
  have htight : ∀ {token lexeme tokens text}, Spells token lexeme → Layout tokens text →
      Layout (token :: tokens) (lexeme ++ text) := fun hspell h =>
    @Layout.cons [] _ _ _ _ (by simp) hspell h
  have hspaced : ∀ {token lexeme tokens text}, Spells token lexeme → Layout tokens text →
      Layout (token :: tokens) (' ' :: (lexeme ++ text)) := fun hspell h =>
    @Layout.cons [' '] _ _ _ _ (by simp [blanks]) hspell h
  have hlayout := htight .openObject <| htight (spells_plain "root" (by simp)) <|
    htight .colon <| hspaced (spells_plain "r" (by simp)) <| htight .comma <|
    hspaced (spells_plain "simulator" (by simp)) <| htight .colon <| hspaced .openObject <|
    htight (spells_plain "quiet" (by simp)) <| htight .colon <| hspaced .false <|
    htight .closeObject <| htight .closeObject <| @Layout.nil [] (by simp)
  exact hlayout

end Settings

end GoldenRun
