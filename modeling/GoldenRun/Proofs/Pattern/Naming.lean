import GoldenRun.Proofs.Pattern.Literal

/-!
# The names of the GNU tools

The default patterns spell out one naming scheme: a word size, segments between hyphens, and the
tool. A segment may itself spell the name of a tool, so a name is taken apart from both ends: the
anchors fix where it begins and ends, and the rounds of the repetition are its segments. The two
patterns differ in how a name ends, so no name belongs to both tools.
-/

namespace GoldenRun

/-- Whether a text can stand between two hyphens of a name: it has characters, and they are letters
and digits of ASCII and underscores. -/
def IsSegment (text : List Char) : Prop :=
  text ≠ [] ∧ ∀ c ∈ text, c.isAlphanum ∨ c = '_'

/-- The names of a tool: a word size, segments with hyphens between them, the tool, and perhaps the
extension of an executable. -/
def IsToolName (tool name : String) : Prop :=
  ∃ size ∈ ["riscv32-", "riscv64-"], ∃ segments : List String, segments ≠ [] ∧
    (∀ segment ∈ segments, IsSegment segment.toList) ∧
    ∃ extension ∈ ["", ".exe"], name = size ++ "-".intercalate segments ++ "-" ++ tool ++ extension

namespace Pattern

/-- Rounds of what does not look around itself take one piece of the text each. -/
theorem rounds_iff_flatMap {α : Type} {p : List Char → List Char → List Char → Prop} {q : α → Prop}
    {piece : α → List Char} (hp : ∀ left middle right, p left middle right ↔
      ∃ a, q a ∧ middle = piece a) (n : ℕ) (left middle right : List Char) :
    Rounds p n left middle right ↔
      ∃ parts : List α, parts.length = n ∧ (∀ a ∈ parts, q a) ∧ middle = parts.flatMap piece := by
  induction n generalizing left middle with
  | zero => simp [Rounds, List.length_eq_zero_iff]
  | succ n ih =>
    simp only [Rounds, hp, ih]
    constructor
    · rintro ⟨_, _, rfl, ⟨a, ha, rfl⟩, parts, rfl, hparts, rfl⟩
      exact ⟨a :: parts, rfl, List.forall_mem_cons.2 ⟨ha, hparts⟩, List.flatMap_cons.symm⟩
    · rintro ⟨parts, hlength, hparts, rfl⟩
      obtain ⟨a, parts, rfl⟩ := List.exists_cons_of_length_eq_add_one hlength
      rw [List.forall_mem_cons] at hparts
      exact ⟨_, _, List.flatMap_cons, ⟨a, hparts.1, rfl⟩, parts, by simpa using hlength,
        hparts.2, rfl⟩

namespace Expr

def segmentSet : CharSet :=
  .bracket false (ranges [('A', 'Z'), ('a', 'z'), ('0', '9'), ('_', '_')])

def segment : Expr :=
  .times (.set segmentSet) 1 none

/-- The expression of the segments behind the first one. -/
def moreSegments : Expr :=
  .times (.group {} (.ofItems [.literal '-', segment])) 0 none

def extension : Expr :=
  .times (.group {} (.ofItems (".exe".toList.map .literal))) 0 (some 1)

def wordSize : Expr :=
  .group {} (.alt (.ofItems ("32".toList.map .literal)) (.ofItems ("64".toList.map .literal)))

def ending (tool : String) : List Expr :=
  ("-" ++ tool).toList.map .literal ++ [extension, .lineEnd]

/-- What the default pattern of a tool is read as. -/
def toolName (tool : String) : Expr :=
  .ofItems (.lineStart :: ("riscv".toList.map .literal ++
    wordSize :: .literal '-' :: segment :: moreSegments :: ending tool))

theorem parse_defaultAssembler :
    Expr.parse? "^riscv(32|64)-[A-Za-z0-9_]+(-[A-Za-z0-9_]+)*-as(\\.exe)?$".toList =
      some (toolName "as") := by
  decide +kernel

theorem parse_defaultDisassembler :
    Expr.parse? "^riscv(32|64)-[A-Za-z0-9_]+(-[A-Za-z0-9_]+)*-objdump(\\.exe)?$".toList =
      some (toolName "objdump") := by
  decide +kernel

theorem mem_segmentSet (c : Char) : segmentSet.mem false c = true ↔ c.isAlphanum ∨ c = '_' := by
  have hline : '_' ≤ c ∧ c ≤ '_' ↔ c = '_' :=
    ⟨fun h => Char.le_antisymm h.2 h.1, fun h => h ▸ ⟨Char.le_refl _, Char.le_refl _⟩⟩
  simp only [segmentSet, ranges, List.foldl_cons, List.foldl_nil, CharSet.mem, CharSet.upToCase,
    Bool.false_eq_true, if_false, Bool.bne_false, Bool.false_or, Bool.or_eq_true, Bool.and_eq_true,
    decide_eq_true_eq, Char.isAlphanum, Char.isAlpha, Char.isUpper, Char.isLower, Char.isDigit]
  exact or_congr Iff.rfl hline

variable {left middle right : List Char}

theorem matches_group (e : Expr) : (group {} e).toRegex.Matches left middle right ↔
    e.toRegex.Matches left middle right :=
  Iff.rfl

theorem matches_alt {a : Expr} (ha : (a.compile {}).2 = {}) (b : Expr) :
    (alt a b).toRegex.Matches left middle right ↔
      a.toRegex.Matches left middle right ∨ b.toRegex.Matches left middle right := by
  simp only [toRegex, compile, ha, Regex.Matches]

theorem matches_times (e : Expr) (least : ℕ) (most : Option ℕ) :
    (times e least most).toRegex.Matches left middle right ↔
      ∃ n, least ≤ n ∧ (∀ bound ∈ most, n ≤ bound) ∧
        Rounds e.toRegex.Matches n left middle right :=
  Iff.rfl

theorem matches_times_set (s : CharSet) (least : ℕ) (most : Option ℕ) :
    (times (.set s) least most).toRegex.Matches left middle right ↔
      least ≤ middle.length ∧ (∀ bound ∈ most, middle.length ≤ bound) ∧
        ∀ c ∈ middle, s.mem false c = true := by
  have hset : ∀ left middle right, (Expr.set s).toRegex.Matches left middle right ↔
      ∃ c, s.mem false c = true ∧ middle = [c] :=
    fun _ _ _ => exists_congr fun c => and_comm
  rw [matches_times]
  constructor
  · rintro ⟨n, hleast, hmost, hrounds⟩
    obtain ⟨taken, rfl, htaken, rfl⟩ := (rounds_iff_flatMap hset _ _ _ _).1 hrounds
    rw [List.flatMap_singleton']
    exact ⟨hleast, hmost, htaken⟩
  · rintro ⟨hleast, hmost, hall⟩
    exact ⟨middle.length, hleast, hmost, (rounds_iff_flatMap hset _ _ _ _).2
      ⟨middle, rfl, hall, (List.flatMap_singleton' middle).symm⟩⟩

theorem matches_optional (e : Expr) : (times e 0 (some 1)).toRegex.Matches left middle right ↔
    middle = [] ∨ e.toRegex.Matches left middle right := by
  rw [matches_times]
  constructor
  · rintro ⟨n, -, hn, hrounds⟩
    obtain rfl | rfl := Nat.le_one_iff_eq_zero_or_eq_one.1 (hn 1 rfl)
    · exact .inl hrounds
    · obtain ⟨first, _, rfl, hfirst, rfl⟩ := hrounds
      exact .inr (by simpa using hfirst)
  · rintro (rfl | h)
    · exact ⟨0, Nat.le_refl 0, by simp, rfl⟩
    · exact ⟨1, Nat.zero_le 1, by simp, middle, [], by simp, by simpa using h, rfl⟩

theorem matches_segment : segment.toRegex.Matches left middle right ↔ IsSegment middle := by
  rw [segment, matches_times_set]
  simp only [mem_segmentSet]
  constructor
  · rintro ⟨hlength, -, hall⟩
    exact ⟨List.ne_nil_of_length_pos hlength, hall⟩
  · rintro ⟨hne, hall⟩
    exact ⟨List.length_pos_iff.2 hne, by simp, hall⟩

theorem matches_moreSegments : moreSegments.toRegex.Matches left middle right ↔
    ∃ segments : List (List Char), (∀ s ∈ segments, IsSegment s) ∧
      middle = segments.flatMap ('-' :: ·) := by
  have hgroup : ∀ left middle right,
      (group {} (ofItems [.literal '-', segment])).toRegex.Matches left middle right ↔
        ∃ s, IsSegment s ∧ middle = '-' :: s := by
    intro left middle right
    rw [matches_group, matches_ofItems_cons rfl]
    simp only [matches_literal, ofItems, matches_segment]
    constructor
    · rintro ⟨_, s, rfl, rfl, hs⟩
      exact ⟨s, hs, rfl⟩
    · rintro ⟨s, hs, rfl⟩
      exact ⟨['-'], s, rfl, rfl, hs⟩
  rw [moreSegments, matches_times]
  constructor
  · rintro ⟨n, -, -, hrounds⟩
    obtain ⟨segments, -, hsegments, rfl⟩ := (rounds_iff_flatMap hgroup _ _ _ _).1 hrounds
    exact ⟨segments, hsegments, rfl⟩
  · rintro ⟨segments, hsegments, rfl⟩
    exact ⟨segments.length, Nat.zero_le _, by simp, (rounds_iff_flatMap hgroup _ _ _ _).2
      ⟨segments, rfl, hsegments, rfl⟩⟩

theorem matches_extension : extension.toRegex.Matches left middle right ↔
    middle = "".toList ∨ middle = ".exe".toList := by
  rw [extension, matches_optional, matches_group, matches_literals]
  rfl

theorem matches_wordSize : wordSize.toRegex.Matches left middle right ↔
    middle = "32".toList ∨ middle = "64".toList := by
  rw [wordSize, matches_group, matches_alt rfl, matches_literals, matches_literals]

theorem matches_lineEnd : (ofItems [.lineEnd]).toRegex.Matches left middle right ↔
    middle = [] ∧ right = [] := by
  change middle = [] ∧ Look.holds .finish _ = true ↔ _
  cases right <;> simp [Look.holds]

theorem matches_ending (tool : String) : (ofItems (ending tool)).toRegex.Matches left middle right ↔
    right = [] ∧ ∃ extension ∈ ["", ".exe"], middle = ("-" ++ tool ++ extension).toList := by
  rw [ending, matches_literals_append]
  simp only [matches_ofItems_cons (e := extension) rfl, matches_extension, matches_lineEnd]
  constructor
  · rintro ⟨_, rfl, found, _, rfl, rfl | rfl, rfl, rfl⟩
    · exact ⟨rfl, "", by simp, by simp⟩
    · exact ⟨rfl, ".exe", by simp, by simp⟩
  · rintro ⟨rfl, extension, hextension, rfl⟩
    refine ⟨extension.toList, by simp, extension.toList, [], by simp, ?_, rfl, rfl⟩
    rcases List.mem_cons.1 hextension with rfl | h
    · exact .inl rfl
    · exact .inr (by rw [List.mem_singleton.1 h])

theorem intercalate_eq (segment : List Char) (segments : List (List Char)) :
    ['-'].intercalate (segment :: segments) = segment ++ segments.flatMap ('-' :: ·) := by
  induction segments generalizing segment with
  | nil => simp
  | cons next segments ih => simp [List.intercalate_cons_cons, ih]

theorem matches_segments (items : List Expr) :
    (ofItems (segment :: moreSegments :: items)).toRegex.Matches left middle right ↔
      ∃ segments ≠ [], (∀ s ∈ segments, IsSegment s) ∧ ∃ tail,
        middle = ['-'].intercalate segments ++ tail ∧
          (ofItems items).toRegex.Matches (left ++ ['-'].intercalate segments) tail right := by
  rw [matches_ofItems_cons rfl]
  simp only [matches_ofItems_cons (e := moreSegments) rfl, matches_segment, matches_moreSegments]
  constructor
  · rintro ⟨first, _, rfl, hfirst, _, tail, rfl, ⟨segments, hsegments, rfl⟩, htail⟩
    refine ⟨first :: segments, by simp, List.forall_mem_cons.2 ⟨hfirst, hsegments⟩, tail, ?_⟩
    rw [intercalate_eq]
    exact ⟨by simp, by simpa using htail⟩
  · rintro ⟨segments, hne, hsegments, tail, rfl, htail⟩
    obtain ⟨first, segments, rfl⟩ := List.exists_cons_of_ne_nil hne
    rw [intercalate_eq] at htail ⊢
    rw [List.forall_mem_cons] at hsegments
    exact ⟨first, _, by simp, hsegments.1, _, tail, rfl, ⟨segments, hsegments.2, rfl⟩,
      by simpa using htail⟩

theorem matches_lineStart : Expr.lineStart.toRegex.Matches left middle right ↔
    middle = [] ∧ left = [] := by
  change middle = [] ∧ Look.holds .start _ = true ↔ _
  simp [Look.holds]

theorem isToolName_iff (tool name : String) : IsToolName tool name ↔
    ∃ size, (size = "32".toList ∨ size = "64".toList) ∧ ∃ segments ≠ [],
      (∀ s ∈ segments, IsSegment s) ∧ ∃ extension ∈ ["", ".exe"], name.toList =
        "riscv".toList ++ (size ++ ('-' :: (['-'].intercalate segments ++
          ("-" ++ tool ++ extension).toList))) := by
  constructor
  · rintro ⟨size, hsize, segments, hne, hsegments, extension, hextension, rfl⟩
    have hchars : ∀ s ∈ segments.map String.toList, IsSegment s := by simpa using hsegments
    rcases List.mem_cons.1 hsize with rfl | hsize
    · exact ⟨"32".toList, .inl rfl, segments.map String.toList, by simpa using hne, hchars,
        extension, hextension, by simp⟩
    · obtain rfl := List.mem_singleton.1 hsize
      exact ⟨"64".toList, .inr rfl, segments.map String.toList, by simpa using hne, hchars,
        extension, hextension, by simp⟩
  · rintro ⟨size, hsize, segments, hne, hsegments, extension, hextension, hname⟩
    have hchars : (segments.map String.ofList).map String.toList = segments := by simp
    have hstrings : ∀ s ∈ segments.map String.ofList, IsSegment s.toList := by
      simpa using hsegments
    rcases hsize with rfl | rfl
    · refine ⟨"riscv32-", by simp, segments.map String.ofList, by simpa using hne, hstrings,
        extension, hextension, String.toList_inj.1 ?_⟩
      simp [hname, hchars]
    · refine ⟨"riscv64-", by simp, segments.map String.ofList, by simpa using hne, hstrings,
        extension, hextension, String.toList_inj.1 ?_⟩
      simp [hname, hchars]

/-- The expression of a tool matches the names of the tool, and only from end to end. -/
theorem matches_toolName (tool : String) : (toolName tool).toRegex.Matches left middle right ↔
    left = [] ∧ right = [] ∧ IsToolName tool (String.ofList middle) := by
  simp only [toolName, matches_ofItems_cons (e := .lineStart) rfl, matches_lineStart,
    matches_literals_append, matches_ofItems_cons (e := wordSize) rfl, matches_wordSize,
    matches_ofItems_cons (e := .literal '-') rfl, matches_literal, matches_segments,
    matches_ending, isToolName_iff, String.toList_ofList]
  constructor
  · rintro ⟨_, _, rfl, ⟨rfl, rfl⟩, _, rfl, size, _, rfl, hsize, _, _, rfl, rfl, segments, hne,
      hsegments, _, rfl, rfl, extension, hextension, rfl⟩
    exact ⟨rfl, rfl, size, hsize, segments, hne, hsegments, extension, hextension, rfl⟩
  · rintro ⟨rfl, rfl, size, hsize, segments, hne, hsegments, extension, hextension, rfl⟩
    exact ⟨[], _, rfl, ⟨rfl, rfl⟩, _, rfl, size, _, rfl, hsize, ['-'], _, rfl, rfl, segments, hne,
      hsegments, _, rfl, rfl, extension, hextension, rfl⟩

end Expr

end Pattern

theorem IsToolName.suffix {tool name : String} (h : IsToolName tool name) :
    ∃ extension ∈ ["", ".exe"], ("-" ++ tool ++ extension).toList <:+ name.toList := by
  obtain ⟨size, -, segments, -, -, extension, hextension, rfl⟩ := h
  exact ⟨extension, hextension, (size ++ "-".intercalate segments).toList, by simp⟩

/-- No name is one of an assembler and one of a disassembler, for they end differently. -/
theorem not_isToolName_both (name : String) :
    ¬(IsToolName "as" name ∧ IsToolName "objdump" name) := by
  rintro ⟨has, hobjdump⟩
  have hends : ∀ e ∈ ["", ".exe"], ∀ e' ∈ ["", ".exe"],
      ¬(("-" ++ "as" ++ e).toList <:+ ("-" ++ "objdump" ++ e').toList) ∧
        ¬(("-" ++ "objdump" ++ e').toList <:+ ("-" ++ "as" ++ e).toList) := by decide
  obtain ⟨e, he, hsuffix⟩ := has.suffix
  obtain ⟨e', he', hsuffix'⟩ := hobjdump.suffix
  rcases List.suffix_or_suffix_of_suffix hsuffix hsuffix' with h | h
  · exact (hends e he e' he').1 h
  · exact (hends e he e' he').2 h

namespace ToolPattern

open Pattern

theorem recognises_iff_isToolName {text tool : String}
    (h : Expr.parse? text.toList = some (.toolName tool)) (name : String) :
    recognises ⟨text, (Expr.toolName tool).toRegex⟩ name = true ↔ IsToolName tool name := by
  have hspec : ofSpec (.regex text) = .ok ⟨text, (Expr.toolName tool).toRegex⟩ := ofRegex_of_parse h
  rw [recognises_iff hspec]
  simp only [Expr.matches_toolName]
  constructor
  · rintro ⟨_, middle, _, hname, rfl, rfl, htool⟩
    have hmiddle : String.ofList middle = name := String.toList_inj.1 (by simp [hname])
    exact hmiddle ▸ htool
  · intro htool
    exact ⟨[], name.toList, [], by simp, rfl, rfl, by simpa using htool⟩

/-- The patterns that settings begin with can be read. One recognises the names of assemblers, the
other those of disassemblers, and neither recognises any other name or a name of both. -/
theorem default_patterns_recognise :
    ∃ assembler disassembler,
      ofSpec ({} : ToolchainSettings).assembler = .ok assembler ∧
      ofSpec ({} : ToolchainSettings).disassembler = .ok disassembler ∧
      ∀ name, (assembler.recognises name = true ↔ IsToolName "as" name) ∧
        (disassembler.recognises name = true ↔ IsToolName "objdump" name) ∧
        ¬(assembler.recognises name = true ∧ disassembler.recognises name = true) := by
  refine ⟨_, _, ofRegex_of_parse Expr.parse_defaultAssembler,
    ofRegex_of_parse Expr.parse_defaultDisassembler, fun name => ?_⟩
  have hassembler := recognises_iff_isToolName Expr.parse_defaultAssembler name
  have hdisassembler := recognises_iff_isToolName Expr.parse_defaultDisassembler name
  refine ⟨hassembler, hdisassembler, ?_⟩
  rw [hassembler, hdisassembler]
  exact not_isToolName_both name

end ToolPattern

end GoldenRun
