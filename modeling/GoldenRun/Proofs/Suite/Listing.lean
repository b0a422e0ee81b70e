import GoldenRun.Proofs.Path
import GoldenRun.Proofs.Suite.Ident
import GoldenRun.Proofs.Text.Quoted
import GoldenRun.Suite.Listing

/-!
# Listings of suites read back

The lines of a listing are its opening, a stanza of nine lines for each test, and its end. Neither
an identifier nor a literal breaks a line, so whatever characters the name of a test has, its stanza
holds one call, and the literals of the call say the category and the name. A listing therefore
tells what it was made from.
-/

namespace GoldenRun.Suite

open Text

def lines (text : String) : List String :=
  (pieces '\n' text.toList).map String.ofList

def mark : String := "    #[test]"

/-- The lines of a stanza with a given function and a given call. -/
def stanzaLines (function call : String) : List String :=
  ["", mark, "    fn " ++ function ++ "() \x7b", "        let mut case = harness()", call,
   "            .unwrap_or_else(|e| panic!(\"\x7be\x7d\"));",
   "        let result = case.run_detailed().unwrap_or_else(|e| panic!(\"\x7be\x7d\"));",
   "        assert!(result.passed, \"\x7b\x7d: \x7bresult\x7d\", case.id());", "    \x7d"]

/-- The two texts that the literals of a call say. -/
def readCall? (line : String) : Option (String × String) := do
  let rest ← "            .case(".toList.isPrefixOf? line.toList
  let (category, rest) ← Quoted.read? rest
  let rest ← ", ".toList.isPrefixOf? rest
  let (name, rest) ← Quoted.read? rest
  if rest = [')'] then some (String.ofList category, String.ofList name) else none

/-- Lines make up the stanza of a test. -/
def IsStanza (category name : String) (stanza : List String) : Prop :=
  ∃ call, stanza = stanzaLines (ident name) call ∧ readCall? call = some (category, name)

def call (category name : String) : String :=
  "            .case(" ++ quoted category ++ ", " ++ quoted name ++ ")"

theorem isPrefixOf?_append (front rest : List Char) :
    front.isPrefixOf? (front ++ rest) = some rest := by
  induction front with
  | nil => rfl
  | cons c front ih => simp [List.isPrefixOf?, ih]

theorem readCall?_call (category name : String) :
    readCall? (call category name) = some (category, name) := by
  unfold readCall? call quoted
  simp only [String.toList_append, String.toList_ofList, List.append_assoc, isPrefixOf?_append,
    bind, Option.bind, Quoted.read?_encode]
  simp

theorem newline_not_mem_ident (text : String) : '\n' ∉ (ident text).toList := by
  have hsnake : '\n' ∉ snake false text.toList := by
    intro h
    have := mem_snake h
    simp [IsIdentChar] at this
  unfold ident
  simp only [String.toList_ofList]
  split_ifs
  · simpa using hsnake
  · exact hsnake

theorem not_mem_written {c : Char} {written : List Char} (h : written.contains c = false) :
    c ∉ (String.ofList written).toList := by
  simpa using h

theorem newline_not_mem_append {front rest : String} (h : '\n' ∉ front.toList)
    (h' : '\n' ∉ rest.toList) : '\n' ∉ (front ++ rest).toList := by
  rw [String.toList_append, List.mem_append]
  exact not_or.mpr ⟨h, h'⟩

theorem newline_not_mem_call (category name : String) : '\n' ∉ (call category name).toList := by
  have hquoted : ∀ text, '\n' ∉ (quoted text).toList := by
    intro text
    rw [quoted, String.toList_ofList]
    exact Quoted.newline_not_mem_encode text.toList
  unfold call
  exact newline_not_mem_append (newline_not_mem_append (newline_not_mem_append
    (newline_not_mem_append (not_mem_written rfl) (hquoted category)) (not_mem_written rfl))
    (hquoted name)) (not_mem_written rfl)

theorem mem_of_mem_pieces {α : Type} [DecidableEq α] {separator a : α} {list piece : List α}
    (h : piece ∈ pieces separator list) (ha : a ∈ piece) : a ∈ list := by
  induction list generalizing piece with
  | nil => simp_all [pieces]
  | cons b rest ih =>
    unfold pieces at h
    split at h
    · rcases List.mem_cons.mp h with rfl | h
      · simp at ha
      · exact List.mem_cons_of_mem b (ih h ha)
    · split at h
      · next hnil => exact absurd hnil (pieces_ne_nil separator rest)
      · next first others hcut =>
        rcases List.mem_cons.mp h with rfl | h
        · rcases List.mem_cons.mp ha with rfl | ha
          · simp
          · exact List.mem_cons_of_mem b (ih (by simp [hcut]) ha)
        · exact List.mem_cons_of_mem b (ih (by simp [hcut, h]) ha)

theorem lines_append (front rest : String) :
    lines (front ++ "\n" ++ rest) = lines front ++ lines rest := by
  unfold lines
  rw [← List.map_append, ← pieces_append]
  simp

theorem lines_of_not_mem {line : String} (h : '\n' ∉ line.toList) : lines line = [line] := by
  simp [lines, pieces_of_not_mem h]

theorem lines_cons {line : String} (h : '\n' ∉ line.toList) (rest : String) :
    lines (line ++ "\n" ++ rest) = line :: lines rest := by
  rw [lines_append, lines_of_not_mem h]
  rfl

theorem lines_stanza (category name rest : String) :
    lines (stanza category name ++ rest) =
      stanzaLines (ident name) (call category name) ++ lines rest := by
  have hmark : "\n    #[test]\n" = "" ++ "\n" ++ (mark ++ "\n") := rfl
  have hfunction : "() \x7b\n" = "() \x7b" ++ "\n" := rfl
  have hcase : "        let mut case = harness()\n" =
    "        let mut case = harness()" ++ "\n" := rfl
  have hcall : ")\n" = ")" ++ "\n" := rfl
  have hunwrap : "            .unwrap_or_else(|e| panic!(\"\x7be\x7d\"));\n" =
    "            .unwrap_or_else(|e| panic!(\"\x7be\x7d\"));" ++ "\n" := rfl
  have hresult :
    "        let result = case.run_detailed().unwrap_or_else(|e| panic!(\"\x7be\x7d\"));\n" =
    "        let result = case.run_detailed().unwrap_or_else(|e| panic!(\"\x7be\x7d\"));" ++ "\n" :=
    rfl
  have hassert :
    "        assert!(result.passed, \"\x7b\x7d: \x7bresult\x7d\", case.id());\n" =
    "        assert!(result.passed, \"\x7b\x7d: \x7bresult\x7d\", case.id());" ++ "\n" := rfl
  have hend : "    \x7d\n" = "    \x7d" ++ "\n" := rfl
  have hstanza : stanza category name ++ rest =
      "" ++ "\n" ++ (mark ++ "\n" ++ ("    fn " ++ ident name ++ "() \x7b" ++ "\n" ++
        ("        let mut case = harness()" ++ "\n" ++ (call category name ++ "\n" ++
        ("            .unwrap_or_else(|e| panic!(\"\x7be\x7d\"));" ++ "\n" ++
        ("        let result = case.run_detailed().unwrap_or_else(|e| panic!(\"\x7be\x7d\"));" ++
          "\n" ++
        ("        assert!(result.passed, \"\x7b\x7d: \x7bresult\x7d\", case.id());" ++ "\n" ++
        ("    \x7d" ++ "\n" ++ rest)))))))) := by
    unfold stanza call
    rw [hmark, hfunction, hcase, hcall, hunwrap, hresult, hassert, hend]
    simp only [String.append_assoc]
  have hident : '\n' ∉ ("    fn " ++ ident name ++ "() \x7b").toList :=
    newline_not_mem_append (newline_not_mem_append (not_mem_written rfl)
      (newline_not_mem_ident name)) (not_mem_written rfl)
  rw [hstanza, lines_cons, lines_cons, lines_cons hident, lines_cons,
    lines_cons (newline_not_mem_call category name), lines_cons, lines_cons, lines_cons, lines_cons]
  · rfl
  all_goals exact not_mem_written rfl

theorem lines_stanzas (category : String) (names : List String) (rest : String) :
    lines (String.join (names.map (stanza category)) ++ rest) =
      (names.map fun name => stanzaLines (ident name) (call category name)).flatten ++
        lines rest := by
  induction names with
  | nil => simp
  | cons name names ih =>
    rw [List.map_cons, String.join_cons, String.append_assoc, lines_stanza, ih]
    simp

def opening (category : String) : List String :=
  lines (header ++ preamble) ++ ["mod " ++ ident category ++ " \x7b", "    use super::harness;"]

theorem lines_text (category : String) (names : List String) :
    lines (text category names) = opening category ++
      (names.map fun name => stanzaLines (ident name) (call category name)).flatten ++
        ["\x7d", ""] := by
  have hmodule : "\nmod " = "\n" ++ "mod " := rfl
  have hbrace : " \x7b\n" = " \x7b" ++ "\n" := rfl
  have huse : "    use super::harness;\n" = "    use super::harness;" ++ "\n" := rfl
  have hend : lines "\x7d\n" = ["\x7d", ""] := by decide
  have htext : text category names = header ++ preamble ++ "\n" ++
      ("mod " ++ ident category ++ " \x7b" ++ "\n" ++ ("    use super::harness;" ++ "\n" ++
        (String.join (names.map (stanza category)) ++ "\x7d\n"))) := by
    unfold text
    rw [hmodule, hbrace, huse]
    simp only [String.append_assoc]
  have hident : '\n' ∉ ("mod " ++ ident category ++ " \x7b").toList :=
    newline_not_mem_append (newline_not_mem_append (not_mem_written rfl)
      (newline_not_mem_ident category)) (not_mem_written rfl)
  rw [htext, lines_append, lines_cons hident, lines_cons, lines_stanzas, hend]
  · simp [opening]
  · exact not_mem_written rfl

theorem append_ne_mark {front : String} (h : ¬front.toList <+: mark.toList) (rest : String) :
    front ++ rest ≠ mark := by
  intro heq
  exact h ⟨rest.toList, by rw [← String.toList_append, heq]⟩

theorem call_ne_mark (category name : String) : call category name ≠ mark := by
  unfold call
  rw [String.append_assoc, String.append_assoc, String.append_assoc]
  exact append_ne_mark (by decide) _

theorem count_stanzaLines {function call : String} (h : call ≠ mark) :
    (stanzaLines function call).count mark = 1 := by
  have hfunction : "    fn " ++ function ++ "() \x7b" ≠ mark := by
    rw [String.append_assoc]
    exact append_ne_mark (by decide) _
  simp [stanzaLines, List.count_cons, h, hfunction]
  decide

theorem count_opening (category : String) : (opening category).count mark = 0 := by
  have hmodule : "mod " ++ ident category ++ " \x7b" ≠ mark := by
    rw [String.append_assoc]
    exact append_ne_mark (by decide) _
  have huse : "    use super::harness;" ≠ mark := by decide
  have hsign : '#' ∉ (header ++ preamble).toList := by
    unfold header preamble
    simp only [String.toList_append, List.mem_append, not_or]
    and_intros
    all_goals exact not_mem_written rfl
  have hfront : mark ∉ lines (header ++ preamble) := by
    intro h
    obtain ⟨piece, hpiece, hmark⟩ := List.mem_map.mp h
    have hin : '#' ∈ piece := by
      rw [← String.toList_ofList (l := piece), hmark]
      decide
    exact hsign (mem_of_mem_pieces hpiece hin)
  rw [opening, List.count_append, List.count_eq_zero.mpr hfront]
  simp [hmodule, huse]

theorem count_lines_text (category : String) (names : List String) :
    (lines (text category names)).count mark = names.length := by
  have hend : ["\x7d", ""].count mark = 0 := by decide
  have hstanzas : (names.map fun name =>
      stanzaLines (ident name) (call category name)).flatten.count mark = names.length := by
    induction names with
    | nil => rfl
    | cons name names ih =>
      rw [List.map_cons, List.flatten_cons, List.count_append, ih,
        count_stanzaLines (call_ne_mark category name), List.length_cons, Nat.add_comm]
  rw [lines_text, List.count_append, List.count_append, count_opening, hstanzas, hend]
  simp

theorem length_stanzaLines (function call : String) : (stanzaLines function call).length = 9 :=
  rfl

theorem stanzaLines_inj {function function' call call' : String}
    (h : stanzaLines function call = stanzaLines function' call') : call = call' := by
  unfold stanzaLines at h
  simp only [List.cons.injEq] at h
  exact h.2.2.2.2.1

/-- Stanzas tell their names, and with one name at least, the category. -/
theorem eq_of_stanzas {category category' : String} {names names' : List String}
    {stanzas stanzas' : List (List String)} (h : List.Forall₂ (IsStanza category) names stanzas)
    (h' : List.Forall₂ (IsStanza category') names' stanzas')
    (heq : stanzas.flatten = stanzas'.flatten) :
    names = names' ∧ (names ≠ [] → category = category') := by
  induction h generalizing names' stanzas' with
  | nil =>
    cases h' with
    | nil => simp
    | cons hstanza' _ =>
      obtain ⟨call', rfl, -⟩ := hstanza'
      simp [stanzaLines] at heq
  | cons hstanza _ ih =>
    obtain ⟨call, rfl, hcall⟩ := hstanza
    cases h' with
    | nil => simp [stanzaLines] at heq
    | cons hstanza' hrest' =>
      obtain ⟨call', rfl, hcall'⟩ := hstanza'
      rw [List.flatten_cons, List.flatten_cons] at heq
      obtain ⟨hfirst, hothers⟩ := List.append_inj heq (by simp only [length_stanzaLines])
      rw [stanzaLines_inj hfirst, hcall'] at hcall
      obtain ⟨hcategory, hname⟩ := Prod.mk.inj (Option.some.inj hcall)
      obtain ⟨hnames, -⟩ := ih hrest' hothers
      exact ⟨by rw [hname, hnames], fun _ => hcategory.symm⟩

theorem isStanza_call (category name : String) :
    IsStanza category name (stanzaLines (ident name) (call category name)) :=
  ⟨call category name, rfl, readCall?_call category name⟩

theorem stanzas_of_names (category : String) (names : List String) :
    List.Forall₂ (IsStanza category) names
      (names.map fun name => stanzaLines (ident name) (call category name)) := by
  rw [List.forall₂_map_right_iff, List.forall₂_same]
  exact fun name _ => isStanza_call category name

theorem text_inj {category category' : String} {names names' : List String} (hne : names ≠ [])
    (h : text category names = text category' names') :
    category = category' ∧ names = names' := by
  have hlines := congrArg lines h
  rw [lines_text, lines_text] at hlines
  have hopening : (opening category).length = (opening category').length := by simp [opening]
  have hstanzas := (List.append_inj (List.append_cancel_right hlines) hopening).2
  obtain ⟨hnames, hcategory⟩ := eq_of_stanzas (stanzas_of_names category names)
    (stanzas_of_names category' names') hstanzas
  exact ⟨hcategory hne, hnames⟩

theorem text_of_render {category listing : String} {names : List String}
    (h : render category names = .ok listing) : listing = text category names := by
  unfold render at h
  cases hcheck : check category [] names with
  | error failure => simp [hcheck, bind, Except.bind] at h
  | ok _ =>
    rw [hcheck] at h
    exact (Except.ok.inj h).symm

/-- A listing is its opening, a stanza for each name and its end, and whatever characters the names
have, it marks as many functions as there are names, and no other suite has the same listing. -/
theorem render_reads_back {category listing : String} {names : List String}
    (h : render category names = .ok listing) :
    (∃ stanzas, List.Forall₂ (IsStanza category) names stanzas ∧
      lines listing = opening category ++ stanzas.flatten ++ ["\x7d", ""]) ∧
    (lines listing).count mark = names.length ∧
    ∀ category' names', names' ≠ [] → render category' names' = .ok listing →
      category' = category ∧ names' = names := by
  obtain rfl := text_of_render h
  refine ⟨⟨_, stanzas_of_names category names, lines_text category names⟩,
    count_lines_text category names, ?_⟩
  intro category' names' hne' h'
  exact text_inj hne' (text_of_render h').symm

/-- Two names with a quote, a brace, a zero and line breaks, the first with a mark of its own. -/
theorem render_reads_back_sample :
    (lines (text "c" ["a\"\n    #[test]\n\x7d", "b\x00"])).count mark = 2 ∧
      ∃ stanzas, List.Forall₂ (IsStanza "c") ["a\"\n    #[test]\n\x7d", "b\x00"] stanzas := by
  have hrender : render "c" ["a\"\n    #[test]\n\x7d", "b\x00"] =
      .ok (text "c" ["a\"\n    #[test]\n\x7d", "b\x00"]) := by rfl
  obtain ⟨⟨stanzas, hstanzas, -⟩, hcount, -⟩ := render_reads_back hrender
  exact ⟨hcount, stanzas, hstanzas⟩

end GoldenRun.Suite
