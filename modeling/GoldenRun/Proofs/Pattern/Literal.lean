import GoldenRun.Proofs.Pattern.Reading

/-!
# Texts that stand for themselves

An escaped text is read as its characters, one behind the other, whatever meaning they have in an
expression. The pattern of a text that must occur therefore recognises the names in which the text
occurs, and no text is refused.
-/

namespace GoldenRun.Pattern

theorem readEscape_of_isMeta {c : Char} (h : isMeta c = true) (rest : List Char) :
    readEscape (c :: rest) = some (.literal c, rest) := by
  have hmarks : "\\.+*?()|[]\x7b\x7d^$#&-~".toList.all (fun d =>
      hexWidth? d = none ∧ d ≠ 'b' ∧ simpleEscape? d = some (.literal d)) = true := by decide
  have hmem : c ∈ "\\.+*?()|[]\x7b\x7d^$#&-~".toList := by simpa [isMeta] using h
  obtain ⟨hwidth, hb, hsimple⟩ := of_decide_eq_true (List.all_eq_true.1 hmarks c hmem)
  simp [readEscape, hwidth, hb, hsimple]

namespace Reader

theorem read_of_not_isMeta {c : Char} (h : isMeta c = false) (reader : Reader) (rest : List Char) :
    reader.read c rest = some (reader.add (.literal c), rest) := by
  unfold Reader.read
  split
  all_goals first
    | rfl
    | exact absurd h (by decide)

/-- An escaped text adds its characters to what has been read. -/
theorem readAll_escape (text : List Char) (reader : Reader) :
    reader.readAll (ToolPattern.escape text) =
      some (text.foldl (fun reader c => reader.add (.literal c)) reader) := by
  induction text generalizing reader with
  | nil => simp [ToolPattern.escape, readAll]
  | cons c rest ih =>
    have hcons : ToolPattern.escape (c :: rest) =
        (if isMeta c then ['\\', c] else [c]) ++ ToolPattern.escape rest := List.flatMap_cons
    rw [hcons, List.foldl_cons, ← ih]
    split
    · next hmeta =>
      have hread : reader.read '\\' (c :: ToolPattern.escape rest) =
          some (reader.add (.literal c), ToolPattern.escape rest) := by
        simp [Reader.read, readEscape_of_isMeta hmeta, Atom.toExpr]
      exact readAll_of_read hread
    · next hmeta => exact readAll_of_read (read_of_not_isMeta (by simpa using hmeta) reader _)

theorem foldl_add_literal (text : List Char) (reader : Reader) :
    text.foldl (fun reader c => reader.add (.literal c)) reader =
      { reader with
        level := { reader.level with
          items := (text.map .literal).reverse ++ reader.level.items } } := by
  induction text generalizing reader with
  | nil => rfl
  | cons c rest ih =>
    rw [List.foldl_cons, ih]
    simp [Reader.add, Level.add]

end Reader

namespace Expr

theorem parse_escape (text : List Char) :
    Expr.parse? (ToolPattern.escape text) = some (.ofItems (text.map .literal)) := by
  rw [Expr.parse?, Reader.readAll_escape, Reader.foldl_add_literal]
  simp [Reader.result?, Reader.start, Level.start, Level.body, Level.bar, ofBranches]

variable {left middle right : List Char}

theorem matches_ofItems_cons {e : Expr} (he : (e.compile {}).2 = {}) (rest : List Expr) :
    (ofItems (e :: rest)).toRegex.Matches left middle right ↔
      ∃ first tail, middle = first ++ tail ∧ e.toRegex.Matches left first (tail ++ right) ∧
        (ofItems rest).toRegex.Matches (left ++ first) tail right := by
  cases rest with
  | nil =>
    constructor
    · intro h
      exact ⟨middle, [], by simp, by simpa [ofItems] using h, rfl⟩
    · rintro ⟨first, tail, rfl, h, rfl⟩
      simpa [ofItems] using h
  | cons next rest =>
    have hseq : (ofItems (e :: next :: rest)).toRegex =
        .seq e.toRegex (ofItems (next :: rest)).toRegex := by
      simp only [toRegex, ofItems, compile, he]
    rw [hseq]
    rfl

theorem matches_literal (c : Char) :
    (literal c).toRegex.Matches left middle right ↔ middle = [c] := by
  have hmem (d : Char) : (CharSet.bracket false (.single c)).mem false d = decide (d = c) := by
    simp only [CharSet.mem, CharSet.upToCase, Bool.false_eq_true, if_false, Bool.bne_false]
    exact CharSet.mem_single
  constructor
  · rintro ⟨d, rfl, hd⟩
    rw [hmem, decide_eq_true_eq] at hd
    rw [hd]
  · rintro rfl
    exact ⟨c, rfl, by simp [hmem]⟩

theorem matches_literals_append (text : List Char) (items : List Expr) :
    (ofItems (text.map .literal ++ items)).toRegex.Matches left middle right ↔
      ∃ tail, middle = text ++ tail ∧
        (ofItems items).toRegex.Matches (left ++ text) tail right := by
  induction text generalizing left middle with
  | nil => simp
  | cons c text ih =>
    rw [List.map_cons, List.cons_append, matches_ofItems_cons rfl]
    simp only [matches_literal, ih]
    constructor
    · rintro ⟨_, _, rfl, rfl, tail, rfl, h⟩
      exact ⟨tail, by simp, by simpa using h⟩
    · rintro ⟨tail, rfl, h⟩
      exact ⟨[c], text ++ tail, by simp, rfl, tail, rfl, by simpa using h⟩

theorem matches_literals (text : List Char) :
    (ofItems (text.map .literal)).toRegex.Matches left middle right ↔ middle = text := by
  have h := @matches_literals_append left middle right text []
  rw [List.append_nil] at h
  rw [h]
  constructor
  · rintro ⟨tail, rfl, rfl⟩
    simp
  · rintro rfl
    exact ⟨[], by simp, rfl⟩

end Expr

end GoldenRun.Pattern

namespace GoldenRun.ToolPattern

open Pattern

/-- A text that must occur is always a pattern. It keeps the text and recognises the names in which
the text occurs. -/
theorem ofSubstring_literal (text : String) :
    ∃ pattern, ofSubstring text = .ok pattern ∧ pattern.source = text ∧
      ∀ name : String, pattern.recognises name = true ↔ text.toList <:+: name.toList := by
  let e := Expr.ofItems (text.toList.map .literal)
  have hpattern : ofSpec (.substring text) = .ok ⟨text, e.toRegex⟩ := by
    simp only [ofSpec, ofSubstring, compile?, Expr.parse_escape, Option.map_some, e]
  refine ⟨⟨text, e.toRegex⟩, hpattern, rfl, fun name => ?_⟩
  rw [recognises_iff hpattern]
  constructor
  · rintro ⟨left, middle, right, hname, hm⟩
    obtain rfl := (Expr.matches_literals text.toList).1 hm
    exact ⟨left, right, hname.symm⟩
  · rintro ⟨left, right, hname⟩
    exact ⟨left, text.toList, right, hname.symm, (Expr.matches_literals text.toList).2 rfl⟩

end GoldenRun.ToolPattern
