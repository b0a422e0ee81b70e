import GoldenRun.Disk.Edit
import GoldenRun.Trial.Name
import Mathlib

/-!
# Paths put together from names

Joining a path with a name adds one segment, and the directory of the result is the path that the
name was added to, letter for letter.
-/

namespace GoldenRun

theorem pieces_append {α : Type} [DecidableEq α] (separator : α) (xs ys : List α) :
    pieces separator (xs ++ separator :: ys) = pieces separator xs ++ pieces separator ys := by
  induction xs with
  | nil => exact pieces_cons_self separator ys
  | cons x xs ih =>
    by_cases hx : x = separator
    · subst hx
      simp [pieces, ih]
    · cases hp : pieces separator xs with
      | nil => exact absurd hp (pieces_ne_nil separator xs)
      | cons first others => simp [pieces, hx, ih, hp]

theorem intercalate_pieces {α : Type} [DecidableEq α] (separator : α) (xs : List α) :
    [separator].intercalate (pieces separator xs) = xs := by
  induction xs with
  | nil => rfl
  | cons x xs ih =>
    cases hp : pieces separator xs with
    | nil => exact absurd hp (pieces_ne_nil separator xs)
    | cons first others =>
      by_cases hx : x = separator
      · subst hx
        rw [hp] at ih
        simp [pieces, hp, ih]
      · rw [hp] at ih
        simp only [pieces, hx, if_false, hp]
        cases others with
        | nil => simpa using ih
        | cons second others => simpa using ih

namespace Path

/-- A text that can be the name of an entry. -/
structure IsName (text : String) : Prop where
  ne_empty : text ≠ ""
  ne_here : text ≠ "."
  ne_up : text ≠ ".."
  not_mem : '/' ∉ text.toList

theorem isName_of_flaw? {text : String} (h : Trial.flaw? text = none) : IsName text := by
  unfold Trial.flaw? at h
  split_ifs at h with hblank hrelative hseparator
  · refine ⟨hblank, fun he => hrelative (Or.inl he), fun he => hrelative (Or.inr he), ?_⟩
    intro hmem
    exact hseparator (List.any_eq_true.mpr ⟨'/', hmem, rfl⟩)

namespace IsName

variable {name : String}

theorem toList_ne_nil (h : IsName name) : name.toList ≠ [] :=
  fun he => h.ne_empty (String.toList_eq_nil_iff.mp he)

theorem isAbsolute_eq_false (h : IsName name) : isAbsolute name = false := by
  unfold isAbsolute
  cases hl : name.toList with
  | nil => rfl
  | cons c rest =>
    have hc : c ≠ '/' := fun he => h.not_mem (by simp [hl, he])
    simpa using hc

theorem isIdle_eq_false (h : IsName name) : isIdle name = false := by
  simp [isIdle, h.ne_empty, h.ne_here]

theorem segments_eq (h : IsName name) : segments name = [name] := by
  simp [segments, pieces_of_not_mem h.not_mem]

theorem append (h : IsName name) {ending : String} (hmem : '/' ∉ ending.toList)
    (hlen : 2 ≤ ending.length) : IsName (name ++ ending) := by
  have hpos : 0 < name.length := List.length_pos_iff.mpr h.toList_ne_nil
  have key : ∀ text : String, text.length ≤ 2 → name ++ ending ≠ text := by
    rintro text htext rfl
    rw [String.length_append] at htext
    omega
  refine ⟨key _ (by decide), key _ (by decide), key _ (by decide), ?_⟩
  simp [h.not_mem, hmem]

end IsName

variable {base : Path} {name : String}

theorem toList_join (base : Path) (h : IsName name) :
    (base.toList = [] ∧ (join base name).toList = name.toList) ∨
      (∃ front, base.toList = front ++ ['/'] ∧
        (join base name).toList = front ++ '/' :: name.toList) ∨
      (base.toList ≠ [] ∧ (join base name).toList = base.toList ++ '/' :: name.toList) := by
  unfold join
  rw [h.isAbsolute_eq_false, if_neg Bool.false_ne_true]
  split_ifs with hbase
  · rcases hbase with hnil | hlast
    · exact Or.inl ⟨hnil, by simp [hnil]⟩
    · obtain ⟨front, hfront⟩ := List.getLast?_eq_some_iff.mp hlast
      exact Or.inr (Or.inl ⟨front, hfront, by simp [hfront]⟩)
  · exact Or.inr (Or.inr ⟨fun hnil => hbase (Or.inl hnil), by simp⟩)

theorem steps_join (h : IsName name) : steps (join base name) = steps base ++ [name] := by
  have hname : ((pieces '/' name.toList).map String.ofList).filter (· != "") = [name] := by
    simp [pieces_of_not_mem h.not_mem, h.ne_empty]
  unfold steps segments
  rcases toList_join base h with ⟨hbase, htext⟩ | ⟨front, hbase, htext⟩ | ⟨-, htext⟩
  · rw [htext, hbase, hname]
    simp [pieces]
  · rw [htext, hbase, pieces_append, pieces_append, List.map_append, List.filter_append, hname]
    simp [pieces]
  · rw [htext, pieces_append, List.map_append, List.filter_append, hname]

theorem isAbsolute_join (h : IsName name) : isAbsolute (join base name) = isAbsolute base := by
  unfold isAbsolute
  rcases toList_join base h with ⟨hbase, htext⟩ | ⟨front, hbase, htext⟩ | ⟨hbase, htext⟩
  · rw [htext, hbase]
    exact h.isAbsolute_eq_false
  · rw [htext, hbase]
    cases front <;> rfl
  · obtain ⟨c, rest, hc⟩ := List.exists_cons_of_ne_nil hbase
    rw [htext, hc]
    rfl

theorem getLast?_join (h : IsName name) :
    (join base name).toList.getLast? = name.toList.getLast? := by
  have hcons : ∀ front : List Char, (front ++ '/' :: name.toList).getLast? = name.toList.getLast? :=
    fun front => by
      rw [List.getLast?_append_of_ne_nil _ (by simp), List.getLast?_cons_of_ne_nil h.toList_ne_nil]
  rcases toList_join base h with ⟨-, htext⟩ | ⟨front, -, htext⟩ | ⟨-, htext⟩
  · rw [htext]
  · rw [htext, hcons]
  · rw [htext, hcons]

theorem endsInSlash_join (h : IsName name) : endsInSlash (join base name) = false := by
  unfold endsInSlash
  rw [getLast?_join h]
  cases hl : name.toList.getLast? with
  | none => rfl
  | some c =>
    have hc : c ≠ '/' := fun he => h.not_mem (he ▸ List.mem_of_getLast? hl)
    simpa using hc

theorem route_join (h : IsName name) : route (join base name) = steps base ++ [name] := by
  unfold route
  rw [endsInSlash_join h, steps_join h]
  rfl

theorem intercalate_segments (path : Path) : "/".intercalate path.segments = path := by
  have hpieces : path.segments.map String.toList = pieces '/' path.toList := by
    simp [segments, Function.comp_def]
  rw [← String.toList_inj, String.toList_intercalate, hpieces]
  exact intercalate_pieces '/' path.toList

theorem segments_of_isAbsolute {path : Path} (h : path.isAbsolute = true) :
    ∃ rest, path.segments = "" :: rest := by
  unfold isAbsolute at h
  unfold segments
  cases hl : path.toList with
  | nil => simp [hl] at h
  | cons c text =>
    have hc : c = '/' := by simpa [hl] using h
    subst hc
    exact ⟨(pieces '/' text).map String.ofList, by simp [pieces_cons_self]⟩

theorem assemble_body {path : Path} (h : path.body ≠ []) :
    assemble path.anchor path.body = path := by
  have hall := intercalate_segments path
  unfold body anchor at *
  by_cases habsolute : path.isAbsolute = true
  · obtain ⟨rest, hrest⟩ := segments_of_isAbsolute habsolute
    simp only [habsolute, hrest, true_or, if_true, List.tail_cons] at h hall ⊢
    obtain ⟨segment, rest, rfl⟩ := List.exists_cons_of_ne_nil h
    rw [String.intercalate_cons_cons, String.empty_append] at hall
    exact hall
  · by_cases hhere : path.segments.head? = some "."
    · obtain ⟨rest, hrest⟩ := List.head?_eq_some_iff.mp hhere
      simp only [habsolute, hrest, List.head?_cons, or_true, if_true, List.tail_cons]
        at h hall ⊢
      obtain ⟨segment, rest, rfl⟩ := List.exists_cons_of_ne_nil h
      rw [String.intercalate_cons_cons] at hall
      exact hall
    · have hnone : ¬(path.isAbsolute = true ∨ path.segments.head? = some ".") := by
        simp [habsolute, hhere]
      rw [if_neg hnone] at h ⊢
      rw [if_neg habsolute, if_neg hhere]
      obtain ⟨segment, rest, hrest⟩ := List.exists_cons_of_ne_nil h
      rw [hrest] at hall ⊢
      exact hall

theorem stripEnd_append {α : Type} {p : α → Bool} {a : α} (h : p a = false) (front : List α) :
    stripEnd p (front ++ [a]) = front ++ [a] := by
  simp [stripEnd, h]

theorem segments_ne_nil (path : Path) : path.segments ≠ [] := by
  simp [segments, pieces_ne_nil]

theorem slash_not_mem_of_mem_segments {path : Path} {segment : String}
    (h : segment ∈ path.segments) : '/' ∉ segment.toList := by
  obtain ⟨piece, hpiece, rfl⟩ := List.mem_map.mp h
  rw [String.toList_ofList]
  exact not_mem_of_mem_pieces hpiece

theorem segments_join (base : Path) (h : IsName name) :
    ∃ front, (join base name).segments = front ++ [name] ∧
      (base.segments = front ∨
        base.segments = front ++ [""] ∧ (base.toList = [] ∨ base.endsInSlash = true)) := by
  have hname : (pieces '/' name.toList).map String.ofList = [name] := h.segments_eq
  unfold segments
  rcases toList_join base h with ⟨hbase, htext⟩ | ⟨front, hbase, htext⟩ | ⟨-, htext⟩
  · exact ⟨[], by rw [htext, hname]; rfl, Or.inr ⟨by rw [hbase]; rfl, Or.inl hbase⟩⟩
  · refine ⟨(pieces '/' front).map String.ofList, ?_, Or.inr ⟨?_, Or.inr ?_⟩⟩
    · rw [htext, pieces_append, List.map_append, hname]
    · rw [hbase, pieces_append, List.map_append]
      rfl
    · simp [endsInSlash, hbase]
  · refine ⟨(pieces '/' base.toList).map String.ofList, ?_, Or.inl rfl⟩
    rw [htext, pieces_append, List.map_append, hname]

/-- Joining a name adds one component, whatever the base ends in. -/
theorem components_join (h : IsName name) :
    (join base name).components = base.components ++ [.name name] := by
  obtain ⟨front, hjoin, hbase⟩ := segments_join base h
  have hname : ([name].filter (!isIdle ·)).map Component.ofSegment = [.name name] := by
    simp [h.isIdle_eq_false, Component.ofSegment, h.ne_up]
  -- A name is no leading dot, so the path starts as the base does.
  have hhere : (join base name).segments.head? = some "." ↔ base.segments.head? = some "." := by
    rw [hjoin]
    rcases hbase with hbase | ⟨hbase, -⟩
    · obtain ⟨first, rest, hfirst⟩ := List.exists_cons_of_ne_nil (segments_ne_nil base)
      rw [← hbase, hfirst]
      rfl
    · rw [hbase]
      cases front with
      | nil => simp [h.ne_here]
      | cons first rest => rfl
  have hrest : ((join base name).segments.filter (!isIdle ·)).map Component.ofSegment =
      (base.segments.filter (!isIdle ·)).map Component.ofSegment ++ [.name name] := by
    rw [hjoin, List.filter_append, List.map_append, hname]
    rcases hbase with hbase | ⟨hbase, -⟩
    · rw [hbase]
    · rw [hbase, List.filter_append, List.map_append]
      simp [isIdle]
  unfold components
  rw [isAbsolute_join h, hrest]
  simp only [hhere, List.append_assoc]

theorem isName_of_mem_components {path : Path} {text : String}
    (h : .name text ∈ path.components) : IsName text := by
  unfold components at h
  rcases List.mem_append.mp h with hstart | hsegment
  · split_ifs at hstart <;> simp at hstart
  · obtain ⟨segment, hmem, htext⟩ := List.mem_map.mp hsegment
    obtain ⟨hmem, hidle⟩ := List.mem_filter.mp hmem
    unfold Component.ofSegment at htext
    split_ifs at htext with hup
    obtain rfl := Component.name.inj htext
    simp only [isIdle, Bool.not_eq_true', Bool.or_eq_false_iff, beq_eq_false_iff_ne] at hidle
    exact ⟨hidle.1, hidle.2, hup, slash_not_mem_of_mem_segments hmem⟩

theorem body_join (base : Path) (h : IsName name) :
    ∃ front, (join base name).body = front ++ [name] := by
  obtain ⟨front, hfront, -⟩ := segments_join base h
  unfold body
  split_ifs with hanchor
  · cases front with
    | nil =>
      rcases hanchor with habsolute | hhere
      · obtain ⟨rest, hrest⟩ := segments_of_isAbsolute habsolute
        rw [hfront] at hrest
        exact absurd (List.cons.inj hrest).1 h.ne_empty
      · rw [hfront] at hhere
        exact absurd (Option.some.inj hhere) h.ne_here
    | cons segment front => exact ⟨front, by rw [hfront]; rfl⟩
  · exact ⟨front, hfront⟩

section Below

variable (top : Path) {directory : String}

theorem join_ne_nil (hd : IsName directory) : (join top directory).toList ≠ [] := by
  intro he
  have hlast : (join top directory).toList.getLast? = directory.toList.getLast? := getLast?_join hd
  rw [he, List.getLast?_nil, eq_comm, List.getLast?_eq_none_iff] at hlast
  exact hd.toList_ne_nil hlast

theorem anchor_body_join (hd : IsName directory) (h : IsName name) :
    (join (join top directory) name).anchor = (join top directory).anchor ∧
      (join (join top directory) name).body = (join top directory).body ++ [name] := by
  obtain ⟨front, hfront, hbase⟩ := segments_join (join top directory) h
  obtain ⟨front', hfront', -⟩ := segments_join top hd
  obtain rfl : (join top directory).segments = front := by
    rcases hbase with hbase | ⟨-, hnil | hslash⟩
    · exact hbase
    · exact absurd hnil (join_ne_nil top hd)
    · simp [endsInSlash_join hd] at hslash
  have habsolute : isAbsolute (join (join top directory) name) = isAbsolute (join top directory) :=
    isAbsolute_join h
  have hhead : (join (join top directory) name).segments.head? =
      (join top directory).segments.head? := by
    rw [hfront, hfront']
    cases front' <;> rfl
  have htail : (join (join top directory) name).segments.tail =
      (join top directory).segments.tail ++ [name] := by
    rw [hfront, hfront']
    cases front' <;> rfl
  unfold anchor body
  rw [habsolute, hhead, htail, hfront]
  refine ⟨rfl, ?_⟩
  split_ifs <;> rfl

theorem directory?_join (hd : IsName directory) (h : IsName name) :
    (join (join top directory) name).directory? = some (join top directory) := by
  obtain ⟨hanchor, hbody⟩ := anchor_body_join top hd h
  obtain ⟨front, hfront⟩ := body_join top hd
  have hne : (join top directory).body ≠ [] := by simp [hfront]
  have hparent : (join (join top directory) name).parent? = some (join top directory) := by
    unfold parent?
    rw [hbody, stripEnd_append h.isIdle_eq_false, hanchor]
    have hnames : (join top directory).body ++ [name] ≠ [] := by simp
    obtain ⟨segment, rest, hcons⟩ := List.exists_cons_of_ne_nil hnames
    rw [hcons]
    simp only
    rw [← hcons, List.dropLast_concat, hfront, stripEnd_append hd.isIdle_eq_false, ← hfront,
      assemble_body hne]
  have hempty : join top directory ≠ "" := fun he => join_ne_nil top hd (by rw [he]; rfl)
  unfold directory?
  rw [hparent]
  simp [Option.filter, hempty]

/-- The first directory to be made for a path that ends in a name is the path itself. -/
theorem lineage_join (hd : IsName directory) :
    ∃ above, Disk.lineage (join top directory) = join top directory :: above := by
  obtain ⟨front, hfront⟩ := body_join top hd
  have hne : (join top directory).body ≠ [] := by simp [hfront]
  unfold Disk.lineage
  rw [hfront, List.reverse_append, List.reverse_singleton, List.singleton_append, Disk.namesAbove,
    hd.isIdle_eq_false, if_neg Bool.false_ne_true, List.map_cons, List.reverse_cons,
    List.reverse_reverse, ← hfront, assemble_body hne]
  exact ⟨_, rfl⟩

end Below

end Path

end GoldenRun
