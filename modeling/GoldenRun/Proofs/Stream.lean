import GoldenRun.Listing.Cursor
import GoldenRun.Proofs.Text.Lines

/-!
# Streams read line by line

What it is to read the next line of a stream is told without the function that computes all lines at
once. A line is read up to its newline; bytes behind the last newline are a line where the stream
ends cleanly, and nothing is read where it does not. Whatever is read this way, one line after the
other, comes in front of the computed lines.
-/

namespace GoldenRun.Stream

open Lines (newline)

/-- The next line of a stream is read, and the rest of the stream is left. -/
inductive Reads : Stream → Bytes → Stream → Prop
  | ended {line rest fault} : newline ∉ line →
      Reads ⟨line ++ newline :: rest, fault⟩ line ⟨rest, fault⟩
  | last {line} : line ≠ [] → newline ∉ line → Reads ⟨line, none⟩ line ⟨[], none⟩

/-- Lines are read one after the other. -/
inductive Passes : Stream → List Bytes → Stream → Prop
  | here {stream} : Passes stream [] stream
  | line {stream line next lines behind} : Reads stream line next → Passes next lines behind →
      Passes stream (line :: lines) behind

/-- The next line cannot be read: bytes behind the content are needed to know that it is complete,
or that there is none, and reading them meets a fault. -/
def Breaks (stream : Stream) (fault : Fault) : Prop :=
  newline ∉ stream.content ∧ stream.fault = some fault

def IsOver (stream : Stream) : Prop :=
  stream = ⟨[], none⟩

variable {stream next behind : Stream} {line : Bytes} {others front back : List Bytes}
  {fault : Fault}

theorem lines_append_cons (h : newline ∉ line) (rest : Bytes) (fault : Option Fault) :
    lines ⟨line ++ newline :: rest, fault⟩ = line :: lines ⟨rest, fault⟩ := by
  cases fault with
  | none => exact Lines.all_append_cons h rest
  | some fault => exact Lines.ended_append_cons h rest

theorem lines_written_append (h : ∀ line ∈ front, newline ∉ line) (rest : Bytes)
    (fault : Option Fault) :
    lines ⟨Lines.written front ++ rest, fault⟩ = front ++ lines ⟨rest, fault⟩ := by
  induction front with
  | nil => rfl
  | cons line front ih =>
    rw [Lines.written_cons, List.append_assoc, List.cons_append,
      lines_append_cons (h line (by simp)), ih fun other hmem => h other (by simp [hmem]),
      List.cons_append]

theorem lines_of_isOver (h : stream.IsOver) : stream.lines = [] :=
  h ▸ Lines.all_nil

theorem lines_of_breaks (h : stream.Breaks fault) : stream.lines = [] := by
  unfold lines
  rw [h.2]
  exact Lines.ended_of_not_mem h.1

theorem Reads.lines (h : stream.Reads line next) :
    stream.lines = line :: next.lines ∧ next.fault = stream.fault := by
  cases h with
  | ended hline => exact ⟨lines_append_cons hline _ _, rfl⟩
  | last hne hline => exact ⟨(Lines.all_of_not_mem hne hline).trans (by simp [Stream.lines]), rfl⟩

theorem reads_or (stream : Stream) :
    (∃ line next, stream.Reads line next) ∨ stream.IsOver ∨ ∃ fault, stream.Breaks fault := by
  obtain ⟨content, fault⟩ := stream
  by_cases hmem : newline ∈ content
  · obtain ⟨line, rest, rfl, hline⟩ := Lines.eq_append_cons_of_mem hmem
    exact Or.inl ⟨line, _, .ended hline⟩
  · cases fault with
    | some fault => exact Or.inr (Or.inr ⟨fault, hmem, rfl⟩)
    | none =>
      by_cases hnil : content = []
      · subst hnil
        exact Or.inr (Or.inl rfl)
      · exact Or.inl ⟨content, _, .last hnil hmem⟩

theorem breaks_iff : stream.Breaks fault ↔ stream.lines = [] ∧ stream.fault = some fault := by
  refine ⟨fun h => ⟨lines_of_breaks h, h.2⟩, ?_⟩
  rintro ⟨hlines, hfault⟩
  rcases stream.reads_or with ⟨line, next, hreads⟩ | hover | ⟨other, hbreaks⟩
  · rw [hreads.lines.1] at hlines
    contradiction
  · rw [hover] at hfault
    contradiction
  · exact ⟨hbreaks.1, hfault⟩

theorem exists_reads (h : stream.lines = line :: others) :
    ∃ next, stream.Reads line next ∧ next.lines = others := by
  rcases stream.reads_or with ⟨line', next, hreads⟩ | hover | ⟨fault, hbreaks⟩
  · rw [hreads.lines.1] at h
    obtain ⟨rfl, rfl⟩ := List.cons.inj h
    exact ⟨next, hreads, rfl⟩
  · rw [lines_of_isOver hover] at h
    contradiction
  · rw [lines_of_breaks hbreaks] at h
    contradiction

theorem Passes.lines (h : stream.Passes front behind) :
    stream.lines = front ++ behind.lines ∧ behind.fault = stream.fault := by
  induction h with
  | here => exact ⟨rfl, rfl⟩
  | line hreads _ ih =>
    obtain ⟨hlines, hfault⟩ := hreads.lines
    exact ⟨by rw [hlines, ih.1, List.cons_append], ih.2.trans hfault⟩

/-- Where a stream does not end cleanly, a newline ends every line that is read. -/
theorem Passes.content (h : stream.Passes front behind) (hfault : stream.fault ≠ none) :
    stream.content = Lines.written front ++ behind.content := by
  induction h with
  | here => rfl
  | line hreads _ ih =>
    cases hreads with
    | last => exact absurd rfl hfault
    | ended =>
      rw [Lines.written_cons, List.append_assoc, List.cons_append]
      exact congrArg (_ ++ newline :: ·) (ih hfault)

theorem exists_passes (h : stream.lines = front ++ back) :
    ∃ behind, stream.Passes front behind ∧ behind.lines = back := by
  induction front generalizing stream with
  | nil => exact ⟨stream, .here, h⟩
  | cons line front ih =>
    obtain ⟨next, hreads, hnext⟩ := exists_reads h
    obtain ⟨behind, hpasses, hbehind⟩ := ih hnext
    exact ⟨behind, .line hreads hpasses, hbehind⟩

/-- Where a fault ends a stream, the lines in front of it are those that a clean end would leave
there. -/
theorem exists_lines_append (stream : Stream) : ∃ tail,
    lines ⟨stream.content, none⟩ = stream.lines ++ tail ∧ (stream.fault = none → tail = []) := by
  obtain ⟨content, fault⟩ := stream
  cases fault with
  | none => exact ⟨[], (List.append_nil _).symm, fun _ => rfl⟩
  | some fault =>
    have hlines : lines ⟨content, some fault⟩ <+: lines ⟨content, none⟩ := by
      change Lines.ended content <+: Lines.all content
      unfold Lines.all
      rw [← Lines.ended_append_remainder]
      split_ifs
      · exact List.prefix_rfl
      · exact List.prefix_append _ _
    obtain ⟨tail, htail⟩ := hlines
    exact ⟨tail, htail.symm, fun h => by contradiction⟩

end GoldenRun.Stream
