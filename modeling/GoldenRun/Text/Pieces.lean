/-!
# Pieces between separators

A list is cut at every occurrence of a separator. There is one piece more than there are
separators, so joining the pieces again gives the list back.
-/

namespace GoldenRun

variable {α : Type} [DecidableEq α]

/-- The pieces of a list between occurrences of a separator. -/
def pieces (separator : α) : List α → List (List α)
  | [] => [[]]
  | a :: rest =>
    if a = separator then [] :: pieces separator rest
    else match pieces separator rest with
      | [] => [[a]]
      | first :: others => (a :: first) :: others

theorem pieces_ne_nil (separator : α) (list : List α) : pieces separator list ≠ [] := by
  cases list with
  | nil => simp [pieces]
  | cons a rest =>
    unfold pieces
    split
    · simp
    · split <;> simp

theorem pieces_cons_self (separator : α) (rest : List α) :
    pieces separator (separator :: rest) = [] :: pieces separator rest := by
  simp [pieces]

theorem pieces_of_not_mem {separator : α} {list : List α} (h : separator ∉ list) :
    pieces separator list = [list] := by
  induction list with
  | nil => rfl
  | cons a rest ih =>
    simp only [List.mem_cons, not_or] at h
    have hne : a ≠ separator := fun he => h.1 he.symm
    simp [pieces, hne, ih h.2]

theorem pieces_append_cons {separator : α} {first : List α} (h : separator ∉ first)
    (rest : List α) :
    pieces separator (first ++ separator :: rest) = first :: pieces separator rest := by
  induction first with
  | nil => exact pieces_cons_self separator rest
  | cons a tail ih =>
    simp only [List.mem_cons, not_or] at h
    have hne : a ≠ separator := fun he => h.1 he.symm
    simp [pieces, hne, ih h.2]

theorem not_mem_of_mem_pieces {separator : α} {list piece : List α}
    (h : piece ∈ pieces separator list) : separator ∉ piece := by
  induction list generalizing piece with
  | nil => simp_all [pieces]
  | cons a rest ih =>
    unfold pieces at h
    split at h
    · rcases List.mem_cons.1 h with rfl | h
      · simp
      · exact ih h
    · next hne =>
      split at h
      · next he => exact absurd he (pieces_ne_nil separator rest)
      · next first others he =>
        rcases List.mem_cons.1 h with rfl | h
        · have : separator ∉ first := ih (by simp [he])
          simp [this, Ne.symm hne]
        · exact ih (by simp [he, h])

end GoldenRun
