import GoldenRun.Proofs.Disk.Walk

/-!
# What a change leaves alone

A state of the file system varies from another one within a set of files and a set of directories:
files of the one set may be written or removed, directories of the other may be made, and nothing
else happens. Ways through the file system stay open under such a change.
-/

namespace GoldenRun

/-- Whether a file can be put where something stands: there is nothing, or a file. -/
def Loose : Option Entry → Prop
  | none => True
  | some (.file _ _) => True
  | some _ => False

/-- An entry, but for the permission to execute it. -/
def Entry.plain : Entry → Entry
  | .file data _ => .file data false
  | entry => entry

theorem Loose.cases {old : Option Entry} (h : Loose old) :
    old = none ∨ ∃ data executable, old = some (.file data executable) := by
  rcases old with _ | (⟨data, executable⟩ | _ | _)
  · exact Or.inl rfl
  · exact Or.inr ⟨data, executable, rfl⟩
  · exact h.elim
  · exact h.elim

theorem loose_plain {old : Option Entry} : Loose (old.map Entry.plain) ↔ Loose old := by
  rcases old with _ | (_ | _ | _) <;> rfl

theorem plain_cases {a b : Option Entry} (h : a.map Entry.plain = b.map Entry.plain) :
    a = b ∨ ∃ data x y, a = some (.file data x) ∧ b = some (.file data y) := by
  rcases a with _ | (⟨data, x⟩ | _ | target) <;> rcases b with _ | (⟨data', y⟩ | _ | target') <;>
    simp_all [Entry.plain]

namespace Disk

/-- What stands at the end of a path, but for the permission to execute it. -/
def plain? (disk : Disk) (path : Path) : Option Entry :=
  (disk.find? path).map fun found => found.2.plain

variable {files directories : Set Place} {before after : Disk}

/-- What may become of the entry at a place. -/
def Changed (files directories : Set Place) (place : Place) (old new : Option Entry) : Prop :=
  new = old ∨ (place ∈ files ∧ Loose old ∧ Loose new) ∨
    (place ∈ directories ∧ old = none ∧ new = some .directory)

/-- Nothing but given files and directories has changed, and those in no other way than files and
directories do. -/
structure Varies (files directories : Set Place) (before after : Disk) : Prop where
  home : after.home = before.home
  entries : ∀ place, Changed files directories place (before.at? place) (after.at? place)

namespace Varies

variable {first second third : Disk}

theorem refl (disk : Disk) : Varies files directories disk disk :=
  ⟨rfl, fun _ => Or.inl rfl⟩

theorem mono {files' directories' : Set Place} (h : Varies files directories first second)
    (hfiles : files ⊆ files') (hdirectories : directories ⊆ directories') :
    Varies files' directories' first second := by
  refine ⟨h.home, ?_⟩
  intro place
  rcases h.entries place with hsame | ⟨hmem, hloose⟩ | ⟨hmem, hmade⟩
  · exact Or.inl hsame
  · exact Or.inr (Or.inl ⟨hfiles hmem, hloose⟩)
  · exact Or.inr (Or.inr ⟨hdirectories hmem, hmade⟩)

theorem trans (hdisjoint : Disjoint files directories) (h : Varies files directories first second)
    (h' : Varies files directories second third) : Varies files directories first third := by
  refine ⟨h'.home.trans h.home, ?_⟩
  intro place
  have hnot : place ∈ files → place ∉ directories :=
    fun hf hd => Set.disjoint_left.mp hdisjoint hf hd
  rcases h.entries place with hsame | ⟨hmem, hold, hmid⟩ | ⟨hmem, hold, hmid⟩
  · rw [← hsame]
    exact h'.entries place
  · rcases h'.entries place with hsame | ⟨-, -, hnew⟩ | ⟨hmem', -⟩
    · exact Or.inr (Or.inl ⟨hmem, hold, hsame ▸ hmid⟩)
    · exact Or.inr (Or.inl ⟨hmem, hold, hnew⟩)
    · exact absurd hmem' (hnot hmem)
  · rcases h'.entries place with hsame | ⟨hmem', -⟩ | ⟨-, hnone, -⟩
    · exact Or.inr (Or.inr ⟨hmem, hold, hsame.trans hmid⟩)
    · exact absurd hmem (hnot hmem')
    · rw [hmid] at hnone
      contradiction

theorem at?_eq (h : Varies files directories first second) {place : Place}
    (hfile : place ∉ files) (hdirectory : place ∉ directories) :
    second.at? place = first.at? place := by
  rcases h.entries place with hsame | ⟨hmem, -⟩ | ⟨hmem, -⟩
  · exact hsame
  · exact absurd hmem hfile
  · exact absurd hmem hdirectory

theorem keepsWays (h : Varies files directories first second) : first.KeepsWays second := by
  constructor
  · intro place hat
    rcases h.entries place with hsame | ⟨-, hloose, -⟩ | ⟨-, hnone, -⟩
    · exact hsame.trans hat
    · rw [hat] at hloose
      exact hloose.elim
    · rw [hat] at hnone
      contradiction
  · intro place target hat
    rcases h.entries place with hsame | ⟨-, hloose, -⟩ | ⟨-, hnone, -⟩
    · exact hsame.trans hat
    · rw [hat] at hloose
      exact hloose.elim
    · rw [hat] at hnone
      contradiction

theorem arrives (h : Varies files directories first second) {path : Path} {top : Place}
    (hpath : first.Arrives path top) : second.Arrives path top :=
  hpath.keep h.home h.keepsWays

theorem link (h : Varies files directories first second) {place : Place} {target : Path}
    (hat : second.at? place = some (.link target)) : first.at? place = some (.link target) := by
  rcases h.entries place with hsame | ⟨-, -, hloose⟩ | ⟨-, -, hmade⟩
  · exact hsame.symm.trans hat
  · rw [hat] at hloose
    exact hloose.elim
  · rw [hat] at hmade
    exact absurd hmade (by simp)

theorem then_files (h : Varies ∅ directories first second)
    (h' : Varies files ∅ second third) : Varies files directories first third := by
  refine ⟨h'.home.trans h.home, fun place => ?_⟩
  rcases h.entries place with hsame | ⟨hmem, -⟩ | ⟨hmem, hnone, hmade⟩
  · rcases h'.entries place with hsame' | ⟨hmem, hold, hnew⟩ | ⟨hmem, -⟩
    · exact Or.inl (hsame'.trans hsame)
    · exact Or.inr (Or.inl ⟨hmem, hsame ▸ hold, hnew⟩)
    · contradiction
  · contradiction
  · rcases h'.entries place with hsame' | ⟨-, hold, -⟩ | ⟨hmem', -⟩
    · exact Or.inr (Or.inr ⟨hmem, hnone, hsame'.trans hmade⟩)
    · rw [hmade] at hold
      exact hold.elim
    · contradiction

end Varies

theorem Varies.loose (h : Varies files directories before after) {place : Place}
    (hloose : Loose (before.at? place)) (hnot : place ∉ directories) :
    Loose (after.at? place) := by
  rcases h.entries place with hsame | ⟨-, -, hnew⟩ | ⟨hmem, -⟩
  · exact hsame.symm ▸ hloose
  · exact hnew
  · exact absurd hmem hnot

/-- A file has been written or removed, and what stands at its place now is known but for the
permission to execute it. -/
structure Sets (place : Place) (new : Option Entry) (before after : Disk) : Prop where
  varies : Varies {place} ∅ before after
  here : (after.at? place).map Entry.plain = new

variable {disk : Disk} {place : Place} {new : Option Entry}

theorem sets_refl (disk : Disk) (place : Place) :
    Sets place ((disk.at? place).map Entry.plain) disk disk :=
  ⟨.refl disk, rfl⟩

theorem sets_put (hne : place ≠ []) (hold : Loose (disk.at? place)) (data : Bytes)
    (executable : Bool) :
    Sets place (some (.file data false)) disk (disk.put place (.file data executable)) := by
  refine ⟨⟨rfl, fun other => ?_⟩, ?_⟩
  · rw [disk.at?_put hne]
    split_ifs with hother
    · subst hother
      exact Or.inr (Or.inl ⟨rfl, hold, trivial⟩)
    · exact Or.inl rfl
  · rw [disk.at?_put hne, if_pos rfl]
    rfl

theorem sets_erase (hne : place ≠ []) (hold : Loose (disk.at? place)) :
    Sets place none disk (disk.erase place) := by
  refine ⟨⟨rfl, fun other => ?_⟩, ?_⟩
  · rw [disk.at?_erase hne]
    split_ifs with hother
    · subst hother
      exact Or.inr (Or.inl ⟨rfl, hold, trivial⟩)
    · exact Or.inl rfl
  · rw [disk.at?_erase hne, if_pos rfl]
    rfl

namespace Sets

theorem elsewhere (h : Sets place new before after) {other : Place} (hne : other ≠ place) :
    after.at? other = before.at? other :=
  h.varies.at?_eq hne (Set.notMem_empty other)

theorem within (h : Sets place new before after) (hmem : place ∈ files) :
    Varies files directories before after :=
  h.varies.mono (Set.singleton_subset_iff.mpr hmem) (Set.empty_subset _)

end Sets

end Disk

end GoldenRun
