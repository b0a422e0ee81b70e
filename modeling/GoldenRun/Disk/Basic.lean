import GoldenRun.Path
import GoldenRun.Stream

/-!
# The file system

A file system holds an entry at each of finitely many places. A place is the row of names that
leads to it from the top, which is itself a directory. `put` and `erase` change the entry at one
place and no other.
-/

namespace GoldenRun

/-- The names that lead from the top to an entry. -/
abbrev Place := List String

/-- What may stand at a place. -/
inductive Entry
  | file (data : Bytes) (executable : Bool)
  | directory
  | link (target : Path)
  deriving DecidableEq

/-- The entries of a file system, at most one at a place, and the directory from which paths
start that do not start from the top. -/
structure Disk where
  home : Place
  entries : List (Place × Entry)
  nodup : (entries.map Prod.fst).Nodup

namespace Disk

def empty (home : Place) : Disk where
  home := home
  entries := []
  nodup := List.nodup_nil

def at? (disk : Disk) (place : Place) : Option Entry :=
  if place = [] then some .directory else disk.entries.lookup place

/-- The entries at all places but one. -/
def others (disk : Disk) (place : Place) : List (Place × Entry) :=
  disk.entries.filter (·.1 != place)

theorem not_mem_others (disk : Disk) (place : Place) :
    place ∉ (disk.others place).map Prod.fst := by
  simp [others]

theorem nodup_others (disk : Disk) (place : Place) :
    ((disk.others place).map Prod.fst).Nodup :=
  disk.nodup.sublist (List.filter_sublist.map _)

def put (disk : Disk) (place : Place) (entry : Entry) : Disk where
  home := disk.home
  entries := (place, entry) :: disk.others place
  nodup := List.nodup_cons.2 ⟨disk.not_mem_others place, disk.nodup_others place⟩

def erase (disk : Disk) (place : Place) : Disk where
  home := disk.home
  entries := disk.others place
  nodup := disk.nodup_others place

theorem lookup_others_of_ne (disk : Disk) {place other : Place} (h : other ≠ place) :
    (disk.others place).lookup other = disk.entries.lookup other := by
  unfold others
  induction disk.entries with
  | nil => rfl
  | cons e rest ih =>
    obtain ⟨p, entry⟩ := e
    by_cases hp : p = place
    · subst hp
      have hb : (other == p) = false := by simpa using h
      simp [List.lookup_cons, hb, ih]
    · have hp' : (p != place) = true := by simpa using hp
      simp [hp', List.lookup_cons, ih]

theorem lookup_others_self (disk : Disk) (place : Place) :
    (disk.others place).lookup place = none := by
  rw [List.lookup_eq_none_iff]
  intro e he
  have : e.1 ≠ place := by
    simpa using (List.mem_filter.1 he).2
  simpa using Ne.symm this

@[simp]
theorem at?_nil (disk : Disk) : disk.at? [] = some .directory := by
  simp [at?]

theorem at?_put (disk : Disk) {place : Place} (h : place ≠ []) (entry : Entry) (other : Place) :
    (disk.put place entry).at? other = if other = place then some entry else disk.at? other := by
  by_cases ho : other = place
  · subst ho
    simp [at?, put, h]
  · have hb : (other == place) = false := by simpa using ho
    simp [at?, put, List.lookup_cons, hb, disk.lookup_others_of_ne ho, ho]

theorem at?_erase (disk : Disk) {place : Place} (h : place ≠ []) (other : Place) :
    (disk.erase place).at? other = if other = place then none else disk.at? other := by
  by_cases ho : other = place
  · subst ho
    simp [at?, erase, h, disk.lookup_others_self]
  · simp [at?, erase, disk.lookup_others_of_ne ho, ho]

/-- The name of an entry that stands directly below a place. -/
def childName? (directory place : Place) : Option String :=
  match place.getLast? with
  | some name => if place.dropLast = directory then some name else none
  | none => none

def children (disk : Disk) (directory : Place) : List String :=
  disk.entries.filterMap fun (place, _) => childName? directory place

theorem childName?_eq_some_iff {directory place : Place} {name : String} :
    childName? directory place = some name ↔ place = directory ++ [name] := by
  unfold childName?
  constructor
  · intro h
    split at h
    · next last hl =>
      split at h
      · next hd =>
        injection h with h
        subst h
        have hne : place ≠ [] := by intro hn; simp [hn] at hl
        have hg : place.getLast hne = last := by
          rw [List.getLast?_eq_some_getLast hne] at hl
          exact Option.some.inj hl
        rw [← hd, ← hg, List.dropLast_concat_getLast hne]
      · contradiction
    · contradiction
  · rintro rfl
    simp

theorem mem_children_iff {disk : Disk} {directory : Place} {name : String} :
    name ∈ disk.children directory ↔ (disk.at? (directory ++ [name])).isSome = true := by
  have hmem : ∀ entries : List (Place × Entry),
      (∃ e ∈ entries, e.1 = directory ++ [name]) ↔
        (entries.lookup (directory ++ [name])).isSome = true := by
    intro entries
    induction entries with
    | nil => simp
    | cons e rest ih =>
      obtain ⟨p, entry⟩ := e
      by_cases hp : p = directory ++ [name]
      · subst hp
        simp
      · have hb : (directory ++ [name] == p) = false := by simpa using Ne.symm hp
        simp [List.lookup_cons, hb, hp, ← ih]
  simp only [children, List.mem_filterMap, at?, List.append_eq_nil_iff, List.cons_ne_self,
    and_false, if_false, ← hmem, childName?_eq_some_iff]

/-- What reading at a place meets. A directory opens like a file but cannot be read. -/
def stream (disk : Disk) (place : Place) : Stream :=
  match disk.at? place with
  | some (.file data _) => ⟨data, none⟩
  | some .directory => ⟨[], some .isADirectory⟩
  | _ => ⟨[], none⟩

/-- Replaces the content of the file at a place, if there is one. -/
def store (disk : Disk) (place : Place) (data : Bytes) : Disk :=
  match disk.at? place with
  | some (.file _ executable) => disk.put place (.file data executable)
  | _ => disk

end Disk

end GoldenRun
