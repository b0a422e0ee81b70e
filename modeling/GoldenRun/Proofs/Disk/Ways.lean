import GoldenRun.Disk.Edit
import GoldenRun.Proofs.Disk.Frame
import GoldenRun.Proofs.Disk.Removal

/-!
# What a path depends on

Where a path leads is told by the entries at some places: those that the path comes by, and those
that it would come by if the directories on its way were there. File systems that agree at these
places answer alike about the path, whatever else they hold, and if they are changed alike they go
on to agree.
-/

namespace GoldenRun

/-- Two walks come to the same end, but for the permission to execute the file that is there. -/
inductive SameEnd : Except Fault Target → Except Fault Target → Prop
  | fault {fault} : SameEnd (.error fault) (.error fault)
  | entry {place found found'} : found'.plain = found.plain →
      SameEnd (.ok (.entry place found)) (.ok (.entry place found'))
  | vacant {directory name} : SameEnd (.ok (.vacant directory name)) (.ok (.vacant directory name))

theorem eq_of_plain {a b : Option Entry} (h : a.map Entry.plain = b.map Entry.plain)
    (hfile : ∀ data executable, b ≠ some (.file data executable)) : a = b := by
  rcases plain_cases h with hsame | ⟨data, _, executable, -, hb⟩
  · exact hsame
  · exact absurd hb (hfile data executable)

theorem exists_file_of_plain {a b : Option Entry} {data : Bytes} {executable : Bool}
    (h : a.map Entry.plain = b.map Entry.plain) (hb : b = some (.file data executable)) :
    ∃ executable', a = some (.file data executable') := by
  rcases plain_cases h with rfl | ⟨data', executable', _, rfl, hfile⟩
  · exact ⟨executable, hb⟩
  · obtain ⟨rfl, -⟩ : data = data' ∧ _ := by simpa using hb.symm.trans hfile
    exact ⟨executable', rfl⟩

namespace Disk

/-- A place is one that segments from a directory come by. They are taken to go on below it whether
or not a directory stands there, and links are followed as a walk follows them. -/
inductive OnWay (disk : Disk) (follow : Bool) : ℕ → Place → List String → Place → Prop
  | here {links place} : OnWay disk follow links place [] place
  | stay {links place rest seen} : OnWay disk follow links place rest seen →
      OnWay disk follow links place ("." :: rest) seen
  | up {links place rest seen} : OnWay disk follow links place.dropLast rest seen →
      OnWay disk follow links place (".." :: rest) seen
  | name {links place segment rest} : segment ≠ "." → segment ≠ ".." →
      OnWay disk follow links place (segment :: rest) (place ++ [segment])
  | down {links place segment rest seen} : segment ≠ "." → segment ≠ ".." →
      OnWay disk follow links (place ++ [segment]) rest seen →
      OnWay disk follow links place (segment :: rest) seen
  | jump {links place segment target rest seen} : segment ≠ "." → segment ≠ ".." →
      disk.at? (place ++ [segment]) = some (.link target) → (rest ≠ [] ∨ follow = true) →
      OnWay disk follow links (if target.isAbsolute then [] else place) (target.route ++ rest)
        seen →
      OnWay disk follow (links + 1) place (segment :: rest) seen

/-- The places that a path comes by. -/
def way (disk : Disk) (follow : Bool) (path : Path) : Set Place :=
  {place | disk.OnWay follow linkLimit (disk.start path) path.route place}

/-- Two file systems hold the same at some places, but for the permission to execute files. -/
structure AgreeOn (places : Set Place) (disk other : Disk) : Prop where
  home : other.home = disk.home
  entries : ∀ place ∈ places,
    (other.at? place).map Entry.plain = (disk.at? place).map Entry.plain

/-- Two file systems are changed in step: at each place both stay as they are, or both come to hold
the same. No links are made. -/
structure InStep (disk other after after' : Disk) : Prop where
  home : after.home = disk.home
  home' : after'.home = other.home
  entries : ∀ place, after.at? place = disk.at? place ∧ after'.at? place = other.at? place ∨
    (after'.at? place).map Entry.plain = (after.at? place).map Entry.plain
  links : ∀ place target, after.at? place = some (.link target) →
    disk.at? place = some (.link target)

variable {disk other before after after' made made' : Disk} {links : ℕ} {place seen : Place}
  {segments rest : List String} {follow : Bool} {path : Path} {paths : List Path}
  {places : Set Place}

theorem OnWay.of_links (hlinks : ∀ place target, after.at? place = some (.link target) →
      before.at? place = some (.link target))
    (h : after.OnWay follow links place segments seen) :
    before.OnWay follow links place segments seen := by
  induction h with
  | here => exact .here
  | stay _ ih => exact .stay ih
  | up _ ih => exact .up ih
  | name hstay hup => exact .name hstay hup
  | down hstay hup _ ih => exact .down hstay hup ih
  | jump hstay hup hat hend _ ih => exact .jump hstay hup (hlinks _ _ hat) hend ih

theorem OnWay.following (h : disk.OnWay false links place segments seen) :
    disk.OnWay follow links place segments seen := by
  induction h with
  | here => exact .here
  | stay _ ih => exact .stay ih
  | up _ ih => exact .up ih
  | name hstay hup => exact .name hstay hup
  | down hstay hup _ ih => exact .down hstay hup ih
  | jump hstay hup hat hend _ ih =>
    exact .jump hstay hup hat (hend.imp_right fun hfalse => by contradiction) ih

theorem OnWay.then_stay (h : disk.OnWay false links place segments seen) :
    disk.OnWay follow links place (segments ++ ["."]) seen := by
  induction h with
  | here => exact .stay .here
  | stay _ ih => exact .stay ih
  | up _ ih => exact .up ih
  | name hstay hup => exact .name hstay hup
  | down hstay hup _ ih => exact .down hstay hup ih
  | jump hstay hup hat _ _ ih =>
    rw [List.append_assoc] at ih
    exact .jump hstay hup hat (Or.inl (by simp)) ih

theorem OnWay.mem_way (h : disk.OnWay false linkLimit (disk.start path) path.steps seen)
    (follow : Bool) : seen ∈ disk.way follow path := by
  unfold way Path.route
  split_ifs
  · exact h.then_stay
  · exact h.following

/-- Without links, segments that do not turn back come by no places but those that they name one
after the other. -/
theorem OnWay.prefix (h : disk.OnWay follow links place segments seen)
    (hlink : ∀ place target, disk.at? place ≠ some (.link target)) (hup : ".." ∉ segments) :
    seen <+: place ++ segments.filter (· ≠ ".") := by
  induction h with
  | here => simp
  | stay _ ih => simpa using ih fun hmem => hup (List.mem_cons_of_mem _ hmem)
  | up => exact absurd List.mem_cons_self hup
  | name hstay _ =>
    rw [List.filter_cons_of_pos (by simpa using hstay)]
    exact ⟨_, (List.append_cons _ _ _).symm⟩
  | down hstay _ _ ih =>
    rw [List.filter_cons_of_pos (by simpa using hstay), List.append_cons]
    exact ih fun hmem => hup (List.mem_cons_of_mem _ hmem)
  | jump _ _ hat => exact absurd hat (hlink _ _)

theorem OnWay.of_walk {found : Entry}
    (h : disk.walk follow links place segments = .ok (.entry seen found)) :
    disk.OnWay follow links place segments seen := by
  fun_induction walk disk follow links place segments with
  | case1 =>
    obtain ⟨rfl, -⟩ : _ = seen ∧ Entry.directory = found := by simpa using h
    exact .here
  | case2 _ _ _ ih => exact .stay (ih h)
  | case3 _ _ _ _ ih => exact .up (ih h)
  | case7 _ _ _ _ hstay hup _ _ ih => exact .down hstay hup (ih h)
  | case8 _ _ _ hstay hup _ _ _ hat =>
    obtain ⟨rfl, -⟩ : _ = seen ∧ _ = found := by simpa using h
    exact .name hstay hup
  | case10 _ _ _ _ hstay hup _ _ hat =>
    obtain ⟨rfl, -⟩ : _ = seen ∧ _ = found := by simpa using h
    exact .name hstay hup
  | case12 _ _ rest hstay hup _ target hat hend _ ih =>
    exact .jump hstay hup hat ((not_and_or.mp hend).imp_right (by simp)) (ih h)
  | _ => simp_all

/-- File systems that agree along the way of a walk lead it to the same end. -/
theorem walk_agree (h : ∀ seen, disk.OnWay follow links place segments seen →
      (other.at? seen).map Entry.plain = (disk.at? seen).map Entry.plain) :
    SameEnd (disk.walk follow links place segments) (other.walk follow links place segments) := by
  fun_induction walk disk follow links place segments with
  | case1 =>
    rw [walk]
    exact .entry rfl
  | case2 links place rest ih =>
    rw [walk, if_pos rfl]
    exact ih fun seen hseen => h seen (.stay hseen)
  | case3 links place rest _ ih =>
    rw [walk, if_neg (by decide), if_pos rfl]
    exact ih fun seen hseen => h seen (.up hseen)
  | case4 links place segment rest hstay hup hlong =>
    rw [walk, if_neg hstay, if_neg hup, if_pos hlong]
    exact .fault
  | case5 links place segment hstay hup hshort hat =>
    have hsame := eq_of_plain (h _ (.name hstay hup)) (by simp [hat])
    rw [walk, if_neg hstay, if_neg hup, if_neg hshort, hsame, hat]
    exact .vacant
  | case6 links place segment rest hstay hup hshort hat hrest =>
    have hsame := eq_of_plain (h _ (.name hstay hup)) (by simp [hat])
    rw [walk, if_neg hstay, if_neg hup, if_neg hshort, hsame, hat]
    simp only [if_neg hrest]
    exact .fault
  | case7 links place segment rest hstay hup hshort hat ih =>
    have hsame := eq_of_plain (h _ (.name hstay hup)) (by simp [hat])
    rw [walk, if_neg hstay, if_neg hup, if_neg hshort, hsame, hat]
    exact ih fun seen hseen => h seen (.down hstay hup hseen)
  | case8 links place segment hstay hup hshort data executable hat =>
    obtain ⟨executable', hat'⟩ := exists_file_of_plain (h _ (.name hstay hup)) hat
    rw [walk, if_neg hstay, if_neg hup, if_neg hshort, hat']
    exact .entry rfl
  | case9 links place segment rest hstay hup hshort data executable hat hrest =>
    obtain ⟨executable', hat'⟩ := exists_file_of_plain (h _ (.name hstay hup)) hat
    rw [walk, if_neg hstay, if_neg hup, if_neg hshort, hat']
    simp only [if_neg hrest]
    exact .fault
  | case10 links place segment rest hstay hup hshort target hat hend =>
    have hsame := eq_of_plain (h _ (.name hstay hup)) (by simp [hat])
    rw [walk, if_neg hstay, if_neg hup, if_neg hshort, hsame, hat]
    simp only [if_pos hend]
    exact .entry rfl
  | case11 place segment rest hstay hup hshort target hat hend =>
    have hsame := eq_of_plain (h _ (.name hstay hup)) (by simp [hat])
    rw [walk, if_neg hstay, if_neg hup, if_neg hshort, hsame, hat]
    simp only [if_neg hend]
    exact .fault
  | case12 place segment rest hstay hup hshort target hat hend links ih =>
    have hsame := eq_of_plain (h _ (.name hstay hup)) (by simp [hat])
    rw [walk, if_neg hstay, if_neg hup, if_neg hshort, hsame, hat]
    simp only [if_neg hend]
    have hrest : rest ≠ [] ∨ follow = true := (not_and_or.mp hend).imp_right (by simp)
    exact ih fun seen hseen => h seen (.jump hstay hup hat hrest hseen)

theorem stream_of_plain (h : (other.at? place).map Entry.plain = (disk.at? place).map Entry.plain) :
    other.stream place = disk.stream place := by
  unfold stream
  rcases plain_cases h with hsame | ⟨data, _, _, hother, hdisk⟩
  · rw [hsame]
  · rw [hother, hdisk]

namespace AgreeOn

theorem mono {fewer : Set Place} (h : AgreeOn places disk other) (hfewer : fewer ⊆ places) :
    AgreeOn fewer disk other :=
  ⟨h.home, fun place hplace => h.entries place (hfewer hplace)⟩

theorem start (h : AgreeOn places disk other) (path : Path) :
    other.start path = disk.start path := by
  simp [Disk.start, h.home]

theorem resolveAlong (h : AgreeOn places disk other)
    (hway : ∀ seen, disk.OnWay follow linkLimit (disk.start path) segments seen → seen ∈ places) :
    SameEnd (disk.resolveAlong follow path segments) (other.resolveAlong follow path segments) := by
  unfold Disk.resolveAlong
  cases textFault? path with
  | some fault => exact .fault
  | none =>
    rw [h.start path]
    exact walk_agree fun seen hseen => h.entries seen (hway seen hseen)

theorem resolve (h : AgreeOn places disk other) (hway : disk.way follow path ⊆ places) :
    SameEnd (disk.resolve follow path) (other.resolve follow path) :=
  h.resolveAlong hway

theorem openFile (h : AgreeOn places disk other) (hway : disk.way true path ⊆ places) :
    other.openFile path = disk.openFile path := by
  have hend := h.resolve hway
  unfold Disk.openFile
  generalize disk.resolve true path = found, other.resolve true path = found' at hend
  cases hend <;> rfl

theorem isDirectory (h : AgreeOn places disk other) (hway : disk.way true path ⊆ places) :
    other.isDirectory path = disk.isDirectory path := by
  have hend := h.resolve hway
  unfold Disk.isDirectory find?
  generalize disk.resolve true path = found, other.resolve true path = found' at hend
  cases hend with
  | @entry _ found found' hplain => cases found <;> cases found' <;> simp_all [Entry.plain]
  | _ => rfl

theorem stream (h : AgreeOn places disk other) (hway : disk.way true path ⊆ places)
    (hopen : disk.openFile path = .ok place) : other.stream place = disk.stream place := by
  refine stream_of_plain (h.entries place (hway ?_))
  unfold Disk.openFile at hopen
  rcases hresolve : disk.resolve true path with fault | ⟨found, entry⟩ | ⟨directory, name⟩ <;>
    rw [hresolve] at hopen
  · contradiction
  · obtain rfl := Except.ok.inj hopen
    exact .of_walk (resolveAlong_eq_ok hresolve).2
  · contradiction

end AgreeOn

namespace InStep

theorem refl (disk other : Disk) : InStep disk other disk other :=
  ⟨rfl, rfl, fun _ => Or.inl ⟨rfl, rfl⟩, fun _ _ => id⟩

theorem trans (h : InStep disk other made made') (h' : InStep made made' after after') :
    InStep disk other after after' := by
  refine ⟨h'.home.trans h.home, h'.home'.trans h.home', fun place => ?_,
    fun place target hat => h.links place target (h'.links place target hat)⟩
  rcases h'.entries place with ⟨hsame, hsame'⟩ | hequal
  · rw [hsame, hsame']
    exact h.entries place
  · exact Or.inr hequal

theorem agreeOn (h : InStep disk other after after') (hagree : AgreeOn places disk other) :
    AgreeOn places after after' := by
  refine ⟨h.home'.trans (hagree.home.trans h.home.symm), fun place hplace => ?_⟩
  rcases h.entries place with ⟨hsame, hsame'⟩ | hequal
  · rw [hsame, hsame']
    exact hagree.entries place hplace
  · exact hequal

theorem way_subset (h : InStep disk other after after') :
    after.way follow path ⊆ disk.way follow path := by
  intro seen hseen
  have hstart : after.start path = disk.start path := by simp [start, h.home]
  have hway : after.OnWay follow linkLimit (after.start path) path.route seen := hseen
  rw [hstart] at hway
  exact hway.of_links h.links

theorem put (hne : place ≠ []) {entry : Entry} (hlink : ∀ target, entry ≠ .link target) :
    InStep disk other (disk.put place entry) (other.put place entry) := by
  refine ⟨rfl, rfl, fun other => ?_, fun other target hat => ?_⟩
  · rw [Disk.at?_put _ hne, Disk.at?_put _ hne]
    split_ifs
    · exact Or.inr rfl
    · exact Or.inl ⟨rfl, rfl⟩
  · rw [Disk.at?_put _ hne] at hat
    split_ifs at hat
    · exact absurd (Option.some.inj hat) (hlink target)
    · exact hat

theorem erase (hne : place ≠ []) : InStep disk other (disk.erase place) (other.erase place) := by
  refine ⟨rfl, rfl, fun other => ?_, fun other target hat => ?_⟩
  · rw [Disk.at?_erase _ hne, Disk.at?_erase _ hne]
    split_ifs
    · exact Or.inr rfl
    · exact Or.inl ⟨rfl, rfl⟩
  · rw [Disk.at?_erase _ hne] at hat
    split_ifs at hat
    exact hat

end InStep

theorem AgreeOn.makeDirectory (h : AgreeOn places disk other) (hway : disk.way true path ⊆ places) :
    (∃ fault, disk.makeDirectory path = .error fault ∧ other.makeDirectory path = .error fault) ∨
    ∃ made made', disk.makeDirectory path = .ok made ∧ other.makeDirectory path = .ok made' ∧
      InStep disk other made made' := by
  have hend : SameEnd (disk.resolveAlong false path path.steps)
      (other.resolveAlong false path path.steps) :=
    h.resolveAlong fun seen hseen => hway (hseen.mem_way true)
  unfold Disk.makeDirectory
  generalize disk.resolveAlong false path path.steps = found,
    other.resolveAlong false path path.steps = found' at hend
  cases hend with
  | fault => exact Or.inl ⟨_, rfl, rfl⟩
  | entry => exact Or.inl ⟨_, rfl, rfl⟩
  | vacant => exact Or.inr ⟨_, _, rfl, rfl, .put (by simp) (by simp)⟩

theorem AgreeOn.makeLineage (h : AgreeOn places disk other)
    (hways : ∀ path ∈ paths, disk.way true path ⊆ places) :
    (other.makeLineage paths).1 = (disk.makeLineage paths).1 ∧
      InStep disk other (disk.makeLineage paths).2 (other.makeLineage paths).2 := by
  induction paths with
  | nil => exact ⟨rfl, .refl disk other⟩
  | cons path above ih =>
    obtain ⟨hway, habove⟩ := List.forall_mem_cons.mp hways
    rw [Disk.makeLineage, Disk.makeLineage]
    by_cases hempty : path = ""
    · rw [if_pos hempty, if_pos hempty]
      exact ⟨rfl, .refl disk other⟩
    rw [if_neg hempty, if_neg hempty]
    rcases h.makeDirectory hway with
      ⟨fault, hmake, hmake'⟩ | ⟨made, made', hmake, hmake', hstep⟩ <;>
      rw [hmake, hmake']
    · cases fault with
      | missing =>
        obtain ⟨hsame, hstep⟩ := ih habove
        rcases hlineage : disk.makeLineage above with ⟨result, made⟩
        rcases hlineage' : other.makeLineage above with ⟨result', made'⟩
        rw [hlineage, hlineage'] at hsame hstep
        obtain rfl : result' = result := hsame
        cases result' with
        | error fault => exact ⟨rfl, hstep⟩
        | ok done =>
          have hagree := hstep.agreeOn h
          have hway' := hstep.way_subset.trans hway
          rcases hagree.makeDirectory hway' with
            ⟨fault, hagain, hagain'⟩ | ⟨last, last', hagain, hagain', hlast⟩ <;>
            simp only [hagain, hagain']
          · rw [hagree.isDirectory hway']
            split_ifs <;> exact ⟨rfl, hstep⟩
          · exact ⟨trivial, hstep.trans hlast⟩
      | _ =>
        simp only [h.isDirectory hway]
        split_ifs <;> exact ⟨rfl, .refl disk other⟩
    · exact ⟨rfl, hstep⟩

theorem AgreeOn.removeFile (h : AgreeOn places disk other) (hway : disk.way false path ⊆ places) :
    (∃ fault, disk.removeFile path = .error fault ∧ other.removeFile path = .error fault) ∨
    ∃ rest rest', disk.removeFile path = .ok rest ∧ other.removeFile path = .ok rest' ∧
      InStep disk other rest rest' := by
  have hend : SameEnd (disk.resolveAlong false path path.steps)
      (other.resolveAlong false path path.steps) :=
    h.resolveAlong fun seen hseen => hway (hseen.mem_way false)
  have hne : ∀ place found, disk.resolveAlong false path path.steps = .ok (.entry place found) →
      found ≠ .directory → place ≠ [] :=
    fun place found hresolve hfound =>
      ne_nil_of_named? (named?_eq_some_iff.mpr ⟨found, hresolve, hfound⟩)
  unfold Disk.removeFile
  generalize disk.resolveAlong false path path.steps = found,
    other.resolveAlong false path path.steps = found' at hend hne
  cases hend with
  | fault => exact Or.inl ⟨_, rfl, rfl⟩
  | vacant => exact Or.inl ⟨_, rfl, rfl⟩
  | @entry place found found' hplain =>
    have hremoved : found ≠ .directory → InStep disk other (disk.erase place) (other.erase place) :=
      fun hfound => .erase (hne place found rfl hfound)
    cases found with
    | directory =>
      obtain rfl : found' = .directory := by cases found' <;> simp_all [Entry.plain]
      exact Or.inl ⟨_, rfl, rfl⟩
    | file data executable =>
      obtain ⟨executable', rfl⟩ : ∃ executable', found' = .file data executable' := by
        cases found' <;> simp_all [Entry.plain]
      simp only
      split_ifs
      · exact Or.inl ⟨_, rfl, rfl⟩
      · exact Or.inr ⟨_, _, rfl, rfl, hremoved (by simp)⟩
    | link target =>
      obtain rfl : found' = .link target := by cases found' <;> simp_all [Entry.plain]
      simp only
      split_ifs
      · exact Or.inl ⟨_, rfl, rfl⟩
      · exact Or.inr ⟨_, _, rfl, rfl, hremoved (by simp)⟩

end Disk

end GoldenRun
