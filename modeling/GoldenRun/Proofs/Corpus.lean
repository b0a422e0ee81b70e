import GoldenRun.Corpus
import GoldenRun.Proofs.Disk.Making
import GoldenRun.Proofs.Text.Order
import GoldenRun.Proofs.Trial.Pipeline

/-!
# The tests that are found

A test is found exactly if its source is a regular file: cutting the name of an entry at its last
dot and putting an extension behind the name of a test are inverse to each other. Tests are found in
the order of the bytes of their names, each of them once.
-/

namespace GoldenRun

namespace Path

variable {name stem extension : String}

theorem splitName_of_not_mem (h : '.' ∉ name.toList) : splitName name = (name, none) := by
  have hall : name.toList.reverse.takeWhile (· != '.') = name.toList.reverse := by
    apply List.takeWhile_eq_self_iff.mpr
    intro c hc
    have hne : c ≠ '.' := by
      rintro rfl
      exact h (List.mem_reverse.mp hc)
    simpa using hne
  unfold splitName
  simp [hall]

theorem splitName_of_last {before after : List Char} (h : name.toList = before ++ '.' :: after)
    (hlast : '.' ∉ after) :
    splitName name = if before = [] ∨ name = ".." then (name, none)
      else (String.ofList before, some (String.ofList after)) := by
  have hafter : name.toList.reverse.takeWhile (· != '.') = after.reverse := by
    have hreverse : name.toList.reverse = after.reverse ++ '.' :: before.reverse := by simp [h]
    rw [hreverse, List.takeWhile_append_of_pos]
    · simp
    · intro c hc
      have hne : c ≠ '.' := by
        rintro rfl
        exact hlast (List.mem_reverse.mp hc)
      simpa using hne
  have hbefore : name.toList.take (name.toList.length - after.length) = before ++ ['.'] := by
    have htext : name.toList = (before ++ ['.']) ++ after := by simp [h]
    rw [htext]
    exact List.take_left' (by simp; omega)
  unfold splitName
  simp only [hafter, List.reverse_reverse, hbefore, List.dropLast_concat]
  cases before <;> simp

theorem splitName_eq_iff : splitName name = (stem, some extension) ↔
    name = stem ++ "." ++ extension ∧ stem ≠ "" ∧ '.' ∉ extension.toList ∧ name ≠ ".." := by
  constructor
  · intro hsplit
    by_cases hdot : '.' ∈ name.toList
    · obtain ⟨after, before, hname, hlast⟩ :=
        List.eq_append_cons_of_mem (List.mem_reverse.mpr hdot)
      have htext : name.toList = before.reverse ++ '.' :: after.reverse := by
        rw [← List.reverse_reverse name.toList, hname]
        simp
      rw [splitName_of_last htext (by simpa using hlast)] at hsplit
      split_ifs at hsplit with hcut
      · simp at hsplit
      · simp only [Prod.mk.injEq, Option.some.injEq] at hsplit
        obtain ⟨rfl, rfl⟩ := hsplit
        refine ⟨?_, ?_, by simpa using hlast, fun he => hcut (Or.inr he)⟩
        · rw [← String.toList_inj]
          simp [htext]
        · intro he
          exact hcut (Or.inl (by simpa using congrArg String.toList he))
    · rw [splitName_of_not_mem hdot] at hsplit
      simp at hsplit
  · rintro ⟨hname, hstem, hlast, hup⟩
    have htext : name.toList = stem.toList ++ '.' :: extension.toList := by simp [hname]
    rw [splitName_of_last htext hlast, if_neg]
    · simp
    · simp [hstem, hup]

end Path

namespace Disk

variable {disk : Disk} {base : Path} {name : String}

theorem nodup_children (disk : Disk) (directory : Place) : (disk.children directory).Nodup := by
  have hplaces : disk.children directory =
      (disk.entries.map Prod.fst).filterMap (childName? directory) := by
    rw [List.filterMap_map]
    rfl
  rw [hplaces]
  apply List.Nodup.filterMap _ disk.nodup
  intro place place' child hchild hchild'
  rw [Option.mem_def, childName?_eq_some_iff] at hchild hchild'
  rw [hchild, hchild']

theorem isName_of_mem_children {place : Place} {child : String}
    (hnames : ∀ entry ∈ disk.entries, ∀ segment ∈ entry.1, Path.IsName segment)
    (h : child ∈ disk.children place) : Path.IsName child := by
  obtain ⟨entry, hentry, hlast⟩ := List.mem_filterMap.mp h
  have hplace := childName?_eq_some_iff.mp hlast
  exact hnames entry hentry child (by simp [hplace])

theorem textFault?_eq_none_iff {path : Path} :
    textFault? path = none ↔
      '\x00' ∉ path.toList ∧ path.utf8ByteSize ≤ pathLimit ∧ path ≠ "" := by
  unfold textFault?
  split_ifs with hzero hlong hblank
  · simp [hzero]
  · simp [hlong]
  · simp [hblank]
  · simp [hzero, hblank, le_of_not_gt hlong]

theorem textFault?_of_join (h : Path.IsName name) (hbase : base ≠ "")
    (htext : textFault? (base.join name) = none) : textFault? base = none := by
  obtain ⟨rest, hrest⟩ : ∃ rest, base.join name = base ++ rest := by
    rcases Path.toList_join base h with ⟨hnil, -⟩ | ⟨front, hfront, hjoin⟩ | ⟨-, hjoin⟩
    · exact absurd (String.toList_eq_nil_iff.mp hnil) hbase
    · exact ⟨name, String.toList_inj.mp (by simp [hfront, hjoin])⟩
    · exact ⟨"/" ++ name, String.toList_inj.mp (by simp [hjoin])⟩
  rw [hrest, textFault?_eq_none_iff] at htext
  obtain ⟨hzero, hlong, -⟩ := htext
  rw [textFault?_eq_none_iff]
  refine ⟨fun hmem => hzero (by simp [hmem]), ?_, hbase⟩
  rw [String.utf8ByteSize_append] at hlong
  omega

theorem exists_child_of_isFile (h : Path.IsName name) (hbase : base ≠ "")
    (hfile : disk.isFile (base.join name) = true) :
    ∃ place, disk.resolve true base = .ok (.entry place .directory) ∧
      name ∈ disk.children place := by
  obtain ⟨found, data, executable, hresolve⟩ := isFile_iff.mp hfile
  unfold resolve at hresolve
  obtain ⟨htext, hwalk⟩ := resolveAlong_eq_ok hresolve
  rw [Path.route_join h] at hwalk
  have hstart : disk.start (base.join name) = disk.start base := by
    simp [start, Path.isAbsolute_join h]
  rw [hstart] at hwalk
  -- The walk to the file has first come to the directory, and its last step is the name.
  obtain ⟨left, top, hleads, hlast⟩ := exists_leads_of_walk (by simp) hwalk
  refine ⟨top, resolve_directory_iff.mpr ⟨textFault?_of_join h hbase htext, left, hleads⟩, ?_⟩
  rw [mem_children_iff, Option.isSome_iff_ne_none]
  intro hnone
  by_cases hshort : name.utf8ByteSize > nameLimit
  · rw [walk, if_neg h.ne_here, if_neg h.ne_up, if_pos hshort] at hlast
    contradiction
  · rw [walk_of_at?_none h.ne_here h.ne_up hshort hnone, if_pos rfl] at hlast
    simp at hlast

theorem find?_of_walk {path : Path} {place start : Place} {segments : List String} {found : Entry}
    (htext : textFault? path = none) (hroute : path.route = segments)
    (hstart : disk.start path = start)
    (hwalk : disk.walk true linkLimit start segments = .ok (.entry place found)) :
    disk.find? path = some (place, found) :=
  find?_eq_some_iff.mpr (resolve_of_walk htext hroute hstart hwalk)

end Disk

namespace Corpus

variable {disk : Disk} {directory : Path} {entry name category : String}

/-- The source of a test is an entry that bears its name and the extension of sources. -/
theorem testOf?_eq_some_iff : testOf? disk directory entry = some name ↔
    entry = name ++ ".s" ∧ name ≠ "" ∧ disk.isFile (directory.join entry) = true := by
  have hcut : (Path.extension? entry = some sourceExtension ∧ Path.stem entry = name) ↔
      entry = name ++ ".s" ∧ name ≠ "" := by
    have hsplit : (Path.extension? entry = some sourceExtension ∧ Path.stem entry = name) ↔
        Path.splitName entry = (name, some sourceExtension) := by
      rw [Prod.ext_iff, and_comm]
      rfl
    have hlast : '.' ∉ sourceExtension.toList := by decide
    have hdots : name ++ ".s" ≠ ".." := by
      intro he
      have hreverse := congrArg (fun text : String => text.toList.reverse.head?) he
      simp at hreverse
    rw [hsplit, Path.splitName_eq_iff, String.append_assoc]
    constructor
    · rintro ⟨hentry, hname, -, -⟩
      exact ⟨hentry, hname⟩
    · rintro ⟨rfl, hname⟩
      exact ⟨rfl, hname, hlast, hdots⟩
  unfold testOf?
  split_ifs with hsource
  · rw [Option.some_inj, ← and_assoc, ← hcut]
    simp [hsource]
  · rw [← and_assoc, ← hcut]
    constructor
    · intro h
      contradiction
    · rintro ⟨⟨hextension, -⟩, hfile⟩
      exact absurd ⟨hfile, hextension⟩ hsource

theorem nodup_filterMap_testOf? (disk : Disk) (directory : Path) (place : Place) :
    ((disk.children place).filterMap (testOf? disk directory)).Nodup := by
  apply List.Nodup.filterMap _ (disk.nodup_children place)
  intro entry entry' name hentry hentry'
  rw [Option.mem_def, testOf?_eq_some_iff] at hentry hentry'
  rw [hentry.1, hentry'.1]

theorem pairwise_lt_mergeSort {names : List String} (h : names.Nodup) :
    (names.mergeSort fun a b => decide (a ≤ b)).Pairwise (· < ·) := by
  have hsorted : (names.mergeSort fun a b => decide (a ≤ b)).Pairwise
      fun a b => decide (a ≤ b) = true :=
    List.pairwise_mergeSort (by simpa using fun a b c => le_trans) (by simpa using le_total) names
  have hnodup := (List.mergeSort_perm names fun a b => decide (a ≤ b)).nodup_iff.mpr h
  apply (hsorted.and hnodup).imp
  rintro a b ⟨hle, hne⟩
  exact lt_of_le_of_ne (by simpa using hle) hne

/-- A discovery lists the sources among the entries of a directory, in order. A directory that is
not there has none. -/
theorem exists_discover (disk : Disk) (directory : Path) :
    ∃ names, discover disk directory = .ok names ∧
      (∀ name, name ∈ names ↔ name ≠ "" ∧ disk.isFile (directory.join (name ++ ".s")) = true ∧
        ∃ place, disk.resolve true directory = .ok (.entry place .directory) ∧
          name ++ ".s" ∈ disk.children place) ∧
      names.Pairwise (· < ·) := by
  by_cases hdirectory : disk.isDirectory directory = true
  · obtain ⟨place, hresolve⟩ := Disk.isDirectory_iff.mp hdirectory
    have hlist : disk.list directory = .ok (disk.children place) := by
      unfold Disk.list
      rw [hresolve]
    refine ⟨_, ?_, ?_, pairwise_lt_mergeSort (nodup_filterMap_testOf? disk directory place)⟩
    · unfold discover
      rw [if_pos hdirectory, hlist]
    · intro name
      rw [List.mem_mergeSort, List.mem_filterMap]
      constructor
      · rintro ⟨entry, hentry, htest⟩
        obtain ⟨rfl, hname, hfile⟩ := testOf?_eq_some_iff.mp htest
        exact ⟨hname, hfile, place, hresolve, hentry⟩
      · rintro ⟨hname, hfile, place', hresolve', hentry⟩
        obtain rfl : place = place' := by simpa [hresolve] using hresolve'
        exact ⟨_, hentry, testOf?_eq_some_iff.mpr ⟨rfl, hname, hfile⟩⟩
  · refine ⟨[], ?_, ?_, .nil⟩
    · unfold discover
      rw [if_neg hdirectory]
    · intro name
      constructor
      · intro hmem
        contradiction
      · rintro ⟨-, -, place, hresolve, -⟩
        exact absurd (Disk.isDirectory_iff.mpr ⟨place, hresolve⟩) hdirectory

theorem assemblyDirectory_ne_empty (root : Path) (category : String) :
    Trial.assemblyDirectory root category ≠ "" := by
  intro he
  have hne := Path.join_ne_nil (Trial.resources root category) Trial.Part.source.isName_shelf
  exact hne (congrArg String.toList he)

/-- A name without a separator is accepted, unless it is blank or names a directory. -/
theorem flaw?_eq_none (hblank : name ≠ "") (hhere : name ≠ ".") (hup : name ≠ "..")
    (hslash : '/' ∉ name.toList) (hback : '\\' ∉ name.toList) : Trial.flaw? name = none := by
  have hseparator : name.toList.any Trial.isSeparator = false := by
    rw [List.any_eq_false]
    intro c hc
    have hslash' : c ≠ '/' := by
      rintro rfl
      exact hslash hc
    have hback' : c ≠ '\\' := by
      rintro rfl
      exact hback hc
    simp [Trial.isSeparator, hslash', hback']
  simp [Trial.flaw?, hblank, hhere, hup, hseparator]

/-- What is found is what can be made a test of. A name that is accepted is found exactly if the
source of its test is a regular file. Names are found in the order of their bytes, and so each of
them once. Those that are rejected name a directory or hold the separator of another system. -/
theorem discover_iff_source {disk : Disk}
    (hnames : ∀ entry ∈ disk.entries, ∀ segment ∈ entry.1, Path.IsName segment)
    (root : Path) (category : String) :
    ∃ names, discover disk (Trial.assemblyDirectory root category) = .ok names ∧
      (∀ name, Trial.checkName category name = .ok () →
        (name ∈ names ↔ disk.isFile (Trial.Files.locate root category name).source = true)) ∧
      names.Pairwise (fun a b => Utf8.encode a.toList < Utf8.encode b.toList) ∧
      names.Nodup ∧
      (Trial.flaw? category = none →
        ∀ name ∈ names, Trial.checkName category name ≠ .ok () →
          name = "." ∨ name = ".." ∨ '\\' ∈ name.toList) := by
  obtain ⟨names, hdiscover, hmem, hsorted⟩ :=
    exists_discover disk (Trial.assemblyDirectory root category)
  refine ⟨names, hdiscover, ?_, ?_, ?_, ?_⟩
  · intro name hcheck
    have hname := Path.isName_of_flaw? (Trial.checkName_eq_ok_iff.mp hcheck).2
    have hentry : Path.IsName (name ++ ".s") := hname.append (by decide) (by decide)
    rw [hmem]
    constructor
    · rintro ⟨-, hfile, -⟩
      exact hfile
    · intro hfile
      exact ⟨hname.ne_empty, hfile,
        Disk.exists_child_of_isFile hentry (assemblyDirectory_ne_empty root category) hfile⟩
  · apply hsorted.imp
    intro a b hlt
    exact Utf8.encode_lt_encode (String.lt_iff_toList_lt.mp hlt)
  · apply hsorted.imp
    intro a b hlt
    exact ne_of_lt hlt
  · intro hcategory name hfound hreject
    obtain ⟨hblank, -, place, -, hchild⟩ := (hmem name).mp hfound
    have hslash : '/' ∉ name.toList := by
      intro hmem
      exact (Disk.isName_of_mem_children hnames hchild).not_mem (by simp [hmem])
    by_contra hother
    simp only [not_or] at hother
    obtain ⟨hhere, hup, hback⟩ := hother
    apply hreject
    rw [Trial.checkName_eq_ok_iff]
    exact ⟨hcategory, flaw?_eq_none hblank hhere hup hslash hback⟩

/-- A directory with a source whose name has two dots, a link to it, a directory that is named like
a source, and a name that is nothing but the extension. -/
def sampleSources : Disk where
  home := []
  entries :=
    [(["c"], .directory), (["c", "testResources"], .directory),
      (["c", "testResources", "assembly"], .directory),
      (["c", "testResources", "assembly", "a.b.s"], .file [] false),
      (["c", "testResources", "assembly", "t.s"], .link "a.b.s"),
      (["c", "testResources", "assembly", "u.s"], .directory),
      (["c", "testResources", "assembly", ".s"], .file [] false)]
  nodup := by decide

theorem discover_iff_source_sample : ∃ names,
    discover sampleSources (Trial.assemblyDirectory "" "c") = .ok names ∧
      "a.b" ∈ names ∧ "t" ∈ names ∧ "u" ∉ names ∧ names.Nodup := by
  have hnames : ∀ entry ∈ sampleSources.entries, ∀ segment ∈ entry.1, Path.IsName segment := by
    have hflaws : ∀ entry ∈ sampleSources.entries, ∀ segment ∈ entry.1,
        Trial.flaw? segment = none := by decide
    intro entry hentry segment hsegment
    exact Path.isName_of_flaw? (hflaws entry hentry segment hsegment)
  obtain ⟨names, hdiscover, hmem, -, hnodup, -⟩ := discover_iff_source hnames "" "c"
  have hsource : ∀ name place found,
      sampleSources.find? (Trial.Files.locate "" "c" name).source = some (place, found) →
      Trial.checkName "c" name = .ok () →
      (name ∈ names ↔ ∃ data mode, found = .file data mode) := by
    intro name place found hfind hcheck
    rw [hmem name hcheck]
    unfold Disk.isFile
    rw [hfind]
    cases found <;> simp
  refine ⟨names, hdiscover, ?_, ?_, ?_, hnodup⟩
  · rw [hsource "a.b" ["c", "testResources", "assembly", "a.b.s"] (.file [] false)
      (Disk.find?_of_walk (by decide) (by decide : _ = ["c", "testResources", "assembly", "a.b.s"])
        (by decide : _ = []) (by cbv)) (by decide)]
    exact ⟨_, _, rfl⟩
  · rw [hsource "t" ["c", "testResources", "assembly", "a.b.s"] (.file [] false)
      (Disk.find?_of_walk (by decide) (by decide : _ = ["c", "testResources", "assembly", "t.s"])
        (by decide : _ = []) (by cbv)) (by decide)]
    exact ⟨_, _, rfl⟩
  · rw [hsource "u" ["c", "testResources", "assembly", "u.s"] .directory
      (Disk.find?_of_walk (by decide) (by decide : _ = ["c", "testResources", "assembly", "u.s"])
        (by decide : _ = []) (by cbv)) (by decide)]
    simp

end Corpus

end GoldenRun
