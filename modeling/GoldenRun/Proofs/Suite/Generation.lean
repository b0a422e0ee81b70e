import GoldenRun.Proofs.Corpus
import GoldenRun.Proofs.Disk.Tree
import GoldenRun.Suite.Generation

/-!
# Listings that are kept up to date

A generation that succeeds leaves the listing of the tests that are found in its file. Apart from
that, it has made directories on the way to the file that were missing. The file and these
directories are no sources, so a second generation finds the same tests and has nothing to write.

There is one exception. A path that turns back may lead nowhere until a directory is made, and lead
over it to a directory that was there all the time. Its sources are found only the second time.
-/

namespace GoldenRun

namespace Path

/-- The paths above that of a file, the longest first. -/
def parents (output : Path) : List Path :=
  match output.directory? with
  | none => []
  | some directory => Disk.lineage directory

end Path

namespace Corpus

variable {before after : Disk} {directory : Path} {target : Place} {made : Set Place}
  {name : String}

/-- A test is found by an entry of its directory that is a file. -/
def IsSource (disk : Disk) (directory : Path) (name : String) : Prop :=
  disk.isFile (directory.join (name ++ ".s")) = true ∧
    ∃ place, disk.resolve true directory = .ok (.entry place .directory) ∧
      name ++ ".s" ∈ disk.children place

/-- A source that is found after directories have been made and a file has been written was there
before, unless it is that file, or the way to it has been opened. -/
theorem IsSource.earlier (htree : before.IsTree) (hvaries : Disk.Varies {target} made before after)
    (hmade : ∀ place ∈ made, ∀ name ∈ place.getLast?, Path.IsName name)
    (hapart : ∀ place, after.resolve true directory = .ok (.entry place .directory) →
      target ≠ place ++ [name ++ ".s"])
    (hopen : ∀ place, after.resolve true directory = .ok (.entry place .directory) →
      before.at? place = some .directory → before.isDirectory directory = true)
    (h : IsSource after directory name) : IsSource before directory name := by
  obtain ⟨hfile, place, hresolve, hchild⟩ := h
  have hlinkless := hvaries.linkless htree.linkless
  -- The entry has a name of its own, as old entries and new directories have.
  obtain ⟨entry, hat⟩ := Option.isSome_iff_exists.mp (Disk.mem_children_iff.mp hchild)
  rcases hvaries.entries (place ++ [name ++ ".s"]) with hsame | ⟨hmem, -⟩ | ⟨hmem, -, hnew⟩
  · rw [hsame] at hat
    have hname := htree.isName_of_at? hat
    obtain ⟨htext, hshort, hentry⟩ := (Disk.isFile_join_iff hlinkless hname hresolve).mp hfile
    rw [hsame] at hentry
    obtain ⟨place', hresolve'⟩ :=
      Disk.isDirectory_iff.mp (hopen place hresolve (htree.rooted _ _ _ hat))
    obtain ⟨htext', harrives⟩ := Disk.resolve_directory_iff.mp hresolve'
    obtain rfl : place' = place :=
      (hvaries.arrives harrives).unique (Disk.resolve_directory_iff.mp hresolve).2
    refine ⟨(Disk.isFile_join_iff htree.linkless hname hresolve').mpr ⟨htext, hshort, hentry⟩,
      place', hresolve', ?_⟩
    rw [Disk.mem_children_iff, hat]
    rfl
  · exact absurd (Set.mem_singleton_iff.mp hmem).symm (hapart place hresolve)
  · have hname : Path.IsName (name ++ ".s") := hmade _ hmem _ (by simp)
    obtain ⟨-, -, data, executable, hentry⟩ :=
      (Disk.isFile_join_iff hlinkless hname hresolve).mp hfile
    rw [hnew] at hentry
    simp at hentry

theorem IsSource.later (htree : before.IsTree) (hvaries : Disk.Varies {target} made before after)
    (hapart : ∀ place, after.resolve true directory = .ok (.entry place .directory) →
      target ≠ place ++ [name ++ ".s"])
    (h : IsSource before directory name) : IsSource after directory name := by
  obtain ⟨hfile, place, hresolve, hchild⟩ := h
  obtain ⟨entry, hat⟩ := Option.isSome_iff_exists.mp (Disk.mem_children_iff.mp hchild)
  have hname := htree.isName_of_at? hat
  obtain ⟨htext, hshort, data, executable, hentry⟩ :=
    (Disk.isFile_join_iff htree.linkless hname hresolve).mp hfile
  obtain ⟨htext', harrives⟩ := Disk.resolve_directory_iff.mp hresolve
  have hresolve' : after.resolve true directory = .ok (.entry place .directory) :=
    Disk.resolve_directory_iff.mpr ⟨htext', hvaries.arrives harrives⟩
  have hsame : after.at? (place ++ [name ++ ".s"]) = before.at? (place ++ [name ++ ".s"]) := by
    rcases hvaries.entries (place ++ [name ++ ".s"]) with hsame | ⟨hmem, -⟩ | ⟨-, hnone, -⟩
    · exact hsame
    · exact absurd (Set.mem_singleton_iff.mp hmem).symm (hapart place hresolve')
    · rw [hnone] at hentry
      contradiction
  refine ⟨(Disk.isFile_join_iff (hvaries.linkless htree.linkless) hname hresolve').mpr
    ⟨htext, hshort, data, executable, hsame.trans hentry⟩, place, hresolve', ?_⟩
  rw [Disk.mem_children_iff, hsame, hat]
  rfl

theorem discover_congr
    (h : ∀ name, IsSource after directory name ↔ IsSource before directory name) :
    discover after directory = discover before directory := by
  obtain ⟨names, hnames, hmem, hsorted⟩ := exists_discover before directory
  obtain ⟨names', hnames', hmem', hsorted'⟩ := exists_discover after directory
  have hsame : names' = names := by
    apply hsorted'.eq_of_mem_iff hsorted
    intro name
    rw [hmem', hmem]
    exact and_congr_right fun _ => h name
  rw [hnames, hnames', hsame]

end Corpus

namespace Suite

/-- A path leads to a source, or to where one would be, directly in a directory. -/
def NamesSource (disk : Disk) (directory output : Path) : Prop :=
  ∃ place stem, disk.resolve true directory = .ok (.entry place .directory) ∧
    disk.site? output = some (place ++ [stem ++ ".s"])

/-- A path that led to no directory has come to lead to one that was there before. -/
def Surfaces (before after : Disk) (directory : Path) : Prop :=
  before.isDirectory directory = false ∧
    ∃ place, after.resolve true directory = .ok (.entry place .directory) ∧
      before.at? place = some .directory

/-- The listing of the tests that were found is in its file. Apart from that, nothing has changed
but paths above the file that were missing and lead to directories now. A file that held the listing
already has not been written. -/
structure Listed (before : Disk) (directory output : Path) (category : String) (count : ℕ)
    (after : Disk) (written : Bool) : Prop where
  listing : ∃ names listing, Corpus.discover before directory = .ok names ∧
    render category names = .ok listing ∧ count = names.length ∧
    after.read output = .ok (Utf8.encode listing.toList) ∧
    (before.read output = .ok (Utf8.encode listing.toList) → after = before ∧ written = false)
  changed : ∀ place, after.at? place ≠ before.at? place →
    after.site? output = some place ∨
    (before.at? place = none ∧ after.at? place = some .directory ∧
      ∃ parent ∈ output.parents, after.resolve true parent = .ok (.entry place .directory))

variable {disk before after : Disk} {directory output : Path} {category listing : String}
  {names : List String} {written : Bool} {count : ℕ}

theorem holds_eq_true_iff :
    holds disk output listing = true ↔ disk.read output = .ok (Utf8.encode listing.toList) := by
  rw [← Disk.readText_eq_ok_iff]
  unfold holds
  cases disk.readText output <;> simp

theorem exists_resolve_of_writeListing (h : writeListing disk output listing = (.ok (), after)) :
    ∃ place executable, Disk.Varies {place} (after.reached output.parents) disk after ∧
      after.resolve true output =
        .ok (.entry place (.file (Utf8.encode listing.toList) executable)) := by
  unfold writeListing at h
  unfold Path.parents
  cases hparent : output.directory? with
  | none =>
    rcases hwrite : disk.write output (Utf8.encode listing.toList) with ⟨fault | _, later⟩ <;>
      simp only [hparent, hwrite] at h
    · simp at h
    · obtain rfl : later = after := by simpa using h
      obtain ⟨place, executable, hvaries, hresolve⟩ := Disk.exists_resolve_of_write hwrite
      exact ⟨place, executable, hvaries.mono le_rfl (Set.empty_subset _), hresolve⟩
  | some parent =>
    rcases hmake : disk.makeDirectories parent with ⟨fault | _, made⟩ <;>
      simp only [hparent, hmake] at h
    · simp at h
    rcases hwrite : made.write output (Utf8.encode listing.toList) with ⟨fault | _, later⟩ <;>
      simp only [hwrite] at h
    · simp at h
    · obtain rfl : later = after := by simpa using h
      have hmade := Disk.makes_makeLineage disk (Disk.lineage parent)
      rw [show disk.makeLineage (Disk.lineage parent) = (.ok (), made) from hmake] at hmade
      obtain ⟨place, executable, hvaries, hresolve⟩ := Disk.exists_resolve_of_write hwrite
      have hreached := Disk.reached_subset hvaries.home hvaries.keepsWays
        (List.Subset.refl (Disk.lineage parent))
      exact ⟨place, executable, (hmade.mono le_rfl hreached).then_files hvaries, hresolve⟩

theorem generate_eq_ok (h : generate disk directory output category = ⟨.ok count, after, written⟩) :
    ∃ names listing, Corpus.discover disk directory = .ok names ∧
      render category names = .ok listing ∧ count = names.length ∧
      (disk.read output = .ok (Utf8.encode listing.toList) ∧ after = disk ∧ written = false ∨
        disk.read output ≠ .ok (Utf8.encode listing.toList) ∧
        ∃ place executable, Disk.Varies {place} (after.reached output.parents) disk after ∧
          after.resolve true output =
            .ok (.entry place (.file (Utf8.encode listing.toList) executable))) := by
  unfold generate at h
  cases hnames : Corpus.discover disk directory with
  | error failure => simp [hnames] at h
  | ok names =>
    cases hlisting : render category names with
    | error failure => simp [hnames, hlisting] at h
    | ok listing =>
      simp only [hnames, hlisting] at h
      refine ⟨names, listing, rfl, hlisting, ?_⟩
      split_ifs at h with hholds
      · obtain ⟨hcount, rfl, rfl⟩ := Generation.mk.inj h
        exact ⟨(Except.ok.inj hcount).symm, Or.inl ⟨holds_eq_true_iff.mp hholds, rfl, rfl⟩⟩
      · rcases hwrite : writeListing disk output listing with ⟨failure | _, later⟩
        · simp [hwrite] at h
        · simp only [hwrite] at h
          obtain ⟨hcount, rfl, -⟩ := Generation.mk.inj h
          exact ⟨(Except.ok.inj hcount).symm, Or.inr ⟨fun hread => hholds
            (holds_eq_true_iff.mpr hread), exists_resolve_of_writeListing hwrite⟩⟩

theorem generate_of_read (hnames : Corpus.discover disk directory = .ok names)
    (hlisting : render category names = .ok listing)
    (hread : disk.read output = .ok (Utf8.encode listing.toList)) :
    generate disk directory output category = ⟨.ok names.length, disk, false⟩ := by
  unfold generate
  simp only [hnames, hlisting, if_pos (holds_eq_true_iff.mpr hread)]

theorem listed_of_generate
    (h : generate disk directory output category = ⟨.ok count, after, written⟩) :
    Listed disk directory output category count after written := by
  obtain ⟨names, listing, hnames, hlisting, rfl, ⟨hread, rfl, rfl⟩ | ⟨hread, hwritten⟩⟩ :=
    generate_eq_ok h
  · exact ⟨⟨names, listing, hnames, hlisting, rfl, hread, fun _ => ⟨rfl, rfl⟩⟩,
      fun _ hne => absurd rfl hne⟩
  · obtain ⟨target, executable, hvaries, hresolve⟩ := hwritten
    refine ⟨⟨names, listing, hnames, hlisting, rfl, Disk.read_of_resolve hresolve,
      fun hread' => absurd hread' hread⟩, fun place hne => ?_⟩
    rcases hvaries.entries place with hsame | ⟨hmem, -⟩ | ⟨⟨-, hparent⟩, hnone, hmade⟩
    · exact absurd hsame hne
    · obtain rfl := Set.mem_singleton_iff.mp hmem
      exact Or.inl (by rw [Disk.site?, hresolve])
    · exact Or.inr ⟨hnone, hmade, hparent⟩

/-- A path comes to lead to an old directory only by turning back. -/
theorem Surfaces.turns_back {files directories : Set Place} (htree : disk.IsTree)
    (hvaries : Disk.Varies files directories disk after) (h : Surfaces disk after directory) :
    ".." ∈ directory.steps := by
  obtain ⟨hnot, place, hresolve, hat⟩ := h
  by_contra hup
  obtain ⟨htext, left, hleads⟩ := Disk.resolve_directory_iff.mp hresolve
  have hstart : after.start directory = disk.start directory := by
    simp [Disk.start, hvaries.home]
  rw [hstart] at hleads
  have hearlier := hleads.earlier (hvaries.linkless htree.linkless) htree.rooted hup hat
  have hresolve' := Disk.resolve_directory_iff.mpr ⟨htext, left, hearlier⟩
  rw [Disk.isDirectory_iff.mpr ⟨place, hresolve'⟩] at hnot
  contradiction

/-- What a generation has made and written is not found by the next one. -/
theorem discover_again {target : Place} {data : Bytes} {executable : Bool} (htree : disk.IsTree)
    (hvaries : Disk.Varies {target} (after.reached output.parents) disk after)
    (hresolve : after.resolve true output = .ok (.entry target (.file data executable)))
    (hapart : ¬NamesSource after directory output) (hopen : ¬Surfaces disk after directory) :
    Corpus.discover after directory = Corpus.discover disk directory := by
  have hsite : after.site? output = some target := by rw [Disk.site?, hresolve]
  have hother : ∀ name place, after.resolve true directory = .ok (.entry place .directory) →
      target ≠ place ++ [name ++ ".s"] := by
    rintro name place hplace rfl
    exact hapart ⟨place, name, hplace, hsite⟩
  have hstill : ∀ place, after.resolve true directory = .ok (.entry place .directory) →
      disk.at? place = some .directory → disk.isDirectory directory = true := by
    intro place hplace hat
    by_contra hnot
    exact hopen ⟨by simpa using hnot, place, hplace, hat⟩
  apply Corpus.discover_congr
  intro name
  constructor
  · intro h
    exact h.earlier htree hvaries (fun _ hmem => hmem.1) (hother name) hstill
  · intro h
    exact h.later htree hvaries (hother name)

/-- A failure to find the tests or to list them is the answer, and nothing has changed. A generation
that succeeds has left the listing in its file and has changed nothing else, but for directories
above it. Unless its file is found as a source, or the directory of the sources was out of reach
before and has been there all the time, the next generation has nothing to do. -/
theorem generate_settles (disk : Disk) (htree : disk.IsTree) (directory output : Path)
    (category : String) {answer : Except Failure ℕ} {after : Disk} {written : Bool}
    (hgenerate : generate disk directory output category = ⟨answer, after, written⟩) :
    (∀ failure, (Corpus.discover disk directory = .error failure ∨
        ∃ names, Corpus.discover disk directory = .ok names ∧
          render category names = .error failure) →
      answer = .error failure ∧ after = disk ∧ written = false) ∧
    ∀ count, answer = .ok count →
      Listed disk directory output category count after written ∧
      (Surfaces disk after directory → ".." ∈ directory.steps) ∧
      (¬NamesSource after directory output → ¬Surfaces disk after directory →
        generate after directory output category = ⟨.ok count, after, false⟩) := by
  constructor
  · rintro failure (hfailure | ⟨names, hnames, hfailure⟩)
    · unfold generate at hgenerate
      simp only [hfailure] at hgenerate
      obtain ⟨rfl, rfl, rfl⟩ := Generation.mk.inj hgenerate
      exact ⟨rfl, rfl, rfl⟩
    · unfold generate at hgenerate
      simp only [hnames, hfailure] at hgenerate
      obtain ⟨rfl, rfl, rfl⟩ := Generation.mk.inj hgenerate
      exact ⟨rfl, rfl, rfl⟩
  · rintro count rfl
    refine ⟨listed_of_generate hgenerate, ?_⟩
    obtain ⟨names, listing, hnames, hlisting, rfl, ⟨hread, rfl, -⟩ | ⟨-, hwritten⟩⟩ :=
      generate_eq_ok hgenerate
    · exact ⟨fun h => h.turns_back htree (.refl after : Disk.Varies ∅ ∅ after after),
        fun _ _ => generate_of_read hnames hlisting hread⟩
    · obtain ⟨target, executable, hvaries, hresolve⟩ := hwritten
      refine ⟨fun h => h.turns_back htree hvaries, fun hapart hopen => ?_⟩
      have hagain := (discover_again htree hvaries hresolve hapart hopen).trans hnames
      exact generate_of_read hagain hlisting (Disk.read_of_resolve hresolve)

def smallCorpus : Disk where
  home := []
  entries := [(["y"], .directory), (["y", "t.s"], .file [] false)]
  nodup := by decide

def grownCorpus (data : Bytes) : Disk where
  home := []
  entries :=
    [(["x", "out.rs"], .file data false), (["x"], .directory), (["y"], .directory),
      (["y", "t.s"], .file [] false)]
  nodup := by simp

theorem smallCorpus_isTree : smallCorpus.IsTree where
  names := by
    have hflaws : ∀ entry ∈ smallCorpus.entries, ∀ segment ∈ entry.1,
        Trial.flaw? segment = none := by decide
    intro entry hentry segment hsegment
    exact Path.isName_of_flaw? (hflaws entry hentry segment hsegment)
  rooted := Disk.rooted_of_entries (by decide)
  linkless := Disk.linkless_of_entries (by simp [smallCorpus])

theorem generate_smallCorpus (hnames : Corpus.discover smallCorpus directory = .ok names)
    (hlisting : render "c" names = .ok listing) :
    generate smallCorpus directory "x/out.rs" "c" =
      ⟨.ok names.length, grownCorpus (Utf8.encode listing.toList), true⟩ := by
  have hmissing : smallCorpus.resolve true "x/out.rs" = .error .missing :=
    Disk.resolve_of_walk (by decide) (by decide : _ = ["x", "out.rs"]) (by decide : _ = []) (by cbv)
  have hholds : holds smallCorpus "x/out.rs" listing = false := by
    simp [holds, Disk.readText, Disk.read, Disk.openFile, hmissing]
  have hvacant : smallCorpus.resolve false "x" = .ok (.vacant [] "x") :=
    Disk.resolve_of_walk (by decide) (by decide : _ = ["x"]) (by decide : _ = []) (by cbv)
  have hmake : smallCorpus.makeDirectory "x" = .ok (smallCorpus.put ["x"] .directory) := by
    unfold Disk.makeDirectory
    rw [show smallCorpus.resolveAlong false "x" (Path.steps "x") = .ok (.vacant [] "x") from
      hvacant]
    rfl
  have hlineage : Disk.lineage "x" = ["x", ""] := by decide
  have hmade : smallCorpus.makeDirectories "x" = (.ok (), smallCorpus.put ["x"] .directory) := by
    rw [Disk.makeDirectories, hlineage, Disk.makeLineage, if_neg (by decide), hmake]
  have hopen : (smallCorpus.put ["x"] .directory).resolve true "x/out.rs" =
      .ok (.vacant ["x"] "out.rs") :=
    Disk.resolve_of_walk (by decide) (by decide : _ = ["x", "out.rs"]) (by decide : _ = []) (by cbv)
  have hcreate : (smallCorpus.put ["x"] .directory).createFile "x/out.rs" =
      .ok (["x", "out.rs"], grownCorpus []) := by
    rw [Disk.createFile, if_neg (by decide), hopen]
    rfl
  have hwrite : ∀ data, (smallCorpus.put ["x"] .directory).write "x/out.rs" data =
      (.ok (), grownCorpus data) := by
    intro data
    rw [Disk.write, hcreate]
    rfl
  have hparent : Path.directory? "x/out.rs" = some "x" := by decide
  unfold generate writeListing
  simp only [hnames, hlisting, hholds, hparent, hmade, hwrite, Bool.false_eq_true, if_false]

theorem discover_of_place
    (hplace : disk.resolve true directory = .ok (.entry ["y"] .directory))
    (hchildren : disk.children ["y"] = ["t.s"])
    (hfile : disk.isFile (directory.join "t.s") = true) :
    Corpus.discover disk directory = .ok ["t"] := by
  have htest : Corpus.testOf? disk directory "t.s" = some "t" :=
    Corpus.testOf?_eq_some_iff.mpr ⟨rfl, by decide, hfile⟩
  unfold Corpus.discover
  rw [if_pos (Disk.isDirectory_iff.mpr ⟨_, hplace⟩), Disk.list, hplace]
  simp [hchildren, htest]

theorem not_namesSource_grownCorpus {data : Bytes}
    (hplace : (grownCorpus data).resolve true directory = .ok (.entry ["y"] .directory)) :
    ¬NamesSource (grownCorpus data) directory "x/out.rs" := by
  have hwalk : (grownCorpus data).walk true Disk.linkLimit [] ["x", "out.rs"] =
      .ok (.entry ["x", "out.rs"] (.file data false)) := by cbv
  have hat : (grownCorpus data).resolve true "x/out.rs" =
      .ok (.entry ["x", "out.rs"] (.file data false)) :=
    Disk.resolve_of_walk (by decide) (by decide) rfl hwalk
  rintro ⟨place, stem, hdirectory, hsite⟩
  obtain rfl : ["y"] = place := by simpa [hplace] using hdirectory
  simp [Disk.site?, hat] at hsite

/-- The source of the small corpus is listed, and the second generation has nothing to do. -/
theorem generate_settles_sample :
    generate smallCorpus "y" "x/out.rs" "c" =
      ⟨.ok 1, grownCorpus (Utf8.encode (text "c" ["t"]).toList), true⟩ ∧
    generate (grownCorpus (Utf8.encode (text "c" ["t"]).toList)) "y" "x/out.rs" "c" =
      ⟨.ok 1, grownCorpus (Utf8.encode (text "c" ["t"]).toList), false⟩ := by
  have hplace : smallCorpus.resolve true "y" = .ok (.entry ["y"] .directory) :=
    Disk.resolve_of_walk (by decide) (by decide : _ = ["y"]) (by decide : _ = []) (by cbv)
  have hfile : smallCorpus.find? "y/t.s" = some (["y", "t.s"], .file [] false) :=
    Disk.find?_of_walk (by decide) (by decide : _ = ["y", "t.s"]) (by decide : _ = []) (by cbv)
  have hnames : Corpus.discover smallCorpus "y" = .ok ["t"] :=
    discover_of_place hplace (by decide) (by
      rw [show Path.join "y" "t.s" = "y/t.s" by decide, Disk.isFile, hfile])
  have hfirst := generate_smallCorpus hnames (by rfl : render "c" ["t"] = .ok (text "c" ["t"]))
  have hwalk : ∀ data, (grownCorpus data).walk true Disk.linkLimit [] ["y"] =
      .ok (.entry ["y"] .directory) := fun data => by cbv
  obtain ⟨-, hok⟩ := generate_settles smallCorpus smallCorpus_isTree "y" "x/out.rs" "c" hfirst
  refine ⟨hfirst, (hok 1 rfl).2.2 ?_ ?_⟩
  · exact not_namesSource_grownCorpus
      (Disk.resolve_of_walk (by decide) (by decide) rfl (hwalk _))
  · rintro ⟨hnot, -⟩
    rw [Disk.isDirectory_iff.mpr ⟨_, hplace⟩] at hnot
    contradiction

/-- A directory that is reached by turning back in one that is missing has no sources. The directory
made for the listing opens the way, and the second generation finds the source and lists it. -/
theorem generate_surfaces : smallCorpus.IsTree ∧
    ¬NamesSource smallCorpus "x/../y" "x/out.rs" ∧
    generate smallCorpus "x/../y" "x/out.rs" "c" =
      ⟨.ok 0, grownCorpus (Utf8.encode (text "c" []).toList), true⟩ ∧
    ¬NamesSource (grownCorpus (Utf8.encode (text "c" []).toList)) "x/../y" "x/out.rs" ∧
    (generate (grownCorpus (Utf8.encode (text "c" []).toList)) "x/../y" "x/out.rs" "c").answer ≠
      .ok 0 := by
  have hmissing : smallCorpus.resolve true "x/../y" = .error .missing :=
    Disk.resolve_of_walk (by decide) (by decide : _ = ["x", "..", "y"]) (by decide : _ = [])
      (by cbv)
  have hnames : Corpus.discover smallCorpus "x/../y" = .ok [] := by
    unfold Corpus.discover
    rw [if_neg]
    rw [Disk.isDirectory_iff, hmissing]
    simp
  have hwalk : ∀ data, (grownCorpus data).walk true Disk.linkLimit [] ["x", "..", "y"] =
      .ok (.entry ["y"] .directory) := fun data => by cbv
  have hplace : ∀ data, (grownCorpus data).resolve true "x/../y" = .ok (.entry ["y"] .directory) :=
    fun data => Disk.resolve_of_walk (by decide) (by decide) rfl (hwalk data)
  have hwalk' : ∀ data, (grownCorpus data).walk true Disk.linkLimit [] ["x", "..", "y", "t.s"] =
      .ok (.entry ["y", "t.s"] (.file [] false)) := fun data => by cbv
  have hfile : ∀ data, (grownCorpus data).find? "x/../y/t.s" =
      some (["y", "t.s"], .file [] false) :=
    fun data => Disk.find?_of_walk (by decide) (by decide) rfl (hwalk' data)
  have hlater : ∀ data, Corpus.discover (grownCorpus data) "x/../y" = .ok ["t"] := by
    intro data
    refine discover_of_place (hplace data) (by rfl) ?_
    rw [show Path.join "x/../y" "t.s" = "x/../y/t.s" by decide, Disk.isFile, hfile]
  refine ⟨smallCorpus_isTree, ?_, generate_smallCorpus hnames (by rfl),
    not_namesSource_grownCorpus (hplace _), ?_⟩
  · rintro ⟨place, stem, hdirectory, -⟩
    simp [hmissing] at hdirectory
  · intro hzero
    obtain ⟨names, listing, hagain, -, hcount, -⟩ := generate_eq_ok
      (show generate _ _ _ _ = ⟨.ok 0, _, _⟩ from by rw [← hzero])
    rw [hlater] at hagain
    obtain rfl := Except.ok.inj hagain
    simp at hcount

end Suite

end GoldenRun
