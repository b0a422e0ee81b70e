import GoldenRun.Proofs.Corpus
import GoldenRun.Search

/-!
# The tool that is found

Of some directories, the first that offers a tool decides, and of the tools that it offers the one
whose name is the first in the order of bytes. The text of a directory is itself cut at colons, so
this holds of a search path, whose entries hold none, and of the root of a toolchain as long as its
path holds none.
-/

namespace GoldenRun

namespace Path

variable {base : Path} {name : String}

theorem Component.before_self (c : Component) : c.before c = false := by
  cases c <;> simp [before]

theorem precedes_append (front as bs : List Component) :
    precedes (front ++ as) (front ++ bs) = precedes as bs := by
  induction front with
  | nil => rfl
  | cons c front ih => simp [precedes, Component.before_self, ih]

theorem exists_least?_map_join (base : Path) {names : List String} (hne : names ≠ [])
    (hnames : ∀ name ∈ names, IsName name) :
    ∃ least ∈ names, least? (names.map base.join) = some (base.join least) ∧
      ∀ name ∈ names, least ≤ name := by
  induction names with
  | nil => exact absurd rfl hne
  | cons name rest ih =>
    have hrest : ∀ other ∈ rest, IsName other :=
      fun other hother => hnames other (List.mem_cons_of_mem name hother)
    rw [List.map_cons, least?]
    by_cases hnil : rest = []
    · subst hnil
      exact ⟨name, by simp, rfl, by simp⟩
    · obtain ⟨least, hmem, hleast, hle⟩ := ih hnil hrest
      have hprecedes : precedes (base.join least).components (base.join name).components =
          decide (least < name) := by
        rw [components_join (hrest least hmem), components_join (hnames name (by simp)),
          precedes_append]
        simp [precedes, Component.before]
      rw [hleast]
      simp only [hprecedes, decide_eq_true_eq]
      split_ifs with hlt
      · refine ⟨least, List.mem_cons_of_mem name hmem, rfl, ?_⟩
        rintro other (_ | ⟨_, hother⟩)
        · exact le_of_lt hlt
        · exact hle other hother
      · refine ⟨name, by simp, rfl, ?_⟩
        rintro other (_ | ⟨_, hother⟩)
        · exact le_rfl
        · exact (not_lt.mp hlt).trans (hle other hother)

@[simp]
theorem least?_eq_none_iff {paths : List Path} : least? paths = none ↔ paths = [] := by
  cases paths with
  | nil => simp [least?]
  | cons path rest =>
    rw [least?]
    cases least? rest <;> simp [ite_eq_iff]

theorem mem_of_least?_eq_some {paths : List Path} {path : Path} (h : least? paths = some path) :
    path ∈ paths := by
  induction paths with
  | nil => simp [least?] at h
  | cons first rest ih =>
    rw [least?] at h
    cases hleast : least? rest with
    | none => simp_all
    | some other =>
      rw [hleast] at h
      dsimp only at h
      split_ifs at h
      · exact List.mem_cons_of_mem _ (ih (hleast.trans h))
      · exact Option.some.inj h ▸ List.mem_cons_self

theorem mem_join {c : Char} (h : IsName name) (hc : c ∈ (join base name).toList) :
    c ∈ base.toList ∨ c = '/' ∨ c ∈ name.toList := by
  rcases toList_join base h with ⟨-, htext⟩ | ⟨front, hbase, htext⟩ | ⟨-, htext⟩ <;>
    rw [htext] at hc
  · exact Or.inr (Or.inr hc)
  · rw [hbase]
    simp at hc ⊢
    tauto
  · simpa using hc

theorem ofSearchPath_of_not_mem {path : Path} (h : ':' ∉ path.toList) :
    ofSearchPath path = [path] := by
  simp [ofSearchPath, pieces_of_not_mem h]

/-- The entries of a search path hold no colon. -/
theorem not_mem_of_mem_ofSearchPath {text : String} {path : Path} (h : path ∈ ofSearchPath text) :
    ':' ∉ path.toList := by
  obtain ⟨piece, hpiece, rfl⟩ := List.mem_map.mp h
  rw [String.toList_ofList]
  exact not_mem_of_mem_pieces hpiece

end Path

namespace Search

/-- A directory has an entry that leads to a regular file which may be executed, and whose name is
recognised. -/
structure Offers (disk : Disk) (pattern : ToolPattern) (directory : Path) (name : String) :
    Prop where
  listed : ∃ place, disk.resolve true directory = .ok (.entry place .directory) ∧
    name ∈ disk.children place
  executable : disk.isExecutable (directory.join name) = true
  recognised : pattern.recognises name = true

/-- A name that a directory offers is the first in the order of bytes. -/
structure OffersFirst (disk : Disk) (pattern : ToolPattern) (directory : Path) (name : String) :
    Prop where
  offers : Offers disk pattern directory name
  first : ∀ other, Offers disk pattern directory other →
    other = name ∨ Utf8.encode name.toList < Utf8.encode other.toList

/-- What a search in some directories comes to: the first tool of the first directory that offers
any, or a failure if none does. -/
inductive Finds (disk : Disk) (pattern : ToolPattern) (missing : Failure)
    (directories : List Path) : Except Failure Path → Prop
  | found {before directory after name} : directories = before ++ directory :: after →
      (∀ earlier ∈ before, ∀ other, ¬Offers disk pattern earlier other) →
      OffersFirst disk pattern directory name →
      Finds disk pattern missing directories (.ok (directory.join name))
  | none : (∀ directory ∈ directories, ∀ other, ¬Offers disk pattern directory other) →
      Finds disk pattern missing directories (.error missing)

def absence (search : Search) (tool : Tool) (pattern : ToolPattern) : Failure :=
  .toolMissing tool pattern.source search.describe search.searchVariable search.rootVariable

variable {disk : Disk} {pattern : ToolPattern} {directory : Path} {missing : Failure}
  {directories : List Path} {answer : Except Failure Path}

theorem Finds.eq_error_iff (h : Finds disk pattern missing directories answer) :
    answer = .error missing ↔
      ∀ directory ∈ directories, ∀ name, ¬Offers disk pattern directory name := by
  cases h with
  | found hdirectories _ hname =>
    constructor
    · intro herror
      contradiction
    · intro hnone
      exact absurd hname.offers (hnone _ (by simp [hdirectories]) _)
  | none hnone => exact ⟨fun _ => hnone, fun _ => rfl⟩

theorem exists_candidates_eq (disk : Disk) (pattern : ToolPattern) (directory : Path) :
    ∃ names : List String, candidates disk pattern directory = names.map directory.join ∧
      ∀ name, name ∈ names ↔ Offers disk pattern directory name := by
  unfold candidates Disk.list
  rcases hresolve : disk.resolve true directory with
    fault | (⟨place, _ | _ | _⟩ | ⟨above, vacant⟩)
  case ok.entry.directory =>
    refine ⟨_, rfl, fun name => ?_⟩
    simp only [List.mem_filter, Bool.and_eq_true]
    constructor
    · rintro ⟨hmem, hrecognised, hexecutable⟩
      exact ⟨⟨place, hresolve, hmem⟩, hexecutable, hrecognised⟩
    · rintro ⟨⟨place', hresolve', hmem⟩, hexecutable, hrecognised⟩
      obtain rfl : place = place' := by simpa [hresolve] using hresolve'
      exact ⟨hmem, hrecognised, hexecutable⟩
  all_goals
    refine ⟨[], rfl, fun name => ⟨fun hmem => absurd hmem List.not_mem_nil, ?_⟩⟩
    rintro ⟨⟨place', hresolve', -⟩, -, -⟩
    simp [hresolve] at hresolve'

theorem firstIn_eq_none_iff : firstIn disk pattern directory = none ↔
    ∀ piece ∈ Path.ofSearchPath directory, ∀ name, ¬Offers disk pattern piece name := by
  rw [firstIn, Path.least?_eq_none_iff, List.flatMap_eq_nil_iff]
  refine forall₂_congr fun piece _ => ?_
  obtain ⟨names, hcandidates, hoffers⟩ := exists_candidates_eq disk pattern piece
  rw [hcandidates, List.map_eq_nil_iff, List.eq_nil_iff_forall_not_mem]
  exact forall_congr' fun name => not_congr (hoffers name)

theorem exists_offers_of_firstIn {path : Path} (h : firstIn disk pattern directory = some path) :
    ∃ piece ∈ Path.ofSearchPath directory, ∃ name,
      Offers disk pattern piece name ∧ path = piece.join name := by
  obtain ⟨piece, hpiece, hpath⟩ := List.mem_flatMap.mp (Path.mem_of_least?_eq_some h)
  obtain ⟨names, hcandidates, hoffers⟩ := exists_candidates_eq disk pattern piece
  rw [hcandidates] at hpath
  obtain ⟨name, hname, rfl⟩ := List.mem_map.mp hpath
  exact ⟨piece, hpiece, name, (hoffers name).mp hname, rfl⟩

theorem firstIn_eq_none_iff_of_not_mem (hcolon : ':' ∉ directory.toList) :
    firstIn disk pattern directory = none ↔ ∀ name, ¬Offers disk pattern directory name := by
  rw [firstIn_eq_none_iff, Path.ofSearchPath_of_not_mem hcolon, List.forall_mem_singleton]

theorem exists_offersFirst_of_firstIn {path : Path}
    (hnames : ∀ entry ∈ disk.entries, ∀ segment ∈ entry.1, Path.IsName segment)
    (hcolon : ':' ∉ directory.toList) (h : firstIn disk pattern directory = some path) :
    ∃ name, path = directory.join name ∧ OffersFirst disk pattern directory name := by
  obtain ⟨names, hcandidates, hoffers⟩ := exists_candidates_eq disk pattern directory
  rw [firstIn, Path.ofSearchPath_of_not_mem hcolon, List.flatMap_singleton, hcandidates] at h
  have hne : names ≠ [] := by
    rintro rfl
    contradiction
  have hall : ∀ name ∈ names, Path.IsName name := by
    intro name hmem
    obtain ⟨place, -, hchild⟩ := ((hoffers name).mp hmem).listed
    exact Disk.isName_of_mem_children hnames hchild
  obtain ⟨least, hmem, hleast, hle⟩ := Path.exists_least?_map_join directory hne hall
  obtain rfl : path = directory.join least := Option.some.inj (h.symm.trans hleast)
  refine ⟨least, rfl, (hoffers least).mp hmem, fun other hother => ?_⟩
  rcases (hle other ((hoffers other).mpr hother)).eq_or_lt with heq | hlt
  · exact Or.inl heq.symm
  · exact Or.inr (Utf8.encode_lt_encode (String.lt_iff_toList_lt.mp hlt))

theorem locate_eq_error_iff {search : Search} {tool : Tool} :
    search.locate disk tool pattern = .error (search.absence tool pattern) ↔
      ∀ piece ∈ search.directories.flatMap Path.ofSearchPath, ∀ name,
        ¬Offers disk pattern piece name := by
  have hnone : search.directories.findSome? (firstIn disk pattern) = none ↔
      ∀ piece ∈ search.directories.flatMap Path.ofSearchPath, ∀ name,
        ¬Offers disk pattern piece name := by
    rw [List.findSome?_eq_none_iff, List.forall_mem_flatMap]
    exact forall₂_congr fun directory _ => firstIn_eq_none_iff
  rw [← hnone, locate]
  cases search.directories.findSome? (firstIn disk pattern) <;> simp [absence]

theorem exists_offers_of_locate {search : Search} {tool : Tool} {path : Path}
    (h : search.locate disk tool pattern = .ok path) :
    ∃ piece ∈ search.directories.flatMap Path.ofSearchPath, ∃ name,
      Offers disk pattern piece name ∧ path = piece.join name := by
  unfold locate at h
  cases hfound : search.directories.findSome? (firstIn disk pattern) with
  | none => simp [hfound] at h
  | some found =>
    rw [hfound] at h
    obtain rfl : found = path := Except.ok.inj h
    obtain ⟨directory, hmem, hfirst⟩ := List.exists_of_findSome?_eq_some hfound
    obtain ⟨piece, hpiece, hname⟩ := exists_offers_of_firstIn hfirst
    exact ⟨piece, List.mem_flatMap.mpr ⟨directory, hmem, hpiece⟩, hname⟩

/-- A search in directories without a colon in their paths tries them in turn. -/
theorem finds_locate {search : Search} (tool : Tool)
    (hnames : ∀ entry ∈ disk.entries, ∀ segment ∈ entry.1, Path.IsName segment)
    (hdirectories : ∀ directory ∈ search.directories, directory ≠ "" ∧ ':' ∉ directory.toList) :
    Finds disk pattern (search.absence tool pattern) search.directories
      (search.locate disk tool pattern) := by
  have hnone : ∀ directory ∈ search.directories, firstIn disk pattern directory = none →
      ∀ name, ¬Offers disk pattern directory name := fun directory hmem =>
    (firstIn_eq_none_iff_of_not_mem (hdirectories directory hmem).2).mp
  unfold locate
  cases hfound : search.directories.findSome? (firstIn disk pattern) with
  | none =>
    rw [List.findSome?_eq_none_iff] at hfound
    exact .none fun directory hmem => hnone directory hmem (hfound directory hmem)
  | some path =>
    obtain ⟨before, directory, after, hsplit, hpath, hbefore⟩ :=
      List.findSome?_eq_some_iff.mp hfound
    obtain ⟨-, hcolon⟩ := hdirectories directory (by simp [hsplit])
    obtain ⟨name, rfl, hname⟩ := exists_offersFirst_of_firstIn hnames hcolon hpath
    exact .found hsplit
      (fun earlier hmem => hnone earlier (by simp [hsplit, hmem]) (hbefore earlier hmem)) hname

theorem directories_new_of_root_blank {settings : ToolchainSettings} {searchPath : Option String}
    {root : Option Path} (hroot : root = none ∨ root = some "") :
    (new settings searchPath root).directories =
      (Path.ofSearchPath (searchPath.getD "")).filter (· != "") := by
  have hnone : root.filter (· != "") = none := by
    rcases hroot with rfl | rfl <;> rfl
  simp only [directories, new, hnone]
  rcases searchPath with _ | text
  · rfl
  · by_cases hblank : text = ""
    · subst hblank
      rfl
    · simp [Option.filter, hblank]

/-- Without a root, the entries of the search path that are not blank are tried in turn: the first
that offers a tool decides, with the first of the names that it offers, and if none offers any, the
search fails. -/
theorem locate_on_search_path (settings : ToolchainSettings) (searchPath : Option String)
    {root : Option Path} (tool : Tool) (pattern : ToolPattern)
    (hnames : ∀ entry ∈ disk.entries, ∀ segment ∈ entry.1, Path.IsName segment)
    (hroot : root = none ∨ root = some "") :
    let search := new settings searchPath root
    let entries := (Path.ofSearchPath (searchPath.getD "")).filter (· != "")
    Finds disk pattern (search.absence tool pattern) entries (search.locate disk tool pattern) ∧
      (search.locate disk tool pattern = .error (search.absence tool pattern) ↔
        ∀ entry ∈ entries, ∀ name, ¬Offers disk pattern entry name) := by
  intro search entries
  have hdirectories : search.directories = entries := directories_new_of_root_blank hroot
  have hfinds : Finds disk pattern (search.absence tool pattern) entries
      (search.locate disk tool pattern) := by
    rw [← hdirectories]
    refine finds_locate tool hnames fun directory hmem => ?_
    rw [hdirectories, List.mem_filter, bne_iff_ne] at hmem
    exact ⟨hmem.2, Path.not_mem_of_mem_ofSearchPath hmem.1⟩
  exact ⟨hfinds, hfinds.eq_error_iff⟩

/-- A file that may be executed behind one that may not, and a directory whose name lists the
directories of both. -/
def sampleShelves : Disk where
  home := []
  entries :=
    [(["a"], .directory), (["a", "as"], .file [] false), (["b"], .directory),
      (["b", "as"], .file [] true), (["a:b"], .directory), (["a:b", "as"], .file [] true)]
  nodup := by decide

theorem isName_sampleShelves :
    ∀ entry ∈ sampleShelves.entries, ∀ segment ∈ entry.1, Path.IsName segment := by
  have hflaws : ∀ entry ∈ sampleShelves.entries, ∀ segment ∈ entry.1,
      Trial.flaw? segment = none := by decide
  exact fun entry hentry segment hsegment =>
    Path.isName_of_flaw? (hflaws entry hentry segment hsegment)

def samplePattern : ToolPattern :=
  ⟨"a", .set false (.single 'a')⟩

theorem candidates_sampleShelves_a : candidates sampleShelves samplePattern "a" = [] := by
  cbv

theorem candidates_sampleShelves_b : candidates sampleShelves samplePattern "b" = ["b/as"] := by
  cbv

theorem locate_on_search_path_sample :
    let search := new {} (some ":a:b") none
    search.locate sampleShelves .assembler samplePattern = .ok "b/as" ∧
      Finds sampleShelves samplePattern (search.absence .assembler samplePattern) ["a", "b"]
        (.ok "b/as") := by
  intro search
  have hentries : (Path.ofSearchPath ":a:b").filter (· != "") = ["a", "b"] := by decide
  have hlocate : search.locate sampleShelves .assembler samplePattern = .ok "b/as" := by
    have hfirst : ["a", "b"].findSome? (firstIn sampleShelves samplePattern) = some "b/as" := by
      simp [firstIn, Path.ofSearchPath_of_not_mem, candidates_sampleShelves_a,
        candidates_sampleShelves_b, Path.least?]
    unfold locate
    rw [directories_new_of_root_blank (Or.inl rfl), Option.getD_some, hentries, hfirst]
  obtain ⟨hfinds, -⟩ := locate_on_search_path {} (some ":a:b") .assembler samplePattern
    isName_sampleShelves (Or.inl rfl)
  rw [Option.getD_some, hentries, hlocate] at hfinds
  exact ⟨hlocate, hfinds⟩

/-- Below a root, whatever the search path, the root and its directory `bin` are tried in turn, as
long as the path of the root holds no colon. If it does, tools are sought in the pieces between the
colons, and none of these need lie below the root. -/
theorem locate_below_root (settings : ToolchainSettings) (searchPath : Option String) {root : Path}
    (tool : Tool) (pattern : ToolPattern)
    (hnames : ∀ entry ∈ disk.entries, ∀ segment ∈ entry.1, Path.IsName segment)
    (hroot : root ≠ "") :
    let search := new settings searchPath (some root)
    let pieces := [root, root.join "bin"].flatMap Path.ofSearchPath
    (∀ other, (new settings other (some root)).locate disk tool pattern =
        search.locate disk tool pattern) ∧
      (':' ∉ root.toList → Finds disk pattern (search.absence tool pattern)
        [root, root.join "bin"] (search.locate disk tool pattern)) ∧
      (search.locate disk tool pattern = .error (search.absence tool pattern) ↔
        ∀ piece ∈ pieces, ∀ name, ¬Offers disk pattern piece name) ∧
      ∀ path, search.locate disk tool pattern = .ok path →
        ∃ piece ∈ pieces, ∃ name, Offers disk pattern piece name ∧ path = piece.join name := by
  intro search pieces
  have hsome : (some root).filter (· != "") = some root := by simp [Option.filter, hroot]
  have hdirectories : search.directories = [root, root.join "bin"] := by
    simp [search, directories, new, hsome]
  have hpieces : pieces = search.directories.flatMap Path.ofSearchPath := by
    rw [hdirectories]
  have hbin : Path.IsName "bin" := Path.isName_of_flaw? (by decide)
  refine ⟨fun other => ?_, fun hcolon => ?_, ?_, fun path hpath => ?_⟩
  · simp [search, locate, directories, describe, new, hsome]
  · rw [← hdirectories]
    refine finds_locate tool hnames fun directory hmem => ?_
    rw [hdirectories, List.mem_pair] at hmem
    rcases hmem with rfl | rfl
    · exact ⟨hroot, hcolon⟩
    · refine ⟨String.toList_eq_nil_iff.not.mp (Path.join_ne_nil root hbin), fun hmem => ?_⟩
      rcases Path.mem_join hbin hmem with hmem | hslash | hmem
      · exact hcolon hmem
      · simp at hslash
      · simp at hmem
  · rw [hpieces]
    exact locate_eq_error_iff
  · rw [hpieces]
    exact exists_offers_of_locate hpath

theorem locate_below_root_sample :
    let search := new {} (some "a") (some "b")
    search.locate sampleShelves .assembler samplePattern = .ok "b/as" ∧
      Finds sampleShelves samplePattern (search.absence .assembler samplePattern) ["b", "b/bin"]
        (.ok "b/as") := by
  intro search
  have hlocate : search.locate sampleShelves .assembler samplePattern = .ok "b/as" := by
    have hfirst : firstIn sampleShelves samplePattern "b" = some "b/as" := by
      simp [firstIn, Path.ofSearchPath_of_not_mem, candidates_sampleShelves_b, Path.least?]
    have hdirectories : search.directories = ["b", Path.join "b" "bin"] := by decide
    rw [locate, hdirectories, List.findSome?_cons, hfirst]
  obtain ⟨-, hfinds, -⟩ := locate_below_root {} (some "a") .assembler samplePattern
    isName_sampleShelves (by decide : "b" ≠ "")
  rw [hlocate] at hfinds
  exact ⟨hlocate, hfinds (by decide)⟩

/-- The root itself offers a tool, but one is taken from another directory. -/
theorem locate_astray :
    "a:b" ≠ "" ∧ (∀ entry ∈ sampleShelves.entries, ∀ segment ∈ entry.1, Path.IsName segment) ∧
      OffersFirst sampleShelves samplePattern "a:b" "as" ∧
      (new {} none (some "a:b")).locate sampleShelves .assembler samplePattern = .ok "b/as" ∧
      "b/as" ≠ Path.join "a:b" "as" := by
  have hresolve : sampleShelves.resolve true "a:b" = .ok (.entry ["a:b"] .directory) := by cbv
  have hchildren : sampleShelves.children ["a:b"] = ["as"] := by decide
  have hoffers : Offers sampleShelves samplePattern "a:b" "as" :=
    ⟨⟨["a:b"], hresolve, by simp [hchildren]⟩, by cbv, by decide⟩
  refine ⟨by decide, isName_sampleShelves, ⟨hoffers, fun other hother => Or.inl ?_⟩, ?_, by decide⟩
  · obtain ⟨place, hplace, hmem⟩ := hother.listed
    obtain rfl : ["a:b"] = place := by simpa [hresolve] using hplace
    simpa [hchildren] using hmem
  · have hfirst : firstIn sampleShelves samplePattern "a:b" = some "b/as" := by
      have hpieces : Path.ofSearchPath "a:b" = ["a", "b"] := by decide
      simp [firstIn, hpieces, candidates_sampleShelves_a, candidates_sampleShelves_b, Path.least?]
    have hdirectories : (new {} none (some "a:b")).directories =
        ["a:b", Path.join "a:b" "bin"] := by decide
    rw [locate, hdirectories, List.findSome?_cons, hfirst]

end Search

end GoldenRun
