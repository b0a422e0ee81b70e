import GoldenRun.Proofs.Disk.Tree
import GoldenRun.Proofs.Trial.Conduct
import GoldenRun.Proofs.Trial.Steps

/-!
# A test among others

A test that shares its corpus with others is in step with itself alone: to its requests the shared
file system and the one that it would see alone are the same. A request that its contract allows is
answered alike on both sides and keeps them in step, and so does whatever other tests do.

Directories are shared between tests, so the two sides need not have the same of them. All that
matters is that a directory that a test has made is there on both sides, and that neither side has a
file where the other one has a directory.
-/

namespace GoldenRun

namespace Trial.Plot

/-- The shared file system and the one that a test would see alone have come from the same start,
and have the same files for the test. A directory that the test knows of is there on both sides, and
so is that of a file which is there. -/
structure Abreast (p : Plot) (plots : Set Plot) (top : Place) (start : Disk) (known : Set Path)
    (shared own : Disk) : Prop where
  varies : Disk.Varies (filesOf top plots) (shelvesOf top plots) start shared
  varies_own : Disk.Varies (filesOf top plots) (shelvesOf top plots) start own
  same : ∀ part, (shared.at? (p.place top part)).map Entry.plain =
    (own.at? (p.place top part)).map Entry.plain
  made : ∀ part, p.shelfPath part ∈ known →
    shared.at? (p.shelfPlace top part) = some .directory ∧
      own.at? (p.shelfPlace top part) = some .directory
  shelved : ∀ part, own.at? (p.place top part) ≠ none →
    shared.at? (p.shelfPlace top part) = some .directory ∧
      own.at? (p.shelfPlace top part) = some .directory

variable {p q : Plot} {plots : Set Plot} {top : Place} {start shared own shared' own' : Disk}
  {known : Set Path} {part : Part}

theorem shelfPlace_eq_of_shelfPath_eq {part' : Part} (h : p.shelfPath part = p.shelfPath part') :
    p.shelfPlace top part = p.shelfPlace top part' := by
  have hsteps := congrArg Path.steps h
  rw [p.steps_shelfPath part, p.steps_shelfPath part'] at hsteps
  unfold shelfPlace
  rw [List.append_cancel_left hsteps]

theorem view_join_of_none (h : own.at? (p.place top part) = none) :
    (p.view own top part).toOption.join = none := by
  cases hview : p.view own top part with
  | error fault => rfl
  | ok seen =>
    obtain rfl := at?_of_view hview
    rw [h]
    rfl

theorem Alters.within (h : p.Alters top shared shared') (hp : p ∈ plots) :
    Disk.Varies (filesOf top plots) (shelvesOf top plots) shared shared' :=
  h.mono (filesOf_mono (Set.singleton_subset_iff.mpr hp))
    (shelvesOf_mono (Set.singleton_subset_iff.mpr hp))

theorem abreast_start (p : Plot) (plots : Set Plot) (top : Place) (hrooted : start.Rooted) :
    p.Abreast plots top start ∅ start start where
  varies := .refl start
  varies_own := .refl start
  same _ := rfl
  made _ h := h.elim
  shelved part h := by
    obtain ⟨entry, hentry⟩ := Option.ne_none_iff_exists'.mp h
    rw [← shelfPlace_append_leaf] at hentry
    exact ⟨hrooted _ _ _ hentry, hrooted _ _ _ hentry⟩

namespace Abreast

theorem step {later : Set Path} (h : p.Abreast plots top start known shared own) (hp : p ∈ plots)
    (hshared : p.Alters top shared shared') (hown : p.Alters top own own')
    (hsame : ∀ part, (shared'.at? (p.place top part)).map Entry.plain =
      (own'.at? (p.place top part)).map Entry.plain)
    (hmade : ∀ part, p.shelfPath part ∈ later → p.shelfPath part ∈ known ∨
      shared'.at? (p.shelfPlace top part) = some .directory ∧
        own'.at? (p.shelfPlace top part) = some .directory)
    (hshelved : ∀ part, own'.at? (p.place top part) ≠ none →
      own.at? (p.place top part) ≠ none ∨
        shared'.at? (p.shelfPlace top part) = some .directory ∧
          own'.at? (p.shelfPlace top part) = some .directory) :
    p.Abreast plots top start later shared' own' where
  varies := h.varies.trans disjoint_files_shelves (hshared.within hp)
  varies_own := h.varies_own.trans disjoint_files_shelves (hown.within hp)
  same := hsame
  made part hpart := by
    rcases hmade part hpart with hknown | hmade
    · obtain ⟨hs, ho⟩ := h.made part hknown
      exact ⟨hshared.keepsWays.directory _ hs, hown.keepsWays.directory _ ho⟩
    · exact hmade
  shelved part hpart := by
    rcases hshelved part hpart with hbefore | hshelf
    · obtain ⟨hs, ho⟩ := h.shelved part hbefore
      exact ⟨hshared.keepsWays.directory _ hs, hown.keepsWays.directory _ ho⟩
    · exact hshelf

theorem set {new : Option Entry} (h : p.Abreast plots top start known shared own) (hp : p ∈ plots)
    (hpart : part.IsGenerated)
    (hshelf : shared.at? (p.shelfPlace top part) = some .directory ∧
      own.at? (p.shelfPlace top part) = some .directory)
    (hshared : Disk.Sets (p.place top part) new shared shared')
    (hown : Disk.Sets (p.place top part) new own own') :
    p.Abreast plots top start known shared' own' := by
  refine h.step hp (alters_of_sets hshared hpart) (alters_of_sets hown hpart) (fun part' => ?_)
    (fun _ hknown => Or.inl hknown) fun part' hne => ?_
  · by_cases heq : part' = part
    · rw [heq, hshared.here, hown.here]
    · have hplace : p.place top part' ≠ p.place top part := fun hat => heq (place_inj hat).2.2
      rw [hshared.elsewhere hplace, hown.elsewhere hplace]
      exact h.same part'
  · by_cases heq : part' = part
    · subst heq
      exact Or.inr ⟨hshared.varies.keepsWays.directory _ hshelf.1,
        hown.varies.keepsWays.directory _ hshelf.2⟩
    · rw [hown.elsewhere fun hat => heq (place_inj hat).2.2] at hne
      exact Or.inl hne

theorem shelve (h : p.Abreast plots top start known shared own) (hp : p ∈ plots)
    (hshared : p.Alters top shared shared') (hown : p.Alters top own own')
    (hplaces : ∀ part, shared'.at? (p.place top part) = shared.at? (p.place top part))
    (hplaces' : ∀ part, own'.at? (p.place top part) = own.at? (p.place top part))
    (hshelf : shared'.at? (p.shelfPlace top part) = some .directory)
    (hshelf' : own'.at? (p.shelfPlace top part) = some .directory) :
    p.Abreast plots top start (insert (p.shelfPath part) known) shared' own' := by
  refine h.step hp hshared hown (fun part' => ?_) (fun part' hpath => ?_) fun part' hne => ?_
  · rw [hplaces, hplaces']
    exact h.same part'
  · rcases hpath with hpath | hknown
    · rw [shelfPlace_eq_of_shelfPath_eq hpath]
      exact Or.inr ⟨hshelf, hshelf'⟩
    · exact Or.inl hknown
  · rw [hplaces'] at hne
    exact Or.inl hne

/-- What another test does keeps a test in step. -/
theorem other (h : q.Abreast plots top start known shared own) (hp : p ∈ plots)
    (hne : (p.category, p.name) ≠ (q.category, q.name)) (halters : p.Alters top shared shared') :
    q.Abreast plots top start known shared' own where
  varies := h.varies.trans disjoint_files_shelves (halters.within hp)
  varies_own := h.varies_own
  same part := by
    have hfile : q.place top part ∉ filesOf top {p} :=
      place_not_mem_others fun r hr => by rw [Set.mem_singleton_iff.mp hr]; exact hne
    rw [halters.at?_eq hfile place_not_mem_shelves]
    exact h.same part
  made part hpart := (h.made part hpart).imp_left (halters.keepsWays.directory _)
  shelved part hpart := (h.shelved part hpart).imp_left (halters.keepsWays.directory _)

/-- Both sides have the shelf of a file, or nothing in the way of it, or a file in its place. -/
theorem shelves (h : p.Abreast plots top start known shared own) (hlinkless : start.Linkless top)
    (part : Part) :
    ((shared.at? (p.shelfPlace top part) = none ∨
        shared.at? (p.shelfPlace top part) = some .directory) ∧
      (own.at? (p.shelfPlace top part) = none ∨
        own.at? (p.shelfPlace top part) = some .directory)) ∨
    ∃ data executable,
      shared.at? (p.shelfPlace top part) = some (.file data executable) ∧
      own.at? (p.shelfPlace top part) = some (.file data executable) := by
  have hcases : ∀ {after}, Disk.Varies (filesOf top plots) (shelvesOf top plots) start after →
      after.at? (p.shelfPlace top part) = start.at? (p.shelfPlace top part) ∨
        start.at? (p.shelfPlace top part) = none ∧
          after.at? (p.shelfPlace top part) = some .directory := by
    intro after hvaries
    rcases hvaries.entries (p.shelfPlace top part) with hkept | ⟨hfile, -⟩ | ⟨-, hmade⟩
    · exact Or.inl hkept
    · exact absurd hfile shelf_not_mem_files
    · exact Or.inr hmade
  rcases hcases h.varies with hs | ⟨hnone, hs⟩ <;> rcases hcases h.varies_own with ho | ⟨hnone', ho⟩
  · rw [hs, ho]
    cases hstart : start.at? (p.shelfPlace top part) with
    | none => exact Or.inl ⟨Or.inl rfl, Or.inl rfl⟩
    | some entry =>
      cases entry with
      | file data executable => exact Or.inr ⟨data, executable, rfl, rfl⟩
      | directory => exact Or.inl ⟨Or.inr rfl, Or.inr rfl⟩
      | link target => exact absurd hstart (hlinkless _ target)
  · exact Or.inl ⟨Or.inl (hs.trans hnone'), Or.inr ho⟩
  · exact Or.inl ⟨Or.inr hs, Or.inl (ho.trans hnone)⟩
  · exact Or.inl ⟨Or.inr hs, Or.inr ho⟩

theorem view_eq (h : p.Abreast plots top start known shared own) (hreaches : p.Reaches known part) :
    p.view shared top part = p.view own top part := by
  refine view_congr ?_ (h.same part)
  by_cases hapart : part.IsApart
  · obtain ⟨hs, ho⟩ := h.made part (hreaches hapart)
    rw [hs, ho]
  · rw [h.varies.at?_eq shelf_not_mem_files (shelf_not_mem_shelves hapart),
      h.varies_own.at?_eq shelf_not_mem_files (shelf_not_mem_shelves hapart)]

theorem shelf (h : p.Abreast plots top start known shared own) (hon : p.On start top)
    (hsource : start.isFile (p.path .source) = true) (hpart : part.IsGenerated)
    (hreaches : p.Reaches known part) :
    shared.at? (p.shelfPlace top part) = some .directory ∧
      own.at? (p.shelfPlace top part) = some .directory := by
  rcases isApart_or_shelf (shelf_of_isFile hon hsource) hpart with hapart | hshelf
  · exact h.made part (hreaches hapart)
  · exact ⟨h.varies.keepsWays.directory _ hshelf, h.varies_own.keepsWays.directory _ hshelf⟩

theorem plain?_eq (h : p.Abreast plots top start known shared own)
    (harrives : start.Arrives p.root top) (hlinkless : start.Linkless top) (part : Part) :
    shared.plain? (p.path part) = own.plain? (p.path part) := by
  by_cases hon : p.On start top
  · rw [(hon.vary h.varies).plain?, (hon.vary h.varies_own).plain?]
    by_cases hnone : own.at? (p.place top part) = none
    · have hshared : shared.at? (p.place top part) = none := by
        have hsame := h.same part
        rw [hnone] at hsame
        exact Option.map_eq_none_iff.mp hsame
      rw [view_join_of_none hnone, view_join_of_none hshared]
    · obtain ⟨hs, ho⟩ := h.shelved part hnone
      rw [view_congr (hs.trans ho.symm) (h.same part)]
  · unfold Disk.plain?
    rw [find?_of_not_on harrives hlinkless hon h.varies,
      find?_of_not_on harrives hlinkless hon h.varies_own]

end Abreast

/-- A request is answered alike on both sides, as it is promised, and keeps the test in step. All
that it changes on the shared side belongs to the test. -/
structure Agrees (p : Plot) (machine : Machine) (plots : Set Plot) (top : Place) (start : Disk)
    (sourced : Prop) (known : Set Path) (shared own : Disk) (r : Request) : Prop where
  answer : (machine.answer r shared).1 = (machine.answer r own).1
  promise : p.Promises top sourced r (machine.answer r own).1
  alters : p.Alters top shared (machine.answer r shared).2
  abreast : p.Abreast plots top start (learn known r (machine.answer r own).1)
    (machine.answer r shared).2 (machine.answer r own).2

theorem On.promises_openFile {path : Path} {sourced : Prop} (hon : p.On own top) :
    p.Promises top sourced (.openFile path) (own.openFile path) := by
  intro part place hpath hok
  subst hpath
  rw [hon.openFile part] at hok
  rcases hon.view_cases part with ⟨fault, hview⟩ | hview | hview | ⟨data, hview⟩ <;>
    simp [hview, Sighting.opened] at hok <;> exact hok.symm

theorem On.promises_createFile {path : Path} {sourced : Prop} (hon : p.On own top)
    (machine : Machine) :
    p.Promises top sourced (.createFile path) (machine.answer (.createFile path) own).1 := by
  intro part place hpath hok
  subst hpath
  rw [(hon.create machine part).1] at hok
  rcases hon.view_cases part with ⟨fault, hview⟩ | hview | hview | ⟨data, hview⟩ <;>
    simp [hview, Sighting.created] at hok <;> exact hok.symm

namespace Abreast

variable {machine : Machine} {sourced : Prop} {r : Request}

theorem agrees_of_still (h : p.Abreast plots top start known shared own) {answer : r.Answer}
    (hshared : machine.answer r shared = (answer, shared))
    (hown : machine.answer r own = (answer, own)) (hpromise : p.Promises top sourced r answer)
    (hlearn : learn known r answer = known) :
    p.Agrees machine plots top start sourced known shared own r := by
  constructor
  · rw [hshared, hown]
  · rw [hown]
    exact hpromise
  · rw [hshared]
    exact .refl p top shared
  · rw [hshared, hown]
    exact hlearn.symm ▸ h

theorem agrees_of_sets {new : Option Entry} (h : p.Abreast plots top start known shared own)
    (hp : p ∈ plots) (hpart : part.IsGenerated)
    (hshelf : shared.at? (p.shelfPlace top part) = some .directory ∧
      own.at? (p.shelfPlace top part) = some .directory)
    (hanswer : (machine.answer r shared).1 = (machine.answer r own).1)
    (hpromise : p.Promises top sourced r (machine.answer r own).1)
    (hlearn : learn known r (machine.answer r own).1 = known)
    (hshared : Disk.Sets (p.place top part) new shared (machine.answer r shared).2)
    (hown : Disk.Sets (p.place top part) new own (machine.answer r own).2) :
    p.Agrees machine plots top start sourced known shared own r := by
  refine ⟨hanswer, hpromise, alters_of_sets hshared hpart, ?_⟩
  rw [hlearn]
  exact h.set hp hpart hshelf hshared hown

theorem isFile (h : p.Abreast plots top start known shared own)
    (harrives : start.Arrives p.root top) (hlinkless : start.Linkless top) :
    p.Agrees machine plots top start (start.isFile (p.path .source) = true) known shared own
      (.isFile (p.path .source)) := by
  have hshared := isFile_source_vary harrives hlinkless h.varies
  have hown := isFile_source_vary harrives hlinkless h.varies_own
  refine h.agrees_of_still (congrArg (·, shared) hshared) (congrArg (·, own) hown) ?_ rfl
  exact fun htrue => htrue

theorem makeDirectories (h : p.Abreast plots top start known shared own) (hp : p ∈ plots)
    (hon : p.On start top) (hsource : start.isFile (p.path .source) = true)
    (hpart : part.IsGenerated) :
    p.Agrees machine plots top start sourced known shared own
      (.makeDirectories (p.shelfPath part)) := by
  have hshared := hon.vary h.varies
  have hown := hon.vary h.varies_own
  have hshelf := shelf_of_isFile hon hsource
  have hmakes := hshared.prepare
    (isApart_or_shelf (h.varies.keepsWays.directory _ hshelf) hpart)
  have hmakes' := hown.prepare
    (isApart_or_shelf (h.varies_own.keepsWays.directory _ hshelf) hpart)
  rw [prepare_path] at hmakes hmakes'
  have hrefused : ∀ fault, shared.makeDirectories (p.shelfPath part) = (.error fault, shared) →
      own.makeDirectories (p.shelfPath part) = (.error fault, own) →
      p.Agrees machine plots top start sourced known shared own
        (.makeDirectories (p.shelfPath part)) :=
    fun fault hs ho => h.agrees_of_still hs ho trivial rfl
  cases htext : Disk.textFault? (p.shelfPath part) with
  | some fault =>
    refine hrefused fault ?_ ?_
    · rw [hshared.makeDirectories part, htext]
    · rw [hown.makeDirectories part, htext]
  | none =>
    rcases h.shelves hon.linkless part with ⟨hs, ho⟩ | ⟨data, executable, hs, ho⟩
    · have hok := hmakes.1.mpr ⟨htext, hs⟩
      have hok' := hmakes'.1.mpr ⟨htext, ho⟩
      obtain ⟨halters, hmade, hplaces⟩ := hmakes.2 hok
      obtain ⟨halters', hmade', hplaces'⟩ := hmakes'.2 hok'
      refine ⟨hok.trans hok'.symm, trivial, halters, ?_⟩
      have hlearn : learn known (.makeDirectories (p.shelfPath part))
          (machine.answer (.makeDirectories (p.shelfPath part)) own).1 =
            insert (p.shelfPath part) known :=
        congrArg (learn known (.makeDirectories (p.shelfPath part))) hok'
      rw [hlearn]
      exact h.shelve hp halters halters' hplaces hplaces' hmade hmade'
    · refine hrefused .alreadyExists ?_ ?_
      · rw [hshared.makeDirectories part, htext, hs]
      · rw [hown.makeDirectories part, htext, ho]

theorem openFile (h : p.Abreast plots top start known shared own) (hon : p.On start top)
    (hreaches : p.Reaches known part) :
    p.Agrees machine plots top start sourced known shared own (.openFile (p.path part)) := by
  have hown := hon.vary h.varies_own
  have hopen : shared.openFile (p.path part) = own.openFile (p.path part) := by
    rw [(hon.vary h.varies).openFile, hown.openFile, h.view_eq hreaches]
  exact h.agrees_of_still (congrArg (·, shared) hopen) rfl hown.promises_openFile rfl

theorem read (h : p.Abreast plots top start known shared own) (part : Part) :
    p.Agrees machine plots top start sourced known shared own (.read (p.place top part)) := by
  have hstream := Disk.stream_congr (h.same part)
  exact h.agrees_of_still (congrArg (·, shared) hstream) rfl trivial rfl

theorem createFile (h : p.Abreast plots top start known shared own) (hp : p ∈ plots)
    (hon : p.On start top) (hsource : start.isFile (p.path .source) = true)
    (hpart : part.IsGenerated) (hreaches : p.Reaches known part) :
    p.Agrees machine plots top start sourced known shared own (.createFile (p.path part)) := by
  have hown := hon.vary h.varies_own
  obtain ⟨hanswer, hsets⟩ := (hon.vary h.varies).create machine part
  obtain ⟨hanswer', hsets'⟩ := hown.create machine part
  rw [h.view_eq hreaches] at hanswer hsets
  rw [h.same part] at hsets
  exact h.agrees_of_sets hp hpart (h.shelf hon hsource hpart hreaches)
    (hanswer.trans hanswer'.symm) (hown.promises_createFile machine) rfl hsets hsets'

theorem write (h : p.Abreast plots top start known shared own) (hp : p ∈ plots)
    (hon : p.On start top) (hsource : start.isFile (p.path .source) = true)
    (hpart : part.IsGenerated) (hreaches : p.Reaches known part) (data : Bytes) :
    p.Agrees machine plots top start sourced known shared own
      (.write (p.place top part) data) := by
  have hsets : Disk.Sets _ _ shared (shared.store (p.place top part) data) :=
    Disk.sets_store place_ne_nil data
  rw [h.same part] at hsets
  exact h.agrees_of_sets hp hpart (h.shelf hon hsource hpart hreaches) rfl trivial rfl hsets
    (Disk.sets_store place_ne_nil data)

theorem removeFile (h : p.Abreast plots top start known shared own) (hp : p ∈ plots)
    (hon : p.On start top) (hsource : start.isFile (p.path .source) = true)
    (hpart : part.IsGenerated) (hreaches : p.Reaches known part) :
    p.Agrees machine plots top start sourced known shared own (.removeFile (p.path part)) := by
  obtain ⟨hanswer, hsets⟩ := (hon.vary h.varies).remove machine part
  obtain ⟨hanswer', hsets'⟩ := (hon.vary h.varies_own).remove machine part
  rw [h.view_eq hreaches] at hanswer hsets
  rw [h.same part] at hsets
  exact h.agrees_of_sets hp hpart (h.shelf hon hsource hpart hreaches)
    (hanswer.trans hanswer'.symm) trivial rfl hsets hsets'

variable {custom : Custom} {call : Call} {found : Except Fault Program} {input : Part}

theorem content?_eq (h : p.Abreast plots top start known shared own) (hon : p.On start top)
    (hinput : call.input = p.path input) (hreads : p.Reaches known input) :
    shared.content? call.input = own.content? call.input := by
  rw [hinput, (hon.vary h.varies).content?, (hon.vary h.varies_own).content?, h.view_eq hreads]

theorem obstacle?_eq (h : p.Abreast plots top start known shared own) (hon : p.On start top)
    (htarget : call.target = some (p.path part)) (hreaches : p.Reaches known part) :
    shared.obstacle? call.target = own.obstacle? call.target := by
  rw [htarget]
  exact (hon.vary h.varies).obstacle?_congr (hon.vary h.varies_own) (h.view_eq hreaches)

/-- A tool that writes a file of the test does the same on both sides. -/
theorem launch (h : p.Abreast plots top start known shared own) (hp : p ∈ plots)
    (hon : p.On start top) (hsource : start.isFile (p.path .source) = true)
    (hserves : machine.Serves (filesOf top plots) (shelvesOf top plots) start custom call found)
    (hinput : call.input = p.path input) (hreads : p.Reaches known input)
    (htarget : call.target = some (p.path part)) (hpart : part.IsGenerated)
    (hreaches : p.Reaches known part) :
    p.Agrees machine plots top start sourced known shared own (.launch (call.command none)) := by
  have hshared := hserves.vary disjoint_files_shelves h.varies
  have hown := hserves.vary disjoint_files_shelves h.varies_own
  have hcontent := h.content?_eq hon hinput hreads
  have hobstacle := h.obstacle?_eq hon htarget hreaches
  have hanswer : (machine.launch (call.command none) shared).1 =
      (machine.launch (call.command none) own).1 := by
    rw [hshared.answer, hown.answer, hcontent, hobstacle]
  have hsets := hshared.sets (hon.vary h.varies) htarget
  rw [h.view_eq hreaches, hcontent, hobstacle, h.same part] at hsets
  exact h.agrees_of_sets hp hpart (h.shelf hon hsource hpart hreaches) hanswer trivial rfl hsets
    (hown.sets (hon.vary h.varies_own) htarget)

theorem print (h : p.Abreast plots top start known shared own) (hp : p ∈ plots)
    (hon : p.On start top) (hsource : start.isFile (p.path .source) = true)
    (hserves : machine.Serves (filesOf top plots) (shelvesOf top plots) start custom call found)
    (hinput : call.input = p.path input) (hreads : p.Reaches known input)
    (htarget : call.target = none) (hpart : part.IsGenerated) (hreaches : p.Reaches known part) :
    p.Agrees machine plots top start sourced known shared own
      (.launch (call.command (some (p.place top part)))) := by
  have hshared := hserves.vary disjoint_files_shelves h.varies
  have hown := hserves.vary disjoint_files_shelves h.varies_own
  have hcontent := h.content?_eq hon hinput hreads
  have hobstacle : shared.obstacle? call.target = own.obstacle? call.target := by
    rw [htarget]
    rfl
  have hanswer : (machine.launch (call.command (some (p.place top part))) shared).1 =
      (machine.launch (call.command (some (p.place top part))) own).1 := by
    rw [hshared.answer, hown.answer, hcontent, hobstacle]
  have hsets : Disk.Sets (p.place top part) _ shared _ := hshared.prints htarget place_ne_nil
  rw [hcontent, hobstacle, h.same part] at hsets
  exact h.agrees_of_sets hp hpart (h.shelf hon hsource hpart hreaches) hanswer trivial rfl hsets
    (hown.prints htarget place_ne_nil)

end Abreast

/-- The tools of a test go by what they are known to do, as far as they can be started. Neither
depends on the files that tests make. -/
structure Served (p : Plot) (machine : Machine) (rig : Rig) (crew : Crew) (plots : Set Plot)
    (disk : Disk) (top : Place) : Prop where
  assembles : ∃ found, machine.Serves (filesOf top plots) (shelvesOf top plots) disk
    crew.assembler (rig.assembling p.files) found
  disassembles : ∃ found, machine.Serves (filesOf top plots) (shelvesOf top plots) disk
    crew.disassembler (rig.disassembling p.files) found
  simulates : ∃ found, machine.Serves (filesOf top plots) (shelvesOf top plots) disk
    crew.simulator (rig.simulating p.files) found

namespace Abreast

variable {machine : Machine} {rig : Rig} {crew : Crew} {r : Request}

/-- Whatever the test may ask for is answered alike on both sides. -/
theorem agrees (h : p.Abreast plots top start known shared own) (hp : p ∈ plots)
    (harrives : start.Arrives p.root top) (hlinkless : start.Linkless top)
    (hserved : p.Served machine rig crew plots start top)
    (hallows : p.Allows rig top (start.isFile (p.path .source) = true) known r) :
    p.Agrees machine plots top start (start.isFile (p.path .source) = true) known shared own r := by
  have hon : start.isFile (p.path .source) = true → p.On start top := by
    intro hsource
    obtain ⟨top', harrives', hon⟩ := exists_on_of_isFile hsource
    obtain rfl := harrives.unique harrives'
    exact hon hlinkless
  have hsteady : ∀ {part : Part}, ¬part.IsApart → p.Reaches known part := reaches_of_not_isApart
  cases r with
  | isFile path =>
    obtain rfl : path = p.path .source := hallows
    exact h.isFile harrives hlinkless
  | makeDirectories path =>
    obtain ⟨hsource, part, hpart, rfl⟩ := hallows
    exact h.makeDirectories hp (hon hsource) hsource hpart
  | openFile path =>
    obtain ⟨hsource, part, hreaches, rfl⟩ := hallows
    exact h.openFile (hon hsource) hreaches
  | createFile path =>
    obtain ⟨hsource, part, hpart, hreaches, rfl⟩ := hallows
    exact h.createFile hp (hon hsource) hsource hpart hreaches
  | removeFile path =>
    obtain ⟨hsource, part, hpart, hreaches, rfl⟩ := hallows
    exact h.removeFile hp (hon hsource) hsource hpart hreaches
  | read place =>
    obtain ⟨-, part, rfl⟩ := hallows
    exact h.read part
  | write place data =>
    obtain ⟨hsource, part, hpart, hreaches, rfl⟩ := hallows
    exact h.write hp (hon hsource) hsource hpart hreaches data
  | launch command =>
    obtain ⟨hsource, hcommand⟩ := hallows
    rcases hcommand with rfl | rfl | ⟨rfl, himage, hresult⟩
    · obtain ⟨found, hserves⟩ := hserved.assembles
      exact h.launch hp (hon hsource) hsource hserves (p.assembling_input rig)
        (hsteady (by simp [Part.IsApart])) (p.assembling_target rig) trivial
        (hsteady (by simp [Part.IsApart]))
    · obtain ⟨found, hserves⟩ := hserved.disassembles
      exact h.print hp (hon hsource) hsource hserves (p.disassembling_input rig)
        (hsteady (by simp [Part.IsApart])) (p.disassembling_target rig) trivial
        (hsteady (by simp [Part.IsApart]))
    · obtain ⟨found, hserves⟩ := hserved.simulates
      exact h.launch hp (hon hsource) hsource hserves (p.simulating_input rig) himage
        (p.simulating_target rig) trivial hresult

end Abreast

end Trial.Plot

end GoldenRun
