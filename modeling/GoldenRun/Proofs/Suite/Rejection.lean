import GoldenRun.Proofs.Suite.Listing

/-!
# Lists that make no suite

A name is at fault in a list if it cannot name a test, or if a name in front of it has its
identifier already. A list without faults is made into a listing whose functions bear the
identifiers of the names, all of them different. Of the faults of any other list the first one is
reported, and where that is a clash, there is just one name that it can be a clash with.
-/

namespace GoldenRun.Suite

/-- The name at an index cannot name a test, or its identifier is taken by then. -/
def IsFault (category : String) (names : List String) (i : ℕ) : Prop :=
  ∃ name, names[i]? = some name ∧ (Trial.checkName category name ≠ .ok () ∨
    ∃ j < i, ∃ earlier, names[j]? = some earlier ∧ ident earlier = ident name)

/-- All names of a list can name tests, and no two of them have one identifier. -/
structure IsListable (category : String) (names : List String) : Prop where
  named : ∀ name ∈ names, Trial.checkName category name = .ok ()
  nodup : (names.map ident).Nodup

/-- What is known of names that have been checked: their identifiers, the last first. -/
def takenBy (names : List String) : List (String × String) :=
  (names.map fun name => (ident name, name)).reverse

/-- The function of a suite that a line begins, if it begins one. -/
def functionOf? (line : String) : Option String :=
  ("    fn ".toList.isPrefixOf? line.toList).map fun rest =>
    String.ofList (rest.takeWhile (· != '('))

/-- The functions of a suite that a listing holds, in their order. -/
def functions (listing : String) : List String :=
  (lines listing).filterMap functionOf?

variable {category name : String} {names front rest : List String}
  {taken : List (String × String)} {i : ℕ}

theorem takenBy_append : takenBy (front ++ [name]) = (ident name, name) :: takenBy front := by
  simp [takenBy]

theorem lookup_takenBy_eq_none_iff {text : String} :
    (takenBy names).lookup text = none ↔ ∀ name ∈ names, ident name ≠ text := by
  rw [List.lookup_eq_none_iff]
  unfold takenBy
  simp only [List.mem_reverse, List.mem_map, bne_iff_ne]
  constructor
  · intro h name hname he
    exact h _ ⟨name, hname, rfl⟩ he.symm
  · rintro h _ ⟨name, hname, rfl⟩ he
    exact h name hname he.symm

theorem mem_of_lookup_takenBy {text : String} (h : (takenBy names).lookup text = some name) :
    name ∈ names ∧ ident name = text := by
  obtain ⟨before, after, hcut, -⟩ := List.lookup_eq_some_iff.mp h
  have hmem : (text, name) ∈ takenBy names := by simp [hcut]
  unfold takenBy at hmem
  rw [List.mem_reverse, List.mem_map] at hmem
  obtain ⟨found, hfound, he⟩ := hmem
  obtain ⟨rfl, rfl⟩ := Prod.mk.inj he
  exact ⟨hfound, rfl⟩

theorem check_cons_of_free (hname : Trial.checkName category name = .ok ())
    (hfree : (takenBy front).lookup (ident name) = none) :
    check category (takenBy front) (name :: rest) =
      check category (takenBy (front ++ [name])) rest := by
  rw [check, hname, takenBy_append]
  simp only [hfree]

theorem check_cons_of_clash {first : String} (hname : Trial.checkName category name = .ok ())
    (htaken : taken.lookup (ident name) = some first) :
    check category taken (name :: rest) = .error (.nameClash first name (ident name)) := by
  rw [check, hname]
  simp only [htaken]

theorem check_cons_of_error {failure : Failure}
    (hname : Trial.checkName category name = .error failure) :
    check category taken (name :: rest) = .error failure := by
  rw [check, hname]

theorem check_append (front : List String) (h : IsListable category (front ++ names)) :
    check category (takenBy front) (names ++ rest) =
      check category (takenBy (front ++ names)) rest := by
  induction names generalizing front with
  | nil => simp
  | cons name names ih =>
    have hname : Trial.checkName category name = .ok () := h.named name (by simp)
    have hfree : (takenBy front).lookup (ident name) = none := by
      rw [lookup_takenBy_eq_none_iff]
      intro earlier hearlier he
      have hnodup := h.nodup
      rw [List.map_append, List.nodup_append] at hnodup
      exact hnodup.2.2 _ (List.mem_map_of_mem hearlier) _ (by simp) he
    have hnext : IsListable category (front ++ [name] ++ names) := by rwa [← List.append_cons]
    rw [List.cons_append, check_cons_of_free hname hfree, ih _ hnext, ← List.append_cons]

theorem render_of_isListable (h : IsListable category names) :
    render category names = .ok (text category names) := by
  have hcheck : check category [] (names ++ []) = check category (takenBy names) [] :=
    check_append [] h
  rw [List.append_nil, check] at hcheck
  unfold render
  rw [hcheck]
  rfl

theorem render_of_check {failure : Failure} (h : check category [] names = .error failure) :
    render category names = .error failure := by
  unfold render
  rw [h]
  rfl

theorem isListable_iff : IsListable category names ↔ ∀ i, ¬IsFault category names i := by
  constructor
  · rintro h i ⟨name, hname, hbad | ⟨j, hj, earlier, hearlier, he⟩⟩
    · exact hbad (h.named name (List.mem_of_getElem? hname))
    · refine List.nodup_iff_getElem?_ne_getElem?.mp h.nodup j i hj ?_ ?_
      · rw [List.length_map]
        exact (List.getElem?_eq_some_iff.mp hname).1
      · simp [hname, hearlier, he]
  · intro h
    constructor
    · intro name hmem
      obtain ⟨i, hi⟩ := List.mem_iff_getElem?.mp hmem
      by_contra hbad
      exact h i ⟨name, hi, Or.inl hbad⟩
    · rw [List.nodup_iff_getElem?_ne_getElem?]
      intro j i hj hi he
      rw [List.length_map] at hi
      have hearlier := List.getElem?_eq_getElem (hj.trans hi)
      have hname := List.getElem?_eq_getElem hi
      rw [List.getElem?_map, List.getElem?_map, hearlier, hname] at he
      exact h i ⟨_, hname, Or.inr ⟨j, hj, _, hearlier, by simpa using he⟩⟩

theorem isFault_take {k : ℕ} (hk : k < i) :
    IsFault category (names.take i) k ↔ IsFault category names k := by
  have hsame : ∀ j ≤ k, (names.take i)[j]? = names[j]? := by
    intro j hj
    rw [List.getElem?_take, if_pos (by omega)]
  unfold IsFault
  rw [hsame k le_rfl]
  refine exists_congr fun name => and_congr_right fun _ => or_congr_right ?_
  refine exists_congr fun j => and_congr_right fun hj => ?_
  rw [hsame j hj.le]

theorem isListable_take (h : ∀ k < i, ¬IsFault category names k) :
    IsListable category (names.take i) := by
  rw [isListable_iff]
  intro k hfault
  by_cases hk : k < i
  · exact h k hk ((isFault_take hk).mp hfault)
  · obtain ⟨name, hname, -⟩ := hfault
    rw [List.getElem?_take, if_neg hk] at hname
    contradiction

/-- The check comes to the first fault with all names in front of it taken. -/
theorem check_of_take (hname : names[i]? = some name) (h : ∀ k < i, ¬IsFault category names k) :
    check category [] names =
      check category (takenBy (names.take i)) (name :: names.drop (i + 1)) := by
  have hcut : names = names.take i ++ name :: names.drop (i + 1) := by
    obtain ⟨hi, rfl⟩ := List.getElem?_eq_some_iff.mp hname
    rw [List.getElem_cons_drop, List.take_append_drop]
  have hcheck : check category [] (names.take i ++ name :: names.drop (i + 1)) =
      check category (takenBy (names.take i)) (name :: names.drop (i + 1)) :=
    check_append [] (isListable_take h)
  rwa [← hcut] at hcheck

theorem functionOf?_function (name : String) :
    functionOf? ("    fn " ++ ident name ++ "() \x7b") = some (ident name) := by
  have hchars : ∀ c ∈ (ident name).toList, (c != '(') = true := by
    intro c hc
    rw [bne_iff_ne]
    rintro rfl
    have := (isIdent_ident name).chars _ hc
    simp [IsIdentChar] at this
  unfold functionOf?
  rw [String.append_assoc, String.toList_append, isPrefixOf?_append, Option.map_some,
    String.toList_append, List.takeWhile_append_of_pos hchars]
  simp

theorem functions_stanzaLines (category name : String) :
    (stanzaLines (ident name) (call category name)).filterMap functionOf? = [ident name] := by
  have hcall : functionOf? (call category name) = none := by
    unfold functionOf? call
    simp only [String.append_assoc, String.toList_append]
    rfl
  unfold stanzaLines
  rw [List.filterMap_cons_none (by decide), List.filterMap_cons_none (by decide),
    List.filterMap_cons_some (functionOf?_function name), List.filterMap_cons_none (by decide),
    List.filterMap_cons_none hcall]
  have hrest : ["            .unwrap_or_else(|e| panic!(\"\x7be\x7d\"));",
      "        let result = case.run_detailed().unwrap_or_else(|e| panic!(\"\x7be\x7d\"));",
      "        assert!(result.passed, \"\x7b\x7d: \x7bresult\x7d\", case.id());",
      "    \x7d"].filterMap functionOf? = [] := by decide
  rw [hrest]

/-- Nothing in front of the stanzas is a function of the suite: the one that is defined there stands
at the very beginning of its line. -/
theorem functions_opening (category : String) : (opening category).filterMap functionOf? = [] := by
  have hpieces : ∀ piece ∈ pieces '\n' (header ++ preamble).toList,
      "    fn ".toList.isPrefixOf? piece = none := by
    unfold header preamble
    simp only [String.toList_append]
    decide +kernel
  have hfront : (lines (header ++ preamble)).filterMap functionOf? = [] := by
    rw [List.filterMap_eq_nil_iff]
    intro line hline
    obtain ⟨piece, hpiece, rfl⟩ := List.mem_map.mp hline
    rw [functionOf?, String.toList_ofList (l := piece), hpieces piece hpiece]
    rfl
  have hmodule : functionOf? ("mod " ++ ident category ++ " \x7b") = none := by
    unfold functionOf?
    simp only [String.append_assoc, String.toList_append]
    rfl
  unfold opening
  rw [List.filterMap_append, hfront, List.filterMap_cons_none hmodule]
  decide

theorem functions_text (category : String) (names : List String) :
    functions (text category names) = names.map ident := by
  have hstanzas : (names.map fun name =>
      stanzaLines (ident name) (call category name)).flatten.filterMap functionOf? =
        names.map ident := by
    induction names with
    | nil => rfl
    | cons name names ih =>
      rw [List.map_cons, List.flatten_cons, List.filterMap_append, functions_stanzaLines, ih]
      rfl
  have hend : ["\x7d", ""].filterMap functionOf? = [] := by decide
  unfold functions
  rw [lines_text, List.filterMap_append, List.filterMap_append, functions_opening, hstanzas, hend]
  simp

/-- What a fault is reported as: that the name cannot name a test, or else that it clashes with the
one name in front of it that has its identifier. -/
inductive Reported (category : String) (names : List String) (i : ℕ) : Failure → Prop
  | badName {name flaw} : names[i]? = some name →
      Trial.checkName category name = .error (.badName category name flaw) →
      Reported category names i (.badName category name flaw)
  | nameClash {name j first} : names[i]? = some name → Trial.checkName category name = .ok () →
      j < i → names[j]? = some first → ident first = ident name →
      (∀ k < i, ∀ other, names[k]? = some other → ident other = ident name → k = j) →
      Reported category names i (.nameClash first name (ident name))

theorem exists_flaw_of_checkName (h : Trial.checkName category name ≠ .ok ()) :
    ∃ flaw, Trial.checkName category name = .error (.badName category name flaw) := by
  unfold Trial.checkName at h ⊢
  cases hcategory : Trial.flaw? category with
  | some flaw => exact ⟨flaw, rfl⟩
  | none =>
    cases hname : Trial.flaw? name with
    | some flaw => exact ⟨flaw, rfl⟩
    | none => simp [hcategory, hname] at h

theorem eq_of_ident_eq {j k : ℕ} {first other : String}
    (h : ∀ k < i, ¬IsFault category names k) (hj : j < i) (hk : k < i)
    (hfirst : names[j]? = some first) (hother : names[k]? = some other)
    (he : ident other = ident first) : k = j := by
  rcases lt_trichotomy k j with hlt | heq | hlt
  · exact absurd ⟨first, hfirst, Or.inr ⟨k, hlt, other, hother, he⟩⟩ (h j hj)
  · exact heq
  · exact absurd ⟨other, hother, Or.inr ⟨j, hlt, first, hfirst, he.symm⟩⟩ (h k hk)

theorem exists_reported (hfault : IsFault category names i)
    (hfirst : ∀ k < i, ¬IsFault category names k) :
    ∃ failure, Reported category names i failure ∧ render category names = .error failure := by
  obtain ⟨name, hname, hcause⟩ := hfault
  have hcheck := check_of_take hname hfirst
  by_cases hvalid : Trial.checkName category name = .ok ()
  · rcases hcause with hbad | ⟨j, hj, earlier, hearlier, he⟩
    · exact absurd hvalid hbad
    have hmem : earlier ∈ names.take i :=
      List.mem_of_getElem? (i := j) (by rw [List.getElem?_take, if_pos hj, hearlier])
    cases hlookup : (takenBy (names.take i)).lookup (ident name) with
    | none => exact absurd he (lookup_takenBy_eq_none_iff.mp hlookup earlier hmem)
    | some first =>
      obtain ⟨hfound, heq⟩ := mem_of_lookup_takenBy hlookup
      obtain ⟨k, hk⟩ := List.mem_iff_getElem?.mp hfound
      rw [List.getElem?_take] at hk
      split_ifs at hk with hlt
      refine ⟨_, .nameClash hname hvalid hlt hk heq ?_, ?_⟩
      · intro k' hlt' other hother he'
        exact eq_of_ident_eq hfirst hlt hlt' hk hother (he'.trans heq.symm)
      · exact render_of_check (hcheck.trans (check_cons_of_clash hvalid hlookup))
  · obtain ⟨flaw, hflaw⟩ := exists_flaw_of_checkName hvalid
    exact ⟨_, .badName hname hflaw, render_of_check (hcheck.trans (check_cons_of_error hflaw))⟩

theorem exists_render_iff :
    (∃ listing, render category names = .ok listing) ↔ IsListable category names := by
  constructor
  · rintro ⟨listing, hlisting⟩
    rw [isListable_iff]
    by_contra hfault
    push Not at hfault
    classical
    obtain ⟨failure, -, hfailure⟩ :=
      exists_reported (Nat.find_spec hfault) fun k hk => Nat.find_min hfault hk
    rw [hfailure] at hlisting
    contradiction
  · intro h
    exact ⟨_, render_of_isListable h⟩

theorem IsListable.perm {names' : List String} (h : IsListable category names)
    (hperm : names.Perm names') : IsListable category names' where
  named name hname := h.named name (hperm.mem_iff.mpr hname)
  nodup := (hperm.map ident).nodup_iff.mp h.nodup

/-- A list without faults is listed: its functions bear the identifiers of its names, no two of them
the same and none that of the function which every listing has. The first fault of another list is
what is reported of it. Whether there is a listing does not depend on the order of the names. -/
theorem render_reports_first_fault (category : String) (names : List String) :
    ((∀ i, ¬IsFault category names i) → ∃ listing, render category names = .ok listing ∧
      functions listing = names.map ident ∧ (functions listing).Nodup ∧
      "harness" ∉ functions listing) ∧
    (∀ i, IsFault category names i → (∀ k < i, ¬IsFault category names k) →
      ∃ failure, Reported category names i failure ∧ render category names = .error failure) ∧
    ∀ names', names.Perm names' → ((∃ listing, render category names = .ok listing) ↔
      ∃ listing, render category names' = .ok listing) := by
  refine ⟨fun hnone => ?_, fun i => exists_reported, fun names' hperm => ?_⟩
  · have hlistable := isListable_iff.mpr hnone
    refine ⟨_, render_of_isListable hlistable, functions_text category names, ?_, ?_⟩
    · rw [functions_text]
      exact hlistable.nodup
    · rw [functions_text, List.mem_map]
      rintro ⟨name, -, hident⟩
      exact (isIdent_ident name).not_used (by simp [hident])
  · rw [exists_render_iff, exists_render_iff]
    exact ⟨fun h => h.perm hperm, fun h => h.perm hperm.symm⟩

example : render "c" ["a", "2x", "t_2x", ".", "A"] = .error (.nameClash "2x" "t_2x" "t_2x") := by
  decide

end GoldenRun.Suite
