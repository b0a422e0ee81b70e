import GoldenRun.Json.Record
import Mathlib.Data.List.Basic

/-!
# What records say

A record gives each of its fields some values: none if it is missing, and several if it is written
more than once. A field that is given once has the value that its type finds there, and one that is
missing has its default. In which order the members of an object stand, and what other members it
has, makes no difference.
-/

namespace GoldenRun.Json

def values (name : String) (members : List (Option String × Json)) : List Json :=
  members.filterMap fun (key, value) => if key = some name then some value else none

def Named (members : List (Option String × Json)) : Prop :=
  ∀ member ∈ members, member.1 ≠ none

/-- The values that a record gives to fields. -/
inductive Fields (names : List String) : Json → (String → List Json) → Prop
  | object {members : List (Option String × Json)} (h : Named members) :
      Fields names (.object members) fun name => values name members
  | array {items : List Json} (h : items.length ≤ names.length) :
      Fields names (.array items) fun name => (items[names.idxOf name]?).toList

variable {α : Type} {means : Json → α → Prop} {default x : α} {decode : Json → Option α}
  {name key : String} {names : List String} {value : Json} {given : List Json}
  {members members' : List (Option String × Json)}

@[simp]
theorem values_nil : values name [] = [] :=
  rfl

@[simp]
theorem values_cons_self : values name ((some name, value) :: members) =
    value :: values name members := by
  simp [values]

theorem values_cons_of_ne (h : key ≠ name) :
    values name ((some key, value) :: members) = values name members := by
  simp [values, h]

theorem values_perm (h : members.Perm members') :
    (values name members).Perm (values name members') :=
  h.filterMap _

theorem mem_values : value ∈ values name members ↔ (some name, value) ∈ members := by
  unfold values
  rw [List.mem_filterMap]
  constructor
  · rintro ⟨⟨key, value'⟩, hmem, h⟩
    obtain ⟨rfl, rfl⟩ : key = some name ∧ value' = value := by simpa using h
    exact hmem
  · intro h
    exact ⟨_, h, if_pos rfl⟩

theorem keyed?_cons (key : Option String) : keyed? ((key, value) :: members) =
    key.bind fun name => (keyed? members).map ((name, value) :: ·) := by
  cases key with
  | none => simp [keyed?]
  | some name =>
    simp only [keyed?, List.mapM_cons, Option.map_eq_bind]
    rfl

theorem named_cons {member : Option String × Json} :
    Named (member :: members) ↔ member.1 ≠ none ∧ Named members :=
  List.forall_mem_cons

theorem named_iff : Named members ↔ ∃ keyed, keyed? members = some keyed := by
  induction members with
  | nil => simp [Named, keyed?]
  | cons member members ih =>
    obtain ⟨key, value⟩ := member
    rw [named_cons, ih, keyed?_cons]
    cases key <;> simp

theorem values_of_keyed? {keyed : List (String × Json)} (h : keyed? members = some keyed) :
    (values name members).length = occurrences name keyed ∧
      (values name members).head? = keyed.lookup name := by
  induction members generalizing keyed with
  | nil =>
    obtain rfl : [] = keyed := by simpa [keyed?] using h
    simp [occurrences]
  | cons member members ih =>
    obtain ⟨key, value⟩ := member
    rw [keyed?_cons] at h
    obtain ⟨key, rfl, h⟩ := Option.bind_eq_some_iff.mp h
    obtain ⟨keyed, hkeyed, rfl⟩ := Option.map_eq_some_iff.mp h
    obtain ⟨hlength, hhead⟩ := ih hkeyed
    unfold occurrences at hlength ⊢
    by_cases hname : key = name
    · subst hname
      simp [hlength]
    · rw [values_cons_of_ne hname]
      simp [List.lookup_cons, beq_false_of_ne (Ne.symm hname), hname, hlength, hhead]

theorem fields?_array {items : List Json} (hnames : names.Nodup)
    (h : items.length ≤ names.length) :
    fields? names (.array items) = some (names.map fun name => items[names.idxOf name]?) := by
  unfold fields?
  simp only [if_pos h, Option.some.injEq]
  apply List.ext_getElem
  · simp
    omega
  · intro i hi hi'
    have hname : i < names.length := by simpa using hi'
    rw [List.getElem_map, hnames.idxOf_getElem]
    by_cases hitem : i < items.length
    · simp [hitem]
    · rw [List.getElem_append_right (by simpa using hitem)]
      simp [hitem]

theorem fields?_of_fields (hnames : names.Nodup) {given : String → List Json}
    (h : Fields names value given) : fields? names value =
      if ∀ name ∈ names, (given name).length ≤ 1 then
        some (names.map fun name => (given name).head?)
      else none := by
  cases h with
  | @object members h =>
    obtain ⟨keyed, hkeyed⟩ := named_iff.mp h
    unfold fields?
    simp only [hkeyed, Option.bind_eq_bind, Option.bind_some, values_of_keyed? hkeyed]
    simp
  | @array items h =>
    rw [fields?_array hnames h, if_pos]
    · simp
    · intro name _
      simp only [Option.length_toList]
      split <;> simp

theorem exists_fields {fields : List (Option Json)} (h : fields? names value = some fields) :
    ∃ given, Fields names value given := by
  unfold fields? at h
  split at h
  · obtain ⟨keyed, hkeyed, -⟩ := Option.bind_eq_some_iff.mp h
    exact ⟨_, .object (named_iff.mpr ⟨keyed, hkeyed⟩)⟩
  · split_ifs at h with hlength
    exact ⟨_, .array hlength⟩
  · contradiction

/-- A record is read from the first values of its fields, if none has several of them. -/
theorem fields?_bind_eq_some_iff (hnames : names.Nodup) {read : List (Option Json) → Option α} :
    (fields? names value).bind read = some x ↔ ∃ given, Fields names value given ∧
      (∀ name ∈ names, (given name).length ≤ 1) ∧
      read (names.map fun name => (given name).head?) = some x := by
  constructor
  · intro h
    obtain ⟨fields, hfields, hread⟩ := Option.bind_eq_some_iff.mp h
    obtain ⟨given, hgiven⟩ := exists_fields hfields
    rw [fields?_of_fields hnames hgiven] at hfields
    obtain ⟨hone, hvalues⟩ := Option.ite_none_right_eq_some.mp hfields
    obtain rfl := Option.some.inj hvalues
    exact ⟨given, hgiven, hone, hread⟩
  · rintro ⟨given, hgiven, hone, hread⟩
    rw [fields?_of_fields hnames hgiven, if_pos hone, Option.bind_some, hread]

theorem exists_fields_object_iff {holds : (String → List Json) → Prop} :
    (∃ given, Fields names (.object members) given ∧ holds given) ↔
      Named members ∧ holds fun name => values name members := by
  constructor
  · rintro ⟨_, ⟨hnamed⟩, hholds⟩
    exact ⟨hnamed, hholds⟩
  · rintro ⟨hnamed, hholds⟩
    exact ⟨_, .object hnamed, hholds⟩

/-- What the values of a field say: its default if there is none, and what the only one means. -/
inductive Gives (means : Json → α → Prop) (default : α) : List Json → α → Prop
  | missing : Gives means default [] default
  | given {value : Json} {x : α} (h : means value x) : Gives means default [value] x

theorem gives_iff (hdecode : ∀ value x, decode value = some x ↔ means value x) :
    Gives means default given x ↔
      given.length ≤ 1 ∧ fieldOr default decode given.head? = some x := by
  constructor
  · rintro (_ | h)
    · exact ⟨by simp, rfl⟩
    · exact ⟨by simp, (hdecode _ _).mpr h⟩
  · rintro ⟨hone, h⟩
    match given, hone with
    | [], _ =>
      obtain rfl := Option.some.inj h
      exact .missing
    | [value], _ => exact .given ((hdecode _ _).mp h)

theorem Gives.length_le (h : Gives means default given x) : given.length ≤ 1 := by
  cases h <;> simp

theorem Gives.perm {given' : List Json} (h : Gives means default given x)
    (hperm : given.Perm given') : Gives means default given' x := by
  cases h with
  | missing =>
    obtain rfl := List.nil_perm.mp hperm
    exact .missing
  | given h =>
    obtain rfl := List.singleton_perm.mp hperm
    exact .given h

theorem gives_perm {given' : List Json} (h : given.Perm given') :
    Gives means default given x ↔ Gives means default given' x :=
  ⟨fun hgives => hgives.perm h, fun hgives => hgives.perm h.symm⟩

theorem Gives.means_of_mem (h : Gives means default given x) (hmem : value ∈ given) :
    means value x := by
  cases h with
  | missing => simp at hmem
  | given h =>
    obtain rfl := List.mem_singleton.mp hmem
    exact h

theorem gives_nil_iff : Gives means default [] x ↔ x = default := by
  constructor
  · rintro ⟨⟩
    rfl
  · rintro rfl
    exact .missing

theorem gives_singleton_iff : Gives means default [value] x ↔ means value x := by
  constructor
  · rintro (_ | h)
    exact h
  · exact .given

theorem gives_cons_congr {value' : Json} (h : means value x ↔ means value' x) :
    Gives means default (value :: given) x ↔ Gives means default (value' :: given) x := by
  cases given with
  | nil => rw [gives_singleton_iff, gives_singleton_iff, h]
  | cons => constructor <;> rintro ⟨⟩

theorem exists_gives (default : α) (hone : given.length ≤ 1)
    (htyped : ∀ value ∈ given, ∃ x, means value x) : ∃ x, Gives means default given x := by
  match given, hone with
  | [], _ => exact ⟨default, .missing⟩
  | [value], _ =>
    obtain ⟨x, h⟩ := htyped value (by simp)
    exact ⟨x, .given h⟩

/-- A record gives each of its fields at most one value, and one of the type of the field. -/
def IsRecord (types : List (String × (Json → Prop))) (value : Json) : Prop :=
  ∃ given, Fields (types.map Prod.fst) value given ∧
    ∀ field ∈ types, (given field.1).length ≤ 1 ∧ ∀ value ∈ given field.1, field.2 value

def IsText (value : Json) (text : String) : Prop :=
  value = .text (some text)

def IsFlag (value : Json) (flag : Bool) : Prop :=
  value = .bool flag

def IsNumber (bound : ℕ) (value : Json) (n : ℕ) : Prop :=
  value = .number (some n) ∧ n < bound

inductive Nullable (means : Json → α → Prop) : Json → Option α → Prop
  | null : Nullable means .null none
  | given {value : Json} {x : α} (h : means value x) : Nullable means value (some x)

theorem asText_eq_some_iff {text : String} : asText value = some text ↔ IsText value text := by
  cases value <;> simp [asText, IsText]

theorem asBool_eq_some_iff {flag : Bool} : asBool value = some flag ↔ IsFlag value flag := by
  cases value <;> simp [asBool, IsFlag]

theorem asNumber_eq_some_iff {bound n : ℕ} :
    asNumber bound value = some n ↔ IsNumber bound value n := by
  unfold asNumber IsNumber
  split
  · next m =>
    split_ifs with hlow
    · simp only [Option.some.injEq, number.injEq]
      exact ⟨fun h => ⟨h, h ▸ hlow⟩, And.left⟩
    · simp only [number.injEq, Option.some.injEq, false_iff, not_and]
      rintro rfl
      exact hlow
  · simp_all

theorem asOptional_eq_some_iff (hdecode : ∀ value x, decode value = some x ↔ means value x)
    (hnull : decode .null = none) {x : Option α} :
    asOptional decode value = some x ↔ Nullable means value x := by
  constructor
  · intro h
    unfold asOptional at h
    split at h
    · obtain rfl := Option.some.inj h
      exact .null
    · obtain ⟨y, hy, rfl⟩ := Option.map_eq_some_iff.mp h
      exact .given ((hdecode _ _).mp hy)
  · rintro (_ | @⟨_, y, h⟩)
    · rfl
    · have hy := (hdecode _ _).mpr h
      unfold asOptional
      split
      · rw [hnull] at hy
        contradiction
      · rw [hy, Option.map_some]

theorem asChoice_none_iff : asChoice value = some (name, none) ↔ value = .text (some name) := by
  unfold asChoice
  split <;> simp_all

theorem asChoice_some_iff {content : Json} :
    asChoice value = some (name, some content) ↔ value = .object [(some name, content)] := by
  unfold asChoice
  split <;> simp_all

theorem isBare_iff {content : Option Json} :
    isBare content = true ↔ content = none ∨ content = some .null := by
  unfold isBare
  split <;> simp_all

/-- Objects with the same known members, in another order and among other unknown ones. -/
inductive Reworded (names : List String) :
    List (Option String × Json) → List (Option String × Json) → Prop
  | reordered {members members' : List (Option String × Json)} (h : members.Perm members') :
      Reworded names members members'
  | unknown {members : List (Option String × Json)} {key : String} (value : Json)
      (h : key ∉ names) : Reworded names members ((some key, value) :: members)
  | symm {members members' : List (Option String × Json)} (h : Reworded names members members') :
      Reworded names members' members
  | trans {first second third : List (Option String × Json)} (h : Reworded names first second)
      (h' : Reworded names second third) : Reworded names first third

theorem Reworded.values_perm (h : Reworded names members members') :
    (Named members ↔ Named members') ∧
      ∀ name ∈ names, (values name members).Perm (values name members') := by
  induction h with
  | reordered h =>
    exact ⟨⟨fun hnamed _ hmem => hnamed _ (h.mem_iff.mpr hmem),
      fun hnamed _ hmem => hnamed _ (h.mem_iff.mp hmem)⟩, fun _ _ => Json.values_perm h⟩
  | unknown value h =>
    refine ⟨by simp [named_cons], fun name hname => ?_⟩
    rw [values_cons_of_ne (ne_of_mem_of_not_mem hname h).symm]
  | symm h ih => exact ⟨ih.1.symm, fun name hname => (ih.2 name hname).symm⟩
  | trans h h' ih ih' =>
    exact ⟨ih.1.trans ih'.1, fun name hname => (ih.2 name hname).trans (ih'.2 name hname)⟩

/-- What is told by the values of the fields, whatever their order, is told in other words too. -/
theorem Reworded.exists_fields_iff (h : Reworded names members members')
    {holds : (String → List Json) → Prop}
    (hholds : ∀ given given', (∀ name ∈ names, (given name).Perm (given' name)) →
      (holds given ↔ holds given')) :
    (∃ given, Fields names (.object members) given ∧ holds given) ↔
      ∃ given, Fields names (.object members') given ∧ holds given := by
  obtain ⟨hnamed, hperm⟩ := h.values_perm
  rw [exists_fields_object_iff, exists_fields_object_iff, hnamed, hholds _ _ hperm]

end GoldenRun.Json
