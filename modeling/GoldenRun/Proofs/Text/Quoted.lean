import GoldenRun.Proofs.Text.Hex
import GoldenRun.Text.Quoted

/-!
# String literals read back

A literal is found in front of other text without knowing what it says: a backslash takes the
character behind it along, and the first quote that is left closes the literal. The literal of a
text is found whole, whatever follows it, and says the text again. It stays on its line.
-/

namespace GoldenRun.Text.Quoted

/-- The inside of a literal up to the quote that closes it, and what follows. -/
def close? : List Char → Option (List Char × List Char)
  | [] => none
  | '"' :: rest => some (['"'], rest)
  | '\\' :: c :: rest => (close? rest).map (Prod.map ('\\' :: c :: ·) id)
  | c :: rest => (close? rest).map (Prod.map (c :: ·) id)

/-- The literal that a text begins with, and what follows. -/
def cut? : List Char → Option (List Char × List Char)
  | '"' :: rest => (close? rest).map (Prod.map ('"' :: ·) id)
  | _ => none

/-- What the literal says that a text begins with, and what follows. -/
def read? (text : List Char) : Option (List Char × List Char) :=
  (cut? text).bind fun (literal, rest) => (decode literal).map (·, rest)

def IsPlain (c : Char) : Prop :=
  c ≠ '"' ∧ c ≠ '\\' ∧ c ≠ '\r' ∧ c ≠ '\n'

theorem isPlain_of_letter? {c : Char} (h : letter? c = none) : IsPlain c := by
  refine ⟨?_, ?_, ?_, ?_⟩ <;> rintro rfl <;> simp [letter?] at h

theorem isPlain_of_isDigit {c : Char} (h : Hex.isDigit c = true) : IsPlain c ∧ c ≠ '\x7d' ∧
    c ≠ '_' := by
  refine ⟨⟨?_, ?_, ?_, ?_⟩, ?_, ?_⟩ <;> rintro rfl <;> simp [Hex.isDigit, Hex.digit?] at h

/-- A letter behind a backslash is none of those that begin a longer escape. -/
theorem letter_cases {c l : Char} (h : letter? c = some l) :
    l ≠ 'u' ∧ l ≠ 'x' ∧ l ≠ '\n' ∧ l ≠ '\r' := by
  unfold letter? at h
  split at h <;> first | (injection h with h; subst h; decide) | contradiction

theorem decodeBody_plain {c : Char} (h : IsPlain c) (rest : List Char) :
    decodeBody (c :: rest) = (decodeBody rest).map (c :: ·) := by
  obtain ⟨hquote, hslash, hreturn, -⟩ := h
  rw [decodeBody]
  · cases decodeBody rest <;> rfl
  all_goals simp_all

theorem decodeBody_letter {c l : Char} (h : letter? c = some l) (rest : List Char) :
    decodeBody ('\\' :: l :: rest) = (decodeBody rest).map (c :: ·) := by
  obtain ⟨hu, hx, hnewline, -⟩ := letter_cases h
  rw [decodeBody]
  · rw [ofLetter?_letter? h]
    cases decodeBody rest <;> rfl
  all_goals simp_all

theorem ofCode?_shortest (c : Char) : ofCode? (Hex.shortest c.toNat) = some c := by
  have hvalid : c.toNat.isValidChar := c.valid
  have hbound : c.toNat < 16 ^ 6 := by
    rcases hvalid with h | h <;> omega
  have hdigits : ∀ d ∈ Hex.shortest c.toNat, Hex.isDigit d = true :=
    fun d hd => Hex.isDigit_of_mem_shortest hd
  have hplain : (Hex.shortest c.toNat).filter (· != '_') = Hex.shortest c.toNat := by
    rw [List.filter_eq_self]
    intro d hd
    simpa using (isPlain_of_isDigit (hdigits d hd)).2.2
  have hhead : (Hex.shortest c.toNat).head? ≠ some '_' := by
    intro h
    exact (isPlain_of_isDigit (hdigits _ (List.mem_of_head? h))).2.2 rfl
  have hall : (Hex.shortest c.toNat).all Hex.isDigit = true := List.all_eq_true.mpr hdigits
  have hlength : ¬6 < (Hex.shortest c.toNat).length := (Hex.length_shortest_le hbound).not_gt
  unfold ofCode?
  simp only [hplain, hhead, Hex.shortest_ne_nil, hlength, hall, Hex.value_shortest,
    Bool.true_eq_false, or_self, if_false]
  rw [if_pos hvalid, Char.ofNat_toNat]

theorem takeWhile_shortest (n : ℕ) (rest : List Char) :
    (Hex.shortest n ++ '\x7d' :: rest).takeWhile (· != '\x7d') = Hex.shortest n := by
  rw [List.takeWhile_append_of_pos, List.takeWhile_cons_of_neg (by simp), List.append_nil]
  intro d hd
  simpa using (isPlain_of_isDigit (Hex.isDigit_of_mem_shortest hd)).2.1

theorem decodeBody_byCode (c : Char) (rest : List Char) :
    decodeBody (byCode c ++ rest) = (decodeBody rest).map (c :: ·) := by
  have hsplit : byCode c ++ rest =
      '\\' :: 'u' :: '\x7b' :: (Hex.shortest c.toNat ++ '\x7d' :: rest) := by
    simp [byCode]
  have hdrop : (Hex.shortest c.toNat ++ '\x7d' :: rest).drop
      ((Hex.shortest c.toNat).length + 1) = rest := by
    simp [List.drop_append]
  rw [hsplit, decodeBody]
  simp only [takeWhile_shortest, ofCode?_shortest, hdrop]
  cases decodeBody rest <;> simp

theorem decodeBody_escape (c : Char) (rest : List Char) :
    decodeBody (escape c ++ rest) = (decodeBody rest).map (c :: ·) := by
  unfold escape
  cases hletter : letter? c with
  | some l => exact decodeBody_letter hletter rest
  | none =>
    simp only
    split_ifs
    · exact decodeBody_plain (isPlain_of_letter? hletter) rest
    · exact decodeBody_byCode c rest

theorem decode_encode (text : List Char) : decode (encode text) = some text := by
  have hbody : decodeBody (text.flatMap escape ++ ['"']) = some text := by
    induction text with
    | nil => rw [List.flatMap_nil, List.nil_append, decodeBody]
    | cons c text ih =>
      rw [List.flatMap_cons, List.append_assoc, decodeBody_escape, ih, Option.map_some]
  exact hbody

theorem close?_plain {front : List Char} (h : ∀ c ∈ front, c ≠ '"' ∧ c ≠ '\\') (rest : List Char) :
    close? (front ++ rest) = (close? rest).map (Prod.map (front ++ ·) id) := by
  induction front with
  | nil =>
    rw [List.nil_append]
    cases close? rest <;> rfl
  | cons c front ih =>
    obtain ⟨hquote, hslash⟩ := h c (by simp)
    rw [List.cons_append, close?, ih fun d hd => h d (by simp [hd])]
    · cases close? rest <;> rfl
    all_goals simp_all

theorem close?_escape (c : Char) (rest : List Char) :
    close? (escape c ++ rest) = (close? rest).map (Prod.map (escape c ++ ·) id) := by
  unfold escape
  cases hletter : letter? c with
  | some l => rfl
  | none =>
    simp only
    split_ifs
    · exact close?_plain (by simpa using isPlain_of_letter? hletter |>.imp_right And.left) rest
    · have hcode : ∀ d ∈ '\x7b' :: Hex.shortest c.toNat ++ ['\x7d'], d ≠ '"' ∧ d ≠ '\\' := by
        intro d hd
        simp only [List.cons_append, List.mem_cons, List.mem_append, List.not_mem_nil,
          or_false] at hd
        rcases hd with rfl | hd | rfl
        · decide
        · exact (isPlain_of_isDigit (Hex.isDigit_of_mem_shortest hd)).1.imp_right And.left
        · decide
      have hsplit : byCode c = '\\' :: 'u' :: ('\x7b' :: Hex.shortest c.toNat ++ ['\x7d']) := rfl
      rw [hsplit, List.cons_append, List.cons_append, close?, close?_plain hcode]
      cases close? rest <;> rfl

theorem cut?_encode (text rest : List Char) :
    cut? (encode text ++ rest) = some (encode text, rest) := by
  have hclose : close? (text.flatMap escape ++ '"' :: rest) =
      some (text.flatMap escape ++ ['"'], rest) := by
    induction text with
    | nil => rfl
    | cons c text ih =>
      rw [List.flatMap_cons, List.append_assoc, close?_escape, ih]
      simp
  have hsplit : encode text ++ rest = '"' :: (text.flatMap escape ++ '"' :: rest) := by
    simp [encode]
  rw [hsplit, cut?, hclose]
  rfl

theorem read?_encode (text rest : List Char) : read? (encode text ++ rest) = some (text, rest) := by
  rw [read?, cut?_encode]
  simp [decode_encode]

theorem newline_not_mem_encode (text : List Char) : '\n' ∉ encode text := by
  have hescape : ∀ c, '\n' ∉ escape c := by
    intro c
    unfold escape
    cases hletter : letter? c with
    | some l => simpa using (letter_cases hletter).2.2.1.symm
    | none =>
      simp only
      split_ifs
      · simpa using (isPlain_of_letter? hletter).2.2.2.symm
      · have hdigits : '\n' ∉ Hex.shortest c.toNat :=
          fun h => (isPlain_of_isDigit (Hex.isDigit_of_mem_shortest h)).1.2.2.2 rfl
        simpa [byCode] using hdigits
  simpa [encode] using fun c _ => hescape c

end GoldenRun.Text.Quoted
