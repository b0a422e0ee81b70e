import GoldenRun.Json.Value
import GoldenRun.Proofs.Json.Token

/-!
# Written forms of JSON values

A value is written as its tokens, with commas between items and between members. When they are
read, whatever is open around the value stays as it is, and the value is what has been completed.
-/

namespace GoldenRun.Json

mutual

def tokensOf : Json → List Token
  | .null => [.null]
  | .bool value => [.bool value]
  | .number value => [.number value]
  | .text value => [.text value]
  | .array [] => [.openArray, .closeArray]
  | .array (item :: more) =>
    .openArray :: (tokensOf item ++ (tokensOfItems more ++ [.closeArray]))
  | .object [] => [.openObject, .closeObject]
  | .object ((key, value) :: more) =>
    .openObject :: .text key :: .colon ::
      (tokensOf value ++ (tokensOfMembers more ++ [.closeObject]))

def tokensOfItems : List Json → List Token
  | [] => []
  | item :: more => .comma :: (tokensOf item ++ tokensOfItems more)

def tokensOfMembers : List (Option String × Json) → List Token
  | [] => []
  | (key, value) :: more =>
    .comma :: .text key :: .colon :: (tokensOf value ++ tokensOfMembers more)

end

def Written (value : Json) (text : List Char) : Prop :=
  Layout (tokensOf value) text

variable {value : Json} {text : List Char} {rest : List Token} {token : Token}

/-- What follows a value: tokens that can stand side by side, a mark in front. -/
def Follows (rest : List Token) : Prop :=
  rest.IsChain Token.Parts ∧ ∀ token ∈ rest.head?, token.IsMark

theorem isChain_cons_of_ne (hnumber : ∀ value, token ≠ .number value)
    (h : rest.IsChain Token.Parts) : (token :: rest).IsChain Token.Parts := by
  refine List.isChain_cons.mpr ⟨?_, h⟩
  rintro _ - ⟨value, rfl⟩
  exact absurd rfl (hnumber value)

theorem follows_cons (hmark : token.IsMark) (h : rest.IsChain Token.Parts) :
    Follows (token :: rest) := by
  refine ⟨isChain_cons_of_ne ?_ h, ?_⟩
  · rintro value rfl
    simp [Token.IsMark] at hmark
  · rintro _ ⟨⟩
    exact hmark

mutual

theorem isChain_tokensOf (value : Json) {rest : List Token} (h : Follows rest) :
    (tokensOf value ++ rest).IsChain Token.Parts := by
  match value with
  | .null | .bool _ | .text _ => exact isChain_cons_of_ne (by simp) h.1
  | .number _ => exact List.isChain_cons.mpr ⟨fun _ hnext _ => h.2 _ hnext, h.1⟩
  | .array [] | .object [] =>
    exact isChain_cons_of_ne (by simp) (isChain_cons_of_ne (by simp) h.1)
  | .array (item :: more) =>
    simp only [tokensOf, List.cons_append, List.append_assoc, List.nil_append]
    have hclose : Follows (.closeArray :: rest) := follows_cons (by decide) h.1
    exact isChain_cons_of_ne (by simp) (isChain_tokensOf item (follows_tokensOfItems more hclose))
  | .object ((key, value) :: more) =>
    simp only [tokensOf, List.cons_append, List.append_assoc, List.nil_append]
    have hclose : Follows (.closeObject :: rest) := follows_cons (by decide) h.1
    have hvalue := isChain_tokensOf value (follows_tokensOfMembers more hclose)
    exact isChain_cons_of_ne (by simp)
      (isChain_cons_of_ne (by simp) (isChain_cons_of_ne (by simp) hvalue))

theorem follows_tokensOfItems (items : List Json) {rest : List Token} (h : Follows rest) :
    Follows (tokensOfItems items ++ rest) := by
  match items with
  | [] => exact h
  | item :: more =>
    simp only [tokensOfItems, List.cons_append, List.append_assoc]
    exact follows_cons (by decide) (isChain_tokensOf item (follows_tokensOfItems more h))

theorem follows_tokensOfMembers (members : List (Option String × Json)) {rest : List Token}
    (h : Follows rest) : Follows (tokensOfMembers members ++ rest) := by
  match members with
  | [] => exact h
  | (key, value) :: more =>
    simp only [tokensOfMembers, List.cons_append, List.append_assoc]
    have hvalue := isChain_tokensOf value (follows_tokensOfMembers more h)
    exact follows_cons (by decide) (isChain_cons_of_ne (by simp)
      (isChain_cons_of_ne (by simp) hvalue))

end

/-- Where an array may end instead, a value is taken all the same: none begins with the end. -/
theorem takeAll_item (value : Json) (frames : List Frame) (rest : List Token) :
    Reader.takeAll ⟨.array [] :: frames, .item⟩ (tokensOf value ++ rest) =
      Reader.takeAll ⟨.array [] :: frames, .value⟩ (tokensOf value ++ rest) := by
  match value with
  | .null | .bool _ | .text _ | .number _ | .array [] | .array (_ :: _) | .object []
  | .object (_ :: _) => rfl

mutual

/-- A reader that expects a value takes the tokens of a value, and nothing around it changes. -/
theorem takeAll_tokensOf (value : Json) (frames : List Frame) (rest : List Token) :
    Reader.takeAll ⟨frames, .value⟩ (tokensOf value ++ rest) =
      Reader.takeAll ⟨frames, .after value⟩ rest := by
  match value with
  | .null | .bool _ | .text _ | .number _ | .array [] | .object [] => rfl
  | .array (item :: more) =>
    simp only [tokensOf, List.cons_append, List.append_assoc, List.nil_append]
    calc Reader.takeAll ⟨frames, .value⟩ (.openArray :: _)
      _ = Reader.takeAll ⟨.array [] :: frames, .item⟩ _ := rfl
      _ = Reader.takeAll ⟨.array [] :: frames, .value⟩ _ := takeAll_item item _ _
      _ = Reader.takeAll ⟨.array [] :: frames, .after item⟩ _ := takeAll_tokensOf item _ _
      _ = _ := takeAll_tokensOfItems more _ _ _ _
  | .object ((key, value) :: more) =>
    simp only [tokensOf, List.cons_append, List.append_assoc, List.nil_append]
    calc Reader.takeAll ⟨frames, .value⟩ (.openObject :: .text key :: .colon :: _)
      _ = Reader.takeAll ⟨.object [] key :: frames, .value⟩ _ := rfl
      _ = Reader.takeAll ⟨.object [] key :: frames, .after value⟩ _ := takeAll_tokensOf value _ _
      _ = _ := takeAll_tokensOfMembers more _ _ _ _ _

theorem takeAll_tokensOfItems (more : List Json) (done : List Json) (last : Json)
    (frames : List Frame) (rest : List Token) :
    Reader.takeAll ⟨.array done :: frames, .after last⟩
        (tokensOfItems more ++ .closeArray :: rest) =
      Reader.takeAll ⟨frames, .after (.array ((last :: done).reverse ++ more))⟩ rest := by
  match more with
  | [] =>
    rw [List.append_nil]
    rfl
  | item :: more =>
    simp only [tokensOfItems, List.cons_append, List.append_assoc]
    calc Reader.takeAll ⟨.array done :: frames, .after last⟩ (.comma :: _)
      _ = Reader.takeAll ⟨.array (last :: done) :: frames, .value⟩ _ := rfl
      _ = Reader.takeAll ⟨.array (last :: done) :: frames, .after item⟩ _ :=
        takeAll_tokensOf item _ _
      _ = _ := takeAll_tokensOfItems more _ _ _ _
      _ = _ := by rw [List.reverse_cons, List.append_assoc, List.singleton_append]

theorem takeAll_tokensOfMembers (more done : List (Option String × Json)) (key : Option String)
    (last : Json) (frames : List Frame) (rest : List Token) :
    Reader.takeAll ⟨.object done key :: frames, .after last⟩
        (tokensOfMembers more ++ .closeObject :: rest) =
      Reader.takeAll ⟨frames, .after (.object (((key, last) :: done).reverse ++ more))⟩ rest := by
  match more with
  | [] =>
    rw [List.append_nil]
    rfl
  | (next, value) :: more =>
    simp only [tokensOfMembers, List.cons_append, List.append_assoc]
    calc Reader.takeAll ⟨.object done key :: frames, .after last⟩
          (.comma :: .text next :: .colon :: _)
      _ = Reader.takeAll ⟨.object ((key, last) :: done) next :: frames, .value⟩ _ := rfl
      _ = Reader.takeAll ⟨.object ((key, last) :: done) next :: frames, .after value⟩ _ :=
        takeAll_tokensOf value _ _
      _ = _ := takeAll_tokensOfMembers more _ _ _ _ _
      _ = _ := by rw [List.reverse_cons, List.append_assoc, List.singleton_append]

end

/-- A written form of a value is read as that value. -/
theorem parse?_of_written (h : Written value text) : parse? text = some value := by
  have hchain : (tokensOf value).IsChain Token.Parts := by
    rw [← List.append_nil (tokensOf value)]
    exact isChain_tokensOf value ⟨.nil, by simp⟩
  have htake := takeAll_tokensOf value [] []
  rw [List.append_nil] at htake
  unfold parse? ofTokens?
  rw [tokens_of_layout h hchain, Option.bind_some, Reader.start, htake]
  rfl

end GoldenRun.Json
