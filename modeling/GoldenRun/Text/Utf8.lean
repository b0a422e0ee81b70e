/-!
# Bytes and text

The UTF-8 form of characters, and two ways back from bytes to text: a strict one, which takes
well-formed bytes only, and a lenient one, which puts one replacement character in the place of
each longest beginning of a character that is not completed, and of each byte that begins none.
-/

namespace GoldenRun

abbrev Bytes := List UInt8

namespace Utf8

def encode (text : List Char) : Bytes :=
  text.flatMap String.utf8EncodeChar

@[simp]
theorem encode_nil : encode [] = [] := rfl

@[simp]
theorem encode_append (s t : List Char) : encode (s ++ t) = encode s ++ encode t := by
  simp [encode]

def within (least greatest b : UInt8) : Bool :=
  least ≤ b && b ≤ greatest

/-- Whether a byte continues a character. -/
def isTail (b : UInt8) : Bool :=
  within 0x80 0xBF b

/-- The low bits of a byte, below a power of two. -/
def low (b : UInt8) (modulus : Nat) : Nat :=
  b.toNat % modulus

/-- The bounds of the second byte of a three-byte character with a given first byte. They exclude
the forms of shorter characters and of surrogates. -/
def secondOfThree (b : UInt8) : UInt8 × UInt8 :=
  if b = 0xE0 then (0xA0, 0xBF) else if b = 0xED then (0x80, 0x9F) else (0x80, 0xBF)

/-- The bounds of the second byte of a four-byte character with a given first byte. They exclude
the forms of shorter characters and of code points above the last. -/
def secondOfFour (b : UInt8) : UInt8 × UInt8 :=
  if b = 0xF0 then (0x90, 0xBF) else if b = 0xF4 then (0x80, 0x8F) else (0x80, 0xBF)

/-- Reads a character that begins with byte `b`. Without one, the result holds what follows the
longest beginning of a character, or the byte alone if it begins none. -/
def scan (b : UInt8) (rest : Bytes) : Option Char × Bytes :=
  if b < 0x80 then (some (Char.ofNat b.toNat), rest)
  else if within 0xC2 0xDF b then
    match rest with
    | b₁ :: rest₁ =>
      if isTail b₁ then (some (Char.ofNat (low b 32 * 64 + low b₁ 64)), rest₁) else (none, rest)
    | [] => (none, rest)
  else if within 0xE0 0xEF b then
    match rest with
    | b₁ :: rest₁ =>
      if within (secondOfThree b).1 (secondOfThree b).2 b₁ then
        match rest₁ with
        | b₂ :: rest₂ =>
          if isTail b₂ then
            (some (Char.ofNat ((low b 16 * 64 + low b₁ 64) * 64 + low b₂ 64)), rest₂)
          else (none, rest₁)
        | [] => (none, rest₁)
      else (none, rest)
    | [] => (none, rest)
  else if within 0xF0 0xF4 b then
    match rest with
    | b₁ :: rest₁ =>
      if within (secondOfFour b).1 (secondOfFour b).2 b₁ then
        match rest₁ with
        | b₂ :: rest₂ =>
          if isTail b₂ then
            match rest₂ with
            | b₃ :: rest₃ =>
              if isTail b₃ then
                (some (Char.ofNat
                  (((low b 8 * 64 + low b₁ 64) * 64 + low b₂ 64) * 64 + low b₃ 64)), rest₃)
              else (none, rest₂)
            | [] => (none, rest₂)
          else (none, rest₁)
        | [] => (none, rest₁)
      else (none, rest)
    | [] => (none, rest)
  else (none, rest)

theorem length_scan_le (b : UInt8) (rest : Bytes) : (scan b rest).2.length ≤ rest.length := by
  unfold scan
  repeat' split
  all_goals simp_all only [List.length_cons]
  all_goals omega

/-- The characters of bytes, with `none` for each ill-formed part. -/
def units : Bytes → List (Option Char)
  | [] => []
  | b :: rest =>
    have := length_scan_le b rest
    (scan b rest).1 :: units (scan b rest).2
termination_by bytes => bytes.length
decreasing_by simp only [List.length_cons]; omega

theorem units_cons (b : UInt8) (rest : Bytes) :
    units (b :: rest) = (scan b rest).1 :: units (scan b rest).2 := by
  rw [units]

def decode? (bytes : Bytes) : Option (List Char) :=
  (units bytes).mapM id

def replacement : Char := '\uFFFD'

/-- The text of bytes, with a replacement character for each ill-formed part. -/
def decodeLossy (bytes : Bytes) : List Char :=
  (units bytes).map (·.getD replacement)

end Utf8

end GoldenRun
