/-! Percent escapes. Escaped bytes are put together to characters; bytes that make no character
are replaced. -/
namespace FloodScheme.Text

def hexValue? (c : Char) : Option Nat :=
  if '0' ≤ c ∧ c ≤ '9' then some (c.toNat - 48)
  else if 'a' ≤ c ∧ c ≤ 'f' then some (c.toNat - 87)
  else if 'A' ≤ c ∧ c ≤ 'F' then some (c.toNat - 55)
  else none

/-- Bytes of a character. -/
def bytesOf (c : Char) : List Nat := (String.singleton c).toUTF8.toList.map UInt8.toNat

/-- Bytes of a text with its escapes resolved. -/
def unescapedBytes : List Char → List Nat
  | [] => []
  | '%' :: a :: b :: rest =>
    match hexValue? a, hexValue? b with
    | some x, some y => (16 * x + y) :: unescapedBytes rest
    | _, _ => 37 :: unescapedBytes (a :: b :: rest)
  | c :: rest => bytesOf c ++ unescapedBytes rest

/-- Number of bytes behind a leading byte, its own bits, and the range of the next byte. -/
def leadingByte? (b : Nat) : Option (Nat × Nat × Nat × Nat) :=
  if 0xC2 ≤ b ∧ b ≤ 0xDF then some (1, b - 0xC0, 0x80, 0xBF)
  else if b = 0xE0 then some (2, 0, 0xA0, 0xBF)
  else if b = 0xED then some (2, 0xD, 0x80, 0x9F)
  else if 0xE1 ≤ b ∧ b ≤ 0xEF then some (2, b - 0xE0, 0x80, 0xBF)
  else if b = 0xF0 then some (3, 0, 0x90, 0xBF)
  else if b = 0xF4 then some (3, 4, 0x80, 0x8F)
  else if 0xF1 ≤ b ∧ b ≤ 0xF3 then some (3, b - 0xF0, 0x80, 0xBF)
  else none

/-- Bytes as characters. A state holds how many bytes are still to come, the bits so far and
the range of the next byte; a broken sequence is replaced as a whole. -/
def charactersFrom : Nat × Nat × Nat × Nat → List Nat → List Char
  | (0, _, _, _), [] => []
  | (_ + 1, _, _, _), [] => ['\uFFFD']
  | (0, _, _, _), b :: rest =>
    if b < 0x80 then Char.ofNat b :: charactersFrom (0, 0, 0, 0) rest
    else
      match leadingByte? b with
      | some state => charactersFrom state rest
      | none => '\uFFFD' :: charactersFrom (0, 0, 0, 0) rest
  | (left + 1, bits, low, high), b :: rest =>
    if low ≤ b ∧ b ≤ high then
      let bits := 64 * bits + (b - 0x80)
      if left = 0 then Char.ofNat bits :: charactersFrom (0, 0, 0, 0) rest
      else charactersFrom (left, bits, 0x80, 0xBF) rest
    else if b < 0x80 then '\uFFFD' :: Char.ofNat b :: charactersFrom (0, 0, 0, 0) rest
    else
      match leadingByte? b with
      | some state => '\uFFFD' :: charactersFrom state rest
      | none => '\uFFFD' :: '\uFFFD' :: charactersFrom (0, 0, 0, 0) rest

def unescape (cs : List Char) : List Char :=
  charactersFrom (0, 0, 0, 0) (unescapedBytes cs)

end FloodScheme.Text
