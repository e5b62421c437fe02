import FloodScheme.Value

/-! Reading JSON. Members keep their order; of two with one name the later value stands in the
place of the earlier. `NaN` and the infinities are numbers. A text that is not JSON is reported
with the number of characters left where reading stopped. -/
namespace FloodScheme.Json
open Number

inductive Unread
  | stopped (left : Nat)
  | longInteger
  | tooDeep
deriving DecidableEq

/-- Lists and objects inside one another, at most. -/
def greatestDepth : Nat := 950

def isGap (c : Char) : Bool := c == ' ' || c == '\t' || c == '\n' || c == '\r'

def skipGap (cs : List Char) : List Char := cs.dropWhile isGap

def hexDigit? (c : Char) : Option Nat :=
  if '0' ≤ c ∧ c ≤ '9' then some (c.toNat - 48)
  else if 'a' ≤ c ∧ c ≤ 'f' then some (c.toNat - 87)
  else if 'A' ≤ c ∧ c ≤ 'F' then some (c.toNat - 55)
  else none

def hexCode? (a b c d : Char) : Option Nat := do
  pure (4096 * (← hexDigit? a) + 256 * (← hexDigit? b) + 16 * (← hexDigit? c) + (← hexDigit? d))

def isHighHalf (n : Nat) : Bool := 0xD800 ≤ n && n < 0xDC00

def isLowHalf (n : Nat) : Bool := 0xDC00 ≤ n && n < 0xE000

/-- A half without its other half cannot be kept. -/
def codePoint (n : Nat) : Char := if isHighHalf n || isLowHalf n then '\uFFFD' else Char.ofNat n

def escaped? (c : Char) : Option Char :=
  if c = '"' ∨ c = '\\' ∨ c = '/' then some c
  else if c = 'b' then some '\x08'
  else if c = 'f' then some '\x0c'
  else if c = 'n' then some '\n'
  else if c = 'r' then some '\r'
  else if c = 't' then some '\t'
  else none

/-- Characters of a text behind its opening quote, which had `opened` characters left; `fuel`
characters at most. -/
def readText (opened : Nat) :
    Nat → List Char → List Char → Except Unread (List Char × List Char)
  | 0, _, _ => .error (.stopped opened)
  | _, _, [] => .error (.stopped opened)
  | _, acc, '"' :: rest => .ok (acc.reverse, rest)
  | fuel + 1, acc, '\\' :: 'u' :: rest =>
    let bad : Except Unread (List Char × List Char) := .error (.stopped (rest.length + 1))
    match rest with
    | a :: b :: c :: d :: after@(_ :: _) =>
      match hexCode? a b c d with
      | none => bad
      | some high =>
        match isHighHalf high, after with
        | true, '\\' :: 'u' :: e :: f :: g :: h :: after'@(_ :: _) =>
          match hexCode? e f g h with
          | none => .error (.stopped (after'.length + 5))
          | some low =>
            if isLowHalf low then
              readText opened fuel
                (Char.ofNat (0x10000 + 0x400 * (high - 0xD800) + (low - 0xDC00)) :: acc) after'
            else readText opened fuel (codePoint high :: acc) after
        | _, _ => readText opened fuel (codePoint high :: acc) after
    | _ => bad
  | fuel + 1, acc, '\\' :: c :: rest =>
    match escaped? c with
    | some e => readText opened fuel (e :: acc) rest
    | none => .error (.stopped (rest.length + 2))
  | _, _, ['\\'] => .error (.stopped opened)
  | fuel + 1, acc, c :: rest =>
    if c.toNat < 32 then .error (.stopped (rest.length + 1))
    else readText opened fuel (c :: acc) rest

/-- Digits of the whole part: no zero in front of another digit. -/
def takeWhole : List Char → Option (List Nat × List Char)
  | '0' :: rest => some ([0], rest)
  | cs =>
    match takeDigits cs with
    | ([], _) => none
    | (ds, rest) => some (ds, rest)

def takeFraction (cs : List Char) : Option (List Nat × List Char) :=
  match cs with
  | '.' :: rest =>
    match takeDigits rest with
    | ([], _) => none
    | (ds, rest) => some (ds, rest)
  | _ => none

def takeExponent (cs : List Char) : Option (Int × List Char) :=
  match cs with
  | c :: rest =>
    if c = 'e' ∨ c = 'E' then
      let (negative, rest) := takeSign rest
      match takeDigits rest with
      | ([], _) => none
      | (ds, rest) => some (signed negative (valueOf ds), rest)
    else none
  | [] => none

def readNumber (cs : List Char) : Except Unread (Value × List Char) :=
  let (negative, body) :=
    match cs with
    | '-' :: rest => (true, rest)
    | _ => (false, cs)
  match takeWhole body with
  | none => .error (.stopped cs.length)
  | some (whole, rest) =>
    match takeFraction rest, takeExponent ((takeFraction rest).elim rest Prod.snd) with
    | none, none =>
      if longestNumeral < whole.length then .error .longInteger
      else .ok (.int (signed negative (valueOf whole)), rest)
    | some (fraction, rest), none =>
      .ok (.float (Double.ofDecimal negative (valueOf (whole ++ fraction)) (-fraction.length)), rest)
    | none, some (e, rest) => .ok (.float (Double.ofDecimal negative (valueOf whole) e), rest)
    | some (fraction, _), some (e, rest) =>
      .ok (.float (Double.ofDecimal negative (valueOf (whole ++ fraction)) (e - fraction.length)),
        rest)

mutual

/-- A value with room for `room` lists and objects inside one another. -/
def readValue : Nat → Nat → List Char → Except Unread (Value × List Char)
  | 0, _, cs => .error (.stopped cs.length)
  | fuel + 1, room, cs =>
    match cs with
    | '"' :: rest => do
      let (s, rest) ← readText cs.length (rest.length + 1) [] rest
      pure (.text (String.ofList s), rest)
    | '\x7b' :: rest =>
      if room = 0 then .error .tooDeep
      else
        match skipGap rest with
        | '\x7d' :: rest => .ok (.object [], rest)
        | rest => do
          let (members, rest) ← readMembers fuel (room - 1) [] rest
          pure (.object members, rest)
    | '[' :: rest =>
      if room = 0 then .error .tooDeep
      else
        match skipGap rest with
        | ']' :: rest => .ok (.list [], rest)
        | rest => do
          let (items, rest) ← readItems fuel (room - 1) rest
          pure (.list items, rest)
    | 'n' :: 'u' :: 'l' :: 'l' :: rest => .ok (.null, rest)
    | 't' :: 'r' :: 'u' :: 'e' :: rest => .ok (.bool true, rest)
    | 'f' :: 'a' :: 'l' :: 's' :: 'e' :: rest => .ok (.bool false, rest)
    | 'N' :: 'a' :: 'N' :: rest => .ok (.float .nan, rest)
    | 'I' :: 'n' :: 'f' :: 'i' :: 'n' :: 'i' :: 't' :: 'y' :: rest =>
      .ok (.float (.infinity false), rest)
    | '-' :: 'I' :: 'n' :: 'f' :: 'i' :: 'n' :: 'i' :: 't' :: 'y' :: rest =>
      .ok (.float (.infinity true), rest)
    | cs => readNumber cs

def readItems : Nat → Nat → List Char → Except Unread (List Value × List Char)
  | 0, _, cs => .error (.stopped cs.length)
  | fuel + 1, room, cs => do
    let (item, rest) ← readValue fuel room cs
    match skipGap rest with
    | ']' :: rest => pure ([item], rest)
    | ',' :: rest => do
      let (items, rest) ← readItems fuel room (skipGap rest)
      pure (item :: items, rest)
    | rest => .error (.stopped rest.length)

def readMembers : Nat → Nat → Fields → List Char → Except Unread (Fields × List Char)
  | 0, _, _, cs => .error (.stopped cs.length)
  | fuel + 1, room, acc, cs =>
    match cs with
    | '"' :: rest => do
      let (name, rest) ← readText cs.length (rest.length + 1) [] rest
      match skipGap rest with
      | ':' :: rest => do
        let (value, rest) ← readValue fuel room (skipGap rest)
        let acc := acc.set (String.ofList name) value
        match skipGap rest with
        | '\x7d' :: rest => pure (acc, rest)
        | ',' :: rest => readMembers fuel room acc (skipGap rest)
        | rest => .error (.stopped rest.length)
      | rest => .error (.stopped rest.length)
    | cs => .error (.stopped cs.length)

end

/-- A whole text as one value. Every step takes a character, so the length is fuel enough. -/
def read (s : String) : Except Unread Value := do
  let cs := s.toList
  let (value, rest) ← readValue (2 * cs.length + 2) greatestDepth (skipGap cs)
  match skipGap rest with
  | [] => pure value
  | rest => .error (.stopped rest.length)

/-- Place of the character where reading stopped. -/
def Unread.position? (s : String) : Unread → Option Nat
  | stopped left => some (s.length - left)
  | longInteger => none
  | tooDeep => none

end FloodScheme.Json
