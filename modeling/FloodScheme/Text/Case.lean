import FloodScheme.Text.CaseTable

/-! Letter case of whole texts. The first 128 characters are handled by arithmetic, the others
by table; a capital sigma that ends a word has a lower-case form of its own. -/
namespace FloodScheme.Text

def inRanges (ranges : List (Nat × Nat)) (c : Char) : Bool :=
  ranges.any fun r => r.1 ≤ c.toNat && c.toNat ≤ r.2

def imageInRuns (runs : List (Nat × Nat × Nat × Nat)) (c : Char) : Option Char :=
  runs.findSome? fun (first, last, step, image) =>
    if first ≤ c.toNat && c.toNat ≤ last && (c.toNat - first) % step == 0 then
      some (Char.ofNat (image + (c.toNat - first)))
    else none

def expansion (table : List (Nat × List Nat)) (c : Char) : Option (List Char) :=
  (table.find? fun row => row.1 == c.toNat).map fun row => row.2.map Char.ofNat

def asciiLower (c : Char) : Char :=
  if 65 ≤ c.toNat ∧ c.toNat ≤ 90 then Char.ofNat (c.toNat + 32) else c

def asciiUpper (c : Char) : Char :=
  if 97 ≤ c.toNat ∧ c.toNat ≤ 122 then Char.ofNat (c.toNat - 32) else c

/-- Lower case of a character by itself. -/
def lowerChar (c : Char) : List Char :=
  if c.toNat < 128 then [asciiLower c]
  else (expansion lowerExpansions c).getD [(imageInRuns lowerRuns c).getD c]

def upperChar (c : Char) : List Char :=
  if c.toNat < 128 then [asciiUpper c]
  else (expansion upperExpansions c).getD [(imageInRuns upperRuns c).getD c]

/-- The next character that is not ignored for case context has a case. -/
def casedAhead (cs : List Char) : Bool :=
  match cs.dropWhile (inRanges caseIgnorableRanges) with
  | [] => false
  | c :: _ => inRanges casedRanges c

/-- Lower case; `before` holds the characters already passed, the nearest first. -/
def lowerFrom (before : List Char) : List Char → List Char
  | [] => []
  | c :: rest =>
    let image :=
      if c.toNat == 0x3A3 then
        [Char.ofNat (if casedAhead before && !casedAhead rest then 0x3C2 else 0x3C3)]
      else lowerChar c
    image ++ lowerFrom (c :: before) rest

def lower (s : String) : String := String.ofList (lowerFrom [] s.toList)

def upper (s : String) : String := String.ofList (s.toList.flatMap upperChar)

/-- Lower case of the ASCII letters only. -/
def foldAscii (s : String) : String := String.ofList (s.toList.map asciiLower)

end FloodScheme.Text
