/-! Patterns on texts: a row of character classes, each with the least and the greatest number
of times it may occur, held to the start or the end of the text where the pattern says so. Patterns
with groups, alternatives or escapes are not read. -/
namespace FloodScheme.Text

structure CharClass where
  ranges : List (Char × Char)
  negated : Bool := false
deriving DecidableEq

def CharClass.admits (k : CharClass) (c : Char) : Bool :=
  k.ranges.any (fun r => r.1.toNat ≤ c.toNat && c.toNat ≤ r.2.toNat) != k.negated

structure Piece where
  letters : CharClass
  least : Nat := 1
  most : Option Nat := some 1
deriving DecidableEq

structure Pattern where
  pieces : List Piece
  fromStart : Bool := false
  toEnd : Bool := false
deriving DecidableEq

/-- Between `least` and `most` characters of a class, followed by `next`. -/
def matchesRun (k : CharClass) (next : List Char → Bool) :
    Nat → Option Nat → List Char → Bool
  | least, _, [] => least == 0 && next []
  | least, most, c :: cs =>
    (most != some 0 && k.admits c && matchesRun k next (least - 1) (most.map (· - 1)) cs) ||
    (least == 0 && next (c :: cs))

/-- The pieces match at the head of the characters. -/
def matchesHere (toEnd : Bool) : List Piece → List Char → Bool
  | [], cs => !toEnd || cs.isEmpty
  | p :: ps, cs => matchesRun p.letters (matchesHere toEnd ps) p.least p.most cs

def matchesAnywhere (toEnd : Bool) (ps : List Piece) : List Char → Bool
  | [] => matchesHere toEnd ps []
  | c :: cs => matchesHere toEnd ps (c :: cs) || matchesAnywhere toEnd ps cs

def Pattern.admits (p : Pattern) (s : String) : Bool :=
  if p.fromStart then matchesHere p.toEnd p.pieces s.toList
  else matchesAnywhere p.toEnd p.pieces s.toList

def CharClass.one (c : Char) : CharClass := ⟨[(c, c)], false⟩

/-- Any character but a line feed. -/
def CharClass.dot : CharClass := ⟨[('\n', '\n')], true⟩

/-- Characters that do not stand for themselves. -/
def marks : List Char := ['\\', '[', ']', '(', ')', '\x7b', '\x7d', '|', '*', '+', '?', '^', '$']

/-- A character that stands for itself in a class in brackets. -/
def isPlain (c : Char) : Bool := !List.contains ['\\', '[', '&', '~'] c

/-- Ranges of a class in brackets, up to the closing one. There has to be one range at least. -/
def readRanges : List Char → List (Char × Char) → Option (List (Char × Char) × List Char)
  | [], _ => none
  | ']' :: rest, acc => if acc.isEmpty then none else some (acc.reverse, rest)
  | a :: '-' :: ']' :: rest, acc =>
    if isPlain a then some ((('-', '-') :: (a, a) :: acc).reverse, rest) else none
  | a :: '-' :: b :: rest, acc =>
    if isPlain a && isPlain b && a != '-' && a ≤ b then readRanges rest ((a, b) :: acc) else none
  | c :: rest, acc => if isPlain c then readRanges rest ((c, c) :: acc) else none

def readClass : List Char → Option (CharClass × List Char)
  | '[' :: '^' :: rest => (readRanges rest []).map fun (rs, left) => (⟨rs, true⟩, left)
  | '[' :: rest => (readRanges rest []).map fun (rs, left) => (⟨rs, false⟩, left)
  | '.' :: rest => some (.dot, rest)
  | c :: rest => if marks.contains c then none else some (.one c, rest)
  | [] => none

def readCount (cs : List Char) : Option Nat :=
  if cs.isEmpty || !cs.all Char.isDigit then none
  else some (cs.foldl (fun n c => 10 * n + (c.toNat - 48)) 0)

/-- Least and greatest number of occurrences, as written behind a class. -/
def readTimes : List Char → Option (Nat × Option Nat × List Char)
  | '*' :: rest => some (0, none, rest)
  | '+' :: rest => some (1, none, rest)
  | '?' :: rest => some (0, some 1, rest)
  | '{' :: rest => do
    let inner := rest.takeWhile (· != '}')
    let left ← (rest.dropWhile (· != '}')).tail?
    match inner.dropWhile (· != ',') with
    | [] => (readCount inner).map fun n => (n, some n, left)
    | [_] => (readCount (inner.takeWhile (· != ','))).map fun n => (n, none, left)
    | _ :: high => do
      let low ← readCount (inner.takeWhile (· != ','))
      let high ← readCount high
      if low ≤ high then pure (low, some high, left) else none
  | rest => some (1, some 1, rest)

/-- Each piece takes at least one character, so the length of the text is fuel enough. -/
def readPieces : Nat → List Char → Option (List Piece × Bool)
  | 0, _ => none
  | _, [] => some ([], false)
  | _, ['$'] => some ([], true)
  | fuel + 1, cs => do
    let (letters, rest) ← readClass cs
    let (least, most, rest) ← readTimes rest
    let (more, toEnd) ← readPieces fuel rest
    pure (⟨letters, least, most⟩ :: more, toEnd)

def Pattern.read? (s : String) : Option Pattern :=
  let cs := s.toList
  let fromStart := cs.head? == some '^'
  let body := if fromStart then cs.drop 1 else cs
  (readPieces (body.length + 1) body).map fun (pieces, toEnd) => ⟨pieces, fromStart, toEnd⟩

/-- A text matches; one that is no pattern is matched by nothing. -/
def matchesPattern (pattern s : String) : Bool :=
  match Pattern.read? pattern with
  | some p => p.admits s
  | none => false

end FloodScheme.Text
