import FloodScheme.Number.Numeral

/-! Whole numbers in texts, as the checks of fields read them. A text is read as it stands first.
One that does not read so is tidied and read again: blanks, a plus sign, zeros in front, a fraction
of zeros and underscores go. -/
namespace FloodScheme.Number
open Text

/-- Result of reading a text as a whole number. -/
inductive IntegerReading
  | value (i : Int)
  | tooLong
  | unreadable
deriving DecidableEq, Repr

namespace IntegerReading

/-- A row of digits that starts with zero is zero alone. A row that is too long is refused as such
whatever follows it. -/
def ofDigits (negative : Bool) (cs : List Char) : IntegerReading :=
  match takeDigits cs with
  | ([], _) => unreadable
  | (0 :: ds, rest) => if ds.isEmpty && rest.isEmpty then value 0 else unreadable
  | (ds, rest) =>
    if longestNumeral < ds.length then tooLong
    else if rest.isEmpty then value (signed negative (valueOf ds))
    else unreadable

/-- The text as it stands. -/
def plain : List Char → IntegerReading
  | '-' :: cs => ofDigits true cs
  | cs => ofDigits false cs

/-- What is left behind a zero without more zeros and underscores: a number from its first digit or
a minus sign on, a point with the character before it, or that character alone. -/
def dropZeros (before : Char) : List Char → Option (List Char)
  | [] => some [before]
  | c :: rest =>
    if c = '0' ∨ c = '_' then dropZeros c rest
    else if c = '-' ∨ c.isDigit then some (c :: rest)
    else if c = '.' then some (before :: c :: rest)
    else none

/-- The text starts with a digit. -/
def dropLeadingZeros : List Char → Option (List Char)
  | [] => none
  | c :: rest => if c = '0' then dropZeros c rest else if c.isDigit then some (c :: rest) else none

def dropZeroFraction (cs : List Char) : List Char :=
  match cs.dropWhile (· != '.') with
  | _ :: d :: zeros => if (d :: zeros).all (· == '0') then cs.takeWhile (· != '.') else cs
  | _ => cs

/-- Two underscores in a row. -/
def hasGap : List Char → Bool
  | '_' :: '_' :: _ => true
  | _ :: rest => hasGap rest
  | [] => false

/-- Single underscores inside the text go; others keep all of them in place. -/
def dropUnderscores (cs : List Char) : List Char :=
  if cs.head? = some '_' ∨ cs.getLast? = some '_' ∨ hasGap cs then cs
  else cs.filter (· != '_')

def tidied? (cs : List Char) : Option (List Char) := do
  let (negative, rest) := takeSign (trimBy isSpace cs)
  let number := dropUnderscores (dropZeroFraction (← dropLeadingZeros rest))
  pure (if negative then '-' :: number else number)

/-- A text that has to be tidied is never too long, only unreadable. -/
def read (cs : List Char) : IntegerReading :=
  match plain cs, (tidied? cs).map plain with
  | unreadable, some (value i) => value i
  | unreadable, _ => unreadable
  | r, _ => r

end IntegerReading
end FloodScheme.Number
