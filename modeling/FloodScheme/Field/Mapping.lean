import FloodScheme.Fault
import FloodScheme.Field
import FloodScheme.Value.Equal

/-! Values between wire and storage. A field that is present is mapped whatever its value; an
absent one is left alone. -/
namespace FloodScheme
open Number

/-- A number in a text: a whole number if it reads as one, else a double; a text of blanks is
null, and any other text stays. -/
def parseNumber (s : String) : Value :=
  let trimmed := Text.trim s
  if trimmed = "" then .null
  else
    match readInteger? trimmed with
    | some i => .int i
    | none =>
      match Double.read? trimmed with
      | some x => .float x
      | none => .text s

def splitCommas (cs : List Char) : List (List Char) :=
  match cs with
  | [] => [[]]
  | ',' :: rest => [] :: splitCommas rest
  | c :: rest =>
    match splitCommas rest with
    | [] => [[c]]
    | item :: items => (c :: item) :: items

namespace FieldKind

def joinItems (items : List Value) : String :=
  String.ofList (Value.joined [','] (items.map fun v => v.shown.toList))

def toStorage : FieldKind → Value → Value
  | array, .list items => .text (joinItems items)
  | number, .text s => parseNumber s
  | percentage, .text s =>
    if s = "" then .null
    else
      match Decimal.read? s with
      | some d => .decimal d
      | none => .text s
  | _, v => v

/-- Text of a number that is written without a fraction where it has none. -/
def percentageText (x : Double) : String :=
  match x.whole? with
  | some i => integerText i
  | none => x.text

def numberToWire : Decimal → Except Fault Value
  | .nan _ true _ => .error .incomparable
  | .nan .. => .ok (.float .nan)
  | .infinity _ => .error .unbounded
  | d =>
    match d.whole? with
    | some i => .ok (.int i)
    | none => .ok (.float d.toDouble)

def toWire : FieldKind → Value → Except Fault Value
  | array, .null => .ok (.list [])
  | array, .text s =>
    if s = "" then .ok (.list [])
    else .ok (.list ((splitCommas s.toList).map fun item =>
      .text (String.ofList (Text.trimBy Text.isBlank item))))
  | number, .decimal d => numberToWire d
  | number, .text s => .ok (parseNumber s)
  | percentage, .decimal d => .ok (.text d.plainText)
  | percentage, .int i =>
    match Double.ofInt? i with
    | some x => .ok (.text (percentageText x))
    | none => .error .unbounded
  | percentage, .float x => .ok (.text (percentageText x))
  | _, v => .ok v

end FieldKind

namespace Field

/-- Column values of a payload, in the order of the table. -/
def toStorage (payload : Fields) : Fields :=
  writable.filterMap fun f => (payload.get? f.wire).map fun v => (f.column, f.kind.toStorage v)

def mapRow (fields : List Field) (row : Fields) : Except Fault Fields := do
  let mapped ← fields.mapM fun f =>
    match row.get? f.column with
    | some v => do pure [(f.wire, ← f.kind.toWire v)]
    | none => pure []
  pure mapped.flatten

def occursIn (part : List Char) : List Char → Bool
  | [] => part.isEmpty
  | c :: rest => part.isPrefixOf (c :: rest) || occursIn part rest

/-- What a side table adds. A value that holds no columns adds nothing, unless a column's name
is found in it. -/
def joinRow (fields : List Field) (joined : Value) : Except Fault Fields :=
  if !joined.truthy then .ok []
  else
    match joined with
    | .object row => mapRow fields row
    | .text s =>
      if fields.any fun f => occursIn f.column.toList s.toList then .error .wrongShape else .ok []
    | .list items =>
      if fields.any fun f => (Value.text f.column).isIn items then .error .wrongShape else .ok []
    | _ => .error .wrongShape

/-- The row of a side table: the first one of a list. -/
def sideRow (row : Fields) (table : String) : Value :=
  match row.get table with
  | .list [] => .null
  | .list (first :: _) => first
  | v => v

def toWire (row : Fields) : Except Fault Fields := do
  let own ← mapRow selected row
  let sides ← joined.mapM fun (table, fields) => joinRow fields (sideRow row table)
  pure (sides.flatten.foldl (fun wire (n, v) => wire.set n v) own)

end Field
end FloodScheme
