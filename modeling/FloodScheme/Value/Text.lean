import FloodScheme.Value
import FloodScheme.Text.Quoted

/-! Values as text. A value by itself is shown plainly; inside a list or an object, texts are
quoted and decimals say what they are. -/
namespace FloodScheme.Value
open Number

def joined (separator : List Char) : List (List Char) → List Char
  | [] => []
  | [x] => x
  | x :: rest => x ++ separator ++ joined separator rest

mutual

def inner : Value → List Char
  | null => "None".toList
  | bool b => (if b then "True" else "False").toList
  | int i => (integerText i).toList
  | float x => x.text.toList
  | decimal d => "Decimal('".toList ++ d.text.toList ++ "')".toList
  | text s => Text.showQuoted s.toList
  | list items => '[' :: joined [',', ' '] (innerItems items) ++ [']']
  | object members => '\x7b' :: joined [',', ' '] (innerMembers members) ++ ['\x7d']

def innerItems : List Value → List (List Char)
  | [] => []
  | x :: rest => inner x :: innerItems rest

def innerMembers : List (String × Value) → List (List Char)
  | [] => []
  | (n, x) :: rest => (Text.showQuoted n.toList ++ ':' :: ' ' :: inner x) :: innerMembers rest

end

def shown : Value → String
  | text s => s
  | decimal d => d.text
  | x => String.ofList (inner x)

end FloodScheme.Value
