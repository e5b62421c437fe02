import FloodScheme.Fault
import FloodScheme.Rule
import FloodScheme.Text.Pattern

/-! The library that fields are checked with. It builds a model of the active rules before it looks
at any field, and it matches texts with patterns. Which names and patterns it takes is up to it. -/
namespace FloodScheme

class Library where
  /-- A text matches a pattern. -/
  admits (pattern text : String) : Bool
  /-- Models have fields of this name. Other names are left out of them. -/
  hasField (name : String) : Bool
  /-- Why there is no model of some rules. -/
  refusal? (rules : List Rule) : Option Fault

namespace Library

/-- Names that models need for themselves. -/
def reserved : List String :=
  ["__base__", "__config__", "model_dump", "model_dump_json", "model_validate",
    "model_validate_json", "model_validate_strings"]

/-- The name of the rule is taken, or its pattern cannot be read. -/
def refuses (r : Rule) : Bool :=
  reserved.contains r.name ||
    r.kind == .text && r.chosenFrom.isNone && r.pattern.any fun p => (Text.Pattern.read? p).isNone

/-- Patterns are rows of character classes. Fields do not start with an underscore. -/
instance rows : Library where
  admits := Text.matchesPattern
  hasField name := !name.startsWith '_' && name != "model_config"
  refusal? rules := if rules.any refuses then some .wrongShape else none

end Library
end FloodScheme
