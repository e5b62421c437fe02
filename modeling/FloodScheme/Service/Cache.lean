import FloodScheme.Json
import FloodScheme.Json.Write
import FloodScheme.Store.Lookup

/-! The cache of area listings. A cache that cannot be reached is a miss, never an error. -/
namespace FloodScheme

def textJoin (separator : String) (parts : List String) : String :=
  String.ofList (Value.joined separator.toList (parts.map String.toList))

/-- Key of a call: arguments in order, then the named ones by name. Named arguments that are
null or skipped have no part in it. -/
def cacheKey (space name : String) (args : List Value) (named : Fields) (skipped : List String) :
    String :=
  let parts := (named.mergeSort fun a b => !decide (b.1 < a.1)).filterMap fun (n, v) =>
    if skipped.contains n || v.isNull then none else some (n ++ "=" ++ v.shown)
  space ++ ":" ++ name ++ ":" ++ textJoin ":" (args.map Value.shown) ++ ":" ++
    textJoin ":" parts

inductive CacheMode
  | ok
  | getFails
  | setFails
  | pingFails
  | down
deriving DecidableEq, Repr

namespace CacheMode

def canGet (m : CacheMode) : Bool := m != getFails && m != down

def canSet (m : CacheMode) : Bool := m != setFails && m != down

def canPing (m : CacheMode) : Bool := m != pingFails && m != down

end CacheMode

/-- An entry holds the value that its text reads as, if it reads at all. -/
structure CacheEntry where
  key : String
  seconds : Int
  value : Option Value

structure Cache where
  entries : List CacheEntry := []
  mode : CacheMode := .ok
  connected : Bool := false
  /-- How many times a connection was closed. -/
  closings : Nat := 0

namespace Cache

def put (entry : CacheEntry) : List CacheEntry → List CacheEntry
  | [] => [entry]
  | e :: rest => if e.key = entry.key then entry :: rest else e :: put entry rest

/-- Null counts as a miss. -/
def get (c : Cache) (key : String) : Option Value :=
  if c.connected && c.mode.canGet then
    ((c.entries.find? (·.key == key)).bind CacheEntry.value).filter (!·.isNull)
  else none

/-- An entry is written as text. -/
def setText (c : Cache) (key text : String) (seconds : Int := 1) : Cache :=
  { c with entries := put ⟨key, seconds, (Json.read text).toOption⟩ c.entries }

/-- A value that cannot be written leaves the entry as it was. -/
def set (c : Cache) (key : String) (value : Value) (seconds : Int) : Cache :=
  if c.connected && c.mode.canSet then
    (Json.write? value).elim c fun text => c.setText key text seconds
  else c

def connect (c : Cache) : Cache := { c with connected := c.mode.canPing }

/-- A closed connection stays where it is. -/
def close (c : Cache) : Cache := if c.connected then { c with closings := c.closings + 1 } else c

end Cache

/-- Seconds that an entry lives. -/
def listingSeconds : Int := 3600

def listingKey (type : Option String) : String :=
  cacheKey "api:areas" "_cached_area_listing" [] [("area_type", type.elim .null .text)] ["store"]

def listing (areas : List Area) : Value := .list (areas.map fun a => .object a.view)

/-- The listing of a type from the cache or, on a miss, from the store. -/
def cachedListing (db : Database) (cache : Cache) (type : Option String) :
    Except Fault Value × Cache :=
  match cache.get (listingKey type) with
  | some v => (.ok v, cache)
  | none =>
    match db.areasOfType type with
    | .error f => (.error f, cache)
    | .ok areas => (.ok (listing areas), cache.set (listingKey type) (listing areas) listingSeconds)

end FloodScheme
