import StyleTrim.Json.Number
import StyleTrim.Text.Quoted
namespace StyleTrim
open Text

-- What was read of a value. Readers go from left to right and stop at the first thing that
-- they cannot use, so everything before a mistake counts and the mistake has a place of its
-- own: a list or an object that does not end properly, a value that is none, and a text or
-- number that is written well but stands for nothing.
inductive Json where
  | null
  | bool (value : Bool)
  | number (value : Json.Number)
  | text (value : Text)
  | list (items : List Json) (isClosed : Bool)
  | object (fields : List (Option Text × Json)) (isClosed : Bool)
  | unreadable
  | broken
deriving Repr, BEq

namespace Json

def ofNatural (n : Nat) : Json := .number (.natural n)
def ofText? : Option Text → Json
  | some s => .text s
  | none => .null
def ofList (items : List Json) : Json := .list items true
def ofTexts (items : List Text) : Json := ofList (items.map .text)
def ofFields (fields : List (Text × Json)) : Json := .object (fields.map fun f => (some f.1,f.2)) true

mutual
def isWhole : Json → Bool
  | .null | .bool _ | .number _ | .text _ | .unreadable => true
  | .list items isClosed => isClosed && areWhole items
  | .object fields isClosed => isClosed && areWholeFields fields
  | .broken => false
def areWhole : List Json → Bool
  | [] => true
  | item :: more => item.isWhole && areWhole more
def areWholeFields : List (Option Text × Json) → Bool
  | [] => true
  | (_,value) :: more => value.isWhole && areWholeFields more
end

-- How a value is named where something else was expected. Nobody gets to name what cannot be read.
def name? : Json → Option Text
  | .null => some "null"
  | .bool b => some (("boolean `" : Text) ++ (if b then "true" else "false") ++ "`")
  | .number (.natural n) => some (("integer `" : Text) ++ ofNat n ++ "`")
  | .number (.negative n) => some (("integer `-" : Text) ++ ofNat n ++ "`")
  | .number other => some (("floating point `" : Text) ++ other.text ++ "`")
  | .text s => some (("string " : Text) ++ quoted s)
  | .list _ _ => some "sequence"
  | .object _ _ => some "map"
  | .unreadable | .broken => none

end Json
end StyleTrim
