import StyleTrim.Json.Reader
namespace StyleTrim
open Text

-- Why a value could not be taken for what it should be: it is not properly written, or it is
-- something else.
inductive Json.Fault where
  | malformed
  | mismatch (message : Text)
deriving DecidableEq, Repr

abbrev Json.Decoded (α : Type) := Except Json.Fault α

-- A field of a record of known shape, and how its value gets into the record.
structure Json.Field (α : Type) where
  name : Text
  isRequired : Bool
  fill : Json → α → Json.Decoded α

-- A record of known shape: how it is named, its fields in order, and what it is before any of
-- them is filled in. `excess` is what is wrong with a list that has more items than fields.
structure Json.Record (α : Type) where
  name : Text
  fields : List (Json.Field α)
  blank : α
  excess : Nat → Json.Fault

namespace Json

def unexpected (expected : Text) (j : Json) : Fault :=
  match j.name? with
  | some found => .mismatch (("invalid type: " : Text) ++ found ++ ", expected " ++ expected)
  | none => .malformed

def asNatural (expected : Text) (largest : Nat) (j : Json) : Decoded Nat :=
  let refused (n : Text) : Fault :=
    .mismatch (("invalid value: integer `" : Text) ++ n ++ "`, expected " ++ expected)
  match j with
  | .number (.natural n) => if n ≤ largest then .ok n else .error (refused (ofNat n))
  | .number (.negative n) => .error (refused ('-' :: ofNat n))
  | other => .error (unexpected expected other)

def asBool : Json → Decoded Bool
  | .bool b => .ok b
  | other => .error (unexpected "a boolean" other)

def asTextNamed (expected : Text) : Json → Decoded Text
  | .text s => .ok s
  | other => .error (unexpected expected other)
def asText : Json → Decoded Text := asTextNamed "a string"

def asOptional (f : Json → Decoded α) : Json → Decoded (Option α)
  | .null => .ok none
  | j => (f j).map some

def asList (f : Json → Decoded α) : Json → Decoded (List α)
  | .list items isClosed => do
    let values ← items.mapM f
    if isClosed then .ok values else .error .malformed
  | other => .error (unexpected "a sequence" other)

namespace Record

def fillInOrder (r : Record α) (count : Nat) : List (Field α) → List Json → α → Decoded α
  | [], [], a => .ok a
  | [], _ :: more, _ => .error (r.excess (count + 1 + more.length))
  | rest, [], a =>
    if rest.any (·.isRequired) then
      .error (.mismatch (("invalid length " : Text) ++ ofNat count ++ ", expected " ++ r.name ++ " with " ++
        ofNat r.fields.length ++ " elements"))
    else .ok a
  | field :: rest, item :: more, a => do fillInOrder r (count+1) rest more (← field.fill item a)

-- Fills fields by name. Other names are passed over, and no field is filled twice.
def fillByName (r : Record α) (seen : List Text) : List (Option Text × Json) → α → Decoded (α × List Text)
  | [], a => .ok (a,seen)
  | (none,_) :: _, _ => .error .malformed
  | (some name,value) :: more, a =>
    match r.fields.find? (·.name == name) with
    | none => if value.isWhole then fillByName r seen more a else .error .malformed
    | some field =>
      if seen.contains name then .error (.mismatch (("duplicate field `" : Text) ++ name ++ "`"))
      else do fillByName r (name :: seen) more (← field.fill value a)

def decode (r : Record α) : Json → Decoded α
  | .list items isClosed => do
    let a ← r.fillInOrder 0 r.fields items r.blank
    if isClosed then .ok a else .error .malformed
  | .object fields isClosed => do
    let (a,seen) ← r.fillByName [] fields r.blank
    if !isClosed then .error .malformed
    else match r.fields.find? fun f => f.isRequired && !seen.contains f.name with
      | some missing => .error (.mismatch (("missing field `" : Text) ++ missing.name ++ "`"))
      | none => .ok a
  | other => .error (unexpected r.name other)

end Record

def decodeText (f : Json → Decoded α) (s : Text) : Decoded α := do
  let (value,isAlone) := read s
  let a ← f value
  if isAlone then .ok a else .error .malformed

end Json
end StyleTrim
