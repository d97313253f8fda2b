import StyleTrim.Css.Query
import StyleTrim.Css.Component
namespace StyleTrim.Css.Query.Formula
open Text

-- A formula may be written with blanks around its signs only; a sign may also belong to a number
-- or, as in `n-1`, to a name. Spacing before each component is passed over by the callers.

def next? (s : List Component) : Option (Component × List Component) :=
  match Component.skipSpacing s with
  | [] => none
  | c :: rest => some (c,rest)

def dashDigits? (name : Text) : Option Int :=
  match name with
  | n :: '-' :: digits =>
    if (n = 'n' || n = 'N') && !digits.isEmpty && digits.all isDigit then
      some (Scan.held (-(valueOf 10 (digits.map fun c => c.toNat - '0'.toNat) : Int)))
    else none
  | _ => none

abbrev Result := Option (Formula × List Component)

def unsigned? (step sign : Int) (s : List Component) : Result :=
  match next? s with
  | some (c,rest) => match c.token with
    | .number ⟨_,false,some b⟩ => some (⟨step,sign * b⟩,rest)
    | _ => none
  | none => none

def offset? (step : Int) (s : List Component) : Result :=
  match next? s with
  | none => some (⟨step,0⟩,[])
  | some (c,rest) => match c.token with
    | .delim '+' => unsigned? step 1 rest
    | .delim '-' => unsigned? step (-1) rest
    | .number ⟨_,true,some b⟩ => some (⟨step,b⟩,rest)
    | _ => some (⟨step,0⟩,s)

def afterStep? (step : Int) (name : Text) (rest : List Component) : Result :=
  if sameIgnoringCase name "n" then offset? step rest
  else if sameIgnoringCase name "n-" then unsigned? step (-1) rest
  else (dashDigits? name).map fun b => (⟨step,b⟩,rest)

def read? (s : List Component) : Result :=
  match next? s with
  | none => none
  | some (c,rest) =>
    match c.token with
    | .number ⟨_,_,some b⟩ => some (⟨0,b⟩,rest)
    | .dimension ⟨_,_,some a⟩ unit => afterStep? a unit rest
    | .ident name =>
      if sameIgnoringCase name "even" then some (⟨2,0⟩,rest)
      else if sameIgnoringCase name "odd" then some (⟨2,1⟩,rest)
      else match name with
        | '-' :: name => afterStep? (-1) name rest
        | name => afterStep? 1 name rest
    | .delim '+' =>
      -- No blank may stand between a sign and its name.
      match rest with
      | c :: rest => match c.token with
        | .ident name => afterStep? 1 name rest
        | _ => none
      | [] => none
    | _ => none

end StyleTrim.Css.Query.Formula
