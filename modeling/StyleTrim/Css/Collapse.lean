import StyleTrim.Css.Sheet
namespace StyleTrim.Css
open Text

-- What the collapsing reader remembers between characters. Only outside of strings can
-- a blank be pending; an escape is open both inside and outside of them.
structure Collapsing where
  quote : Option Char
  escaped : Bool
  pending : Bool
deriving DecidableEq, Repr

namespace Collapsing

def start : Collapsing := ⟨none,false,false⟩

def step (state : Collapsing) (c : Char) : Text × Collapsing :=
  match state.quote with
  | some mark =>
    let after : Collapsing :=
      if state.escaped then {state with escaped := false}
      else if c = '\\' then {state with escaped := true}
      else if c = mark then {state with quote := none}
      else state
    ([c],after)
  | none =>
    if state.escaped then ([c],{state with escaped := false})
    else if isBlank c then ([],{state with pending := true})
    else
      let after : Collapsing :=
        if c = '\\' then ⟨none,true,false⟩
        else if isQuoteMark c then ⟨some c,false,false⟩
        else start
      ((if state.pending then [' ',c] else [c]),after)

def run (state : Collapsing) : Text → Text
  | [] => []
  | c :: s => (state.step c).1 ++ run (state.step c).2 s

end Collapsing

-- The text with each run of blanks outside of strings made one space, and none at its ends.
-- Escaped characters stay, escaped blanks included.
def collapse (s : Text) : Text := Collapsing.run .start (trimStart isBlank s)

def importantMark : Text := "!important"

-- A value without the `!important` at its end, and whether it was there.
def splitImportant (value : Text) : Text × Bool :=
  match withoutEnd? (trim value) importantMark with
  | some front => (collapse front,true)
  | none => (collapse (trim value),false)

end StyleTrim.Css
