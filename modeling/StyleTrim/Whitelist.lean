import StyleTrim.Pattern.Reader
namespace StyleTrim
open Text

-- What an author protects from removal: selectors as they are written, and patterns that
-- match somewhere in a selector.
structure Whitelist where
  exact : List Text
  patterns : List Pattern
deriving Repr

namespace Whitelist

def empty : Whitelist := ⟨[],[]⟩

def notation? (entry : Text) : Option Text :=
  match entry with
  | '/' :: rest => (withoutEnd? rest "/").filter (!·.isEmpty)
  | _ => none

def add (w : Whitelist) (entry : Text) : Except Text Whitelist :=
  if entry.isEmpty then .ok w
  else match notation? entry with
    | none => .ok {w with exact := w.exact ++ [entry]}
    | some written => match Pattern.read? written with
      | some p => .ok {w with patterns := w.patterns ++ [p]}
      | none => .error entry

def ofEntries (entries : List Text) : Except Text Whitelist :=
  entries.foldlM (fun w entry => w.add (trim entry)) empty

def isEmpty (w : Whitelist) : Bool := w.exact.isEmpty && w.patterns.isEmpty

def protects (w : Whitelist) (selector : Text) : Bool :=
  let s := trim selector
  w.exact.contains s || w.patterns.any fun p => p.occursIn s

-- A list is protected as a whole or through any of its branches.
def protectsList (w : Whitelist) (selector : Text) (branches : List Text) : Bool :=
  w.protects selector || branches.any w.protects

def protectsAnimation (w : Whitelist) (name : Text) : Bool :=
  w.protects name || w.protects (("@keyframes " : Text) ++ name)

end Whitelist
end StyleTrim
