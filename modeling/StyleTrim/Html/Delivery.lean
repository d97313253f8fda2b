import StyleTrim.Text
namespace StyleTrim.Html
open Text

-- A source text as it arrives. It may come in blocks of bytes, and a character whose bytes lie in
-- two blocks is then a piece of its own between them. A byte order mark that a piece begins with
-- is no part of the text.

structure Delivery where
  text : Text
  seams : List Nat
deriving DecidableEq, Repr

namespace Delivery

def byteOrderMark : Char := '\ufeff'

-- A text on its way: where in its block the next byte stands, whether a piece begins there, and
-- what has come so far, with the lengths at which pieces began.
structure Arriving where
  offset : Nat
  fresh : Bool
  afterReturn : Bool
  backwards : Text
  count : Nat
  starts : List Nat

namespace Arriving

def start : Arriving := ⟨0,true,false,[],0,[]⟩

def put (a : Arriving) (c : Char) : Arriving :=
  {a with backwards := c :: a.backwards,count := a.count + 1}

def take (blockSize : Option Nat) (a : Arriving) (c : Char) : Arriving :=
  let after := a.offset + c.utf8Size
  let isSplit := blockSize.any (· < after)
  let begins := a.fresh || isSplit
  let moved := {a with
    offset := match blockSize with
      | some size => after % size
      | none => after
    fresh := isSplit || blockSize = some after
    starts := if begins then a.count :: a.starts else a.starts}
  if begins && c = byteOrderMark then moved
  else if c = '\r' then {moved.put '\n' with afterReturn := true}
  else if c = '\n' && a.afterReturn then {moved with afterReturn := false}
  else {moved.put c with afterReturn := false}

end Arriving

def ofText (blockSize : Option Nat) (source : Text) : Delivery :=
  let all := source.foldl (Arriving.take blockSize) .start
  ⟨all.backwards.reverse,all.starts.map (all.count - ·)⟩

def pastMark (seams : List Nat) (rest : Text) : Text :=
  match rest with
  | c :: r => if c = byteOrderMark && !seams.contains rest.length then r else rest
  | [] => []

theorem pastMark_suffix (seams : List Nat) (rest : Text) : pastMark seams rest <:+ rest := by
  unfold pastMark
  split
  · split
    · exact List.suffix_cons _ _
    · exact List.suffix_rfl
  · exact List.suffix_rfl

end Delivery
end StyleTrim.Html
