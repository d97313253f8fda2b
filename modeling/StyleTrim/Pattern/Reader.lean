import StyleTrim.Pattern.Machine
namespace StyleTrim.Pattern
open Text

-- Reading the notation of patterns. What cannot be read is no pattern; why not is never told.

structure Flags where
  anyCase : Bool
  manyLines : Bool
  dotTakesAll : Bool
  unicode : Bool
  anyLineEnd : Bool
  spaced : Bool
deriving DecidableEq, Repr

def Flags.default : Flags := ⟨false,false,false,true,false,false⟩

-- Blanks and comments, a comment reaching to the end of its line.
def skipGap (inComment : Bool) : Text → Text
  | [] => []
  | c :: s =>
    if inComment then skipGap (c ≠ '\n') s
    else if isBlank c then skipGap false s
    else if c = '#' then skipGap true s
    else c :: s

namespace Flags

def gap (f : Flags) (s : Text) : Text := if f.spaced then skipGap false s else s

def folded (f : Flags) (s : CharSet) : CharSet :=
  if !f.anyCase then s else if f.unicode then .anyCase s else .anyAsciiCase s

def checked? (f : Flags) (s : CharSet) : Option CharSet := if f.unicode || s.isAsciiOnly then some s else none

def finished? (f : Flags) (negated : Bool) (s : CharSet) : Option CharSet :=
  let s := f.folded s
  f.checked? (if negated then .complement s else s)

def word (f : Flags) : CharSet := if f.unicode then .word else .asciiWord

def wordFor (f : Flags) (e : Edge) : CharSet := if e.looksAtWords then f.word else .empty

end Flags

-- A thing that stands for one place in a pattern. A character may have been written as a number
-- of two digits, which without Unicode is a byte.
inductive Primitive where
  | char (c : Char) (isByte : Bool)
  | set (s : CharSet)
  | edge (e : Edge)
  | dot

def isMeta (c : Char) : Bool :=
  ['\\','.','+','*','?','(',')','|','[',']','\x7b','\x7d','^','$','#','&','-','~'].contains c

def mayEscape (c : Char) : Bool :=
  isMeta c || (isAscii c && !isDigit c && !isAsciiLetter c && c ≠ '<' && c ≠ '>')

def hexChar? (digits : Text) : Option Char :=
  (digits.mapM hexValue?).bind fun values => if values.isEmpty then none else charOf? (valueOf 16 values)

def hexDigits? (f : Flags) : Nat → Text → Option (Text × Text)
  | 0, s => some ([],s)
  | n + 1, c :: s => if isHexDigit c then (hexDigits? f n (f.gap s)).map fun (ds,r) => (c :: ds,r) else none
  | _ + 1, [] => none

def inBraces? (f : Flags) (inComment : Bool) : Text → Option (Text × Text)
  | [] => none
  | c :: s =>
    if inComment then inBraces? f (c ≠ '\n') s
    else if f.spaced && isBlank c then inBraces? f false s
    else if f.spaced && c = '#' then inBraces? f true s
    else if c = '\x7d' then some ([],s)
    else (inBraces? f false s).map fun (inner,r) => (c :: inner,r)

def hexEscape? (f : Flags) (count : Nat) (s : Text) : Option (Primitive × Text) :=
  match f.gap s with
  | '\x7b' :: s => do
    let (digits,r) ← inBraces? f false s
    let c ← hexChar? digits
    pure (.char c false,f.gap r)
  | s => do
    let (digits,r) ← hexDigits? f count s
    let c ← hexChar? digits
    pure (.char c (count = 2),r)

def digitsOf (f : Flags) (inComment : Bool) : Text → Text × Text
  | [] => ([],[])
  | c :: s =>
    if inComment then digitsOf f (c ≠ '\n') s
    else if f.spaced && isBlank c then digitsOf f false s
    else if f.spaced && c = '#' then digitsOf f true s
    else if isDigit c then
      let (digits,r) := digitsOf f false s
      (c :: digits,r)
    else ([],c :: s)

def decimal? (f : Flags) (s : Text) : Option (Nat × Text) :=
  let (digits,r) := digitsOf f false (s.dropWhile isBlank)
  let n := valueOf 10 (digits.map fun c => c.toNat - '0'.toNat)
  if digits.isEmpty || 4294967295 < n then none else some (n,r.dropWhile isBlank)

def splitAt? (separator : Text) : Text → Option (Text × Text)
  | [] => none
  | c :: s =>
    match withoutStart? (c :: s) separator with
    | some rest => some ([],rest)
    | none => (splitAt? separator s).map fun (a,b) => (c :: a,b)

def propertySet? (written : Text) : Option (CharSet × Bool) :=
  match splitAt? "!=" written with
  | some (name,value) => (CharSet.valued? name value).map (·,true)
  | none =>
    let set? := match splitAt? ":" written with
      | some (name,value) => CharSet.valued? name value
      | none => match splitAt? "=" written with
        | some (name,value) => CharSet.valued? name value
        | none => CharSet.named? written
    set?.map (·,false)

def property? (f : Flags) (negated : Bool) (s : Text) : Option (Primitive × Text) :=
  if !f.unicode then none
  else match f.gap s with
    | [] => none
    | '\x7b' :: s => do
      let (written,r) ← inBraces? f false s
      let (set,differs) ← propertySet? written
      let set ← f.finished? (negated != differs) set
      pure (.set set,r)
    | c :: s => do
      let set ← if c = '\\' then none else CharSet.named? [c]
      let set ← f.finished? negated set
      pure (.set set,f.gap s)

-- A class with a letter for its name; the capital letter means the other characters.
def letterClass? (f : Flags) (c : Char) : Option (Option CharSet) :=
  let set : Option CharSet := match lowerChar c with
    | 'd' => some (if f.unicode then .digit else .asciiDigit)
    | 's' => some (if f.unicode then .blank else .asciiBlank)
    | 'w' => some f.word
    | _ => none
  set.map fun s => f.checked? (if isAsciiUpper c then .complement s else s)

-- A word boundary that looks at one side only, as its name in braces says. Braces that begin
-- with no letter belong to a repetition.
def boundary? (f : Flags) (s : Text) : Option (Primitive × Text) :=
  match s with
  | '\x7b' :: more =>
    match f.gap more with
    | [] => none
    | c :: _ =>
      if isAsciiLetter c || c = '-' then do
        let (name,r) ← inBraces? f false more
        if isOneOf name ["start"] then some (.edge .wordStart,r)
        else if isOneOf name ["end"] then some (.edge .wordEnd,r)
        else if isOneOf name ["start-half"] then some (.edge .noWordBefore,r)
        else if isOneOf name ["end-half"] then some (.edge .noWordAfter,r)
        else none
      else some (.edge .boundary,s)
  | _ => some (.edge .boundary,s)

def escape? (f : Flags) : Text → Option (Primitive × Text)
  | [] => none
  | c :: s =>
    if isDigit c then none
    else if c = 'x' then hexEscape? f 2 s
    else if c = 'u' then hexEscape? f 4 s
    else if c = 'U' then hexEscape? f 8 s
    else if c = 'p' || c = 'P' then property? f (c = 'P') s
    else match letterClass? f c with
      | some set => set.map fun set => (.set set,s)
      | none =>
        if mayEscape c then some (.char c false,s)
        else match c with
          | 'a' => some (.char '\x07' false,s)
          | 'f' => some (.char '\x0c' false,s)
          | 't' => some (.char '\t' false,s)
          | 'n' => some (.char '\n' false,s)
          | 'r' => some (.char '\r' false,s)
          | 'v' => some (.char '\x0b' false,s)
          | 'A' => some (.edge .textStart,s)
          | 'z' => some (.edge .textEnd,s)
          | 'b' => boundary? f s
          | 'B' => some (.edge .noBoundary,s)
          | '<' => some (.edge .wordStart,s)
          | '>' => some (.edge .wordEnd,s)
          | _ => none

inductive SetOperation where
  | common
  | without
  | different

def SetOperation.apply : SetOperation → CharSet → CharSet → CharSet
  | .common => .common
  | .without => .without
  | .different => .different

-- Members read so far: their union, how many they are, and how deep they lie in each other.
structure Members where
  set : CharSet
  count : Nat
  depth : Nat

namespace Members

def none : Members := ⟨.empty,0,0⟩
def add (m : Members) (set : CharSet) (depth : Nat) : Members := ⟨m.set.union set,m.count + 1,max m.depth depth⟩
def nesting (m : Members) : Nat := if 2 ≤ m.count then m.depth + 1 else m.depth

end Members

abbrev Nested := CharSet × Nat
abbrev Pending := Option (SetOperation × Nested)

def combine (f : Flags) (before : Pending) (m : Members) : Nested :=
  match before with
  | none => (m.set,m.nesting)
  | some (operation,left) => (operation.apply (f.folded left.1) (f.folded m.set),max left.2 m.nesting + 1)

def member? (f : Flags) : Text → Option (Primitive × Text)
  | [] => none
  | '\\' :: s => escape? f s
  | c :: s => some (.char c false,s)

-- The character that a class takes; without Unicode an ASCII character.
def memberChar? (f : Flags) : Primitive → Option Char
  | .char c _ => if f.unicode || isAscii c then some c else none
  | _ => none

def memberSet? (f : Flags) : Primitive → Option CharSet
  | .set s => some s
  | p => (memberChar? f p).map .one

-- The character after the present one, blanks and the mark of a comment passed over.
def peek (f : Flags) (s : Text) : Option Char :=
  if !f.spaced then s.head?
  else match s.dropWhile isBlank with
    | '#' :: s => (s.dropWhile isBlank).head?
    | s => s.head?

def span? (f : Flags) (s : Text) : Option (CharSet × Text) := do
  let (first,s) ← member? f s
  match f.gap s with
  | [] => none
  | '-' :: more =>
    if peek f more = some ']' || peek f more = some '-' then (memberSet? f first).map fun set => (set,'-' :: more)
    else do
      let (last,r) ← member? f (f.gap more)
      let low ← memberChar? f first
      let high ← memberChar? f last
      if low.val ≤ high.val then some (.range low high,r) else none
  | s => (memberSet? f first).map fun set => (set,s)

def asciiClass? (f : Flags) (s : Text) : Option (Option CharSet × Text) :=
  match s with
  | ':' :: s =>
    let (negated,s) := match s with
      | '^' :: r => (true,r)
      | r => (false,r)
    let name := s.takeWhile (· ≠ ':')
    match s.dropWhile (· ≠ ':') with
    | ':' :: ']' :: r => (CharSet.asciiClass? name).map fun set => (f.finished? negated set,r)
    | _ => none
  | _ => none

def leadingDashes (f : Flags) : Nat → Text → Members → Members × Text
  | fuel + 1, '-' :: s, m => leadingDashes f fuel (f.gap s) (m.add (.one '-') 0)
  | _, s, m => (m,s)

mutual
def class? (f : Flags) : Nat → Text → Option (Nested × Text)
  | 0, _ => none
  | fuel + 1, s => do
    let (negated,s) := match f.gap s with
      | '^' :: s => (true,f.gap s)
      | s => (false,s)
    let (m,s) := leadingDashes f s.length s .none
    let (m,s) := match m.count, s with
      | 0, ']' :: r => (m.add (.one ']') 0,f.gap r)
      | _, s => (m,s)
    let ((set,depth),r) ← members? f fuel none m s
    let set ← f.finished? negated set
    pure ((set,depth + 1),r)
def members? (f : Flags) : Nat → Pending → Members → Text → Option (Nested × Text)
  | 0, _, _, _ => none
  | fuel + 1, before, m, s =>
    let operate (operation : SetOperation) (r : Text) : Option (Nested × Text) :=
      members? f fuel (some (operation,combine f before m)) .none r
    match f.gap s with
    | [] => none
    | ']' :: r => some (combine f before m,r)
    | '&' :: '&' :: r => operate .common r
    | '-' :: '-' :: r => operate .without r
    | '~' :: '~' :: r => operate .different r
    | '[' :: r =>
      match asciiClass? f r with
      | some (set,r) => set.bind fun set => members? f fuel before (m.add set 0) r
      | none => do
        let ((set,depth),r) ← class? f fuel r
        members? f fuel before (m.add set depth) r
    | s => do
      let (set,r) ← span? f s
      members? f fuel before (m.add set 0) r
end

def isNameStart (c : Char) : Bool :=
  c = '_' || CharSet.letter.has c || isWithin newerLetters c.toNat
def isNamePart (c : Char) : Bool :=
  isNameStart c || c = '.' || c = '[' || c = ']' || CharSet.number.has c || isWithin newerDigits c.toNat

def groupName? (s : Text) : Option (Text × Text) :=
  match s.takeWhile (· ≠ '>'), s.dropWhile (· ≠ '>') with
  | c :: more, _ :: r => if isNameStart c && more.all isNamePart then some (c :: more,r) else none
  | _, _ => none

-- A flag that is set or, behind a dash, unset.
def withFlag? (f : Flags) (c : Char) (on : Bool) : Option Flags :=
  match c with
  | 'i' => some {f with anyCase := on}
  | 'm' => some {f with manyLines := on}
  | 's' => some {f with dotTakesAll := on}
  | 'u' => some {f with unicode := on}
  | 'R' => some {f with anyLineEnd := on}
  | 'x' => some {f with spaced := on}
  -- Which of two matches is preferred makes no difference to whether there is one.
  | 'U' => some f
  | _ => none

-- Flags up to a colon or a closing bracket, which stays. Each may be named once.
def flags? (named : Text) (negated : Bool) (f : Flags) : Text → Option (Flags × Bool × Text)
  | [] => none
  | c :: s =>
    if c = ':' || c = ')' then
      if named.head? = some '-' then none else some (f,named.isEmpty,c :: s)
    else if named.any (· = c) then none
    else if c = '-' then flags? (c :: named) true f s
    else (withFlag? f c (!negated)).bind fun f => flags? (c :: named) negated f s

structure Item where
  pattern : Pattern
  depth : Nat
  mayRepeat : Bool

def deepest (items : List Item) : Nat := items.foldl (fun n i => max n i.depth) 0

def sequenceOf (backwards : List Item) : Item :=
  match backwards with
  | [] => ⟨.nothing,0,false⟩
  | [item] => item
  | items => ⟨inSequence (items.reverse.map (·.pattern)),deepest items + 1,true⟩

def choiceOf (backwards : List Item) : Item :=
  match backwards with
  | [] => ⟨.nothing,0,false⟩
  | [item] => item
  | items => ⟨inChoice (items.reverse.map (·.pattern)),deepest items + 1,true⟩

def repeat? (least : Nat) (most : Option Nat) : List Item → Option (List Item)
  | item :: more =>
    if item.mayRepeat then some (⟨inTurns item.pattern least most,item.depth + 1,true⟩ :: more) else none
  | [] => none

-- A mark behind a repetition, which prefers fewer turns.
def skipLazy : Text → Text
  | '?' :: s => s
  | s => s

def bounds? (f : Flags) (s : Text) : Option ((Nat × Option Nat) × Text) := do
  let (least,s) ← decimal? f (f.gap s)
  let close (most : Option Nat) (r : Text) : (Nat × Option Nat) × Text := ((least,most),skipLazy (f.gap r))
  match s with
  | '\x7d' :: r => some (close (some least) r)
  | ',' :: r =>
    match f.gap r with
    | '\x7d' :: r => some (close none r)
    | r => do
      let (most,r) ← decimal? f r
      match r with
      | '\x7d' :: r => if least ≤ most then some (close (some most) r) else none
      | _ => none
  | _ => none

def primitive? (f : Flags) : Primitive → Option Pattern
  | .char c isByte =>
    if !f.unicode && isByte && !isAscii c then none else some (ofSet (f.folded (.one c)))
  | .set s => some (ofSet s)
  | .edge e => some (.edge e (f.wordFor e))
  | .dot =>
    if !f.unicode then none
    else if f.dotTakesAll then some (ofSet .all)
    else if f.anyLineEnd then some (ofSet (CharSet.ofChars ['\r','\n']).complement)
    else some (ofSet (CharSet.one '\n').complement)

def lineEdge (f : Flags) (atStart : Bool) : Edge :=
  match f.manyLines, f.anyLineEnd, atStart with
  | false, _, true => .textStart
  | false, _, false => .textEnd
  | true, false, true => .lineStart
  | true, false, false => .lineEnd
  | true, true, true => .anyLineStart
  | true, true, false => .anyLineEnd

def place? (f : Flags) : Text → Option (Primitive × Text)
  | [] => none
  | '\\' :: s => escape? f s
  | '.' :: s => some (.dot,s)
  | '^' :: s => some (.edge (lineEdge f true),s)
  | '$' :: s => some (.edge (lineEdge f false),s)
  | c :: s => some (.char c false,s)

-- How a group begins: with flags for the rest of the group around it, or with flags of its own,
-- or so that it is kept, with or without a name.
inductive Opening where
  | setFlags (f : Flags)
  | plain (f : Flags)
  | kept (name : Option Text)

def opening? (f : Flags) (s : Text) : Option (Opening × Text) :=
  match f.gap s with
  | '?' :: 'P' :: '<' :: s => (groupName? s).map fun (name,r) => (.kept (some name),r)
  | '?' :: '<' :: s => (groupName? s).map fun (name,r) => (.kept (some name),r)
  | '?' :: s => do
    let (inner,isEmpty,r) ← flags? [] false f s
    match r with
    | ')' :: r => if isEmpty then none else some (.setFlags inner,r)
    | _ :: r => some (.plain inner,r)
    | [] => none
  | s => some (.kept none,s)

-- The groups seen so far that are kept, and their names, of which no two may be equal.
structure Groups where
  count : Nat
  names : List Text

namespace Groups

def none : Groups := ⟨0,[]⟩

def add? (g : Groups) : Option Text → Option Groups
  | .none => some ⟨g.count + 1,g.names⟩
  | some name => if g.names.contains name then .none else some ⟨g.count + 1,name :: g.names⟩

end Groups

def choice? : Nat → Flags → Groups → List Item → List Item → Text → Option (Item × Groups × Text)
  | 0, _, _, _, _, _ => none
  | fuel + 1, f, groups, branches, items, s =>
    let go (items : List Item) (r : Text) : Option (Item × Groups × Text) :=
      choice? fuel f groups branches items r
    let finish (r : Text) : Option (Item × Groups × Text) :=
      some (choiceOf (sequenceOf items :: branches),groups,r)
    match f.gap s with
    | [] => finish []
    | ')' :: r => finish (')' :: r)
    | '|' :: r => choice? fuel f groups (sequenceOf items :: branches) [] r
    | '(' :: r => do
      let (opening,r) ← opening? f r
      match opening with
      | .setFlags f => choice? fuel f groups branches (⟨.nothing,0,false⟩ :: items) r
      | .plain inner =>
        let (item,groups,r) ← choice? fuel inner groups [] [] r
        match r with
        | ')' :: r => choice? fuel f groups branches (⟨item.pattern,item.depth + 1,true⟩ :: items) r
        | _ => none
      | .kept name =>
        let entered ← groups.add? name
        let (item,groups,r) ← choice? fuel f entered [] [] r
        match r with
        | ')' :: r =>
          choice? fuel f groups branches (⟨.group entered.count item.pattern,item.depth + 1,true⟩ :: items) r
        | _ => none
    | '[' :: r => do
      let ((set,depth),r) ← class? f r.length.succ r
      go (⟨ofSet set,depth,true⟩ :: items) r
    | '?' :: r => (repeat? 0 (some 1) items).bind fun items => go items (skipLazy r)
    | '*' :: r => (repeat? 0 none items).bind fun items => go items (skipLazy r)
    | '+' :: r => (repeat? 1 none items).bind fun items => go items (skipLazy r)
    | '\x7b' :: r => do
      let ((least,most),r) ← bounds? f r
      let items ← repeat? least most items
      go items r
    | s => do
      let (primitive,r) ← place? f s
      let pattern ← primitive? f primitive
      go (⟨pattern,0,true⟩ :: items) r

-- How deep a pattern may be nested.
def depthLimit : Nat := 250

def read? (s : Text) : Option Pattern := do
  let (item,_,r) ← choice? s.length.succ .default .none [] [] s
  if r.isEmpty && item.depth ≤ depthLimit && item.pattern.hasMachines then some item.pattern else none

end StyleTrim.Pattern
