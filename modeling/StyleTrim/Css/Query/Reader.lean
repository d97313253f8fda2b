import StyleTrim.Css.Query.Formula
namespace StyleTrim.Css.Query
open Text

-- Reading selectors out of components. A part that cannot be read still uses up components:
-- in a lenient list, where an unreadable branch is passed over, what is left of the branch
-- must not hold a token that can stand nowhere.

inductive Part (α : Type) where
  | missing
  | found (value : α) (rest : List Component)
  | bad (rest : List Component)

structure Limits where
  relations : Bool
  having : Bool
deriving DecidableEq, Repr

inductive ArgumentKind where
  | lenient
  | strict
  | relative
  | compound
deriving DecidableEq, Repr

abbrev ReadArgument := ArgumentKind → List Component → Option (List Chain)

-- The components without comments, which part names here like nothing at all.
def withoutComments (s : List Component) : List Component := s.filter fun c => !c.isLeaf .comment
def argumentOf (c : Component) : List Component := withoutComments c.inside

def isBar : List Component → Bool
  | c :: _ => c.isLeaf (.delim '|')
  | [] => false

def qualified (space : List Test) : List Component → Part (List Test)
  | [] => .bad []
  | c :: rest => match c.token with
    | .delim '*' => .found (space ++ [.any]) rest
    | .ident name => .found (space ++ [.tag name]) rest
    | _ => .bad rest

-- A tag or a star. No vocabulary has a mark here, and every element is of some vocabulary.
def typePart : List Component → Part (List Test)
  | [] => .missing
  | c :: rest => match c.token with
    | .ident name => if isBar rest then .bad (rest.drop 1) else .found [.tag name] rest
    | .delim '*' => if isBar rest then qualified [] (rest.drop 1) else .found [.any] rest
    | .delim '|' => qualified [.never] rest
    | _ => .missing

def comparison? : Token → Option Comparison
  | .delim '=' => some .equals
  | .includesMatch => some .includes
  | .dashMatch => some .dashed
  | .startMatch => some .starts
  | .substringMatch => some .contains
  | .endMatch => some .ends
  | _ => none

def attributeName? : List Component → Option ((Text × Bool) × List Component)
  | [] => none
  | c :: rest => match c.token with
    | .ident name => if isBar rest then none else some ((name,false),rest)
    | .delim '*' => if isBar rest then plainName true (rest.drop 1) else none
    | .delim '|' => plainName false rest
    | _ => none
where
  plainName (inAnySpace : Bool) : List Component → Option ((Text × Bool) × List Component)
    | [] => none
    | c :: rest => match c.token with
      | .ident name => some ((name,inAnySpace),rest)
      | _ => none

def letters? (name : Text) (inAnySpace : Bool) (s : List Component) : Option CaseRule :=
  match Component.skipSpacing s with
  | [] => some (if !inAnySpace && caselessAttributes.contains (lower name) then .foldedOnHtml else .exact)
  | [c] => flag c
  | c :: rest => if (Component.skipSpacing rest).isEmpty then flag c else none
where
  flag (c : Component) : Option CaseRule := match c.token with
    | .ident flag =>
      if sameIgnoringCase flag "i" then some .folded
      else if sameIgnoringCase flag "s" then some .exact
      else none
    | _ => none

def value? : Token → Option Text
  | .ident value | .quoted value => some value
  | _ => none

def attribute? (s : List Component) : Option AttributeTest := do
  let ((name,inAnySpace),rest) ← attributeName? (Component.skipSpacing s)
  match Formula.next? rest with
  | none => some ⟨inAnySpace,name,none⟩
  | some (c,rest) =>
    let comparison ← comparison? c.token
    let (c,rest) ← Formula.next? rest
    let value ← value? c.token
    let letters ← letters? name inAnySpace rest
    some ⟨inAnySpace,name,some ⟨comparison,value,letters⟩⟩

def atEdge (fromEnd ofType : Bool) : Test := .position ⟨fromEnd,ofType,⟨0,1⟩⟩

-- Only what every document shows: state and boxes of a browser have no test.
def pseudo? (name : Text) : Option (List Test) :=
  let is (known : Text) : Bool := sameIgnoringCase name known
  if is "first-child" then some [atEdge false false]
  else if is "last-child" then some [atEdge true false]
  else if is "only-child" then some [atEdge false false,atEdge true false]
  else if is "first-of-type" then some [atEdge false true]
  else if is "last-of-type" then some [atEdge true true]
  else if is "only-of-type" then some [atEdge false true,atEdge true true]
  else if is "root" || is "scope" then some [.root]
  else if is "empty" then some [.empty]
  else none

def formulaTest? (fromEnd ofType : Bool) (argument : List Component) : Option (List Test) :=
  match Formula.read? argument with
  | some (formula,rest) =>
    if (Component.skipSpacing rest).isEmpty then some [.position ⟨fromEnd,ofType,formula⟩] else none
  | none => none

def functional? (limits : Limits) (read : ReadArgument) (name : Text) (argument : List Component) :
    Option (List Test) :=
  let is (known : Text) : Bool := sameIgnoringCase name known
  if is "nth-child" then formulaTest? false false argument
  else if is "nth-last-child" then formulaTest? true false argument
  else if is "nth-of-type" then formulaTest? false true argument
  else if is "nth-last-of-type" then formulaTest? true true argument
  else if is "is" || is "where" then (read .lenient argument).map fun chains => [.oneOf chains]
  else if is "not" then (read .strict argument).map fun chains => [.noneOf chains]
  else if is "has" then
    if limits.having then (read .relative argument).map fun chains => [.having chains] else none
  -- A host has its page elsewhere, so no element of this page is one.
  else if is "host" then (read .compound argument).map fun _ => [.never]
  else none

-- Pseudo-elements that may also be written with one colon.
def isOldPseudoElement (name : Text) : Bool :=
  isOneOf (lower name) ["before","after","first-line","first-letter"]

def settled (result : Option (List Test)) (rest : List Component) : Part (List Test) :=
  match result with
  | some tests => .found tests rest
  | none => .bad rest

def pseudoPart (limits : Limits) (read : ReadArgument) : List Component → Part (List Test)
  | [] => .bad []
  | c :: rest => match c.token with
    -- No element is a pseudo-element, whatever its name.
    | .colon => .bad (rest.drop 1)
    | .ident name => settled (if isOldPseudoElement name then none else pseudo? name) rest
    | .function name =>
      settled (if isOldPseudoElement name then none else functional? limits read name (argumentOf c)) rest
    | _ => .bad rest

def simplePart (limits : Limits) (read : ReadArgument) : List Component → Part (List Test)
  | [] => .missing
  | c :: rest => match c.token with
    | .idHash name => .found [.id name] rest
    | .delim '.' => match rest with
      | [] => .bad []
      | c :: rest => match c.token with
        | .ident name => .found [.hasClass name] rest
        | _ => .bad rest
    | .openSquare => settled ((attribute? (argumentOf c)).map fun test => [.attribute test]) rest
    | .colon => pseudoPart limits read rest
    | _ => .missing

theorem settled_rest {result : Option (List Test)} {rest r : List Component} {tests : List Test}
    (found : settled result rest = .found tests r) : r = rest := by
  unfold settled at found
  split at found
  · cases found; rfl
  · cases found

theorem pseudoPart_length {limits : Limits} {read : ReadArgument} {s r : List Component} {tests : List Test}
    (found : pseudoPart limits read s = .found tests r) : r.length < s.length := by
  unfold pseudoPart at found
  split at found
  · cases found
  · split at found
    · cases found
    · rw [settled_rest found]; simp
    · rw [settled_rest found]; simp
    · cases found

theorem simplePart_length {limits : Limits} {read : ReadArgument} {s r : List Component} {tests : List Test}
    (found : simplePart limits read s = .found tests r) : r.length < s.length := by
  unfold simplePart at found
  split at found
  · cases found
  · split at found
    · cases found; simp
    · split at found
      · cases found
      · split at found
        · cases found; simp only [List.length_cons]; omega
        · cases found
    · rw [settled_rest found]; simp
    · have := pseudoPart_length found; simp; omega
    · cases found

-- A reading that failed tells what it left over.
abbrev Reading (α : Type) := Except (List Component) (α × List Component)

def simples (limits : Limits) (read : ReadArgument) (s : List Component) : Reading (List Test) :=
  match _h : simplePart limits read s with
  | .missing => .ok ([],s)
  | .bad rest => .error rest
  | .found tests rest =>
    (simples limits read rest).map fun more => (tests ++ more.1,more.2)
termination_by s.length
decreasing_by exact simplePart_length _h

def compound (limits : Limits) (read : ReadArgument) (s : List Component) : Reading (List Test) :=
  let s := Component.skipSpacing s
  let all : Reading (List Test) := match typePart s with
    | .missing => simples limits read s
    | .bad rest => .error rest
    | .found tests rest => (simples limits read rest).map fun more => (tests ++ more.1,more.2)
  match all with
  | .ok ([],rest) => .error rest
  | other => other

def mark? : List Component → Option (Relation × List Component)
  | [] => none
  | c :: rest => match c.token with
    | .delim '>' => some (.child,rest)
    | .delim '+' => some (.next,rest)
    | .delim '~' => some (.later,rest)
    | _ => none

def relation? (s : List Component) : Option (Relation × List Component) :=
  let ahead := Component.skipSpacing s
  match mark? ahead with
  | some r => some r
  | none => if ahead.isEmpty || ahead.length = s.length then none else some (.descendant,ahead)

-- The chain that goes on with what is read here. Each link uses up a component at least.
def chainFrom (limits : Limits) (read : ReadArgument) (link : List Test → Chain) :
    Nat → List Component → Reading Chain
  | 0, s => .error s
  | fuel + 1, s =>
    match compound limits read s with
    | .error rest => .error rest
    | .ok (tests,rest) =>
      match relation? rest with
      | none => .ok (link tests,rest)
      | some (relation,rest) =>
        if limits.relations then chainFrom limits read (.link (link tests) relation) fuel rest
        else .error rest

def chain (limits : Limits) (read : ReadArgument) (s : List Component) : Reading Chain :=
  chainFrom limits read .only (s.length + 1) s

-- A chain behind the anchor. Without a mark it may begin anywhere below.
def relativeChain (limits : Limits) (read : ReadArgument) (s : List Component) : Reading Chain :=
  let (relation,rest) := (mark? (Component.skipSpacing s)).getD (.descendant,s)
  chainFrom limits read (.link .anchor relation) (s.length + 1) rest

def whole? (reading : Reading Chain) : Except (List Component) Chain :=
  match reading with
  | .error rest => .error rest
  | .ok (chain,rest) => if (Component.skipSpacing rest).isEmpty then .ok chain else .error rest

def branches : List Component → List (List Component)
  | [] => [[]]
  | c :: more =>
    if c.isLeaf .comma then [] :: branches more
    else match branches more with
      | [] => [[c]]
      | first :: rest => (c :: first) :: rest

def isMisplaced : Token → Bool
  | .badQuoted _ | .badAddress _ | .closeParen | .closeSquare | .closeCurly => true
  | _ => false

mutual
def misplaced : Component → Bool
  | .leaf l => isMisplaced l.token
  | .block _ _ inside _ => anyMisplaced inside
def anyMisplaced : List Component → Bool
  | [] => false
  | c :: more => misplaced c || anyMisplaced more
end

-- Passes over a branch that cannot be read.
def leniently (read : List Component → Except (List Component) Chain) :
    List (List Component) → Option (List Chain)
  | [] => some []
  | branch :: more =>
    match read branch with
    | .ok chain => (leniently read more).map (chain :: ·)
    | .error rest => if anyMisplaced rest then none else leniently read more

def strictly (read : List Component → Except (List Component) Chain) (list : List (List Component)) :
    Option (List Chain) := list.mapM fun branch => (read branch).toOption

def argument (limits : Limits) : Nat → ReadArgument
  | 0, _, _ => none
  | depth + 1, kind, s =>
    match kind with
    | .lenient => leniently (fun b => whole? (chain limits (argument limits depth) b)) (branches s)
    | .strict => strictly (fun b => whole? (chain limits (argument limits depth) b)) (branches s)
    | .relative =>
      let inner := {limits with having := false}
      strictly (fun b => whole? (relativeChain inner (argument inner depth) b)) (branches s)
    | .compound =>
      let inner := {limits with relations := false}
      strictly (fun b => whole? (chain inner (argument inner depth) b)) [s]

def read? (selector : Text) : Option Query :=
  let s := withoutComments (Component.ofText selector)
  argument ⟨true,true⟩ (Component.depths s + 1) .strict s

end StyleTrim.Css.Query
