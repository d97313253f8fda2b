import StyleTrim.Css.Component
import StyleTrim.Css.Collapse
import StyleTrim.Css.Printer
namespace StyleTrim.Css
open Text Component

-- What could not be read, where that was noticed, and its source text.
inductive Complaint where
  | unreadEntry (selector : Text) (place : Place) (text : Text)
  | invalidRule (place : Place) (source : Text)
deriving DecidableEq, Repr

def Place.text (p : Place) : Text := ofNat (p.line+1) ++ ":" ++ ofNat p.column

def Complaint.message : Complaint → Text
  | .unreadEntry selector place text =>
    "unparsed CSS in `" ++ selector ++ "` at " ++ place.text ++ " kept as written: " ++ text
  | .invalidRule place source => "invalid CSS at " ++ place.text ++ ": " ++ collapse source

namespace Read

def isSemicolon (c : Component) : Bool := c.isLeaf .semicolon
def endsHead (c : Component) : Bool := isSemicolon c || c.isCurly

def front (stop : Component → Bool) (cs : List Component) : List Component := cs.takeWhile fun c => !stop c
def back (stop : Component → Bool) (cs : List Component) : List Component := cs.dropWhile fun c => !stop c

theorem back_suffix (stop : Component → Bool) (cs : List Component) : back stop cs <:+ cs :=
  List.dropWhile_suffix _

def isCustom (name : Text) : Bool := ("--" : Text).isPrefixOf name

def declarationOf (name : Text) (value : List Component) : Declaration :=
  let split := splitImportant (texts value)
  ⟨if isCustom name then name else lower name,split.1,split.2⟩

def verbatimBlock (head : Text) (inside : List Component) : Entry :=
  .verbatim (head ++ "\x7b" ++ collapse (texts inside) ++ "\x7d")

inductive Attempt where
  | entry (e : Entry)
  | failed (place : Place) (source : Text)

def nestedRule (finish : Place) (cs : List Component) : Attempt × List Component :=
  match back endsHead cs with
  | .block _ _ inside _ :: after => (.entry (verbatimBlock (collapse (texts (front endsHead cs))) inside),after)
  | stop :: after => (.failed stop.place (texts (front endsHead cs) ++ stop.text),after)
  | [] => (.failed finish (texts cs),[])

def nestedAtRule (name : Text) (cs : List Component) : Entry × List Component :=
  let head := headText (lower name) (collapse (texts (front endsHead cs)))
  match back endsHead cs with
  | .block _ _ inside _ :: after => (verbatimBlock head inside,after)
  | _ :: after => (.verbatim head,after)
  | [] => (.verbatim head,[])

-- What begins with a name: a declaration if a colon follows, else a nested rule is tried. The
-- failure of both is told from where the colon was missed.
def named (finish : Place) (name : Text) (first : Component) (rest : List Component) :
    Attempt × List Component :=
  match skipSpacing rest with
  | [] => blame finish
  | next :: value =>
    if next.isLeaf .colon then
      (.entry (.declaration (declarationOf name (front isSemicolon value))),(back isSemicolon value).drop 1)
    else if isSemicolon next then blame next.place
    else blame (placeOf finish rest)
where
  blame (place : Place) : Attempt × List Component :=
    match nestedRule finish (first :: rest) with
    | (.entry e,after) => (.entry e,after)
    | (.failed _ source,after) => (.failed place source,after)

def attempt (finish : Place) (first : Component) (rest : List Component) : Attempt × List Component :=
  match first with
  | .block .. => nestedRule finish (first :: rest)
  | .leaf l =>
    match l.token with
    | .atKeyword name => let read := nestedAtRule name rest; (.entry read.1,read.2)
    | .ident name => named finish name first rest
    | _ => nestedRule finish (first :: rest)

theorem nestedRule_suffix (finish : Place) (c : Component) (cs : List Component) :
    (nestedRule finish (c :: cs)).2 <:+ cs := by
  have read : ∀ {d : Component} {after : List Component}, back endsHead (c :: cs) = d :: after → after <:+ cs := by
    intro d after same
    have tail := back_suffix endsHead (c :: cs)
    rw [same] at tail
    rcases List.suffix_cons_iff.mp tail with equal | inner
    · cases equal; exact List.suffix_rfl
    · exact (List.suffix_cons d after).trans inner
  unfold nestedRule
  split
  · exact read ‹_›
  · exact read ‹_›
  · exact List.nil_suffix

theorem nestedAtRule_suffix (name : Text) (cs : List Component) : (nestedAtRule name cs).2 <:+ cs := by
  have tail := back_suffix endsHead cs
  unfold nestedAtRule
  dsimp only
  split
  · rename_i same; exact (List.suffix_cons _ _).trans (same ▸ tail)
  · rename_i same; exact (List.suffix_cons _ _).trans (same ▸ tail)
  · exact List.nil_suffix

theorem blame_suffix (finish : Place) (first : Component) (rest : List Component) (place : Place) :
    (named.blame finish first rest place).2 <:+ rest := by
  have tail := nestedRule_suffix finish first rest
  unfold named.blame
  split
  · rename_i same; rwa [same] at tail
  · rename_i same; rwa [same] at tail

theorem named_suffix (finish : Place) (name : Text) (first : Component) (rest : List Component) :
    (named finish name first rest).2 <:+ rest := by
  have spaced := skipSpacing_suffix rest
  unfold named
  split
  · exact blame_suffix ..
  · rename_i next value same
    rw [same] at spaced
    split
    · exact (List.drop_suffix 1 _).trans ((back_suffix isSemicolon value).trans
        ((List.suffix_cons next value).trans spaced))
    · split <;> exact blame_suffix ..

theorem attempt_suffix (finish : Place) (first : Component) (rest : List Component) :
    (attempt finish first rest).2 <:+ rest := by
  unfold attempt
  split
  · exact nestedRule_suffix ..
  · split
    · exact nestedAtRule_suffix ..
    · exact named_suffix ..
    · exact nestedRule_suffix ..

def entries (selector : Text) (finish : Place) (cs : List Component) : List Entry × List Complaint :=
  match cs with
  | [] => ([],[])
  | first :: rest =>
    if first.isSpacing || isSemicolon first then entries selector finish rest
    else
      let more := entries selector finish (attempt finish first rest).2
      match (attempt finish first rest).1 with
      | .entry e => (e :: more.1,more.2)
      | .failed place source =>
        let text := trimEnd isBlank (trimEnd (· = ';') (collapse source))
        if text.isEmpty then more
        else (.verbatim text :: more.1,.unreadEntry selector place text :: more.2)
termination_by cs.length
decreasing_by
  · simp
  · have := (attempt_suffix finish first rest).length_le; simp; omega

-- A rule by its outer form, before its block is read. A block comes with the place of its end.
inductive Shape where
  | statement (name params : Text)
  | atBlock (name params : Text) (inside : List Component) (finish : Place)
  | styled (selector : Text) (inside : List Component) (finish : Place)
  | invalid (place : Place) (source : Text)

def Shape.inside : Shape → List Component
  | .atBlock _ _ inside _ | .styled _ inside _ => inside
  | .statement .. | .invalid .. => []

def finishOf (finish : Place) : Option Lexeme → Place
  | some closing => closing.place
  | none => finish

def atShape (finish : Place) (name : Text) (cs : List Component) : Shape × List Component :=
  let params := collapse (texts (front endsHead cs))
  match back endsHead cs with
  | .block _ _ inside closing :: after => (.atBlock (lower name) params inside (finishOf finish closing),after)
  | _ :: after => (.statement (lower name) params,after)
  | [] => (.statement (lower name) params,[])

-- A style rule, which needs a selector and a block. Of one without a selector only the opening
-- brace counts as its source.
def styledShape (finish : Place) (cs : List Component) : Shape × List Component :=
  let source := texts (front isCurly cs)
  let selector := collapse source
  match back isCurly cs with
  | .block _ opening inside closing :: after =>
    if selector.isEmpty then (.invalid opening.place (source ++ opening.text),after)
    else (.styled selector inside (finishOf finish closing),after)
  | _ => (.invalid finish (texts cs),[])

def customProperty? : List Component → Option (List Component)
  | .leaf l :: rest =>
    match l.token, skipSpacing rest with
    | .ident name, next :: value => if isCustom name && next.isLeaf .colon then some value else none
    | _, _ => none
  | _ => none

def shape (finish : Place) (first : Component) (rest : List Component) : Shape × List Component :=
  match customProperty? (first :: rest) with
  | some value =>
    let after := (back isCurly value).drop 1
    (.invalid first.place (texts ((first :: rest).take (rest.length + 1 - after.length))),after)
  | none =>
    match first with
    | .leaf ⟨.atKeyword name,_,_⟩ => atShape finish name rest
    | _ => styledShape finish (first :: rest)

-- Blanks, comments and the marks that may hide a sheet in a document.
def isBetween (c : Component) : Bool := c.isSpacing || c.isLeaf .commentOpen || c.isLeaf .commentClose

def isCharset (c : Component) : Bool :=
  match c with
  | .leaf ⟨.atKeyword name,_,_⟩ => sameIgnoringCase name "charset"
  | _ => false

theorem inside_weights {cs after inside : List Component} {bracket : Bracket} {opening : Lexeme}
    {closing : Option Lexeme} (tail : .block bracket opening inside closing :: after <:+ cs) :
    weights inside < weights cs := by
  have bound := weights_suffix tail
  simp [weights,weight] at bound
  omega

theorem atShape_suffix (finish : Place) (name : Text) (cs : List Component) :
    (atShape finish name cs).2 <:+ cs := by
  have tail := back_suffix endsHead cs
  unfold atShape
  dsimp only
  split
  · rename_i same; exact (List.suffix_cons _ _).trans (same ▸ tail)
  · rename_i same; exact (List.suffix_cons _ _).trans (same ▸ tail)
  · exact List.nil_suffix

theorem atShape_inside (finish : Place) (name : Text) (cs : List Component) :
    weights (atShape finish name cs).1.inside ≤ weights cs := by
  have tail := back_suffix endsHead cs
  unfold atShape
  dsimp only
  split
  · rename_i same; exact Nat.le_of_lt (inside_weights (same ▸ tail))
  · exact Nat.zero_le _
  · exact Nat.zero_le _

theorem styledShape_suffix (finish : Place) (c : Component) (cs : List Component) :
    (styledShape finish (c :: cs)).2 <:+ cs := by
  have tail := back_suffix isCurly (c :: cs)
  unfold styledShape
  dsimp only
  split
  · rename_i b opening inside closing after same
    rw [same] at tail
    have rest : after <:+ cs := by
      rcases List.suffix_cons_iff.mp tail with equal | inner
      · cases equal; exact List.suffix_rfl
      · exact (List.suffix_cons _ after).trans inner
    split <;> exact rest
  · exact List.nil_suffix

theorem styledShape_inside (finish : Place) (c : Component) (cs : List Component) :
    weights (styledShape finish (c :: cs)).1.inside < weights (c :: cs) := by
  have tail := back_suffix isCurly (c :: cs)
  have some : 0 < weights (c :: cs) := by have := weight_pos c; simp [weights]; omega
  unfold styledShape
  dsimp only
  split
  · rename_i same
    split
    · exact some
    · exact inside_weights (same ▸ tail)
  · exact some

theorem customProperty?_suffix (found : customProperty? (c :: cs) = some value) : value <:+ cs := by
  unfold customProperty? at found
  split at found
  · rename_i l rest same
    cases same
    split at found
    · rename_i next after _ spaced
      split at found
      · cases found
        exact (List.suffix_cons next value).trans (spaced ▸ skipSpacing_suffix cs)
      · cases found
    · cases found
  · cases found

theorem shape_suffix (finish : Place) (c : Component) (cs : List Component) :
    (shape finish c cs).2 <:+ cs := by
  unfold shape
  split
  · rename_i value found
    exact (List.drop_suffix 1 _).trans ((back_suffix isCurly value).trans (customProperty?_suffix found))
  · split
    · exact atShape_suffix ..
    · exact styledShape_suffix ..

theorem shape_inside (finish : Place) (c : Component) (cs : List Component) :
    weights (shape finish c cs).1.inside < weights (c :: cs) := by
  have some : weights cs < weights (c :: cs) := by have := weight_pos c; simp [weights]; omega
  unfold shape
  split
  · exact Nat.lt_of_le_of_lt (Nat.zero_le _) some
  · split
    · exact Nat.lt_of_le_of_lt (atShape_inside ..) some
    · exact styledShape_inside ..

structure Reading where
  sheet : Sheet
  inner : List Complaint
  own : List Complaint

def Reading.complaints (r : Reading) : List Complaint := r.inner ++ r.own

-- A list of rules. Its very first rule is passed over in silence if it sets a character set.
def rules (finish : Place) (veryFirst : Bool) (cs : List Component) : Reading :=
  match _visible : cs.dropWhile isBetween with
  | [] => ⟨[],[],[]⟩
  | c :: rest =>
    if veryFirst && isCharset c then rules finish false ((back endsHead rest).drop 1)
    else
      let more := rules finish false (shape finish c rest).2
      match _form : (shape finish c rest).1 with
      | .statement name params => {more with sheet := .statement name params :: more.sheet}
      | .atBlock name params inside stop =>
        if isGroupName name then
          let read := rules stop true inside
          ⟨.group name params read.sheet :: more.sheet,read.complaints ++ more.inner,more.own⟩
        else {more with sheet := .block name params (collapse (texts inside)) :: more.sheet}
      | .styled selector inside stop =>
        let read := entries selector stop inside
        ⟨.rule ⟨selector,read.1⟩ :: more.sheet,read.2 ++ more.inner,more.own⟩
      | .invalid place source => {more with own := .invalidRule place source :: more.own}
termination_by weights cs
decreasing_by
  all_goals
    have visible := weights_suffix (_visible ▸ List.dropWhile_suffix (l := cs) isBetween)
    have first := weight_pos c
    simp only [weights] at visible
  · have := weights_suffix ((List.drop_suffix 1 _).trans (back_suffix endsHead rest)); omega
  · have := weights_suffix (shape_suffix finish c rest); omega
  · have := shape_inside finish c rest
    rw [_form] at this
    simp only [Shape.inside,weights] at this; omega

-- The character set that a sheet begins with, which may hold blocks, and what follows it.
def leadingCharset? (cs : List Component) : Option (Text × List Component) :=
  match skipSpacing cs with
  | c :: rest =>
    if isCharset c then some (collapse (texts (front isSemicolon rest)),(back isSemicolon rest).drop 1) else none
  | [] => none

end Read

def read (css : Text) : Sheet × List Complaint :=
  let finish := Place.start.after css
  let cs := ofText css
  match Read.leadingCharset? cs with
  | some (params,rest) =>
    let found := Read.rules finish true rest
    (.statement "charset" params :: found.sheet,found.complaints)
  | none =>
    let found := Read.rules finish true cs
    (found.sheet,found.complaints)

def sheetOf (css : Text) : Sheet := (read css).1

end StyleTrim.Css
