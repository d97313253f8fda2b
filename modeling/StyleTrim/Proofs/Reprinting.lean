import StyleTrim.Proofs.Cuts
namespace StyleTrim.Css
open Text Component Read
variable {top : Option Bracket} {u v : Text} {cs ds : List Component} {l : Lexeme} {name n params selector body : Text}
  {es : List Entry} {stop : Component → Bool} {sheet : Sheet}

-- When the text of a sheet is read as that sheet again. Every part of the sheet is judged by
-- its own text and the bracket it stands in; the delimiters between the parts are what the printer writes.

-- An at-rule's name and prelude are read again up to the first component that ends them.
def HeadReprints (stop : Component → Bool) (top : Option Bracket) (name params : Text) : Prop :=
  ∃ l n cs, Piece top (headText name params) (.leaf l :: cs) ∧ l.token = .atKeyword n ∧ lower n = name ∧
    (∀ c ∈ cs, stop c = false) ∧ collapse (texts cs) = params

def SelectorReprints (top : Option Bracket) (selector : Text) : Prop :=
  selector ≠ [] ∧ collapse selector = selector ∧
    ∃ cs, Piece top selector cs ∧ (∀ c ∈ cs, isCurly c = false) ∧ beginsStyled cs = true

-- The block of an at-rule that is kept as text.
def BodyReprints (body : Text) : Prop := collapse body = body ∧ ∃ cs, Piece (some .curly) body cs

-- An entry is read again, and nothing else, in front of what stands behind it in its block.
def EntryReprints (behind : List Component) (e : Entry) : Prop :=
  ∃ cs, Piece (some .curly) e.text cs ∧ (∀ c ∈ cs, isSemicolon c = false) ∧ (entries [] .start (cs ++ behind)).1 = [e]

def EntriesReprint : List Entry → Prop
  | [] => True
  | [e] => EntryReprints [] e
  | e :: more => EntryReprints [semicolon] e ∧ EntriesReprint more

-- A list of rules that does not begin with the at-rule that a reader passes over there.
def Fresh (sheet : Sheet) : Prop := ∀ n ∈ sheet.head?, ∀ name params, n.atRule? = some (name,params) → name ≠ "charset"

mutual
def Node.Reprints (top : Option Bracket) : Node → Prop
  | .rule r => SelectorReprints top r.selector ∧ EntriesReprint r.entries
  | .statement name params => HeadReprints endsHead top name params
  | .block name params body => HeadReprints endsHead top name params ∧ isGroupName name = false ∧ BodyReprints body
  | .group name params children => HeadReprints endsHead top name params ∧ isGroupName name = true ∧
      Fresh children ∧ AllReprint (some .curly) children
def AllReprint (top : Option Bracket) : Sheet → Prop
  | [] => True
  | n :: more => Node.Reprints top n ∧ AllReprint top more
end

-- A character set at the very beginning may hold blocks; behind it no second one is read.
def Sheet.Reprints (sheet : Sheet) : Prop :=
  (Fresh sheet ∧ AllReprint none sheet) ∨
    ∃ params more, sheet = .statement "charset" params :: more ∧ HeadReprints isSemicolon none "charset" params ∧
      Fresh more ∧ AllReprint none more

theorem Whole.append_piece (first : Whole top u cs) (second : Piece top v ds) : Piece top (u ++ v) (cs ++ ds) where
  closed := allClosed_append.mpr ⟨first.closed,second.closed⟩
  lexed z bounded := by rw [List.append_assoc,first.lexed,second.lexed z bounded,spreads_append,List.append_assoc]

theorem Whole.piece (whole : Whole top u cs) : Piece top u cs := ⟨whole.closed,fun z _ => whole.lexed z⟩

theorem stopped_semicolon (z : Text) : Stopped (";" ++ z) := ⟨_,_,rfl,rfl⟩
theorem stopped_block (u z : Text) : Stopped ("\x7b" ++ u ++ "\x7d" ++ z) := ⟨_,_,rfl,rfl⟩

theorem EntriesReprint.read (reprint : EntriesReprint es) : ∃ cs, Piece (some .curly) (join ";" (es.map Entry.text)) cs ∧
    (entries [] .start cs).1 = es := by
  induction es with
  | nil => exact ⟨[],.nil,by rw [entries]⟩
  | cons e more ih =>
    cases more with
    | nil =>
      obtain ⟨cs,piece,_,read⟩ := reprint
      rw [List.append_nil] at read
      exact ⟨cs,piece,read⟩
    | cons second more =>
      obtain ⟨⟨cs,piece,free,read⟩,others⟩ := reprint
      obtain ⟨ds,rest,again⟩ := ih others
      refine ⟨cs ++ semicolon :: ds,?_,?_⟩
      · have ended := (piece.append .semicolon stopped_semicolon).append_piece rest
        rw [List.append_assoc cs] at ended
        exact ended
      · rw [entries_semicolon [] .start free rfl ds,read,again]
        rfl

-- A printed node is read as that node, before whatever rules follow.
def ReadsAs (top : Option Bracket) (n : Node) : Prop := ∃ cs, Whole top n.text cs ∧
  ∀ finish veryFirst more, (veryFirst = true → Fresh [n]) →
    (rules finish veryFirst (cs ++ more)).sheet = n :: (rules finish false more).sheet

theorem fresh_keyword (spelled : lower n = name) {node : Node} (named : node.atRule? = some (name,params)) (veryFirst : Bool)
    (fresh : veryFirst = true → Fresh [node]) : (veryFirst && sameIgnoringCase n "charset") = false := by
  cases veryFirst with
  | false => rfl
  | true =>
    have other := fresh rfl node rfl name params named
    rw [Bool.true_and,sameIgnoringCase,spelled]
    exact beq_eq_false_iff_ne.mpr other

theorem statement_readsAs (head : HeadReprints endsHead top name params) : ReadsAs top (.statement name params) := by
  obtain ⟨l,n,cs,piece,keyword,spelled,free,kept⟩ := head
  refine ⟨.leaf l :: cs ++ [semicolon],piece.append .semicolon stopped_semicolon,fun finish veryFirst more fresh => ?_⟩
  have read := rules_statement finish keyword (fresh_keyword spelled rfl veryFirst fresh) free (d := semicolon) rfl more
  rw [spelled,kept] at read
  simpa using read

theorem block_readsAs (head : HeadReprints endsHead top name params) (plain : isGroupName name = false)
    (body' : BodyReprints body) : ReadsAs top (.block name params body) := by
  obtain ⟨l,n,cs,piece,keyword,spelled,free,kept⟩ := head
  obtain ⟨settled,inside,filled⟩ := body'
  refine ⟨.leaf l :: cs ++ [curly inside],?_,fun finish veryFirst more fresh => ?_⟩
  · have whole := piece.append (Whole.curly filled) (stopped_block body)
    simpa [Node.text] using whole
  · have read := rules_atBlock finish keyword (fresh_keyword spelled rfl veryFirst fresh) free
      (markOf .openCurly '\x7b') inside (some (markOf .closeCurly '\x7d')) more
    rw [nodesOf,spelled,kept,if_neg (by rw [plain]; exact Bool.false_ne_true),filled.texts,settled] at read
    simpa [curly] using read

theorem rule_readsAs (selected : SelectorReprints top selector) (reprint : EntriesReprint es) :
    ReadsAs top (.rule ⟨selector,es⟩) := by
  obtain ⟨selected,settled,cs,piece,free,begins⟩ := selected
  obtain ⟨inside,filled,read⟩ := reprint.read
  refine ⟨cs ++ [curly inside],?_,fun finish veryFirst more _ => ?_⟩
  · have whole := piece.append (Whole.curly filled) (stopped_block _)
    simpa [Node.text,Rule.text] using whole
  · have kept : collapse (texts cs) = selector := by rw [piece.texts,settled]
    have styled := rules_styled finish veryFirst begins free
      (by rw [kept]; exact List.isEmpty_eq_false_iff.mpr selected) (markOf .openCurly '\x7b') inside
      (some (markOf .closeCurly '\x7d')) more
    rw [kept,read] at styled
    simpa [curly] using styled

theorem group_readsAs {children : Sheet} (head : HeadReprints endsHead top name params) (group : isGroupName name = true)
    (filled : Piece (some .curly) (Sheet.text children) ds)
    (inner : ∀ finish, (rules finish true ds).sheet = children) : ReadsAs top (.group name params children) := by
  obtain ⟨l,n,cs,piece,keyword,spelled,free,kept⟩ := head
  refine ⟨.leaf l :: cs ++ [curly ds],?_,fun finish veryFirst more fresh => ?_⟩
  · have whole := piece.append (Whole.curly filled) (stopped_block _)
    simpa [Node.text] using whole
  · have read := rules_atBlock finish keyword (fresh_keyword spelled rfl veryFirst fresh) free
      (markOf .openCurly '\x7b') ds (some (markOf .closeCurly '\x7d')) more
    rw [nodesOf,spelled,kept,if_pos group,inner] at read
    simpa [curly] using read

theorem fresh_first {node : Node} {more : Sheet} (fresh : Fresh (node :: more)) : Fresh [node] := fun n inside =>
  fresh n inside

mutual
theorem Node.Reprints.readsAs : ∀ {n : Node} {top : Option Bracket}, n.Reprints top → ReadsAs top n
  | .rule _, _, reprints => rule_readsAs reprints.1 reprints.2
  | .statement .., _, reprints => statement_readsAs reprints
  | .block .., _, reprints => block_readsAs reprints.1 reprints.2.1 reprints.2.2
  | .group _ _ _, _, reprints => by
    obtain ⟨head,group,fresh,inner⟩ := reprints
    obtain ⟨ds,whole,read⟩ := inner.read
    exact group_readsAs head group whole.piece fun finish => read finish true fun _ => fresh
theorem AllReprint.read : ∀ {sheet : Sheet} {top : Option Bracket}, AllReprint top sheet →
    ∃ cs, Whole top (Sheet.text sheet) cs ∧
      ∀ finish veryFirst, (veryFirst = true → Fresh sheet) → (rules finish veryFirst cs).sheet = sheet
  | [], _, _ => ⟨[],.nil,fun _ _ _ => rules_none rfl⟩
  | n :: more, _, reprint => by
    obtain ⟨cs,whole,read⟩ := Node.Reprints.readsAs reprint.1
    obtain ⟨ds,rest,again⟩ := AllReprint.read reprint.2
    refine ⟨cs ++ ds,whole.append rest,fun finish veryFirst fresh => ?_⟩
    rw [read finish veryFirst ds fun first => fresh_first (fresh first),again finish false nofun]
end

theorem leadingCharset?_keyword (keyword : l.token = .atKeyword n) (named : sameIgnoringCase n "charset" = true)
    (free : ∀ c ∈ cs, isSemicolon c = false) (more : List Component) :
    leadingCharset? (.leaf l :: cs ++ semicolon :: more) = some (collapse (texts cs),more) := by
  have shown : isSpacing (.leaf l) = false := by simp [isSpacing,keyword]
  obtain ⟨front,back⟩ := front_cut (d := semicolon) free rfl more
  rw [leadingCharset?,List.cons_append,skipSpacing,List.dropWhile_cons_of_neg (by rw [shown]; exact Bool.false_ne_true)]
  dsimp only
  rw [isCharset_keyword keyword,if_pos named,front,back]
  rfl

theorem isCharset_iff {c : Component} (charset : isCharset c = true) :
    ∃ l n, c = .leaf l ∧ l.token = .atKeyword n ∧ lower n = "charset" := by
  cases c with
  | block => cases charset
  | leaf l =>
    obtain ⟨token,text,place⟩ := l
    cases token with
    | atKeyword n => exact ⟨_,n,rfl,rfl,beq_iff_eq.mp charset⟩
    | _ => cases charset

theorem skipSpacing_between (cs : List Component) : (skipSpacing cs).dropWhile isBetween = cs.dropWhile isBetween := by
  unfold skipSpacing
  induction cs with
  | nil => rfl
  | cons c more ih =>
    cases spacing : isSpacing c with
    | true => simp [spacing,isBetween,ih]
    | false => simp [spacing]

theorem atShape_named (finish : Place) (n : Text) (cs : List Component) :
    ∃ node params, nodesOf (atShape finish n cs).1 = [node] ∧ node.atRule? = some (lower n,params) := by
  unfold atShape
  dsimp only
  split
  · dsimp only
    rw [nodesOf]
    split
    · exact ⟨_,_,rfl,rfl⟩
    · exact ⟨_,_,rfl,rfl⟩
  · exact ⟨_,_,rfl,rfl⟩
  · exact ⟨_,_,rfl,rfl⟩

-- Where a list of rules begins with a character set, reading it as any other rule gives a rule of that name.
theorem fresh_leading {finish : Place} (read : (rules finish false cs).sheet = sheet) (fresh : Fresh sheet) :
    leadingCharset? cs = none := by
  unfold leadingCharset?
  cases skipped : skipSpacing cs with
  | nil => rfl
  | cons c rest =>
    dsimp only
    split
    · rename_i charset
      obtain ⟨l,n,rfl,keyword,spelled⟩ := isCharset_iff charset
      have spacing := skipSpacing_between cs
      rw [skipped,dropWhile_visible (keyword_visible keyword)] at spacing
      obtain ⟨node,params,one,named⟩ := atShape_named finish n rest
      rw [rules_shape spacing.symm rfl,shape_keyword keyword,one] at read
      subst read
      exact absurd spelled (fresh node rfl _ params named)
    · rfl

theorem Sheet.Reprints.read (reprints : Sheet.Reprints sheet) : sheetOf (Sheet.text sheet) = sheet := by
  rw [sheetOf_components]
  rcases reprints with ⟨fresh,reprint⟩ | ⟨params,more,rfl,head,fresh,reprint⟩
  · obtain ⟨cs,whole,read⟩ := reprint.read
    rw [whole.components,sheetFrom,fresh_leading (read .start false fun wrong => by cases wrong) fresh]
    exact read .start true fun _ => fresh
  · obtain ⟨l,n,cs,piece,keyword,spelled,free,kept⟩ := head
    obtain ⟨ds,whole,read⟩ := reprint.read
    have all := (piece.append .semicolon stopped_semicolon).append whole
    have named : sameIgnoringCase n "charset" = true := beq_iff_eq.mpr spelled
    have leading := leadingCharset?_keyword keyword named free ds
    rw [Sheet.text,Node.text,all.components,sheetFrom,List.append_assoc,List.singleton_append,leading]
    dsimp only
    rw [kept,read .start true fun _ => fresh]

end StyleTrim.Css
