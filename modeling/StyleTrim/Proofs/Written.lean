import StyleTrim.Html.Rules
import StyleTrim.Dom.Printer
import Mathlib.Tactic.SplitIfs
namespace StyleTrim.Html.Scan
open Text
variable {name rest s t value p : Text} {c d : Char} {inAttribute foreign : Bool}

-- What the printer writes is read as the token it stands for, whatever comes behind it.

-- Only names that begin as the text does, or that the text begins with, can be found in it.
def rivals (name : Text) (table : List (String × List Nat)) : List (String × List Nat) :=
  table.filter fun e => e.1.toList.isPrefixOf name || name.isPrefixOf e.1.toList

theorem longestName_rivals (table : List (String × List Nat)) :
    longestName (name ++ rest) table = longestName (name ++ rest) (rivals name table) := by
  induction table with
  | nil => rfl
  | cons e more ih =>
    cases rival : e.1.toList.isPrefixOf name || name.isPrefixOf e.1.toList with
    | true =>
      have kept : rivals name (e :: more) = e :: rivals name more := List.filter_cons_of_pos rival
      simp only [kept,longestName,ih]
    | false =>
      have absent : ¬ e.1.toList.isPrefixOf (name ++ rest) = true := by
        intro front
        rw [List.isPrefixOf_iff_prefix] at front
        rw [Bool.or_eq_false_iff] at rival
        rcases List.prefix_or_prefix_of_prefix front (List.prefix_append name rest) with shorter | longer
        · rw [List.isPrefixOf_iff_prefix.mpr shorter] at rival
          exact Bool.noConfusion rival.1
        · rw [List.isPrefixOf_iff_prefix.mpr longer] at rival
          exact Bool.noConfusion rival.2
      rw [rivals,List.filter_cons_of_neg (by simp [rival]),longestName,if_neg absent]
      exact ih

theorem reference_of {code : Nat} (first : name.head? = some c) (sharp : c ≠ '#') (ends : name.getLast? = some ';')
    (longest : longestName (name ++ rest) (rivals name (referencesOn c)) = some (name,[code])) :
    reference inAttribute (name ++ rest) = ([Char.ofNat code],rest) := by
  cases name with
  | nil => cases first
  | cons head tail =>
    cases first
    have named : namedReference? inAttribute (c :: tail ++ rest) = some ([Char.ofNat code],rest) := by
      have found := (longestName_rivals (referencesOn c)).trans longest
      simp only [namedReference?,List.cons_append,List.head?_cons,Option.map_some,Option.bind_some]
      rw [← List.cons_append,found]
      simp [ends]
    have plain : reference? inAttribute (c :: tail ++ rest) = namedReference? inAttribute (c :: tail ++ rest) := by
      rw [List.cons_append,reference?]
      all_goals
        intros
        injections
        contradiction
    rw [reference,plain,named]
    rfl

-- How a character is written in place of which a reference stands.
structure Refers (name : Text) (c : Char) : Prop where
  read : ∀ inAttribute rest, reference inAttribute (name ++ rest) = ([c],rest)
  shut : ∀ rest, isOpenEnded (name ++ rest) = false

-- The references that are written have no rivals but those without a semicolon.
theorem rivals_known :
    rivals "amp;" (referencesOn 'a') = [("amp",[0x26]),("amp;",[0x26])] ∧
    rivals "nbsp;" (referencesOn 'n') = [("nbsp",[0xa0]),("nbsp;",[0xa0])] ∧
    rivals "lt;" (referencesOn 'l') = [("lt",[0x3c]),("lt;",[0x3c])] ∧
    rivals "gt;" (referencesOn 'g') = [("gt",[0x3e]),("gt;",[0x3e])] ∧
    rivals "quot;" (referencesOn 'q') = [("quot",[0x22]),("quot;",[0x22])] := by
  decide +kernel

theorem refers_amp : Refers "amp;" '&' :=
  ⟨fun _ _ => reference_of rfl (by decide) rfl (rivals_known.1 ▸ rfl),fun _ => rfl⟩
theorem refers_nbsp : Refers "nbsp;" '\xa0' :=
  ⟨fun _ _ => reference_of rfl (by decide) rfl (rivals_known.2.1 ▸ rfl),fun _ => rfl⟩
theorem refers_lt : Refers "lt;" '<' :=
  ⟨fun _ _ => reference_of rfl (by decide) rfl (rivals_known.2.2.1 ▸ rfl),fun _ => rfl⟩
theorem refers_gt : Refers "gt;" '>' :=
  ⟨fun _ _ => reference_of rfl (by decide) rfl (rivals_known.2.2.2.1 ▸ rfl),fun _ => rfl⟩
theorem refers_quot : Refers "quot;" '"' :=
  ⟨fun _ _ => reference_of rfl (by decide) rfl (rivals_known.2.2.2.2 ▸ rfl),fun _ => rfl⟩

theorem escapedText_cases (c : Char) : (∃ name, Dom.escapedTextChar c = '&' :: name ∧ Refers name c) ∨
    Dom.escapedTextChar c = [c] ∧ c ≠ '&' ∧ c ≠ '<' := by
  unfold Dom.escapedTextChar
  split
  · rename_i same
    exact .inl ⟨"amp;",rfl,same ▸ refers_amp⟩
  · split
    · rename_i same
      exact .inl ⟨"nbsp;",rfl,same ▸ refers_nbsp⟩
    · split
      · rename_i same
        exact .inl ⟨"lt;",rfl,same ▸ refers_lt⟩
      · split
        · rename_i same
          exact .inl ⟨"gt;",rfl,same ▸ refers_gt⟩
        · rename_i noReference _ noTag _
          exact .inr ⟨rfl,noReference,noTag⟩

theorem escapedValue_cases (c : Char) : (∃ name, Dom.escapedValueChar c = '&' :: name ∧ Refers name c) ∨
    Dom.escapedValueChar c = [c] ∧ c ≠ '&' ∧ c ≠ '"' := by
  unfold Dom.escapedValueChar
  split
  · rename_i same
    exact .inl ⟨"amp;",rfl,same ▸ refers_amp⟩
  · split
    · rename_i same
      exact .inl ⟨"nbsp;",rfl,same ▸ refers_nbsp⟩
    · split
      · rename_i same
        exact .inl ⟨"quot;",rfl,same ▸ refers_quot⟩
      · rename_i noReference _ noMark
        exact .inr ⟨rfl,noReference,noMark⟩

theorem meant_eq (plain : c ≠ '\x00') : meant c = c := if_neg plain

theorem escapedValue_read (rest : Text) (plain : c ≠ '\x00') :
    quotedValue '"' (Dom.escapedValueChar c ++ rest) = (quotedValue '"' rest).map (pushAll [c]) := by
  rcases escapedValue_cases c with ⟨name,written,refers⟩ | ⟨written,noReference,noMark⟩
  · rw [written,List.cons_append,quotedValue,refers.read]
    rfl
  · rw [written,List.singleton_append,quotedValue,if_neg noMark,if_neg noReference,meant_eq plain]
    rfl

-- A null is never read as itself.
def hasNoNull (s : Text) : Bool := s.all (· ≠ '\x00')

theorem hasNoNull_cons : hasNoNull (c :: s) = true ↔ c ≠ '\x00' ∧ hasNoNull s = true := by
  simp [hasNoNull]

theorem escapedValues_read (rest : Text) (plain : hasNoNull value) :
    quotedValue '"' (value.flatMap Dom.escapedValueChar ++ '"' :: rest) = some (value,rest) := by
  induction value with
  | nil => simp [quotedValue]
  | cons c value ih =>
    obtain ⟨first,plain⟩ := hasNoNull_cons.mp plain
    rw [List.flatMap_cons,List.append_assoc,escapedValue_read _ first,ih plain]
    rfl

-- A name that is read as one, up to letter case.
def isNamed (ends : Char → Bool) (name : Text) : Bool :=
  !name.isEmpty && name.all fun c => c ≠ '\x00' && !ends c

theorem isNamed_iff {ends : Char → Bool} : isNamed ends name = true ↔ name ≠ [] ∧ ∀ c ∈ name, c ≠ '\x00' ∧ ends c = false := by
  simp [isNamed]

theorem isNamed_lower {ends : Char → Bool} (named : isNamed ends name) : name.map meantLower = lower name := by
  apply List.map_congr_left
  intro c inside
  rw [meantLower,meant_eq ((isNamed_iff.mp named).2 c inside).1]

-- The run of a name in front of what ends it.
theorem takeWhile_ending {ends : Char → Bool} (rest : Text) (goesOn : ∀ c ∈ name, ends c = false) (stop : ends d = true) :
    (name ++ d :: rest).takeWhile (fun c => !ends c) = name ∧ (name ++ d :: rest).dropWhile (fun c => !ends c) = d :: rest := by
  have inside : ∀ c ∈ name, (!ends c) = true := by
    intro c inside
    rw [goesOn c inside]
    rfl
  rw [List.takeWhile_append_of_pos inside,List.dropWhile_append_of_pos inside]
  simp [stop]

theorem skipBlanks_twice (s : Text) : skipBlanks (skipBlanks s) = skipBlanks s := by
  cases left : skipBlanks s with
  | nil => rfl
  | cons c r =>
    have dark : isAsciiBlank c = false := by
      have first := List.head?_dropWhile_not isAsciiBlank s
      rw [show s.dropWhile isAsciiBlank = c :: r from left] at first
      simpa using first
    simp [skipBlanks,dark]

theorem attributes_end {read : List Attribute} (front : skipBlanks s = '>' :: rest) :
    attributes read s = some (read.reverse,false,rest) := by
  rw [attributes]
  split
  all_goals
    rename_i form
    rw [front] at form
    cases form
  · rfl
  · rename_i other _ _
    exact absurd rfl other

theorem attributes_step {read : List Attribute} {found : Attribute × Text} (front : skipBlanks s = c :: t)
    (notEnd : c ≠ '>') (notSlash : c ≠ '/') (attributed : attributeAt c t = some found) :
    attributes read s = attributes (if read.any (·.name == found.1.name) then read else found.1 :: read) found.2 := by
  rw [attributes]
  split
  all_goals
    rename_i form
    rw [front] at form
    cases form
  · exact absurd rfl notEnd
  · exact absurd rfl notSlash
  · exact absurd rfl notSlash
  · split
    · rename_i missing
      rw [attributed] at missing
      cases missing
    · rename_i same
      rw [attributed] at same
      cases same
      rfl

def readAttribute (a : StyleTrim.Attribute) : Attribute := ⟨lower a.name,a.value⟩

-- An attribute that is read again as it is written.
def isAttribute (a : StyleTrim.Attribute) : Bool := isNamed endsAttributeName a.name && hasNoNull a.value

-- What stands behind an attribute: a blank or the end of the tag, and no equals sign after blanks.
structure Behind (s : Text) : Prop where
  stops : ∃ c r, s = c :: r ∧ endsAttributeName c = true
  unequal : (skipBlanks s).head? ≠ some '='

theorem attribute_first {a : StyleTrim.Attribute} (sound : isAttribute a) :
    ∃ c name, a.name = c :: name ∧ isAsciiBlank c = false ∧ c ≠ '/' ∧ c ≠ '>' ∧ c ≠ '=' := by
  obtain ⟨named,_⟩ := Bool.and_eq_true_iff.mp sound
  obtain ⟨filled,chars⟩ := isNamed_iff.mp named
  obtain ⟨c,name,same⟩ := List.exists_cons_of_ne_nil filled
  have first := (chars c (same ▸ List.mem_cons_self)).2
  simp only [endsAttributeName,endsName,Bool.or_eq_false_iff,decide_eq_false_iff_not] at first
  obtain ⟨⟨⟨dark,notSlash⟩,notEnd⟩,unequal⟩ := first
  exact ⟨c,name,same,dark,notSlash,notEnd,unequal⟩

theorem attributeText_front {a : StyleTrim.Attribute} (same : a.name = c :: name) (dark : isAsciiBlank c = false) :
    skipBlanks (Dom.attributeText a ++ rest) = c :: (name ++
      (if a.value.isEmpty then [] else ("=\"" : Text) ++ a.value.flatMap Dom.escapedValueChar ++ ['"']) ++ rest) := by
  rw [Dom.attributeText,same,skipBlanks,List.cons_append,List.cons_append,List.cons_append,
    List.dropWhile_cons_of_pos (by decide),List.cons_append,List.dropWhile_cons_of_neg (by simp [dark])]

theorem attributeAt_read {a : StyleTrim.Attribute} (sound : isAttribute a) (behind : Behind rest) :
    ∃ c t s, skipBlanks (Dom.attributeText a ++ rest) = c :: t ∧ c ≠ '>' ∧ c ≠ '/' ∧
      attributeAt c t = some (readAttribute a,s) ∧ skipBlanks s = skipBlanks rest := by
  obtain ⟨c,name,same,dark,notSlash,notEnd,_⟩ := attribute_first sound
  obtain ⟨named,plain⟩ := Bool.and_eq_true_iff.mp sound
  have lowered : (c :: name).map meantLower = lower a.name := same ▸ isNamed_lower named
  have run : ∀ {d : Char} {r : Text}, endsAttributeName d = true →
      (name ++ d :: r).takeWhile (fun c => !endsAttributeName c) = name ∧
      (name ++ d :: r).dropWhile (fun c => !endsAttributeName c) = d :: r :=
    takeWhile_ending _ fun d inside => ((isNamed_iff.mp named).2 d (same ▸ List.mem_cons_of_mem c inside)).2
  cases valued : a.value with
  | nil =>
    obtain ⟨⟨d,r,rfl,stops⟩,unequal⟩ := behind
    refine ⟨c,name ++ d :: r,skipBlanks (d :: r),?_,notEnd,notSlash,?_,skipBlanks_twice _⟩
    · rw [attributeText_front same dark]
      simp [valued]
    · rw [attributeAt,(run stops).1,(run stops).2,lowered,readAttribute,valued]
      split
      · rename_i front
        rw [front] at unequal
        exact absurd rfl unequal
      · rfl
  | cons v value =>
    refine ⟨c,name ++ '=' :: '"' :: (a.value.flatMap Dom.escapedValueChar ++ '"' :: rest),rest,?_,notEnd,notSlash,?_,rfl⟩
    · rw [attributeText_front same dark]
      simp [valued]
    · rw [attributeAt,(run rfl).1,(run rfl).2,lowered,readAttribute]
      have equals : ∀ r : Text, skipBlanks ('=' :: r) = '=' :: r := fun _ => rfl
      have quote : ∀ r : Text, skipBlanks ('"' :: r) = '"' :: r := fun _ => rfl
      simp only [equals,Scan.value,quote,escapedValues_read rest plain]
      rfl

theorem behind_attributes {attributes : List StyleTrim.Attribute} (sound : attributes.all isAttribute) :
    Behind (attributes.flatMap Dom.attributeText ++ '>' :: rest) := by
  cases attributes with
  | nil =>
    refine ⟨⟨'>',rest,rfl,rfl⟩,?_⟩
    exact show some '>' ≠ some '=' by decide
  | cons a more =>
    rw [List.all_cons,Bool.and_eq_true_iff] at sound
    obtain ⟨c,name,same,dark,_,_,unequal⟩ := attribute_first sound.1
    refine ⟨⟨' ',_,rfl,rfl⟩,?_⟩
    rw [List.flatMap_cons,List.append_assoc,attributeText_front same dark]
    simpa using unequal

-- No two attributes of an element have names that differ in letter case at most.
def areApart (attributes : List StyleTrim.Attribute) : Bool := (attributes.map fun a => lower a.name).Nodup

theorem attributes_read {read : List Attribute} {attributes : List StyleTrim.Attribute} (sound : attributes.all isAttribute)
    (apart : (read.map (·.name) ++ attributes.map fun a => lower a.name).Nodup)
    (front : skipBlanks s = skipBlanks (attributes.flatMap Dom.attributeText ++ '>' :: rest)) :
    Scan.attributes read s = some (read.reverse ++ attributes.map readAttribute,false,rest) := by
  induction attributes generalizing read s with
  | nil =>
    rw [attributes_end (front.trans rfl)]
    simp
  | cons a more ih =>
    rw [List.all_cons,Bool.and_eq_true_iff] at sound
    rw [List.flatMap_cons,List.append_assoc] at front
    obtain ⟨c,t,s',begins,notEnd,notSlash,attributed,goesOn⟩ := attributeAt_read sound.1 (behind_attributes sound.2)
    rw [attributes_step (front.trans begins) notEnd notSlash attributed]
    have fresh : read.any (·.name == (readAttribute a).name) = false := by
      rw [List.any_eq_false]
      intro other inside
      simp only [beq_iff_eq]
      intro same
      exact (List.nodup_append.mp apart).2.2 _ (List.mem_map_of_mem inside) _ List.mem_cons_self same
    rw [if_neg (by simp [fresh]),ih sound.2 ?_ goesOn]
    · simp
    · simpa [readAttribute] using List.perm_middle.nodup_iff.mp apart

-- A tag name that is read as one.
def isTagName (name : Text) : Bool := name.head?.any isAsciiLetter && isNamed endsName name

def readTag (tag : Text) (attributes : List StyleTrim.Attribute) : Tag :=
  ⟨lower tag,attributes.map readAttribute,false⟩

theorem tag_read (attributes : List StyleTrim.Attribute) (rest : Text) (named : isTagName name) (sound : attributes.all isAttribute)
    (apart : areApart attributes) :
    tag (name ++ attributes.flatMap Dom.attributeText ++ '>' :: rest) = some (readTag name attributes,rest) := by
  obtain ⟨_,named⟩ := Bool.and_eq_true_iff.mp named
  have goesOn : ∀ c ∈ name, endsName c = false := fun c inside => ((isNamed_iff.mp named).2 c inside).2
  obtain ⟨d,r,same,stops⟩ : ∃ d r, attributes.flatMap Dom.attributeText ++ '>' :: rest = d :: r ∧ endsName d = true := by
    cases attributes with
    | nil => exact ⟨_,_,rfl,rfl⟩
    | cons a more => exact ⟨' ',_,rfl,rfl⟩
  have run := takeWhile_ending r goesOn stops
  rw [← same] at run
  rw [tag,List.append_assoc,run.1,run.2,attributes_read sound (by simpa [areApart] using apart) rfl,isNamed_lower named]
  rfl

theorem markup_tag {read : Tag} (letter : isAsciiLetter c) (tagged : tag (c :: s) = some (read,rest)) :
    markup foreign (c :: s) = ([.startTag read],rest) := by
  have other : ∀ d, isAsciiLetter d = false → c ≠ d := by
    rintro d noLetter rfl
    rw [letter] at noLetter
    cases noLetter
  rw [markup]
  · rw [if_pos letter,tagged]
  · exact other '!' rfl
  · exact other '/' rfl
  · exact other '?' rfl

theorem closing_tag {read : Tag} (letter : isAsciiLetter c) (tagged : tag (c :: s) = some (read,rest)) :
    closing (c :: s) = ([.endTag read.name],rest) := by
  rw [closing]
  · rw [if_pos letter,tagged]
  · rintro rfl
    cases letter

theorem tagName_first (named : isTagName name) : ∃ c more, name = c :: more ∧ isAsciiLetter c = true := by
  obtain ⟨letter,named⟩ := Bool.and_eq_true_iff.mp named
  obtain ⟨c,more,rfl⟩ := List.exists_cons_of_ne_nil (isNamed_iff.mp named).1
  exact ⟨c,more,rfl,letter⟩

theorem tokens_open {attributes : List StyleTrim.Attribute} (named : isTagName name) (sound : attributes.all isAttribute)
    (apart : areApart attributes) :
    ∃ s, Dom.openTag name attributes ++ rest = '<' :: s ∧
      tokens foreign '<' s = ([.startTag (readTag name attributes)],rest) := by
  refine ⟨name ++ attributes.flatMap Dom.attributeText ++ '>' :: rest,by simp [Dom.openTag],?_⟩
  have read := tag_read attributes rest named sound apart
  obtain ⟨c,more,rfl,letter⟩ := tagName_first named
  exact markup_tag letter read

theorem tokens_close (named : isTagName name) :
    ∃ s, Dom.closeTag name ++ rest = '<' :: s ∧ tokens foreign '<' s = ([.endTag (lower name)],rest) := by
  refine ⟨'/' :: (name ++ '>' :: rest),by simp [Dom.closeTag],?_⟩
  have read := tag_read [] rest named rfl rfl
  rw [List.flatMap_nil,List.append_nil] at read
  obtain ⟨c,more,rfl,letter⟩ := tagName_first named
  exact closing_tag letter read

-- A character ends a comment, or adds to it in the same way whatever comes behind.
theorem comment_step (state : CommentState) (c : Char) : (∀ s, comment state (c :: s) = ([],s)) ∨
    ∃ added next, ∀ s, comment state (c :: s) = pushAll added (comment next s) := by
  cases state with
  | start =>
    by_cases dash : c = '-'
    · exact .inr ⟨[],.startDash,fun s => if_pos dash⟩
    · by_cases ends : c = '>'
      · exact .inl fun s => (if_neg dash).trans (if_pos ends)
      · exact .inr ⟨[meant c],.inside,fun s => (if_neg dash).trans (if_neg ends)⟩
  | startDash =>
    by_cases dash : c = '-'
    · exact .inr ⟨[],.dashes,fun s => if_pos dash⟩
    · by_cases ends : c = '>'
      · exact .inl fun s => (if_neg dash).trans (if_pos ends)
      · exact .inr ⟨['-',meant c],.inside,fun s => (if_neg dash).trans (if_neg ends)⟩
  | inside =>
    by_cases dash : c = '-'
    · exact .inr ⟨[],.dash,fun s => if_pos dash⟩
    · exact .inr ⟨[meant c],.inside,fun s => if_neg dash⟩
  | dash =>
    by_cases dash : c = '-'
    · exact .inr ⟨[],.dashes,fun s => if_pos dash⟩
    · exact .inr ⟨['-',meant c],.inside,fun s => if_neg dash⟩
  | dashes =>
    by_cases ends : c = '>'
    · exact .inl fun s => if_pos ends
    · by_cases bang : c = '!'
      · exact .inr ⟨[],.bang,fun s => (if_neg ends).trans (if_pos bang)⟩
      · by_cases dash : c = '-'
        · exact .inr ⟨['-'],.dashes,fun s => (if_neg ends).trans ((if_neg bang).trans (if_pos dash))⟩
        · exact .inr ⟨['-','-',meant c],.inside,fun s => (if_neg ends).trans ((if_neg bang).trans (if_neg dash))⟩
  | bang =>
    by_cases dash : c = '-'
    · exact .inr ⟨"--!",.dash,fun s => if_pos dash⟩
    · by_cases ends : c = '>'
      · exact .inl fun s => (if_neg dash).trans (if_pos ends)
      · exact .inr ⟨"--!" ++ [meant c],.inside,fun s => (if_neg dash).trans (if_neg ends)⟩

-- What ends in front of one character ends there in front of any text.
theorem comment_ahead (state : CommentState) (ends : comment state (s ++ [d]) = (value,[d])) :
    comment state (s ++ rest) = (value,rest) := by
  induction s generalizing state value with
  | nil =>
    exfalso
    rcases comment_step state d with last | ⟨added,next,step⟩
    · simp [last] at ends
    · cases next <;> simp [step,pushAll,comment] at ends
  | cons c s ih =>
    rw [List.cons_append] at ends ⊢
    rcases comment_step state c with last | ⟨added,next,step⟩
    · rw [last] at ends ⊢
      obtain ⟨rfl,left⟩ := Prod.mk.inj ends
      rw [List.append_left_eq_self.mp left]
      rfl
    · rw [step] at ends ⊢
      obtain ⟨rfl,left⟩ := Prod.mk.inj ends
      rw [ih next (Prod.ext rfl left)]
      rfl

-- A comment that is read again as it is written.
def isComment (value : Text) : Bool := comment .start (value ++ "-->" ++ ['.']) = (value,['.'])

theorem tokens_comment (foreign : Bool) (rest : Text) (sound : isComment value) :
    tokens foreign '<' ('!' :: '-' :: '-' :: (value ++ "-->" ++ rest)) = ([.comment value],rest) := by
  have read : comment .start (value ++ "-->" ++ rest) = (value,rest) := comment_ahead .start (of_decide_eq_true sound)
  rw [tokens,if_pos rfl,markup,declaration,if_pos (by rfl)]
  simp only [List.drop_succ_cons,List.drop_zero,read]

-- The name of a document type that is read again as it is written.
def isDoctype (name : Text) : Bool := isNamed (fun c => isAsciiBlank c || c = '>') name && lower name == name

theorem tokens_doctype (foreign : Bool) (rest : Text) (sound : isDoctype name) :
    tokens foreign '<' ('!' :: ("DOCTYPE " ++ name ++ '>' :: rest)) = ([.doctype ⟨some name,none,none,false⟩],rest) := by
  obtain ⟨named,lowered⟩ := Bool.and_eq_true_iff.mp sound
  have named' := isNamed_iff.mp named
  obtain ⟨c,more,rfl⟩ := List.exists_cons_of_ne_nil named'.1
  have first := (named'.2 c List.mem_cons_self).2
  simp only [Bool.or_eq_false_iff,decide_eq_false_iff_not] at first
  have run := takeWhile_ending (d := '>') rest
    (fun d inside => (named'.2 d (List.mem_cons_of_mem c inside)).2) (by rfl)
  have read : doctype (' ' :: c :: (more ++ '>' :: rest)) = (⟨some (c :: more),none,none,false⟩,rest) := by
    have front : skipBlanks (' ' :: c :: (more ++ '>' :: rest)) = c :: (more ++ '>' :: rest) := by
      rw [skipBlanks,List.dropWhile_cons_of_pos (by decide),List.dropWhile_cons_of_neg (by simp [first.1])]
    have back : skipBlanks ('>' :: rest) = '>' :: rest := rfl
    have meaning : (c :: more).map meantLower = c :: more := (isNamed_lower named).trans (eq_of_beq lowered)
    rw [doctype]
    simp only [front]
    split
    · simp_all
    · simp_all
    · rename_i c' r _ same
      cases same
      simp only [run.1,run.2,back,meaning]
  have past : ("DOCTYPE " ++ (c :: more) ++ '>' :: rest).drop 7 = ' ' :: c :: (more ++ '>' :: rest) := rfl
  rw [tokens,if_pos rfl,markup,declaration,if_neg (by intro front; cases front),if_pos (by rfl)]
  simp only [past,read]

theorem tokens_plain (noTag : c ≠ '<') (noReference : c ≠ '&') (plain : c ≠ '\x00') :
    tokens foreign c s = ([.character c],s) := by
  rw [tokens,if_neg noTag,if_neg noReference,Scan.plain,if_neg plain]

-- Written with a reference where it has to be, a character is read alone.
theorem tokens_escaped (plain : c ≠ '\x00') :
    ∃ d s, Dom.escapedTextChar c ++ rest = d :: s ∧ tokens foreign d s = ([.character c],rest) := by
  rcases escapedText_cases c with ⟨name,written,refers⟩ | ⟨written,noReference,noTag⟩
  · refine ⟨'&',name ++ rest,by rw [written,List.cons_append],?_⟩
    rw [tokens,if_neg (by decide),if_pos rfl,refers.read,faultAt,refers.shut]
    rfl
  · exact ⟨c,rest,by rw [written,List.singleton_append],tokens_plain noTag noReference plain⟩

theorem startsWord_append (word : Text) (long : word.length ≤ s.length) : startsWord word (s ++ t) = startsWord word s := by
  rw [startsWord,startsWord,List.take_append_of_le_length long]

theorem closes_append (name : Text) (long : name.length + 2 ≤ s.length) : closes name (s ++ t) = closes name s := by
  cases s with
  | nil => simp at long
  | cons c r =>
    simp only [List.length_cons] at long
    by_cases slash : c = '/'
    · subst slash
      have last : (r.drop name.length).head? = ((r ++ t).drop name.length).head? := by
        rw [List.drop_append_of_le_length (by omega),List.head?_append]
        cases left : r.drop name.length with
        | nil =>
          have short := List.drop_eq_nil_iff.mp left
          omega
        | cons d more => rfl
      rw [List.cons_append,closes,closes,startsWord_append name (by omega),last]
    · rw [List.cons_append,closes,closes]
      · intro _ same
        exact slash (List.cons.inj same).1
      · intro _ same
        exact slash (List.cons.inj same).1

theorem closes_closeTag (name rest : Text) : closes name ('/' :: (name ++ '>' :: rest)) = true := by
  simp [closes,startsWord,sameIgnoringCase,endsName]

-- The end tag of an element without its first character.
theorem closeTag_eq (name rest : Text) : Dom.closeTag name ++ rest = '<' :: '/' :: (name ++ '>' :: rest) := by
  simp [Dom.closeTag]

theorem rawText_closed (name rest : Text) :
    rawText name (Dom.closeTag name ++ rest) = ([],Dom.closeTag name ++ rest) := by
  rw [closeTag_eq,rawText,closes_closeTag]
  rfl

-- Text that ends in front of the end tag ends there whatever comes behind the tag.
theorem rawText_ahead (ends : rawText name (s ++ Dom.closeTag name) = (value,Dom.closeTag name)) :
    rawText name (s ++ (Dom.closeTag name ++ rest)) = (value,Dom.closeTag name ++ rest) := by
  induction s generalizing value with
  | nil =>
    have empty := rawText_closed name []
    rw [List.append_nil] at empty
    rw [List.nil_append,empty] at ends
    rw [List.nil_append,rawText_closed,(Prod.mk.inj ends).1]
  | cons c s ih =>
    have long : name.length + 2 ≤ (s ++ Dom.closeTag name).length := by
      simp [Dom.closeTag]
      omega
    rw [List.cons_append,rawText] at ends
    rw [List.cons_append,rawText,← List.append_assoc,closes_append name long,List.append_assoc]
    split at ends
    · have longer := congrArg List.length (Prod.mk.inj ends).2
      simp at longer
      omega
    · rename_i goesOn
      obtain ⟨rfl,left⟩ := Prod.mk.inj ends
      rw [if_neg goesOn,ih (Prod.ext rfl left)]
      rfl

theorem referredText_read (name rest : Text) (plain : hasNoNull value) :
    referredText name (value.flatMap Dom.escapedTextChar ++ (Dom.closeTag name ++ rest)) = (value,Dom.closeTag name ++ rest) := by
  induction value with
  | nil =>
    rw [List.flatMap_nil,List.nil_append,closeTag_eq,referredText,closes_closeTag]
    rfl
  | cons c value ih =>
    obtain ⟨first,plain⟩ := hasNoNull_cons.mp plain
    rw [List.flatMap_cons,List.append_assoc]
    have one : referredText name (Dom.escapedTextChar c ++ (value.flatMap Dom.escapedTextChar ++ (Dom.closeTag name ++ rest))) =
        pushAll [c] (referredText name (value.flatMap Dom.escapedTextChar ++ (Dom.closeTag name ++ rest))) := by
      rcases escapedText_cases c with ⟨called,written,refers⟩ | ⟨written,noReference,noTag⟩
      · rw [written,List.cons_append,referredText,if_neg (by simp),if_pos rfl,refers.read]
      · rw [written,List.singleton_append,referredText,if_neg (by simp [noTag]),if_neg noReference,meant_eq first]
    rw [one,ih plain]
    rfl

theorem opensScript_append (long : 7 ≤ s.length) : opensScript (s ++ t) = opensScript s := by
  have last : ((s ++ t).drop 6).head? = (s.drop 6).head? := by
    rw [List.drop_append_of_le_length (by omega),List.head?_append]
    cases left : s.drop 6 with
    | nil =>
      have short := List.drop_eq_nil_iff.mp left
      omega
    | cons d more => rfl
  rw [opensScript,opensScript,startsWord_append "script" (show 6 ≤ s.length by omega),last]

-- How a script goes on with a character at which no comment begins; none at its end.
def scriptStep (depth : ScriptDepth) (dashes : Nat) (c : Char) (s : Text) : Option (ScriptDepth × Nat × Char) :=
  if c = '<' then
    if depth ≠ .nested && closes "script" s then none
    else if depth = .commented && opensScript s then some (.nested,0,c)
    else if depth = .nested && closes "script" s then some (.commented,0,c)
    else some (depth,0,c)
  else if c = '-' then some (depth,dashes + 1,c)
  else if c = '>' && 2 ≤ dashes then some (.outside,0,c)
  else some (depth,0,meant c)

theorem scriptText_cons (depth : ScriptDepth) (dashes : Nat) (c : Char) (s : Text) : scriptText depth dashes (c :: s) =
    if depth = .outside ∧ c = '<' ∧ ("!--" : Text).isPrefixOf s then
      pushAll "<!--" (scriptText .commented 2 (s.drop 3))
    else match scriptStep depth dashes c s with
      | none => ([],c :: s)
      | some (depth,dashes,added) => pushAll [added] (scriptText depth dashes s) := by
  split
  · rename_i opens
    obtain ⟨rfl,rfl,front⟩ := opens
    obtain ⟨r,rfl⟩ := List.isPrefixOf_iff_prefix.mp front
    rfl
  · rename_i other
    rw [scriptText]
    · unfold scriptStep
      split_ifs <;> rfl
    · rintro r rfl rfl rfl
      exact other ⟨rfl,rfl,rfl⟩

theorem scriptStep_append (depth : ScriptDepth) (dashes : Nat) (c : Char) (long : 8 ≤ s.length) :
    scriptStep depth dashes c (s ++ t) = scriptStep depth dashes c s := by
  rw [scriptStep,scriptStep,closes_append "script" long,opensScript_append (by omega)]

theorem isPrefixOf_append (long : p.length ≤ s.length) : p.isPrefixOf (s ++ t) = p.isPrefixOf s := by
  rw [Bool.eq_iff_iff,List.isPrefixOf_iff_prefix,List.isPrefixOf_iff_prefix]
  constructor
  · intro front
    exact List.prefix_of_prefix_length_le front (List.prefix_append s t) long
  · intro front
    exact front.trans (List.prefix_append s t)

theorem scriptText_closed (depth : ScriptDepth) (dashes : Nat) (rest : Text) (shallow : depth ≠ .nested) :
    scriptText depth dashes (Dom.closeTag "script" ++ rest) = ([],Dom.closeTag "script" ++ rest) := by
  rw [closeTag_eq,scriptText_cons,if_neg (by rintro ⟨_,_,front⟩; cases front),scriptStep,if_pos rfl,closes_closeTag]
  simp [shallow]

-- The opening of a comment in front of a tag lies before the tag.
theorem comment_before (front : ("!--" : Text).isPrefixOf (s ++ '<' :: t)) : ∃ r, s = '!' :: '-' :: '-' :: r := by
  obtain ⟨r,same⟩ := List.isPrefixOf_iff_prefix.mp front
  change '!' :: '-' :: '-' :: r = s ++ '<' :: t at same
  match s with
  | [] => cases same
  | [a] => cases same
  | [a,b] => cases same
  | a :: b :: c :: more =>
    cases same
    exact ⟨more,rfl⟩

theorem scriptText_ahead (depth : ScriptDepth) (dashes : Nat)
    (ends : scriptText depth dashes (s ++ Dom.closeTag "script") = (value,Dom.closeTag "script")) :
    scriptText depth dashes (s ++ (Dom.closeTag "script" ++ rest)) = (value,Dom.closeTag "script" ++ rest) := by
  have tag : Dom.closeTag "script" = '<' :: "/script>" := rfl
  generalize size : s.length = n
  induction n using Nat.strongRecOn generalizing s depth dashes value with
  | ind n ih =>
    cases s with
    | nil =>
      rw [List.nil_append] at ends ⊢
      by_cases shallow : depth = .nested
      · subst shallow
        have deeper : scriptText .nested dashes (Dom.closeTag "script") = pushAll ['<'] (scriptText .commented 0 "/script>") := by
          rw [tag,scriptText_cons,if_neg (by rintro ⟨absurdly,_⟩; cases absurdly)]
          rfl
        rw [deeper] at ends
        have shorter := (scriptText_suffix .commented 0 "/script>").length_le
        rw [show (scriptText .commented 0 "/script>").2 = Dom.closeTag "script" from (Prod.mk.inj ends).2] at shorter
        exact absurd shorter (by decide)
      · have empty := scriptText_closed depth dashes [] shallow
        rw [List.append_nil] at empty
        rw [empty] at ends
        rw [scriptText_closed depth dashes rest shallow,(Prod.mk.inj ends).1]
    | cons c s =>
      have long : 8 ≤ (s ++ Dom.closeTag "script").length := by
        simp [Dom.closeTag]
      rw [List.cons_append,scriptText_cons] at ends
      rw [List.cons_append,scriptText_cons,← List.append_assoc,scriptStep_append depth dashes c long,
        isPrefixOf_append (p := "!--") (Nat.le_trans (by decide) long)]
      split at ends
      · rename_i opens
        rw [if_pos opens]
        obtain ⟨r,rfl⟩ := comment_before opens.2.2
        obtain ⟨rfl,left⟩ := Prod.mk.inj ends
        have inner := ih r.length (by simp at size; omega) .commented 2 (Prod.ext rfl left) rfl
        rw [← List.append_assoc] at inner
        exact congrArg (pushAll "<!--") inner
      · rename_i other
        rw [if_neg other]
        split at ends
        · have longer := congrArg List.length (Prod.mk.inj ends).2
          simp at longer
          omega
        · rename_i depth' dashes' added step
          obtain ⟨rfl,left⟩ := Prod.mk.inj ends
          have inner := ih s.length (by simp at size; omega) depth' dashes' (Prod.ext rfl left) rfl
          rw [List.append_assoc,step]
          exact congrArg (pushAll [added]) inner

end StyleTrim.Html.Scan
