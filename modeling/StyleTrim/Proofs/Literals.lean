import Mathlib.Data.List.DropRight
import StyleTrim.Css.Selector
import StyleTrim.Proofs.Boundaries
import StyleTrim.Proofs.Ink
namespace StyleTrim.Css
open Text Selector
variable {s t r rest v : Text} {c : Char} {n : Nat}

-- The class or id a selector begins with is read apart from its tokens. Told here is on which names both readings agree.

namespace Scan

theorem oneBlank_initial (shorter : t <+: s) : oneBlank t <+: oneBlank s := by
  obtain ⟨more,rfl⟩ := shorter
  rcases t with _ | ⟨c,t⟩
  · exact List.nil_prefix
  · by_cases carriage : c = '\r'
    · subst carriage
      rcases t with _ | ⟨d,t⟩
      · exact List.nil_prefix
      · by_cases feed : d = '\n'
        · subst feed
          exact List.prefix_append _ _
        · rw [List.cons_append,List.cons_append,oneBlank_carriage feed,oneBlank_carriage feed]
          exact List.prefix_append (d :: t) more
    · rw [List.cons_append,oneBlank_other carriage,oneBlank_other carriage]
      split
      · exact List.prefix_append _ _
      · exact List.prefix_append (c :: t) more

theorem hexDigits_initial (shorter : t <+: s) (n : Nat) : (hexDigits n t).2 <+: (hexDigits n s).2 := by
  induction n generalizing s t with
  | zero => exact shorter
  | succ n ih =>
    cases t with
    | nil => exact List.nil_prefix
    | cons c t =>
      obtain ⟨more,rfl⟩ := shorter
      rw [List.cons_append,hexDigits,hexDigits]
      cases hexValue? c with
      | none => exact List.prefix_append (c :: t) more
      | some digit => exact ih (List.prefix_append t more)

theorem escape_initial (shorter : t <+: s) : (escape t).2 <+: (escape s).2 := by
  cases t with
  | nil => exact List.nil_prefix
  | cons c t =>
    obtain ⟨more,rfl⟩ := shorter
    rw [List.cons_append,escape,escape]
    cases hexValue? c with
    | none => exact List.prefix_append t more
    | some digit => exact oneBlank_initial (hexDigits_initial (List.prefix_append t more) 5)

theorem startsNewline_append (some : t ≠ []) (more : Text) : startsNewline (t ++ more) = startsNewline t := by
  cases t with
  | nil => exact absurd rfl some
  | cons => rfl

-- A text that ends earlier has no longer a name, and goes on behind it as the longer text does.
theorem name_initial (shorter : t <+: s) (ends : ∀ c ∈ (name s).2.head?, c ≠ '\\') :
    (name t).1.length ≤ (name s).1.length ∧ (name t).2 <+: (name s).2 := by
  fun_induction name t generalizing s with
  | case1 => exact ⟨Nat.zero_le _,List.nil_prefix⟩
  | case2 t newline =>
    obtain ⟨more,rfl⟩ := shorter
    have some : t ≠ [] := by
      intro none
      simp [none,startsNewline] at newline
    have same := (startsNewline_append some more).trans newline
    refine ⟨Nat.zero_le _,?_⟩
    rw [List.cons_append,name,if_pos rfl,if_pos same]
    exact List.prefix_append ('\\' :: t) more
  | case3 t fine ih =>
    obtain ⟨more,rfl⟩ := shorter
    rw [List.cons_append,name,if_pos rfl] at ends ⊢
    split at ends
    · exact absurd rfl (ends '\\' rfl)
    · rename_i still
      obtain ⟨length,rest⟩ := ih (escape_initial (List.prefix_append t more)) ends
      rw [if_neg still]
      exact ⟨Nat.succ_le_succ length,rest⟩
  | case4 c t other continues ih =>
    obtain ⟨more,rfl⟩ := shorter
    rw [List.cons_append,name,if_neg other,if_pos continues] at ends ⊢
    obtain ⟨length,rest⟩ := ih (List.prefix_append t more) ends
    exact ⟨Nat.succ_le_succ length,rest⟩
  | case5 c t other stops =>
    obtain ⟨more,rfl⟩ := shorter
    rw [List.cons_append,name,if_neg other,if_neg stops]
    exact ⟨Nat.zero_le _,List.prefix_append (c :: t) more⟩

theorem charOf?_number {n : Nat} (found : charOf? n = some c) : c.toNat = n := by
  unfold charOf? at found
  split at found
  · rename_i valid
    cases found
    rw [Char.ofNat,dif_pos valid]
    rfl
  · cases found

theorem codePoint_nonzero (n : Nat) : codePoint n ≠ '\x00' := by
  unfold codePoint
  split
  · decide
  · rename_i some
    cases found : charOf? n with
    | none => decide
    | some c =>
      intro zero
      apply some
      simpa [← charOf?_number found] using congrArg Char.toNat zero

theorem meant_nonzero (c : Char) : meant c ≠ '\x00' := by
  unfold meant
  split
  · decide
  · assumption

theorem escape_nonzero (s : Text) : (escape s).1 ≠ '\x00' := by
  fun_cases escape s with
  | case1 => decide
  | case2 => exact codePoint_nonzero _
  | case3 => exact meant_nonzero _

-- No name has the character zero in it, however it was written.
theorem name_nonzero (s : Text) : '\x00' ∉ (name s).1 := by
  fun_induction name s with
  | case1 | case2 | case5 => simp
  | case3 s _ ih => simpa [Step.push,ih] using (escape_nonzero s).symm
  | case4 c s _ _ ih => simpa [Step.push,ih] using (meant_nonzero c).symm

theorem name_stays (none : (name s).1 = []) : (name s).2 = s := by
  fun_cases name s with
  | case1 | case2 | case5 => rfl
  | case3 | case4 => simp_all [name,Step.push]

theorem name_begun (begins : startsName s = true) : (name s).1 ≠ [] := by
  intro none
  cases s with
  | nil => cases begins
  | cons c t =>
    have advanced := (name_advances begins).length_le
    rw [name_stays none] at advanced
    exact absurd advanced (Nat.not_succ_le_self _)

end Scan

namespace Selector

-- Behind the digits of an escape. One blank ends them and is skipped, but which characters are blank, and whether a
-- line end of two characters is one blank, is not the same for both readings.
def endsAlike : Text → Bool
  | '\r' :: '\n' :: s => (literalName s).isEmpty
  | c :: s => isAsciiBlank c || !isBlank c || (c = '\x0b' && (literalName s).isEmpty)
  | [] => true

-- Behind a backslash stands a character that stands for itself or the number of one.
def escapeAlike : Text → Bool
  | [] => false
  | c :: s =>
    match hexValue? c with
    | some digit =>
      let number := valueOf 16 (digit :: (Scan.hexDigits 5 s).1)
      number != 0 && (charOf? number).isSome && endsAlike (Scan.hexDigits 5 s).2
    | none => c != '\x00' && !isNewline c

-- A name without anything that is read in two ways.
def legible (s : Text) : Bool :=
  match s with
  | [] => true
  | c :: s =>
    if c = '\\' then escapeAlike s && legible (Scan.escape s).2
    else if Scan.isNameChar c then c != '\x00' && legible s
    else true
termination_by s.length
decreasing_by
  · have := (Scan.escape_suffix s).length_le; simp; omega
  · simp

theorem hexRun_digits (n : Nat) (s : Text) : hexRun n s = Scan.hexDigits n s := by
  fun_induction hexRun n s with
  | case1 | case2 => rfl
  | case3 n c s digit found ih => simp only [Scan.hexDigits,found,ih]
  | case4 n c s none => simp only [Scan.hexDigits,none]

theorem unescape_number {digit : Nat} (found : hexValue? c = some digit) (s : Text) : unescape (c :: s) =
    (charOf? (valueOf 16 (digit :: (Scan.hexDigits 5 s).1)),skipBlank (Scan.hexDigits 5 s).2) := by
  simp only [unescape,hexRun,found,hexRun_digits]

theorem unescape_char (other : hexValue? c = none) (s : Text) : unescape (c :: s) = (some c,s) := by
  simp only [unescape,hexRun,other]

theorem continuesName_iff (c : Char) : continuesName c = (Scan.isNameChar c && c != '\x00') := by
  by_cases zero : c = '\x00'
  · subst zero; rfl
  · simp only [continuesName,Scan.isNameChar,Scan.isNameStart,zero]
    grind

theorem literalName_escape (s : Text) : literalName ('\\' :: s) = (unescape s).1.toList ++ literalName (unescape s).2 := by
  rw [literalName]
  rfl

theorem literalName_char (other : c ≠ '\\') (s : Text) :
    literalName (c :: s) = if continuesName c then c :: literalName s else [] := by
  rw [literalName,if_neg other]

theorem blank_wide (blank : isBlank c = true) (dark : isAsciiBlank c = false) (other : c ≠ '\x0b') : isAscii c = false := by
  simp only [isBlank,isAsciiBlank,isAscii,Bool.or_eq_true,Bool.or_eq_false_iff,Bool.and_eq_true,decide_eq_true_eq,
    decide_eq_false_iff_not,UInt32.le_iff_toNat_le,UInt32.lt_iff_toNat_lt,← UInt32.toNat_inj,ne_eq,Char.ext_iff,
    Char.reduceVal,UInt32.reduceToNat] at blank dark other ⊢
  omega

-- A blank outside of ASCII goes on a name where it is not skipped.
theorem literalName_wide (wide : isAscii c = false) (s : Text) : literalName (c :: s) = c :: literalName s := by
  have other : c ≠ '\\' := by
    intro same
    subst same
    cases wide
  simp [literalName_char other,continuesName,wide]

theorem literalName_stops (stops : continuesName c = false) (other : c ≠ '\\') (s : Text) : literalName (c :: s) = [] := by
  simp [literalName_char other,stops]

theorem oneBlank_single (single : ∀ t, c = '\r' → s = '\n' :: t → False) :
    Scan.oneBlank (c :: s) = if isAsciiBlank c then s else c :: s := by
  simp only [Scan.oneBlank]

-- Where the digits of an escape do not end alike, a blank is skipped that the name goes on with, or a line feed is left
-- that ends it.
theorem endsAlike_cases (r : Text) :
    (endsAlike r = true ∧ literalName (skipBlank r) = literalName (Scan.oneBlank r)) ∨
      (endsAlike r = false ∧ (r.head? = some '\x0b' ∨
        (literalName (skipBlank r)).length < (literalName (Scan.oneBlank r)).length)) := by
  fun_cases endsAlike r with
  | case1 t =>
    have stops : literalName (skipBlank ('\r' :: '\n' :: t)) = [] := literalName_stops rfl (by decide) t
    rw [stops,Scan.oneBlank]
    cases literalName t <;> simp
  | case2 c t single =>
    rw [oneBlank_single single,skipBlank]
    cases ascii : isAsciiBlank c with
    | true => simp [blank_of_ascii ascii]
    | false =>
      cases blank : isBlank c with
      | false => simp
      | true =>
        by_cases tab : c = '\x0b'
        · subst tab
          have stops : literalName ('\x0b' :: t) = [] := literalName_stops rfl (by decide) t
          cases none : literalName t <;> simp [stops,none]
        · simp [tab,literalName_wide (blank_wide blank ascii tab)]
  | case3 => exact .inl ⟨rfl,rfl⟩

theorem escapeAlike_fine (alike : escapeAlike s = true) : Scan.startsNewline s = false := by
  cases s with
  | nil => rfl
  | cons c t =>
    cases newline : isNewline c with
    | false => exact newline
    | true =>
      simp only [isNewline,Bool.or_eq_true,decide_eq_true_eq] at newline
      rcases newline with (rfl | rfl) | rfl <;> cases alike

-- An escape that is read alike gives the same character, and the same name behind it.
theorem escape_reads (alike : escapeAlike s = true) :
    (unescape s).1 = some (Scan.escape s).1 ∧ literalName (unescape s).2 = literalName (Scan.escape s).2 := by
  cases s with
  | nil => cases alike
  | cons c t =>
    cases found : hexValue? c with
    | none =>
      simp only [escapeAlike,found,Bool.and_eq_true,bne_iff_ne] at alike
      simp [unescape_char found,Scan.escape,found,Scan.meant,alike.1]
    | some digit =>
      simp only [escapeAlike,found,Bool.and_eq_true,bne_iff_ne] at alike
      obtain ⟨⟨nonzero,some'⟩,ends⟩ := alike
      obtain ⟨d,number⟩ := Option.isSome_iff_exists.mp some'
      have same : literalName (skipBlank (Scan.hexDigits 5 t).2) = literalName (Scan.oneBlank (Scan.hexDigits 5 t).2) := by
        rcases endsAlike_cases (Scan.hexDigits 5 t).2 with ⟨_,same⟩ | ⟨differs,_⟩
        · exact same
        · cases differs.symm.trans ends
      simp [unescape_number found,Scan.escape,found,Scan.codePoint,nonzero,number,same]

theorem legible_reads (plain : legible s = true) : literalName s = (Scan.name s).1 := by
  fun_induction Scan.name s with
  | case1 => rw [literalName]
  | case2 t newline =>
    rw [legible,if_pos rfl,Bool.and_eq_true] at plain
    cases (escapeAlike_fine plain.1).symm.trans newline
  | case3 t fine ih =>
    rw [legible,if_pos rfl,Bool.and_eq_true] at plain
    obtain ⟨first,behind⟩ := escape_reads plain.1
    rw [literalName_escape,first,behind,ih plain.2]
    rfl
  | case4 c t other continues ih =>
    rw [legible,if_neg other,if_pos continues,Bool.and_eq_true] at plain
    have nonzero : c ≠ '\x00' := by simpa using plain.1
    rw [literalName_char other,continuesName_iff,continues,plain.1,ih plain.2]
    simp [Scan.Step.push,Scan.meant,nonzero]
  | case5 c t other stops =>
    rw [literalName_char other,continuesName_iff]
    simp [stops]

-- A number that is no character is left out of a literal, and what its digits end in may be.
theorem number_shorter (n : Nat) (ends : ∀ c ∈ (Scan.name (Scan.oneBlank r)).2.head?, c ≠ '\x0b') :
    (charOf? n).toList.length + (literalName (skipBlank r)).length ≤ (literalName (Scan.oneBlank r)).length + 1 ∧
      ((charOf? n).toList.length + (literalName (skipBlank r)).length = (literalName (Scan.oneBlank r)).length + 1 →
        '\x00' ∉ (charOf? n).toList → (n != 0 && (charOf? n).isSome && endsAlike r) = true) := by
  have once : (charOf? n).toList.length ≤ 1 := by
    cases charOf? n <;> simp
  rcases endsAlike_cases r with ⟨alike,same⟩ | ⟨differs,tab | less⟩
  · rw [same,alike]
    refine ⟨by omega,fun equal nonzero => ?_⟩
    cases number : charOf? n with
    | none => simp [number] at equal
    | some d =>
      have some' : n ≠ 0 := by
        intro zero
        subst zero
        exact nonzero (Option.mem_toList.mpr rfl)
      simp [some']
  · cases r with
    | nil => cases tab
    | cons c t =>
      cases tab
      have stays : (Scan.name (Scan.oneBlank ('\x0b' :: t))).2 = '\x0b' :: t := by
        change (Scan.name ('\x0b' :: t)).2 = '\x0b' :: t
        rw [Scan.name]
        rfl
      exact absurd rfl (ends '\x0b' (by simp [stays]))
  · exact ⟨by omega,fun equal => by omega⟩

-- No escape makes a literal longer than a name, and one that is as long is read alike.
theorem escape_shorter (fine : Scan.startsNewline s = false)
    (ends : ∀ c ∈ (Scan.name (Scan.escape s).2).2.head?, c ≠ '\x0b') :
    (literalName ('\\' :: s)).length ≤ (literalName (Scan.escape s).2).length + 1 ∧
      ((literalName ('\\' :: s)).length = (literalName (Scan.escape s).2).length + 1 → '\x00' ∉ literalName ('\\' :: s) →
        escapeAlike s = true) := by
  rw [literalName_escape,List.length_append]
  cases s with
  | nil => simp [unescape,hexRun,Scan.escape]
  | cons c t =>
    cases found : hexValue? c with
    | none =>
      have plain : isNewline c = false := fine
      simp only [unescape_char found,Scan.escape,escapeAlike,found]
      refine ⟨by simp [Nat.add_comm],fun _ nonzero => ?_⟩
      have other : c ≠ '\x00' := by
        rintro rfl
        simp at nonzero
      simp [other,plain]
    | some digit =>
      simp only [unescape_number found,Scan.escape,escapeAlike,found] at ends ⊢
      obtain ⟨less,same⟩ := number_shorter (valueOf 16 (digit :: (Scan.hexDigits 5 t).1)) ends
      exact ⟨less,fun equal nonzero => same equal fun inside => nonzero (List.mem_append_left _ inside)⟩

theorem literalName_shorter (ends : ∀ c ∈ (Scan.name s).2.head?, c ≠ '\\' ∧ c ≠ '\x0b') :
    (literalName s).length ≤ (Scan.name s).1.length ∧
      ((literalName s).length = (Scan.name s).1.length → '\x00' ∉ literalName s → legible s = true) := by
  fun_induction Scan.name s with
  | case1 => simp [literalName,legible]
  | case2 t newline => exact absurd rfl (ends '\\' rfl).1
  | case3 t fine ih =>
    obtain ⟨less,same⟩ := escape_shorter (by simpa using fine) fun c head => (ends c head).2
    obtain ⟨less',same'⟩ := ih ends
    rw [Scan.Step.push,List.length_cons]
    refine ⟨by omega,fun equal nonzero => ?_⟩
    have alike := same (by omega) nonzero
    rw [literalName_escape,(escape_reads alike).2,List.mem_append,not_or] at nonzero
    rw [legible,if_pos rfl,alike,same' (by omega) nonzero.2]
    rfl
  | case4 c t other continues ih =>
    obtain ⟨less,same⟩ := ih ends
    rw [literalName_char other,continuesName_iff,continues,legible,if_neg other,if_pos continues,Scan.Step.push]
    by_cases zero : c = '\x00'
    · simp [zero]
    · simpa [zero,less] using fun equal _ => same equal
  | case5 c t other stops =>
    rw [literalName_char other,continuesName_iff,legible,if_neg other]
    simp [stops]

def LiteralKind.mark : LiteralKind → Char
  | .byClass => '.'
  | .byId => '#'

theorem trimEnd_cons (dark : isBlank c = false) (s : Text) : trimEnd isBlank (c :: s) = c :: trimEnd isBlank s := by
  simp only [trimEnd,List.reverse_cons,List.dropWhile_append]
  split
  · rename_i none
    simp_all
  · simp

theorem literal?_mark (kind : LiteralKind) (s : Text) : literal? (kind.mark :: s) =
    if (literalName (trimEnd isBlank s)).isEmpty then none else some ⟨kind,literalName (trimEnd isBlank s)⟩ := by
  have kept : trim (kind.mark :: s) = kind.mark :: trimEnd isBlank s := by
    have dark : isBlank kind.mark = false := by cases kind <;> rfl
    rw [trim,trimBy,trimStart,List.dropWhile_cons_of_neg (by simp [dark]),trimEnd_cons dark]
  cases kind <;> simp only [literal?,kept] <;> rfl

-- A class or id that a selector begins with is found under the name of its token if that name is legible and loses
-- nothing where blanks at the end go. If nothing follows that goes on one of both names, only then.
theorem literal_decodes (kind : LiteralKind) (begins : Scan.startsName s = true) :
    (legible (trimEnd isBlank s) = true ∧ (Scan.name (trimEnd isBlank s)).1 = (Scan.name s).1 →
      literal? (kind.mark :: s) = some ⟨kind,(Scan.name s).1⟩) ∧
    ((∀ c ∈ (Scan.name s).2.head?, c ≠ '\\' ∧ c ≠ '\x0b') → literal? (kind.mark :: s) = some ⟨kind,(Scan.name s).1⟩ →
      legible (trimEnd isBlank s) = true ∧ (Scan.name (trimEnd isBlank s)).1 = (Scan.name s).1) := by
  have shorter : trimEnd isBlank s <+: s := List.rdropWhile_prefix isBlank s
  have begun := Scan.name_begun begins
  rw [literal?_mark]
  generalize trimEnd isBlank s = t at shorter
  constructor
  · intro ⟨plain,same⟩
    simp [legible_reads plain,same,begun]
  -- The name of what the trim leaves is no longer than the token's, and the literal no longer than that name: as the
  -- literal is the token's name, nothing was lost on either way.
  · intro ends found
    have same : literalName t = (Scan.name s).1 := by
      split at found
      · cases found
      · exact congrArg Literal.name (Option.some.inj found)
    obtain ⟨length,whole⟩ := Scan.name_initial shorter fun c head => (ends c head).1
    have ends' : ∀ c ∈ (Scan.name t).2.head?, c ≠ '\\' ∧ c ≠ '\x0b' := by
      obtain ⟨behind,whole⟩ := whole
      intro c head
      apply ends c
      rw [← whole,List.head?_append,Option.mem_def.mp head]
      rfl
    obtain ⟨less,alike⟩ := literalName_shorter ends'
    rw [same] at less alike
    have plain := alike (Nat.le_antisymm less length) (Scan.name_nonzero s)
    exact ⟨plain,(legible_reads plain).symm.trans same⟩

theorem literal_decodes_escaped :
    (Scan.startsName "\\31 \\:x\\1F600 y > b" = true ∧
      literal? ".\\31 \\:x\\1F600 y > b" = some ⟨.byClass,"1:x😀y"⟩) ∧
    (Scan.startsName "\\110000 x" = true ∧ (Scan.name "\\110000 x").1 = "\ufffdx" ∧
      literal? ".\\110000 x" ≠ some ⟨.byClass,"\ufffdx"⟩) := by
  have begins : Scan.startsName "\\31 \\:x\\1F600 y > b" = true := by decide
  have beyond : Scan.startsName "\\110000 x" = true := by decide
  have name : (Scan.name "\\110000 x").1 = "\ufffdx" := by decide +kernel
  refine ⟨⟨begins,?_⟩,beyond,name,?_⟩
  · have found := (literal_decodes .byClass begins).1 ⟨by decide +kernel,by decide +kernel⟩
    have name : (Scan.name "\\31 \\:x\\1F600 y > b").1 = "1:x😀y" := by decide +kernel
    exact name ▸ found
  · intro found
    have whole : (Scan.name "\\110000 x").2 = [] := by decide +kernel
    have ends : ∀ c ∈ (Scan.name "\\110000 x").2.head?, c ≠ '\\' ∧ c ≠ '\x0b' := by
      intro c head
      rw [whole] at head
      cases head
    have plain := ((literal_decodes .byClass beyond).2 ends (name ▸ found)).1
    exact absurd plain (by decide +kernel)

end Selector
end StyleTrim.Css
