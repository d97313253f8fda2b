import StyleTrim.Proofs.Branches
import StyleTrim.Proofs.Classes
import StyleTrim.Proofs.NormalForms
import StyleTrim.Proofs.Values
namespace StyleTrim.Css
open Text Component Read
variable {c : Char} {css s m x : Text} {finish : Place} {first : Component} {rest : List Component} {r : Rule}

-- Collapsing ends in one step. What a declaration prints as its value is therefore read as the value that it has.

namespace Collapsing
variable {state : Collapsing}

-- Whether blanks count here, being in no string and behind no backslash.
def IsOpen (state : Collapsing) : Prop := state.quote = none ∧ state.escaped = false

-- From here on each blank that counts is one space with something dark behind it.
def Rests (state : Collapsing) (s : Text) : Prop := ∀ u c v, s = u ++ c :: v → isBlank c = true → (state.after u).IsOpen →
  c = ' ' ∧ v ≠ [] ∧ Dark v

theorem rests_cons : state.Rests (c :: s) ↔
    (isBlank c = true → state.IsOpen → c = ' ' ∧ s ≠ [] ∧ Dark s) ∧ (state.step c).2.Rests s := by
  constructor
  · exact fun rests => ⟨rests [] c s rfl,fun u d v same => rests (c :: u) d v (congrArg (c :: ·) same)⟩
  · rintro ⟨here,later⟩ u d v same blank open_
    cases u with
    | nil =>
      cases same
      exact here blank open_
    | cons _ u =>
      cases same
      exact later u d v rfl blank open_

-- A blank in front of something dark changes nothing for what comes then.
theorem behind_rests (dark : Dark s) : behind.Rests s ↔ start.Rests s := by
  cases s with
  | nil => exact ⟨fun _ _ _ _ same => by simp at same,fun _ _ _ _ same => by simp at same⟩
  | cons c s =>
    have ink := dark c rfl
    rw [rests_cons,rests_cons,behind_step ink]
    simp [ink]

theorem step_open (open_ : state.IsOpen) (blank : isBlank c = true) : (state.step c).1 = [] := by
  simp [step,open_.1,open_.2,blank]

theorem run_fixed_iff (sane : state.Sane) (idle : state.pending = false) : state.run s = s ↔ state.Rests s := by
  induction s generalizing state with
  | nil => exact ⟨fun _ _ _ _ same => by simp at same,fun _ => rfl⟩
  | cons c s ih =>
    rw [rests_cons]
    rcases step_cases sane c with ⟨waits,blank⟩ | ⟨added,later⟩
    · obtain rfl : state = start := (settled_idle idle).symm.trans (settled_waits (congrArg Prod.fst waits))
      rw [run_blank blank,behind_run,waits]
      have inner := ih sane_start rfl
      constructor
      · intro same
        split at same
        · cases same
        · rename_i some
          obtain ⟨space,same⟩ := List.cons.inj same
          have dark : Dark s := same ▸ run_dark (trimStart_dark s)
          rw [dark_skip dark] at same some
          exact ⟨fun _ _ => ⟨space.symm,some,dark⟩,(behind_rests dark).mpr (inner.mp same)⟩
      · rintro ⟨here,later⟩
        obtain ⟨rfl,some,dark⟩ := here blank ⟨rfl,rfl⟩
        rw [dark_skip dark,if_neg some,inner.mpr ((behind_rests dark).mp later)]
    · rw [idle,if_neg Bool.false_ne_true] at added
      have counts : ¬ (isBlank c = true ∧ state.IsOpen) := by
        rintro ⟨blank,open_⟩
        rw [step_open open_ blank] at added
        cases added
      rw [run,added,List.singleton_append,List.cons_inj_right,ih (sane.step c) later]
      exact ⟨fun rests => ⟨fun blank open_ => absurd ⟨blank,open_⟩ counts,rests⟩,And.right⟩

end Collapsing

-- Each blank outside of strings and escapes is one space between others that are none.
def Settled (s : Text) : Prop := Dark s ∧ Collapsing.start.Rests s

theorem collapse_fixed_iff : collapse s = s ↔ Settled s := by
  constructor
  · intro same
    have dark : Dark s := same ▸ collapse_dark s
    rw [collapse,trimStart,dark_skip dark] at same
    exact ⟨dark,(Collapsing.run_fixed_iff Collapsing.sane_start rfl).mp same⟩
  · rintro ⟨dark,rests⟩
    rw [collapse,trimStart,dark_skip dark]
    exact (Collapsing.run_fixed_iff Collapsing.sane_start rfl).mpr rests

-- A text that ends in no blank leaves none waiting.
theorem Collapsing.after_inked {state : Collapsing} (sane : state.Sane) (last : ∀ c ∈ s.getLast?, isBlank c = false)
    (some : s ≠ []) : (state.after s).pending = false := by
  obtain ⟨t,d,rfl⟩ := (List.eq_nil_or_concat s).resolve_left some
  rw [List.concat_eq_append,after_append]
  rcases step_cases (sane.after t) d with ⟨_,blank⟩ | ⟨_,idle⟩
  · have dark := last d (by simp)
    rw [dark] at blank
    cases blank
  · exact idle

-- What holds no blank at the end of a collapsed text stood there before.
theorem Collapsing.run_suffix {state : Collapsing} (sane : state.Sane) (idle : (state.after s).pending = false)
    (inked : ∀ c ∈ m, isBlank c = false) (ends : state.run s = x ++ m) : m <:+ s := by
  -- from the last character on: none of them was written together with a blank, except perhaps the first
  induction m using List.reverseRecOn generalizing s x with
  | nil => exact List.nil_suffix
  | append_singleton m e ih =>
    rcases List.eq_nil_or_concat s with rfl | ⟨t,d,rfl⟩
    · simp [run] at ends
    rw [List.concat_eq_append] at *
    rw [after_append] at idle
    rw [run_append,run,run,List.append_nil,← List.append_assoc] at ends
    rcases step_cases (sane.after t) d with ⟨waits,_⟩ | ⟨added,_⟩
    · rw [after,after,waits] at idle
      cases idle
    · rw [added] at ends
      have front : ∀ c ∈ m, isBlank c = false := fun c inside => inked c (List.mem_append_left _ inside)
      cases waits : (state.after t).pending with
      | false =>
        rw [waits,if_neg Bool.false_ne_true] at ends
        obtain ⟨same,last⟩ := List.append_inj' ends rfl
        cases last
        obtain ⟨u,rfl⟩ := ih waits front same
        exact ⟨u,by simp⟩
      | true =>
        rw [waits,if_pos rfl] at ends
        have parted : state.run t ++ [' '] ++ [d] = x ++ m ++ [e] := (List.append_assoc ..).trans ends
        obtain ⟨same,last⟩ := List.append_inj' parted rfl
        cases last
        rcases List.eq_nil_or_concat m with rfl | ⟨n,g,rfl⟩
        · exact ⟨t,rfl⟩
        · rw [List.concat_eq_append,← List.append_assoc] at same
          have blank := (List.append_inj' same rfl).2
          cases blank
          cases front ' ' (by simp)

theorem mark_inked : ∀ c ∈ importantMark, isBlank c = false := by
  have none : importantMark.any isBlank = false := by decide
  exact fun c inside => Bool.eq_false_iff.mpr (List.any_eq_false.mp none c inside)

theorem withoutEnd?_back (front tail : Text) : withoutEnd? (front ++ tail) tail = some front := by
  rw [withoutEnd?,if_pos (List.isSuffixOf_iff_suffix.mpr (List.suffix_append front tail))]
  simp

-- Where no mark was cut off, there is none in the collapsed value either.
theorem collapse_unmarked (trimmed : trim s = s) (none : withoutEnd? s importantMark = none) :
    withoutEnd? (collapse s) importantMark = Option.none := by
  cases found : withoutEnd? (collapse s) importantMark with
  | none => rfl
  | some front =>
    exfalso
    have ends := withoutEnd?_append found
    have dark : Dark s := trimmed ▸ trimBy_first isBlank s
    rw [collapse,trimStart,dark_skip dark] at ends
    have filled : s ≠ [] := by
      rintro rfl
      exact List.append_ne_nil_of_right_ne_nil front (by decide) ends.symm
    have idle := Collapsing.after_inked Collapsing.sane_start (trimmed ▸ trimBy_last isBlank s) filled
    obtain ⟨t,whole⟩ := Collapsing.run_suffix Collapsing.sane_start idle mark_inked ends
    rw [← whole,withoutEnd?_back] at none
    cases none

theorem collapse_trimmed (trimmed : trim s = s) : trim (collapse s) = collapse s := by
  refine trimBy_whole (collapse_dark s) ?_
  rcases List.eq_nil_or_concat s with rfl | ⟨t,d,rfl⟩
  · nofun
  · rw [List.concat_eq_append] at *
    have ink : isBlank d = false := trimBy_last isBlank (t ++ [d]) d (by rw [show trimBy isBlank _ = _ from trimmed]; simp)
    obtain ⟨u,ends⟩ := collapse_ends ink t
    rw [ends]
    intro c last
    have same : c = d := by simpa using last.symm
    rwa [same]

theorem trim_marked (dark : Dark s) : trim (s ++ importantMark) = s ++ importantMark := by
  refine trimBy_whole ?_ ?_
  · cases s with
    | nil => exact fun c first => mark_inked c (List.mem_of_mem_head? first)
    | cons d s => exact dark
  · intro c last
    rw [List.getLast?_append_of_ne_nil _ (by decide)] at last
    exact mark_inked c (List.mem_of_mem_getLast? last)

-- The text of a declaration behind its name and the colon.
def Declaration.printed (d : Declaration) : Text := d.value ++ if d.important then importantMark else []

theorem Declaration.text_printed (d : Declaration) : d.text = d.name ++ ":" ++ d.printed := by
  rw [text,printed,List.append_assoc _ d.value]
  cases d.important <;> rfl

theorem splitImportant_printed (name raw : Text) :
    splitImportant (Declaration.printed ⟨name,(splitImportant raw).1,(splitImportant raw).2⟩) = splitImportant raw := by
  have trimmed : trim (trim raw) = trim raw := trim_trim raw
  unfold Declaration.printed
  cases found : withoutEnd? (trim raw) importantMark with
  | some front =>
    have read : splitImportant raw = (collapse front,true) := by rw [splitImportant,found]
    rw [read,if_pos rfl,splitImportant,trim_marked (collapse_dark front),withoutEnd?_back]
    dsimp only
    rw [collapse_collapse]
  | none =>
    have read : splitImportant raw = (collapse (trim raw),false) := by rw [splitImportant,found]
    rw [read,if_neg Bool.false_ne_true,List.append_nil,splitImportant,collapse_trimmed trimmed,collapse_unmarked trimmed found]
    dsimp only
    rw [collapse_collapse]

namespace Read

theorem attempt_declared {d : Declaration} (made : (attempt finish first rest).1 = .entry (.declaration d)) :
    ∃ name value, d = declarationOf name value := by
  obtain ⟨_,_,_,taken⟩ := attempt_taken finish first rest
  rw [made] at taken
  cases taken with
  | declaration => exact ⟨_,_,rfl⟩

theorem entries_declared {d : Declaration} (selector : Text) (finish : Place) (cs : List Component)
    (among : .declaration d ∈ (entries selector finish cs).1) : ∃ name value, d = declarationOf name value := by
  fun_induction entries selector finish cs with
  | case1 => cases among
  | case2 => rename_i later; exact later among
  | case3 first rest shown more e read later =>
    rcases List.mem_cons.mp among with rfl | behind
    · exact attempt_declared read
    · exact later behind
  | case4 => rename_i later; exact later among
  | case5 =>
    rename_i later
    rcases List.mem_cons.mp among with here | behind
    · cases here
    · exact later behind

theorem rules_declared {d : Declaration} (finish : Place) (veryFirst : Bool) (cs : List Component)
    (inside : r ∈ Sheet.rules (rules finish veryFirst cs).sheet) (among : d ∈ r.declarations) :
    ∃ name value, d = declarationOf name value := by
  fun_induction rules finish veryFirst cs with
  | case1 => cases inside
  | case2 | case3 | case5 | case7 => rename_i later; exact later inside
  | case4 =>
    rename_i later inner
    rcases List.mem_append.mp inside with here | behind
    · exact inner here
    · exact later behind
  | case6 finish veryFirst cs first rest visible other more selector block stop form read later =>
    rcases List.mem_append.mp inside with here | behind
    · cases List.mem_singleton.mp here
      obtain ⟨e,entry,same⟩ := List.mem_filterMap.mp among
      cases e with
      | declaration => exact entries_declared selector stop block (Option.some.inj same ▸ entry)
      | verbatim => cases same
    · exact later behind

end Read

theorem sheetOf_declared {d : Declaration} (inside : r ∈ (sheetOf css).rules) (among : d ∈ r.declarations) :
    ∃ name value, d = declarationOf name value := by
  unfold sheetOf read at inside
  dsimp only at inside
  split at inside
  · exact Read.rules_declared _ _ _ inside among
  · exact Read.rules_declared _ _ _ inside among

theorem collapsing_settles :
    (∀ s, collapse (collapse s) = collapse s) ∧ (∀ s, collapse s = s ↔ Settled s) ∧
    (∀ name raw, splitImportant (Declaration.printed ⟨name,(splitImportant raw).1,(splitImportant raw).2⟩) = splitImportant raw) ∧
    ∀ css, ∀ r ∈ (sheetOf css).rules, ∀ d ∈ r.declarations, d.text = d.name ++ ":" ++ d.printed ∧
      splitImportant d.printed = (d.value,d.important) := by
  refine ⟨collapse_collapse,fun s => collapse_fixed_iff,splitImportant_printed,fun css r inside d among => ⟨d.text_printed,?_⟩⟩
  obtain ⟨name,value,rfl⟩ := sheetOf_declared inside among
  exact splitImportant_printed _ (texts value)

-- A mark behind a mark in a group, and a string without an end.
theorem collapsing_settles_marked_twice :
    let css : Text := "@media x\x7b.a\x7bb:  c   d !important  !important;e:'f  g"
    let r : Rule := ⟨".a",[.declaration ⟨"b","c d !important",true⟩,.declaration ⟨"e","'f  g",false⟩]⟩
    r ∈ (sheetOf css).rules ∧ splitImportant "c d !important!important" = (("c d !important" : Text),true) ∧
      splitImportant "'f  g" = (("'f  g" : Text),false) := by
  intro css r
  have inside : r ∈ (sheetOf css).rules := by
    have written : css = _ := chars_of_literal rfl
    rw [written]
    decide +kernel
  have settles := collapsing_settles.2.2.2 css r inside
  exact ⟨inside,(settles ⟨"b","c d !important",true⟩ (by decide)).2,(settles ⟨"e","'f  g",false⟩ (by decide)).2⟩

end StyleTrim.Css
