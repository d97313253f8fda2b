import StyleTrim.Proofs.Reprinting
import StyleTrim.Proofs.Losses
namespace StyleTrim.Css
open Text Component Read
-- A style block whose text is printed as it was written has entries that stay what they are.

namespace Read

-- What ends an entry or an at-rule without a block: a semicolon, or the end of the list.
inductive Ended : List Component → List Component → Prop
  | finished : Ended [] []
  | semicolon (semi : isSemicolon d = true) : Ended [d] after

-- What an attempt takes of its list: a body, and the semicolon behind it if that is taken too.
inductive Taken : List Component → List Component → List Component → Attempt → Prop
  | declaration (token : l.token = .ident n) (spacing : ∀ c ∈ spaces, isSpacing c = true) (colon : d.isLeaf .colon = true)
      (free : ∀ c ∈ value, isSemicolon c = false) (ended : Ended tail after) :
      Taken (.leaf l :: (spaces ++ d :: value)) tail after (.entry (.declaration (declarationOf n value)))
  | statement (token : l.token = .atKeyword n) (free : ∀ c ∈ head, endsHead c = false) (ended : Ended tail after) :
      Taken (.leaf l :: head) tail after (.entry (.verbatim (headText (lower n) (collapse (texts head)))))
  | atBlock {inside : List Component} (token : l.token = .atKeyword n) (free : ∀ c ∈ head, endsHead c = false) :
      Taken (.leaf l :: head ++ [.block .curly opening inside closing]) [] after
        (.entry (verbatimBlock (headText (lower n) (collapse (texts head))) inside))
  | rule {inside : List Component} (free : ∀ c ∈ head, endsHead c = false) :
      Taken (head ++ [.block .curly opening inside closing]) [] after (.entry (verbatimBlock (collapse (texts head)) inside))
  | failed (place : Place) (free : ∀ c ∈ head, endsHead c = false) (ended : Ended tail after) :
      Taken head tail after (.failed place (texts (head ++ tail)))

-- What comes of an attempt: an entry, or source text that is kept unless nothing of it is left.
inductive Kept (body tail after : List Component) : Entry → Prop
  | read (taken : Taken body tail after (.entry e)) : Kept body tail after e
  | unread {place : Place} (taken : Taken body tail after (.failed place source)) (shown : keptText source ≠ []) :
    Kept body tail after (.verbatim (keptText source))

end Read

variable {c d first : Component} {cs ds rest head body tail after spaces value inside : List Component} {l opening : Lexeme}
  {closing : Option Lexeme} {n : Text} {e : Entry} {finish place : Place} {source : Text}
  {top : Option Bracket}
namespace Read

theorem nestedRule_taken (finish : Place) (cs : List Component) : ∃ body tail,
    cs = body ++ tail ++ (nestedRule finish cs).2 ∧ Taken body tail (nestedRule finish cs).2 (nestedRule finish cs).1 := by
  rcases cut_cases endsHead cs with clear | ⟨head,e,after,rfl,clear,ends⟩
  · obtain ⟨_,back⟩ := front_free clear
    unfold nestedRule
    rw [back]
    exact ⟨cs,[],by simp,by simpa using Taken.failed finish clear .finished⟩
  · obtain ⟨front,back⟩ := front_cut clear ends after
    unfold nestedRule
    rw [back,front]
    cases semi : isSemicolon e with
    | true =>
      obtain ⟨l,rfl,_⟩ := leaf_of_semicolon semi
      refine ⟨head,[.leaf l],by simp,?_⟩
      have ended : Ended [.leaf l] after := .semicolon semi
      have taken := Taken.failed l.place clear ended
      rw [texts_append,texts,texts,List.append_nil] at taken
      exact taken
    | false =>
      obtain ⟨opening,inside,closing,rfl⟩ := endsHead_cases ends semi
      exact ⟨head ++ [.block .curly opening inside closing],[],by simp,.rule clear⟩

theorem nestedAtRule_taken (token : l.token = .atKeyword n) (cs : List Component) : ∃ body tail,
    .leaf l :: cs = body ++ tail ++ (nestedAtRule n cs).2 ∧
      Taken body tail (nestedAtRule n cs).2 (.entry (nestedAtRule n cs).1) := by
  rcases cut_cases endsHead cs with clear | ⟨head,e,after,rfl,clear,ends⟩
  · obtain ⟨front,back⟩ := front_free clear
    unfold nestedAtRule
    rw [back,front]
    exact ⟨.leaf l :: cs,[],by simp,.statement token clear .finished⟩
  · obtain ⟨front,back⟩ := front_cut clear ends after
    unfold nestedAtRule
    rw [back,front]
    cases semi : isSemicolon e with
    | true =>
      obtain ⟨s,rfl,_⟩ := leaf_of_semicolon semi
      exact ⟨.leaf l :: head,[.leaf s],by simp,.statement token clear (.semicolon semi)⟩
    | false =>
      obtain ⟨opening,inside,closing,rfl⟩ := endsHead_cases ends semi
      exact ⟨.leaf l :: head ++ [.block .curly opening inside closing],[],by simp,.atBlock token clear⟩

theorem blame_taken (finish : Place) (first : Component) (rest : List Component) (place : Place) : ∃ body tail,
    first :: rest = body ++ tail ++ (named.blame finish first rest place).2 ∧
      Taken body tail (named.blame finish first rest place).2 (named.blame finish first rest place).1 := by
  obtain ⟨body,tail,whole,taken⟩ := nestedRule_taken finish (first :: rest)
  refine ⟨body,tail,?_⟩
  unfold named.blame
  generalize nestedRule finish (first :: rest) = read at whole taken
  obtain ⟨result,after⟩ := read
  cases result with
  | entry => exact ⟨whole,taken⟩
  | failed =>
    refine ⟨whole,?_⟩
    cases taken with
    | failed _ free ended => exact .failed place free ended

theorem named_taken (token : l.token = .ident n) (finish : Place) (rest : List Component) : ∃ body tail,
    .leaf l :: rest = body ++ tail ++ (named finish n (.leaf l) rest).2 ∧
      Taken body tail (named finish n (.leaf l) rest).2 (named finish n (.leaf l) rest).1 := by
  unfold named
  split
  · exact blame_taken ..
  · rename_i next value skipped
    split
    · rename_i colon
      have parted : rest = rest.takeWhile isSpacing ++ next :: value := by
        rw [← skipped]; exact List.takeWhile_append_dropWhile.symm
      have spacing : ∀ c ∈ rest.takeWhile isSpacing, isSpacing c = true := fun c inside =>
        List.all_eq_true.mp List.all_takeWhile c inside
      rcases cut_cases isSemicolon value with clear | ⟨head,e,after,rfl,clear,ends⟩
      · obtain ⟨front,back⟩ := front_free clear
        rw [front,back]
        refine ⟨.leaf l :: (rest.takeWhile isSpacing ++ next :: value),[],?_,.declaration token spacing colon clear .finished⟩
        rw [← parted]
        simp
      · obtain ⟨front,back⟩ := front_cut clear ends after
        rw [front,back]
        refine ⟨.leaf l :: (rest.takeWhile isSpacing ++ next :: head),[e],?_,
          .declaration token spacing colon clear (.semicolon ends)⟩
        simpa using parted
    · split
      · exact blame_taken ..
      · exact blame_taken ..

theorem attempt_taken (finish : Place) (first : Component) (rest : List Component) : ∃ body tail,
    first :: rest = body ++ tail ++ (attempt finish first rest).2 ∧
      Taken body tail (attempt finish first rest).2 (attempt finish first rest).1 := by
  have rule := nestedRule_taken finish (first :: rest)
  cases first with
  | block => exact rule
  | leaf l =>
    obtain ⟨token,text,place⟩ := l
    cases token with
    | ident n => exact named_taken rfl finish rest
    | atKeyword n => exact nestedAtRule_taken rfl rest
    | _ => exact rule

end Read

theorem declaration_text (n : Text) (value : List Component) : (declarationOf n value).text =
    (declarationOf n value).name ++ [] ++
      ([':'] ++ ((splitImportant (texts value)).1 ++ if (splitImportant (texts value)).2 then importantMark else [])) := by
  rw [Declaration.text,declarationOf,List.append_nil,List.append_assoc]
  cases (splitImportant (texts value)).2 with
  | false => exact List.append_assoc ..
  | true => exact List.append_assoc ..

theorem keeps_name (genuine : Genuine l) (token : l.token = .ident n) (value : List Component) :
    Keeps (declarationOf n value).name l.text := by
  refine .trans ?_ (genuine.ident_keeps token).1
  rw [declarationOf]
  dsimp only
  split
  · exact .refl n
  · exact .lower n

-- The name and the value are kept, what stands between the name and the colon is not.
theorem keeps_declaration (genuine : Genuine l) (token : l.token = .ident n) (between : Keeps [] (texts spaces)) :
    Keeps (declarationOf n value).text (l.text ++ texts spaces ++ ([':'] ++ texts value)) := by
  rw [declaration_text]
  exact ((keeps_name genuine token value).append between).append ((Keeps.refl [':']).append (.important (texts value)))

theorem declaration_parts {mark : Lexeme} (sound : Sound top (.leaf l :: (spaces ++ .leaf mark :: value)))
    (marked : mark.token = .colon) :
    texts (.leaf l :: (spaces ++ .leaf mark :: value)) = l.text ++ texts spaces ++ ([':'] ++ texts value) := by
  have sign : mark.text = [':'] := (Sound.right (show Sound top (spaces ++ .leaf mark :: value) from sound.rest)).leaf.mark (by rw [marked]; rfl)
  rw [← sign]
  simp [texts,texts_append,Component.text]

-- Of an entry that is read nothing comes about but the brace that closes an open block.
theorem Read.Taken.keeps (taken : Taken body tail after (.entry e)) (sound : Sound top body) :
    ∃ fill, Keeps e.text (texts body ++ fill) ∧ (fill = [] ∨ fill = "\x7d" ∧ ¬AllClosed top body) := by
  cases taken with
  | declaration token spacing colon free ended =>
    refine ⟨[],?_,.inl rfl⟩
    obtain ⟨mark,rfl,marked⟩ := isLeaf_token colon
    rename_i spaces value l n
    rw [List.append_nil,declaration_parts sound marked]
    exact keeps_declaration sound.leaf token (keeps_spacing sound.rest.left spacing)
  | statement token free ended =>
    refine ⟨[],?_,.inl rfl⟩
    rw [List.append_nil]
    exact keeps_head sound.leaf token _
  | atBlock token free => exact ⟨_,keeps_braced sound.right (keeps_head sound.leaf token _) (.collapse _),missing_cases ..⟩
  | rule free => exact ⟨_,keeps_braced sound.right (.collapse _) (.collapse _),missing_cases ..⟩

theorem Ended.gauge (ended : Read.Ended tail after) (sound : Sound top tail) : gauge (texts tail) = 0 ∧
    (tail = [] ∧ after = [] ∨ ∃ d, tail = [d] ∧ isSemicolon d = true ∧ texts tail = ";") := by
  cases ended with
  | finished => exact ⟨rfl,.inl ⟨rfl,rfl⟩⟩
  | semicolon semi =>
    obtain ⟨l,rfl,token⟩ := leaf_of_semicolon semi
    have text : texts [.leaf l] = ";" := by
      rw [texts,texts,Component.text,sound.leaf.mark (d := ';') (by rw [token]; rfl)]
      rfl
    rw [text]
    exact ⟨rfl,.inr ⟨_,rfl,semi,rfl⟩⟩

theorem Read.Taken.begins (taken : Read.Taken body tail after result) (whole : first :: rest = body ++ tail ++ after)
    (shown : isSemicolon first = false) : ∃ more, body = first :: more := by
  have nonempty : body ≠ [] := by
    intro empty
    cases taken with
    | declaration | statement | atBlock => cases empty
    | rule => simp at empty
    | failed _ free ended =>
      subst empty
      cases ended with
      | finished => cases whole
      | semicolon semi => cases whole; rw [shown] at semi; cases semi
  cases body with
  | nil => exact absurd rfl nonempty
  | cons c more =>
    obtain ⟨same,_⟩ := List.cons.inj whole
    exact ⟨more,by rw [same]⟩

-- One step of a block's reader at a component that is not passed over.
theorem entries_step (selector : Text) (finish : Place) (shown : (first.isSpacing || isSemicolon first) = false)
    (rest : List Component) : ∃ more tail after, first :: rest = first :: more ++ tail ++ after ∧
      ((∃ e, Read.Kept (first :: more) tail after e ∧
          (entries selector finish (first :: rest)).1 = e :: (entries selector finish after).1) ∨
        (∃ place source, Read.Taken (first :: more) tail after (.failed place source) ∧ keptText source = [] ∧
          (entries selector finish (first :: rest)).1 = (entries selector finish after).1)) := by
  obtain ⟨body,tail,whole,taken⟩ := attempt_taken finish first rest
  obtain ⟨more,rfl⟩ := taken.begins whole (Bool.or_eq_false_iff.mp shown).2
  refine ⟨more,tail,_,whole,?_⟩
  cases result : (attempt finish first rest).1 with
  | entry e =>
    rw [result] at taken
    exact .inl ⟨e,.read taken,entries_entry selector shown result⟩
  | failed place source =>
    rw [result] at taken
    have read := entries_failed selector shown result
    cases empty : (keptText source).isEmpty with
    | true =>
      rw [empty,if_pos rfl] at read
      exact .inr ⟨place,source,taken,List.isEmpty_iff.mp empty,read⟩
    | false =>
      rw [empty,if_neg Bool.false_ne_true] at read
      exact .inl ⟨_,.unread taken (List.isEmpty_eq_false_iff.mp empty),read⟩

-- The entries of a block as the printer puts them.
def entriesText (es : List Entry) : Text := join ";" (es.map Entry.text)

theorem entriesText_cons (e : Entry) (es : List Entry) :
    entriesText (e :: es) = e.text ++ (if es = [] then [] else ';' :: entriesText es) := by
  cases es with
  | nil => exact (List.append_nil _).symm
  | cons => exact List.append_assoc ..

theorem gauge_entriesText (e : Entry) (es : List Entry) :
    gauge (entriesText (e :: es)) = gauge e.text + gauge (entriesText es) := by
  rw [entriesText_cons,gauge_append]
  cases es with
  | nil => rfl
  | cons => rw [if_neg (by simp),gauge]; exact congrArg _ (Nat.zero_add _)

-- How much of a kept text is trimmed: blanks, and the semicolons behind them.
theorem keptText_append (source : Text) : ∃ blanks semis, collapse source = keptText source ++ blanks ++ semis ∧
    (∀ c ∈ blanks, isBlank c = true) ∧ (∀ c ∈ semis, c = ';') ∧ (∀ t, collapse source = t ++ [';'] → semis ≠ []) := by
  obtain ⟨semis,whole,marks⟩ := trimEnd_append (· = ';') (collapse source)
  obtain ⟨blanks,front,blank⟩ := trimEnd_append isBlank (trimEnd (· = ';') (collapse source))
  refine ⟨blanks,semis,?_,blank,fun c inside => of_decide_eq_true (marks c inside),fun t ends empty => ?_⟩
  · rw [keptText,← front]
    exact whole
  · rw [empty,List.append_nil] at whole
    exact absurd (trimEnd_ends (· = ';') (whole.symm.trans ends)) (by simp)

theorem keptText_bound (source : Text) : gauge (keptText source) ≤ gauge (collapse source) := by
  obtain ⟨blanks,semis,whole,_⟩ := keptText_append source
  rw [whole,gauge_append,gauge_append]
  omega

theorem unread_bound (taken : Read.Taken body tail after (.failed place source)) (sound : Sound top (body ++ tail)) :
    gauge (collapse source) ≤ gauge (texts body) := by
  cases taken with
  | failed _ free ended =>
    have nothing := (Ended.gauge ended sound.right).1
    refine Nat.le_trans (collapse_ink (texts (body ++ tail))).2 ?_
    rw [texts_append,gauge_append]
    omega

theorem Read.Kept.bound (kept : Kept body tail after e) (sound : Sound top (body ++ tail)) : gauge e.text ≤ gauge (texts body) := by
  cases kept with
  | read taken =>
    obtain ⟨fill,keeps,brace⟩ := taken.keeps sound.left
    have bound := keeps.bound
    rw [gauge_append] at bound
    have nothing : gauge fill = 0 := by rcases brace with rfl | ⟨rfl,_⟩ <;> rfl
    omega
  | unread taken => exact Nat.le_trans (keptText_bound _) (unread_bound taken sound)

theorem entries_bound (selector : Text) (finish : Place) (sound : Sound top cs) :
    gauge (entriesText (entries selector finish cs).1) ≤ gauge (texts cs) := by
  induction size : cs.length using Nat.strongRecOn generalizing cs with
  | ind k ih =>
    cases cs with
    | nil => rw [entries]; exact Nat.zero_le _
    | cons first rest =>
      cases shown : first.isSpacing || isSemicolon first with
      | true =>
        rw [entries_skip shown,texts,gauge_append]
        have := ih rest.length (by simp [← size]) sound.rest rfl
        omega
      | false =>
        obtain ⟨more,tail,after,whole,step⟩ := entries_step selector finish shown rest
        rw [whole] at sound
        have later := ih after.length (by rw [← size,whole]; simp +arith) sound.right rfl
        rw [whole,texts_append,texts_append,gauge_append,gauge_append,← whole]
        rcases step with ⟨e,kept,read⟩ | ⟨_,_,_,_,read⟩
        · rw [read,gauge_entriesText]
          have := kept.bound sound.left
          omega
        · rw [read]
          omega

-- A text that begins with neither a blank nor a delimiter of the printer.
def Counts (s : Text) : Prop := ∃ c t, s = c :: t ∧ tally c ≠ 0

theorem Counts.append (counts : Counts s) (t : Text) : Counts (s ++ t) := by
  obtain ⟨c,u,rfl,counted⟩ := counts
  exact ⟨c,u ++ t,rfl,counted⟩

theorem Sound.counts_front (sound : Sound top (c :: head)) (counts : Counts (texts (c :: head ++ ds))) :
    Counts (texts (c :: head)) := by
  obtain ⟨l,t,genuine,_,text⟩ := sound.begins
  obtain ⟨d,f,first⟩ := genuine.first
  obtain ⟨e,u,whole,counted⟩ := counts
  rw [List.cons_append,texts,text,first] at whole
  obtain ⟨rfl,_⟩ := List.cons.inj whole
  exact ⟨_,_,by rw [texts,text,first]; rfl,counted⟩

theorem meant_counts {c : Char} (counted : tally c ≠ 0) : tally (Scan.meant c) ≠ 0 := by
  unfold Scan.meant
  split
  · decide
  · exact counted

theorem name_counts (genuine : Genuine l) (token : l.token = .ident n) (full : gauge (declarationOf n value).name = gauge l.text) :
    Counts (declarationOf n value).name := by
  obtain ⟨kept,spelled⟩ := genuine.ident_keeps token
  obtain ⟨c,s,text⟩ := genuine.first
  have counted := meant_counts (genuine.first_counts (by simp [token]) (by simp [token]) (by simp [token]) text)
  rw [declarationOf] at full ⊢
  dsimp only at full ⊢
  have whole : gauge n = gauge l.text := by
    split at full
    · exact full
    · have := (Keeps.lower n).bound; have := kept.bound; omega
  rw [spelled whole,text]
  split
  · exact ⟨_,_,rfl,counted⟩
  · exact ⟨_,_,rfl,by rwa [(lowerChar_kept _).2]⟩

theorem declaration_counts (genuine : Genuine l) (token : l.token = .ident n) (between : Keeps [] (texts spaces))
    (full : gauge (declarationOf n value).text = gauge (l.text ++ texts spaces ++ ([':'] ++ texts value))) :
    Counts (declarationOf n value).text := by
  have name := keeps_name genuine token value
  rw [declaration_text] at full ⊢
  have front := ((name.append between).parts ((Keeps.refl [':']).append (.important (texts value))) full).1
  have counts := name_counts genuine token (name.parts between front).1
  rw [List.append_nil]
  exact counts.append _

theorem collapse_counts (counts : Counts s) (full : gauge (collapse s) = gauge s) : Counts (collapse s) := by
  obtain ⟨c,t,rfl,counted⟩ := counts
  have shown : isAsciiBlank c = false := Bool.eq_false_iff.mpr fun blank => counted (tally_blank blank)
  obtain ⟨u,same⟩ := collapse_first shown full
  exact ⟨c,u,same,counted⟩

theorem Read.Kept.counts (kept : Read.Kept body tail after e) (sound : Sound (some .curly) (body ++ tail))
    (first : Counts (texts body)) (full : gauge e.text = gauge (texts body)) : Counts e.text := by
  cases kept with
  | read taken =>
    cases taken with
    | declaration token spacing colon free ended =>
      obtain ⟨mark,rfl,marked⟩ := isLeaf_token colon
      rw [declaration_parts sound.left marked] at full
      exact declaration_counts sound.left.leaf token (keeps_spacing sound.left.rest.left spacing) full
    | statement | atBlock => exact ⟨'@',_,rfl,by decide⟩
    | rule free =>
      rename_i head opening closing inside
      have kept := (collapse_ink (texts head)).2
      have less := (collapse_ink (texts inside)).2
      obtain ⟨printed,written⟩ := gauge_braced head sound.left.right (collapse (texts head)) (collapse (texts inside))
      rw [verbatimBlock,Entry.text] at full ⊢
      rw [printed,written] at full
      rw [List.append_assoc,List.append_assoc]
      cases head with
      | nil => exact ⟨_,_,rfl,by decide⟩
      | cons c head =>
        refine (collapse_counts (sound.left.left.counts_front first) (by omega)).append _
  | @unread source _ taken shown =>
    have bound := unread_bound taken sound
    have less := keptText_bound source
    obtain ⟨blanks,semis,whole,_⟩ := keptText_append source
    cases taken with
    | failed _ free ended =>
      have nothing := (Ended.gauge ended sound.right).1
      have counts : Counts (texts (body ++ tail)) := by rw [texts_append]; exact first.append _
      have same : gauge (collapse (texts (body ++ tail))) = gauge (texts (body ++ tail)) := by
        rw [Entry.text] at full
        rw [texts_append body tail,gauge_append,← texts_append]
        omega
      obtain ⟨c,t,front,counted⟩ := collapse_counts counts same
      rw [front] at whole
      rw [Entry.text]
      cases kept : keptText (texts (body ++ tail)) with
      | nil => exact absurd kept shown
      | cons d u =>
        rw [kept] at whole
        obtain ⟨rfl,_⟩ := List.cons.inj whole
        exact ⟨c,u,rfl,counted⟩

theorem Sound.worth (sound : Sound (some .curly) (c :: cs)) (shown : (c.isSpacing || isSemicolon c) = false) :
    Counts (texts (c :: cs)) ∧ gauge (texts (c :: cs)) ≠ 0 := by
  obtain ⟨d,s,text,counted⟩ := sound.first_counts shown
  refine ⟨⟨d,_,by rw [texts,text]; rfl,counted⟩,?_⟩
  rw [texts,text,List.cons_append,gauge]
  omega

-- What is printed for a block's entries begins with the first of them.
theorem entries_counts (selector : Text) (finish : Place) (sound : Sound (some .curly) cs)
    (full : gauge (entriesText (entries selector finish cs).1) = gauge (texts cs)) :
    (entries selector finish cs).1 = [] ∨ Counts (entriesText (entries selector finish cs).1) := by
  induction cs with
  | nil => rw [entries]; exact .inl rfl
  | cons first rest ih =>
    cases shown : first.isSpacing || isSemicolon first with
    | true =>
      have bound := entries_bound selector finish sound.rest
      rw [entries_skip shown,texts,gauge_append] at full
      rw [entries_skip shown]
      exact ih sound.rest (by omega)
    | false =>
      obtain ⟨more,tail,after,whole,step⟩ := entries_step selector finish shown rest
      rw [whole] at sound
      obtain ⟨counts,worth⟩ := sound.left.left.worth shown
      have later := entries_bound selector finish sound.right
      rw [whole,texts_append,texts_append,gauge_append,gauge_append,← whole] at full
      rcases step with ⟨e,kept,read⟩ | ⟨_,_,_,_,read⟩
      · have bound := kept.bound sound.left
        rw [read,gauge_entriesText] at full
        rw [read,entriesText_cons]
        exact .inr ((kept.counts sound.left counts (by omega)).append _)
      · rw [read] at full
        omega

-- What is printed behind an entry: the brace that ends the block, or a semicolon and the next entry.
def Followed (x : Text) : Prop := (∃ z, x = '\x7d' :: z) ∨ ∃ z, x = ';' :: z ∧ Counts z
-- What stands behind an entry in the source, if anything does.
def Delimited (y : Text) : Prop := y = [] ∨ ∃ d z, y = d :: z ∧ (d = ';' ∨ d = '\x7d')

theorem Followed.dark (followed : Followed x) : Dark x := by
  rcases followed with ⟨z,rfl⟩ | ⟨z,rfl,_⟩ <;> intro c first <;> cases first <;> rfl

theorem Delimited.dark (delimited : Delimited y) : Dark y := by
  rcases delimited with rfl | ⟨d,z,rfl,rfl | rfl⟩ <;> intro c first <;> cases first <;> rfl

theorem Delimited.not_counts (delimited : Delimited y) (counts : Counts y) : False := by
  obtain ⟨c,t,rfl,counted⟩ := counts
  rcases delimited with same | ⟨d,z,same,mark⟩
  · cases same
  · cases same
    rcases mark with rfl | rfl <;> exact counted rfl

-- A text that lost nothing but semicolons at its end lost none, or the next entry would begin with one.
theorem trimmed_exact (inks : ink u ++ semis = ink v) (marks : ∀ c ∈ semis, c = ';') (full : gauge u = gauge v)
    (same : u ++ x = v ++ y) (followed : Followed x) (delimited : Delimited y) : u = v := by
  rcases List.append_eq_append_iff.mp same with ⟨w,rfl,rfl⟩ | ⟨w,rfl,rfl⟩
  · rw [ink_append] at inks
    have marked := List.append_cancel_left inks
    rw [gauge_append] at full
    have nothing := tally_of_gauge (s := w) (by omega)
    cases w with
    | nil => exact (List.append_nil u).symm
    | cons c w =>
      exfalso
      rcases followed with ⟨z,first⟩ | ⟨z,first,counts⟩
      · cases first
        rw [ink_cons (by rfl)] at marked
        have := marks '\x7d' (by rw [marked]; exact List.mem_cons_self)
        cases this
      · cases first
        cases w with
        | nil => exact delimited.not_counts counts
        | cons d w =>
          obtain ⟨e,t,first,counted⟩ := counts
          cases first
          exact counted (nothing d (by simp))
  · rw [ink_append,List.append_assoc] at inks
    have empty : ink w ++ semis = [] := List.append_cancel_left (inks.trans (List.append_nil _).symm)
    cases w with
    | nil => exact List.append_nil v
    | cons c w =>
      have dark : isBlank c = false := delimited.dark c rfl
      rw [ink_cons dark] at empty
      cases empty

theorem verbatimBlock_ends (h : Text) (inside : List Component) : EndsDark (verbatimBlock h inside).text :=
  ⟨_,_,rfl,rfl⟩

-- Behind what was taken stands a delimiter, or what was taken is a block.
theorem Read.Taken.delimited (taken : Read.Taken body tail after (.entry e)) (sound : Sound top tail) (finished : Delimited y) :
    Delimited (texts tail ++ texts after ++ y) ∨ EndsDark e.text := by
  cases taken with
  | declaration _ _ _ _ ended | statement _ _ ended =>
    rcases (Ended.gauge ended sound).2 with ⟨rfl,rfl⟩ | ⟨d,rfl,_,text⟩
    · exact .inl finished
    · rw [text]; exact .inl (.inr ⟨_,_,rfl,.inl rfl⟩)
  | atBlock | rule => exact .inr (verbatimBlock_ends _ _)

-- An open block is the last of its text, which has no place for the brace that the printer adds.
theorem braced_exact (keeps : Keeps u (texts body ++ "\x7d")) (full : gauge u = gauge (texts body))
    (sound : Sound top (body ++ tail ++ after)) (open' : ¬AllClosed top body)
    (whole : AllClosed top (body ++ tail ++ after) ∨ y = []) :
    u ++ x ≠ texts body ++ (texts tail ++ texts after ++ y) := by
  intro same
  have last : tail ++ after = [] := by
    rw [List.append_assoc] at sound
    cases behind : tail ++ after with
    | nil => rfl
    | cons => exact absurd ((allFit_append sound.fits).1 (by rw [behind]; simp)) open'
  obtain ⟨rfl,rfl⟩ := List.append_eq_nil_iff.mp last
  have finished : y = [] := whole.resolve_left fun closed => open' (allClosed_append.mp (allClosed_append.mp closed).1).1
  subst finished
  have inks := keeps.inks (by rw [gauge_append]; exact full)
  have written := congrArg ink same
  simp only [texts,List.append_nil,ink_append] at written inks
  have lengths := congrArg List.length written
  rw [List.length_append] at lengths inks
  have brace : (ink ("\x7d" : Text)).length = 1 := rfl
  omega

theorem ink_marks (marks : ∀ c ∈ semis, c = ';') : ink semis = semis :=
  List.filter_eq_self.mpr fun c inside => by rw [marks c inside]; rfl

theorem keptText_ink (source : Text) : ∃ semis, ink (keptText source) ++ semis = ink source ∧ (∀ c ∈ semis, c = ';') ∧
    (∀ s, source = s ++ [';'] → semis ≠ []) := by
  obtain ⟨blanks,semis,whole,blank,marks,ends⟩ := keptText_append source
  refine ⟨semis,?_,marks,fun s last => ?_⟩
  · have inks := congrArg ink whole
    rw [(collapse_ink source).1,ink_append,ink_append,ink_blanks blank,List.append_nil,ink_marks marks] at inks
    exact inks.symm
  · obtain ⟨t,same⟩ := collapse_ends (d := ';') rfl s
    rw [← last] at same
    exact ends t same

theorem Read.Kept.exact (kept : Read.Kept body tail after e) (sound : Sound top (body ++ tail ++ after))
    (full : gauge e.text = gauge (texts body)) (whole : AllClosed top (body ++ tail ++ after) ∨ y = []) (finished : Delimited y)
    (followed : Followed x) (same : e.text ++ x = texts body ++ (texts tail ++ texts after ++ y)) : e.text = texts body := by
  cases kept with
  | read taken =>
    obtain ⟨fill,keeps,brace⟩ := taken.keeps sound.left.left
    rcases brace with rfl | ⟨rfl,open'⟩
    · rw [List.append_nil] at keeps
      have right := taken.delimited sound.left.right finished
      exact (aligned same (keeps.inks full) (.inl followed.dark) (right.imp_left Delimited.dark)).1
    · exact absurd same (braced_exact keeps full sound open' whole)
  | @unread source _ taken shown =>
    obtain ⟨semis,inks,marks,ends⟩ := keptText_ink source
    cases taken with
    | failed _ free ended =>
      rw [Entry.text] at full same ⊢
      have parted : ink (keptText (texts (body ++ tail))) ++ semis = ink (texts body) ++ ink (texts tail) := by
        rw [← ink_append,← texts_append]
        exact inks
      rcases (Ended.gauge ended sound.left.right).2 with ⟨rfl,rfl⟩ | ⟨d,rfl,_,text⟩
      · exact trimmed_exact (parted.trans (List.append_nil _)) marks full same followed finished
      · rcases List.eq_nil_or_concat semis with rfl | ⟨front,c,rfl⟩
        · exact absurd rfl (ends (texts body) (by rw [texts_append,text]; rfl))
        · rw [List.concat_eq_append] at parted marks
          have last := marks c (by simp)
          subst last
          rw [text,← List.append_assoc] at parted
          have inner := List.append_cancel_right (show _ ++ [';'] = _ ++ [';'] from parted)
          refine trimmed_exact inner (fun c inside => marks c (List.mem_append_left _ inside)) full same followed ?_
          rw [text]
          exact .inr ⟨_,_,rfl,.inl rfl⟩

theorem Read.Taken.free (taken : Read.Taken body tail after result) : ∀ c ∈ body, isSemicolon c = false := by
  have clear : ∀ {head : List Component}, (∀ c ∈ head, endsHead c = false) → ∀ c ∈ head, isSemicolon c = false :=
    fun free c inside => (Bool.or_eq_false_iff.mp (free c inside)).1
  cases taken with
  | declaration token spacing colon free ended =>
    intro c inside
    rcases List.mem_cons.mp inside with rfl | inside
    · simp [isSemicolon,isLeaf,token]
    rcases List.mem_append.mp inside with inside | inside
    · have blank := spacing c inside
      cases c with
      | block => cases blank
      | leaf k =>
        simp only [isSpacing,Bool.or_eq_true,beq_iff_eq] at blank
        rcases blank with same | same <;> simp [isSemicolon,isLeaf,same]
    rcases List.mem_cons.mp inside with rfl | inside
    · obtain ⟨k,rfl,same⟩ := isLeaf_token colon
      simp [isSemicolon,isLeaf,same]
    · exact free c inside
  | statement token free ended =>
    intro c inside
    rcases List.mem_cons.mp inside with rfl | inside
    · simp [isSemicolon,isLeaf,token]
    · exact clear free c inside
  | atBlock token free =>
    intro c inside
    rcases List.mem_append.mp inside with inside | inside
    · rcases List.mem_cons.mp inside with rfl | inside
      · simp [isSemicolon,isLeaf,token]
      · exact clear free c inside
    · rw [List.mem_singleton.mp inside]; rfl
  | rule free =>
    intro c inside
    rcases List.mem_append.mp inside with inside | inside
    · exact clear free c inside
    · rw [List.mem_singleton.mp inside]; rfl
  | failed _ free ended => exact clear free

theorem Read.Kept.free (kept : Read.Kept body tail after e) : ∀ c ∈ body, isSemicolon c = false := by
  cases kept with
  | read taken | unread taken => exact taken.free

theorem texts_semicolon (sound : Sound top (d :: cs)) (semi : isSemicolon d = true) : d.text = ";" ∧ d.bare = semicolon := by
  obtain ⟨l,rfl,token⟩ := leaf_of_semicolon semi
  have text : l.text = [';'] := sound.leaf.mark (by rw [token]; rfl)
  refine ⟨by rw [Component.text,text]; rfl,?_⟩
  obtain ⟨_,_,_⟩ := l
  cases token
  cases text
  rfl

-- An entry is read alone where it is read first and the others are read behind its semicolon.
theorem entries_alone (sound : Sound top (d :: cs)) (free : ∀ c ∈ body, isSemicolon c = false) (semi : isSemicolon d = true)
    (read : (entries selector finish (body ++ d :: cs)).1 = e :: (entries selector finish cs).1) :
    (entries [] .start (body ++ [semicolon])).1 = [e] := by
  rw [entries_semicolon selector finish free semi cs] at read
  have alone : (entries selector finish (body ++ [d])).1 = [e] := List.append_cancel_right (read.trans (List.append_cons [] ..).symm)
  have same : bares (body ++ [d]) = bares (body ++ [semicolon]) := by
    rw [bares_map,bares_map,List.map_append,List.map_append,List.map_singleton,List.map_singleton,(texts_semicolon sound semi).2]
    rfl
  rw [← entries_bare [] [] .start .start,← same,entries_bare selector]
  exact alone

-- Components that stand in a text in front of `y`, which is over or closes the bracket around them.
structure Standing (top : Option Bracket) (cs : List Component) (y : Text) : Prop where
  sound : Sound top cs
  whole : AllClosed top cs ∨ y = []
  lexed : ∃ more, lexemes (texts cs ++ y) = spreads cs ++ more
  finished : y = [] ∨ ∃ z, y = '\x7d' :: z

theorem Standing.behind (standing : Standing top (cs ++ ds) y) : Standing top ds y where
  sound := standing.sound.right
  whole := standing.whole.imp_left fun closed => (allClosed_append.mp closed).2
  lexed := by
    obtain ⟨more,lexed⟩ := standing.lexed
    rw [texts_append,spreads_append,List.append_assoc,List.append_assoc] at lexed
    exact ⟨more,lexemes_behind lexed (spreads_texts cs)⟩
  finished := standing.finished

theorem Standing.delimited (standing : Standing top cs y) : Delimited y :=
  standing.finished.imp_right fun ⟨z,same⟩ => ⟨_,z,same,.inr rfl⟩

-- Components in front of a delimiter are a piece of their text.
theorem Standing.piece (standing : Standing top (cs ++ ds) y) (closed : AllClosed top cs) (stopped : Stopped (texts ds ++ y)) :
    Piece top (texts cs) cs := by
  obtain ⟨more,lexed⟩ := standing.lexed
  rw [texts_append,spreads_append,List.append_assoc,List.append_assoc] at lexed
  exact .of_lexed closed stopped lexed

theorem skipped_first (sound : Sound top (c :: cs)) (skipped : (c.isSpacing || isSemicolon c) = true) :
    ∃ d s, c.text = d :: s ∧ d ≠ '\x7d' := by
  obtain ⟨l,t,genuine,token,text⟩ := sound.begins
  obtain ⟨d,f,first⟩ := genuine.first
  refine ⟨d,f ++ t,by rw [text,first]; rfl,?_⟩
  rintro rfl
  have closes : l.token = .closeCurly := genuine.of_mark (fun _ => rfl) first
  cases c with
  | block => cases skipped
  | leaf k =>
    rw [Component.token] at token
    simp [isSpacing,isSemicolon,isLeaf,token,closes] at skipped

-- What begins like a semicolon is one.
theorem first_semicolon (sound : Sound top (c :: cs)) (first : texts (c :: cs) ++ y = ';' :: z) : isSemicolon c = true := by
  obtain ⟨l,t,genuine,token,text⟩ := sound.begins
  obtain ⟨d,f,begins⟩ := genuine.first
  rw [texts,text,begins] at first
  cases first
  have semi : l.token = .semicolon := genuine.of_mark (fun _ => rfl) begins
  have fits := sound.first
  rw [semi] at token
  cases c with
  | leaf k => rw [Component.token] at token; simp [isSemicolon,isLeaf,token]
  | block b opening inside closing =>
    have opens := fits.block
    rw [Component.token] at token
    rw [token] at opens
    cases opens

theorem first_brace (sound : Sound (some .curly) cs) (first : texts cs ++ y = '\x7d' :: z) : cs = [] := by
  cases cs with
  | nil => rfl
  | cons c cs =>
    exfalso
    cases skipped : c.isSpacing || isSemicolon c with
    | true =>
      obtain ⟨d,s,text,other⟩ := skipped_first sound skipped
      rw [texts,text] at first
      exact other (List.cons.inj first).1
    | false =>
      obtain ⟨d,s,text,counted⟩ := sound.first_counts skipped
      rw [texts,text] at first
      obtain ⟨rfl,_⟩ := List.cons.inj first
      exact counted rfl

theorem Read.Taken.once (taken : Read.Taken body tail after result) : tail = [] ∨ ∃ d, tail = [d] := by
  have ends : Read.Ended tail after → tail = [] ∨ ∃ d, tail = [d] := by
    intro ended
    cases ended with
    | finished => exact .inl rfl
    | semicolon => exact .inr ⟨_,rfl⟩
  cases taken with
  | declaration _ _ _ _ ended | statement _ _ ended | failed _ _ ended => exact ends ended
  | atBlock | rule => exact .inl rfl

theorem Read.Kept.next (kept : Read.Kept body tail after e) (behind : tail ++ after = d :: ds) (semi : isSemicolon d = true)
    (selector : Text) (finish : Place) : (entries selector finish after).1 = (entries selector finish ds).1 := by
  have tails : tail = [] ∨ ∃ d, tail = [d] := by
    cases kept with
    | read taken | unread taken => exact taken.once
  rcases tails with rfl | ⟨c,rfl⟩
  · rw [List.nil_append] at behind
    rw [behind,entries_skip (by rw [semi,Bool.or_true])]
  · cases behind
    rfl

-- The last entry of a block, or one with more entries behind its semicolon.
theorem Read.Kept.last (kept : Read.Kept body [] [] e) (standing : Standing (some .curly) body ('\x7d' :: z))
    (exact' : e.text = texts body) (read : (entries selector finish body).1 = [e]) : EntriesReprint [e] := by
  have closed : AllClosed (some .curly) body := standing.whole.resolve_right nofun
  rw [← List.append_nil body] at standing
  refine ⟨body,?_,kept.free,?_⟩
  · rw [exact']
    exact standing.piece closed ⟨_,_,rfl,rfl⟩
  · rw [List.append_nil,entries_wherever [] selector .start finish]
    exact read

theorem Read.Kept.before (kept : Read.Kept body tail after e) (standing : Standing (some .curly) (body ++ d :: ds) y)
    (exact' : e.text = texts body) (semi : isSemicolon d = true)
    (read : (entries selector finish (body ++ d :: ds)).1 = e :: (entries selector finish ds).1) :
    EntryReprints [semicolon] e := by
  have closed : AllClosed (some .curly) body := (allFit_append standing.sound.fits).1 (by simp)
  have stopped : Stopped (texts (d :: ds) ++ y) := by
    rw [texts,(texts_semicolon standing.sound.right semi).1]
    exact ⟨_,_,rfl,rfl⟩
  refine ⟨body,?_,kept.free,entries_alone standing.sound.right kept.free semi read⟩
  rw [exact']
  exact standing.piece closed stopped

-- The first printed entry is the first that was written, and the rest is the rest.
theorem Read.Kept.split (kept : Read.Kept body tail after e) (standing : Standing (some .curly) (body ++ tail ++ after) y)
    (full : gauge e.text = gauge (texts body)) (next : es = [] ∨ Counts (entriesText es))
    (same : entriesText (e :: es) ++ '\x7d' :: z = texts (body ++ tail ++ after) ++ y) : e.text = texts body ∧
      ((es = [] ∧ tail ++ after = [] ∧ y = '\x7d' :: z) ∨
        (es ≠ [] ∧ ∃ d ds, tail ++ after = d :: ds ∧ isSemicolon d = true ∧ entriesText es ++ '\x7d' :: z = texts ds ++ y)) := by
  have sound := standing.sound
  have others : Sound (some .curly) (tail ++ after) := by rw [List.append_assoc] at sound; exact sound.right
  have behind : texts tail ++ texts after = texts (tail ++ after) := (texts_append ..).symm
  rw [entriesText_cons,texts_append,texts_append,List.append_assoc,List.append_assoc,List.append_assoc] at same
  rcases next with rfl | counts
  · rw [if_pos rfl,List.nil_append] at same
    have exact' := kept.exact sound full standing.whole standing.delimited (.inl ⟨z,rfl⟩) (by simpa using same)
    rw [exact'] at same
    have rest := List.append_cancel_left same
    rw [← List.append_assoc,behind] at rest
    have none := first_brace others rest.symm
    rw [none] at rest
    exact ⟨exact',.inl ⟨rfl,none,rest.symm⟩⟩
  · have some : es ≠ [] := by
      rintro rfl
      obtain ⟨c,t,begins,_⟩ := counts
      cases begins
    rw [if_neg some,List.cons_append] at same
    have exact' := kept.exact sound full standing.whole standing.delimited (.inr ⟨_,rfl,counts.append _⟩) (by simpa using same)
    rw [exact'] at same
    have rest := List.append_cancel_left same
    rw [← List.append_assoc,behind] at rest
    refine ⟨exact',.inr ⟨some,?_⟩⟩
    cases parted : tail ++ after with
    | nil =>
      rw [parted] at rest
      rcases standing.finished with finished | ⟨_,finished⟩ <;> rw [finished] at rest <;> cases rest
    | cons d ds =>
      rw [parted] at rest others
      have semi := first_semicolon others rest.symm
      refine ⟨d,ds,rfl,semi,?_⟩
      rw [texts,(texts_semicolon others semi).1] at rest
      exact (List.cons.inj rest).2

theorem entries_stable (selector : Text) (finish : Place) (standing : Standing (some .curly) cs y)
    (full : gauge (entriesText (entries selector finish cs).1) = gauge (texts cs))
    (same : entriesText (entries selector finish cs).1 ++ '\x7d' :: z = texts cs ++ y) :
    entriesText (entries selector finish cs).1 = texts cs ∧ EntriesReprint (entries selector finish cs).1 := by
  induction size : cs.length using Nat.strongRecOn generalizing cs with
  | ind k ih =>
    cases cs with
    | nil => rw [entries]; exact ⟨rfl,trivial⟩
    | cons first rest =>
      cases shown : first.isSpacing || isSemicolon first with
      | true =>
        -- What is passed over begins with a character that nothing printed begins with.
        exfalso
        have sound := standing.sound
        obtain ⟨d,s,text,other⟩ := skipped_first sound shown
        have bound := entries_bound selector finish sound.rest
        rw [entries_skip shown] at full same
        rw [texts,gauge_append] at full
        rw [texts,text] at same
        have nothing : tally d = 0 := tally_of_gauge (s := first.text) (by omega) d (by rw [text]; exact List.mem_cons_self)
        rcases entries_counts selector finish sound.rest (by omega) with none | ⟨c,t,begins,counted⟩
        · rw [none] at same
          exact other (List.cons.inj same).1.symm
        · rw [begins] at same
          obtain ⟨rfl,_⟩ := List.cons.inj same
          exact counted nothing
      | false =>
        obtain ⟨more,tail,after,whole,step⟩ := entries_step selector finish shown rest
        rw [whole] at standing full same step ⊢
        have sound := standing.sound
        have later := entries_bound selector finish sound.right
        rw [texts_append,texts_append,gauge_append,gauge_append] at full
        rcases step with ⟨e,kept,read⟩ | ⟨_,_,_,_,read⟩
        · have bound := kept.bound sound.left
          rw [read] at same full ⊢
          rw [gauge_entriesText] at full
          obtain ⟨exact',none | some⟩ := kept.split standing (by omega)
            (entries_counts selector finish sound.right (by omega)) same
          · obtain ⟨empty,finished,rfl⟩ := none
            obtain ⟨rfl,rfl⟩ := List.append_eq_nil_iff.mp finished
            rw [empty] at read ⊢
            simp only [List.append_nil] at read standing ⊢
            exact ⟨exact',kept.last standing exact' read⟩
          · obtain ⟨nonempty,d,ds,parted,semi,rest'⟩ := some
            have next := kept.next parted semi selector finish
            have counted := congrArg (fun cs => gauge (texts cs)) parted
            rw [List.append_assoc,parted] at standing read whole ⊢
            rw [next] at read rest' nonempty full later ⊢
            have written : texts (d :: ds) = ';' :: texts ds := by
              rw [texts,(texts_semicolon standing.sound.right semi).1]
              rfl
            have nothing : tally ';' = 0 := rfl
            rw [written,texts_append,gauge_append,gauge,nothing] at counted
            have shorter : ds.length < k := by rw [← size,whole]; simp +arith
            obtain ⟨settled,reprint⟩ := ih ds.length shorter (Standing.behind (show Standing _ ([d] ++ ds) _ from standing.behind)) (by omega) rest' rfl
            have before := kept.before standing exact' semi read
            refine ⟨?_,?_⟩
            · rw [entriesText_cons,if_neg nonempty,settled,exact',texts_append,written]
            · cases others : (entries selector finish ds).1 with
              | nil => exact absurd others nonempty
              | cons second es =>
                rw [others] at reprint
                exact ⟨before,reprint⟩
        · exfalso
          rw [read] at full
          have worth := (sound.left.left.worth shown).2
          omega

end StyleTrim.Css
