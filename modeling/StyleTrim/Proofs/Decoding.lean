import StyleTrim.Text.Utf8
namespace StyleTrim.Text
variable {b rest : Bytes} {c : Char} {p : Pending} {s : Text} {pieces : List Piece} {x : UInt8} {n : Nat}

-- A text that was written as bytes is read again as it was, and no other bytes are a text.

-- A byte that continues a character, in the middle of it and at its end.
theorem piecesFrom_onward (inside : p.low ≤ x ∧ x ≤ p.high) (more : p.due ≠ 1) : piecesFrom (some p) (x :: rest) =
    piecesFrom (some ⟨p.bits * 64 + (x.toNat - 0x80),p.due - 1,p.seen + 1,0x80,0xbf⟩) rest := by
  rw [piecesFrom,advance]
  simp [inside,more]

theorem piecesFrom_last (inside : p.low ≤ x ∧ x ≤ p.high) (last : p.due = 1) : piecesFrom (some p) (x :: rest) =
    .char (Char.ofNat (p.bits * 64 + (x.toNat - 0x80))) :: piecesFrom none rest := by
  rw [piecesFrom,advance]
  simp [inside,last]

theorem piecesFrom_first (large : ¬ x < 0x80) (begun : begin? x = some p) :
    piecesFrom none (x :: rest) = piecesFrom (some p) rest := by
  rw [piecesFrom,advance,afresh]
  simp [large,begun]

theorem octet_toNat (small : n < 256) : (UInt8.ofNat n).toNat = n := by
  rw [UInt8.toNat_ofNat']
  exact Nat.mod_eq_of_lt small

-- The first byte of a character that has several.
theorem begin?_two (low : 0x80 ≤ n) (high : n < 0x800) :
    begin? (UInt8.ofNat (0xc0 + n / 64)) = some ⟨n / 64,1,1,0x80,0xbf⟩ := by
  have size := octet_toNat (n := 0xc0 + n / 64) (by omega)
  simp only [begin?,UInt8.le_iff_toNat_le,size]
  rw [if_pos]
  · simp
  · simp; omega

theorem begin?_three (low : 0x800 ≤ n) (high : n < 0x10000) (proper : n < 0xd800 ∨ 0xdfff < n) :
    ∃ low high : UInt8, begin? (UInt8.ofNat (0xe0 + n / 4096)) = some ⟨n / 4096,2,1,low,high⟩ ∧
      low.toNat ≤ 0x80 + n / 64 % 64 ∧ 0x80 + n / 64 % 64 ≤ high.toNat := by
  have size := octet_toNat (n := 0xe0 + n / 4096) (by omega)
  by_cases first : n / 4096 = 0
  · rw [first]
    exact ⟨0xa0,0xbf,rfl,by simp; omega,by simp; omega⟩
  · by_cases last : n / 4096 = 13
    · rw [last]
      exact ⟨0x80,0x9f,rfl,by simp,by simp; omega⟩
    · refine ⟨0x80,0xbf,?_,by simp,by simp; omega⟩
      simp only [begin?,UInt8.le_iff_toNat_le,← UInt8.toNat_inj,size]
      rw [if_neg (by simp; omega),if_neg (by simp; omega),if_neg (by simp; omega),if_pos (by simp; omega)]
      simp

theorem begin?_four (low : 0x10000 ≤ n) (high : n < 0x110000) :
    ∃ low high : UInt8, begin? (UInt8.ofNat (0xf0 + n / 262144)) = some ⟨n / 262144,3,1,low,high⟩ ∧
      low.toNat ≤ 0x80 + n / 4096 % 64 ∧ 0x80 + n / 4096 % 64 ≤ high.toNat := by
  by_cases first : n / 262144 = 0
  · rw [first]
    exact ⟨0x90,0xbf,rfl,by simp; omega,by simp; omega⟩
  · by_cases last : n / 262144 = 4
    · rw [last]
      exact ⟨0x80,0x8f,rfl,by simp,by simp; omega⟩
    · refine ⟨0x80,0xbf,?_,by simp,by simp; omega⟩
      have size := octet_toNat (n := 0xf0 + n / 262144) (by omega)
      simp only [begin?,UInt8.le_iff_toNat_le,← UInt8.toNat_inj,size]
      rw [if_neg (by simp; omega),if_neg (by simp; omega),if_neg (by simp; omega),if_neg (by simp; omega),
        if_neg (by simp; omega),if_pos (by simp; omega)]
      simp

theorem large_octet (low : 0x80 ≤ n) (high : n < 256) : ¬ UInt8.ofNat n < 0x80 := by
  rw [UInt8.lt_iff_toNat_lt,octet_toNat high]
  simpa using low

-- A later byte of a character, between any bounds that leave room for it.
theorem tail_inside {low high : UInt8} (bits : Nat) (from_ : low.toNat ≤ 0x80 + bits % 64) (till : 0x80 + bits % 64 ≤ high.toNat) :
    low ≤ UInt8.ofNat (0x80 + bits % 64) ∧ UInt8.ofNat (0x80 + bits % 64) ≤ high := by
  have size := octet_toNat (n := 0x80 + bits % 64) (by omega)
  rw [UInt8.le_iff_toNat_le,UInt8.le_iff_toNat_le,size]
  exact ⟨from_,till⟩

theorem tail_bits (bits : Nat) : (UInt8.ofNat (0x80 + bits % 64)).toNat - 0x80 = bits % 64 := by
  rw [octet_toNat (by omega)]
  omega

theorem plain_tail (bits : Nat) :
    (0x80 : UInt8) ≤ UInt8.ofNat (0x80 + bits % 64) ∧ UInt8.ofNat (0x80 + bits % 64) ≤ (0xbf : UInt8) :=
  tail_inside bits (by simp) (by simp; omega)

theorem piecesFrom_bytesOf (c : Char) (rest : Bytes) : piecesFrom none (bytesOf c ++ rest) = .char c :: piecesFrom none rest := by
  obtain ⟨n,same⟩ : ∃ n, n = c.toNat := ⟨_,rfl⟩
  have proper : n < 0xd800 ∨ 0xdfff < n ∧ n < 0x110000 := by
    rw [same]
    exact c.valid
  have char : Char.ofNat n = c := by rw [same,Char.ofNat_toNat]
  unfold bytesOf
  rw [← same]
  dsimp only
  split
  · have small : UInt8.ofNat n < 0x80 := by
      rw [UInt8.lt_iff_toNat_lt,octet_toNat (by omega)]
      simpa
    rw [List.singleton_append,piecesFrom,advance,afresh,if_pos small,octet_toNat (by omega),char]
    rfl
  · split
    · rw [List.cons_append,List.singleton_append,piecesFrom_first (large_octet (by omega) (by omega)) (begin?_two (by omega) ‹_›),
        piecesFrom_last (plain_tail n) rfl,tail_bits]
      dsimp only
      rw [show n / 64 * 64 + n % 64 = n by omega,char]
    · split
      · obtain ⟨low,high,begun,from_,till⟩ := begin?_three (n := n) (by omega) ‹_› (by omega)
        rw [List.cons_append,List.cons_append,List.singleton_append,piecesFrom_first (large_octet (by omega) (by omega)) begun,
          piecesFrom_onward (tail_inside _ from_ till) (by simp),piecesFrom_last (plain_tail n) rfl,tail_bits,tail_bits]
        dsimp only
        rw [show (n / 4096 * 64 + n / 64 % 64) * 64 + n % 64 = n by omega,char]
      · obtain ⟨low,high,begun,from_,till⟩ := begin?_four (n := n) (by omega) (by omega)
        rw [List.cons_append,List.cons_append,List.cons_append,List.singleton_append,
          piecesFrom_first (large_octet (by omega) (by omega)) begun,piecesFrom_onward (tail_inside _ from_ till) (by simp),
          piecesFrom_onward (plain_tail (n / 64)) (by simp),piecesFrom_last (plain_tail n) rfl,tail_bits,tail_bits,tail_bits]
        dsimp only
        rw [show ((n / 262144 * 64 + n / 4096 % 64) * 64 + n / 64 % 64) * 64 + n % 64 = n by omega,char]

theorem piecesFrom_encode (s : Text) : piecesFrom none (encode s) = s.map .char := by
  induction s with
  | nil => rfl
  | cons c more ih => rw [encode,List.flatMap_cons,piecesFrom_bytesOf,← encode,ih,List.map_cons]

-- The bounds of what may follow the first byte of a character: two bytes make no number that one makes, and so on up,
-- none makes a surrogate, and none goes past the last number.
inductive Begun (x : UInt8) : Pending → Prop
  | two (low : 0xc2 ≤ x.toNat) (high : x.toNat ≤ 0xdf) : Begun x ⟨x.toNat - 0xc0,1,1,0x80,0xbf⟩
  | three {low high : UInt8} (from_ : 0xe0 ≤ x.toNat) (till : x.toNat ≤ 0xef) (bounds : 0x80 ≤ low.toNat ∧ high.toNat ≤ 0xbf)
    (long : x.toNat = 0xe0 → 0xa0 ≤ low.toNat) (proper : x.toNat = 0xed → high.toNat ≤ 0x9f) :
    Begun x ⟨x.toNat - 0xe0,2,1,low,high⟩
  | four {low high : UInt8} (from_ : 0xf0 ≤ x.toNat) (till : x.toNat ≤ 0xf4) (bounds : 0x80 ≤ low.toNat ∧ high.toNat ≤ 0xbf)
    (long : x.toNat = 0xf0 → 0x90 ≤ low.toNat) (known : x.toNat = 0xf4 → high.toNat ≤ 0x8f) :
    Begun x ⟨x.toNat - 0xf0,3,1,low,high⟩

theorem begin?_begun (begun : begin? x = some p) : Begun x p := by
  unfold begin? at begun
  simp only [Bool.and_eq_true,decide_eq_true_eq,UInt8.le_iff_toNat_le] at begun
  split at begun
  · rename_i bounds
    obtain rfl := Option.some.inj begun
    exact .two bounds.1 bounds.2
  · split at begun
    · rename_i first
      obtain rfl := Option.some.inj begun
      subst first
      exact .three (by decide) (by decide) (by decide) (by decide) (by decide)
    · split at begun
      · rename_i last
        obtain rfl := Option.some.inj begun
        subst last
        exact .three (by decide) (by decide) (by decide) (by decide) (by decide)
      · rename_i first last
        have first' : x.toNat ≠ 0xe0 := fun same => first (UInt8.toNat_inj.mp same)
        have last' : x.toNat ≠ 0xed := fun same => last (UInt8.toNat_inj.mp same)
        split at begun
        · rename_i bounds
          obtain rfl := Option.some.inj begun
          refine .three ?_ bounds.2 (by decide) (absurd · first') (absurd · last')
          exact Nat.le_of_succ_le bounds.1
        · split at begun
          · rename_i first
            obtain rfl := Option.some.inj begun
            subst first
            exact .four (by decide) (by decide) (by decide) (by decide) (by decide)
          · rename_i first
            have first' : x.toNat ≠ 0xf0 := fun same => first (UInt8.toNat_inj.mp same)
            split at begun
            · rename_i bounds
              obtain rfl := Option.some.inj begun
              have other : x.toNat ≠ 0xf4 := by
                intro same
                have := bounds.2
                rw [same] at this
                exact absurd this (by decide)
              refine .four (Nat.le_of_succ_le bounds.1) (Nat.le_succ_of_le bounds.2) (by decide) (absurd · first') (absurd · other)
            · split at begun
              · rename_i last
                cases begun
                subst last
                exact .four (by decide) (by decide) (by decide) (by decide) (by decide)
              · cases begun

theorem ofNat_toNat_of_valid (valid : n.isValidChar) : (Char.ofNat n).toNat = n := by
  rw [Char.ofNat,dif_pos valid]
  rfl

theorem octet_eq (number : n = x.toNat) : UInt8.ofNat n = x := by rw [number,UInt8.ofNat_toNat]

-- A character goes on with a byte within the bounds, and ends with one.
theorem continued (read : piecesFrom (some p) b = .char c :: pieces) : ∃ x rest, b = x :: rest ∧ p.low ≤ x ∧ x ≤ p.high := by
  cases b with
  | nil => cases read
  | cons x rest =>
    refine ⟨x,rest,rfl,?_⟩
    by_cases inside : p.low ≤ x ∧ x ≤ p.high
    · exact inside
    · rw [piecesFrom,advance] at read
      simp [inside] at read

theorem read_onward (read : piecesFrom (some p) b = .char c :: pieces) (more : p.due ≠ 1) : ∃ x rest, b = x :: rest ∧
    (p.low.toNat ≤ x.toNat ∧ x.toNat ≤ p.high.toNat) ∧
    piecesFrom (some ⟨p.bits * 64 + (x.toNat - 0x80),p.due - 1,p.seen + 1,0x80,0xbf⟩) rest = .char c :: pieces := by
  obtain ⟨x,rest,rfl,inside⟩ := continued read
  rw [piecesFrom_onward inside more] at read
  exact ⟨x,rest,rfl,by simpa only [UInt8.le_iff_toNat_le] using inside,read⟩

theorem read_last {bits seen : Nat} (read : piecesFrom (some ⟨bits,1,seen,0x80,0xbf⟩) b = .char c :: pieces) :
    ∃ x rest, b = x :: rest ∧ (0x80 ≤ x.toNat ∧ x.toNat ≤ 0xbf) ∧ Char.ofNat (bits * 64 + (x.toNat - 0x80)) = c ∧
      pieces = piecesFrom none rest := by
  obtain ⟨x,rest,rfl,inside⟩ := continued read
  rw [piecesFrom_last inside rfl] at read
  obtain ⟨char,rfl⟩ := List.cons.inj read
  simp only [UInt8.le_iff_toNat_le] at inside
  exact ⟨x,rest,rfl,inside,Piece.char.inj char,rfl⟩

theorem piecesFrom_pending (p : Pending) (b : Bytes) : piecesFrom (some p) b ≠ [] := by
  induction b generalizing p with
  | nil => simp [piecesFrom]
  | cons x rest ih =>
    by_cases inside : p.low ≤ x ∧ x ≤ p.high
    · by_cases last : p.due = 1
      · simp [piecesFrom_last inside last]
      · rw [piecesFrom_onward inside last]
        exact ih _
    · rw [piecesFrom,advance]
      simp [inside]

-- A character that was read stands there in the only way it is written.
theorem bytesOf_read (read : piecesFrom none b = .char c :: pieces) : ∃ rest, b = bytesOf c ++ rest ∧ pieces = piecesFrom none rest := by
  cases b with
  | nil => cases read
  | cons x rest =>
    by_cases small : x < 0x80
    · rw [piecesFrom,advance,afresh,if_pos small] at read
      cases read
      have bound : x.toNat < 0x80 := UInt8.lt_iff_toNat_lt.mp small
      refine ⟨rest,?_,rfl⟩
      rw [bytesOf,ofNat_toNat_of_valid (.inl (by omega)),if_pos bound,UInt8.ofNat_toNat]
      rfl
    · cases begun : begin? x with
      | none =>
        rw [piecesFrom,advance,afresh,if_neg small,begun] at read
        cases read
      | some p =>
        rw [piecesFrom_first small begun] at read
        have begins := begin?_begun begun
        cases begins with
        | two low high =>
          obtain ⟨y,rest,rfl,inside,rfl,rfl⟩ := read_last read
          refine ⟨rest,?_,rfl⟩
          rw [bytesOf,ofNat_toNat_of_valid (.inl (by omega))]
          dsimp only
          rw [if_neg (by omega),if_pos (by omega),octet_eq (x := x) (by omega),octet_eq (x := y) (by omega)]
          rfl
        | @three low high from_ till bounds long proper =>
          obtain ⟨y,rest,rfl,inside,read⟩ := read_onward read (by simp)
          obtain ⟨z,rest,rfl,inside',rfl,rfl⟩ := read_last read
          dsimp only at inside
          refine ⟨rest,?_,rfl⟩
          rw [bytesOf,ofNat_toNat_of_valid (by dsimp only [Nat.isValidChar]; omega)]
          dsimp only
          rw [if_neg (by omega),if_neg (by omega),if_pos (by omega),octet_eq (x := x) (by omega),octet_eq (x := y) (by omega),
            octet_eq (x := z) (by omega)]
          rfl
        | @four low high from_ till bounds long known =>
          obtain ⟨y,rest,rfl,inside,read⟩ := read_onward read (by simp)
          obtain ⟨z,rest,rfl,inside',read⟩ := read_onward read (by simp)
          obtain ⟨u,rest,rfl,inside'',rfl,rfl⟩ := read_last read
          dsimp only at inside
          have from' : 0x80 ≤ z.toNat := inside'.1
          have till' : z.toNat ≤ 0xbf := inside'.2
          refine ⟨rest,?_,rfl⟩
          rw [bytesOf,ofNat_toNat_of_valid (by dsimp only [Nat.isValidChar]; omega)]
          dsimp only
          rw [if_neg (by omega),if_neg (by omega),if_neg (by omega),octet_eq (x := x) (by omega),octet_eq (x := y) (by omega),
            octet_eq (x := z) (by omega),octet_eq (x := u) (by omega)]
          rfl

theorem encode_of_pieces (read : piecesFrom none b = s.map .char) : b = encode s := by
  induction s generalizing b with
  | nil =>
    cases b with
    | nil => rfl
    | cons x rest =>
      refine absurd read ?_
      by_cases small : x < 0x80
      · simp [piecesFrom,advance,afresh,small]
      · cases begun : begin? x with
        | none => simp [piecesFrom,advance,afresh,small,begun]
        | some p =>
          rw [piecesFrom_first small begun]
          exact piecesFrom_pending p rest
  | cons c more ih =>
    obtain ⟨rest,rfl,later⟩ := bytesOf_read read
    rw [encode,List.flatMap_cons,← encode,← ih later.symm]

theorem collect_iff {index : Nat} : collect index pieces = .ok s ↔ pieces = s.map .char := by
  induction pieces generalizing index s with
  | nil => cases s <;> simp [collect]
  | cons piece more ih =>
    cases piece with
    | stray count isCut => cases s <;> simp [collect]
    | char c =>
      rw [collect]
      constructor
      · intro read
        cases found : collect (index + (bytesOf c).length) more with
        | error e =>
          rw [found] at read
          cases read
        | ok t =>
          rw [found] at read
          cases read
          rw [ih.mp found,List.map_cons]
      · intro same
        cases s with
        | nil => cases same
        | cons c' t =>
          obtain ⟨first,later⟩ := List.cons.inj same
          cases first
          rw [ih.mpr later]
          rfl

-- Bytes are read as a text exactly if they are what is written for it.
theorem decode_iff : decode b = .ok s ↔ b = encode s := by
  rw [decode,collect_iff]
  constructor
  · exact encode_of_pieces
  · rintro rfl
    exact piecesFrom_encode s

theorem decodeLossy_encode (s : Text) : decodeLossy (encode s) = s := by
  rw [decodeLossy,piecesFrom_encode,List.map_map]
  exact List.map_id s

-- Replacing what is no text changes the bytes, if there is any.
theorem encode_decodeLossy_iff : encode (decodeLossy b) = b ↔ ∃ s, decode b = .ok s := by
  simp only [decode_iff]
  constructor
  · intro same
    exact ⟨_,same.symm⟩
  · rintro ⟨s,rfl⟩
    rw [decodeLossy_encode]

end StyleTrim.Text
