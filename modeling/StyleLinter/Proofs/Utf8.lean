import StyleLinter.Text.Utf8

/-!
# What is written in UTF-8 can be read

`decode_encode`: the bytes of a text decode to the text. The reader is strict, so there is something
to check: the lead byte of a character must announce just the continuation bytes that follow, and
the first of these must lie in the range that excludes overlong forms, surrogates and values that
are too large. Both hold because the number comes from a character, and `next?_encodeChar` collects
the four lengths; everything after that is an induction on the text.

Bytes that were read as a text stay so when the bytes of another text follow (`decode_append`),
since what is read of one character does not depend on what comes after it (`next?_append`).

A file is read in chunks, and a chunk may end inside a character. What is left of it then waits for
the next chunk: it is no fault, as the character was only not finished (`exists_unfinished`). So a
file that holds the bytes of a text **is read as the text, wherever the chunks end**
(`decodeSource_encode`).
-/

namespace StyleLinter.Utf8

/-! ### Single bytes -/

theorem toNat_toUInt8 {n : Nat} (h : n < 256) : n.toUInt8.toNat = n := by
  rw [Nat.toUInt8, UInt8.toNat_ofNat']
  omega

/-- The continuation byte for six bits. -/
theorem toNat_continuation (k : Nat) : (0x80 + k % 64).toUInt8.toNat = 0x80 + k % 64 :=
  toNat_toUInt8 (by omega)

theorem continuation_cons {n low high : Nat} {b : UInt8} (r : Bytes) (hlow : low ≤ b.toNat)
    (hhigh : b.toNat ≤ high) :
    continuation (n + 1) low high (b :: r) = b :: continuation n 0x80 0xbf r := by
  rw [continuation, if_pos ⟨hlow, hhigh⟩]

/-- A continuation byte that need not lie in a range of its own. -/
theorem continuation_cons_mod (n k : Nat) (r : Bytes) :
    continuation (n + 1) 0x80 0xbf ((0x80 + k % 64).toUInt8 :: r)
      = (0x80 + k % 64).toUInt8 :: continuation n 0x80 0xbf r := by
  have h := toNat_continuation k
  exact continuation_cons r (by omega) (by omega)

/-! ### One character -/

/-- A lead byte and the continuation bytes that it announces make up a character. -/
theorem next?_eq_some {b : UInt8} {l : Lead} (tail rest : Bytes) (hlead : lead? b = some l)
    (htail : continuation l.more l.low l.high (tail ++ rest) = tail)
    (hlength : tail.length = l.more) :
    next? (b :: (tail ++ rest)) = some (Char.ofNat (codePoint l.bits tail), rest) := by
  simp only [next?, hlead, htail, hlength, if_true]
  rw [← hlength, List.drop_left]

theorem next?_one {n : Nat} (hn : n < 0x80) (rest : Bytes) :
    next? (n.toUInt8 :: rest) = some (Char.ofNat n, rest) := by
  have hlead : lead? n.toUInt8 = some ⟨0, 0x80, 0xbf, n⟩ := by
    rw [lead?, toNat_toUInt8 (by omega), if_pos hn]
  exact next?_eq_some [] rest hlead rfl rfl

theorem next?_two {n : Nat} (h₁ : 0x80 ≤ n) (h₂ : n < 0x800) (rest : Bytes) :
    next? ([(0xc0 + n / 64).toUInt8, (0x80 + n % 64).toUInt8] ++ rest)
      = some (Char.ofNat n, rest) := by
  have hlead : lead? (0xc0 + n / 64).toUInt8 = some ⟨1, 0x80, 0xbf, n / 64⟩ := by
    simp only [lead?, toNat_toUInt8 (show 0xc0 + n / 64 < 256 by omega)]
    rw [if_neg (by omega), if_neg (by omega), if_pos (by omega)]
    rw [Nat.add_sub_cancel_left]
  have h := next?_eq_some [(0x80 + n % 64).toUInt8] rest hlead (continuation_cons_mod 0 n rest) rfl
  have hn : codePoint (n / 64) [(0x80 + n % 64).toUInt8] = n := by
    simp only [codePoint, List.foldl_cons, List.foldl_nil, toNat_continuation]
    omega
  rwa [hn] at h

theorem next?_three {n : Nat} (h₁ : 0x800 ≤ n) (h₂ : n < 0x10000)
    (hvalid : n < 0xd800 ∨ 0xdfff < n) (rest : Bytes) :
    next? ([(0xe0 + n / 4096).toUInt8, (0x80 + n / 64 % 64).toUInt8, (0x80 + n % 64).toUInt8]
      ++ rest) = some (Char.ofNat n, rest) := by
  have hlead : lead? (0xe0 + n / 4096).toUInt8
      = some ⟨2, if 0xe0 + n / 4096 = 0xe0 then 0xa0 else 0x80,
          if 0xe0 + n / 4096 = 0xed then 0x9f else 0xbf, n / 4096⟩ := by
    simp only [lead?, toNat_toUInt8 (show 0xe0 + n / 4096 < 256 by omega)]
    rw [if_neg (by omega), if_neg (by omega), if_neg (by omega), if_pos (by omega)]
    rw [Nat.add_sub_cancel_left]
  have hfirst := toNat_continuation (n / 64)
  -- the range of the first continuation byte is what keeps overlong forms and surrogates out
  have htail : continuation 2 (if 0xe0 + n / 4096 = 0xe0 then 0xa0 else 0x80)
      (if 0xe0 + n / 4096 = 0xed then 0x9f else 0xbf)
      ([(0x80 + n / 64 % 64).toUInt8, (0x80 + n % 64).toUInt8] ++ rest)
      = [(0x80 + n / 64 % 64).toUInt8, (0x80 + n % 64).toUInt8] := by
    rw [List.cons_append, continuation_cons _ (by split <;> omega) (by split <;> omega)]
    exact congrArg _ (continuation_cons_mod 0 n rest)
  have h := next?_eq_some _ rest hlead htail rfl
  have hn : codePoint (n / 4096) [(0x80 + n / 64 % 64).toUInt8, (0x80 + n % 64).toUInt8] = n := by
    simp only [codePoint, List.foldl_cons, List.foldl_nil, toNat_continuation]
    omega
  rwa [hn] at h

theorem next?_four {n : Nat} (h₁ : 0x10000 ≤ n) (h₂ : n < 0x110000) (rest : Bytes) :
    next? ([(0xf0 + n / 262144).toUInt8, (0x80 + n / 4096 % 64).toUInt8,
      (0x80 + n / 64 % 64).toUInt8, (0x80 + n % 64).toUInt8] ++ rest)
      = some (Char.ofNat n, rest) := by
  have hlead : lead? (0xf0 + n / 262144).toUInt8
      = some ⟨3, if 0xf0 + n / 262144 = 0xf0 then 0x90 else 0x80,
          if 0xf0 + n / 262144 = 0xf4 then 0x8f else 0xbf, n / 262144⟩ := by
    simp only [lead?, toNat_toUInt8 (show 0xf0 + n / 262144 < 256 by omega)]
    rw [if_neg (by omega), if_neg (by omega), if_neg (by omega), if_neg (by omega),
      if_pos (by omega)]
    rw [Nat.add_sub_cancel_left]
  have hfirst := toNat_continuation (n / 4096)
  have htail : continuation 3 (if 0xf0 + n / 262144 = 0xf0 then 0x90 else 0x80)
      (if 0xf0 + n / 262144 = 0xf4 then 0x8f else 0xbf)
      ([(0x80 + n / 4096 % 64).toUInt8, (0x80 + n / 64 % 64).toUInt8, (0x80 + n % 64).toUInt8]
        ++ rest)
      = [(0x80 + n / 4096 % 64).toUInt8, (0x80 + n / 64 % 64).toUInt8,
          (0x80 + n % 64).toUInt8] := by
    rw [List.cons_append, continuation_cons _ (by split <;> omega) (by split <;> omega)]
    refine congrArg _ ((continuation_cons_mod 1 (n / 64) _).trans (congrArg _ ?_))
    exact continuation_cons_mod 0 n rest
  have h := next?_eq_some _ rest hlead htail rfl
  have hn : codePoint (n / 262144) [(0x80 + n / 4096 % 64).toUInt8, (0x80 + n / 64 % 64).toUInt8,
      (0x80 + n % 64).toUInt8] = n := by
    simp only [codePoint, List.foldl_cons, List.foldl_nil, toNat_continuation]
    omega
  rwa [hn] at h

/-- **A character is read back from its bytes**, whatever follows them. -/
theorem next?_encodeChar (c : Char) (rest : Bytes) :
    next? (encodeChar c ++ rest) = some (c, rest) := by
  have hvalid : c.toNat < 0xd800 ∨ 0xdfff < c.toNat ∧ c.toNat < 0x110000 := c.valid
  have hc : Char.ofNat c.toNat = c := Char.ofNat_toNat c
  simp only [encodeChar]
  split
  · next h₁ => exact (next?_one h₁ rest).trans (by rw [hc])
  · split
    · next h₁ h₂ => exact (next?_two (by omega) h₂ rest).trans (by rw [hc])
    · split
      · next h₁ h₂ h₃ =>
        exact (next?_three (by omega) h₃ (by omega) rest).trans (by rw [hc])
      · next h₁ h₂ h₃ => exact (next?_four (by omega) (by omega) rest).trans (by rw [hc])

/-! ### A text -/

theorem scan_of_next? {bs r : Bytes} {c : Char} (h : next? bs = some (c, r)) :
    scan bs = (c :: (scan r).1, (scan r).2) := by
  rw [scan]
  split
  · next h' => exact absurd (h.symm.trans h') (by simp)
  · next c' r' h' =>
    obtain ⟨rfl, rfl⟩ := Prod.mk.inj (Option.some.inj (h.symm.trans h'))
    rfl

theorem scan_nil : scan [] = ([], []) := by
  rw [scan]
  split
  · rfl
  · next h => exact absurd h (by simp [next?])

theorem scan_encode (t : Text) : scan (encode t) = (t, []) := by
  induction t with
  | nil => exact scan_nil
  | cons c t ih =>
    have h : scan (encodeChar c ++ encode t) = _ := scan_of_next? (next?_encodeChar c (encode t))
    rw [ih] at h
    rw [encode, List.flatMap_cons]
    exact h

/-- **The bytes of a text decode to the text.** -/
theorem decode_encode (t : Text) : decode (encode t) = .ok t := by
  rw [decode, scan_encode]
  rfl

/-! ### One text after another -/

/-- Continuation bytes that are all there do not depend on what follows them. -/
theorem continuation_append {n low high : Nat} {bs : Bytes}
    (h : (continuation n low high bs).length = n) (cs : Bytes) :
    continuation n low high (bs ++ cs) = continuation n low high bs := by
  fun_induction continuation n low high bs with
  | case1 => rfl
  | case2 => exact absurd h (by simp)
  | case3 n low high b r hb ih =>
    rw [List.cons_append, continuation_cons _ hb.1 hb.2, ih (by simpa using h)]
  | case4 => exact absurd h (by simp)

theorem length_le_of_continuation {n low high : Nat} {bs : Bytes}
    (h : (continuation n low high bs).length = n) : n ≤ bs.length := by
  fun_induction continuation n low high bs with
  | case1 => omega
  | case2 => exact absurd h (by simp)
  | case3 n low high b r hb ih =>
    have := ih (by simpa using h)
    simpa using this
  | case4 => exact absurd h (by simp)

/-- **A character that was read is read whatever follows.** -/
theorem next?_append {bs r : Bytes} {c : Char} (h : next? bs = some (c, r)) (cs : Bytes) :
    next? (bs ++ cs) = some (c, r ++ cs) := by
  cases bs with
  | nil => cases h
  | cons b bs =>
    simp only [next?] at h
    split at h
    · cases h
    · next l hlead =>
      split at h
      · next hlength =>
        obtain ⟨rfl, rfl⟩ := Prod.mk.inj (Option.some.inj h)
        have hle := length_le_of_continuation hlength
        simp only [List.cons_append, next?, hlead, continuation_append hlength, hlength, if_true,
          List.drop_append_of_le_length hle]
      · cases h

theorem scan_append {bs : Bytes} (h : (scan bs).2 = []) (cs : Bytes) :
    scan (bs ++ cs) = ((scan bs).1 ++ (scan cs).1, (scan cs).2) := by
  fun_induction scan bs with
  | case1 bs hnext =>
    obtain rfl : bs = [] := h
    rfl
  | case2 bs c r hnext t rest hscan ih =>
    rw [hscan] at ih
    rw [scan_of_next? (next?_append hnext cs), ih h]
    rfl

/-- Bytes that are a text are read to their end. -/
theorem decode_eq_ok_iff {bs : Bytes} {t : Text} : decode bs = .ok t ↔ scan bs = (t, []) := by
  unfold decode
  dsimp only
  constructor
  · intro h
    split at h
    · next hfault =>
      refine Prod.ext (Except.ok.inj h) ?_
      -- a rest that is not empty has a fault
      unfold faultAt at hfault
      split at hfault
      · next hrest => exact hrest
      · split at hfault <;> exact absurd hfault nofun
    · exact absurd h nofun
  · intro h
    rw [h]
    rfl

/-- **The bytes of two texts, one after the other**, are the bytes of one text. -/
theorem decode_append {bs cs : Bytes} {t u : Text} (hbs : decode bs = .ok t)
    (hcs : decode cs = .ok u) : decode (bs ++ cs) = .ok (t ++ u) := by
  rw [decode_eq_ok_iff] at hbs hcs ⊢
  rw [scan_append (by rw [hbs]), hbs, hcs]

/-! ### Chunk by chunk -/

/-- The bytes of a text that came so far are characters, and then a beginning of the next one. -/
theorem scan_of_append_eq {bs cs : Bytes} {t : Text} (h : bs ++ cs = encode t) :
    ∃ u, t = (scan bs).1 ++ u ∧ (scan bs).2 ++ cs = encode u ∧ next? (scan bs).2 = none := by
  fun_induction scan bs generalizing t with
  | case1 bs hnext => exact ⟨t, rfl, h, hnext⟩
  | case2 bs c r hnext u rest hscan ih =>
    rw [hscan] at ih
    have hwhole := next?_append hnext cs
    rw [h] at hwhole
    cases t with
    | nil => exact absurd hwhole nofun
    | cons d t =>
      rw [encode, List.flatMap_cons, next?_encodeChar] at hwhole
      obtain ⟨rfl, hr⟩ := Prod.mk.inj (Option.some.inj hwhole)
      obtain ⟨v, rfl, hrest, hnone⟩ := ih hr.symm
      exact ⟨v, rfl, hrest, hnone⟩

/-- Where continuation bytes are missing, more of them follow. -/
theorem length_continuation_of_append {n low high : Nat} {bs cs : Bytes}
    (h : (continuation n low high (bs ++ cs)).length = n)
    (hne : (continuation n low high bs).length ≠ n) :
    (continuation n low high bs).length = bs.length := by
  fun_induction continuation n low high bs with
  | case1 => exact absurd rfl hne
  | case2 => rfl
  | case3 n low high b r hb ih =>
    rw [List.cons_append, continuation_cons _ hb.1 hb.2, List.length_cons, Nat.succ_inj] at h
    rw [List.length_cons, Ne, Nat.succ_inj] at hne
    rw [List.length_cons, List.length_cons, ih h hne]
  | case4 n low high b r hb =>
    rw [List.cons_append, continuation, if_neg hb] at h
    exact absurd h (Nat.succ_ne_zero n).symm

/-- A character that was read has a lead byte and all its continuation bytes. -/
theorem exists_lead_of_next? {b : UInt8} {bs r : Bytes} {c : Char}
    (h : next? (b :: bs) = some (c, r)) :
    ∃ l, lead? b = some l ∧ (continuation l.more l.low l.high bs).length = l.more := by
  simp only [next?] at h
  split at h
  · cases h
  · next l hlead =>
    split at h
    · next hlength => exact ⟨l, hlead, hlength⟩
    · cases h

/-- **What is left of a text that goes on is an unfinished character.** -/
theorem exists_unfinished {bs cs : Bytes} {t : Text} (h : bs ++ cs = encode t)
    (hnone : next? bs = none) (hne : bs ≠ []) (start : Nat) :
    ∃ f, faultAt start bs = some f ∧ f.reason = .unexpectedEnd := by
  obtain ⟨b, r, rfl⟩ := List.exists_cons_of_ne_nil hne
  cases t with
  | nil => exact absurd h (List.cons_ne_nil b (r ++ cs))
  | cons d t =>
    have hwhole : next? (b :: (r ++ cs)) = some (d, encode t) := by
      rw [← List.cons_append, h]
      exact next?_encodeChar d (encode t)
    obtain ⟨l, hlead, hlength⟩ := exists_lead_of_next? hwhole
    have hmissing : (continuation l.more l.low l.high r).length ≠ l.more := by
      intro he
      simp only [next?, hlead, he, if_true] at hnone
      exact absurd hnone (Option.some_ne_none _)
    have hk := length_continuation_of_append hlength hmissing
    rw [faultAt, hlead]
    exact ⟨_, rfl, if_pos hk⟩

/-- **A text in chunks is read to its end**, whatever waits from the chunks before. -/
theorem decodeChunks_of_flatten {pending : Bytes} {chunks : List Bytes} {t : Text}
    (h : pending ++ chunks.flatten = encode t) (hpending : next? pending = none) :
    decodeChunks pending chunks = .ok t := by
  induction chunks generalizing pending t with
  | nil =>
    rw [List.flatten_nil, List.append_nil] at h
    cases t with
    | nil =>
      rw [h]
      rfl
    | cons c t =>
      rw [h, encode, List.flatMap_cons, next?_encodeChar] at hpending
      exact absurd hpending nofun
  | cons chunk rest ih =>
    rw [List.flatten_cons, ← List.append_assoc] at h
    obtain ⟨u, rfl, hrest, hnone⟩ := scan_of_append_eq h
    rw [decodeChunks]
    dsimp only
    generalize scan (pending ++ chunk) = scanned at hrest hnone ⊢
    by_cases hleft : scanned.2 = []
    · rw [hleft] at hrest ⊢
      have hdone : decodeChunks [] rest = .ok u := ih hrest rfl
      rw [faultAt]
      dsimp only
      rw [hdone]
      rfl
    · obtain ⟨f, hf, hreason⟩ := exists_unfinished hrest hnone hleft
        ((pending ++ chunk).length - scanned.2.length)
      rw [hf]
      dsimp only
      rw [if_pos hreason, ih hrest hnone]
      rfl

theorem flatten_chunks {n : Nat} (hn : n ≠ 0) (bs : Bytes) : (chunks n bs).flatten = bs := by
  fun_induction chunks n bs with
  | case1 bs h => exact (h.resolve_left hn).symm
  | case2 bs h ih => rw [List.flatten_cons, ih, List.take_append_drop]

/-- **The bytes of a text are read as the text**, in however many chunks they come. -/
theorem decodeSource_encode (t : Text) : decodeSource (encode t) = .ok t :=
  decodeChunks_of_flatten (flatten_chunks (by decide) _) rfl

end StyleLinter.Utf8
