import PluginCatalog.Proofs.Constraint.Scanning

/-!
# Cutting a text between its tokens

A token is read as far as it goes and no further, so reading it again from a text that is cut off
somewhere behind it gives the same token (`Lexeme.read_cut`). A text can therefore be cut where a token
begins, or where its last token has ended, and the part before the cut has exactly the tokens before
it (`Token.exists_cut`). Where a text has no token at some place, the part before that place has
tokens throughout, and what is left cannot be read from its first character on
(`Token.exists_cut_of_error`).
-/

namespace PluginCatalog.Constraint

/-! ## Lexemes of a text that is cut off -/

namespace Lexeme

section Cut

variable {t r : List Char}

/-- A run of characters that lies in a part of the text is the run of that part. -/
theorem takeWhile_cut {p : Char → Bool} (h : (t ++ r).takeWhile p <+: t) :
    t.takeWhile p = (t ++ r).takeWhile p := by
  rw [List.takeWhile_append] at h ⊢
  split
  · rename_i hlen
    -- The run of the part is the whole part, so the longer one has nothing after it.
    rw [if_pos hlen] at h
    have hle := h.length_le
    rw [List.length_append] at hle
    have hnil : r.takeWhile p = [] := List.eq_nil_of_length_eq_zero (by omega)
    rw [hnil, List.append_nil]
    exact (List.takeWhile_prefix p).eq_of_length hlen
  · rfl

/-- What is left behind a run of characters that lies in a part of the text. -/
theorem dropWhile_cut {p : Char → Bool} (h : (t ++ r).takeWhile p <+: t) :
    (t ++ r).dropWhile p = t.dropWhile p ++ r := by
  have hlong := List.takeWhile_append_dropWhile (p := p) (l := t ++ r)
  have hshort := List.takeWhile_append_dropWhile (p := p) (l := t)
  rw [takeWhile_cut h] at hshort
  refine List.append_cancel_left (hlong.trans ?_)
  rw [← List.append_assoc, hshort]

/-- An operator that lies in a part of the text is read from that part. -/
theorem readOperator_cut {c : Char} {piece rest : List Char} {lexeme : Lexeme}
    (h : readOperator c (t ++ r) = .ok (lexeme, piece, rest)) (hpiece : piece <+: c :: t) :
    ∃ rest, readOperator c t = .ok (lexeme, piece, rest) := by
  -- An operator of two characters has its second one at the head of the part.
  have htwo {c d : Char} (hd : [c, d] <+: c :: t) : ∃ t', t = d :: t' := by
    cases t with
    | nil => simp at hd
    | cons e t => exact ⟨t, by simp_all⟩
  unfold readOperator at h
  split at h <;> cases h
  · obtain ⟨t', rfl⟩ := htwo hpiece
    exact ⟨_, rfl⟩
  · obtain ⟨t', rfl⟩ := htwo hpiece
    exact ⟨_, rfl⟩
  · obtain ⟨t', rfl⟩ := htwo hpiece
    exact ⟨_, rfl⟩
  · obtain ⟨t', rfl⟩ := htwo hpiece
    exact ⟨_, rfl⟩
  · rename_i hne
    refine ⟨t, ?_⟩
    unfold readOperator
    split <;> simp_all
  · rename_i hne
    refine ⟨t, ?_⟩
    unfold readOperator
    split <;> simp_all

/-- A string that lies in a part of the text is read from that part. -/
theorem readString_cut {c : Char} {piece rest : List Char} {lexeme : Lexeme}
    (h : readString c (t ++ r) = .ok (lexeme, piece, rest)) (hpiece : piece <+: c :: t) :
    ∃ rest, readString c t = .ok (lexeme, piece, rest) := by
  unfold readString at h ⊢
  dsimp only at h ⊢
  split at h
  · cases h
  · rename_i q rest' hq
    cases h
    have hin : (t ++ r).takeWhile (· ≠ c) ++ [c] <+: t := (List.cons_prefix_cons.1 hpiece).2
    have hrun := (List.prefix_append _ _).trans hin
    rw [takeWhile_cut hrun]
    rw [dropWhile_cut hrun] at hq
    -- The closing quote lies in the part too, so there is something left behind the content.
    cases ht : t.dropWhile (· ≠ c) with
    | nil =>
      have hlen := hin.length_le
      have hsplit := congrArg List.length (List.takeWhile_append_dropWhile (p := (· ≠ c)) (l := t))
      rw [takeWhile_cut hrun, ht] at hsplit
      simp only [List.length_append, List.length_cons, List.length_nil] at hlen hsplit
      omega
    | cons q' rest'' => exact ⟨rest'', rfl⟩

/-- The point of a number with the digits after it. -/
def fraction : List Char → List Char
  | '.' :: s => '.' :: s.takeWhile Char.isDigit
  | _ => []

/-- The tail of a number is its digits with the fraction behind them. -/
theorem numberTail_eq (s : List Char) :
    numberTail s = s.takeWhile Char.isDigit ++ fraction (s.dropWhile Char.isDigit) := by
  unfold numberTail fraction
  dsimp only
  split <;> simp_all

/-- A fraction that lies in a part of the text is the fraction of that part. -/
theorem fraction_cut (h : fraction (t ++ r) <+: t) : fraction t = fraction (t ++ r) := by
  cases t with
  | nil => rw [List.prefix_nil.1 h]; rfl
  | cons d t =>
    by_cases hd : d = '.'
    · subst hd
      rw [List.cons_append, fraction, List.cons_prefix_cons] at h
      rw [List.cons_append, fraction, fraction, takeWhile_cut h.2]
    · have hnone (s : List Char) : fraction (d :: s) = [] := by
        unfold fraction
        split <;> simp_all
      rw [List.cons_append, hnone, hnone]

/-- The tail of a number that lies in a part of the text is the tail in that part. -/
theorem numberTail_cut (h : numberTail (t ++ r) <+: t) : numberTail t = numberTail (t ++ r) := by
  rw [numberTail_eq] at h
  have hwhole := (List.prefix_append _ _).trans h
  have hsplit := List.takeWhile_append_dropWhile (p := Char.isDigit) (l := t)
  rw [takeWhile_cut hwhole] at hsplit
  rw [dropWhile_cut hwhole] at h
  have hfraction : fraction (t.dropWhile Char.isDigit ++ r) <+: t.dropWhile Char.isDigit := by
    refine (List.prefix_append_right_inj ((t ++ r).takeWhile Char.isDigit)).1 ?_
    rw [hsplit]
    exact h
  rw [numberTail_eq, numberTail_eq, dropWhile_cut hwhole, takeWhile_cut hwhole,
    fraction_cut hfraction]

/-- A number that lies in a part of the text is read from that part. -/
theorem readNumber_cut {c : Char} {piece rest : List Char} {lexeme : Lexeme}
    (h : readNumber c (t ++ r) = .ok (lexeme, piece, rest)) (hpiece : piece <+: c :: t) :
    ∃ rest, readNumber c t = .ok (lexeme, piece, rest) := by
  unfold readNumber at h ⊢
  dsimp only at h ⊢
  split at h
  · rename_i x hx
    cases h
    rw [numberTail_cut (List.cons_prefix_cons.1 hpiece).2, hx]
    exact ⟨_, rfl⟩
  · cases h

/-- A word that lies in a part of the text is read from that part. -/
theorem readWord_cut {c : Char} {piece rest : List Char} {lexeme : Lexeme}
    (h : readWord c (t ++ r) = (lexeme, piece, rest)) (hpiece : piece <+: c :: t) :
    ∃ rest, readWord c t = (lexeme, piece, rest) := by
  unfold readWord at h ⊢
  cases h
  rw [takeWhile_cut (List.cons_prefix_cons.1 hpiece).2]
  exact ⟨_, rfl⟩

/-- A lexeme is read from any part of the text in which it lies, and leaves the rest of the part. -/
theorem read_cut {c : Char} {piece rest : List Char} {lexeme : Lexeme}
    (h : read c (t ++ r) = .ok (lexeme, piece, rest ++ r)) : read c t = .ok (lexeme, piece, rest) := by
  have hsplit := (read_split h).1
  rw [← List.append_assoc, ← List.cons_append] at hsplit
  have hpart : piece ++ rest = c :: t := List.append_cancel_right hsplit
  have hpiece : piece <+: c :: t := ⟨rest, hpart⟩
  obtain ⟨rest', hread⟩ : ∃ rest', read c t = .ok (lexeme, piece, rest') := by
    rcases read_cases c with ⟨l, -, hc⟩ | hc | ⟨-, hc⟩ | ⟨-, hc⟩ | ⟨-, hc⟩ | hc <;> rw [hc] at h ⊢
    · injection h with h
      injection h with hl hp
      injection hp with hp
      exact ⟨t, by rw [hl, hp]⟩
    · exact readOperator_cut h hpiece
    · exact readString_cut h hpiece
    · exact readNumber_cut h hpiece
    · obtain ⟨rest', hw⟩ := readWord_cut (Except.ok.inj h) hpiece
      exact ⟨rest', congrArg _ hw⟩
    · cases h
  -- What is left is determined by what has been taken.
  have hrest : piece ++ rest' = piece ++ rest := (read_split hread).1.trans hpart.symm
  rw [hread, List.append_cancel_left hrest]

end Cut

end Lexeme

/-! ## Texts that are cut off -/

namespace Token

/-- The byte at which a token begins, by its number, or the end of the text behind the last one. -/
def place (stop : Nat) (tokens : List Token) (k : Nat) : Nat :=
  (tokens[k]?.map (·.start)).getD stop

/-- A text that begins with a token keeps it as the first one when it is cut off behind it. -/
theorem scanFrom_cut {c : Char} {cs piece before after : List Char} {lexeme : Lexeme}
    (hc : Text.isBlank c = false) (hread : Lexeme.read c cs = .ok (lexeme, piece, before ++ after))
    (start : Nat) :
    piece ++ before ++ after = c :: cs ∧
      scanFrom start (piece ++ before)
        = (scanFrom (start + Text.byteLength piece) before).map (⟨lexeme, piece, start⟩ :: ·) := by
  obtain ⟨hsplit, hne⟩ := Lexeme.read_split hread
  obtain ⟨c', piece', rfl⟩ := List.exists_cons_of_ne_nil hne
  rw [List.cons_append] at hsplit
  obtain ⟨rfl, rfl⟩ := List.cons.inj hsplit
  rw [← List.append_assoc] at hread
  exact ⟨by simp, scanFrom_ok hc (Lexeme.read_cut hread) start⟩

/-- A text can be cut before each of its tokens and at its end: the part before the cut has the
tokens before the cut. -/
theorem exists_cut {start : Nat} {s : List Char} {tokens : List Token}
    (h : scanFrom start s = .ok tokens) {k : Nat} (hk : k ≤ tokens.length) :
    ∃ before after, s = before ++ after ∧
      place (start + Text.byteLength s) tokens k = start + Text.byteLength before ∧
      scanFrom start before = .ok (tokens.take k) := by
  induction h using scanFrom_induction generalizing k with
  | nil start => exact ⟨[], [], rfl, by simp [place], by simp [scanFrom_nil]⟩
  | @blank start c cs tokens hc _ ih =>
    obtain ⟨before, after, rfl, hplace, hscan⟩ := ih hk
    refine ⟨c :: before, after, rfl, ?_, by rw [scanFrom_blank hc, hscan]⟩
    simpa only [Text.byteLength, Nat.add_assoc] using hplace
  | @token start c cs lexeme piece rest tokens hc hread _ ih =>
    cases k with
    | zero => exact ⟨[], c :: cs, rfl, by simp [place, Text.byteLength], by simp [scanFrom_nil]⟩
    | succ k =>
      obtain ⟨before, after, rfl, hplace, hscan⟩ := ih (by simpa using hk)
      obtain ⟨hsplit, hcut⟩ := scanFrom_cut hc hread start
      refine ⟨piece ++ before, after, hsplit.symm, ?_, by rw [hcut, hscan]; rfl⟩
      rw [← hsplit]
      simpa [place, Text.byteLength_append, Nat.add_assoc] using hplace

/-- Where a text has no token, the part before that place has tokens throughout, and what is left
cannot be read from its first character on. -/
theorem exists_cut_of_error {start p : Nat} {s : List Char} {fault : LexicalFault}
    (h : scanFrom start s = .error (p, fault)) :
    ∃ before after tokens, s = before ++ after ∧ p = start + Text.byteLength before ∧
      scanFrom start before = .ok tokens ∧ scan after = .error (0, fault) := by
  induction start, s using scanFrom.induct with
  | case1 start =>
    rw [scanFrom] at h
    cases h
  | case2 start c cs hc ih =>
    rw [scanFrom_blank hc] at h
    obtain ⟨before, after, tokens, rfl, rfl, hscan, herror⟩ := ih h
    refine ⟨c :: before, after, tokens, rfl, ?_, by rw [scanFrom_blank hc, hscan], herror⟩
    rw [Text.byteLength, Nat.add_assoc]
  | case3 start c cs hc fault hread =>
    -- This is the place: what is left begins with what cannot be read.
    have hc : Text.isBlank c = false := by simpa using hc
    rw [scanFrom_error hc hread] at h
    cases h
    exact ⟨[], c :: cs, [], rfl, rfl, by rw [scanFrom], scanFrom_error hc hread 0⟩
  | case4 start c cs hc lexeme piece rest hread e hrest ih =>
    have hc : Text.isBlank c = false := by simpa using hc
    rw [scanFrom_ok hc hread, hrest] at h
    cases h
    obtain ⟨before, after, tokens, rfl, rfl, hscan, herror⟩ := ih hrest
    obtain ⟨hsplit, hcut⟩ := scanFrom_cut hc hread start
    refine ⟨piece ++ before, after, ⟨lexeme, piece, start⟩ :: tokens, hsplit.symm, ?_,
      by rw [hcut, hscan]; rfl, herror⟩
    rw [Text.byteLength_append, Nat.add_assoc]
  | case5 start c cs hc lexeme piece rest hread tokens' hrest ih =>
    rw [scanFrom_ok (by simpa using hc) hread, hrest] at h
    cases h

end Token

end PluginCatalog.Constraint
