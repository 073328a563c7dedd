import PluginCatalog.Text.Utf8

/-!
# Bytes that were written as text

The bytes of a text are decoded as the text (`Utf8.text?_encode`): the form of each character says how
many bytes it has, and is the shortest for its code (`Utf8.decode_append`). Conversely, what is decoded
is written with the bytes that it came from (`Utf8.encode_decode`). So the text at the front of some
bytes begins with a text exactly if the bytes begin with those of the text
(`Utf8.leadingText_encode_append`, `Utf8.eq_encode_append_of_leadingText`).
-/

namespace PluginCatalog.Utf8

/-- The number of a byte below 256 is the one that it was made of. -/
theorem toNat_ofNat_of_lt {n : Nat} (h : n < 256) : (UInt8.ofNat n).toNat = n := by
  rw [UInt8.toNat_ofNat']
  exact Nat.mod_eq_of_lt h

/-- The code of a character is that of the character, in every form that is not too long for it. -/
theorem char?_toNat {c : Char} {least : Nat} (h : least ≤ c.toNat) :
    char? least c.toNat = some c := by
  rw [char?, if_pos ⟨h, c.valid⟩, Char.ofNat_toNat]

/-- A byte with six bits of a code continues a character. -/
theorem isContinuation_of_lt {n : Nat} (h : n < 64) : isContinuation (.ofNat (n + 128)) = true := by
  rw [isContinuation, toNat_ofNat_of_lt (by omega)]
  simp
  omega

/-- There are no codes beyond the last one. -/
theorem toNat_lt (c : Char) : c.toNat < 0x110000 := by
  rcases c.valid with h | h
  · exact Nat.lt_trans h (by decide)
  · exact h.2

/-- The bytes of a character are decoded as the character. -/
theorem decode_append (c : Char) (rest : List UInt8) :
    decode (String.utf8EncodeChar c ++ rest) = push c (decode rest) := by
  have hmax := toNat_lt c
  have hbits (n : Nat) : isContinuation (.ofNat (n % 64 + 128)) = true :=
    isContinuation_of_lt (Nat.mod_lt n (by decide))
  have hlow (n : Nat) : (UInt8.ofNat (n % 64 + 128)).toNat = n % 64 + 128 :=
    toNat_ofNat_of_lt (by omega)
  unfold String.utf8EncodeChar
  rw [show c.val.toNat = c.toNat from rfl]
  dsimp only
  -- One case for each length; the first byte shows the length, and the bits make up the code.
  split
  · have hbyte : (UInt8.ofNat c.toNat).toNat = c.toNat := toNat_ofNat_of_lt (by omega)
    rw [List.cons_append, List.nil_append, decode.eq_def]
    dsimp only
    rw [hbyte, if_pos (by omega), Char.ofNat_toNat]
  split
  · have hfirst : (UInt8.ofNat (c.toNat / 64 % 32 + 192)).toNat = c.toNat / 64 + 192 := by
      rw [toNat_ofNat_of_lt (by omega)]
      omega
    have hcode : (c.toNat / 64 + 192 - 0xC0) * 64 + (c.toNat % 64 + 128 - 0x80) = c.toNat := by omega
    have hchar : char? 0x80 c.toNat = some c := char?_toNat (by omega)
    simp only [List.cons_append, List.nil_append, decode, hfirst, char₂?, hbits, hlow, hcode, hchar,
      if_true]
    rw [if_neg (by omega), if_neg (by omega), if_pos (by omega)]
  split
  · have hfirst : (UInt8.ofNat (c.toNat / 4096 % 16 + 224)).toNat = c.toNat / 4096 + 224 := by
      rw [toNat_ofNat_of_lt (by omega)]
      omega
    have hcode : ((c.toNat / 4096 + 224 - 0xE0) * 64 + (c.toNat / 64 % 64 + 128 - 0x80)) * 64
        + (c.toNat % 64 + 128 - 0x80) = c.toNat := by omega
    have hchar : char? 0x800 c.toNat = some c := char?_toNat (by omega)
    simp only [List.cons_append, List.nil_append, decode, hfirst, char₃?, hbits, hlow, hcode, hchar,
      Bool.and_self, if_true]
    rw [if_neg (by omega), if_neg (by omega), if_neg (by omega), if_pos (by omega)]
  · have hfirst : (UInt8.ofNat (c.toNat / 262144 % 8 + 240)).toNat = c.toNat / 262144 + 240 := by
      rw [toNat_ofNat_of_lt (by omega)]
      omega
    have hcode : (((c.toNat / 262144 + 240 - 0xF0) * 64 + (c.toNat / 4096 % 64 + 128 - 0x80)) * 64
        + (c.toNat / 64 % 64 + 128 - 0x80)) * 64 + (c.toNat % 64 + 128 - 0x80) = c.toNat := by omega
    have hchar : char? 0x10000 c.toNat = some c := char?_toNat (by omega)
    simp only [List.cons_append, List.nil_append, decode, hfirst, char₄?, hbits, hlow, hcode, hchar,
      Bool.and_self, if_true]
    rw [if_neg (by omega), if_neg (by omega), if_neg (by omega), if_neg (by omega),
      if_pos (by omega)]

/-- The bytes of a text are decoded as the text, and those that follow as they are alone. -/
theorem decode_encode_append (s : List Char) (rest : List UInt8) :
    decode (encode s ++ rest) = (s ++ (decode rest).1, (decode rest).2) := by
  induction s with
  | nil => rfl
  | cons c s ih =>
    rw [encode, List.flatMap_cons, List.append_assoc, decode_append]
    exact congrArg (push c) ih

/-- The bytes of a text are decoded as the text. -/
theorem decode_encode (s : List Char) : decode (encode s) = (s, []) := by
  have hread := decode_encode_append s []
  rw [List.append_nil] at hread
  rw [hread, decode, List.append_nil]

/-- The bytes of a text are the text. -/
theorem text?_encode (s : List Char) : text? (encode s) = some s := by
  rw [text?, decode_encode]

/-! ## Bytes that are decoded -/

/-- The code of a character is the one that it was made of, and needs its form. -/
theorem toNat_of_char? {least code : Nat} {c : Char} (h : char? least code = some c) :
    c.toNat = code ∧ least ≤ code := by
  unfold char? at h
  split at h
  · rename_i hcode
    cases h
    rw [Char.ofNat, dif_pos hcode.2]
    exact ⟨rfl, hcode.1⟩
  · cases h

/-- A byte that continues a character holds six bits. -/
theorem isContinuation_iff {b : UInt8} :
    isContinuation b = true ↔ 0x80 ≤ b.toNat ∧ b.toNat < 0xC0 := by
  simp [isContinuation]

/-- A byte is made of its number. -/
theorem ofNat_eq {n : Nat} {b : UInt8} (h : n = b.toNat) : UInt8.ofNat n = b := by
  rw [h, UInt8.ofNat_toNat]

/-- The character in one byte has this byte. -/
theorem encodeChar_ofNat {a : UInt8} (ha : a.toNat < 0x80) :
    String.utf8EncodeChar (Char.ofNat a.toNat) = [a] := by
  have hcode : (Char.ofNat a.toNat).toNat = a.toNat := by
    have hvalid : a.toNat.isValidChar := .inl (by omega)
    rw [Char.ofNat, dif_pos hvalid]
    rfl
  unfold String.utf8EncodeChar
  rw [show (Char.ofNat a.toNat).val.toNat = (Char.ofNat a.toNat).toNat from rfl, hcode]
  dsimp only
  rw [if_pos (by omega), ofNat_eq rfl]

/-- The character in two bytes has these bytes. -/
theorem encodeChar_of_char₂? {a b : UInt8} {c : Char} (ha : 0xC0 ≤ a.toNat ∧ a.toNat < 0xE0)
    (h : char₂? a b = some c) : String.utf8EncodeChar c = [a, b] := by
  unfold char₂? at h
  split at h
  · rename_i hb
    rw [isContinuation_iff] at hb
    obtain ⟨hcode, hleast⟩ := toNat_of_char? h
    unfold String.utf8EncodeChar
    rw [show c.val.toNat = c.toNat from rfl, hcode]
    dsimp only
    rw [if_neg (by omega), if_pos (by omega), @ofNat_eq _ a (by omega), @ofNat_eq _ b (by omega)]
  · cases h

/-- The character in three bytes has these bytes. -/
theorem encodeChar_of_char₃? {a b₁ b₂ : UInt8} {c : Char} (ha : 0xE0 ≤ a.toNat ∧ a.toNat < 0xF0)
    (h : char₃? a b₁ b₂ = some c) : String.utf8EncodeChar c = [a, b₁, b₂] := by
  unfold char₃? at h
  split at h
  · rename_i hb
    simp only [Bool.and_eq_true, isContinuation_iff] at hb
    obtain ⟨hcode, hleast⟩ := toNat_of_char? h
    unfold String.utf8EncodeChar
    rw [show c.val.toNat = c.toNat from rfl, hcode]
    dsimp only
    rw [if_neg (by omega), if_neg (by omega), if_pos (by omega), @ofNat_eq _ a (by omega),
      @ofNat_eq _ b₁ (by omega), @ofNat_eq _ b₂ (by omega)]
  · cases h

/-- The character in four bytes has these bytes. -/
theorem encodeChar_of_char₄? {a b₁ b₂ b₃ : UInt8} {c : Char}
    (ha : 0xF0 ≤ a.toNat ∧ a.toNat < 0xF8) (h : char₄? a b₁ b₂ b₃ = some c) :
    String.utf8EncodeChar c = [a, b₁, b₂, b₃] := by
  unfold char₄? at h
  split at h
  · rename_i hb
    simp only [Bool.and_eq_true, isContinuation_iff] at hb
    obtain ⟨hcode, hleast⟩ := toNat_of_char? h
    have hmax := toNat_lt c
    unfold String.utf8EncodeChar
    rw [show c.val.toNat = c.toNat from rfl, hcode]
    dsimp only
    rw [if_neg (by omega), if_neg (by omega), if_neg (by omega), @ofNat_eq _ a (by omega),
      @ofNat_eq _ b₁ (by omega), @ofNat_eq _ b₂ (by omega), @ofNat_eq _ b₃ (by omega)]
  · cases h

/-- The text at the front of some bytes is written with the bytes that it was decoded from. -/
theorem encode_decode (bytes : List UInt8) :
    encode (decode bytes).1 ++ (decode bytes).2 = bytes := by
  -- A character with its bytes stands before the bytes that come after it.
  have hpush {c : Char} {form rest : List UInt8} (hc : String.utf8EncodeChar c = form)
      (ih : encode (decode rest).1 ++ (decode rest).2 = rest) :
      encode (push c (decode rest)).1 ++ (push c (decode rest)).2 = form ++ rest := by
    rw [push, encode, List.flatMap_cons, hc, List.append_assoc, ← encode, ih]
  fun_induction decode bytes
  case case2 a s ha ih => exact hpush (encodeChar_ofNat ha) ih
  case case4 a ha ha₁ ha₂ b t c hc ih => exact hpush (encodeChar_of_char₂? ⟨by omega, ha₂⟩ hc) ih
  case case7 a ha ha₁ ha₂ ha₃ b₁ b₂ t c hc ih =>
    exact hpush (encodeChar_of_char₃? ⟨by omega, ha₃⟩ hc) ih
  case case10 a ha ha₁ ha₂ ha₃ ha₄ b₁ b₂ b₃ t c hc ih =>
    exact hpush (encodeChar_of_char₄? ⟨by omega, ha₄⟩ hc) ih
  -- Where decoding stops, no byte was taken.
  all_goals rfl

/-! ## The text at the front of some bytes -/

/-- The bytes of a text are read as the text, whatever bytes follow. -/
theorem leadingText_encode_append (s : List Char) (rest : List UInt8) :
    leadingText (encode s ++ rest) = s ++ leadingText rest := by
  unfold leadingText
  rw [decode_encode_append]
  generalize decode rest = r
  obtain ⟨t, left⟩ := r
  cases left with
  | nil => rfl
  | cons b left => exact List.append_assoc s t _

/-- What is read up to a character, other than the one for what is no text, stands in the bytes. -/
theorem eq_encode_append_of_leadingText {bytes : List UInt8} {s rest : List Char} {c : Char}
    (h : leadingText bytes = s ++ c :: rest) (hc : c ≠ '\uFFFD') :
    ∃ trailing, bytes = encode (s ++ [c]) ++ trailing := by
  have hbytes := encode_decode bytes
  -- The character is one of those that were decoded, so it comes from bytes, and so do all before it.
  have htext : ∃ t, (decode bytes).1 = (s ++ [c]) ++ t := by
    unfold leadingText at h
    generalize decode bytes = r at h
    obtain ⟨text, left⟩ := r
    cases left with
    | nil => exact ⟨rest, by simpa using h⟩
    | cons b left =>
      rcases List.eq_nil_or_concat rest with rfl | ⟨t, d, rfl⟩
      · exact absurd (List.append_inj_right' h rfl) (by simpa using hc.symm)
      · have hfront : text ++ ['\uFFFD'] = (s ++ c :: t) ++ [d] := by simpa using h
        exact ⟨t, by simpa using List.append_inj_left' hfront rfl⟩
  obtain ⟨t, ht⟩ := htext
  refine ⟨encode t ++ (decode bytes).2, ?_⟩
  rw [ht, encode, List.flatMap_append, List.append_assoc] at hbytes
  exact hbytes.symm

end PluginCatalog.Utf8
