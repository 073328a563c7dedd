import PluginCatalog.Proofs.Constraint.Cutting

/-!
# Where tokens stand

The tokens of a text lie in it one behind the other, each piece at the byte that its token records, and
there are only blanks around them (`Token.spans_of_scanFrom`). The pieces are cut out of the text between
characters, so they stay whole whatever characters the text has. A piece alone has its token and no other
(`Token.scan_piece`), and blanks between two texts keep their tokens apart (`Token.scan_append_gap`).
-/

namespace PluginCatalog.Constraint

namespace Token

/-- The byte behind the piece of a token. -/
def stop (t : Token) : Nat := t.start + Text.byteLength t.piece

/-- A character of two texts lies in the one or in the other. -/
theorem cut_append {s t before after : List Char} {c : Char} (h : s ++ t = before ++ c :: after) :
    (∃ s', s = before ++ c :: s') ∨ ∃ before', before = s ++ before' ∧ t = before' ++ c :: after := by
  rcases List.append_eq_append_iff.1 h with ⟨before', hbefore, ht⟩ | ⟨s', hs, ht⟩
  · exact .inr ⟨before', hbefore, ht⟩
  · cases s' with
    | nil => exact .inr ⟨[], by simp [hs], ht.symm⟩
    | cons d s' =>
      obtain rfl : c = d := (List.cons.inj ht).1
      exact .inl ⟨s', hs⟩

/-- Tokens lie in a text that begins at some byte: each piece stands where its token says, and around the
pieces there are only blanks. -/
inductive Spans : Nat → List Char → List Token → Prop where
  | gap {start : Nat} {gap : List Char} :
      (∀ c ∈ gap, Text.isBlank c = true) → Spans start gap []
  | token {start : Nat} {gap rest : List Char} {t : Token} {tokens : List Token} :
      (∀ c ∈ gap, Text.isBlank c = true) → t.piece ≠ [] → t.start = start + Text.byteLength gap →
      Spans t.stop rest tokens → Spans start (gap ++ t.piece ++ rest) (t :: tokens)

namespace Spans

variable {start : Nat} {s : List Char} {tokens : List Token}

/-- A blank may stand before a text. -/
theorem blank {c : Char} (hc : Text.isBlank c = true) (h : Spans (start + c.utf8Size) s tokens) :
    Spans start (c :: s) tokens := by
  cases h with
  | gap hgap => exact .gap (List.forall_mem_cons.2 ⟨hc, hgap⟩)
  | @token _ gap _ _ _ hgap hne hstart hrest =>
    have hlonger : ∀ d ∈ c :: gap, Text.isBlank d = true := List.forall_mem_cons.2 ⟨hc, hgap⟩
    refine .token hlonger hne ?_ hrest
    rw [hstart, Text.byteLength, Nat.add_assoc]

variable (h : Spans start s tokens)

include h

/-- The piece of a token is a part of the text, and the token records where it begins. -/
theorem exists_split {t : Token} (ht : t ∈ tokens) :
    t.piece ≠ [] ∧ ∃ before after, s = before ++ t.piece ++ after ∧
      t.start = start + Text.byteLength before := by
  induction h with
  | gap _ => cases ht
  | @token start gap rest t' tokens _ hne hstart _ ih =>
    rcases List.mem_cons.1 ht with rfl | ht
    · exact ⟨hne, gap, rest, rfl, hstart⟩
    · obtain ⟨hne', before, after, rfl, hplace⟩ := ih ht
      refine ⟨hne', gap ++ t'.piece ++ before, after, by simp, ?_⟩
      rw [hplace, stop, hstart, Text.byteLength_append, Text.byteLength_append]
      omega

/-- Each token ends before the next one begins. -/
theorem pairwise_stop_le : tokens.Pairwise fun t u => t.stop ≤ u.start := by
  induction h with
  | gap _ => exact .nil
  | token _ _ _ hrest ih =>
    refine .cons (fun u hu => ?_) ih
    obtain ⟨-, before, after, -, hplace⟩ := hrest.exists_split hu
    omega

/-- A character that lies in no piece is a blank. -/
theorem isBlank_outside {before after : List Char} {c : Char} (hs : s = before ++ c :: after)
    (houtside : ∀ t ∈ tokens, start + Text.byteLength before < t.start ∨
      t.stop ≤ start + Text.byteLength before) : Text.isBlank c = true := by
  induction h generalizing before with
  | gap hgap => exact hgap c (by simp [hs])
  | @token start gap rest t tokens hgap _ hstart _ ih =>
    obtain ⟨hfirst, hothers⟩ := List.forall_mem_cons.1 houtside
    rw [List.append_assoc] at hs
    -- The character lies in the gap, in the first piece or behind it.
    rcases cut_append hs with ⟨gap', hgap'⟩ | ⟨before', rfl, hbehind⟩
    · exact hgap c (by simp [hgap'])
    · rcases cut_append hbehind with ⟨piece', hpiece⟩ | ⟨before'', rfl, hrest⟩
      · have hsize := c.utf8Size_pos
        simp only [stop, hstart, hpiece, Text.byteLength_append, Text.byteLength] at hfirst
        omega
      · refine ih hrest ?_
        simpa only [stop, hstart, Text.byteLength_append, Nat.add_assoc] using hothers

end Spans

/-- The tokens of a text lie in it. -/
theorem spans_of_scanFrom {start : Nat} {s : List Char} {tokens : List Token}
    (h : scanFrom start s = .ok tokens) : Spans start s tokens := by
  induction h using scanFrom_induction with
  | nil start => exact .gap (List.forall_mem_nil _)
  | blank hc _ ih => exact ih.blank hc
  | @token start c cs lexeme piece rest tokens _ hread _ ih =>
    obtain ⟨hsplit, hne⟩ := Lexeme.read_split hread
    rw [← hsplit]
    have hnone : ∀ c ∈ ([] : List Char), Text.isBlank c = true := List.forall_mem_nil _
    exact .token (t := ⟨lexeme, piece, start⟩) hnone hne rfl ih

/-- The piece of a token has the token and no other. -/
theorem scan_piece {start : Nat} {s : List Char} {tokens : List Token}
    (h : scanFrom start s = .ok tokens) {t : Token} (ht : t ∈ tokens) :
    scan t.piece = .ok [{ t with start := 0 }] := by
  induction h using scanFrom_induction with
  | nil start => cases ht
  | blank _ _ ih => exact ih ht
  | @token start c cs lexeme piece rest tokens hc hread _ ih =>
    rcases List.mem_cons.1 ht with rfl | ht
    · -- The text is cut off behind the piece.
      have hread : Lexeme.read c cs = .ok (lexeme, piece, [] ++ rest) := hread
      obtain ⟨-, hcut⟩ := scanFrom_cut hc hread 0
      rw [List.append_nil] at hcut
      rw [scan, hcut, scanFrom_nil]
      rfl
    · exact ih ht

/-- Blanks before a text move its tokens. -/
theorem scanFrom_gap {gap : List Char} (h : ∀ c ∈ gap, Text.isBlank c = true) (start : Nat)
    (s : List Char) : scanFrom start (gap ++ s) = scanFrom (start + Text.byteLength gap) s := by
  induction gap generalizing start with
  | nil => rfl
  | cons c gap ih =>
    obtain ⟨hc, hgap⟩ := List.forall_mem_cons.1 h
    rw [List.cons_append, scanFrom_blank hc, ih hgap, Text.byteLength, Nat.add_assoc]

/-- With blanks between them, two texts have the tokens of the one and then those of the other, or the
fault of the other, at the places that these have behind the blanks. -/
theorem scan_append_gap {s gap : List Char} {tokens : List Token} (h : scan s = .ok tokens)
    (hne : gap ≠ []) (hgap : ∀ c ∈ gap, Text.isBlank c = true) (r : List Char) :
    scan (s ++ gap ++ r)
      = match scan r with
        | .ok tokens' => .ok (tokens ++ tokens'.map (shift (Text.byteLength (s ++ gap))))
        | .error (p, fault) => .error (p + Text.byteLength (s ++ gap), fault) := by
  have hends : EndsToken (gap ++ r) := by
    obtain ⟨c, gap', rfl⟩ := List.exists_cons_of_ne_nil hne
    exact endsToken_of_isBlank (hgap c List.mem_cons_self) _
  have hshift := scanFrom_shift (Text.byteLength (s ++ gap)) 0 r
  rw [scan] at h
  rw [Text.byteLength_append, ← Nat.add_assoc] at hshift
  rw [scan, List.append_assoc, scanFrom_append h hends, scanFrom_gap hgap, hshift,
    ← Text.byteLength_append, ← scan]
  cases scan r <;> rfl

/-- What the tokens of a text say of it. The piece of each token is cut out of the text between two
characters, at the byte that the token records, and alone it has this token and no other; the pieces are
in order and do not overlap; what lies in none of them is blank. With blanks behind it the text keeps its
tokens before any other text, whose tokens or fault only move. -/
theorem scan_laws {s : List Char} {tokens : List Token} (h : scan s = .ok tokens) :
    (∀ t ∈ tokens, t.piece ≠ [] ∧
        (∃ before after, s = before ++ t.piece ++ after ∧ t.start = Text.byteLength before) ∧
        scan t.piece = .ok [{ t with start := 0 }]) ∧
      (tokens.Pairwise fun t u => t.stop ≤ u.start) ∧
      (∀ before c after, s = before ++ c :: after →
        (∀ t ∈ tokens, Text.byteLength before < t.start ∨ t.stop ≤ Text.byteLength before) →
        Text.isBlank c = true) ∧
      ∀ gap, gap ≠ [] → (∀ c ∈ gap, Text.isBlank c = true) → ∀ r,
        scan (s ++ gap ++ r)
          = match scan r with
            | .ok tokens' => .ok (tokens ++ tokens'.map (shift (Text.byteLength (s ++ gap))))
            | .error (p, fault) => .error (p + Text.byteLength (s ++ gap), fault) := by
  have hspans : Spans 0 s tokens := spans_of_scanFrom h
  refine ⟨fun t ht => ?_, hspans.pairwise_stop_le, fun before c after hs houtside => ?_,
    fun gap hne hgap r => scan_append_gap h hne hgap r⟩
  · obtain ⟨hne, before, after, hsplit, hstart⟩ := hspans.exists_split ht
    exact ⟨hne, ⟨before, after, hsplit, by rw [hstart, Nat.zero_add]⟩, scan_piece h ht⟩
  · exact hspans.isBlank_outside hs (by simpa only [Nat.zero_add] using houtside)

/-- An operator and a string with a letter of two bytes, and behind a blank a string that is not
closed. -/
theorem scan_laws_accents :
    scan "=='ü'".toList
        = .ok [⟨.operator .eq, ['=', '='], 0⟩, ⟨.string "ü", ['\'', 'ü', '\''], 2⟩] ∧
      scan "'ü'".toList = .ok [⟨.string "ü", ['\'', 'ü', '\''], 0⟩] ∧
      scan "=='ü' b '".toList = .error (9, .unterminatedString) := by
  have h : scan "=='ü'".toList
      = .ok [⟨.operator .eq, ['=', '='], 0⟩, ⟨.string "ü", ['\'', 'ü', '\''], 2⟩] := by decide +kernel
  obtain ⟨hpieces, -, -, happend⟩ := scan_laws h
  have hfault : scan "b '".toList = .error (2, .unterminatedString) := by decide +kernel
  have hspace : ∀ c ∈ [' '], Text.isBlank c = true := List.forall_mem_singleton.2 (by decide)
  have hlater := happend [' '] (List.cons_ne_nil _ _) hspace "b '".toList
  rw [hfault] at hlater
  exact ⟨h, (hpieces _ (List.mem_cons_of_mem _ List.mem_cons_self)).2.2, hlater⟩

end Token

end PluginCatalog.Constraint
