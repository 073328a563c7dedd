import Mathlib.Tactic.SplitIfs
import PluginCatalog.Dict
import PluginCatalog.Proofs.Text.Utf8

/-!
# The order of texts by their bytes

Texts are ordered by their characters, and their UTF-8 bytes are in the same order
(`Utf8.encode_lt_encode_iff`). Of two characters, the one with the lower code has the shorter form,
which its first byte shows, or forms of one length in which its bits are lower at the first
difference (`Utf8.encodeChar_append_lt`). Different texts are sorted so that each comes before the next
(`Text.pairwise_map_mergeSort`).
-/

namespace PluginCatalog.Utf8

/-- Bytes are ordered as the numbers that they are made of, up to their eight bits. -/
theorem ofNat_lt_ofNat_iff (m n : Nat) : UInt8.ofNat m < UInt8.ofNat n ↔ m % 256 < n % 256 := by
  rw [UInt8.lt_iff_toNat_lt, UInt8.toNat_ofNat', UInt8.toNat_ofNat']

/-- Bytes are the same if the numbers that they are made of are, up to their eight bits. -/
theorem ofNat_eq_ofNat_iff (m n : Nat) : UInt8.ofNat m = UInt8.ofNat n ↔ m % 256 = n % 256 := by
  rw [← UInt8.toNat_inj, UInt8.toNat_ofNat', UInt8.toNat_ofNat']

/-- The bytes of the character with the lower code come first, whatever follows both. -/
theorem encodeChar_append_lt {c d : Char} (h : c < d) (s t : List UInt8) :
    String.utf8EncodeChar c ++ s < String.utf8EncodeChar d ++ t := by
  have hlt : c.val.toNat < d.val.toNat := h
  have hmax : d.val.toNat < 0x110000 := toNat_lt d
  -- The bits are taken off six at a time, so that each byte is a remainder of one quotient.
  have h4096 (k : Nat) : k / 4096 = k / 64 / 64 := (Nat.div_div_eq_div_mul k 64 64).symm
  have h262144 (k : Nat) : k / 262144 = k / 64 / 64 / 64 := by
    rw [Nat.div_div_eq_div_mul, Nat.div_div_eq_div_mul]
  have hlow (k : Nat) : (k % 64 + 128) % 256 = k % 64 + 128 := by omega
  unfold String.utf8EncodeChar
  generalize c.val.toNat = m at *
  generalize d.val.toNat = n at *
  dsimp only
  -- One case for each two lengths.
  split_ifs <;>
    simp only [List.cons_append, List.nil_append, List.cons_lt_cons_iff, ofNat_lt_ofNat_iff,
      ofNat_eq_ofNat_iff, h4096, h262144, hlow] <;>
    omega

/-- A text that comes first has the bytes that come first. -/
theorem encode_lt_encode {s t : List Char} (h : s < t) : encode s < encode t := by
  induction s generalizing t with
  | nil =>
    cases t with
    | nil => exact absurd h (List.lt_irrefl _)
    | cons d t =>
      obtain ⟨b, bytes, hd⟩ := List.exists_cons_of_ne_nil (String.utf8EncodeChar_ne_nil (c := d))
      rw [encode, encode, List.flatMap_cons, hd]
      exact List.nil_lt_cons b _
  | cons c s ih =>
    cases t with
    | nil => exact absurd h (List.not_lt_nil _)
    | cons d t =>
      rw [encode, encode, List.flatMap_cons, List.flatMap_cons]
      rcases List.cons_lt_cons_iff.1 h with hlt | ⟨rfl, hst⟩
      · exact encodeChar_append_lt hlt _ _
      · exact List.append_left_lt (ih hst)

/-- Different texts have different bytes. -/
theorem encode_injective {s t : List Char} (h : encode s = encode t) : s = t := by
  have hread := congrArg text? h
  rw [text?_encode, text?_encode] at hread
  exact Option.some.inj hread

/-- Texts are ordered as their bytes are. -/
theorem encode_lt_encode_iff {s t : String} : encode s.toList < encode t.toList ↔ s < t := by
  refine ⟨fun h => ?_, fun h => encode_lt_encode (String.lt_iff.1 h)⟩
  by_cases hlt : s < t
  · exact hlt
  -- Otherwise the texts are the same or in the other order, and so are the bytes.
  exfalso
  by_cases hgt : t < s
  · exact List.lt_asymm h (encode_lt_encode (String.lt_iff.1 hgt))
  · obtain rfl := Dict.eq_of_not_lt hlt hgt
    exact List.lt_irrefl _ h

end PluginCatalog.Utf8

/-! ## Sorted texts -/

namespace PluginCatalog.Text

/-- Sorting by different keys gives strictly increasing keys. -/
theorem pairwise_map_mergeSort {α : Type} (key : α → String) {l : List α}
    (h : (l.map key).Nodup) :
    ((l.mergeSort fun a b => key a ≤ key b).map key).Pairwise (· < ·) := by
  have htrans (a b c : α) (hab : decide (key a ≤ key b) = true)
      (hbc : decide (key b ≤ key c) = true) : decide (key a ≤ key c) = true :=
    decide_eq_true (String.le_trans (of_decide_eq_true hab) (of_decide_eq_true hbc))
  have htotal (a b : α) : (decide (key a ≤ key b) || decide (key b ≤ key a)) = true := by
    simpa using String.le_total (key a) (key b)
  have hsorted := List.pairwise_mergeSort htrans htotal l
  have hne := List.pairwise_map.1
    (((List.mergeSort_perm l fun a b => key a ≤ key b).map key).nodup_iff.2 h)
  refine List.pairwise_map.2 (hsorted.imp₂ (fun a b hle hdiff => ?_) hne)
  exact String.not_le.1 fun hge => hdiff (String.le_antisymm (of_decide_eq_true hle) hge)

end PluginCatalog.Text
