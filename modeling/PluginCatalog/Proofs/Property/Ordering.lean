import PluginCatalog.Proofs.Binary64.Order
import PluginCatalog.Proofs.Property.Comparison
import PluginCatalog.Proofs.Text.ByteOrder

/-!
# Laws of comparison

Which operators hold of two values, and which are defined, depends on one of five relations between them
(`Value.Relation`): one is missing, they have an order, they are numbers without one, they are truth
values, or they do not compare. The pairs of kinds are looked at only to find the relation
(`Value.toOption_compare`) and the one of the values exchanged (`Value.relation_swap`). The laws of the
operators are then laws of relations, and those of order come from the order of texts by their bytes and
of numbers by their rank (`Value.compare_laws`).
-/

namespace PluginCatalog

open Constraint (Comparison)

/-- The operator that holds of the sides exchanged. -/
def Constraint.Comparison.mirror : Comparison → Comparison
  | eq => eq
  | ne => ne
  | lt => gt
  | le => ge
  | gt => lt
  | ge => le

/-- An operator and the one that allows equality besides. -/
inductive Constraint.Comparison.OrEqual : Comparison → Comparison → Prop where
  | lt : OrEqual .lt .le
  | gt : OrEqual .gt .ge

/-- The operators of which at most one holds. -/
def Constraint.Comparison.exclusive : List Comparison := [.lt, .eq, .gt]

/-- An operator holds of an order exactly if the mirrored one does of the order exchanged. -/
theorem Constraint.Comparison.holds_mirror (op : Comparison) (o : Ordering) :
    op.mirror.holds o.swap = op.holds o := by
  cases op <;> cases o <;> rfl

/-! ## The order of texts -/

namespace Text

variable {s t : String}

/-- The first text is the lower one in the order of texts. -/
theorem order_eq_lt_iff : order s t = .lt ↔ s < t := by
  unfold order
  split_ifs <;> simp_all

/-- Texts have the same place in the order of texts only if they are the same. -/
theorem order_eq_eq_iff : order s t = .eq ↔ s = t := by
  unfold order
  split_ifs with hlt heq
  · exact iff_of_false (by decide) (Dict.ne_of_lt hlt)
  · exact iff_of_true rfl heq
  · exact iff_of_false (by decide) heq

/-- The second text is the lower one in the order of texts exchanged. -/
theorem order_eq_gt_iff : order s t = .gt ↔ t < s := by
  unfold order
  split_ifs with hlt heq
  · exact iff_of_false (by decide) (String.lt_asymm hlt)
  · subst heq
    exact iff_of_false (by decide) (String.lt_irrefl s)
  · have hgt : t < s := by
      by_contra hnot
      exact heq (Dict.eq_of_not_lt hlt hnot)
    exact iff_of_true rfl hgt

/-- The order of texts exchanged. -/
theorem order_swap (s t : String) : order t s = (order s t).swap := by
  cases h : order s t with
  | lt => exact order_eq_gt_iff.2 (order_eq_lt_iff.1 h)
  | eq => exact order_eq_eq_iff.2 (order_eq_eq_iff.1 h).symm
  | gt => exact order_eq_lt_iff.2 (order_eq_gt_iff.1 h)

end Text

namespace Value

/-- What decides which operators hold of two values. -/
inductive Relation where
  /-- One of the values is absent. -/
  | missing
  /-- The values are two texts, or are compared as numbers with an order. -/
  | ordered (o : Ordering)
  /-- The values are compared as numbers without an order. -/
  | unordered
  /-- The values are truth values. -/
  | flags (equal : Bool)
  /-- The values do not compare. -/
  | mismatched

namespace Relation

/-- Whether an operator holds of values in a relation, if it is defined for them. -/
def answer? (op : Comparison) : Relation → Option Bool
  | missing => some (op = .ne)
  | ordered o => some (op.holds o)
  | unordered => some false
  | flags equal =>
    match op with
    | .eq => some equal
    | .ne => some (!equal)
    | _ => none
  | mismatched => none

/-- The relation of the values exchanged. -/
def swap : Relation → Relation
  | ordered o => ordered o.swap
  | rel => rel

/-- The relation of two numbers. -/
def ofNumbers (x y : Binary64) : Relation :=
  match Binary64.compare? x y with
  | some o => ordered o
  | none => unordered

end Relation

/-- The relation between two values. -/
def relation : Value → Value → Relation
  | absent, _ => .missing
  | _, absent => .missing
  | text s, text t => .ordered (Text.order s t)
  | bool a, bool b => .flags (a = b)
  | v, w =>
    match numbers? v w with
    | some (x, y) => .ofNumbers x y
    | none => .mismatched

/-- Values that are compared as numbers are related as these are. -/
theorem relation_of_numbers? {v w : Value} {x y : Binary64} (h : numbers? v w = some (x, y)) :
    relation v w = .ofNumbers x y := by
  cases v <;> cases w <;> simp only [numbers?, reduceCtorEq] at h <;> simp only [relation, numbers?, h]

/-- The relation of two numbers says which operators hold of them. -/
theorem Relation.answer?_ofNumbers (op : Comparison) (x y : Binary64) :
    (ofNumbers x y).answer? op = some (x.satisfies op y) := by
  unfold ofNumbers Binary64.satisfies
  cases Binary64.compare? x y <;> rfl

/-- Whether an operator holds of two values depends on their relation only. -/
theorem toOption_compare (op : Comparison) (v w : Value) :
    (compare op v w).toOption = (relation v w).answer? op := by
  cases h : numbers? v w with
  | some xy =>
    rw [compare_of_numbers? h, relation_of_numbers? h, Relation.answer?_ofNumbers]
    rfl
  | none =>
    cases v <;> cases w <;> simp only [numbers?, reduceCtorEq, Option.map_eq_none_iff] at h <;>
      simp [compare, relation, numbers?, Relation.answer?, Except.toOption, h]
    cases op <;> rfl

/-- The numbers as which two values are compared, exchanged. -/
theorem numbers?_swap (v w : Value) : numbers? w v = (numbers? v w).map Prod.swap := by
  cases v <;> cases w <;> simp only [numbers?, Option.map_map] <;> rfl

/-- The relation of two numbers, exchanged. -/
theorem Relation.ofNumbers_swap (x y : Binary64) : ofNumbers y x = (ofNumbers x y).swap := by
  unfold ofNumbers
  rw [Binary64.compare?_swap]
  cases Binary64.compare? x y <;> rfl

/-- The relation of two values, exchanged. -/
theorem relation_swap (v w : Value) : relation w v = (relation v w).swap := by
  cases h : numbers? v w with
  | some xy =>
    have hswap : numbers? w v = some (xy.2, xy.1) := by rw [numbers?_swap, h]; rfl
    rw [relation_of_numbers? h, relation_of_numbers? hswap, Relation.ofNumbers_swap]
  | none =>
    have hswap : numbers? w v = none := by rw [numbers?_swap, h]; rfl
    cases v with
    | text s =>
      cases w with
      | text t => exact congrArg Relation.ordered (Text.order_swap s t)
      | _ => simp only [relation, Relation.swap, h, hswap]
    | bool a =>
      cases w with
      | bool b => exact congrArg Relation.flags (decide_eq_decide.2 eq_comm)
      | _ => simp only [relation, Relation.swap, h, hswap]
    | _ => cases w <;> simp only [relation, Relation.swap, h, hswap]

namespace Relation

variable (rel : Relation)

/-- An operator holds of values in a relation exactly if the mirrored one does of the values exchanged. -/
theorem answer?_mirror (op : Comparison) : rel.swap.answer? op.mirror = rel.answer? op := by
  cases rel with
  | ordered o => exact congrArg some (op.holds_mirror o)
  | _ => cases op <;> rfl

/-- An operator that allows equality is defined where the one that does not is, and holds where this one or
`==` does. -/
theorem answer?_orEqual {strict weak : Comparison} (h : strict.OrEqual weak) :
    ((∃ b, rel.answer? weak = some b) ↔ ∃ b, rel.answer? strict = some b) ∧
      ∀ b, rel.answer? strict = some b →
        ∃ e, rel.answer? .eq = some e ∧ rel.answer? weak = some (b || e) := by
  cases rel with
  | ordered o => cases h <;> cases o <;> simp [answer?] <;> decide
  | _ => cases h <;> simp [answer?]

/-- The one of `<`, `==` and `>` that holds, if one does. -/
def decided? : Relation → Option Comparison
  | ordered .lt => some .lt
  | ordered .eq => some .eq
  | ordered .gt => some .gt
  | flags true => some .eq
  | _ => none

/-- Of `<`, `==` and `>` the one that holds is the one that does. -/
theorem answer?_eq_true_iff {op : Comparison} (hop : op ∈ Comparison.exclusive) :
    rel.answer? op = some true ↔ rel.decided? = some op := by
  have hcases : op = .lt ∨ op = .eq ∨ op = .gt := by simpa [Comparison.exclusive] using hop
  rcases hcases with rfl | rfl | rfl <;> cases rel with
  | ordered o => cases o <;> decide
  | flags equal => cases equal <;> decide
  | _ => decide

end Relation

/-! ## The laws -/

variable (v w : Value)

/-- A comparison is defined and true exactly if its operator holds of the relation. -/
theorem compare_eq_ok_iff {op : Comparison} {v w : Value} {b : Bool} :
    compare op v w = .ok b ↔ (relation v w).answer? op = some b := by
  rw [← toOption_compare]
  cases compare op v w <;> simp [Except.toOption]

/-- With the sides exchanged the mirrored operator gives the same, or is not defined either. -/
theorem toOption_compare_mirror (op : Comparison) :
    (compare op.mirror w v).toOption = (compare op v w).toOption := by
  rw [toOption_compare, toOption_compare, relation_swap v w, Relation.answer?_mirror]

/-- An operator that allows equality is defined where the one that does not is, and holds where this one or
`==` does. -/
theorem compare_orEqual {strict weak : Comparison} (h : strict.OrEqual weak) :
    ((∃ b, compare weak v w = .ok b) ↔ ∃ b, compare strict v w = .ok b) ∧
      ∀ b, compare strict v w = .ok b →
        ∃ e, compare .eq v w = .ok e ∧ compare weak v w = .ok (b || e) := by
  simp only [compare_eq_ok_iff]
  exact (relation v w).answer?_orEqual h

/-- At most one of `<`, `==` and `>` holds. -/
theorem eq_of_compare_eq_true {op op' : Comparison} (hop : op ∈ Comparison.exclusive)
    (hop' : op' ∈ Comparison.exclusive) (h : compare op v w = .ok true)
    (h' : compare op' v w = .ok true) : op = op' := by
  have hdecided := ((relation v w).answer?_eq_true_iff hop).1 (compare_eq_ok_iff.1 h)
  have hdecided' := ((relation v w).answer?_eq_true_iff hop').1 (compare_eq_ok_iff.1 h')
  rw [hdecided] at hdecided'
  exact Option.some.inj hdecided'

/-- Of a missing value only `!=` holds. -/
theorem compare_of_missing (h : v = absent ∨ w = absent) (op : Comparison) :
    compare op v w = .ok (op = .ne) := by
  have hrelation : relation v w = .missing := by
    rcases h with rfl | rfl
    · rfl
    · cases v <;> rfl
  rw [compare_eq_ok_iff, hrelation]
  rfl

/-- One number is less than another as numbers are. -/
theorem compare_lt_number (x y : Binary64) :
    compare .lt (number x) (number y) = .ok (x.satisfies .lt y) := rfl

/-- Texts compare as their bytes are ordered. -/
theorem compare_text (s t : String) :
    compare .lt (text s) (text t) = .ok (Utf8.encode s.toList < Utf8.encode t.toList) ∧
      compare .eq (text s) (text t) = .ok (Utf8.encode s.toList = Utf8.encode t.toList) ∧
      compare .gt (text s) (text t) = .ok (Utf8.encode t.toList < Utf8.encode s.toList) := by
  have hbytes : Utf8.encode s.toList = Utf8.encode t.toList ↔ s = t :=
    ⟨fun h => String.toList_injective (Utf8.encode_injective h), fun h => h ▸ rfl⟩
  simp only [compare, Comparison.holds, Text.order_eq_lt_iff, Text.order_eq_eq_iff,
    Text.order_eq_gt_iff, Utf8.encode_lt_encode_iff, hbytes, and_self]

/-- Of two texts exactly one of `<`, `==` and `>` holds. -/
theorem existsUnique_compare_text (s t : String) :
    ∃! op, op ∈ Comparison.exclusive ∧ compare op (text s) (text t) = .ok true := by
  have hholds : ∃ op ∈ Comparison.exclusive, compare op (text s) (text t) = .ok true := by
    simp only [compare_eq_ok_iff, relation, Relation.answer?]
    cases Text.order s t <;> decide
  obtain ⟨op, hop, h⟩ := hholds
  refine ⟨op, ⟨hop, h⟩, fun op' h' => ?_⟩
  exact eq_of_compare_eq_true _ _ h'.1 hop h'.2 h

/-- The laws of comparison. With the sides exchanged the mirrored operator gives the same, or is not
defined either. An operator that allows equality is defined where the one that does not is, and holds
where this one or `==` does. At most one of `<`, `==` and `>` holds. Of a missing value only `!=` holds.
For numbers, and for texts, `<` is transitive, and of two texts exactly one of `<`, `==` and `>` holds, by
the order of their bytes. -/
theorem compare_laws (v w : Value) :
    (∀ op : Comparison, (compare op.mirror w v).toOption = (compare op v w).toOption) ∧
    (∀ strict weak : Comparison, strict.OrEqual weak →
      ((∃ b, compare weak v w = .ok b) ↔ ∃ b, compare strict v w = .ok b) ∧
        ∀ b, compare strict v w = .ok b →
          ∃ e, compare .eq v w = .ok e ∧ compare weak v w = .ok (b || e)) ∧
    (∀ op ∈ Comparison.exclusive, ∀ op' ∈ Comparison.exclusive,
      compare op v w = .ok true → compare op' v w = .ok true → op = op') ∧
    (v = absent ∨ w = absent → ∀ op, compare op v w = .ok (op = .ne)) ∧
    (∀ x y z : Binary64, compare .lt (number x) (number y) = .ok true →
      compare .lt (number y) (number z) = .ok true → compare .lt (number x) (number z) = .ok true) ∧
    (∀ s t u : String, compare .lt (text s) (text t) = .ok true →
      compare .lt (text t) (text u) = .ok true → compare .lt (text s) (text u) = .ok true) ∧
    ∀ s t : String,
      (∃! op, op ∈ Comparison.exclusive ∧ compare op (text s) (text t) = .ok true) ∧
      compare .lt (text s) (text t) = .ok (Utf8.encode s.toList < Utf8.encode t.toList) ∧
      compare .eq (text s) (text t) = .ok (Utf8.encode s.toList = Utf8.encode t.toList) ∧
      compare .gt (text s) (text t) = .ok (Utf8.encode t.toList < Utf8.encode s.toList) := by
  refine ⟨toOption_compare_mirror v w, fun _ _ => compare_orEqual v w,
    fun _ hop _ hop' => eq_of_compare_eq_true v w hop hop', compare_of_missing v w, ?_, ?_, ?_⟩
  · intro x y z hxy hyz
    rw [compare_lt_number, Except.ok.injEq] at hxy hyz ⊢
    exact Binary64.satisfies_lt_trans hxy hyz
  · intro s t u hst htu
    rw [(compare_text _ _).1, Except.ok.injEq, decide_eq_true_iff] at hst htu ⊢
    exact List.lt_trans hst htu
  · exact fun s t => ⟨existsUnique_compare_text s t, compare_text s t⟩

/-- A text with blanks around a number is below a greater number, and nothing else; the text `10` is
below `9`, and so below all that `9` is below. -/
theorem compare_laws_mixed :
    let two : Value := text " 2 "
    let three : Value := number (.ofInt 3)
    compare .lt two three = .ok true ∧
      (∃ e, compare .eq two three = .ok e ∧ compare .le two three = .ok (true || e)) ∧
      (∀ op ∈ Comparison.exclusive, compare op two three = .ok true → op = .lt) ∧
      (∀ op, compare op absent three = .ok (op = .ne)) ∧
      compare .lt (number (.ofInt (-1))) (number (.signed false .infinity)) = .ok true ∧
      compare .lt (text "10") (text "é") = .ok true := by
  intro two three
  have hlt : compare .lt two three = .ok true := by decide +kernel
  obtain ⟨-, horEqual, hone, -, hnumbers, htexts, -⟩ := compare_laws two three
  refine ⟨hlt, (horEqual _ _ .lt).2 true hlt, ?_, ?_, ?_, ?_⟩
  · exact fun op hop h => hone op hop .lt (by decide) h hlt
  · exact (compare_laws absent three).2.2.2.1 (.inl rfl)
  · exact hnumbers _ (.ofInt 3) _ (by decide +kernel) (by decide +kernel)
  · exact htexts _ "9" _ (by decide +kernel) (by decide +kernel)

end Value

end PluginCatalog
