import PluginCatalog.Catalog
import PluginCatalog.Proofs.Constraint.Composition
import PluginCatalog.Proofs.Text.Trimming

/-!
# Combining constraints

Applying a constraint that is put together from accepted ones is an operation on what they keep:
under `AND` they are applied one after another, in any order; under `OR` a record is kept if one of
them keeps it; under `NOT` the records that are dropped are kept (`apply_combination`). A comparison
of values of different kinds counts as one that does not hold, in whatever it stands.
-/

namespace PluginCatalog.Constraint

/-! ## Applying a text -/

/-- A text that asks for nothing has no lexeme. -/
theorem scans_of_isBlank {text : String} (h : isBlank text = true) : Scans text.toList [] := by
  have hall : ∀ c ∈ text.toList, Text.isBlank c = true :=
    Text.isBlank_of_trim_eq_nil (by simpa [isBlank] using h)
  generalize text.toList = s at hall
  induction s with
  | nil => exact .nil
  | cons c s ih =>
    rw [Scans.blank_iff (hall c List.mem_cons_self)]
    exact ih fun d hd => hall d (List.mem_cons_of_mem c hd)

/-- A text that is accepted asks for something. -/
theorem isBlank_of_parse {text : String} {c : Constraint} (h : parse text = .ok c) :
    isBlank text = false := by
  rw [← Bool.not_eq_true]
  intro hblank
  obtain ⟨d, hscans, -⟩ := parseExpr_eq_ok_iff_scans.1 (parse_eq_ok_iff.1 h).1
  exact d.lexemes_ne_nil (hscans.unique (scans_of_isBlank hblank))

/-- Whether a text is accepted and satisfied by a record. -/
def keeps (text locale : String) (r : Record) : Bool :=
  match parse text with
  | .ok c => c.isSatisfied (r.lookup locale)
  | .error _ => false

/-- An accepted text is satisfied as its expression. -/
theorem keeps_of_parseExpr {text : String} {e : Expr} (h : parseExpr text = .ok e) (locale : String)
    (r : Record) : keeps text locale r = (e.evaluate (r.lookup locale)).isHolds := by
  rw [keeps, parse, h]
  rfl

/-- A text that asks for something leaves the records that satisfy it. -/
theorem apply_of_isBlank {text : String} (h : isBlank text = false) (locale : String)
    (records : List Record) : apply text locale records = records.filter (keeps text locale) := by
  rw [apply, if_neg (by simp [h])]
  unfold keeps
  cases parse text with
  | ok c => rfl
  | error e => simp

/-- An accepted text leaves the records that satisfy it. -/
theorem apply_of_parse {text : String} (h : ∃ c, parse text = .ok c) (locale : String)
    (records : List Record) : apply text locale records = records.filter (keeps text locale) := by
  obtain ⟨c, hc⟩ := h
  exact apply_of_isBlank (isBlank_of_parse hc) locale records

/-- Accepted texts that are applied one after another leave the records that satisfy all of them. -/
theorem foldl_apply {texts : List String} (h : ∀ t ∈ texts, ∃ c, parse t = .ok c) (locale : String)
    (records : List Record) :
    texts.foldl (fun rs t => apply t locale rs) records
      = records.filter fun r => texts.all fun t => keeps t locale r := by
  induction texts generalizing records with
  | nil => exact (List.filter_eq_self.2 fun _ _ => rfl).symm
  | cons t texts ih =>
    rw [List.foldl_cons, ih (fun u hu => h u (List.mem_cons_of_mem t hu)),
      apply_of_parse (h t List.mem_cons_self), List.filter_filter]
    refine List.filter_congr fun r _ => ?_
    rw [List.all_cons, Bool.and_comm]

/-! ## What a combination keeps -/

namespace Expr

/-- Whether a comparison is true; of values that do not compare it is not. -/
def isTrue : Except TypeMismatch Bool → Bool
  | .ok b => b
  | .error _ => false

mutual

/-- Whether an expression is true, read in two values: a comparison or membership of values of
different kinds is false wherever it stands, and so is a value that is no truth value. -/
def truth (lookup : String → Value) : Expr → Bool
  | logical .and es => allTrue lookup es
  | logical .or es => anyTrue lookup es
  | logical .not [] => true
  | logical .not (e :: _) => !truth lookup e
  | presence key => !(lookup key).isAbsent
  | comparison op l r => isTrue <|
      compareOperands op (operand lookup l (.ofBool (truth lookup l)))
        (operand lookup r (.ofBool (truth lookup r)))
  | membership v l => isTrue <|
      member (operand lookup v (.ofBool (truth lookup v)))
        (operand lookup l (.ofBool (truth lookup l)))
  | literal l => l.value = .bool true
  | property key => lookup key = .bool true
  | list _ => false

/-- Whether all of some expressions are true. -/
def allTrue (lookup : String → Value) : List Expr → Bool
  | [] => true
  | e :: es => truth lookup e && allTrue lookup es

/-- Whether one of some expressions is true. -/
def anyTrue (lookup : String → Value) : List Expr → Bool
  | [] => false
  | e :: es => truth lookup e || anyTrue lookup es

end

variable (lookup : String → Value)

/-- All operands hold if each does. -/
theorem allHold_eq (es : List Expr) :
    allHold lookup es = es.all fun e => (e.evaluate lookup).isHolds := by
  induction es with
  | nil => rfl
  | cons e es ih => rw [allHold, ih, List.all_cons]

/-- One of the operands holds if some does. -/
theorem anyHolds_eq (es : List Expr) :
    anyHolds lookup es = es.any fun e => (e.evaluate lookup).isHolds := by
  induction es with
  | nil => rfl
  | cons e es ih => rw [anyHolds, ih, List.any_cons]

/-- The outcome of a test holds if the test is passed. -/
theorem isHolds_ofBool (b : Bool) : (Outcome.ofBool b).isHolds = b := by
  cases b <;> rfl

/-- The outcome of a comparison holds if it is true. -/
theorem isHolds_ofComparison (b : Except TypeMismatch Bool) :
    (Outcome.ofComparison b).isHolds = isTrue b := by
  cases b with
  | ok b => exact isHolds_ofBool b
  | error _ => rfl

/-- An operand depends on an outcome only by whether it holds. -/
theorem operand_congr (e : Expr) {o o' : Outcome} (h : o.isHolds = o'.isHolds) :
    operand lookup e o = operand lookup e o' := by
  unfold operand
  rw [h]

mutual

/-- An expression holds if it is true, read in two values. -/
theorem isHolds_evaluate (e : Expr) : (e.evaluate lookup).isHolds = e.truth lookup := by
  have hoperand (e : Expr) (ih : (e.evaluate lookup).isHolds = e.truth lookup) :
      operand lookup e (e.evaluate lookup) = operand lookup e (.ofBool (e.truth lookup)) :=
    operand_congr lookup e (by rw [ih, isHolds_ofBool])
  match e with
  | logical .and es => rw [evaluate, truth, isHolds_ofBool, allHold_eq_allTrue es]
  | logical .or es => rw [evaluate, truth, isHolds_ofBool, anyHolds_eq_anyTrue es]
  | logical .not [] => rw [evaluate, truth]; rfl
  | logical .not (e :: _) => rw [evaluate, truth, isHolds_ofBool, isHolds_evaluate e]
  | presence key => rw [evaluate, truth, isHolds_ofBool]
  | comparison op l r =>
    rw [evaluate, truth, isHolds_ofComparison, hoperand l (isHolds_evaluate l),
      hoperand r (isHolds_evaluate r)]
  | membership v l =>
    rw [evaluate, truth, isHolds_ofComparison, hoperand v (isHolds_evaluate v),
      hoperand l (isHolds_evaluate l)]
  | literal (.bool b) => cases b <;> simp [evaluate, truth, isHolds_ofBool, Literal.value]
  | literal (.string s) => simp [evaluate, truth, Outcome.isHolds, Literal.value]
  | literal (.number x) => simp [evaluate, truth, Outcome.isHolds, Literal.value]
  | property key =>
    rw [evaluate, truth]
    cases lookup key with
    | bool b => cases b <;> rfl
    | absent => rfl
    | number x => rfl
    | text s => rfl
    | list items => rfl
  | list _ => rw [evaluate, truth]; rfl

/-- All of some expressions hold if all are true. -/
theorem allHold_eq_allTrue (es : List Expr) : allHold lookup es = allTrue lookup es := by
  match es with
  | [] => rfl
  | e :: es => rw [allHold, allTrue, isHolds_evaluate e, allHold_eq_allTrue es]

/-- One of some expressions holds if one is true. -/
theorem anyHolds_eq_anyTrue (es : List Expr) : anyHolds lookup es = anyTrue lookup es := by
  match es with
  | [] => rfl
  | e :: es => rw [anyHolds, anyTrue, isHolds_evaluate e, anyHolds_eq_anyTrue es]

end

/-- A chain of `AND` holds if all its operands do. -/
theorem isHolds_chain_and (es : List Expr) :
    ((chain .and es).evaluate lookup).isHolds = es.all fun e => (e.evaluate lookup).isHolds := by
  match es with
  | [e] => simp [chain]
  | [] => rfl
  | e :: e' :: es => rw [chain, evaluate, isHolds_ofBool, allHold_eq]; simp

/-- A chain of `OR` holds if one of its operands does. -/
theorem isHolds_chain_or (es : List Expr) :
    ((chain .or es).evaluate lookup).isHolds = es.any fun e => (e.evaluate lookup).isHolds := by
  match es with
  | [e] => simp [chain]
  | [] => rfl
  | e :: e' :: es => rw [chain, evaluate, isHolds_ofBool, anyHolds_eq]; simp

end Expr

/-- Accepted texts are read as some expressions. -/
theorem exists_root {texts : List String} (h : ∀ t ∈ texts, ∃ c, parse t = .ok c) :
    ∃ root : String → Expr, ∀ t ∈ texts, parseExpr t = .ok (root t) := by
  have hexprs : ∀ t ∈ texts, ∃ e, parseExpr t = .ok e := by
    intro t ht
    obtain ⟨c, hc⟩ := h t ht
    exact ⟨c.root, (parse_eq_ok_iff.1 hc).1⟩
  choose! root hroot using hexprs
  exact ⟨root, hroot⟩

/-- Accepted texts under `AND` or `OR` are accepted. -/
theorem exists_parse_combined (op : Connective) (hop : op ≠ .not) {texts : List String}
    (hne : texts ≠ []) (h : ∀ t ∈ texts, ∃ c, parse t = .ok c) :
    ∃ c, parse (combined op texts) = .ok c := by
  obtain ⟨root, hroot⟩ := exists_root h
  exact ⟨⟨_, _⟩, parse_eq_ok_iff.2 ⟨parseExpr_combined op hop hne root hroot, rfl⟩⟩

/-- An accepted text after `NOT` is accepted. -/
theorem exists_parse_complement {text : String} (h : ∃ c, parse text = .ok c) :
    ∃ c, parse (complement text) = .ok c := by
  obtain ⟨c, hc⟩ := h
  exact ⟨⟨_, _⟩, parse_eq_ok_iff.2 ⟨parseExpr_complement (parse_eq_ok_iff.1 hc).1, rfl⟩⟩

/-- A record satisfies accepted texts under `AND` if it satisfies all of them. -/
theorem keeps_combined_and {texts : List String} (hne : texts ≠ [])
    (h : ∀ t ∈ texts, ∃ c, parse t = .ok c) (locale : String) (r : Record) :
    keeps (combined .and texts) locale r = texts.all fun t => keeps t locale r := by
  obtain ⟨root, hroot⟩ := exists_root h
  have hcombined := parseExpr_combined .and (by decide) hne root hroot
  -- The chain is of the texts' expressions, each of which holds as its text is kept.
  rw [keeps_of_parseExpr hcombined, Expr.isHolds_chain_and, List.all_map, Bool.eq_iff_iff,
    List.all_eq_true, List.all_eq_true]
  exact forall₂_congr fun t ht => by rw [keeps_of_parseExpr (hroot t ht), Function.comp]

/-- A record satisfies accepted texts under `OR` if it satisfies one of them. -/
theorem keeps_combined_or {texts : List String} (hne : texts ≠ [])
    (h : ∀ t ∈ texts, ∃ c, parse t = .ok c) (locale : String) (r : Record) :
    keeps (combined .or texts) locale r = texts.any fun t => keeps t locale r := by
  obtain ⟨root, hroot⟩ := exists_root h
  have hcombined := parseExpr_combined .or (by decide) hne root hroot
  rw [keeps_of_parseExpr hcombined, Expr.isHolds_chain_or, List.any_map, Bool.eq_iff_iff,
    List.any_eq_true, List.any_eq_true]
  exact exists_congr fun t => and_congr_right fun ht => by
    rw [keeps_of_parseExpr (hroot t ht), Function.comp]

/-- A record satisfies an accepted text after `NOT` if it does not satisfy the text. -/
theorem keeps_complement {text : String} (h : ∃ c, parse text = .ok c) (locale : String)
    (r : Record) : keeps (complement text) locale r = !keeps text locale r := by
  obtain ⟨c, hc⟩ := h
  have hroot := (parse_eq_ok_iff.1 hc).1
  rw [keeps_of_parseExpr (parseExpr_complement hroot), keeps_of_parseExpr hroot, Expr.evaluate,
    Expr.isHolds_ofBool]

/-! ## Applying a combination -/

/-- Accepted texts under `AND` are applied like the texts one after another in any order, under `OR`
they leave what one of them leaves, and one of them after `NOT` leaves what the text itself drops.
Each text leaves the records for which it is true, with comparisons of values of different kinds
false wherever they stand. -/
theorem apply_combination (locale : String) (records : List Record) (texts : List String)
    (hne : texts ≠ []) (h : ∀ t ∈ texts, ∃ c, parse t = .ok c) :
    ((∃ c, parse (combined .and texts) = .ok c) ∧
      ∀ order : List String, order.Perm texts →
        apply (combined .and texts) locale records
          = order.foldl (fun rs t => apply t locale rs) records) ∧
    ((∃ c, parse (combined .or texts) = .ok c) ∧
      apply (combined .or texts) locale records
        = records.filter fun r => texts.any fun t => r ∈ apply t locale records) ∧
    (∀ t ∈ texts, (∃ c, parse (complement t) = .ok c) ∧
      apply (complement t) locale records = records.filter fun r => r ∉ apply t locale records) ∧
    ∀ t ∈ texts, ∀ c, parse t = .ok c → ∀ r ∈ records,
      (r ∈ apply t locale records ↔ c.root.truth (r.lookup locale) = true) ∧
        (c.evaluate (r.lookup locale) = .indeterminate → r ∉ apply t locale records) := by
  have hand := exists_parse_combined .and (by decide) hne h
  have hor := exists_parse_combined .or (by decide) hne h
  have hmem (t : String) (ht : t ∈ texts) (r : Record) (hr : r ∈ records) :
      r ∈ apply t locale records ↔ keeps t locale r = true := by
    rw [apply_of_parse (h t ht), List.mem_filter, and_iff_right hr]
  refine ⟨⟨hand, ?_⟩, ⟨hor, ?_⟩, ?_, ?_⟩
  -- Under `AND`, a record is left by all texts, and being in all of them does not depend on the
  -- order.
  · intro order horder
    rw [foldl_apply (fun t ht => h t (horder.mem_iff.1 ht)), apply_of_parse hand]
    refine List.filter_congr fun r _ => ?_
    rw [keeps_combined_and hne h, Bool.eq_iff_iff, List.all_eq_true, List.all_eq_true]
    exact forall_congr' fun t => by rw [horder.mem_iff]
  -- Under `OR`, a record is left by the texts one of which leaves it.
  · rw [apply_of_parse hor]
    refine List.filter_congr fun r hr => ?_
    rw [keeps_combined_or hne h, Bool.eq_iff_iff, List.any_eq_true, List.any_eq_true]
    exact exists_congr fun t => and_congr_right fun ht => by rw [decide_eq_true_iff, hmem t ht r hr]
  -- After `NOT`, it is left exactly if the text drops it, also for a mismatch.
  · intro t ht
    have hnot := exists_parse_complement (h t ht)
    refine ⟨hnot, ?_⟩
    rw [apply_of_parse hnot]
    refine List.filter_congr fun r hr => ?_
    rw [keeps_complement (h t ht), Bool.eq_iff_iff, decide_eq_true_iff, hmem t ht r hr,
      Bool.not_eq_true', Bool.not_eq_true]
  · intro t ht c hc r hr
    have hkeeps : keeps t locale r = (c.evaluate (r.lookup locale)).isHolds :=
      keeps_of_parseExpr (parse_eq_ok_iff.1 hc).1 locale r
    rw [hmem t ht r hr, hkeeps]
    refine ⟨by rw [evaluate, Expr.isHolds_evaluate], ?_⟩
    intro hmismatch
    rw [hmismatch]
    decide

/-- Two texts under `AND`, one with a mismatch for the record, are applied in the reverse order. -/
theorem apply_combination_reversed :
    let records : List Record :=
      [{ (default : Record) with properties := .ofProperties (.ofList [("a", .bool true)]) }]
    apply (combined .and ["a == 'x'", "EXIST a"]) "de" records
      = apply "a == 'x'" "de" (apply "EXIST a" "de" records) := by
  intro records
  have h : ∀ t ∈ ["a == 'x'", "EXIST a"], ∃ c, parse t = .ok c := by
    have hcomparison : parse "a == 'x'" = .ok
        ⟨"a == 'x'", .comparison .eq (.property "a") (.literal (.string "x"))⟩ := by
      have hscan : Token.scan "a == 'x'".toList = .ok
          [⟨.word "a", ['a'], 0⟩, ⟨.operator .eq, ['=', '='], 2⟩,
           ⟨.string "x", ['\'', 'x', '\''], 5⟩] := by decide +kernel
      rw [parse, parseExpr, hscan]
      rfl
    have hpresence : parse "EXIST a" = .ok ⟨"EXIST a", .presence "a"⟩ := by
      have hscan : Token.scan "EXIST a".toList = .ok
          [⟨.word "EXIST", ['E', 'X', 'I', 'S', 'T'], 0⟩, ⟨.word "a", ['a'], 6⟩] := by decide +kernel
      rw [parse, parseExpr, hscan]
      rfl
    exact List.forall_mem_cons.2 ⟨⟨_, hcomparison⟩, List.forall_mem_singleton.2 ⟨_, hpresence⟩⟩
  exact (apply_combination "de" records ["a == 'x'", "EXIST a"] (List.cons_ne_nil _ _) h).1.2
    ["EXIST a", "a == 'x'"] (.swap _ _ _)

end PluginCatalog.Constraint
