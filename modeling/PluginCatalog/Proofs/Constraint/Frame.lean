import PluginCatalog.Proofs.Property.Agreement

/-!
# What a constraint looks at

An expression looks at no property but those that it names (`Expr.keys`). So its outcome is the same for
lookups that agree on them (`Expr.evaluate_agrees`), and whatever is different elsewhere does not show. In
a property that an expression names it is at least seen whether there is one
(`Expr.evaluate_presence_eq_iff`).
-/

namespace PluginCatalog.Constraint.Expr

mutual

/-- The properties that an expression names, from left to right. -/
def keys : Expr → List String
  | literal _ => []
  | property key => [key]
  | list _ => []
  | comparison _ l r => keys l ++ keys r
  | membership v l => keys v ++ keys l
  | logical _ es => keysAll es
  | presence key => [key]

/-- The properties that some expressions name. -/
def keysAll : List Expr → List String
  | [] => []
  | e :: es => keys e ++ keysAll es

end

variable {lookup lookup' : String → Value}

/-- An operand stands for the same, or for values that agree, if the properties that it names do. -/
theorem operand_agrees (e : Expr) (h : ∀ key ∈ e.keys, (lookup key).Agrees (lookup' key))
    (outcome : Outcome) : (operand lookup e outcome).Agrees (operand lookup' e outcome) := by
  cases e with
  | property key => exact .value (h key List.mem_cons_self)
  | list items => exact .list items
  | _ => exact .value (.of_eq rfl)

mutual

/-- The outcome of an expression is the same for lookups that agree on the properties that it names. -/
theorem evaluate_agrees (e : Expr) (h : ∀ key ∈ e.keys, (lookup key).Agrees (lookup' key)) :
    evaluate lookup e = evaluate lookup' e := by
  match e with
  | literal (.bool b) => simp only [evaluate]
  | literal (.string s) => simp only [evaluate]
  | literal (.number x) => simp only [evaluate]
  | list items => simp only [evaluate]
  | property key => rw [evaluate, evaluate, propertyOutcome_congr (h key List.mem_cons_self)]
  | presence key => rw [evaluate, evaluate, (h key List.mem_cons_self).isAbsent_eq]
  | comparison op l r =>
    obtain ⟨hl, hr⟩ := List.forall_mem_append.1 h
    rw [evaluate, evaluate, evaluate_agrees l hl, evaluate_agrees r hr,
      compareOperands_congr op (operand_agrees l hl _) (operand_agrees r hr _)]
  | membership v l =>
    obtain ⟨hv, hl⟩ := List.forall_mem_append.1 h
    rw [evaluate, evaluate, evaluate_agrees v hv, evaluate_agrees l hl,
      member_congr (operand_agrees v hv _) (operand_agrees l hl _)]
  | logical .and es => rw [evaluate, evaluate, (evaluateAll_agrees es h).1]
  | logical .or es => rw [evaluate, evaluate, (evaluateAll_agrees es h).2]
  | logical .not [] => simp only [evaluate]
  | logical .not (e :: es) =>
    have he := (List.forall_mem_append.1 h).1
    rw [evaluate, evaluate, evaluate_agrees e he]

/-- Whether all or one of some expressions hold is the same for such lookups. -/
theorem evaluateAll_agrees (es : List Expr)
    (h : ∀ key ∈ keysAll es, (lookup key).Agrees (lookup' key)) :
    allHold lookup es = allHold lookup' es ∧ anyHolds lookup es = anyHolds lookup' es := by
  match es with
  | [] => exact ⟨rfl, rfl⟩
  | e :: es =>
    obtain ⟨he, hes⟩ := List.forall_mem_append.1 h
    obtain ⟨hall, hany⟩ := evaluateAll_agrees es hes
    rw [allHold, allHold, anyHolds, anyHolds, evaluate_agrees e he, hall, hany]
    exact ⟨rfl, rfl⟩

end

/-- The outcome of an expression is the same for lookups that give the same on the properties that it
names. -/
theorem evaluate_congr (e : Expr) (h : ∀ key ∈ e.keys, lookup key = lookup' key) :
    evaluate lookup e = evaluate lookup' e :=
  evaluate_agrees e fun key hkey => .of_eq (h key hkey)

/-- The constraint that asks for a property tells apart the lookups that find it and those that do
not. -/
theorem evaluate_presence_eq_iff {key : String} :
    evaluate lookup (presence key) = evaluate lookup' (presence key) ↔
      (lookup key).isAbsent = (lookup' key).isAbsent := by
  rw [evaluate, evaluate]
  cases (lookup key).isAbsent <;> cases (lookup' key).isAbsent <;> decide

end PluginCatalog.Constraint.Expr
