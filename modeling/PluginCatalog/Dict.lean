/-!
# Dictionaries with text keys

A dictionary keeps its entries in strictly increasing key order, so the entries are the value: two
dictionaries that answer every lookup alike are equal (`Dict.ext_get?`). `get?` is the view through
which each operation is described; the lemmas below say what `insert`, `erase`, `filter`, `map`,
`filterMap` and `overlay` do to it.
-/

namespace PluginCatalog

/-- Finitely many entries with distinct text keys, in key order. Keys are ordered by code point. -/
structure Dict (α : Type) where
  /-- The entries, by increasing key. -/
  toList : List (String × α)
  /-- Keys increase strictly, so none occurs twice. -/
  sorted : toList.Pairwise fun a b => a.1 < b.1
  deriving DecidableEq

namespace Dict

variable {α β : Type}

/-- The dictionary without entries. -/
def empty : Dict α := ⟨[], .nil⟩

instance : Inhabited (Dict α) := ⟨empty⟩

/-- The value of the first entry with a key. -/
def lookup (key : String) : List (String × α) → Option α
  | [] => none
  | (k, v) :: rest => if key = k then some v else lookup key rest

/-- The value stored under a key. -/
def get? (d : Dict α) (key : String) : Option α := lookup key d.toList

/-- Whether a key is present. -/
def contains (d : Dict α) (key : String) : Bool := (d.get? key).isSome

/-- The keys in order. -/
def keys (d : Dict α) : List String := d.toList.map (·.1)

/-- The values in key order. -/
def values (d : Dict α) : List α := d.toList.map (·.2)

/-- The number of entries. -/
def size (d : Dict α) : Nat := d.toList.length

/-- Whether there are no entries. -/
def isEmpty (d : Dict α) : Bool := d.toList.isEmpty

/-! ## Looking up in a sorted list -/

/-- Two texts of which neither comes first are the same. -/
theorem eq_of_not_lt {a b : String} (hab : ¬a < b) (hba : ¬b < a) : a = b :=
  String.le_antisymm (String.not_lt.1 hba) (String.not_lt.1 hab)

/-- A text that comes before another differs from it. -/
theorem ne_of_lt {a b : String} (h : a < b) : a ≠ b := by
  rintro rfl
  exact String.lt_irrefl _ h

/-- A key below all keys of a list is not found in it. -/
theorem lookup_eq_none_of_lt {l : List (String × α)} {k : String} (h : ∀ e ∈ l, k < e.1) :
    lookup k l = none := by
  induction l with
  | nil => rfl
  | cons e l ih =>
    have hne : k ≠ e.1 := ne_of_lt (h e (by simp))
    simp [lookup, hne, ih fun e he => h e (by simp [he])]

/-- In a list with strictly increasing keys a lookup finds exactly the entries. -/
theorem lookup_eq_some_iff {l : List (String × α)} (h : l.Pairwise fun a b => a.1 < b.1)
    {k : String} {v : α} : lookup k l = some v ↔ (k, v) ∈ l := by
  induction l with
  | nil => simp [lookup]
  | cons e l ih =>
    obtain ⟨k', v'⟩ := e
    rw [List.pairwise_cons] at h
    by_cases hk : k = k'
    · subst hk
      have : (k, v) ∉ l := fun hm => String.lt_irrefl _ (h.1 (k, v) hm)
      simp [lookup, this, eq_comm]
    · simp [lookup, hk, ih h.2]

/-- A lookup in one list after another. -/
theorem lookup_append (k : String) (l₁ l₂ : List (String × α)) :
    lookup k (l₁ ++ l₂) = (lookup k l₁).or (lookup k l₂) := by
  induction l₁ with
  | nil => simp [lookup]
  | cons e l ih => by_cases h : k = e.1 <;> simp [lookup, h, ih]

/-- A value is changed where it is found. -/
theorem lookup_map_value (f : α → β) (l : List (String × α)) (k : String) :
    lookup k (l.map fun e => (e.1, f e.2)) = (lookup k l).map f := by
  induction l with
  | nil => rfl
  | cons e l ih =>
    rw [List.map_cons, lookup, lookup, ih]
    split <;> rfl

/-- An entry is what the lookup of its key finds. -/
theorem get?_eq_some_iff {d : Dict α} {k : String} {v : α} :
    d.get? k = some v ↔ (k, v) ∈ d.toList := lookup_eq_some_iff d.sorted

/-- Lists with strictly increasing keys that have the same members are the same. -/
theorem eq_of_mem_iff {l₁ l₂ : List (String × α)} (h₁ : l₁.Pairwise fun a b => a.1 < b.1)
    (h₂ : l₂.Pairwise fun a b => a.1 < b.1) (h : ∀ e, e ∈ l₁ ↔ e ∈ l₂) : l₁ = l₂ := by
  induction l₁ generalizing l₂ with
  | nil => cases l₂ with
    | nil => rfl
    | cons e _ => exact absurd ((h e).2 (by simp)) (by simp)
  | cons e₁ t₁ ih =>
    cases l₂ with
    | nil => exact absurd ((h e₁).1 (by simp)) (by simp)
    | cons e₂ t₂ =>
      rw [List.pairwise_cons] at h₁ h₂
      have heq : e₁ = e₂ := by
        rcases List.mem_cons.1 ((h e₁).1 (by simp)) with he | he
        · exact he
        · rcases List.mem_cons.1 ((h e₂).2 (by simp)) with he' | he'
          · exact he'.symm
          · exact absurd (String.lt_trans (h₁.1 _ he') (h₂.1 _ he)) (String.lt_irrefl _)
      subst heq
      rw [ih h₁.2 h₂.2 fun e => ?_]
      constructor
      · intro he
        rcases List.mem_cons.1 ((h e).1 (by simp [he])) with rfl | h'
        · exact absurd (h₁.1 _ he) (String.lt_irrefl _)
        · exact h'
      · intro he
        rcases List.mem_cons.1 ((h e).2 (by simp [he])) with rfl | h'
        · exact absurd (h₂.1 _ he) (String.lt_irrefl _)
        · exact h'

/-- A dictionary is determined by its lookups. -/
theorem ext_get? {d₁ d₂ : Dict α} (h : ∀ k, d₁.get? k = d₂.get? k) : d₁ = d₂ := by
  have : d₁.toList = d₂.toList := by
    refine eq_of_mem_iff d₁.sorted d₂.sorted fun e => ?_
    obtain ⟨k, v⟩ := e
    rw [← get?_eq_some_iff, ← get?_eq_some_iff, h k]
  obtain ⟨l₁, s₁⟩ := d₁
  obtain ⟨l₂, s₂⟩ := d₂
  subst this
  rfl

@[simp] theorem get?_empty (k : String) : (empty : Dict α).get? k = none := rfl

/-! ## Adding and removing entries -/

/-- Puts an entry at its place, in the place of one with the same key. -/
def insertEntry (key : String) (value : α) : List (String × α) → List (String × α)
  | [] => [(key, value)]
  | (k, v) :: rest =>
    if key < k then (key, value) :: (k, v) :: rest
    else if k < key then (k, v) :: insertEntry key value rest
    else (key, value) :: rest

/-- An entry of the result is the new one or was there before. -/
theorem mem_of_mem_insertEntry {key : String} {value : α} {l : List (String × α)}
    {e : String × α} (h : e ∈ insertEntry key value l) : e = (key, value) ∨ e ∈ l := by
  induction l with
  | nil => simpa [insertEntry] using h
  | cons e' l ih =>
    obtain ⟨k, v⟩ := e'
    simp only [insertEntry] at h
    split at h
    · simpa using h
    · split at h
      · rcases List.mem_cons.1 h with rfl | h
        · simp
        · rcases ih h with h | h <;> simp [h]
      · rcases List.mem_cons.1 h with rfl | h <;> simp [*]

/-- Putting an entry at its place keeps the keys increasing. -/
theorem pairwise_insertEntry (key : String) (value : α) {l : List (String × α)}
    (h : l.Pairwise fun a b => a.1 < b.1) :
    (insertEntry key value l).Pairwise fun a b => a.1 < b.1 := by
  induction l with
  | nil => simp [insertEntry]
  | cons e l ih =>
    obtain ⟨k, v⟩ := e
    rw [List.pairwise_cons] at h
    simp only [insertEntry]
    split
    · rename_i hlt
      refine List.pairwise_cons.2 ⟨fun e he => ?_, List.pairwise_cons.2 h⟩
      rcases List.mem_cons.1 he with rfl | he
      · exact hlt
      · exact String.lt_trans hlt (h.1 _ he)
    · split
      · rename_i hlt
        refine List.pairwise_cons.2 ⟨fun e he => ?_, ih h.2⟩
        rcases mem_of_mem_insertEntry he with rfl | he
        · exact hlt
        · exact h.1 _ he
      · rename_i h₁ h₂
        cases eq_of_not_lt h₁ h₂
        exact List.pairwise_cons.2 ⟨h.1, h.2⟩

/-- Stores a value under a key, over the one stored there before. -/
def insert (d : Dict α) (key : String) (value : α) : Dict α :=
  ⟨insertEntry key value d.toList, pairwise_insertEntry key value d.sorted⟩

/-- What a lookup finds after putting an entry at its place. -/
theorem lookup_insertEntry (key : String) (value : α) (l : List (String × α)) (k : String) :
    lookup k (insertEntry key value l) = if k = key then some value else lookup k l := by
  induction l with
  | nil => simp [insertEntry, lookup]
  | cons e l ih =>
    obtain ⟨k', v'⟩ := e
    simp only [insertEntry]
    split
    · simp [lookup]
    · split
      · rename_i hlt
        have hne : k' ≠ key := ne_of_lt hlt
        by_cases h : k = k'
        · subst h; simp [lookup, hne]
        · simp [lookup, h, ih]
      · rename_i h₁ h₂
        cases eq_of_not_lt h₁ h₂
        by_cases h : k = key <;> simp [lookup, h]

@[simp] theorem get?_insert (d : Dict α) (key : String) (value : α) (k : String) :
    (d.insert key value).get? k = if k = key then some value else d.get? k :=
  lookup_insertEntry key value d.toList k

/-- The entries that satisfy a test. -/
def filter (d : Dict α) (p : String → α → Bool) : Dict α :=
  ⟨d.toList.filter fun e => p e.1 e.2, d.sorted.filter _⟩

theorem get?_filter (d : Dict α) (p : String → α → Bool) (k : String) :
    (d.filter p).get? k = (d.get? k).filter (p k) := by
  ext v
  rw [get?_eq_some_iff]
  simp [filter, Option.filter_eq_some_iff, get?_eq_some_iff]

/-- Removes a key. -/
def erase (d : Dict α) (key : String) : Dict α := d.filter fun k _ => k ≠ key

@[simp] theorem get?_erase (d : Dict α) (key k : String) :
    (d.erase key).get? k = if k = key then none else d.get? k := by
  rw [erase, get?_filter]
  by_cases h : k = key <;> cases d.get? k <;> simp [h]

/-- Replaces each value by what its entry gives, dropping entries that give nothing. -/
def filterMap (d : Dict α) (f : String → α → Option β) : Dict β :=
  ⟨d.toList.filterMap fun e => (f e.1 e.2).map (e.1, ·), by
    refine List.Pairwise.filterMap _ (fun a b hab c hc c' hc' => ?_) d.sorted
    obtain ⟨v, -, rfl⟩ := Option.map_eq_some_iff.1 hc
    obtain ⟨v', -, rfl⟩ := Option.map_eq_some_iff.1 hc'
    exact hab⟩

theorem get?_filterMap (d : Dict α) (f : String → α → Option β) (k : String) :
    (d.filterMap f).get? k = (d.get? k).bind (f k) := by
  ext v
  rw [get?_eq_some_iff]
  simp only [filterMap, List.mem_filterMap, Option.map_eq_some_iff, Option.bind_eq_some_iff]
  constructor
  · rintro ⟨⟨k', a⟩, hm, b, hb, he⟩
    cases he
    exact ⟨a, get?_eq_some_iff.2 hm, hb⟩
  · rintro ⟨a, ha, hv⟩
    exact ⟨(k, a), get?_eq_some_iff.1 ha, v, hv, rfl⟩

/-- Replaces each value by what its entry gives. -/
def map (d : Dict α) (f : String → α → β) : Dict β :=
  d.filterMap fun k v => some (f k v)

theorem get?_map (d : Dict α) (f : String → α → β) (k : String) :
    (d.map f).get? k = (d.get? k).map (f k) := by
  rw [map, get?_filterMap]
  cases d.get? k <;> rfl

/-- The entries of a dictionary whose values were replaced. -/
theorem toList_map (d : Dict α) (f : String → α → β) :
    (d.map f).toList = d.toList.map fun e => (e.1, f e.1 e.2) :=
  congrFun List.filterMap_eq_map' d.toList

/-- Collects entries; of several with one key the last is kept. -/
def ofList (entries : List (String × α)) : Dict α :=
  entries.foldl (fun d e => d.insert e.1 e.2) empty

/-- The entries of both, those of `top` where both have a key. -/
def overlay (base top : Dict α) : Dict α :=
  top.toList.foldl (fun d e => d.insert e.1 e.2) base

/-- Inserting entries one after another leaves the last one of each key. -/
theorem get?_foldl_insert (l : List (String × α)) (d : Dict α) (k : String) :
    (l.foldl (fun d e => d.insert e.1 e.2) d).get? k = (lookup k l.reverse).or (d.get? k) := by
  induction l generalizing d with
  | nil => simp [lookup]
  | cons e l ih =>
    rw [List.foldl_cons, ih, get?_insert, List.reverse_cons, lookup_append, Option.or_assoc]
    congr 1
    by_cases h : k = e.1 <;> simp [lookup, h]

theorem get?_ofList (l : List (String × α)) (k : String) :
    (ofList l).get? k = lookup k l.reverse := by
  simp [ofList, get?_foldl_insert]

/-- Strictly increasing keys are all different, so the order of a list does not matter to it. -/
theorem lookup_reverse {l : List (String × α)} (h : l.Pairwise fun a b => a.1 < b.1) (k : String) :
    lookup k l.reverse = lookup k l := by
  induction l with
  | nil => rfl
  | cons e l ih =>
    rw [List.pairwise_cons] at h
    rw [List.reverse_cons, lookup_append, ih h.2]
    by_cases hk : k = e.1
    · subst hk
      simp [lookup, lookup_eq_none_of_lt h.1]
    · simp [lookup, hk]

@[simp] theorem get?_overlay (base top : Dict α) (k : String) :
    (base.overlay top).get? k = (top.get? k).or (base.get? k) := by
  rw [overlay, get?_foldl_insert, lookup_reverse top.sorted]
  rfl

/-- What a lookup finds is an entry. -/
theorem mem_of_lookup {l : List (String × α)} {k : String} {v : α} (h : lookup k l = some v) :
    (k, v) ∈ l := by
  induction l with
  | nil => cases h
  | cons e l ih =>
    rw [lookup] at h
    split at h
    · rename_i hk
      cases h
      rw [hk]
      exact List.mem_cons_self
    · exact List.mem_cons_of_mem e (ih h)

/-- If entries with one key have one value, a lookup finds exactly the entries. -/
theorem lookup_eq_some_iff_of_unique {l : List (String × α)}
    (h : ∀ k v v', (k, v) ∈ l → (k, v') ∈ l → v = v') {k : String} {v : α} :
    lookup k l = some v ↔ (k, v) ∈ l := by
  refine ⟨mem_of_lookup, fun hm => ?_⟩
  cases hl : lookup k l with
  | some v' => rw [h k v v' hm (mem_of_lookup hl)]
  | none =>
    have hnone : ∀ e ∈ l, k ≠ e.1 := by
      clear hm h
      induction l with
      | nil => simp
      | cons e l ih =>
        rw [lookup] at hl
        split at hl
        · cases hl
        · rename_i hk
          exact List.forall_mem_cons.2 ⟨hk, ih hl⟩
    exact absurd rfl (hnone _ hm)

/-- Of entries of which those with one key have one value, all are collected. -/
theorem get?_ofList_of_unique {l : List (String × α)}
    (h : ∀ k v v', (k, v) ∈ l → (k, v') ∈ l → v = v') {k : String} {v : α} :
    (ofList l).get? k = some v ↔ (k, v) ∈ l := by
  rw [get?_ofList, lookup_eq_some_iff_of_unique, List.mem_reverse]
  simpa using h

/-- A dictionary is collected from its entries. -/
@[simp] theorem ofList_toList (d : Dict α) : ofList d.toList = d := by
  refine ext_get? fun k => ?_
  rw [get?_ofList, lookup_reverse d.sorted, get?]

/-- A key is present exactly if it has a value. -/
theorem contains_eq_true_iff {d : Dict α} {k : String} :
    d.contains k = true ↔ ∃ v, d.get? k = some v :=
  Option.isSome_iff_exists

/-- A key is missing exactly if it has no value. -/
theorem contains_eq_false_iff {d : Dict α} {k : String} :
    d.contains k = false ↔ d.get? k = none := by
  rw [contains, Option.isSome_eq_false_iff, Option.isNone_iff_eq_none]

/-- A dictionary with an entry is not empty. -/
theorem isEmpty_eq_false {d : Dict α} {k : String} {v : α} (h : d.get? k = some v) :
    d.isEmpty = false := by
  have hm := get?_eq_some_iff.1 h
  rw [isEmpty, List.isEmpty_eq_false_iff]
  exact List.ne_nil_of_mem hm

/-- A dictionary without entries is the empty one. -/
theorem eq_empty {d : Dict α} (h : d.isEmpty = true) : d = empty := by
  obtain ⟨l, sorted⟩ := d
  cases List.isEmpty_iff.1 h
  rfl

end Dict

end PluginCatalog
