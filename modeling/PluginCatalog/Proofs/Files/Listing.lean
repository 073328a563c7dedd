import Mathlib.Data.List.Nodup
import Mathlib.Tactic.SplitIfs
import PluginCatalog.Proofs.Files.Paths

/-!
# What a directory lists

A directory lists each thing in it once (`FileTree.mem_namesIn`, `FileTree.nodup_namesIn`), and the path
below the directory with such a name leads to the thing, unless it is too long for a path
(`FileTree.node?_join`). What is in a tree does not depend on the order in which the tree lists it
(`FileTree.get?_of_perm`).
-/

namespace PluginCatalog

/-- A name that something on a disk can have: without NUL, and not too long. -/
structure Path.IsStorable (name : String) : Prop extends Path.IsName name where
  nul : '\x00' ∉ name.toList
  length_le : Text.byteLength name.toList ≤ FileTree.maxNameBytes

instance (name : String) : Decidable (Path.IsStorable name) :=
  decidable_of_iff
    (Path.IsName name ∧ '\x00' ∉ name.toList ∧
      Text.byteLength name.toList ≤ FileTree.maxNameBytes)
    ⟨fun ⟨h, hnul, hlength⟩ => ⟨h, hnul, hlength⟩, fun h => ⟨h.toIsName, h.nul, h.length_le⟩⟩

namespace FileTree

variable {t t' : FileTree} {l a : Location} {base name : String}

/-- Everything in a tree has names that things on a disk can have. -/
def IsStored (t : FileTree) : Prop := ∀ n ∈ t.nodes, ∀ name ∈ n.1, Path.IsStorable name

instance (t : FileTree) : Decidable t.IsStored :=
  inferInstanceAs (Decidable (∀ n ∈ t.nodes, ∀ name ∈ n.1, Path.IsStorable name))

/-! ## What there is at a place -/

/-- Of the nodes at different places the one at a place is found. -/
theorem find_eq_some_iff {nodes : List (Location × FileNode)} (h : (nodes.map (·.1)).Nodup)
    {n : FileNode} : find l nodes = some n ↔ (l, n) ∈ nodes := by
  induction nodes with
  | nil => simp [find]
  | cons m nodes ih =>
    obtain ⟨l', m⟩ := m
    rw [List.map_cons, List.nodup_cons] at h
    by_cases hl : l = l'
    · subst hl
      have hno : (l, n) ∉ nodes := fun hmem =>
        h.1 (List.mem_map.2 ⟨(l, n), hmem, rfl⟩)
      simp [find, hno, eq_comm]
    · simp [find, hl, ih h.2]

/-- Below the root there is what the tree lists. -/
theorem get?_eq_some_iff (hl : l ≠ []) {n : FileNode} : t.get? l = some n ↔ (l, n) ∈ t.nodes := by
  rw [get?, if_neg hl, find_eq_some_iff t.nodup]

/-- What there is at a place does not depend on the order in which a tree lists it. -/
theorem get?_of_perm (h : t'.nodes.Perm t.nodes) (l : Location) : t'.get? l = t.get? l := by
  by_cases hl : l = []
  · rw [get?, get?, if_pos hl, if_pos hl]
  · refine Option.ext fun n => ?_
    rw [get?_eq_some_iff hl, get?_eq_some_iff hl, h.mem_iff]

/-- Nor does where a path leads. -/
theorem resolve_of_perm (h : t'.nodes.Perm t.nodes) (hwd : t'.workingDirectory = t.workingDirectory)
    (path : String) : t'.resolve path = t.resolve path := by
  have hwalk : t'.walk = t.walk := by
    funext l component
    simp only [walk, get?_of_perm h]
  have hstart : t'.startOf path = t.startOf path := by rw [startOf, startOf, hwd]
  rw [resolve, resolve, hwalk, hstart]

/-! ## What is in a directory -/

/-- A directory lists the names of the things in it. -/
theorem mem_namesIn : name ∈ t.namesIn a ↔ ∃ n, t.get? (a ++ [name]) = some n := by
  have hne : a ++ [name] ≠ [] := by simp
  simp only [get?_eq_some_iff hne, namesIn, List.mem_filterMap]
  constructor
  · rintro ⟨⟨l, n⟩, hn, hlast⟩
    split_ifs at hlast with hparent
    obtain ⟨above, rfl⟩ := List.getLast?_eq_some_iff.1 hlast
    rw [List.dropLast_concat] at hparent
    subst hparent
    exact ⟨n, hn⟩
  · rintro ⟨n, hn⟩
    exact ⟨(a ++ [name], n), hn, by simp⟩

/-- A directory lists each thing in it once. -/
theorem nodup_namesIn (t : FileTree) (a : Location) : (t.namesIn a).Nodup := by
  have hplaces : t.namesIn a
      = (t.nodes.map (·.1)).filterMap fun l => if l.dropLast = a then l.getLast? else none := by
    rw [List.filterMap_map]
    rfl
  rw [hplaces]
  refine t.nodup.filterMap fun l l' name hl hl' => ?_
  -- The directory and the name make up the place.
  have hplace {l : Location} (h : name ∈ if l.dropLast = a then l.getLast? else none) :
      l = a ++ [name] := by
    split_ifs at h with hparent
    · obtain ⟨above, rfl⟩ := List.getLast?_eq_some_iff.1 h
      rw [List.dropLast_concat] at hparent
      rw [hparent]
    · cases h
  rw [hplace hl, hplace hl']

/-- What is in a directory of a tree on a disk has a name of the kind. -/
theorem IsStored.isStorable (h : t.IsStored) {n : FileNode} (hn : t.get? (a ++ [name]) = some n) :
    Path.IsStorable name :=
  h (a ++ [name], n) ((get?_eq_some_iff (by simp)).1 hn) name (by simp)

section

variable (h : t.resolve base = .ok a) (hname : Path.IsStorable name)

include h hname

/-- A path below one that leads somewhere has components that can lead somewhere, unless it is too
long. -/
theorem componentsOf_join :
    componentsOf (Path.join base name)
      = if maxPathBytes < Text.byteLength (Path.join base name).toList then .error .nameTooLong
        else .ok (Text.splitBy (· = '/') (Path.join base name).toList) := by
  obtain ⟨above, hjoin, habove⟩ :=
    Path.exists_toList_join (toList_ne_nil_of_resolve h) hname.toIsName
  have hnul : '\x00' ∉ (Path.join base name).toList := by
    rw [hjoin, List.mem_append, List.mem_cons, not_or, not_or]
    refine ⟨fun hmem => nul_notMem_of_resolve h ?_, by decide, hname.nul⟩
    rcases habove with habove | habove <;> simp [habove, hmem]
  have hempty : (Path.join base name).isEmpty = false := by
    rw [Bool.eq_false_iff, ne_eq, String.isEmpty_iff]
    intro he
    rw [he] at hjoin
    simp at hjoin
  rw [componentsOf, if_neg hnul, hempty, if_neg Bool.false_ne_true]

/-- The path below a directory with the name of a thing leads to it, unless it is too long. -/
theorem node?_join (hdirectory : t.get? a = some .directory) :
    t.node? (Path.join base name)
      = if maxPathBytes < Text.byteLength (Path.join base name).toList then none
        else t.get? (a ++ [name]) := by
  have hstay : ¬(name.toList = [] ∨ name.toList = ['.']) :=
    not_or.2 ⟨hname.nonempty, hname.ne_stay⟩
  have hwalk : t.walk a name.toList
      = if (t.get? (a ++ [name])).isSome then .ok (a ++ [name]) else .error .notFound := by
    unfold walk
    rw [hdirectory]
    dsimp only
    rw [if_neg hstay, if_neg hname.ne_up, if_neg (Nat.not_lt.2 hname.length_le), String.ofList_toList]
  have hresolve := resolve_join h hname.toIsName
  rw [componentsOf_join h hname] at hresolve
  by_cases hlong : maxPathBytes < Text.byteLength (Path.join base name).toList
  · rw [if_pos hlong] at hresolve ⊢
    rw [node?, hresolve]
    rfl
  · rw [if_neg hlong] at hresolve ⊢
    rw [node?, hresolve.trans hwalk]
    cases hnode : t.get? (a ++ [name]) with
    | none => rfl
    | some n => exact hnode

end

end FileTree

end PluginCatalog
