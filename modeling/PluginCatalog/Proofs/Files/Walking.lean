import Mathlib.Tactic.SplitIfs
import PluginCatalog.Files.Tree

/-!
# Walking through two trees

A tree extends another if there is something wherever there was, and a directory wherever there was one
(`FileTree.Extends`). Every path that leads somewhere then leads to the same place in it
(`FileTree.Extends.resolve`): writing a file extends a tree, and a tree extends what is left of it when
something is removed.
-/

namespace PluginCatalog.FileTree

/-- A tree has something where the other one has, and directories where it has directories; relative
paths begin at the same place. -/
structure Extends (t' t : FileTree) : Prop where
  /-- A directory stays a directory. -/
  directory {l : Location} (h : t.get? l = some .directory) : t'.get? l = some .directory
  /-- What is there stays there. -/
  isSome {l : Location} (h : (t.get? l).isSome = true) : (t'.get? l).isSome = true
  workingDirectory : t'.workingDirectory = t.workingDirectory

/-- A step after another one succeeds from what the first gives. -/
theorem exists_of_bind_eq_ok {α β : Type} {x : Except FileError α} {f : α → Except FileError β}
    {b : β} (h : x >>= f = .ok b) : ∃ a, x = .ok a ∧ f a = .ok b := by
  cases x with
  | error e => cases h
  | ok a => exact ⟨a, rfl, h⟩

variable {t t' : FileTree}

/-- A path leads where its components lead, one after another. -/
theorem resolve_of_componentsOf {path : String} {components : List (List Char)}
    (h : componentsOf path = .ok components) :
    t.resolve path = components.foldlM t.walk (t.startOf path) := by
  rw [resolve, h]
  rfl

/-- A path leads to a directory exactly if it leads somewhere where a directory is. -/
theorem isDirectory_iff {path : String} :
    t.isDirectory path = true ↔ ∃ a, t.resolve path = .ok a ∧ t.get? a = some .directory := by
  rw [isDirectory, decide_eq_true_eq, node?]
  cases t.resolve path <;> simp

/-- A path to a directory lists the names in it. -/
theorem list_of_resolve {path : String} {a : Location} (h : t.resolve path = .ok a)
    (hdirectory : t.get? a = some .directory) : t.list path = .ok (t.namesIn a) := by
  rw [list, h]
  simp only [bind, Except.bind, hdirectory]

/-- A path leads to a directory exactly if something can be listed there: no directory is closed. -/
theorem isDirectory_iff_exists_list {path : String} :
    t.isDirectory path = true ↔ ∃ names, t.list path = .ok names := by
  rw [isDirectory_iff]
  constructor
  · rintro ⟨a, ha, hdirectory⟩
    exact ⟨_, list_of_resolve ha hdirectory⟩
  · rintro ⟨names, h⟩
    obtain ⟨a, ha, hlist⟩ := exists_of_bind_eq_ok h
    refine ⟨a, ha, ?_⟩
    split at hlist
    · assumption
    · cases hlist
    · cases hlist

/-- What is found at a place after the nodes at some places are left out. -/
theorem find_filter (p : Location → Bool) (l : Location) (nodes : List (Location × FileNode)) :
    find l (nodes.filter fun n => !p n.1) = if p l = true then none else find l nodes := by
  induction nodes with
  | nil => simp [find]
  | cons n nodes ih =>
    obtain ⟨l', n⟩ := n
    by_cases hl : l = l'
    · subst hl
      cases hp : p l with
      | true => simpa [hp] using ih
      | false => simp [hp, find]
    · cases hp : p l' with
      | true => simp [hp, hl, ih, find]
      | false => simp [hp, hl, ih, find]

/-- What there is at a place after the things at some places were removed. -/
theorem get?_removeWhere (t : FileTree) (p : Location → Bool) (l : Location) :
    (t.removeWhere p).get? l
      = if l = [] then some .directory else if p l = true then none else t.get? l := by
  unfold get? removeWhere
  dsimp only
  split_ifs with hroot hp
  · rfl
  · rw [find_filter, if_pos hp]
  · rw [find_filter, if_neg hp]

/-- A tree extends what is left when the things at some places are removed. -/
theorem extends_removeWhere (t : FileTree) (p : Location → Bool) : t.Extends (t.removeWhere p) := by
  have hkeep {l : Location} {n : FileNode} (h : (t.removeWhere p).get? l = some n) :
      t.get? l = some n := by
    rw [get?_removeWhere] at h
    split_ifs at h with hroot hp
    · rw [get?, if_pos hroot, h]
    · exact h
  refine ⟨hkeep, fun {l} h => ?_, rfl⟩
  obtain ⟨n, hn⟩ := Option.isSome_iff_exists.1 h
  rw [hkeep hn]
  rfl

namespace Extends

variable (h : t'.Extends t) {a b : Location}

include h

/-- A component leads to the same place. -/
theorem walk {component : List Char} (hwalk : t.walk a component = .ok b) :
    t'.walk a component = .ok b := by
  unfold FileTree.walk at hwalk ⊢
  split at hwalk
  · rename_i hdirectory
    rw [h.directory hdirectory]
    dsimp only at hwalk ⊢
    split_ifs at hwalk with hstay hup hlength hsome
    · rw [if_pos hstay, hwalk]
    · rw [if_neg hstay, if_pos hup, hwalk]
    · rw [if_neg hstay, if_neg hup, if_neg hlength, if_pos (h.isSome hsome), hwalk]
  · cases hwalk
  · cases hwalk

/-- Components lead to the same place. -/
theorem foldlM_walk {components : List (List Char)} (hwalk : components.foldlM t.walk a = .ok b) :
    components.foldlM t'.walk a = .ok b := by
  induction components generalizing a with
  | nil => exact hwalk
  | cons c components ih =>
    rw [List.foldlM_cons] at hwalk ⊢
    obtain ⟨next, hstep, hrest⟩ := exists_of_bind_eq_ok hwalk
    rw [h.walk hstep]
    exact ih hrest

/-- A path leads to the same place. -/
theorem resolve {path : String} (hresolve : t.resolve path = .ok a) : t'.resolve path = .ok a := by
  have hstart : t'.startOf path = t.startOf path := by rw [startOf, startOf, h.workingDirectory]
  obtain ⟨components, hcomponents, hwalk⟩ := exists_of_bind_eq_ok hresolve
  rw [resolve_of_componentsOf hcomponents, hstart]
  exact h.foldlM_walk hwalk

/-- A path that leads to a directory still does. -/
theorem isDirectory {path : String} (hdir : t.isDirectory path = true) :
    t'.isDirectory path = true := by
  obtain ⟨l, hresolve, hl⟩ := isDirectory_iff.1 hdir
  exact isDirectory_iff.2 ⟨l, h.resolve hresolve, h.directory hl⟩

end Extends

end PluginCatalog.FileTree
