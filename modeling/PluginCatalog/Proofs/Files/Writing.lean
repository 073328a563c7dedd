import Mathlib.Data.List.Basic
import PluginCatalog.Proofs.Files.Walking

/-!
# Writing a file

A file that is written is read again (`FileTree.read_write`), and every directory stays one under every
path that leads to it (`FileTree.isDirectory_write`): a file takes the place of no directory, and what
was there on the way to something is still there.
-/

namespace PluginCatalog.FileTree

/-- What there is at a place after a node was put somewhere below the root. -/
theorem get?_put (t : FileTree) {l : Location} (hl : l ≠ []) (n : FileNode) (l' : Location) :
    (t.put l n).get? l' = if l' = l then some n else t.get? l' := by
  by_cases hroot : l' = []
  · rw [get?, if_pos hroot, if_neg (hroot ▸ hl.symm), get?, if_pos hroot]
  · have hrest : find l' (t.removeWhere (· = l)).nodes = (t.removeWhere (· = l)).get? l' := by
      rw [get?, if_neg hroot]
    rw [get?, if_neg hroot, put, find, hrest, get?_removeWhere, if_neg hroot]
    by_cases hl' : l' = l
    · rw [if_pos hl', if_pos hl']
    · rw [if_neg hl', if_neg hl', if_neg (by simpa using hl')]

/-- A tree with a file in the place of no directory extends the tree without it. -/
theorem extends_put {t : FileTree} {l : Location} (hl : l ≠ []) (hfree : t.get? l ≠ some .directory)
    (content : List UInt8) : (t.put l (.file content)).Extends t := by
  refine ⟨fun {l'} h => ?_, fun {l'} h => ?_, rfl⟩
  · rw [get?_put t hl, if_neg, h]
    rintro rfl
    exact hfree h
  · rw [get?_put t hl]
    split
    · rfl
    · exact h

/-- The components of a path are at least one. -/
theorem componentsOf_ne_nil {path : String} {components : List (List Char)}
    (h : componentsOf path = .ok components) : components ≠ [] := by
  unfold componentsOf at h
  split_ifs at h
  cases h
  exact Text.splitBy_ne_nil _ _

/-- The place of a file to be written is one of a name in a directory, where there is no directory. -/
theorem exists_of_place {t : FileTree} {path : String} {l : Location} (h : t.place path = .ok l) :
    ∃ above parent name, componentsOf path = .ok (above ++ [name]) ∧
      above.foldlM t.walk (t.startOf path) = .ok parent ∧ t.get? parent = some .directory ∧
      ¬(name = [] ∨ name = ['.']) ∧ name ≠ ['.', '.'] ∧ ¬maxNameBytes < Text.byteLength name ∧
      l = parent ++ [String.ofList name] ∧ t.get? l ≠ some .directory := by
  obtain ⟨components, hcomponents, hplace⟩ := exists_of_bind_eq_ok h
  obtain ⟨parent, hparent, hchild⟩ := exists_of_bind_eq_ok hplace
  obtain ⟨above, name, rfl⟩ :=
    (List.eq_nil_or_concat' components).resolve_left (componentsOf_ne_nil hcomponents)
  rw [List.dropLast_concat] at hparent
  rw [List.getLastD_concat] at hchild
  dsimp only at hchild
  refine ⟨above, parent, name, hcomponents, hparent, ?_⟩
  split at hchild
  · rename_i hdirectory
    split_ifs at hchild with hname hlength hfree
    cases hchild
    rw [not_or, not_or] at hname
    exact ⟨hdirectory, not_or.2 ⟨hname.1, hname.2.1⟩, hname.2.2, hlength, rfl, hfree⟩
  · cases hchild
  · cases hchild

variable {t t' : FileTree} {path : String} {content : List UInt8}

/-- The path at which a file is written leads to it. -/
theorem resolve_of_place {l : Location} (h : t.place path = .ok l) :
    (t.put l (.file content)).resolve path = .ok l := by
  obtain ⟨above, parent, name, hcomponents, hparent, hdirectory, hname, hup, hlength, hl, hfree⟩ :=
    exists_of_place h
  have hne : l ≠ [] := by
    rw [hl]
    simp
  have hwalk : (t.put l (.file content)).walk parent name = .ok l := by
    unfold walk
    rw [(extends_put hne hfree content).directory hdirectory]
    dsimp only
    rw [if_neg hname, if_neg hup, if_neg hlength, ← hl, if_pos]
    rw [get?_put t hne, if_pos rfl]
    rfl
  have hstart : (t.put l (.file content)).startOf path = t.startOf path := rfl
  have habove := (extends_put hne hfree content).foldlM_walk hparent
  rw [resolve_of_componentsOf hcomponents, hstart, List.foldlM_append, habove]
  show [name].foldlM (t.put l (.file content)).walk parent = _
  rw [List.foldlM_cons, hwalk]
  rfl

/-- Writing puts a file at its place. -/
theorem exists_place_of_write (h : t.write path content = .ok t') :
    ∃ l, t.place path = .ok l ∧ t' = t.put l (.file content) := by
  obtain ⟨l, hplace, hput⟩ := exists_of_bind_eq_ok h
  cases hput
  exact ⟨l, hplace, rfl⟩

/-- The path at which a file was written leads to it. -/
theorem exists_resolve_write (h : t.write path content = .ok t') :
    ∃ l, t'.resolve path = .ok l ∧ t'.get? l = some (.file content) := by
  obtain ⟨l, hplace, rfl⟩ := exists_place_of_write h
  obtain ⟨above, parent, name, -, -, -, -, -, -, hl, -⟩ := exists_of_place hplace
  refine ⟨l, resolve_of_place hplace, ?_⟩
  rw [get?_put t (by rw [hl]; simp), if_pos rfl]

/-- A file that was written is read again. -/
theorem read_write (h : t.write path content = .ok t') : t'.read path = .ok content := by
  obtain ⟨l, hresolve, hget⟩ := exists_resolve_write h
  simp only [read, hresolve, bind, Except.bind, hget]

/-- A file that was written is a file. -/
theorem isFile_write (h : t.write path content = .ok t') : t'.isFile path = true := by
  obtain ⟨l, hresolve, hget⟩ := exists_resolve_write h
  rw [isFile, node?, hresolve]
  dsimp only
  rw [hget]

/-- Every directory stays one under every path that leads to it. -/
theorem isDirectory_write (h : t.write path content = .ok t') {dir : String}
    (hdir : t.isDirectory dir = true) : t'.isDirectory dir = true := by
  obtain ⟨l, hplace, rfl⟩ := exists_place_of_write h
  obtain ⟨above, parent, name, -, -, -, -, -, -, hl, hfree⟩ := exists_of_place hplace
  have hne : l ≠ [] := by
    rw [hl]
    simp
  exact (extends_put hne hfree content).isDirectory hdir

end PluginCatalog.FileTree
