import Mathlib.Data.List.Basic
import PluginCatalog.Proofs.Files.Paths

/-!
# Removing what is in a directory

When something is removed from a directory, the other names in the directory are listed as before
(`FileTree.namesIn_removeAt`) and lead to the same (`FileTree.read_join_removeAt`), as long as the
directory itself is still reached. It is if what was removed is no directory (`FileTree.resolve_removeAt`);
otherwise the path to the directory may lead through what was removed, so it has to lead to a directory
still (`FileTree.resolve_remove`).
-/

namespace PluginCatalog.FileTree

variable {t : FileTree} {l a b : Location}

/-! ## At a place -/

/-- What there is at a place that is not removed, nor below one that is. -/
theorem get?_removeAt_of_not_below (hl : ¬l <+: a) : (t.removeAt l).get? a = t.get? a := by
  have htest : ¬l.isPrefixOf a = true := by simpa using hl
  rw [removeAt, get?_removeWhere, if_neg htest]
  split_ifs with hroot
  · rw [get?, if_pos hroot]
  · rfl

/-- There is nothing at a place below the root that is removed. -/
theorem get?_removeAt_self (hl : l ≠ []) : (t.removeAt l).get? l = none := by
  rw [removeAt, get?_removeWhere, if_neg hl, if_pos (by simp)]

/-- A tree extends what is left when something is removed. -/
theorem extends_removeAt (t : FileTree) (l : Location) : t.Extends (t.removeAt l) :=
  extends_removeWhere t l.isPrefixOf

section

variable (hfree : t.get? l ≠ some .directory)

include hfree

/-- From below what is no directory, a component leads to a place below it, if it leads anywhere. -/
theorem below_of_walk {component : List Char} (ha : l <+: a) (h : t.walk a component = .ok b) :
    l <+: b := by
  unfold walk at h
  split at h
  · rename_i hdirectory
    dsimp only at h
    split_ifs at h with hstay hup hlength hsome
    · cases h
      exact ha
    · cases h
      -- A directory is properly below it, so to go up leads no further than to it.
      obtain ⟨rest, rfl⟩ := ha
      obtain rfl | ⟨above, name, rfl⟩ := List.eq_nil_or_concat' rest
      · rw [List.append_nil] at hdirectory
        exact absurd hdirectory hfree
      · rw [← List.append_assoc, List.dropLast_concat]
        exact List.prefix_append l above
    · cases h
      exact ha.trans (List.prefix_append a _)
  · cases h
  · cases h

/-- The same for several components. -/
theorem below_of_foldlM_walk {components : List (List Char)} (ha : l <+: a)
    (h : components.foldlM t.walk a = .ok b) : l <+: b := by
  induction components generalizing a with
  | nil =>
    cases h
    exact ha
  | cons c components ih =>
    rw [List.foldlM_cons] at h
    obtain ⟨next, hstep, hrest⟩ := exists_of_bind_eq_ok h
    exact ih (below_of_walk hfree ha hstep) hrest

/-- A component leads to a place that is not below what is removed also without it. -/
theorem walk_removeAt {component : List Char} (hb : ¬l <+: b) (h : t.walk a component = .ok b) :
    (t.removeAt l).walk a component = .ok b := by
  have ha : ¬l <+: a := fun ha => hb (below_of_walk hfree ha h)
  unfold walk at h ⊢
  rw [get?_removeAt_of_not_below ha]
  split at h
  · dsimp only at h ⊢
    split_ifs at h with hstay hup hlength hsome
    · rw [if_pos hstay, h]
    · rw [if_neg hstay, if_pos hup, h]
    · cases h
      rw [if_neg hstay, if_neg hup, if_neg hlength, get?_removeAt_of_not_below hb, if_pos hsome]
  · cases h
  · cases h

/-- Components lead to a place that is not below what is removed also without it. -/
theorem foldlM_walk_removeAt {components : List (List Char)} (hb : ¬l <+: b)
    (h : components.foldlM t.walk a = .ok b) :
    components.foldlM (t.removeAt l).walk a = .ok b := by
  induction components generalizing a with
  | nil => exact h
  | cons c components ih =>
    rw [List.foldlM_cons] at h ⊢
    obtain ⟨next, hstep, hrest⟩ := exists_of_bind_eq_ok h
    have hnext : ¬l <+: next := fun hn => hb (below_of_foldlM_walk hfree hn hrest)
    rw [walk_removeAt hfree hnext hstep]
    exact ih hrest

/-- So does a path. -/
theorem resolve_removeAt {path : String} (hb : ¬l <+: b) (h : t.resolve path = .ok b) :
    (t.removeAt l).resolve path = .ok b := by
  obtain ⟨components, hcomponents, hwalk⟩ := exists_of_bind_eq_ok h
  rw [resolve_of_componentsOf hcomponents]
  exact foldlM_walk_removeAt hfree hb hwalk

end

/-! ## At a path -/

section

variable {path dir : String}

/-- Nothing is removed at a path that leads nowhere. -/
theorem remove_of_resolve_error {e : FileError} (h : t.resolve path = .error e) : t.remove path = t := by
  rw [remove, h]

/-- At a path that leads somewhere, what is there is removed. -/
theorem remove_of_resolve (h : t.resolve path = .ok l) : t.remove path = t.removeAt l := by
  rw [remove, h]

/-- A tree extends what is left when something is removed at a path. -/
theorem extends_remove (t : FileTree) (path : String) : t.Extends (t.remove path) := by
  cases h : t.resolve path with
  | error e =>
    rw [remove_of_resolve_error h]
    exact ⟨id, id, rfl⟩
  | ok l =>
    rw [remove_of_resolve h]
    exact extends_removeAt t l

/-- After what is at a path was removed, the path leads nowhere; only the root stays where it is. -/
theorem node?_remove (t : FileTree) (path : String) :
    (t.remove path).node? path = none ∨ (t.remove path).isDirectory path = true := by
  rw [isDirectory, decide_eq_true_eq, node?]
  cases hleft : (t.remove path).resolve path with
  | error e => exact .inl rfl
  | ok l =>
    -- In the whole tree the path leads to the same place, which is the one that was removed.
    have hl : t.resolve path = .ok l := (extends_remove t path).resolve hleft
    rw [remove_of_resolve hl]
    by_cases hroot : l = []
    · exact .inr (if_pos hroot)
    · exact .inl (get?_removeAt_self hroot)

/-- A directory is at its place without something that is not on the way to it, or if it still is a
directory. -/
theorem resolve_remove (hdir : t.resolve dir = .ok a) (hpath : t.resolve path = .ok l) (hl : ¬l <+: a)
    (hkept : t.isDirectory path = true → (t.remove path).isDirectory dir = true) :
    (t.remove path).resolve dir = .ok a := by
  by_cases hnode : t.get? l = some .directory
  · obtain ⟨b, hb, -⟩ := isDirectory_iff.1 (hkept (isDirectory_iff.2 ⟨l, hpath, hnode⟩))
    have hsame := (extends_remove t path).resolve hb
    rw [hdir] at hsame
    cases hsame
    exact hb
  · rw [remove_of_resolve hpath]
    exact resolve_removeAt hnode hl hdir

end

/-! ## In a directory -/

section

variable {dir removed name : String}

/-- A name below a directory leads to the place of that name. -/
theorem eq_of_resolve_join (h : t.resolve dir = .ok a) (hname : Path.IsName name)
    (hjoin : t.resolve (Path.join dir name) = .ok b) : b = a ++ [name] := by
  rw [resolve_join h hname] at hjoin
  obtain ⟨-, -, hwalk⟩ := exists_of_bind_eq_ok hjoin
  have hstay : ¬(name.toList = [] ∨ name.toList = ['.']) :=
    not_or.2 ⟨hname.nonempty, hname.ne_stay⟩
  unfold walk at hwalk
  split at hwalk
  · dsimp only at hwalk
    rw [if_neg hstay, if_neg hname.ne_up] at hwalk
    split_ifs at hwalk
    cases hwalk
    rw [String.ofList_toList]
  · cases hwalk
  · cases hwalk

/-- A directory is not below what is in it. -/
theorem not_below_directory : ¬a ++ [removed] <+: a := by
  intro hbelow
  have hlength := hbelow.length_le
  rw [List.length_append, List.length_singleton] at hlength
  omega

/-- Nor is what has another name in it. -/
theorem not_below_sibling (hne : name ≠ removed) : ¬a ++ [removed] <+: a ++ [name] := by
  intro hbelow
  have heq := hbelow.eq_of_length (by simp)
  exact hne (by simpa using heq.symm)

/-- The names in a directory are listed without the one that was removed. -/
theorem namesIn_removeAt (t : FileTree) (a : Location) (removed : String) :
    (t.removeAt (a ++ [removed])).namesIn a = (t.namesIn a).filter (· ≠ removed) := by
  unfold namesIn removeAt removeWhere
  rw [List.filter_filterMap, List.filterMap_filter]
  refine List.filterMap_congr fun n _ => ?_
  by_cases hparent : n.1.dropLast = a
  · rw [if_pos hparent]
    cases hlast : n.1.getLast? with
    | none => simp
    | some last =>
      obtain ⟨above, habove⟩ := List.getLast?_eq_some_iff.1 hlast
      rw [habove, List.dropLast_concat] at hparent
      subst hparent
      rw [habove, Option.filter_some]
      by_cases heq : last = removed
      · simp [heq]
      · have hbelow : (above ++ [removed]).isPrefixOf (above ++ [last]) = false := by
          rw [← Bool.not_eq_true, List.isPrefixOf_iff_prefix]
          exact not_below_sibling heq
        simp [hbelow, heq]
  · rw [if_neg hparent]
    simp

section

variable (h' : (t.removeAt (a ++ [removed])).resolve dir = .ok a) (h : t.resolve dir = .ok a)
  (hname : Path.IsName name) (hne : name ≠ removed)

include h' h hname hne

/-- Other names lead to the same places after something was removed. -/
theorem resolve_join_removeAt :
    (t.removeAt (a ++ [removed])).resolve (Path.join dir name) = t.resolve (Path.join dir name) := by
  rw [resolve_join h hname, resolve_join h' hname]
  have hwalk : (t.removeAt (a ++ [removed])).walk a name.toList = t.walk a name.toList := by
    unfold walk
    dsimp only
    rw [get?_removeAt_of_not_below not_below_directory, String.ofList_toList,
      get?_removeAt_of_not_below (not_below_sibling hne)]
  rw [hwalk]

/-- What other names lead to is the same. -/
theorem node?_join_removeAt :
    (t.removeAt (a ++ [removed])).node? (Path.join dir name) = t.node? (Path.join dir name) := by
  rw [node?, node?, resolve_join_removeAt h' h hname hne]
  cases hjoin : t.resolve (Path.join dir name) with
  | error e => rfl
  | ok b =>
    rw [eq_of_resolve_join h hname hjoin]
    exact get?_removeAt_of_not_below (not_below_sibling hne)

/-- What is read under other names is the same. -/
theorem read_join_removeAt :
    (t.removeAt (a ++ [removed])).read (Path.join dir name) = t.read (Path.join dir name) := by
  rw [read, read, resolve_join_removeAt h' h hname hne]
  cases hjoin : t.resolve (Path.join dir name) with
  | error e => rfl
  | ok b =>
    rw [eq_of_resolve_join h hname hjoin]
    simp only [bind, Except.bind, get?_removeAt_of_not_below (not_below_sibling hne)]

end

end

end PluginCatalog.FileTree
