import PluginCatalog.Path
import PluginCatalog.Proofs.Files.Walking

/-!
# Names in directories

A path below a base leads where its name leads from the place of the base
(`FileTree.resolve_join`), whether or not the base ends with a separator. This is so for a name of one
component (`Path.IsName`), as those of the things in a tree are (`FileTree.IsNamed`).
-/

namespace PluginCatalog

/-! ## Paths as texts -/

namespace Path

/-- A name that something can have in a directory: one component, which names it. -/
structure IsName (name : String) : Prop where
  nonempty : name.toList ≠ []
  /-- It does not stay in the directory. -/
  ne_stay : name.toList ≠ ['.']
  /-- It does not go up. -/
  ne_up : name.toList ≠ ['.', '.']
  separator : '/' ∉ name.toList

instance (name : String) : Decidable (IsName name) :=
  decidable_of_iff
    (name.toList ≠ [] ∧ name.toList ≠ ['.'] ∧ name.toList ≠ ['.', '.'] ∧ '/' ∉ name.toList)
    ⟨fun ⟨h, hstay, hup, hseparator⟩ => ⟨h, hstay, hup, hseparator⟩,
      fun ⟨h, hstay, hup, hseparator⟩ => ⟨h, hstay, hup, hseparator⟩⟩

variable {base name : String}

/-- A text without separators is one component. -/
theorem splitBy_of_notMem {s : List Char} (h : '/' ∉ s) : Text.splitBy (· = '/') s = [s] :=
  Text.splitBy_of_forall fun c hc => by simpa using ne_of_mem_of_not_mem hc h

/-- A path below a base is the base with one separator and the name after it. -/
theorem exists_toList_join (hbase : base.toList ≠ []) (hname : IsName name) :
    ∃ above, (join base name).toList = above ++ '/' :: name.toList ∧
      (base.toList = above ∨ base.toList = above ++ ['/']) := by
  have hrelative : isAbsolute name = false := by
    have hhead : name.toList.head? ≠ some '/' :=
      fun h => hname.separator (List.mem_of_head? h)
    simpa [isAbsolute] using hhead
  have hnonempty : base.isEmpty = false := by simpa [String.isEmpty_iff] using hbase
  rw [join, hrelative, hnonempty, if_neg (by decide)]
  by_cases hlast : base.toList.getLast? = some '/'
  · obtain ⟨above, habove⟩ := List.getLast?_eq_some_iff.1 hlast
    exact ⟨above, by rw [if_pos hlast, String.toList_append, habove, List.append_assoc,
      List.singleton_append], .inr habove⟩
  · exact ⟨base.toList, by rw [if_neg hlast, String.toList_append, String.toList_append,
      List.append_assoc, show "/".toList = ['/'] from rfl, List.singleton_append], .inl rfl⟩

/-- A path below a base consists of components of the base and the name; the base may have an empty
component more, after its last separator. -/
theorem exists_splitBy_join (hbase : base.toList ≠ []) (hname : IsName name) :
    ∃ components, Text.splitBy (· = '/') (join base name).toList = components ++ [name.toList] ∧
      (Text.splitBy (· = '/') base.toList = components ∨
        Text.splitBy (· = '/') base.toList = components ++ [[]]) := by
  have hseparator : decide ('/' = '/') = true := by decide
  obtain ⟨above, hjoin, habove⟩ := exists_toList_join hbase hname
  refine ⟨Text.splitBy (· = '/') above, ?_, ?_⟩
  · rw [hjoin, Text.splitBy_append_cons hseparator, splitBy_of_notMem hname.separator]
  · obtain habove | habove := habove
    · exact .inl (by rw [habove])
    · exact .inr (by rw [habove, Text.splitBy_append_cons hseparator]; rfl)

/-- A path below a base begins as the base does. -/
theorem head?_join (hbase : base.toList ≠ []) (hname : IsName name) :
    (join base name).toList.head? = base.toList.head? := by
  have hbelow : ∃ rest, (join base name).toList = base.toList ++ rest := by
    obtain ⟨above, hjoin, habove | habove⟩ := exists_toList_join hbase hname
    · exact ⟨'/' :: name.toList, by rw [hjoin, habove]⟩
    · exact ⟨name.toList, by rw [hjoin, habove, List.append_assoc, List.singleton_append]⟩
  obtain ⟨rest, hrest⟩ := hbelow
  obtain ⟨c, s, hs⟩ := List.exists_cons_of_ne_nil hbase
  rw [hrest, hs]
  rfl

end Path

/-! ## Names in a tree -/

namespace FileTree

/-- Everything in a tree has names of one component. -/
def IsNamed (t : FileTree) : Prop := ∀ n ∈ t.nodes, ∀ name ∈ n.1, Path.IsName name

variable {t : FileTree} {l a : Location} {base name : String}

/-- What is listed in a directory of such a tree has a name of one component. -/
theorem IsNamed.isName (h : t.IsNamed) (hname : name ∈ t.namesIn l) : Path.IsName name := by
  obtain ⟨n, hn, heq⟩ := List.mem_filterMap.1 hname
  split_ifs at heq
  exact h n hn name (List.mem_of_getLast? heq)

/-- A path that leads somewhere is not empty. -/
theorem toList_ne_nil_of_resolve (h : t.resolve base = .ok a) : base.toList ≠ [] := by
  intro hempty
  have hbase : base = "" := String.toList_injective hempty
  subst hbase
  cases h

/-- A path that leads somewhere has no NUL in it. -/
theorem nul_notMem_of_resolve (h : t.resolve base = .ok a) : '\x00' ∉ base.toList := by
  obtain ⟨components, hcomponents, -⟩ := exists_of_bind_eq_ok h
  unfold componentsOf at hcomponents
  split_ifs at hcomponents with hnul
  exact hnul

/-- The components of a path are what stands between its separators. -/
theorem eq_splitBy_of_componentsOf {path : String} {components : List (List Char)}
    (h : componentsOf path = .ok components) :
    components = Text.splitBy (· = '/') path.toList := by
  unfold componentsOf at h
  split_ifs at h
  cases h
  rfl

/-- An empty component stays where it is. -/
theorem eq_of_walk_nil {b : Location} (h : t.walk a [] = .ok b) : b = a := by
  unfold walk at h
  split at h
  · cases h
    rfl
  · cases h
  · cases h

/-- A path below a directory leads where the name leads from the place of the directory, if the path
can lead somewhere. -/
theorem resolve_join (h : t.resolve base = .ok a) (hname : Path.IsName name) :
    t.resolve (Path.join base name)
      = (componentsOf (Path.join base name)).bind fun _ => t.walk a name.toList := by
  have hbase := toList_ne_nil_of_resolve h
  obtain ⟨components, hjoin, hcomponents⟩ := Path.exists_splitBy_join hbase hname
  obtain ⟨all, hall, hwalk⟩ := exists_of_bind_eq_ok h
  rw [eq_splitBy_of_componentsOf hall] at hwalk
  -- An empty component after the last separator of the base stays in the directory.
  have hplace : components.foldlM t.walk (t.startOf base) = .ok a := by
    obtain hcomponents | hcomponents := hcomponents
    · rwa [hcomponents] at hwalk
    · rw [hcomponents, List.foldlM_append] at hwalk
      obtain ⟨b, habove, hlast⟩ := exists_of_bind_eq_ok hwalk
      rw [List.foldlM_cons] at hlast
      obtain ⟨c, hstep, hend⟩ := exists_of_bind_eq_ok hlast
      cases hend
      rw [eq_of_walk_nil hstep]
      exact habove
  have hstart : t.startOf (Path.join base name) = t.startOf base := by
    rw [startOf, startOf, Path.head?_join hbase hname]
  cases hc : componentsOf (Path.join base name) with
  | error e =>
    rw [resolve, hc]
    rfl
  | ok all =>
    rw [resolve_of_componentsOf hc, eq_splitBy_of_componentsOf hc, hjoin, hstart,
      List.foldlM_append, hplace]
    show [name.toList].foldlM t.walk a = _
    simp [Except.bind]

end FileTree

end PluginCatalog
