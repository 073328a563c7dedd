import PluginCatalog.Index.Finding
import PluginCatalog.Proofs.Files.Listing
import PluginCatalog.Proofs.Text.ByteOrder

/-!
# What a scan finds

A scan of a directory finds each library in it once, by name, whatever order the directory is listed in
(`scan_by_name`): the files in the directory itself that have something before a suffix of libraries, and
for which the loader has metadata. Only a file whose path is too long to be looked up is passed over
(`scan_long_path`).
-/

namespace PluginCatalog

variable {s : Settings} {load : Loader} {t t' : FileTree} {dir name : String} {a : Location}

/-- A name ends in a suffix if the suffix comes after something. -/
theorem hasSuffix_iff {suffix : String} :
    hasSuffix name suffix = true ↔ ∃ above, above ≠ [] ∧ name.toList = above ++ suffix.toList := by
  rw [hasSuffix, Bool.and_eq_true, decide_eq_true_eq, List.isSuffixOf_iff_suffix]
  constructor
  · rintro ⟨hlength, above, hname⟩
    refine ⟨above, ?_, hname.symm⟩
    rintro rfl
    rw [← hname, List.nil_append] at hlength
    exact Nat.lt_irrefl _ hlength
  · rintro ⟨above, hne, hname⟩
    have hpos := List.length_pos_iff.2 hne
    refine ⟨?_, above, hname.symm⟩
    rw [hname, List.length_append]
    omega

/-- A file is called like a library if its name ends in a suffix of libraries. -/
theorem isLibraryName_iff :
    s.isLibraryName name = true ↔
      ∃ suffix ∈ s.librarySuffixes, ∃ above, above ≠ [] ∧ name.toList = above ++ suffix.toList := by
  rw [Settings.isLibraryName, List.any_eq_true]
  simp only [hasSuffix_iff]

/-- A path leads to a file if a file is there. -/
theorem FileTree.isFile_iff {path : String} :
    t.isFile path = true ↔ ∃ content, t.node? path = some (.file content) := by
  unfold FileTree.isFile
  split
  · rename_i content hnode
    exact ⟨fun _ => ⟨content, hnode⟩, fun _ => rfl⟩
  · rename_i hno
    exact ⟨nofun, fun ⟨content, hnode⟩ => absurd hnode (hno content)⟩

section

variable (ht : t.IsStored) (hdir : t.resolve dir = .ok a) (hplace : t.get? a = some .directory)

include ht hdir hplace

/-- The libraries in a directory are the files in it that are called so and whose path is not too
long. -/
theorem mem_libraryNames :
    name ∈ libraryNames s t dir (t.namesIn a) ↔
      (∃ content, t.get? (a ++ [name]) = some (.file content)) ∧ s.isLibraryName name = true ∧
        Text.byteLength (Path.join dir name).toList ≤ FileTree.maxPathBytes := by
  rw [libraryNames, List.mem_mergeSort, List.mem_filter, Bool.and_eq_true, FileTree.isFile_iff,
    FileTree.mem_namesIn]
  constructor
  · rintro ⟨⟨n, hn⟩, ⟨content, hcontent⟩, hlibrary⟩
    rw [FileTree.node?_join hdir (ht.isStorable hn) hplace] at hcontent
    split_ifs at hcontent with hlong
    exact ⟨⟨content, hcontent⟩, hlibrary, Nat.not_lt.1 hlong⟩
  · rintro ⟨⟨content, hcontent⟩, hlibrary, hshort⟩
    refine ⟨⟨_, hcontent⟩, ⟨content, ?_⟩, hlibrary⟩
    rw [FileTree.node?_join hdir (ht.isStorable hcontent) hplace, if_neg (Nat.not_lt.2 hshort), hcontent]

omit ht hdir hplace in
/-- The libraries in a directory come by the bytes of their names, each once. -/
theorem pairwise_libraryNames :
    (libraryNames s t dir (t.namesIn a)).Pairwise
      fun m n => Utf8.encode m.toList < Utf8.encode n.toList := by
  have hnodup : (((t.namesIn a).filter
      fun name => t.isFile (Path.join dir name) && s.isLibraryName name).map id).Nodup := by
    rw [List.map_id]
    exact (FileTree.nodup_namesIn t a).filter _
  have hsorted := Text.pairwise_map_mergeSort id hnodup
  rw [List.map_id] at hsorted
  exact hsorted.imp Utf8.encode_lt_encode_iff.2

/-- A scan gives the metadata of the libraries in a directory. -/
theorem exists_scan (load : Loader) :
    ∃ found : List (String × Properties),
      scan s load t dir = .ok (found.map fun f => ⟨f.2, Path.join dir f.1, .scan⟩) ∧
      found.Pairwise (fun f g => Utf8.encode f.1.toList < Utf8.encode g.1.toList) ∧
      ∀ name metadata, (name, metadata) ∈ found ↔
        (∃ content, t.get? (a ++ [name]) = some (.file content)) ∧ s.isLibraryName name = true ∧
          Text.byteLength (Path.join dir name).toList ≤ FileTree.maxPathBytes ∧
          load t (Path.join dir name) = some metadata := by
  refine ⟨(libraryNames s t dir (t.namesIn a)).filterMap fun name =>
    (load t (Path.join dir name)).map (name, ·), ?_, ?_, fun name metadata => ?_⟩
  · rw [scan, FileTree.list_of_resolve hdir hplace, List.map_filterMap]
    simp only [Option.map_map]
    rfl
  · refine List.pairwise_filterMap.2 (pairwise_libraryNames.imp fun hlt f hf g hg => ?_)
    obtain ⟨-, -, rfl⟩ := Option.map_eq_some_iff.1 hf
    obtain ⟨-, -, rfl⟩ := Option.map_eq_some_iff.1 hg
    exact hlt
  · rw [List.mem_filterMap]
    constructor
    · rintro ⟨name', hname, hmetadata⟩
      obtain ⟨p, hp, he⟩ := Option.map_eq_some_iff.1 hmetadata
      cases he
      obtain ⟨hfile, hlibrary, hshort⟩ := (mem_libraryNames ht hdir hplace).1 hname
      exact ⟨hfile, hlibrary, hshort, hp⟩
    · rintro ⟨hfile, hlibrary, hshort, hmetadata⟩
      exact ⟨name, (mem_libraryNames ht hdir hplace).2 ⟨hfile, hlibrary, hshort⟩, by rw [hmetadata]; rfl⟩

/-- A scan does not depend on the order in which things are listed, if the loader does not. -/
theorem scan_of_perm (load : Loader) (hperm : t'.nodes.Perm t.nodes)
    (hwd : t'.workingDirectory = t.workingDirectory) (hload : ∀ path, load t' path = load t path) :
    scan s load t' dir = scan s load t dir := by
  have ht' : t'.IsStored := fun n hn => ht n (hperm.mem_iff.1 hn)
  have hdir' : t'.resolve dir = .ok a := by rw [FileTree.resolve_of_perm hperm hwd, hdir]
  have hplace' : t'.get? a = some .directory := by rw [FileTree.get?_of_perm hperm, hplace]
  obtain ⟨found, hscan, hsorted, hmem⟩ := exists_scan ht hdir hplace (s := s) load
  obtain ⟨found', hscan', hsorted', hmem'⟩ := exists_scan ht' hdir' hplace' (s := s) load
  have hfound : found' = found := by
    refine Dict.eq_of_mem_iff (hsorted'.imp Utf8.encode_lt_encode_iff.1)
      (hsorted.imp Utf8.encode_lt_encode_iff.1) fun ⟨name, metadata⟩ => ?_
    rw [hmem, hmem', FileTree.get?_of_perm hperm, hload]
  rw [hscan, hscan', hfound]

end

/-- A scan of a directory gives what the loader has for the files in the directory that are called like
libraries, each once and by the bytes of their names. The order in which the directory is listed does not
matter. A file whose path is too long is passed over. -/
theorem scan_by_name (ht : t.IsStored) (hdir : t.resolve dir = .ok a)
    (hplace : t.get? a = some .directory) (s : Settings) (load : Loader) :
    ∃ found : List (String × Properties),
      scan s load t dir = .ok (found.map fun f => ⟨f.2, Path.join dir f.1, .scan⟩) ∧
      found.Pairwise (fun f g => Utf8.encode f.1.toList < Utf8.encode g.1.toList) ∧
      (∀ name metadata, (name, metadata) ∈ found ↔
        (∃ content, t.get? (a ++ [name]) = some (.file content)) ∧
          (∃ suffix ∈ s.librarySuffixes, ∃ above, above ≠ [] ∧ name.toList = above ++ suffix.toList) ∧
          Text.byteLength (Path.join dir name).toList ≤ FileTree.maxPathBytes ∧
          load t (Path.join dir name) = some metadata) ∧
      ∀ t' : FileTree, t'.nodes.Perm t.nodes → t'.workingDirectory = t.workingDirectory →
        (∀ path, load t' path = load t path) → scan s load t' dir = scan s load t dir := by
  obtain ⟨found, hscan, hsorted, hmem⟩ := exists_scan ht hdir hplace (s := s) load
  refine ⟨found, hscan, hsorted, fun name metadata => ?_, fun t' hperm hwd hload =>
    scan_of_perm ht hdir hplace load hperm hwd hload⟩
  rw [hmem, isLibraryName_iff]

/-- Two libraries, listed in the other order, of which one matches two suffixes. What consists of a suffix
alone, a directory with the name of a library, a library in it and one without metadata are passed over. -/
theorem scan_by_name_reversed :
    let s : Settings := { Settings.default with librarySuffixes := [".so", "o", "b.so"] }
    let t : FileTree := ⟨[(["d"], .directory), (["d", "B.so"], .file []), (["d", "a.so"], .directory),
      (["d", "a.so", "c.so"], .file []), (["d", "b.so"], .file []), (["d", "bare.so"], .file []),
      (["d", "o"], .file [])], [], by decide⟩
    let t' : FileTree := ⟨t.nodes.reverse, [], by decide⟩
    let p : Properties := .ofList [("X-Plugin-Id", .text "spy")]
    let load : Loader := fun _ path => if path = "d/bare.so" then none else some p
    t.IsStored ∧ t.resolve "d" = .ok ["d"] ∧ t.get? ["d"] = some .directory ∧
      t'.list "d" = .ok ["o", "bare.so", "b.so", "a.so", "B.so"] ∧
      scan s load t' "d" = .ok [⟨p, "d/B.so", .scan⟩, ⟨p, "d/b.so", .scan⟩] := by
  intro s t t' p load
  have ht : t.IsStored := by decide +kernel
  have hdir : t.resolve "d" = .ok ["d"] := by decide +kernel
  have hplace : t.get? ["d"] = some .directory := by decide +kernel
  have hscan : scan s load t "d" = .ok [⟨p, "d/B.so", .scan⟩, ⟨p, "d/b.so", .scan⟩] := by
    have hfilter : ((t.namesIn ["d"]).filter fun name =>
        t.isFile (Path.join "d" name) && s.isLibraryName name) = ["B.so", "b.so", "bare.so"] := by
      decide +kernel
    have hnames : libraryNames s t "d" (t.namesIn ["d"]) = ["B.so", "b.so", "bare.so"] := by
      rw [libraryNames, hfilter]
      exact List.mergeSort_of_pairwise (by decide +kernel)
    rw [scan, FileTree.list_of_resolve hdir hplace]
    simp only [hnames]
    decide +kernel
  obtain ⟨-, -, -, -, horder⟩ := scan_by_name ht hdir hplace s load
  have hsame := horder t' (List.reverse_perm t.nodes) rfl fun _ => rfl
  exact ⟨ht, hdir, hplace, by decide +kernel, hsame.trans hscan⟩

/-! ## A path that is too long -/

/-- A path below a base has no fewer bytes than the base and the name together. -/
theorem Path.byteLength_join_ge (hbase : dir.toList ≠ []) (hname : IsName name) :
    Text.byteLength dir.toList + Text.byteLength name.toList
      ≤ Text.byteLength (join dir name).toList := by
  obtain ⟨above, hjoin, habove⟩ := exists_toList_join hbase hname
  rcases habove with habove | habove <;>
  · rw [hjoin, habove]
    simp only [Text.byteLength_append, Text.byteLength]
    omega

namespace FileTree

/-- Separators at the end of a path add empty components. -/
theorem splitBy_append_replicate (path : List Char) (n : Nat) :
    Text.splitBy (· = '/') (path ++ List.replicate n '/')
      = Text.splitBy (· = '/') path ++ List.replicate n [] := by
  have hseparator : decide ('/' = '/') = true := by decide
  induction n with
  | zero => simp
  | succ n ih =>
    rw [List.replicate_succ', ← List.append_assoc, Text.splitBy_append_cons hseparator, ih,
      List.append_assoc, List.replicate_succ']
    rfl

/-- Each separator is one byte. -/
theorem byteLength_replicate (n : Nat) : Text.byteLength (List.replicate n '/') = n := by
  induction n with
  | zero => rfl
  | succ n ih =>
    rw [List.replicate_succ, Text.byteLength, ih, Nat.add_comm]
    rfl

/-- More separators at the end of a path are as many empty components, up to the length that a path may
have. -/
theorem componentsOf_append_replicate {components : List (List Char)} (hne : dir.toList ≠ [])
    (hcomponents : componentsOf dir = .ok components) (hnul : '\x00' ∉ dir.toList) {n : Nat}
    (hn : Text.byteLength dir.toList + n ≤ maxPathBytes) :
    componentsOf (String.ofList (dir.toList ++ List.replicate n '/'))
      = .ok (components ++ List.replicate n []) := by
  have hnul' : '\x00' ∉ dir.toList ++ List.replicate n '/' := by simp [hnul]
  have hlength : ¬maxPathBytes < Text.byteLength (dir.toList ++ List.replicate n '/') := by
    rw [Text.byteLength_append, byteLength_replicate]
    omega
  have hempty : (String.ofList (dir.toList ++ List.replicate n '/')).isEmpty = false := by
    rw [Bool.eq_false_iff, ne_eq, String.isEmpty_iff, ← String.toList_inj, String.toList_ofList]
    simp [hne]
  rw [componentsOf, String.toList_ofList, if_neg hnul', if_neg hlength, hempty,
    if_neg Bool.false_ne_true, splitBy_append_replicate, eq_splitBy_of_componentsOf hcomponents]

/-- Empty components stay in a directory. -/
theorem foldlM_walk_replicate (hplace : t.get? a = some .directory) (n : Nat) :
    (List.replicate n []).foldlM t.walk a = .ok a := by
  induction n with
  | zero => rfl
  | succ n ih =>
    have hstep : t.walk a [] = .ok a := by
      rw [walk, hplace]
      rfl
    rw [List.replicate_succ, List.foldlM_cons, hstep]
    exact ih

/-- A path to a directory leads there also with more separators at its end, up to the length that a path
may have. -/
theorem resolve_append_replicate (hdir : t.resolve dir = .ok a) (hplace : t.get? a = some .directory)
    {n : Nat} (hn : Text.byteLength dir.toList + n ≤ maxPathBytes) :
    t.resolve (String.ofList (dir.toList ++ List.replicate n '/')) = .ok a := by
  have hne := toList_ne_nil_of_resolve hdir
  obtain ⟨components, hcomponents, hwalk⟩ := exists_of_bind_eq_ok hdir
  have hlong := componentsOf_append_replicate hne hcomponents (nul_notMem_of_resolve hdir) hn
  have hstart : t.startOf (String.ofList (dir.toList ++ List.replicate n '/')) = t.startOf dir := by
    rw [startOf, startOf, String.toList_ofList, List.head?_append_of_ne_nil _ hne]
  rw [resolve_of_componentsOf hlong, hstart, List.foldlM_append, hwalk]
  exact foldlM_walk_replicate hplace n

end FileTree

/-- A library that a scan of its directory finds, but not through a path to the directory that leaves no
room for the name of the library. -/
theorem scan_long_path :
    let t : FileTree := ⟨[(["a.so"], .file [])], [], by decide⟩
    let load : Loader := fun _ _ => some .empty
    let dir := String.ofList ('.' :: List.replicate 4092 '/')
    t.IsStored ∧ t.resolve dir = .ok [] ∧ t.get? [] = some .directory ∧
      t.get? ["a.so"] = some (.file []) ∧
      Settings.default.isLibraryName "a.so" = true ∧ load t (Path.join dir "a.so") = some .empty ∧
      scan .default load t dir = .ok [] ∧
      scan .default load t "." = .ok [⟨.empty, "./a.so", .scan⟩] := by
  intro t load dir
  have hdot : t.resolve "." = .ok [] := by decide +kernel
  have hdir : t.resolve dir = .ok [] :=
    FileTree.resolve_append_replicate hdot rfl (n := 4092) (by decide +kernel)
  have ht : t.IsStored := by decide +kernel
  refine ⟨ht, hdir, rfl, rfl, by decide +kernel, rfl, ?_, by decide +kernel⟩
  -- The scan is not run: what it finds would have a name that fits behind the path, and none does.
  obtain ⟨found, hscan, -, hmem⟩ := exists_scan ht hdir rfl (s := .default) load
  cases found with
  | nil => exact hscan
  | cons f found =>
    obtain ⟨⟨content, hcontent⟩, -, hshort, -⟩ := (hmem f.1 f.2).1 List.mem_cons_self
    have hname : f.1 = "a.so" := by
      rw [FileTree.get?_eq_some_iff (by simp)] at hcontent
      simp only [t, List.nil_append, List.mem_singleton, Prod.mk.injEq, List.cons.injEq] at hcontent
      exact hcontent.1.1
    have hlength : Text.byteLength dir.toList = 4093 := by
      rw [String.toList_ofList, Text.byteLength, FileTree.byteLength_replicate]
      rfl
    have hlong := Path.byteLength_join_ge (FileTree.toList_ne_nil_of_resolve hdir)
      (show Path.IsName "a.so" by decide +kernel)
    have hbytes : Text.byteLength "a.so".toList = 4 := by decide +kernel
    have hmax : FileTree.maxPathBytes = 4095 := rfl
    rw [hname] at hshort
    omega

end PluginCatalog
