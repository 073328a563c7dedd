import PluginCatalog.Proofs.Files.Removal
import PluginCatalog.Proofs.Index.Rediscovery

/-!
# Directories with and without an index

The plugins in a directory with an index are those of the index, whatever else is in the directory and
wherever metadata comes from. An index that cannot be read (`PluginIndex.IsUnreadable`) leaves no trace: the
directory is scanned, as it is without the index (`Finding.scanned_remove`). Only a path to the directory
that leads through the place of the index, where there is a directory, needs that to be there, and only a
loader that looks elsewhere than in the libraries may miss it.
-/

namespace PluginCatalog

/-! ## Loaders -/

namespace Loader

/-- A loader that looks at nothing but the library that it is asked for. -/
def IsLocal (load : Loader) : Prop :=
  ∀ (t t' : FileTree) (path : String), t'.read path = t.read path → load t' path = load t path

/-- Metadata in the libraries themselves is looked for nowhere else. -/
theorem isLocal_embedded : IsLocal embedded := by
  intro t t' path h
  simp only [embedded, Library.readMetadata, h]

end Loader

/-! ## Reading a file -/

namespace FileTree

variable {t t' : FileTree} {path : String}

/-- A file is read exactly if the path leads to it. -/
theorem read_eq_ok_iff {content : List UInt8} :
    t.read path = .ok content ↔ t.node? path = some (.file content) := by
  rw [read, node?]
  cases t.resolve path with
  | error e => simp [bind, Except.bind]
  | ok l =>
    simp only [bind, Except.bind]
    cases t.get? l with
    | none => simp
    | some n => cases n <;> simp

/-- A text is read exactly if it is the content of the file. -/
theorem readText_of_read {content : List UInt8} (h : t.read path = .ok content) :
    t.readText path =
      match Utf8.text? content with
      | some s => .ok (String.ofList s)
      | none => .error .notText := by
  rw [readText, h]
  rfl

/-- What a text is read from is a file. -/
theorem exists_node?_of_readText {text : String} (h : t.readText path = .ok text) :
    ∃ content, t.node? path = some (.file content) := by
  obtain ⟨content, hread, -⟩ := exists_of_bind_eq_ok h
  exact ⟨content, read_eq_ok_iff.1 hread⟩

end FileTree

/-! ## Indexes that cannot be read -/

namespace PluginIndex

/-- There is no index to be read at a path: there is nothing, or a directory, or a file that is no text or
holds no index. -/
def IsUnreadable (t : FileTree) (path : String) : Prop :=
  t.node? path = none ∨ t.isDirectory path = true ∨ t.readText path = .error .notText ∨
    ∃ text, t.readText path = .ok text ∧ ofText? text = none

end PluginIndex

namespace Finding

open PluginIndex

variable {s : Settings} {load : Loader} {t : FileTree} {dir : String}

/-- A directory has an index exactly if the text of one is in its place. -/
theorem indexOf?_eq_some_iff {i : PluginIndex} :
    indexOf? s t dir = some i ↔
      ∃ text, t.readText (Path.join dir s.indexFileName) = .ok text ∧ ofText? text = some i := by
  constructor
  · intro h
    unfold indexOf? read? at h
    dsimp only at h
    split_ifs at h
    split at h
    · rename_i text htext
      exact ⟨text, htext, h⟩
    · cases h
  · rintro ⟨text, htext, hi⟩
    obtain ⟨content, hnode⟩ := FileTree.exists_node?_of_readText htext
    have hfile : t.isFile (Path.join dir s.indexFileName) = true := by rw [FileTree.isFile, hnode]
    rw [indexOf?, if_pos hfile, read?, htext]
    exact hi

/-- A directory has no index exactly if none can be read. -/
theorem indexOf?_eq_none_iff :
    indexOf? s t dir = none ↔ IsUnreadable t (Path.join dir s.indexFileName) := by
  constructor
  · intro hnone
    -- By what is at the place of the index: nothing, a directory, or a file with some bytes.
    cases hnode : t.node? (Path.join dir s.indexFileName) with
    | none => exact .inl hnode
    | some n =>
      cases n with
      | directory => exact .inr (.inl (decide_eq_true hnode))
      | file content =>
        have htext := FileTree.readText_of_read (FileTree.read_eq_ok_iff.2 hnode)
        cases hutf : Utf8.text? content with
        | none =>
          rw [hutf] at htext
          exact .inr (.inr (.inl htext))
        | some text =>
          rw [hutf] at htext
          refine .inr (.inr (.inr ⟨_, htext, Option.eq_none_iff_forall_ne_some.2 fun i hi => ?_⟩))
          rw [indexOf?_eq_some_iff.2 ⟨_, htext, hi⟩] at hnone
          cases hnone
  · intro h
    -- An index would be the text of a file, which each of the four reasons denies.
    refine Option.eq_none_iff_forall_ne_some.2 fun i hi => ?_
    obtain ⟨text, htext, hindex⟩ := indexOf?_eq_some_iff.1 hi
    obtain ⟨content, hnode⟩ := FileTree.exists_node?_of_readText htext
    obtain hnone | hdirectory | hbytes | ⟨text', htext', hnone⟩ := h
    · rw [hnode] at hnone
      cases hnone
    · rw [FileTree.isDirectory, hnode] at hdirectory
      cases hdirectory
    · rw [htext] at hbytes
      cases hbytes
    · rw [htext] at htext'
      cases htext'
      rw [hindex] at hnone
      cases hnone

/-! ## The plugins in one directory -/

/-- The plugins in one directory are those in it that offer the service, if it is one. -/
theorem inDirectories_singleton (tag : String) :
    inDirectories s load t [dir] tag
      = if t.isDirectory dir then (inDirectory s load t dir).filter (offers tag) else [] := by
  rw [inDirectories, List.flatMap_singleton]

/-- The plugins in several directories are those in each, one after another. -/
theorem inDirectories_eq_flatMap (dirs : List String) (tag : String) :
    inDirectories s load t dirs tag = dirs.flatMap fun dir => inDirectories s load t [dir] tag := by
  simp only [inDirectories_singleton]
  rfl

/-- The plugins that a scan of a directory gives, none if it cannot be scanned. -/
def scanned (s : Settings) (load : Loader) (t : FileTree) (dir : String) : List Finding :=
  match scan s load t dir with
  | .ok found => found
  | .error _ => []

/-- What is no directory is not scanned. -/
theorem scanned_of_isDirectory (s : Settings) (load : Loader) (h : t.isDirectory dir = false) :
    scanned s load t dir = [] := by
  unfold scanned
  cases hscan : scan s load t dir with
  | error e => rfl
  | ok found =>
    rw [isDirectory_of_scan hscan] at h
    cases h

/-- Without an index, the plugins in a directory are those of a scan. -/
theorem inDirectories_of_indexOf?_eq_none (h : indexOf? s t dir = none) (tag : String) :
    inDirectories s load t [dir] tag = (scanned s load t dir).filter (offers tag) := by
  have hin : inDirectory s load t dir = scanned s load t dir := by
    unfold inDirectory
    rw [h]
    rfl
  rw [inDirectories_singleton, hin]
  split_ifs with hdir
  · rfl
  · rw [scanned_of_isDirectory s load (Bool.eq_false_iff.2 hdir)]
    rfl

/-- With an index, they are those of the index. -/
theorem inDirectories_of_indexOf? {i : PluginIndex} (h : indexOf? s t dir = some i) (load : Loader)
    (tag : String) :
    inDirectories s load t [dir] tag
      = if t.isDirectory dir then i.findings.filter (offers tag) else [] := by
  rw [inDirectories_singleton, inDirectory_of_indexOf? h]

/-! ## Removing the index -/

variable {a : Location} {removed : String}

section

variable (h : t.resolve dir = .ok a) (h' : (t.removeAt (a ++ [removed])).resolve dir = .ok a) (ht : t.IsNamed)
  (hlibrary : s.isLibraryName removed = false)

include h h' ht hlibrary

/-- The libraries in a directory are the same without something that is no library. -/
theorem libraryNames_removeAt :
    libraryNames s (t.removeAt (a ++ [removed])) dir ((t.removeAt (a ++ [removed])).namesIn a)
      = libraryNames s t dir (t.namesIn a) := by
  unfold libraryNames
  rw [FileTree.namesIn_removeAt, List.filter_filter]
  refine congrArg (List.mergeSort · _) (List.filter_congr fun name hname => ?_)
  by_cases hne : name = removed
  · rw [hne, hlibrary, Bool.and_false, Bool.and_false, Bool.false_and]
  · have hfile : (t.removeAt (a ++ [removed])).isFile (Path.join dir name)
        = t.isFile (Path.join dir name) := by
      rw [FileTree.isFile, FileTree.isFile,
        FileTree.node?_join_removeAt h' h (ht.isName hname) hne]
    simp [hfile, hne]

/-- A scan of a directory gives the same without something that is no library, with a loader that has
the same metadata for the other files. -/
theorem scan_removeAt (hdir : t.get? a = some .directory) {load' : Loader}
    (hload : ∀ name, Path.IsName name → name ≠ removed →
      load' (t.removeAt (a ++ [removed])) (Path.join dir name) = load t (Path.join dir name)) :
    scan s load' (t.removeAt (a ++ [removed])) dir = scan s load t dir := by
  have hdir' : (t.removeAt (a ++ [removed])).get? a = some .directory := by
    rw [FileTree.get?_removeAt_of_not_below FileTree.not_below_directory, hdir]
  simp only [scan, FileTree.list_of_resolve h hdir, FileTree.list_of_resolve h' hdir',
    libraryNames_removeAt h h' ht hlibrary]
  refine congrArg Except.ok (List.filterMap_congr fun name hname => ?_)
  rw [libraryNames, List.mem_mergeSort, List.mem_filter, Bool.and_eq_true] at hname
  have hne : name ≠ removed := by
    rintro rfl
    rw [hlibrary] at hname
    cases hname.2.2
  rw [hload name (ht.isName hname.1) hne]

end

/-- A scan of a directory gives the same without a thing in it that is not called like a library, as long
as it is a directory. -/
theorem scanned_remove (hremoved : Path.IsName removed) (ht : t.IsNamed)
    (hlibrary : s.isLibraryName removed = false)
    (hkept : t.isDirectory (Path.join dir removed) = true →
      (t.remove (Path.join dir removed)).isDirectory dir = t.isDirectory dir)
    {load' : Loader}
    (hload : ∀ path, (t.remove (Path.join dir removed)).read path = t.read path →
      load' (t.remove (Path.join dir removed)) path = load t path) :
    scanned s load' (t.remove (Path.join dir removed)) dir = scanned s load t dir := by
  cases hdir : t.isDirectory dir with
  | false =>
    have hleft : (t.remove (Path.join dir removed)).isDirectory dir = false := by
      rw [← Bool.not_eq_true] at hdir ⊢
      exact fun hleft => hdir ((FileTree.extends_remove t _).isDirectory hleft)
    rw [scanned_of_isDirectory s load' hleft, scanned_of_isDirectory s load hdir]
  | true =>
    cases hpath : t.resolve (Path.join dir removed) with
    | error e =>
      rw [FileTree.remove_of_resolve_error hpath] at hload ⊢
      simp only [scanned, scan, hload _ rfl]
    | ok l =>
      obtain ⟨a, ha, hdirectory⟩ := FileTree.isDirectory_iff.1 hdir
      obtain rfl := FileTree.eq_of_resolve_join ha hremoved hpath
      have hplace := FileTree.resolve_remove ha hpath FileTree.not_below_directory
        fun hd => (hkept hd).trans hdir
      rw [FileTree.remove_of_resolve hpath] at hload hplace ⊢
      rw [scanned, scanned, scan_removeAt ha hplace ht hlibrary hdirectory fun name hname hne =>
        hload _ (FileTree.read_join_removeAt hplace ha hname hne)]

/-- Without an index that cannot be read, and that is not called like a library, the same plugins are in
the directory, as long as there is one. -/
theorem inDirectories_remove (hindex : Path.IsName s.indexFileName) (ht : t.IsNamed)
    (hlibrary : s.isLibraryName s.indexFileName = false)
    (hunreadable : IsUnreadable t (Path.join dir s.indexFileName))
    (hkept : t.isDirectory (Path.join dir s.indexFileName) = true →
      (t.remove (Path.join dir s.indexFileName)).isDirectory dir = t.isDirectory dir)
    {load' : Loader}
    (hload : ∀ path, (t.remove (Path.join dir s.indexFileName)).read path = t.read path →
      load' (t.remove (Path.join dir s.indexFileName)) path = load t path) (tag : String) :
    inDirectories s load' (t.remove (Path.join dir s.indexFileName)) [dir] tag
      = inDirectories s load t [dir] tag := by
  have hremoved : IsUnreadable (t.remove (Path.join dir s.indexFileName))
      (Path.join dir s.indexFileName) :=
    (FileTree.node?_remove t _).imp_right Or.inl
  rw [inDirectories_of_indexOf?_eq_none (indexOf?_eq_none_iff.2 hunreadable),
    inDirectories_of_indexOf?_eq_none (indexOf?_eq_none_iff.2 hremoved),
    scanned_remove hindex ht hlibrary hkept hload]

/-- In a tree whose names are of one component, as that of the index is, the plugins in several directories
are those in each, one after another, with what is found twice listed twice. Where the text of an index is
in its place, the plugins are those of the index, and the same in every tree with that text in which the
directory is one, with every loader. Where none can be read, they are those of a scan, and the same without
what is in the place of the index, unless that is called like a library, or is a directory through which
the path to the directory leads. They are found by a loader that answers as before, and a loader that
looks at nothing but the libraries does. -/
theorem inDirectories_by_index (hindex : Path.IsName s.indexFileName) (ht : t.IsNamed)
    (load : Loader) (dirs : List String) (tag : String) :
    inDirectories s load t dirs tag
        = dirs.flatMap (fun dir => inDirectories s load t [dir] tag) ∧
    ∀ dir, let path := Path.join dir s.indexFileName
      (∀ text i, t.readText path = .ok text → ofText? text = some i →
        inDirectories s load t [dir] tag
            = (if t.isDirectory dir then i.findings.filter (offers tag) else []) ∧
        ∀ (t' : FileTree) (load' : Loader), t'.isDirectory dir = t.isDirectory dir →
          t'.read path = t.read path →
          inDirectories s load' t' [dir] tag = inDirectories s load t [dir] tag) ∧
      (IsUnreadable t path →
        inDirectories s load t [dir] tag = (scanned s load t dir).filter (offers tag) ∧
        (s.isLibraryName s.indexFileName = false →
          (t.isDirectory path = true → (t.remove path).isDirectory dir = t.isDirectory dir) →
          inDirectories s (fun _ => load t) (t.remove path) [dir] tag
              = inDirectories s load t [dir] tag ∧
          (load.IsLocal →
            inDirectories s load (t.remove path) [dir] tag
              = inDirectories s load t [dir] tag))) := by
  refine ⟨inDirectories_eq_flatMap dirs tag,
    fun dir => ⟨fun text i htext hi => ?_, fun hunreadable => ?_⟩⟩
  · have hread := inDirectories_of_indexOf? (indexOf?_eq_some_iff.2 ⟨text, htext, hi⟩) load tag
    refine ⟨hread, fun t' load' hdir hcontent => ?_⟩
    have htext' : t'.readText (Path.join dir s.indexFileName) = .ok text := by
      rw [FileTree.readText, hcontent]
      exact htext
    rw [inDirectories_of_indexOf? (indexOf?_eq_some_iff.2 ⟨text, htext', hi⟩) load' tag, hdir, hread]
  · refine ⟨inDirectories_of_indexOf?_eq_none (indexOf?_eq_none_iff.2 hunreadable) tag, ?_⟩
    intro hlibrary hdir
    refine ⟨?_, fun hlocal => ?_⟩
    · exact inDirectories_remove hindex ht hlibrary hunreadable hdir (fun _ _ => rfl) tag
    · exact inDirectories_remove hindex ht hlibrary hunreadable hdir (hlocal t _) tag

/-- A library beside bytes that are no text, in the place of the index: it is found as it is without
them. -/
theorem inDirectories_by_index_bytes :
    let t : FileTree := ⟨[(["p"], .directory), (["p", "pluginindex.json"], .file [0xFF]),
      (["p", "a.so"], .file (Utf8.encode "PLUGIN_METADATA{}".toList))], [], by decide⟩
    inDirectories .default .embedded t ["/p"] "" = [⟨.empty, "/p/a.so", .scan⟩] ∧
      inDirectories .default .embedded (t.remove "/p/pluginindex.json") ["/p"] ""
        = [⟨.empty, "/p/a.so", .scan⟩] := by
  intro t
  have hfound : inDirectories .default .embedded t ["/p"] "" = [⟨.empty, "/p/a.so", .scan⟩] := by
    decide +kernel
  have hnamed : t.IsNamed := by
    unfold FileTree.IsNamed
    decide +kernel
  have hpath : Path.join "/p" Settings.default.indexFileName = "/p/pluginindex.json" := by
    decide +kernel
  have hbytes : IsUnreadable t (Path.join "/p" Settings.default.indexFileName) := by
    rw [hpath]
    exact .inr (.inr (.inl (by decide +kernel)))
  have hplain : t.isDirectory (Path.join "/p" Settings.default.indexFileName) = false := by
    rw [hpath]
    decide +kernel
  have hroot := (inDirectories_by_index (s := Settings.default) (by decide +kernel) hnamed .embedded
    ["/p"] "").2 "/p"
  have hremoved := (hroot.2 hbytes).2 (by decide +kernel) (by rw [hplain]; nofun)
  rw [hpath] at hremoved
  exact ⟨hfound, by rw [hremoved.2 Loader.isLocal_embedded, hfound]⟩

/-- A directory that is named by a path through another one, which is in the place of its index: the
library in it is found, but not once the other directory is removed. Nor need a library be found without
a file in the place of the index by a loader that looks for that file. -/
theorem inDirectories_through_index :
    let s := Settings.default
    let through : FileTree := ⟨[(["p"], .directory), (["p", "pluginindex.json"], .directory),
      (["p", "a.so"], .file [])], [], by decide⟩
    let beside : FileTree := ⟨[(["p"], .directory), (["p", "pluginindex.json"], .file []),
      (["p", "a.so"], .file [])], [], by decide⟩
    let load : Loader := fun _ _ => some .empty
    let curious : Loader := fun t _ => if t.isFile "/p/pluginindex.json" then some .empty else none
    let dir := "/p/pluginindex.json/.."
    Path.IsName s.indexFileName ∧ s.isLibraryName s.indexFileName = false ∧
      (through.isDirectory (Path.join dir s.indexFileName) = true ∧
        inDirectories s load through [dir] "" = [⟨.empty, "/p/pluginindex.json/../a.so", .scan⟩] ∧
        inDirectories s load (through.remove (Path.join dir s.indexFileName)) [dir] "" = []) ∧
      ((indexOf? s beside "/p").isNone = true ∧
        inDirectories s curious beside ["/p"] "" = [⟨.empty, "/p/a.so", .scan⟩] ∧
        inDirectories s curious (beside.remove "/p/pluginindex.json") ["/p"] "" = []) := by
  decide +kernel

end Finding

end PluginCatalog
