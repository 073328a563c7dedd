import Mathlib.Data.List.Nodup
import PluginCatalog.Proofs.Files.Writing
import PluginCatalog.Proofs.Index.Decoding
import PluginCatalog.Proofs.Index.Entries
import PluginCatalog.Proofs.Text.ByteOrder

/-!
# Finding plugins in a written index

After the index of a directory is written, the plugins in the directory are those of the index
(`Finding.inDirectories_eq_findings`). Of the plugins that were scanned these are the last of each
key, by key (`PluginIndex.mem_findings_ofFindings`), and all of them if no two have one key
(`PluginIndex.findings_ofFindings`). Since each has the record that it had when it was scanned, the
index replaces the scan (`Finding.inDirectories_writeIndex`).
-/

namespace PluginCatalog

/-! ## Collecting by key -/

namespace Dict

variable {α β : Type} (key : α → String) (val : α → β) (l : List α)

/-- A lookup finds the first of those with a key. -/
theorem lookup_map (k : String) :
    lookup k (l.map fun a => (key a, val a)) = (l.find? fun a => key a = k).map val := by
  induction l with
  | nil => rfl
  | cons a l ih =>
    rw [List.map_cons, lookup, ih, List.find?_cons]
    by_cases hk : key a = k
    · simp [hk]
    · simp [hk, Ne.symm hk]

/-- What is collected by key is the last of each key. -/
theorem get?_ofList_map (k : String) :
    (ofList (l.map fun a => (key a, val a))).get? k
      = ((l.filter fun a => key a = k).getLast?).map val := by
  rw [get?_ofList, ← List.map_reverse, lookup_map, ← List.head?_filter, List.filter_reverse,
    List.head?_reverse]

/-- What is collected by different keys is sorted by them. -/
theorem toList_ofList_map (h : (l.map key).Nodup) :
    (ofList (l.map fun a => (key a, val a))).toList
      = (l.mergeSort fun a b => key a ≤ key b).map fun a => (key a, val a) := by
  -- Both lists increase strictly in their keys, so it is enough that they have the same members.
  refine eq_of_mem_iff (ofList _).sorted ?_ fun ⟨k, v⟩ => ?_
  · rw [List.pairwise_map, ← List.pairwise_map (f := key) (R := (· < ·))]
    exact Text.pairwise_map_mergeSort key h
  · rw [← get?_eq_some_iff, get?_ofList_of_unique]
    · simp [List.mem_map, (List.mergeSort_perm l fun a b => key a ≤ key b).mem_iff]
    · intro k v v' hv hv'
      obtain ⟨a, ha, he⟩ := List.mem_map.1 hv
      obtain ⟨a', ha', he'⟩ := List.mem_map.1 hv'
      obtain ⟨hk, rfl⟩ := Prod.mk.inj he
      obtain ⟨hk', rfl⟩ := Prod.mk.inj he'
      rw [List.inj_on_of_nodup_map h ha ha' (hk.trans hk'.symm)]

end Dict

/-! ## The plugins of an index that was made of others -/

namespace PluginIndex

variable (now : Int) {found : List Finding}

/-- An index that is made of some plugins lists the last of each key. -/
theorem get?_plugins_ofFindings (found : List Finding) (k : String) :
    (ofFindings now found).plugins.get? k
      = ((found.filter fun f => keyOf f = k).getLast?).map entryOf :=
  Dict.get?_ofList_map keyOf entryOf found k

/-- The last plugin of a key is one of the plugins, and has the key itself. -/
theorem mem_of_getLast?_filter {f : Finding} {k : String}
    (h : (found.filter fun g => keyOf g = k).getLast? = some f) : f ∈ found ∧ keyOf f = k := by
  have hf := List.mem_filter.1 (List.mem_of_getLast? h)
  exact ⟨hf.1, of_decide_eq_true hf.2⟩

/-- What an index that is made of some plugins lists under a key is one of the plugins. -/
theorem exists_of_get?_plugins {k : String} {e : IndexEntry}
    (h : (ofFindings now found).plugins.get? k = some e) :
    ∃ f, (found.filter fun g => keyOf g = keyOf f).getLast? = some f ∧ f ∈ found ∧ k = keyOf f ∧
      e = entryOf f := by
  rw [get?_plugins_ofFindings, Option.map_eq_some_iff] at h
  obtain ⟨f, hlast, rfl⟩ := h
  obtain ⟨hf, rfl⟩ := mem_of_getLast?_filter hlast
  exact ⟨f, hlast, hf, rfl, rfl⟩

/-- An index that is made of some plugins holds the last of each key. -/
theorem mem_findings_ofFindings {f' : Finding} :
    f' ∈ (ofFindings now found).findings
      ↔ ∃ f, (found.filter fun g => keyOf g = keyOf f).getLast? = some f ∧ f' = f.indexed := by
  unfold findings
  rw [List.mem_map]
  constructor
  · rintro ⟨⟨k, e⟩, hm, rfl⟩
    obtain ⟨f, hlast, -, rfl, rfl⟩ := exists_of_get?_plugins now (Dict.get?_eq_some_iff.2 hm)
    exact ⟨f, hlast, rfl⟩
  · rintro ⟨f, hlast, rfl⟩
    refine ⟨(keyOf f, entryOf f), ?_, rfl⟩
    rw [← Dict.get?_eq_some_iff, get?_plugins_ofFindings, hlast, Option.map_some]

/-- An index that is made of plugins of different keys holds all of them, by key. -/
theorem findings_ofFindings (h : (found.map keyOf).Nodup) :
    (ofFindings now found).findings
      = (found.mergeSort fun f g => keyOf f ≤ keyOf g).map Finding.indexed := by
  unfold findings ofFindings
  rw [Dict.toList_ofList_map keyOf entryOf found h, List.map_map]
  rfl

/-- An index that is made of some plugins has their keys. -/
theorem mem_keys_ofFindings {k : String} :
    k ∈ (ofFindings now found).plugins.keys ↔ k ∈ found.map keyOf := by
  have hkey : k ∈ (ofFindings now found).plugins.keys
      ↔ ∃ e, (ofFindings now found).plugins.get? k = some e := by
    simp [Dict.keys, Dict.get?_eq_some_iff]
  rw [hkey, List.mem_map]
  constructor
  · rintro ⟨e, he⟩
    obtain ⟨f, -, hf, hkey, -⟩ := exists_of_get?_plugins now he
    exact ⟨f, hf, hkey.symm⟩
  · rintro ⟨f, hf, rfl⟩
    have hne : (found.filter fun g => keyOf g = keyOf f) ≠ [] :=
      List.ne_nil_of_mem (List.mem_filter.2 ⟨hf, decide_eq_true rfl⟩)
    rw [get?_plugins_ofFindings, List.getLast?_eq_some_getLast hne]
    exact ⟨_, rfl⟩

/-- The metadata in an index that is made of some plugins consists of property values. -/
theorem holdsValues_ofFindings (key : String) (e : IndexEntry)
    (h : (ofFindings now found).plugins.get? key = some e) : HoldsValues e := by
  obtain ⟨f, -, -, -, rfl⟩ := exists_of_get?_plugins now h
  intro name j hj
  rw [entryOf, Dict.get?_map, Option.map_eq_some_iff] at hj
  obtain ⟨v, -, rfl⟩ := hj
  exact ⟨v, rfl⟩

/-- The plugins of an index have its keys, in order. -/
theorem map_keyOf_findings (hfinite : ∀ f ∈ found, f.metadata.IsFinite) :
    (ofFindings now found).findings.map keyOf = (ofFindings now found).plugins.keys := by
  unfold findings Dict.keys
  rw [List.map_map]
  refine List.map_congr_left fun ⟨k, e⟩ hm => ?_
  obtain ⟨f, -, hf, rfl, rfl⟩ := exists_of_get?_plugins now (Dict.get?_eq_some_iff.2 hm)
  exact Finding.keyOf_indexed (hfinite f hf)

/-! ## Reading what was written -/

/-- The time of an index does not matter to its plugins. -/
theorem findings_withTimestamp (i : PluginIndex) (timestamp : Option Binary64) :
    findings { i with timestamp } = i.findings := rfl

/-- Writing an index is writing its text. -/
theorem write_text {i : PluginIndex} {t t' : FileTree} {path : String}
    (h : i.write t path = .ok t') : t.write path (Utf8.encode i.text.toList) = .ok t' := by
  rw [write] at h
  cases hwrite : t.write path (Utf8.encode i.text.toList) with
  | error e =>
    rw [hwrite] at h
    cases h
  | ok t'' =>
    rw [hwrite] at h
    cases h
    rfl

/-- A written index is read again, but for a time that JSON cannot write. -/
theorem read?_write {i : PluginIndex} {t t' : FileTree} {path : String}
    (h : i.write t path = .ok t') (hread : i.toJson.ReadsBack)
    (hvalues : ∀ key e, i.plugins.get? key = some e → HoldsValues e) :
    read? t' path = some { i with timestamp := i.timestamp.filter Binary64.isFinite } := by
  have htext : t'.readText path = .ok i.text := by
    simp only [FileTree.readText, FileTree.read_write (write_text h), bind, Except.bind, Utf8.text?_encode,
      String.ofList_toList]
  rw [read?, htext]
  exact ofText?_text hvalues hread

end PluginIndex

namespace Finding

open PluginIndex

variable {s : Settings} {load : Loader} {now : Int} {t : FileTree} {dir : String} {w : WrittenIndex}
  {found : List Finding}

/-- The plugins in a directory with an index are those of the index. -/
theorem inDirectory_of_indexOf? {i : PluginIndex} (h : indexOf? s t dir = some i) :
    inDirectory s load t dir = i.findings := by
  unfold inDirectory
  simp only [h]

/-- A directory that was scanned is a directory. -/
theorem isDirectory_of_scan (h : scan s load t dir = .ok found) : t.isDirectory dir = true := by
  rw [scan] at h
  split at h
  · cases h
  · rename_i names hlist
    exact FileTree.isDirectory_iff_exists_list.2 ⟨names, hlist⟩

/-- The index that is written of a directory is that of its plugins. -/
theorem write_of_writeIndex (hscan : scan s load t dir = .ok found)
    (hwrite : writeIndex s load now t dir = .ok w) :
    (ofFindings now found).write t (Path.join dir s.indexFileName) = .ok w.tree := by
  simp only [writeIndex, hscan, bind, Except.bind] at hwrite
  split at hwrite
  · cases hwrite
  · rename_i t' ht'
    cases hwrite
    exact ht'

/-- After the index of a directory was written, the plugins in the directory are those of the
index. -/
theorem inDirectories_eq_findings (hscan : scan s load t dir = .ok found)
    (hwrite : writeIndex s load now t dir = .ok w)
    (hread : (ofFindings now found).toJson.ReadsBack) :
    inDirectories s load w.tree [dir] "" = (ofFindings now found).findings := by
  have htree := write_of_writeIndex hscan hwrite
  -- The index is a file now, and writing it has left the directory a directory.
  have hfile : w.tree.isFile (Path.join dir s.indexFileName) = true :=
    FileTree.isFile_write (write_text htree)
  have hdir : w.tree.isDirectory dir = true :=
    FileTree.isDirectory_write (write_text htree) (isDirectory_of_scan hscan)
  have hindex : indexOf? s w.tree dir = some
      { ofFindings now found with
        timestamp := (ofFindings now found).timestamp.filter Binary64.isFinite } :=
    (if_pos hfile).trans (read?_write htree hread (holdsValues_ofFindings now))
  have hin : inDirectory s load w.tree dir = (ofFindings now found).findings :=
    (inDirectory_of_indexOf? hindex).trans (findings_withTimestamp (ofFindings now found) _)
  rw [inDirectories, List.flatMap_singleton, if_pos hdir, hin]
  exact List.filter_eq_self.2 fun _ _ => rfl

/-- After the index of a directory was written, finding the plugins in the directory gives one plugin
for each key of the plugins that were scanned, by key. It is at the place of the last of those with the
key, and has its record in every locale, if it has one. So if no two of the plugins have one key, their
records are found again, by key. This supposes that no number is `nan` or infinite, and that the numbers
in the text of the index are read as themselves. -/
theorem inDirectories_writeIndex (hscan : scan s load t dir = .ok found)
    (hwrite : writeIndex s load now t dir = .ok w)
    (hfinite : ∀ f ∈ found, f.metadata.IsFinite)
    (hread : (ofFindings now found).toJson.ReadsBack) :
    let after := inDirectories s load w.tree [dir] ""
    (after.map keyOf).Pairwise (· < ·) ∧
    (∀ k, k ∈ after.map keyOf ↔ k ∈ found.map keyOf) ∧
    (∀ f' ∈ after, ∃ f, (found.filter fun g => keyOf g = keyOf f').getLast? = some f ∧
      f'.libraryPath = f.libraryPath ∧
      ∀ locale, f'.record? locale = f.record? locale) ∧
    ((found.map keyOf).Nodup → ∀ locale,
      Record.normalizeAll locale (after.map fun f => (.flat f.metadata, f.libraryPath))
        = Record.normalizeAll locale ((found.mergeSort fun f g => keyOf f ≤ keyOf g).map
            fun f => (.flat f.metadata, f.libraryPath))) := by
  intro after
  have hafter : after = (ofFindings now found).findings :=
    inDirectories_eq_findings hscan hwrite hread
  -- What is found is the index read back, so the rest is about the entries made of the scan.
  have hkeys : after.map keyOf = (ofFindings now found).plugins.keys := by
    rw [hafter, map_keyOf_findings now hfinite]
  refine ⟨?_, fun k => ?_, fun f' hf' => ?_, fun hnodup locale => ?_⟩
  · rw [hkeys]
    exact List.pairwise_map.2 (ofFindings now found).plugins.sorted
  · rw [hkeys, mem_keys_ofFindings]
  · rw [hafter, mem_findings_ofFindings] at hf'
    obtain ⟨f, hlast, rfl⟩ := hf'
    have hf := (mem_of_getLast?_filter hlast).1
    refine ⟨f, ?_, rfl, record?_indexed (hfinite f hf)⟩
    rw [keyOf_indexed (hfinite f hf), hlast]
  · rw [hafter, findings_ofFindings now hnodup, normalizeAll_eq_filterMap, normalizeAll_eq_filterMap,
      List.filterMap_map]
    refine List.filterMap_congr fun f hf => ?_
    exact record?_indexed (hfinite f (List.mem_mergeSort.1 hf)) locale

/-- Three libraries, two of them with one identifier and one without metadata: the index holds the
second of the two, and the other by its file name. -/
theorem inDirectories_writeIndex_duplicate :
    let load : Loader := fun _ path =>
      if path = "/p/a.so" then some (.ofList [("X-Plugin-Id", .text "z")])
      else if path = "/p/b.so" then
        some (.ofList [("X-Plugin-Id", .text "z"), ("Cost", .number (.ofInt 2)), ("Free", .absent)])
      else some .empty
    let t : FileTree := ⟨[(["p"], .directory), (["p", "a.so"], .file []), (["p", "b.so"], .file []),
      (["p", "c.so"], .file [])], [], by decide⟩
    ∃ w, writeIndex .default load 0 t "/p" = .ok w ∧
      (∀ k, k ∈ (inDirectories .default load w.tree ["/p"] "").map keyOf ↔ k = "z" ∨ k = "c") ∧
      ∀ f' ∈ inDirectories .default load w.tree ["/p"] "",
        keyOf f' = "z" → f'.libraryPath = "/p/b.so" := by
  intro load t
  let found : List Finding :=
    [⟨.ofList [("X-Plugin-Id", .text "z")], "/p/a.so", .scan⟩,
     ⟨.ofList [("X-Plugin-Id", .text "z"), ("Cost", .number (.ofInt 2)), ("Free", .absent)],
      "/p/b.so", .scan⟩,
     ⟨.empty, "/p/c.so", .scan⟩]
  have hscan : scan .default load t "/p" = .ok found := by
    have hlist : t.list "/p" = .ok ["a.so", "b.so", "c.so"] := by decide +kernel
    have hfilter : (["a.so", "b.so", "c.so"].filter fun name =>
        t.isFile (Path.join "/p" name) && Settings.default.isLibraryName name)
        = ["a.so", "b.so", "c.so"] := by decide +kernel
    have hnames : libraryNames .default t "/p" ["a.so", "b.so", "c.so"]
        = ["a.so", "b.so", "c.so"] := by
      rw [libraryNames, hfilter]
      exact List.mergeSort_of_pairwise (by decide +kernel)
    rw [scan, hlist]
    simp only [hnames]
    decide +kernel
  have hplace : t.place (Path.join "/p" Settings.default.indexFileName)
      = .ok ["p", "pluginindex.json"] := by decide +kernel
  have hwrite : ∃ w, writeIndex .default load 0 t "/p" = .ok w := by
    simp only [writeIndex, hscan, write, FileTree.write, hplace, bind, Except.bind]
    exact ⟨_, rfl⟩
  have hfinite : ∀ f ∈ found, f.metadata.IsFinite := by
    have hvalues : ∀ f ∈ found, ∀ e ∈ f.metadata.toList,
        e.2 ∈ [Value.text "z", .number (.ofInt 2), .absent] := by decide +kernel
    intro f hf key v hv x hx
    have hmem := hvalues f hf (key, v) (Dict.get?_eq_some_iff.1 hv)
    rw [hx] at hmem
    have hx : x = .ofInt 2 := by simpa using hmem
    rw [hx]
    decide +kernel
  have hread : (ofFindings 0 found).toJson.ReadsBack := by decide +kernel
  obtain ⟨w, hw⟩ := hwrite
  obtain ⟨-, hkeys, hplugins, -⟩ := inDirectories_writeIndex hscan hw hfinite hread
  refine ⟨w, hw, fun k => ?_, fun f' hf' hkey => ?_⟩
  · rw [hkeys]
    have hfound : found.map keyOf = ["z", "z", "c"] := by decide +kernel
    simp [hfound]
  · obtain ⟨f, hlast, hpath, -⟩ := hplugins f' hf'
    rw [hkey] at hlast
    have hsecond : ((found.filter fun g => keyOf g = "z").getLast?).map (·.libraryPath)
        = some "/p/b.so" := by decide +kernel
    rw [hlast, Option.map_some, Option.some.injEq] at hsecond
    rw [hpath, hsecond]

end Finding

end PluginCatalog
