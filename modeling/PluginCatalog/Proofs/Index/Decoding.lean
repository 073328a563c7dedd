import PluginCatalog.Index.Basic
import PluginCatalog.Proofs.Json.PrettyText

/-!
# Written indexes

The text of an index is decoded as the index (`PluginIndex.ofText?_text`), if its metadata is made of
property values and its numbers are read as themselves. Only a time that JSON cannot write is lost.
-/

namespace PluginCatalog

/-! ## The values of forms -/

namespace Json

/-- The members of an object have their values again if each of them has. -/
theorem jsonMembers?_treeMembers {members : List (String × Json)} {depth : Nat}
    (h : ∀ m ∈ members, m.2.tree.json? depth = some m.2) :
    Tree.jsonMembers? depth (treeMembers members) = some members := by
  induction members with
  | nil => rfl
  | cons m members ih =>
    obtain ⟨name, j⟩ := m
    rw [treeMembers, Tree.jsonMembers?, h (name, j) List.mem_cons_self,
      ih fun m hm => h m (List.mem_cons_of_mem _ hm)]
    rfl

/-- Strings have their values again. -/
theorem jsonItems?_treeItems_strings (items : List String) (depth : Nat) :
    Tree.jsonItems? depth (treeItems (items.map string)) = some (items.map string) := by
  induction items with
  | nil => rfl
  | cons s items ih =>
    rw [List.map_cons, treeItems, Tree.jsonItems?, ih]
    rfl

/-- The members of an object have names. -/
theorem namedMembers?_treeMembers (members : List (String × Json)) :
    Tree.namedMembers? (treeMembers members) = some (members.map fun m => (m.1, m.2.tree)) := by
  induction members with
  | nil => rfl
  | cons m members ih =>
    rw [treeMembers, Tree.namedMembers?, ih]
    rfl

end Json

/-- A property value has its value again. -/
theorem Value.json?_tree (v : Value) (depth : Nat) : v.toJson.tree.json? (depth + 1) = some v.toJson := by
  cases v with
  | absent => rfl
  | bool b => rfl
  | number x =>
    rw [toJson, Json.ofBinary64]
    split <;> rfl
  | text s => rfl
  | list items =>
    rw [toJson, Json.strings, Json.tree, Json.Tree.json?, Json.jsonItems?_treeItems_strings]
    rfl

namespace PluginIndex

/-! ## Decoding what was written -/

/-- The metadata of an entry is made of property values. -/
def HoldsValues (e : IndexEntry) : Prop :=
  ∀ key j, e.metadata.get? key = some j → ∃ v : Value, j = v.toJson

/-- Metadata is decoded again. -/
theorem metadata?_tree {e : IndexEntry} (h : HoldsValues e) :
    metadata? (Json.ofDict e.metadata).tree = some e.metadata := by
  have hmembers : ∀ m ∈ e.metadata.toList, m.2.tree.json? 123 = some m.2 := by
    rintro ⟨key, j⟩ hm
    obtain ⟨v, rfl⟩ := h key j (Dict.get?_eq_some_iff.2 hm)
    exact v.json?_tree 122
  have hvalue : (Json.ofDict e.metadata).tree.json? (Json.maxDepth - 3)
      = some (.ofDict (.ofList e.metadata.toList)) := by
    show ((Json.Tree.jsonMembers? 123 (Json.treeMembers e.metadata.toList)).map _) = _
    rw [Json.jsonMembers?_treeMembers hmembers]
    rfl
  rw [metadata?, hvalue]
  simp [Json.ofDict]

/-- An entry is decoded again. -/
theorem plugin?_tree {e : IndexEntry} (h : HoldsValues e) : plugin? (entryJson e).tree = some e := by
  have hmembers : (entryJson e).tree.fixedMembers? ["path", "metadata"]
      = some [some (.string (some e.path)), some (Json.ofDict e.metadata).tree] := rfl
  rw [plugin?, hmembers]
  show ((Json.Tree.orDefault .empty metadata? (some (Json.ofDict e.metadata).tree)).bind _) = _
  rw [Json.Tree.orDefault, metadata?_tree h]
  rfl

/-- The entries of an index are decoded again, one after another. -/
theorem mapM_plugin?_tree {entries : List (String × IndexEntry)} (h : ∀ m ∈ entries, HoldsValues m.2) :
    (entries.map fun m => (m.1, (entryJson m.2).tree)).mapM
      (fun m => (plugin? m.2).map (m.1, ·)) = some entries := by
  induction entries with
  | nil => rfl
  | cons m entries ih =>
    rw [List.map_cons, List.mapM_cons, plugin?_tree (h m List.mem_cons_self),
      ih fun m hm => h m (List.mem_cons_of_mem _ hm)]
    rfl

/-- The entries of an index are decoded again. -/
theorem plugins?_tree {plugins : Dict IndexEntry}
    (h : ∀ key e, plugins.get? key = some e → HoldsValues e) :
    plugins? (Json.ofDict (plugins.map fun _ e => entryJson e)).tree = some plugins := by
  have hentries : ∀ m ∈ plugins.toList, HoldsValues m.2 := fun m hm =>
    h m.1 m.2 (Dict.get?_eq_some_iff.2 hm)
  have hnamed : Json.Tree.namedMembers?
      (Json.treeMembers (plugins.map fun _ e => entryJson e).toList)
      = some (plugins.toList.map fun m => (m.1, (entryJson m.2).tree)) := by
    rw [Json.namedMembers?_treeMembers, Dict.toList_map, List.map_map]
    rfl
  rw [Json.ofDict, Json.tree, plugins?, hnamed]
  simp only [Option.bind_eq_bind, Option.bind_some, mapM_plugin?_tree hentries]
  exact congrArg some (Dict.ofList_toList plugins)

/-- The version of an index is decoded again. -/
theorem version?_tree (n : UInt32) : version? (versionJson n).tree = some n := by
  have hn := n.toNat_lt
  rw [versionJson, Json.tree, version?, if_pos ⟨by omega, by omega⟩, Int.toNat_natCast,
    UInt32.ofNat_toNat]

/-- The time of an index is decoded again, if JSON can write it. -/
theorem seconds?_tree (timestamp : Option Binary64) :
    Json.Tree.optional seconds? (some ((timestamp.map Json.ofBinary64).getD .null).tree)
      = some (timestamp.filter Binary64.isFinite) := by
  cases timestamp with
  | none => rfl
  | some x =>
    rw [Option.map_some, Option.getD_some, Json.ofBinary64]
    split
    · rename_i hx
      simp [Json.tree, Json.Tree.optional, seconds?, JsonNumber.toBinary64, Option.filter, hx]
    · rename_i hx
      simp [Json.tree, Json.Tree.optional, Option.filter, hx]

variable {i : PluginIndex} (h : ∀ key e, i.plugins.get? key = some e → HoldsValues e)

include h

/-- An index is decoded again, but for a time that JSON cannot write. -/
theorem ofTree?_tree :
    ofTree? i.toJson.tree = some { i with timestamp := i.timestamp.filter Binary64.isFinite } := by
  have hmembers : i.toJson.tree.fixedMembers? ["version", "timestamp", "plugins"]
      = some [some ((i.version.map versionJson).getD .null).tree,
        some ((i.timestamp.map Json.ofBinary64).getD .null).tree,
        some (Json.ofDict (i.plugins.map fun _ e => entryJson e)).tree] := rfl
  have hversion : Json.Tree.optional version? (some ((i.version.map versionJson).getD .null).tree)
      = some i.version := by
    cases hv : i.version with
    | none => rfl
    | some n =>
      have htree := version?_tree n
      rw [Option.map_some, Option.getD_some]
      rw [versionJson, Json.tree] at htree ⊢
      rw [Json.Tree.optional, htree]
      · rfl
      · simp
  rw [ofTree?, hmembers]
  simp only [Option.bind_eq_bind, Option.bind_some, hversion, seconds?_tree, plugins?_tree h]
  rfl

/-- The text of an index is decoded as the index, but for a time that JSON cannot write. -/
theorem ofText?_text (hread : i.toJson.ReadsBack) :
    ofText? i.text = some { i with timestamp := i.timestamp.filter Binary64.isFinite } := by
  rw [ofText?, text, Json.prettyText, String.toList_ofList, Json.Tree.ofText?_pretty hread,
    Option.bind_some, ofTree?_tree h]

end PluginIndex

end PluginCatalog
