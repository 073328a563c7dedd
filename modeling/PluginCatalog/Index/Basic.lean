import PluginCatalog.Json.Decoder
import PluginCatalog.Json.Printer
import PluginCatalog.Metadata.Field
import PluginCatalog.Property.Bag

/-!
# Plugin indexes

An index lists the plugins of a directory, so that the libraries need not be opened. It is a JSON
document with an optional version, an optional time in seconds since 1970, and for each plugin the
path of its library and its metadata.
-/

namespace PluginCatalog

/-- A plugin in an index. -/
structure IndexEntry where
  /-- The path of its library. -/
  path : String
  /-- Its metadata. -/
  metadata : Dict Json

/-- An index. -/
structure PluginIndex where
  /-- The version of its form. -/
  version : Option UInt32
  /-- The time of its making, in seconds. -/
  timestamp : Option Binary64
  /-- The plugins by identifier. -/
  plugins : Dict IndexEntry

/-- A time: whole seconds since 1970, and the nanoseconds after them. -/
structure Timestamp where
  seconds : Int
  nanoseconds : Nat
  deriving DecidableEq

namespace PluginIndex

/-! ## Decoding -/

/-- The number of the version. -/
def version? : Json.Tree → Option UInt32
  | .number (some (.integer n _)) => if 0 ≤ n ∧ n < 0x100000000 then some (.ofNat n.toNat) else none
  | _ => none

/-- The number of seconds. -/
def seconds? : Json.Tree → Option Binary64
  | .number n => n.map JsonNumber.toBinary64
  | _ => none

/-- A JSON object as metadata. Three containers are around it. -/
def metadata? (t : Json.Tree) : Option (Dict Json) :=
  match t.json? (Json.maxDepth - 3) with
  | some (.object members) => some (.ofList members)
  | _ => none

/-- Decodes a plugin. -/
def plugin? (t : Json.Tree) : Option IndexEntry := do
  match ← t.fixedMembers? ["path", "metadata"] with
  | [path, metadata] =>
    return {
      path := ← Json.Tree.orDefault "" Json.Tree.text? path
      metadata := ← Json.Tree.orDefault .empty metadata? metadata }
  | _ => none

/-- Decodes the plugins by identifier; of several with one identifier the last is kept. -/
def plugins? : Json.Tree → Option (Dict IndexEntry)
  | .object members => do
    let members ← Json.Tree.namedMembers? members
    return .ofList (← members.mapM fun m => (plugin? m.2).map (m.1, ·))
  | _ => none

/-- Decodes an index. -/
def ofTree? (t : Json.Tree) : Option PluginIndex := do
  match ← t.fixedMembers? ["version", "timestamp", "plugins"] with
  | [version, timestamp, plugins] =>
    return {
      version := ← Json.Tree.optional version? version
      timestamp := ← Json.Tree.optional seconds? timestamp
      plugins := ← plugins?  (← plugins) }
  | _ => none

/-- Reads an index from its text. -/
def ofText? (s : String) : Option PluginIndex := (Json.Tree.ofText? s.toList).bind ofTree?

/-! ## Writing -/

/-- An integer of 32 bits as a JSON value. -/
def versionJson (n : UInt32) : Json :=
  .number (.integer n.toNat ⟨by omega, by have := n.toNat_lt; omega⟩)

/-- A plugin as a JSON value. -/
def entryJson (e : IndexEntry) : Json :=
  .object [("path", .string e.path), ("metadata", .ofDict e.metadata)]

/-- An index as a JSON value. -/
def toJson (i : PluginIndex) : Json :=
  .object [
    ("version", (i.version.map versionJson).getD .null),
    ("timestamp", (i.timestamp.map Json.ofBinary64).getD .null),
    ("plugins", .ofDict (i.plugins.map fun _ e => entryJson e))]

/-- The text of an index. -/
def text (i : PluginIndex) : String := i.toJson.prettyText

/-! ## The time of an index -/

/-- The seconds that a calendar date can have. -/
def isDate (seconds : Int) : Bool := -8334601228800 ≤ seconds && seconds ≤ 8210266876799

/-- The nanoseconds in a second. -/
def nanosecondsPerSecond : Nat := 1000000000

/-- The time at a number of seconds, to the nanosecond below. A full second of nanoseconds is a leap
second, which only the last second of a minute has. -/
def timeAt? (x : Binary64) : Option Timestamp :=
  let seconds := x.floor
  let fraction := Magnitude.ofUnits x.unitsAboveFloor 1
  let nanoseconds := (fraction.mul (.ofNat nanosecondsPerSecond)).units / unitsPerOne
  if isDate seconds && (nanoseconds < nanosecondsPerSecond || seconds % 60 = 59) then
    some ⟨seconds, nanoseconds⟩
  else none

/-- The time at which an index was made, if it says so. -/
def generatedAt? (i : PluginIndex) : Option Timestamp := i.timestamp.bind timeAt?

end PluginIndex

end PluginCatalog
