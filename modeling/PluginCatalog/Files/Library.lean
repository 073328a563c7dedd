import PluginCatalog.Files.Tree
import PluginCatalog.Json.Tree
import PluginCatalog.Path
import PluginCatalog.Property.Bag
import PluginCatalog.Text.Quoted

/-!
# Metadata in library files

A library carries its metadata as a JSON object right after the first occurrence of a marker. Only the
value after the marker is read; the object ends with its brace, whatever bytes follow. A library
without the marker, or with nothing after it, has no metadata.
-/

namespace PluginCatalog

/-- Why the metadata of a library cannot be read. -/
inductive LibraryError where
  /-- The file cannot be read. -/
  | unreadable (path : String) (cause : FileError)
  /-- What follows the marker is no JSON value. -/
  | undecodable (path : String)
  /-- The value after the marker is no object. -/
  | notObject (path : String)
  deriving DecidableEq

/-- The wording of an error. -/
def LibraryError.message : LibraryError → String
  | unreadable path _ => "Failed to read library: " ++ Text.quoted path
  | undecodable path => "Failed to decode embedded metadata in " ++ Text.quoted path
  | notObject path => "Embedded metadata in " ++ Text.quoted path ++ " is not a JSON object"

namespace Library

/-- The bytes before the metadata of a library. -/
def marker : List UInt8 := Utf8.encode "PLUGIN_METADATA".toList

/-- The bytes after the first marker. -/
def afterMarker? : List UInt8 → Option (List UInt8)
  | [] => none
  | b :: rest =>
    if marker.isPrefixOf (b :: rest) then some ((b :: rest).drop marker.length)
    else afterMarker? rest

/-- Whether a value shows its own end: those without brackets or quotes do not. -/
def showsEnd : Json.Tree → Bool
  | .string _ | .array _ | .object _ => true
  | .null | .bool _ | .number _ => false

/-- Whether the text after a value that does not show its own end lets it end there. -/
def mayEnd (rest : List Char) : Bool :=
  match rest with
  | [] => true
  | c :: _ => Json.isSpace c || ['"', '[', ']', '{', '}', ',', ':'].contains c

/-- What the text after a marker holds. -/
inductive Payload where
  /-- Nothing but space. -/
  | nothing
  /-- No JSON value. -/
  | undecodable
  /-- A JSON value. -/
  | value (j : Json)

/-- Reads the text after a marker. -/
def readPayload (s : List Char) : Payload :=
  if s.all Json.isSpace then .nothing
  else
    match Json.Tree.read? s with
    | none => .undecodable
    | some (t, rest) =>
      match Json.ofTree? t with
      | none => .undecodable
      | some j => if showsEnd t || mayEnd rest then .value j else .undecodable

/-- The properties in a JSON object, without those that are `null`. -/
def propertiesOf (members : List (String × Json)) : Properties :=
  (Dict.ofList members).filterMap fun _ j => Value.ofJson? j

/-- The metadata in the bytes of the library at a path. -/
def metadataIn (path : String) (bytes : List UInt8) : Except LibraryError (Option Properties) :=
  match afterMarker? bytes with
  | none => .ok none
  | some payload =>
    match readPayload (Utf8.leadingText payload) with
    | .nothing => .ok none
    | .undecodable => .error (.undecodable path)
    | .value (.object members) => .ok (some (propertiesOf members))
    | .value _ => .error (.notObject path)

/-- The metadata of the library at a path. -/
def readMetadata (t : FileTree) (path : String) : Except LibraryError (Option Properties) :=
  match t.read path with
  | .error cause => .error (.unreadable path cause)
  | .ok bytes => metadataIn path bytes

end Library

/-- Where the metadata of libraries comes from: none for a library without metadata. -/
abbrev Loader := FileTree → String → Option Properties

namespace Loader

/-- Reads the metadata in the library itself; metadata that cannot be read counts as none. -/
def embedded : Loader := fun t path =>
  match Library.readMetadata t path with
  | .ok metadata => metadata
  | .error _ => none

/-- Takes the metadata from a list by file name. -/
def ofList (metadata : Dict Properties) : Loader := fun _ path =>
  (Path.fileName? path).bind metadata.get?

end Loader

end PluginCatalog
