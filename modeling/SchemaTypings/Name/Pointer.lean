import SchemaTypings.Json.Pointer
import SchemaTypings.Name.Style

/-!
# Names from references

A reference to a named schema gives the type name of its last segment. A reference below a named
schema gives a name made of its whole way, so that two of them that end alike stay apart.
-/

namespace SchemaTypings.Name

/-- The type name of the schema that a reference names by its last segment. -/
def ofReference (reference : String) : String :=
  pascal (Pointer.lastKey reference)

/-- Segments that group schemas by keyword and add nothing to a name. -/
def isGroupSegment (segment : String) : Bool :=
  ["components", "allOf", "oneOf", "anyOf"].contains segment

/-- Segments after which the next one is a key chosen by the author of the document. -/
def opensKeys (segment : String) : Bool :=
  ["schemas", "definitions", "$defs", "properties", "patternProperties"].contains segment

/-- The part of a name that a segment other than an author's key gives. Positions are counted from
one, in 64 bits. -/
def segmentPart (segment : String) : String :=
  if segment == "items" then "Item"
  else if segment == "additionalProperties" then "Value"
  else match Word64.read? segment.toList with
    | some index => ((index + 1) % Word64.bound).repr
    | none => pascal segment

/-- The parts of a name that the segments give; the first one is an author's key if `keyed`. -/
def segmentParts (keyed : Bool) : List String → List String
  | [] => []
  | segment :: rest =>
    if keyed then pascal segment :: segmentParts false rest
    else if isGroupSegment segment then segmentParts false rest
    else if opensKeys segment then segmentParts true rest
    else segmentPart segment :: segmentParts false rest

/-- The segments of a reference that are not empty, unescaped. -/
def segments (reference : String) : List String :=
  let way := reference.toList.dropWhile (· == '#')
  ((Text.fields '/' way).filter fun segment => !segment.isEmpty).map fun segment =>
    String.ofList (Pointer.unescape segment)

/-- The type name of a place below a named schema:
`#/components/schemas/User/properties/address` gives `UserAddress`. -/
def ofPointer (reference : String) : String :=
  match segmentParts false (segments reference) with
  | [] => ofReference reference
  | parts => sanitize (String.join parts)

end SchemaTypings.Name
