/-!
# The parts of a descriptor

A compiled schema is described by messages of fixed kinds, its parts: a set of files, a file, a
message declaration, the options of a field and so on. `Part.kind?` gives the kind of value that
each of their fields holds. A field that is not in the table is unknown to this program.
-/

namespace ServiceCli.Wire

/-- A part of a descriptor, or of the request that a plugin is given. -/
inductive Part where
  | pluginRequest | compilerVersion | fileSet | file | message | extensionRange
  | extensionRangeOptions | reservedRange | field | oneof | enum | enumRange | enumValue | service
  | method | fileOptions | messageOptions | fieldOptions | oneofOptions | enumOptions
  | enumValueOptions | serviceOptions | methodOptions | freeOption | namePart | sourceInfo
  | location
  deriving DecidableEq, Repr

/-- The kind of value that a field of a part holds. -/
inductive Kind where
  | text
  | bytes
  | number
  /-- A list of numbers, each in a piece of its own or several in one. -/
  | numbers
  | eight
  | part (p : Part)
  deriving DecidableEq, Repr

namespace Part

/-- The fields of a part that are known, by their numbers. -/
def kinds : Part → List (Nat × Kind)
  | pluginRequest => [(1, .text), (2, .text), (3, .part compilerVersion), (15, .part file)]
  | compilerVersion => [(1, .number), (2, .number), (3, .number), (4, .text)]
  | fileSet => [(1, .part file)]
  | file => [(1, .text), (2, .text), (3, .text), (4, .part message), (5, .part enum),
    (6, .part service), (7, .part field), (8, .part fileOptions), (9, .part sourceInfo),
    (10, .numbers), (11, .numbers), (12, .text)]
  | message => [(1, .text), (2, .part field), (3, .part message), (4, .part enum),
    (5, .part extensionRange), (6, .part field), (7, .part messageOptions), (8, .part oneof),
    (9, .part reservedRange), (10, .text)]
  | extensionRange => [(1, .number), (2, .number), (3, .part extensionRangeOptions)]
  | extensionRangeOptions => [(999, .part freeOption)]
  | reservedRange => [(1, .number), (2, .number)]
  | field => [(1, .text), (2, .text), (3, .number), (4, .number), (5, .number), (6, .text),
    (7, .text), (8, .part fieldOptions), (9, .number), (10, .text), (17, .number)]
  | oneof => [(1, .text), (2, .part oneofOptions)]
  | enum => [(1, .text), (2, .part enumValue), (3, .part enumOptions), (4, .part enumRange),
    (5, .text)]
  | enumRange => [(1, .number), (2, .number)]
  | enumValue => [(1, .text), (2, .number), (3, .part enumValueOptions)]
  | service => [(1, .text), (2, .part method), (3, .part serviceOptions)]
  | method => [(1, .text), (2, .text), (3, .text), (4, .part methodOptions), (5, .number),
    (6, .number)]
  | fileOptions => [(1, .text), (8, .text), (9, .number), (10, .number), (11, .text),
    (16, .number), (17, .number), (18, .number), (20, .number), (23, .number), (27, .number),
    (31, .number), (36, .text), (37, .text), (39, .text), (40, .text), (41, .text),
    (42, .number), (44, .text), (45, .text), (999, .part freeOption)]
  | messageOptions => [(1, .number), (2, .number), (3, .number), (7, .number),
    (999, .part freeOption)]
  | fieldOptions => [(1, .number), (2, .number), (3, .number), (5, .number), (6, .number),
    (10, .number), (999, .part freeOption)]
  | oneofOptions => [(999, .part freeOption)]
  | enumOptions => [(2, .number), (3, .number), (999, .part freeOption)]
  | enumValueOptions => [(1, .number), (999, .part freeOption)]
  | serviceOptions => [(33, .number), (999, .part freeOption)]
  | methodOptions => [(33, .number), (34, .number), (999, .part freeOption)]
  | freeOption => [(2, .part namePart), (3, .text), (4, .number), (5, .number), (6, .eight),
    (7, .bytes), (8, .text)]
  | namePart => [(1, .text), (2, .number)]
  | sourceInfo => [(1, .part location)]
  | location => [(1, .numbers), (2, .numbers), (3, .text), (4, .text), (6, .text)]

/-- The kind of value that a field holds, if it is known. -/
def kind? (p : Part) (tag : Nat) : Option Kind :=
  p.kinds.lookup tag

end Part

end ServiceCli.Wire
