import Rulebook.Json.Reader
import Rulebook.Text.Case

/-!
Layers of settings. A layer gives values to some names, and a section is a value that is an object. One
layer is laid over another key by key at every depth: what the upper layer gives wins, what it leaves out
shows through. The variables of the environment make a layer, in which `JSONRULES_SECTION__KEY` is a key of
a section.
-/

namespace Rulebook

/-- Values under names. -/
abbrev Layer := List (Scalar × Value)

mutual

/-- Lays a value over another: two objects are merged, and otherwise the upper value is taken. -/
def Value.overlay : Value → Value → Value
  | .object lower, .object upper => .object (Layer.overlay lower upper)
  | _, upper => upper
termination_by structural _ upper => upper

/-- Lays a layer over another. -/
def Layer.overlay (lower : Layer) : List (Scalar × Value) → Layer
  | [] => lower
  | (name, v) :: rest =>
    let merged := match Ordered.get? name lower with
      | some w => Value.overlay w v
      | none => v
    Layer.overlay (Ordered.insert name merged lower) rest
termination_by structural upper => upper

end

namespace Layer

/-- The value under a name. -/
def get? (layer : Layer) (name : String) : Option Value := Ordered.get? (.text name) layer

/-- Gives a text to the last of some names, with an object for each name before it; a text on the way
is left as it is. -/
def assign (s : String) : List String → Layer → Layer
  | [], layer => layer
  | [name], layer => Ordered.insert (.text name) (.text s) layer
  | name :: rest, layer =>
    match layer.get? name with
    | none => Ordered.insert (.text name) (.object (assign s rest [])) layer
    | some (.object inner) => Ordered.insert (.text name) (.object (assign s rest inner)) layer
    | some _ => layer

/-- Takes a name to one of some known names if it differs from it in letter case alone. -/
def knownName (known : List String) : Scalar → Scalar
  | .text s => .text (if known.contains (lowerText s) then lowerText s else s)
  | name => name

/-- Takes names to known names where they differ in letter case alone. -/
def renamed (known : List String) (layer : Layer) : Layer :=
  Ordered.ofList (layer.map fun (name, v) => (knownName known name, v))

end Layer

/-! ## The environment -/

namespace Environment

/-- What the names of variables that give settings start with. -/
def lead : String := "jsonrules_"

/-- Variables under their names in small letters. -/
def smallNamed (given : List (String × String)) : List (String × String) :=
  Ordered.ofList (given.map fun (name, s) => (lowerText name, s))

/-- The text after a start. -/
def after? (start s : String) : Option String :=
  if start.toList.isPrefixOf s.toList then some (String.ofList (s.toList.drop start.length)) else none

/-- The texts between pairs of underscores; `before` is the beginning of the first, in reverse. -/
def partsAfter (before : List Char) : List Char → List String
  | [] => [String.ofList before.reverse]
  | '_' :: '_' :: rest => String.ofList before.reverse :: partsAfter [] rest
  | c :: rest => partsAfter (c :: before) rest

/-- The names that lead to a value, from the section down. -/
def keyParts (s : String) : List String := partsAfter [] s.toList

/-- Adds what a variable gives to a key of a section, if it is one. -/
def addKey (name : String) (layer : Layer) (v : String × String) : Layer :=
  match after? (lead ++ name ++ "__") v.1 with
  | some rest => layer.assign v.2 (keyParts rest)
  | none => layer

/-- The keys of a section that variables of their own give. -/
def sectionKeys (name : String) (given : List (String × String)) : Layer := given.foldl (addKey name) []

/-- The value of a section with some known keys. A variable of its name holds a JSON document, over
which its keys are laid if it is an object; null counts as nothing, for the keys as well. -/
def sectionValue? (name : String) (known : List String) (given : List (String × String)) :
    Except Json.Error (Option Value) :=
  let keys := sectionKeys name given
  match given.lookup (lead ++ name) with
  | none => .ok (if keys.isEmpty then none else some (.object (keys.renamed known)))
  | some text => do
    match ← Json.parse text with
    | .null => return none
    | .object document => return some (.object ((Layer.overlay document keys).renamed known))
    | v => return some v

end Environment

end Rulebook
