import Rulebook.Value.Display

/-!
Messages with places for arguments: `%s` takes the next argument as plain text, `%r` takes it with quoted
texts, `%d` takes an integer, and `%%` is a percent sign. A message without arguments is taken as it is;
one whose places do not fit its arguments cannot be filled.
-/

namespace Rulebook.Log

/-- The argument at a place of a kind. -/
def placeText? (kind : Char) (v : Value) : Option String :=
  match kind, v with
  | 's', v => some v.plainText
  | 'r', v => some v.display
  | 'd', .int n => some (toString n)
  | 'd', .bool b => some (if b then "1" else "0")
  | _, _ => none

/-- Fills the places of a template from left to right with all of the arguments. -/
def fillPlaces? : List Char → List Value → Option String
  | [], [] => some ""
  | [], _ :: _ => none
  | '%' :: '%' :: rest, args => do return "%" ++ (← fillPlaces? rest args)
  | '%' :: kind :: rest, v :: args => do return (← placeText? kind v) ++ (← fillPlaces? rest args)
  | '%' :: _, _ => none
  | c :: rest, args => do return String.singleton c ++ (← fillPlaces? rest args)

/-- A message with its arguments. -/
def fill? (template : String) (args : List Value) : Option String :=
  if args.isEmpty then some template else fillPlaces? template.toList args

end Rulebook.Log
