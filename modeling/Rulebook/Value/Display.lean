import Rulebook.Value.Coercion
import Rulebook.Text.Quoted

/-!
Values as messages show them: `display` puts texts between quotes, `plainText` leaves a text at the
top as it is.
-/

namespace Rulebook

def Scalar.display : Scalar → String
  | .missing => "MISSING"
  | .null => "None"
  | .bool b => if b then "True" else "False"
  | .number n => n.text
  | .text s => quoted s

/-- The name of the type of a value in the messages of faults. -/
def Value.typeName : Value → String
  | .missing => "_Missing"
  | .null => "NoneType"
  | .bool _ => "bool"
  | .int _ => "int"
  | .float _ => "float"
  | .text _ => "str"
  | .list _ => "list"
  | .object _ => "dict"

/-- A scalar as plain text. -/
def Scalar.plainText : Scalar → String
  | .text s => s
  | s => s.display

mutual

/-- A value with quoted texts. -/
def Value.display : Value → String
  | .scalar s => s.display
  | .list items => "[" ++ ", ".intercalate (Value.displayItems items) ++ "]"
  | .object members => "\x7b" ++ ", ".intercalate (Value.displayMembers members) ++ "\x7d"
termination_by structural v => v

def Value.displayItems : List Value → List String
  | [] => []
  | v :: rest => v.display :: Value.displayItems rest
termination_by structural vs => vs

def Value.displayMembers : List (Scalar × Value) → List String
  | [] => []
  | (k, v) :: rest => (k.display ++ ": " ++ v.display) :: Value.displayMembers rest
termination_by structural ms => ms

end

/-- A value as plain text. -/
def Value.plainText : Value → String
  | .scalar s => s.plainText
  | v => v.display

end Rulebook
