import Rulebook.Value.Basic

/-!
Structural equality of values. A truth value equals only itself, numbers are equal by exact value,
lists element by element and objects member by member, whatever the order of their members.
-/

namespace Rulebook

/-- Equality of scalars; kinds do not mix, and an indefinite number equals nothing. -/
def Scalar.equal : Scalar → Scalar → Bool
  | .missing, .missing => true
  | .null, .null => true
  | .bool a, .bool b => a == b
  | .number a, .number b => a.eq b
  | .text a, .text b => a == b
  | _, _ => false

mutual

/-- Structural equality. -/
def Value.equal : Value → Value → Bool
  | .scalar a, .scalar b => a.equal b
  | .list xs, .list ys => Value.listsEqual xs ys
  | .object xs, .object ys => xs.length == ys.length && Value.membersEqual xs ys
  | _, _ => false
termination_by structural a => a

/-- Equality of two lists, place by place. -/
def Value.listsEqual : List Value → List Value → Bool
  | [], [] => true
  | x :: xs, y :: ys => x.equal y && Value.listsEqual xs ys
  | _, _ => false
termination_by structural xs => xs

/-- Whether each member of the first object has an equal one of the same key in the second. -/
def Value.membersEqual : List (Scalar × Value) → List (Scalar × Value) → Bool
  | [], _ => true
  | (k, v) :: xs, ys =>
    (match Ordered.get? k ys with
      | some w => v.equal w
      | none => false) && Value.membersEqual xs ys
termination_by structural xs => xs

end

end Rulebook
