import Rulebook.Number.Literal

/-!
Values: the scalars, lists and objects of a JSON document, and the absent value. An object is a
list of members in the order in which they were written, keyed by scalars; a document's keys are
texts. As keys, truth values count as the numbers zero and one, and numbers of equal value are one
key.
-/

namespace Rulebook

/-- A value without parts. -/
inductive Scalar where
  | missing
  | null
  | bool (b : Bool)
  | number (n : Number)
  | text (s : String)
  deriving DecidableEq, Inhabited

inductive Value where
  | scalar (s : Scalar)
  | list (items : List Value)
  | object (members : List (Scalar × Value))
  deriving Inhabited

namespace Value

@[match_pattern] abbrev missing : Value := .scalar .missing
@[match_pattern] abbrev null : Value := .scalar .null
@[match_pattern] abbrev bool (b : Bool) : Value := .scalar (.bool b)
@[match_pattern] abbrev number (n : Number) : Value := .scalar (.number n)
@[match_pattern] abbrev int (n : Int) : Value := .scalar (.number (.int n))
@[match_pattern] abbrev float (x : Binary64) : Value := .scalar (.number (.float x))
@[match_pattern] abbrev text (s : String) : Value := .scalar (.text s)

/-- A list of texts. -/
def texts (names : List String) : Value := .list (names.map .text)

/-- An object with texts as keys. -/
def record (members : List (String × Value)) : Value :=
  .object (members.map fun (k, v) => (.text k, v))

end Value

/-- The number that a key counts as. -/
def Scalar.keyNumber? : Scalar → Option Number
  | .bool b => some (.int (if b then 1 else 0))
  | .number n => some n
  | _ => none

/-- Whether two scalars are one key. -/
def Scalar.sameKey (a b : Scalar) : Bool :=
  match a.keyNumber?, b.keyNumber? with
  | some x, some y => x.eq y
  | none, none => decide (a = b)
  | _, _ => false

instance : BEq Scalar := ⟨Scalar.sameKey⟩

/-! Maps as lists of pairs in order of first insertion. -/
namespace Ordered

variable {κ α : Type} [BEq κ]

/-- The value of the first pair with a key. -/
def get? (k : κ) : List (κ × α) → Option α
  | [] => none
  | (k', v) :: rest => if k' == k then some v else get? k rest

/-- Replaces the value of a key in its place, or adds the key at the end. -/
def insert (k : κ) (v : α) : List (κ × α) → List (κ × α)
  | [] => [(k, v)]
  | (k', v') :: rest => if k' == k then (k', v) :: rest else (k', v') :: insert k v rest

/-- Inserts every pair of the second list into the first, from left to right. -/
def union (m new : List (κ × α)) : List (κ × α) := new.foldl (fun acc (k, v) => insert k v acc) m

/-- The map of a list of pairs; of two pairs with one key the later has the value. -/
def ofList (pairs : List (κ × α)) : List (κ × α) := union [] pairs

end Ordered

namespace Value

/-- The empty values: none of the rules but two looks at them. -/
def isEmpty : Value → Bool
  | .missing | .null => true
  | .text s => s.isEmpty
  | _ => false

def hasValue (v : Value) : Bool := !v.isEmpty

def isList : Value → Bool
  | .list _ => true
  | _ => false

def isObject : Value → Bool
  | .object _ => true
  | _ => false

/-- Whether a value counts as true where a flag is expected. -/
def truthy : Value → Bool
  | .missing | .null => false
  | .bool b => b
  | .number n => !n.isZero
  | .text s => !s.isEmpty
  | .list items => !items.isEmpty
  | .object members => !members.isEmpty

/-- The member of an object under a key, absent when there is none. -/
def member (v : Value) (key : Scalar) : Value :=
  match v with
  | .object members => (Ordered.get? key members).getD .null
  | _ => .null

end Value

/-- Whether exactly one of two truth values holds. -/
def differ (a b : Bool) : Bool := a != b

end Rulebook
