import Rulebook.Registry.Basic
import Rulebook.Rule.Keyword

/-!
Making the rules of a requirement document, an object from rule names to parameters. Each name is
looked up in a registry of makers. The keywords `minimum` and `maximum` are flagged by a true value
beside them under the name of the excluding keyword, and a truth value under that name makes no rule
of its own. Demands hold requirement documents for fields, whose names are looked up in the same
registry at any depth.
-/

namespace Rulebook

/-- What a maker is given beside the parameter. -/
inductive Second where
  | nothing
  | flag (on : Bool)
  | registry

/-- How a rule is made: by a keyword, or by any function of the parameter and what is beside it. -/
inductive Maker where
  | keyword (k : Keyword)
  | function (make : Second → Value → Run Rule)

/-- A maker that looks at nothing beside the parameter. -/
def Maker.custom (make : Value → Run Rule) : Maker := .function fun _ => make

/-- The makers of the keywords. -/
def builtinMakers : List (String × Maker) := Keyword.all.map fun k => (k.name, .keyword k)

/-- The frozen registry of all keywords. -/
def Registry.builtin : Registry Maker := ⟨builtinMakers, true⟩

/-- The rules made from a document, by name, and the names that no maker has. -/
structure Built where
  rules : List (String × Rule)
  unknown : List String

def Built.append (a b : Built) : Built := ⟨a.rules ++ b.rules, a.unknown ++ b.unknown⟩

/-- The name of the flag beside a keyword that has one. -/
def flagBeside? : String → Option String
  | "minimum" => some "exclusiveMinimum"
  | "maximum" => some "exclusiveMaximum"
  | _ => none

/-- Whether an entry of a document is only the flag of another. -/
def isFlag (name : String) (param : Value) : Bool :=
  (name == "exclusiveMinimum" || name == "exclusiveMaximum") && match param with
    | .bool _ => true
    | _ => false

/-- The second argument for an entry of a document. -/
def secondFor (name : String) (document : List (Scalar × Value)) : Second :=
  match flagBeside? name with
  | some flag =>
    .flag (match Ordered.get? (.text flag) document with
      | some (.bool true) => true
      | _ => false)
  | none => if name == "dependencies" then .registry else .nothing

/-- The rule of a keyword other than demands; a registry counts as a flag that is on. -/
def Keyword.makeWith (k : Keyword) (second : Second) (param : Value) : Run Rule :=
  match second with
  | .nothing => k.make false param
  | .flag on => if k.takesSecond then k.make on param else .stop k.surplus
  | .registry => if k.takesSecond then k.make true param else .stop k.surplus

/-- The registry in which demands look up rules; a flag in its place is none. -/
def scopeFor (makers : List (String × Maker)) : Second → Option (List (String × Maker))
  | .nothing => some builtinMakers
  | .flag _ => none
  | .registry => some makers

/-- The required fields that an entry of a demand lists: the items of a list, the characters of a
text or the names of the members of an object. -/
def requiredFields (v : Value) : Except Fault (List Value) :=
  if !v.truthy then .ok []
  else
    match v with
    | .list items => .ok items
    | .object members => .ok (members.map fun (k, _) => .scalar k)
    | .text s => .ok (s.toList.map fun c => .text (String.singleton c))
    | v => .error (.notIterable v.typeName)

/-- The plan for a field from making its rules; unknown names are noticed after the rules are made. -/
def Plan.ofRun (field : Scalar) (x : Run Built) : Plan :=
  match x.result with
  | .ok b =>
    .rules field (x.notices ++ b.unknown.map fun name => .skippedDemand (.text name))
      (b.rules.map (·.2))
  | .error f => .broken field x.notices f

/-- The rule of one entry of a document, given what its parameter comes to as demands in a scope. -/
def buildEntry (makers : List (String × Maker)) (document : List (Scalar × Value)) (name : String)
    (param : Value) (demands : Option (List (String × Maker)) → Rule) : Run Built :=
  if isFlag name param then .ret ⟨[], []⟩
  else
    match Ordered.get? name makers with
    | none => .ret ⟨[], [name]⟩
    | some (.function make) => do return ⟨[(name, ← make (secondFor name document) param)], []⟩
    | some (.keyword .dependencies) =>
      .ret ⟨[(name, demands (scopeFor makers (secondFor name document)))], []⟩
    | some (.keyword k) => do return ⟨[(name, ← k.makeWith (secondFor name document) param)], []⟩

mutual

/-- Makes the rules of the members of a document; `document` is all of them. -/
def buildMembers (makers : List (String × Maker)) (document : List (Scalar × Value)) :
    List (Scalar × Value) → Run Built
  | [] => .ret ⟨[], []⟩
  | (key, param) :: rest => do
    let here ← buildEntry makers document key.plainText param fun scope => demandsRule scope param
    let more ← buildMembers makers document rest
    return here.append more
termination_by structural ms => ms

/-- The rule of demands, nothing unless there are some. -/
def demandsRule (scope : Option (List (String × Maker))) : Value → Rule
  | .object [] => .null
  | .object (m :: ms) => .demands (demandsOf scope (m :: ms))
  | _ => .null
termination_by structural v => v

def demandsOf (scope : Option (List (String × Maker))) : List (Scalar × Value) → List Demand
  | [] => []
  | (trigger, entry) :: rest => demandOf scope trigger entry :: demandsOf scope rest
termination_by structural ms => ms

/-- The demand of a trigger: a list of fields, or an object with required fields and properties. -/
def demandOf (scope : Option (List (String × Maker))) (trigger : Scalar) : Value → Demand
  | .list items => .mk trigger (.ok items) []
  | .object members =>
    .mk trigger (requiredFields ((Ordered.get? (.text "required") members).getD .null))
      (propertyPlans scope members)
  | _ => .mk trigger (.ok []) []
termination_by structural v => v

/-- The plans under the first member named `properties`. -/
def propertyPlans (scope : Option (List (String × Maker))) : List (Scalar × Value) → List Plan
  | [] => []
  | (key, v) :: rest =>
    if key == .text "properties" then fieldPlans scope v else propertyPlans scope rest
termination_by structural ms => ms

def fieldPlans (scope : Option (List (String × Maker))) : Value → List Plan
  | .object members => fieldPlansOf scope members
  | _ => []
termination_by structural v => v

def fieldPlansOf (scope : Option (List (String × Maker))) : List (Scalar × Value) → List Plan
  | [] => []
  | (field, requirements) :: rest =>
    fieldPlan scope field requirements :: fieldPlansOf scope rest
termination_by structural ms => ms

/-- The plan for a field: its requirement document, or nothing if it is none. -/
def fieldPlan (scope : Option (List (String × Maker))) (field : Scalar) : Value → Plan
  | .object members =>
    match scope with
    | some makers => .ofRun field (buildMembers makers members members)
    | none => .broken field [] .noRegistry
  | _ => .rules field [] []
termination_by structural v => v

end

namespace Registry

/-- Makes the rules of a requirement document. -/
def build (r : Registry Maker) (document : List (Scalar × Value)) : Run Built :=
  buildMembers r.entries document document

/-- The rule of demands with the makers of a registry in scope. -/
def demands (r : Registry Maker) (spec : Value) : Rule := demandsRule (some r.entries) spec

end Registry

/-- The rule of demands with the keywords in scope. -/
def Rule.ofDemands (spec : Value) : Rule := Registry.builtin.demands spec

end Rulebook
