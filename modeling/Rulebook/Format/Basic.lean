import Rulebook.Format.Grammar

/-!
Named formats of texts. A mail address is judged in two parts, before and after its one sign.
-/

namespace Rulebook

inductive Format where
  | dateTime | hostname | ipv4 | ipv6 | uri | color | email
  deriving DecidableEq

namespace Format

def ofName? : String → Option Format
  | "date-time" => some .dateTime
  | "hostname" => some .hostname
  | "ipv4" => some .ipv4
  | "ipv6" => some .ipv6
  | "uri" => some .uri
  | "url" => some .uri
  | "color" => some .color
  | "email" => some .email
  | _ => none

/-- The parts of a text between the occurrences of a character. -/
def splitAt (c : Char) (cs : List Char) : List (List Char) :=
  cs.foldr (fun x parts =>
    match parts with
    | part :: rest => if x == c then [] :: part :: rest else (x :: part) :: rest
    | [] => [[x]]) [[]]

/-- Whether a text is an address: a local part, one sign, a host. -/
def isEmail (s : String) : Bool :=
  match splitAt '@' s.toList with
  | [before, after] => Grammar.mailLocal.matchesFrom [] 0 before && Grammar.hostname.matchesFrom [] 0 after
  | _ => false

/-- Whether a text has the format. -/
def accepts (f : Format) (s : String) : Bool :=
  match f with
  | dateTime => Grammar.dateTime.matchesIn s
  | hostname => Grammar.hostname.matchesIn s
  | ipv4 => Grammar.ipv4.matchesIn s
  | ipv6 => Grammar.ipv6.matchesIn s
  | uri => Grammar.uri.matchesIn s
  | color => Grammar.color.matchesIn s
  | email => isEmail s

/-- Whether a text has the format of a name, if there is one of that name. -/
def check? (name s : String) : Option Bool := (ofName? name).map (·.accepts s)

/-- Whether a text is an address in one pattern. -/
def isPlainEmail (s : String) : Bool := Grammar.mailAddress.matchesIn s

end Format

end Rulebook
