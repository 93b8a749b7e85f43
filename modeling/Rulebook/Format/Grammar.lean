import Rulebook.Regex.Build

/-!
The patterns of the named formats. Those of a date with time, of an address with four fields, of a
resource and of a color take the entire text; those of a host name and of an address with colons may
match anywhere in it.
-/

namespace Rulebook.Grammar

open Regex

def digit : Regex := between '0' '9'

def alphanumeric : CharSet := .ofRanges [('0', '9'), ('A', 'Z'), ('a', 'z')] ""

/-! ## Dates with time -/

def month : Regex := .alt (.seq (text "0") (between '1' '9')) (.seq (text "1") (oneOf "012"))

def day : Regex :=
  firstOf [.seq (text "0") (between '1' '9'), .seq (oneOf "12") digit, .seq (text "3") (oneOf "01")]

def hour : Regex := .alt (.seq (oneOf "01") digit) (.seq (text "2") (between '0' '3'))

def minute : Regex := .seq (between '0' '5') digit

def second : Regex := .alt minute (text "60")

def fraction : Regex := .seq (text ".") (oneOrMore digit)

def zone : Regex := .alt (oneOf "Zz") (inTurn [oneOf "+-", hour, text ":", minute])

/-- Year, month and day, a letter, hour, minute and second, perhaps a fraction, and a zone. -/
def dateTime : Regex :=
  entire (inTurn [oneOrMore digit, text "-", month, text "-", day, oneOf "Tt", hour, text ":", minute,
    text ":", second, optional fraction, zone])

/-! ## Addresses -/

/-- A number up to 255 in one to three digits. -/
def octet : Regex :=
  firstOf [.seq (text "25") (between '0' '5'), inTurn [text "2", between '0' '4', digit],
    inTurn [optional (oneOf "01"), digit, optional digit]]

/-- Four numbers with dots between them. -/
def ipv4 : Regex := entire (.seq (exactly 3 (.seq octet (text "."))) octet)

/-- A digit of any script. -/
def anyDigit : Regex := .one ⟨false, .exact, [.category .digit false false]⟩

/-- A number up to 255 without leading zeros, its later digits of any script. -/
def plainOctet : Regex :=
  firstOf [.seq (text "25") (between '0' '5'), inTurn [text "2", between '0' '4', anyDigit],
    inTurn [text "1", anyDigit, anyDigit], .seq (optional (between '1' '9')) anyDigit]

/-- Four such numbers with dots between them. -/
def dottedTail : Regex := .seq plainOctet (exactly 3 (.seq (text ".") plainOctet))

/-- One to four hexadecimal digits. -/
def hexField : Regex := times 1 4 (.one (.ofRanges [('0', '9'), ('A', 'F'), ('a', 'f')] ""))

def colonField : Regex := .seq (text ":") hexField

/-- What may follow `n` fields with their colons: one more field or the empty place that stands for
the fields left out, with at most as many fields after it as are left, or a dotted tail. -/
def afterFields (n : Nat) : Regex :=
  match n with
  | 7 => .alt hexField (text ":")
  | 6 => firstOf [colonField, dottedTail, text ":"]
  | n =>
    let tail := .seq (text ":") dottedTail
    let spaced := match n with
      | 5 => tail
      | 4 => .seq (optional colonField) tail
      | n => .seq (times 0 (5 - n) colonField) tail
    firstOf [times 1 (7 - n) colonField, spaced, text ":"]

/-- Eight fields, or fewer with one empty place, the last two perhaps as a dotted tail. -/
def ipv6 : Regex :=
  firstOf ([7, 6, 5, 4, 3, 2, 1].map (fun n => .seq (exactly n (.seq hexField (text ":"))) (afterFields n))
    ++ [.seq (text ":") (afterFields 0)])

/-! ## Hosts and mail -/

/-- A label of a host name: letters, digits and inner hyphens, each hyphen at a word edge. -/
def hostLabel : Regex :=
  .seq (.one alphanumeric)
    (optional (.seq
      (times 0 61 (.alt (.one alphanumeric) (.seq (.anchor (.wordEdge false false)) (text "-"))))
      (.one alphanumeric)))

/-- Labels with dots between them and perhaps one after them, at most 255 characters from the end. -/
def hostname : Regex :=
  inTurn [sizeAhead 1 255, hostLabel, many (.seq (text ".") hostLabel), optional (text ".")]

/-- The signs that a local part may hold beside letters and digits. -/
def localSigns : String := "!#$%&'*+/=?^_\x60\x7b|\x7d~-"

/-- The parts of a set of code points between bounds, in any letter case. -/
def foldedRanges (bounds : List (Nat × Nat)) (singles : String) : CharSet :=
  .make .unicode false (bounds.map (fun (a, b) => .range a b)
    ++ singles.toList.map fun c => .one c.toNat)

def localAtom : Regex := oneOrMore (.one (foldedRanges [(0x61, 0x7A), (0x30, 0x39)] localSigns))

def quotedPair : Regex :=
  .seq (text "\\") (.one (foldedRanges [(1, 9), (0x0E, 0x7F)] "\x0b\x0c"))

def quotedText : Regex :=
  .one (foldedRanges [(1, 8), (0x0E, 0x1F), (0x23, 0x5B), (0x5D, 0x7F)] "\x0b\x0c!")

/-- The part of an address before its sign: words with dots between them, or text in quotes. -/
def mailLocal : Regex :=
  entire (.alt (.seq localAtom (many (.seq (text ".") localAtom)))
    (inTurn [text "\"", many (.alt quotedText quotedPair), text "\""]))

def mailWord : Regex := oneOrMore (.one (.ofRanges [('0', '9'), ('A', 'Z'), ('a', 'z')] localSigns))

def mailLabel : Regex :=
  .seq (.one alphanumeric) (optional (.seq
    (times 0 61 (.one (.ofRanges [('0', '9'), ('A', 'Z'), ('a', 'z')] "-"))) (.one alphanumeric)))

/-- A whole address in one pattern: at most 254 characters, at most 64 before its sign. -/
def mailAddress : Regex :=
  entire (inTurn [sizeAhead 1 254,
    .ahead false (.seq (times 1 64 (.one (.anything false))) (text "@")),
    mailWord, many (.seq (text ".") mailWord), text "@", mailLabel, many (.seq (text ".") mailLabel)])

/-! ## Resources and colors -/

/-- The name of a user before a host. -/
def userInfo : Regex := .seq (oneOrMore (.one (CharSet.ofRanges [] "-;:&=+$,").withWord)) (text "@")

def hostChars : Regex :=
  oneOrMore (.one (.ofRanges [('0', '9'), ('A', 'Z'), ('a', 'z')] ".-"))

/-- A scheme and perhaps two slashes. -/
def scheme : Regex :=
  inTurn [times 3 9 (.one (.ofRanges [('A', 'Z'), ('a', 'z')] "")), text ":", optional (text "//")]

def path : Regex := .seq (text "/") (many (.one (CharSet.ofRanges [] "+~%/.-_").withWord))

def query : Regex := many (.one (CharSet.ofRanges [] "-+=&;%@._").withWord)

def fragment : Regex := many (.one (CharSet.ofRanges [] ".!/\\").withWord)

/-- A scheme or a user or three letters before a host, and what may follow it. -/
def uri : Regex :=
  entire (.seq
    (.alt (inTurn [scheme, optional userInfo, hostChars])
      (.seq (.alt (text "www.") userInfo) hostChars))
    (optional (inTurn [optional path, optional (text "?"), query, optional (text "#"), fragment])))

/-- A number sign and six hexadecimal digits. -/
def color : Regex :=
  entire (.seq (text "#") (exactly 6 (.one (.ofRanges [('A', 'F'), ('a', 'f'), ('0', '9')] ""))))

end Rulebook.Grammar
