import Rulebook.Fault
import Rulebook.Number.Literal
import Rulebook.Regex.Basic
import Rulebook.Text.CharacterName

/-!
Reading patterns from text. Flags can be given outside, at the very start of the text for the whole
pattern, and at the start of a group for that group. A text that is no pattern is `malformed`; three
causes are faults instead: a repetition too large to count, a number with too many digits, and flags
that exclude each other.
-/

namespace Rulebook.Regex

/-- Options of a pattern. -/
structure Flags where
  ignoreCase : Bool
  multiline : Bool
  dotAll : Bool
  verbose : Bool
  ascii : Bool
  unicode : Bool
  template : Bool
  deriving DecidableEq

namespace Flags

def none : Flags := ⟨false, false, false, false, false, false, false⟩

/-- The flag of a letter. -/
def ofLetter? : Char → Option Flags
  | 'i' => some { none with ignoreCase := true }
  | 'm' => some { none with multiline := true }
  | 's' => some { none with dotAll := true }
  | 'x' => some { none with verbose := true }
  | 'a' => some { none with ascii := true }
  | 'u' => some { none with unicode := true }
  | 't' => some { none with template := true }
  | _ => .none

/-- Combines two sets of flags, flag by flag. -/
def zip (f : Bool → Bool → Bool) (a b : Flags) : Flags :=
  ⟨f a.ignoreCase b.ignoreCase, f a.multiline b.multiline, f a.dotAll b.dotAll, f a.verbose b.verbose,
    f a.ascii b.ascii, f a.unicode b.unicode, f a.template b.template⟩

def union : Flags → Flags → Flags := zip (· || ·)

def diff : Flags → Flags → Flags := zip fun x y => x && !y

def inter : Flags → Flags → Flags := zip (· && ·)

/-- Whether a flag chooses between ASCII and all characters. -/
def choosesAlphabet (a : Flags) : Bool := a.ascii || a.unicode

/-- The flags inside a group that turns some on and some off. -/
def within (a on off : Flags) : Flags :=
  let a := if on.choosesAlphabet then { a with ascii := false, unicode := false } else a
  (a.union on).diff off

def fold (a : Flags) : CaseFold :=
  if a.ignoreCase then (if a.ascii then .ascii else .unicode) else .exact

end Flags

/-- Why a text gives no pattern. -/
inductive Refusal where
  | malformed
  | fault (f : Fault)

/-- The least and the greatest number of characters that a pattern takes, up to a limit. -/
structure Width where
  least : Nat
  most : Nat

def Width.limit : Nat := twoTo 64

def Width.capped (w : Width) : Width := ⟨min w.least limit, min w.most limit⟩

/-- The width of a pattern, given the widths of its groups. -/
def width (groups : List (Nat × Width)) : Regex → Width
  | .empty | .anchor _ | .ahead _ _ | .behind _ _ _ => ⟨0, 0⟩
  | .one _ => ⟨1, 1⟩
  | .seq r s =>
    let a := width groups r
    let b := width groups s
    Width.capped ⟨a.least + b.least, a.most + b.most⟩
  | .alt r s =>
    let a := width groups r
    let b := width groups s
    ⟨min a.least b.least, max a.most b.most⟩
  | .loop _ least most r =>
    let a := width groups r
    Width.capped ⟨a.least * least, match most with
      | some m => a.most * m
      | none => if a.most = 0 then 0 else Width.limit⟩
  | .group _ r | .atomic r => width groups r
  | .backref i _ => (groups.lookup i).getD ⟨0, 0⟩
  | .choose _ r s =>
    let a := width groups r
    let b := width groups s
    ⟨min a.least b.least, max a.most b.most⟩

/-- Whether a pattern repeats anything. -/
def repeats : Regex → Bool
  | .loop _ _ _ _ => true
  | .seq r s | .alt r s | .choose _ r s => repeats r || repeats s
  | .group _ r | .ahead _ r | .behind _ _ r | .atomic r => repeats r
  | _ => false

namespace Parser

/-- A character of a pattern, alone or after a backslash. -/
inductive Token where
  | plain (c : Char)
  | escaped (c : Char)
  deriving DecidableEq

/-- Splits a text into tokens; a backslash at its end has nothing to escape. -/
def tokens? : List Char → Option (List Token)
  | [] => some []
  | ['\\'] => none
  | '\\' :: c :: rest => (tokens? rest).map (.escaped c :: ·)
  | c :: rest => (tokens? rest).map (.plain c :: ·)

structure State where
  rest : List Token
  /-- The flags of the whole pattern. -/
  flags : Flags
  /-- The number of groups opened so far. -/
  groups : Nat
  /-- The widths of the groups closed so far. -/
  widths : List (Nat × Width)
  names : List (String × Nat)
  /-- Inside a look behind, the number of groups before it. -/
  behindFrom : Option Nat
  /-- The groups that conditions name by number. -/
  conditions : List Nat
  /-- Some look behind has no fixed width. -/
  looseBehind : Bool

abbrev P := StateT State (Except Refusal)

def malformed {α : Type} : P α := throw .malformed

def fault {α : Type} (f : Fault) : P α := throw (.fault f)

/-- The next token. -/
def peek : P (Option Token) := return (← get).rest.head?

/-- Takes the next token. -/
def next : P (Option Token) := do
  let s ← get
  set { s with rest := s.rest.tail }
  return s.rest.head?

/-- Takes the next token if it is a given character. -/
def accept (c : Char) : P Bool := do
  if (← peek) == some (.plain c) then
    let _ ← next
    return true
  else return false

/-- Takes a given character. -/
def expect (c : Char) : P Unit := do
  if !(← accept c) then malformed

/-- The plain characters of a class at the start, at most `n`. -/
def leading (p : Char → Bool) : Nat → List Token → List Char
  | n + 1, .plain c :: rest => if p c then c :: leading p n rest else []
  | _, _ => []

/-- Takes at most `n` characters of a class. -/
def takeWhile (n : Nat) (p : Char → Bool) : P (List Char) := do
  let s ← get
  let cs := leading p n s.rest
  set { s with rest := s.rest.drop cs.length }
  return cs

/-- The characters of a token. -/
def Token.chars : Token → List Char
  | .plain c => [c]
  | .escaped c => ['\\', c]

/-- Takes a name up to a closing character. -/
def nameUpTo (c : Char) : P String := do
  let s ← get
  let (name, rest) := s.rest.span (· != .plain c)
  if name.isEmpty || rest.isEmpty then malformed
  set { s with rest := rest.tail }
  return String.ofList (name.flatMap Token.chars)

def isHexDigit (c : Char) : Bool :=
  c.isDigit || ('a' ≤ c && c ≤ 'f') || ('A' ≤ c && c ≤ 'F')

def isOctalDigit (c : Char) : Bool := '0' ≤ c && c ≤ '7'

/-- The number that digits denote in a base. -/
def numberIn (base : Nat) (cs : List Char) : Nat :=
  cs.foldl (fun n c => base * n + (if c.isDigit then c.toNat - 48 else c.toUpper.toNat - 55)) 0

/-- A code point in exactly `n` hexadecimal digits. -/
def hexCode (n : Nat) : P Nat := do
  let cs ← takeWhile n isHexDigit
  if cs.length < n then malformed
  let code := numberIn 16 cs
  if 0x110000 ≤ code then malformed
  return code

/-- A code point given by the name of a character between braces. -/
def namedCode : P Nat := do
  expect '\x7b'
  match characterNamed? (← nameUpTo '\x7d') with
  | some n => return n
  | none => malformed

/-- The control character that a letter stands for. -/
def controlCode? : Char → Option Nat
  | 'a' => some 7
  | 'b' => some 8
  | 'f' => some 12
  | 'n' => some 10
  | 'r' => some 13
  | 't' => some 9
  | 'v' => some 11
  | '\\' => some 92
  | _ => none

/-- The class of characters that a letter stands for, and whether it is its complement. -/
def category? : Char → Option (Category × Bool)
  | 'd' => some (.digit, false)
  | 'D' => some (.digit, true)
  | 's' => some (.space, false)
  | 'S' => some (.space, true)
  | 'w' => some (.word, false)
  | 'W' => some (.word, true)
  | _ => none

/-- The code point of an escape that has the same meaning inside and outside of brackets. -/
def commonEscape (c : Char) : P Nat :=
  match controlCode? c with
  | some n => return n
  | none =>
    match c with
    | 'x' => hexCode 2
    | 'u' => hexCode 4
    | 'U' => hexCode 8
    | 'N' => namedCode
    | c => if c.isAlphanum then malformed else return c.toNat

/-- Whether a group is closed and may be referred to here. -/
def checkGroup (i : Nat) : P Unit := do
  let s ← get
  match s.behindFrom with
  | some n => if (s.widths.lookup i).isNone || n ≤ i then malformed
  | none => return

/-- A reference to a group with a given number. -/
def backrefTo (flags : Flags) (i : Nat) : P Regex := do
  if ((← get).widths.lookup i).isNone then malformed
  checkGroup i
  return .backref i flags.fold

/-- An escape that starts with a digit: a code point in octal digits or a group. -/
def digitEscape (flags : Flags) (c : Char) : P Regex := do
  let literal (n : Nat) : P Regex := return .one (.single flags.fold false n)
  if c == '0' then
    literal (numberIn 8 (← takeWhile 2 isOctalDigit))
  else
    match ← takeWhile 1 Char.isDigit with
    | [] => backrefTo flags (c.toNat - 48)
    | ds =>
      let third ← if isOctalDigit c && ds.all isOctalDigit then takeWhile 1 isOctalDigit else pure []
      if third.isEmpty then backrefTo flags (numberIn 10 (c :: ds))
      else
        let n := numberIn 8 (c :: ds ++ third)
        if 0o377 < n then malformed
        literal n

/-- What an escape outside of brackets stands for. -/
def escape (flags : Flags) (c : Char) : P Regex :=
  match category? c with
  | some (k, negated) => return .one (.make flags.fold false [.category k flags.ascii negated])
  | none =>
    match c with
    | 'A' => return .anchor .textStart
    | 'Z' => return .anchor .veryEnd
    | 'b' => return .anchor (.wordEdge flags.ascii false)
    | 'B' => return .anchor (.wordEdge flags.ascii true)
    | c =>
      if c.isDigit then digitEscape flags c
      else return .one (.single flags.fold false (← commonEscape c))

/-- What an escape inside brackets stands for. -/
def classEscape (flags : Flags) (c : Char) : P CharSet.Piece :=
  match category? c with
  | some (k, negated) => return .category k flags.ascii negated
  | none => do
    if isOctalDigit c then
      let n := numberIn 8 (c :: (← takeWhile 2 isOctalDigit))
      if 0o377 < n then malformed
      return .one n
    else return .one (← commonEscape c)

/-- What a token inside brackets stands for. -/
def piece (flags : Flags) : Token → P CharSet.Piece
  | .plain c => return .one c.toNat
  | .escaped c => classEscape flags c

/-- The range between two parts, which must be characters in order. -/
def rangeOf (low high : CharSet.Piece) : P CharSet.Piece :=
  match low, high with
  | .one a, .one b => if b < a then malformed else return .range a b
  | _, _ => malformed

/-- The parts between brackets, those before in reverse. -/
def classPieces (flags : Flags) : Nat → List CharSet.Piece → P (List CharSet.Piece)
  | 0, _ => malformed
  | fuel + 1, before => do
    match ← next with
    | none => malformed
    | some t =>
      if t == .plain ']' && !before.isEmpty then return before.reverse
      let low ← piece flags t
      if ← accept '-' then
        match ← next with
        | none => malformed
        | some (.plain ']') => return (.one 0x2D :: low :: before).reverse
        | some t =>
          let high ← piece flags t
          classPieces flags fuel ((← rangeOf low high) :: before)
      else classPieces flags fuel (low :: before)

/-- A set of characters, after its opening bracket. -/
def bracketClass (flags : Flags) : P Regex := do
  let negated ← accept '^'
  let pieces ← classPieces flags ((← get).rest.length + 1) []
  return .one (.make flags.fold negated pieces)

/-- A count of repetitions in digits. -/
def count? (ds : List Char) : P (Option Nat) := do
  if ds.isEmpty then return none
  if maxDigits < ds.length then fault (.tooManyDigits ds.length)
  let n := numberIn 10 ds
  if 4294967295 ≤ n then fault .repetitionTooLarge
  return some n

/-- The bounds of a repetition after an opening brace; without a closing one the brace is itself. -/
def bounds? : P (Option (Nat × Option Nat)) := do
  let before ← get
  if (← peek) == some (.plain '\x7d') then return none
  let low ← takeWhile before.rest.length Char.isDigit
  let (low, high) ← if ← accept ',' then
    pure (low, ← takeWhile before.rest.length Char.isDigit) else pure (low, low)
  if !(← accept '\x7d') then
    set before
    return none
  let least ← count? low
  let most ← count? high
  if most.any (· < least.getD 0) then malformed
  return some (least.getD 0, most)

/-- The flags after a first letter up to one of the closing characters, with that character. -/
def flagsFrom (closing : List Char) (allowed : Flags → Flags → Bool) :
    Nat → Flags → Char → P (Flags × Char)
  | 0, _, _ => malformed
  | fuel + 1, so_far, c => do
    match Flags.ofLetter? c with
    | none => malformed
    | some f =>
      let all := so_far.union f
      if !allowed f all then malformed
      match ← next with
      | some (.plain c) =>
        if closing.contains c then return (all, c) else flagsFrom closing allowed fuel all c
      | _ => malformed

/-- The flags that a group turns on and off, or nothing when they are for the whole pattern. -/
def groupFlags (first : Char) : P (Option (Flags × Flags)) := do
  let fuel := (← get).rest.length + 1
  let oneAlphabet (f all : Flags) : Bool :=
    !f.choosesAlphabet || all.ascii != all.unicode
  let (on, c) ← if first == '-' then pure (Flags.none, first)
    else flagsFrom [')', '-', ':'] oneAlphabet fuel .none first
  if c == ')' then
    modify fun s => { s with flags := s.flags.union on }
    return none
  if on.template then malformed
  let off ← if c == '-' then
      match ← next with
      | some (.plain d) =>
        pure (← flagsFrom [':'] (fun f _ => !f.choosesAlphabet) fuel .none d).1
      | _ => malformed
    else pure .none
  if off.template || on.inter off != .none then malformed
  return some (on, off)

/-- Whether a text can be the name of a group. -/
def isName (s : String) : Bool :=
  match s.toList with
  | [] => false
  | c :: rest =>
    (c == '_' || (isAlphanumeric c && !isDecimalDigit c))
      && rest.all fun c => c == '_' || isAlphanumeric c

/-- The name of a group up to a closing character. -/
def groupName (closing : Char) : P String := do
  let name ← nameUpTo closing
  if !isName name then malformed
  return name

/-- Opens a group and gives its number. -/
def openGroup (name : Option String) : P Nat := do
  let s ← get
  let i := s.groups + 1
  match name with
  | none => set { s with groups := i }
  | some name =>
    if (s.names.lookup name).isSome then malformed
    set { s with groups := i, names := (name, i) :: s.names }
  return i

/-- Closes a group that holds a pattern. -/
def closeGroup (i : Nat) (r : Regex) : P Unit :=
  modify fun s => { s with widths := (i, Regex.width s.widths r) :: s.widths }

/-- The group that a condition is about, by name or number. -/
def conditionGroup : P Nat := do
  let name ← nameUpTo ')'
  let i ← if isName name then
      match (← get).names.lookup name with
      | some i => pure i
      | none => malformed
    else
      match integerOf? (joinDigits false (trimBlanks name.toList)) with
      | some (.ofNat (n + 1)) =>
        if 1073741823 ≤ n + 1 then malformed
        modify fun s => { s with conditions := (n + 1) :: s.conditions }
        pure (n + 1)
      | _ => malformed
  checkGroup i
  return i

/-- Skips a comment up to its closing parenthesis. -/
def skipComment : P Unit := do
  let s ← get
  match s.rest.dropWhile (· != .plain ')') with
  | [] => malformed
  | _ :: rest => set { s with rest }

/-- Skips the rest of a line. -/
def skipLine : P Unit :=
  modify fun s => { s with rest := (s.rest.dropWhile (· != .plain '\n')).tail }

/-- What the parts of a sequence, in reverse, match in turn. -/
def sequence (parts : List Regex) : Regex :=
  match parts with
  | [] => .empty
  | r :: rest => rest.foldl (fun acc r => .seq r acc) r

/-- Whether a part cannot be repeated because it takes no place, or is repeated already. -/
def unrepeatable : Regex → Bool
  | .anchor _ | .loop _ _ _ _ => true
  | _ => false

/-- How a repetition chooses, by the mark after it. -/
def greed : P Greed := do
  if ← accept '?' then return .lazy
  if ← accept '+' then return .possessive
  return .greedy

/-- The bounds of a repetition that a character announces, if it does. -/
def repetition? (c : Char) : P (Option (Nat × Option Nat)) :=
  match c with
  | '?' => return some (0, some 1)
  | '*' => return some (0, none)
  | '+' => return some (1, none)
  | '\x7b' => bounds?
  | _ => return none

/-- What is around a part of a pattern: the flags in force and whether it is inside parentheses. -/
structure Context where
  flags : Flags
  nested : Bool

/-- A part of a sequence: a pattern, with a mark on what may not be repeated. -/
structure Part where
  regex : Regex
  repeatable : Bool

mutual

/-- Alternatives up to a closing parenthesis or the end. -/
def alternatives : Nat → Context → Bool → P Regex
  | 0, _, _ => malformed
  | fuel + 1, ctx, first => do
    let r ← parts fuel ctx (first && !ctx.nested) []
    if ← accept '|' then
      let flags := (← get).flags
      return .alt r (← alternatives fuel (if ctx.nested then ctx else { ctx with flags }) false)
    else return r
termination_by structural n => n

/-- A sequence of parts, those before in reverse. -/
def parts : Nat → Context → Bool → List Part → P Regex
  | 0, _, _, _ => malformed
  | fuel + 1, ctx, first, before => do
    let push (r : Regex) : P Regex := parts fuel ctx first (⟨r, true⟩ :: before)
    match ← peek with
    | none | some (.plain '|') | some (.plain ')') => return sequence (before.map (·.regex))
    | some (.escaped c) => do
      let _ ← next
      let r ← escape ctx.flags c
      parts fuel ctx first (⟨r, !unrepeatable r⟩ :: before)
    | some (.plain c) => do
      let _ ← next
      if ctx.flags.verbose && " \t\n\r\x0b\x0c".toList.contains c then parts fuel ctx first before
      else if ctx.flags.verbose && c == '#' then
        skipLine
        parts fuel ctx first before
      else
        match c with
        | '[' => push (← bracketClass ctx.flags)
        | '.' => push (.one (.anything ctx.flags.dotAll))
        | '^' =>
          let a := if ctx.flags.multiline then .lineStart else .textStart
          parts fuel ctx first (⟨.anchor a, false⟩ :: before)
        | '$' =>
          let a := if ctx.flags.multiline then .lineEnd else .textEnd
          parts fuel ctx first (⟨.anchor a, false⟩ :: before)
        | '(' =>
          match ← opening fuel ctx (first && before.isEmpty) with
          | (some r, ctx) => parts fuel ctx first (⟨r, true⟩ :: before)
          | (none, ctx) => parts fuel ctx first before
        | c =>
          match ← repetition? c with
          | none =>
            push (.one (.single ctx.flags.fold false c.toNat))
          | some (least, most) =>
            match before with
            | ⟨r, true⟩ :: before =>
              let g ← greed
              parts fuel ctx first (⟨.loop g least most r, false⟩ :: before)
            | _ => malformed
termination_by structural n => n

/-- What an opening parenthesis starts: a pattern, or nothing but other flags from here on. -/
def opening : Nat → Context → Bool → P (Option Regex × Context)
  | 0, _, _ => malformed
  | fuel + 1, ctx, atStart => do
    let inner : Context := { ctx with nested := true }
    if !(← accept '?') then
      let i ← openGroup none
      return (some (← capture fuel inner i), ctx)
    else
      match ← next with
      | some (.plain 'P') =>
        if ← accept '<' then
          let i ← openGroup (some (← groupName '>'))
          return (some (← capture fuel inner i), ctx)
        else if ← accept '=' then
          let name ← groupName ')'
          match (← get).names.lookup name with
          | some i => return (some (← backrefTo ctx.flags i), ctx)
          | none => malformed
        else malformed
      | some (.plain ':') => return (some (← enclosed fuel inner), ctx)
      | some (.plain '#') =>
        skipComment
        return (none, ctx)
      | some (.plain '=') => return (some (.ahead false (← enclosed fuel inner)), ctx)
      | some (.plain '!') => return (some (.ahead true (← enclosed fuel inner)), ctx)
      | some (.plain '<') =>
        match ← next with
        | some (.plain '=') => return (some (← lookBehind fuel inner false), ctx)
        | some (.plain '!') => return (some (← lookBehind fuel inner true), ctx)
        | _ => malformed
      | some (.plain '(') =>
        let i ← conditionGroup
        let yes ← parts fuel inner false []
        let no ← if ← accept '|' then parts fuel inner false [] else pure .empty
        expect ')'
        return (some (.choose i yes no), ctx)
      | some (.plain '>') => return (some (.atomic (← enclosed fuel inner)), ctx)
      | some (.plain c) =>
        match ← groupFlags c with
        | none =>
          if !atStart then malformed
          return (none, { ctx with flags := (← get).flags })
        | some (on, off) =>
          return (some (← enclosed fuel { inner with flags := ctx.flags.within on off }), ctx)
      | _ => malformed
termination_by structural n => n

/-- Alternatives and a closing parenthesis. -/
def enclosed : Nat → Context → P Regex
  | 0, _ => malformed
  | fuel + 1, ctx => do
    let r ← alternatives fuel ctx false
    expect ')'
    return r
termination_by structural n => n

/-- The inside of a capturing group. -/
def capture : Nat → Context → Nat → P Regex
  | 0, _, _ => malformed
  | fuel + 1, ctx, i => do
    let r ← enclosed fuel ctx
    closeGroup i r
    return .group i r
termination_by structural n => n

/-- The inside of a look behind, which must have a fixed width. -/
def lookBehind : Nat → Context → Bool → P Regex
  | 0, _, _ => malformed
  | fuel + 1, ctx, negated => do
    let outer := (← get).behindFrom
    modify fun s => { s with behindFrom := some (outer.getD (s.groups + 1)) }
    let r ← enclosed fuel ctx
    let w := Regex.width (← get).widths r
    modify fun s =>
      { s with behindFrom := outer, looseBehind := s.looseBehind || w.least != w.most || 4294967295 < w.least }
    return .behind negated w.least r
termination_by structural n => n

end

/-- A whole pattern with the flags that hold for it. -/
def whole (length : Nat) : P Regex := do
  let r ← alternatives (5 * length + 5) ⟨(← get).flags, false⟩ true
  let s ← get
  if s.flags.ascii && s.flags.unicode then fault .conflictingFlags
  if !s.rest.isEmpty || s.conditions.any (s.groups < ·) || s.looseBehind then malformed
  if s.flags.template && repeats r then malformed
  return r

end Parser

/-- A pattern with the text and the flags that it was made from. -/
structure Compiled where
  source : String
  flags : Flags
  regex : Regex

/-- Makes a pattern from its text. -/
def compile (flags : Flags) (source : String) : Except Refusal Compiled :=
  match Parser.tokens? source.toList with
  | none => .error .malformed
  | some tokens => do
    let (r, s) ← (Parser.whole tokens.length).run ⟨tokens, flags, 0, [], [], none, [], false⟩
    return ⟨source, s.flags, r⟩

end Rulebook.Regex
