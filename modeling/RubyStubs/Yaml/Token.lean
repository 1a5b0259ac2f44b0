import RubyStubs.Yaml.Scalar

/-!
Tokens of YAML. Indentation is made explicit: where a collection begins and ends by its column there
is a token, and so there is in front of each key. A key is known as such only by the colon after it;
its place is marked when it begins.
-/
namespace RubyStubs.Yaml

inductive Token where
  | directive
  | documentStart
  | documentEnd
  | blockList
  | blockMap
  | blockEnd
  | openList
  | closeList
  | openMap
  | closeMap
  | comma
  | entry
  | key
  | value
  | maybeKey (serial : Nat)
  | alias (name : String)
  | anchor (name : String)
  | tag (name : String)
  | scalar (text : String) (plain : Bool)
  deriving DecidableEq, Repr

structure KeyPlace where
  serial : Nat
  depth : Nat
  line : Nat
  column : Nat
  index : Nat

/-- How far tokens have been read, latest first. `indents` are the columns of the open collections,
innermost first, and `depth` counts open brackets. -/
structure Lexer where
  cursor : Cursor
  indents : List Nat := []
  depth : Nat := 0
  keyAllowed : Bool := true
  keys : List KeyPlace := []
  serial : Nat := 0
  tokens : List Token := []

namespace Lexer

def emit (s : Lexer) (t : Token) : Lexer := { s with tokens := t :: s.tokens }

def advance (s : Lexer) (n : Nat) : Lexer := { s with cursor := s.cursor.forward n }

def gap : Nat → Cursor → Bool → Cursor × Bool
  | 0, c, broken => (c, broken)
  | n + 1, c, broken =>
    let c := (c.skip (· == ' ')).skipComment
    if c.atBreak then gap n c.next true else (c, broken)

/-- A key stands on one line, within 1024 characters. -/
def dropOldKeys (s : Lexer) : Lexer :=
  { s with keys := s.keys.filter fun k => k.line == s.cursor.line && s.cursor.index ≤ k.index + 1024 }

def beyond (column : Option Nat) : List Nat → Nat × List Nat
  | [] => (0, [])
  | i :: is =>
    if column.all (· < i) then
      let (n, rest) := beyond column is
      (n + 1, rest)
    else (0, i :: is)

/-- Ends the collections that a column is not part of; without a column, all of them. Brackets keep
what is around them open. -/
def unwind (s : Lexer) (column : Option Nat) : Lexer :=
  if s.depth == 0 then
    let (n, indents) := beyond column s.indents
    { s with indents, tokens := List.replicate n .blockEnd ++ s.tokens }
  else s

def settle (s : Lexer) : Lexer :=
  let (cursor, broken) := gap (s.cursor.rest.length + 1) s.cursor false
  let s := { s with cursor, keyAllowed := s.keyAllowed || (broken && s.depth == 0) }
  s.dropOldKeys.unwind (some cursor.column)

def startsAt (s : Lexer) (column : Nat) : Bool := s.indents.head?.all (· < column)

def indent (s : Lexer) (column : Nat) (t : Token) : Lexer :=
  if s.depth == 0 && s.startsAt column then { s.emit t with indents := column :: s.indents } else s

def dropKey (s : Lexer) : Lexer := { s with keys := s.keys.filter (·.depth != s.depth) }

def saveKey (s : Lexer) : Lexer :=
  if s.keyAllowed then
    let k : KeyPlace :=
      { serial := s.serial, depth := s.depth, line := s.cursor.line, column := s.cursor.column,
        index := s.cursor.index }
    { s.dropKey.emit (.maybeKey s.serial) with
      keys := k :: s.dropKey.keys, serial := s.serial + 1 }
  else s

def allowKey (s : Lexer) (keyAllowed : Bool) : Lexer := { s with keyAllowed }

def mark (s : Lexer) (t : Token) : Lexer := (s.advance 1).emit t

def openBracket (s : Lexer) (t : Token) : Lexer :=
  let s := s.saveKey
  ({ s with depth := s.depth + 1 }.allowKey true).mark t

def closeBracket (s : Lexer) (t : Token) : Lexer :=
  let s := s.dropKey
  ({ s with depth := s.depth - 1 }.allowKey false).mark t

def opener (s : Lexer) (collection t : Token) (keyAllowed : Bool) : Option Lexer :=
  if s.depth == 0 && !s.keyAllowed then none
  else some ((((s.indent s.cursor.column collection).allowKey keyAllowed).dropKey).mark t)

def colon (s : Lexer) : Option Lexer :=
  match s.keys.find? (·.depth == s.depth) with
  | some k =>
    let begins := s.depth == 0 && s.startsAt k.column
    let tokens := s.tokens.flatMap fun t =>
      if t == .maybeKey k.serial then if begins then [.key, .blockMap] else [.key] else [t]
    let indents := if begins then k.column :: s.indents else s.indents
    some (({ s with tokens, indents }.dropKey.allowKey false).mark .value)
  | none => s.opener .blockMap .value (s.depth == 0)

def divider (s : Lexer) (t : Token) (n : Nat) : Lexer :=
  (((s.unwind none).dropKey.allowKey false).advance n).emit t

def isNameChar (c : Char) : Bool := c.isAlphanum || c == '-' || c == '_'

def named (s : Lexer) (t : String → Token) : Lexer :=
  let name := s.cursor.next.taken isNameChar
  ((s.saveKey.allowKey false).advance (name.length + 1)).emit (t (String.ofList name))

def tag (s : Lexer) : Lexer :=
  let name := s.cursor.taken fun c => !isGap c && !isBreak c
  ((s.saveKey.allowKey false).advance name.length).emit (.tag (String.ofList name))

def quoted (s : Lexer) (double : Bool) : Option Lexer := do
  let (text, cursor) ← Scalar.quoted double (s.cursor.rest.length + 1) s.cursor.next
  return { (s.saveKey.allowKey false).emit (.scalar (String.ofList text) false) with cursor }

def block (s : Lexer) (folds : Bool) : Lexer :=
  let least := (s.indents.head?.map (· + 1)).getD 1
  let (text, cursor) := Scalar.block folds least (s.cursor.rest.length + 1) s.cursor.next
  { (s.allowKey true).dropKey.emit (.scalar (String.ofList text) false) with cursor }

def plain (s : Lexer) : Lexer :=
  let indent := (s.indents.head?.map (· + 1)).getD 0
  let (text, cursor, broken) :=
    Scalar.plain (s.depth != 0) indent [] false (s.cursor.rest.length + 1) s.cursor
  { (s.saveKey.allowKey broken).emit (.scalar (String.ofList text) true) with cursor }

def marks : List Char := "-?:,[]\x7b\x7d#&*!|>'\"%@\x60".toList

def startsPlain (s : Lexer) (c : Char) (rest : List Char) : Bool :=
  !(isGap c || isBreak c || marks.contains c) ||
    (!endsWord rest && (c == '-' || (s.depth == 0 && (c == '?' || c == ':'))))

def step (s : Lexer) (c : Char) (rest : List Char) : Option Lexer :=
  let bare := s.depth == 0
  if s.cursor.column == 0 && c == '%' then
    some (s.divider .directive (s.cursor.taken (!isBreak ·)).length)
  else if s.cursor.column == 0 && s.cursor.atDivider then
    some (s.divider (if c == '-' then .documentStart else .documentEnd) 3)
  else if c == '[' then some (s.openBracket .openList)
  else if c == '\x7b' then some (s.openBracket .openMap)
  else if c == ']' then some (s.closeBracket .closeList)
  else if c == '\x7d' then some (s.closeBracket .closeMap)
  else if c == ',' then some ((s.allowKey true).dropKey.mark .comma)
  else if c == '-' && endsWord rest then s.opener .blockList .entry true
  else if c == '?' && (!bare || endsWord rest) then s.opener .blockMap .key bare
  else if c == ':' && (!bare || endsWord rest) then s.colon
  else if c == '*' then some (s.named .alias)
  else if c == '&' then some (s.named .anchor)
  else if c == '!' then some s.tag
  else if bare && (c == '|' || c == '>') then some (s.block (c == '>'))
  else if c == '\'' || c == '"' then s.quoted (c == '"')
  else if s.startsPlain c rest then some s.plain
  else none

def run : Nat → Lexer → Option (List Token)
  | 0, _ => none
  | n + 1, s =>
    let s := s.settle
    match s.cursor.rest with
    | [] => some (s.unwind none).tokens.reverse
    | c :: rest => (s.step c rest).bind (run n)

end Lexer

def Token.isMaybeKey : Token → Bool
  | .maybeKey _ => true
  | _ => false

def tokens? (text : String) : Option (List Token) :=
  let chars := text.toList
  let chars := if chars.head? == some '\uFEFF' then chars.drop 1 else chars
  (Lexer.run (chars.length + 2) { cursor := { rest := chars } }).map
    (·.filter fun t => !t.isMaybeKey)

end RubyStubs.Yaml
