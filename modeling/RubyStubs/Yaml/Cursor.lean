namespace RubyStubs.Yaml

def isBreak (c : Char) : Bool :=
  c == '\n' || c == '\r' || c == '\x85' || c == '\u2028' || c == '\u2029'

def isGap (c : Char) : Bool := c == ' ' || c == '\t'

def lineBreak (c : Char) : Char := if c == '\u2028' || c == '\u2029' then c else '\n'

def endsWord : List Char → Bool
  | [] => true
  | c :: _ => isGap c || isBreak c

structure Cursor where
  rest : List Char
  line : Nat := 0
  column : Nat := 0
  index : Nat := 0

namespace Cursor

def next (c : Cursor) : Cursor :=
  match c.rest with
  | [] => c
  | ch :: rest =>
    if isBreak ch then { rest, line := c.line + 1, index := c.index + 1 }
    else
      { c with
        rest
        column := if ch == '\uFEFF' then c.column else c.column + 1
        index := c.index + 1 }

def forward (c : Cursor) : Nat → Cursor
  | 0 => c
  | n + 1 => c.next.forward n

def peek? (c : Cursor) : Option Char := c.rest.head?

def taken (c : Cursor) (p : Char → Bool) : List Char := c.rest.takeWhile p

def skip (c : Cursor) (p : Char → Bool) : Cursor := c.forward (c.taken p).length

def atBreak (c : Cursor) : Bool := c.peek?.any isBreak

def atDivider (c : Cursor) : Bool :=
  match c.rest with
  | '-' :: '-' :: '-' :: rest | '.' :: '.' :: '.' :: rest => endsWord rest
  | _ => false

def skipComment (c : Cursor) : Cursor :=
  if c.peek? == some '#' then c.skip (!isBreak ·) else c

end Cursor
end RubyStubs.Yaml
