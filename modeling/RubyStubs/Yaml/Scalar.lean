import RubyStubs.Text.Hex
import RubyStubs.Yaml.Cursor

namespace RubyStubs.Yaml
namespace Scalar

def folded (b : Char) (more : List Char) : List Char :=
  if lineBreak b != '\n' then b :: more else if more.isEmpty then [' '] else more

def quotedBreaks : Nat → Cursor → List Char × Cursor
  | 0, c => ([], c)
  | n + 1, c =>
    let c := c.skip isGap
    match c.peek? with
    | none => ([], c)
    | some b =>
      if isBreak b then
        let (bs, c) := quotedBreaks n c.next
        (lineBreak b :: bs, c)
      else ([], c)

def escapes : List (Char × Char) :=
  [('0', '\x00'), ('a', '\x07'), ('b', '\x08'), ('t', '\t'), ('\t', '\t'), ('n', '\n'),
   ('v', '\x0b'), ('f', '\x0c'), ('r', '\r'), ('e', '\x1b'), (' ', ' '), ('"', '"'), ('\\', '\\'),
   ('/', '/'), ('N', '\x85'), ('_', '\xa0'), ('L', '\u2028'), ('P', '\u2029')]

def codeLength? (c : Char) : Option Nat :=
  if c == 'x' then some 2 else if c == 'u' then some 4 else if c == 'U' then some 8 else none

def escape? (n : Nat) (c : Cursor) : Option (List Char × Cursor) := do
  let ch ← c.peek?
  match escapes.find? (·.1 == ch) with
  | some (_, e) => return ([e], c.next)
  | none =>
    match codeLength? ch with
    | some k =>
      let digits := c.next.rest.take k
      let code ← Text.hexNumber? digits
      if digits.length == k && code.isValidChar then
        return ([Char.ofNat code], c.next.forward k)
      else none
    | none => if isBreak ch then return quotedBreaks n c.next else none

def quoted (double : Bool) : Nat → Cursor → Option (List Char × Cursor)
  | 0, _ => none
  | n + 1, c => do
    let ch ← c.peek?
    if isGap ch || isBreak ch then
      let d := c.skip isGap
      let b ← d.peek?
      if isBreak b then
        let (bs, e) := quotedBreaks n d.next
        let (text, e) ← quoted double n e
        return (folded b bs ++ text, e)
      else
        let (text, e) ← quoted double n d
        return (c.taken isGap ++ text, e)
    else if double && ch == '\\' then
      let (cs, d) ← escape? n c.next
      let (text, d) ← quoted double n d
      return (cs ++ text, d)
    else if !double && ch == '\'' && c.next.peek? == some '\'' then
      let (text, d) ← quoted double n (c.forward 2)
      return ('\'' :: text, d)
    else if ch == (if double then '"' else '\'') then return ([], c.next)
    else
      let (text, d) ← quoted double n c.next
      return (ch :: text, d)

def isFlowMark (c : Char) : Bool := c == ',' || c == '[' || c == ']' || c == '\x7b' || c == '\x7d'

def plainWord (flow : Bool) : List Char → List Char
  | [] => []
  | c :: rest =>
    if isGap c || isBreak c || (flow && (isFlowMark c || c == '?')) ||
        (c == ':' && (endsWord rest || (flow && rest.head?.any isFlowMark))) then []
    else c :: plainWord flow rest

def plainBreaks : Nat → Cursor → Option (List Char) × Cursor
  | 0, c => (some [], c)
  | n + 1, c =>
    match c.peek? with
    | none => (some [], c)
    | some b =>
      if b == ' ' then plainBreaks n c.next
      else if !isBreak b then (some [], c)
      else if c.next.atDivider then (none, c.next)
      else
        let (bs, d) := plainBreaks n c.next
        (bs.map (lineBreak b :: ·), d)

def plainGap (n : Nat) (c : Cursor) : List Char × Cursor × Bool :=
  let d := c.skip (· == ' ')
  match d.peek? with
  | none => (c.taken (· == ' '), d, false)
  | some b =>
    if !isBreak b then (c.taken (· == ' '), d, false)
    else if d.next.atDivider then ([], d.next, true)
    else
      match plainBreaks n d.next with
      | (none, e) => ([], e, true)
      | (some bs, e) => (folded b bs, e, true)

/-- A plain scalar, and whether a break was passed last. It goes on, after the given gap, in lines
that are indented far enough. -/
def plain (flow : Bool) (indent : Nat) (gap : List Char) (broken : Bool) :
    Nat → Cursor → List Char × Cursor × Bool
  | 0, c => ([], c, broken)
  | n + 1, c =>
    let word := plainWord flow c.rest
    if c.peek? == some '#' || word.isEmpty then ([], c, broken)
    else
      let (more, d, b) := plainGap n (c.forward word.length)
      if more.isEmpty || d.peek? == some '#' || (!flow && d.column < indent) then
        (gap ++ word, d, b)
      else
        let (text, e, b) := plain flow indent more b n d
        (gap ++ word ++ text, e, b)

def blockBreaks (indent : Nat) : Nat → Cursor → List Char × Cursor
  | 0, c => ([], c)
  | n + 1, c =>
    match c.peek? with
    | none => ([], c)
    | some b =>
      if b == ' ' && c.column < indent then blockBreaks indent n c.next
      else if isBreak b then
        let (bs, d) := blockBreaks indent n c.next
        (lineBreak b :: bs, d)
      else ([], c)

def blockIndent (most : Nat) : Nat → Cursor → List Char × Nat × Cursor
  | 0, c => ([], most, c)
  | n + 1, c =>
    match c.peek? with
    | none => ([], most, c)
    | some b =>
      if b == ' ' then blockIndent (max most c.next.column) n c.next
      else if isBreak b then
        let (bs, most, d) := blockIndent most n c.next
        (lineBreak b :: bs, most, d)
      else ([], most, c)

/-- The lines of a block with the given indentation, after some breaks: the text, the break after
the last line, and further breaks. -/
def blockLines (folds : Bool) (indent : Nat) (breaks : List Char) :
    Nat → Cursor → List Char × List Char × List Char × Cursor
  | 0, c => ([], [], breaks, c)
  | n + 1, c =>
    if c.column != indent || c.peek?.isNone then ([], [], breaks, c)
    else
      let line := c.taken (!isBreak ·)
      let d := c.forward line.length
      let last := (d.peek?.map lineBreak).toList
      let (more, e) := blockBreaks indent n d.next
      if e.column == indent && e.peek?.isSome then
        let join :=
          if folds && last == ['\n'] && !c.peek?.any isGap && !e.peek?.any isGap then
            if more.isEmpty then [' '] else []
          else last
        let (text, last, more, f) := blockLines folds indent more n e
        (breaks ++ line ++ join ++ text, last, more, f)
      else (breaks ++ line, last, more, e)

structure BlockHeader where
  chomp : Option Char := none
  indent : Option Nat := none

def blockHeader : List Char → BlockHeader
  | a :: b :: _ =>
    let sign (c : Char) : Option Char := if c == '+' || c == '-' then some c else none
    let digit (c : Char) : Option Nat := if '1' ≤ c && c ≤ '9' then some (c.toNat - 48) else none
    if (sign a).isSome then { chomp := sign a, indent := digit b }
    else if (digit a).isSome then { chomp := sign b, indent := digit a }
    else {}
  | _ => {}

def block (folds : Bool) (least n : Nat) (c : Cursor) : List Char × Cursor :=
  let header := blockHeader c.rest
  let c := c.skip fun ch => ch == '+' || ch == '-' || ('0' ≤ ch && ch ≤ '9')
  let c := (c.skip (· == ' ')).skipComment.next
  let (indent, breaks, c) := match header.indent with
    | some k =>
      let indent := least + k - 1
      let (breaks, c) := blockBreaks indent n c
      (indent, breaks, c)
    | none =>
      let (breaks, most, c) := blockIndent 0 n c
      (max least most, breaks, c)
  let (text, last, more, c) := blockLines folds indent breaks n c
  let text := text ++ (if header.chomp == some '-' then [] else last)
  (text ++ (if header.chomp == some '+' then more else []), c)

end Scalar
end RubyStubs.Yaml
