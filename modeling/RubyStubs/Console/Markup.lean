import RubyStubs.Console.StyleName
import RubyStubs.Text.Word

namespace RubyStubs.Console

inductive Piece where
  | text (cs : List Char)
  | tag (cs : List Char)

def tagLength? (cs : List Char) : Option Nat :=
  match cs with
  | [] => none
  | c :: rest =>
    let opens := ('a' ≤ c && c ≤ 'z') || c == '#' || c == '/' || c == '@'
    let inside := rest.takeWhile fun c => c != '[' && c != ']'
    if opens && rest[inside.length]? == some ']' then some (inside.length + 2) else none

def pieces (skip : Nat) (latest : List Char) : List Char → List Piece
  | [] => [.text latest.reverse]
  | c :: cs =>
    match skip with
    | n + 1 => pieces n latest cs
    | 0 =>
      match if c == '[' then tagLength? cs else none with
      | none => pieces 0 (c :: latest) cs
      | some n =>
        let slashes := (latest.takeWhile (· == '\\')).length
        .text (latest.drop slashes).reverse :: .text (List.replicate (slashes / 2) '\\') ::
          (if slashes % 2 == 1 then .text (c :: cs.take n) else .tag (cs.take (n - 1))) ::
          pieces n [] cs

def unescaped : List Char → List Char
  | '\\' :: '[' :: cs => '[' :: unescaped cs
  | c :: cs => c :: unescaped cs
  | [] => []

structure OpenTag where
  name : List Char
  parameters : Option (List Char)

def OpenTag.isProper (t : OpenTag) : Bool :=
  let name := trimmed (t.parameters.getD [])
  let name := (withoutEnd? "()" name).getD name
  t.name.head? != some '@' || name.all fun c => Text.isWord c || c == '.'

def close? (name : List Char) : List OpenTag → Option (OpenTag × List OpenTag)
  | [] => none
  | t :: ts => if t.name == name then some (t, ts) else (close? name ts).map fun (u, us) => (u, t :: us)

def close (name : List Char) (ts : List OpenTag) : Except MarkupError (OpenTag × List OpenTag) := do
  if name.isEmpty then
    match ts with
    | [] => .error .nothingOpen
    | t :: ts => return (t, ts)
  else
    match close? (← canonical name) ts with
    | some r => return r
    | none => .error (.notOpen (String.ofList name))

def shownText (ts : List OpenTag) : List Piece → Except MarkupError (List Char)
  | [] => .ok []
  | .text cs :: ps => do return withPictures 0 (unescaped cs) ++ (← shownText ts ps)
  | .tag cs :: ps => do
    let name := cs.takeWhile (· != '=')
    match name with
    | '/' :: closed =>
      let (t, ts) ← close (trimmed closed) ts
      if t.isProper then shownText ts ps else .error .badParameters
    | _ =>
      let parameters := if cs.contains '=' then some (cs.drop (name.length + 1)) else none
      shownText (⟨← canonical name, parameters⟩ :: ts) ps

def untagged (cs : List Char) : Except MarkupError (List Char) := shownText [] (pieces 0 [] cs)

end RubyStubs.Console
