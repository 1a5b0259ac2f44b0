import RubyStubs.Console.Markup
import RubyStubs.Console.Width

namespace RubyStubs.Console

def width : Nat := 80

def tabWidth : Nat := 8

def isDropped (c : Char) : Bool := [7, 8, 11, 12, 13].contains c.toNat

def untabbed (column : Nat) : List (List Char) → List Char
  | [] => []
  | [p] => p
  | p :: ps =>
    let p := p ++ [' ']
    let used := column + columnsOf p
    let fill := (tabWidth - used % tabWidth) % tabWidth
    p ++ List.replicate fill ' ' ++ untabbed (used + fill) ps

def cutAtWords : List Char → List (List Char)
  | [] => []
  | c :: cs =>
    match cutAtWords cs with
    | [] => [[c]]
    | w :: ws =>
      if Text.isBlank c && w.head?.any (!Text.isBlank ·) then [c] :: w :: ws else (c :: w) :: ws

def words (cs : List Char) : List (List Char) :=
  match cutAtWords cs with
  | v :: w :: ws => if v.all Text.isBlank then (v ++ w) :: ws else v :: w :: ws
  | ws => ws

def bare (w : List Char) : List Char := (w.reverse.dropWhile Text.isBlank).reverse

def chop (used : Nat) : List Cluster → List (List Char)
  | [] => []
  | c :: cs =>
    if width < used + c.columns then
      match chop c.columns cs with
      | [] => [[], c.chars]
      | p :: ps => [] :: (c.chars ++ p) :: ps
    else
      match chop (used + c.columns) cs with
      | [] => [c.chars]
      | p :: ps => (c.chars ++ p) :: ps

def fill (used : Nat) (line : List Char) : List (List Char) → List (List Char)
  | [] => [line]
  | w :: ws =>
    if used + columnsOf (bare w) ≤ width then fill (used + columnsOf w) (line ++ w) ws
    else
      let pieces := if width < columnsOf (bare w) then chop 0 (clusters w) else [w]
      let last := pieces.getLast?.getD []
      (if line.isEmpty then [] else [line]) ++ pieces.dropLast ++ fill (columnsOf last) last ws

def withoutExcess (line : List Char) : List Char :=
  let blanks := line.length - (bare line).length
  line.take (line.length - min blanks (line.length - width))

def cropped (room : Nat) : List Cluster → List Char
  | [] => []
  | c :: cs =>
    if room == 0 then []
    else if c.columns ≤ room then c.chars ++ cropped (room - c.columns) cs
    else [' ']

def fitted (line : List Char) : List Char :=
  let line := withoutExcess line
  if width < columnsOf line then cropped width (clusters line) else line

def shownLine (line : List Char) : List Char :=
  ['\n'].intercalate ((fill 0 [] (words (untabbed 0 (Text.split '\t' line)))).map fitted)

def shown (message : String) : Except MarkupError String := do
  let cs ← untagged message.toList
  let lines := Text.split '\n' (cs.filter (!isDropped ·))
  return String.ofList (['\n'].intercalate (lines.map shownLine) ++ ['\n'])

end RubyStubs.Console
