import RubyStubs.Settings.Data
import RubyStubs.Text.Split
import RubyStubs.Yaml.Node

namespace RubyStubs.Yaml

namespace Scalar

def nulls : List String := ["", "~", "null", "Null", "NULL"]

def trues : List String := ["yes", "Yes", "YES", "true", "True", "TRUE", "on", "On", "ON"]

def falses : List String := ["no", "No", "NO", "false", "False", "FALSE", "off", "Off", "OFF"]

def number? (base : Nat) (cs : List Char) : Option Nat :=
  if cs.isEmpty then none
  else
    cs.foldlM (fun n c =>
      if c == '_' then some n
      else (Text.hexDigit? c).bind fun d => if d < base then some (n * base + d) else none) 0

def isSixtieth (cs : List Char) : Bool :=
  cs.all Char.isDigit && ((number? 10 cs).any (· < 60)) && cs.length ≤ 2

def whole? : List Char → Option Nat
  | '0' :: 'b' :: cs => number? 2 cs
  | '0' :: 'x' :: cs => number? 16 cs
  | ['0'] => some 0
  | '0' :: cs => number? 8 cs
  | c :: cs =>
    if c.isDigit then
      match Text.split ':' (c :: cs) with
      | [] => none
      | p :: ps =>
        if ps.all isSixtieth then
          (number? 10 p).map fun n => ps.foldl (fun n q => n * 60 + (number? 10 q).getD 0) n
        else none
    else none
  | [] => none

def signed : List Char → Int × List Char
  | '-' :: cs => (-1, cs)
  | '+' :: cs => (1, cs)
  | cs => (1, cs)

def integer? (cs : List Char) : Option Int :=
  let (sign, cs) := signed cs
  (whole? cs).map (sign * Int.ofNat ·)

def exponent? : List Char → Option Int
  | [] => some 0
  | e :: s :: ds =>
    if (e == 'e' || e == 'E') && (s == '-' || s == '+') && ds.all Char.isDigit then
      (number? 10 ds).map fun n => if s == '-' then -Int.ofNat n else Int.ofNat n
    else none
  | _ => none

def fraction? (cs : List Char) : Option Decimal := do
  let isPart (c : Char) : Bool := c.isDigit || c == '_'
  let (sign, cs) := signed cs
  let whole := cs.takeWhile isPart
  let '.' :: cs := cs.dropWhile isPart | none
  let part := cs.takeWhile isPart
  let e ← exponent? (cs.dropWhile isPart)
  let start := if whole.isEmpty then part else whole
  if start.head?.any Char.isDigit && e.natAbs ≤ 400 then
    let n ← number? 10 (whole ++ part)
    let scale := Int.ofNat (part.filter (· != '_')).length - e
    return ⟨sign * n * Int.pow 10 (-scale).toNat, scale.toNat⟩
  else none

def value (text : String) : Data :=
  if nulls.contains text then .null
  else if trues.contains text then .bool true
  else if falses.contains text then .bool false
  else
    match integer? text.toList, fraction? text.toList with
    | some n, _ => .int n
    | none, some d => .fraction d
    | none, none => .text text

end Scalar

namespace Node

def isMerge : Node → Bool
  | .scalar text plain => plain && text == "<<"
  | _ => false

mutual

def value : Node → Data
  | .scalar text plain => if plain then Scalar.value text else .text text
  | .list items => .list (values items)
  | .map entries => .mapping (merged entries ++ own entries)

def values : List Node → List Data
  | [] => []
  | x :: xs => value x :: values xs

def entriesOf : Node → List (Data × Data)
  | .map entries => merged entries ++ own entries
  | _ => []

def entriesOfAll : List Node → List (Data × Data)
  | [] => []
  | x :: xs => entriesOfAll xs ++ entriesOf x

def toMerge : Node → List (Data × Data)
  | .list items => entriesOfAll items
  | .map entries => merged entries ++ own entries
  | .scalar _ _ => []

def merged : List (Node × Node) → List (Data × Data)
  | [] => []
  | (k, v) :: es => (if k.isMerge then toMerge v else []) ++ merged es

def own : List (Node × Node) → List (Data × Data)
  | [] => []
  | (k, v) :: es => if k.isMerge then own es else (value k, value v) :: own es

end

end Node

def read? (text : String) : Option Data := do
  let tokens ← tokens? text
  let node ← Node.ofTokens? tokens
  return node.value

end RubyStubs.Yaml
