import RubyStubs.Text.Decimal
import RubyStubs.Text.Quoted

namespace RubyStubs

inductive Data where
  | null
  | bool (b : Bool)
  | int (n : Int)
  | fraction (d : Decimal)
  | text (s : String)
  | list (items : List Data)
  | map (entries : List (Data × Data))
  deriving Inhabited

namespace Data

/-- The number that a scalar is as a key, as a fraction in lowest terms; truth values are numbers
too. -/
def number? : Data → Option (Int × Nat)
  | .bool b => some (if b then 1 else 0, 1)
  | .int n => some (n, 1)
  | .fraction d =>
    let g := Nat.gcd d.mantissa.natAbs (Nat.pow 10 d.scale)
    some (d.mantissa / g, Nat.pow 10 d.scale / g)
  | _ => none

def sameKey (a b : Data) : Bool :=
  match a, b with
  | .null, .null => true
  | .text s, .text t => s == t
  | a, b => a.number?.isSome && a.number? == b.number?

def put (entries : List (Data × Data)) (key value : Data) : List (Data × Data) :=
  match entries with
  | [] => [(key, value)]
  | (k, v) :: rest => if k.sameKey key then (k, value) :: rest else (k, v) :: put rest key value

def mapping (entries : List (Data × Data)) : Data :=
  .map (entries.foldl (fun acc e => put acc e.1 e.2) [])

def lookup? (entries : List (Data × Data)) (name : String) : Option Data :=
  (entries.find? fun e => e.1.sameKey (.text name)).map (·.2)

def isBlank : Data → Bool
  | .null => true
  | .bool b => !b
  | .int n => n == 0
  | .fraction d => d.mantissa == 0
  | .text s => s.isEmpty
  | .list l => l.isEmpty
  | .map m => m.isEmpty

mutual

def inner : Data → String
  | .null => "None"
  | .bool b => if b then "True" else "False"
  | .int n => toString n
  | .fraction d => d.toText
  | .text s => Text.quoted s
  | .list l => "[" ++ ", ".intercalate (innerAll l) ++ "]"
  | .map m => "\x7b" ++ ", ".intercalate (innerEntries m) ++ "\x7d"

def innerAll : List Data → List String
  | [] => []
  | d :: ds => inner d :: innerAll ds

def innerEntries : List (Data × Data) → List String
  | [] => []
  | (k, v) :: es => (inner k ++ ": " ++ inner v) :: innerEntries es

end

def toText : Data → String
  | .text s => s
  | d => d.inner

end Data
end RubyStubs
