import RubyStubs.Yaml.Value

namespace RubyStubs
namespace Data

def keyIndex (key : Data) : List (Data × Data) → Nat
  | [] => 0
  | (k, _) :: es => if k.sameKey key then 0 else keyIndex key es + 1

def entriesOf : Data → List (Data × Data)
  | .map m => m
  | _ => []

def itemsOf : Data → List Data
  | .list l => l
  | _ => []

def isText : Data → Bool
  | .text _ => true
  | _ => false

mutual

/-- The same value with the entries of each mapping in the order that they have in another value. A
mapping with a key that is no text has kept its order. -/
def orderedLike (model : Data) : Data → Data
  | .map m =>
    let indexed := entriesLike model.entriesOf m
    let sorted := if m.all (·.1.isText) then indexed.mergeSort fun a b => decide (a.1 ≤ b.1) else indexed
    .map (sorted.map (·.2))
  | .list l => .list (itemsLike model.itemsOf l)
  | d => d

def entriesLike (model : List (Data × Data)) : List (Data × Data) → List (Nat × Data × Data)
  | [] => []
  | (k, v) :: es =>
    let found := ((model.find? fun e => e.1.sameKey k).map (·.2)).getD .null
    (k.keyIndex model, k, orderedLike found v) :: entriesLike model es

def itemsLike (model : List Data) : List Data → List Data
  | [] => []
  | d :: ds => orderedLike (model.head?.getD .null) d :: itemsLike (model.drop 1) ds

end

def orderedAs (text : String) (d : Data) : Data :=
  match Yaml.read? text with
  | some model => orderedLike model d
  | none => d

end Data
end RubyStubs
