import RubyStubs.Text.Blank

namespace RubyStubs.Text

def zeros : List Nat :=
  [48, 1632, 1776, 1984, 2406, 2534, 2662, 2790, 2918, 3046, 3174, 3302, 3430, 3558, 3664, 3792,
   3872, 4160, 4240, 6112, 6160, 6470, 6608, 6784, 6800, 6992, 7088, 7232, 7248, 42528, 43216,
   43264, 43472, 43504, 43600, 44016, 65296, 66720, 68912, 69734, 69872, 69942, 70096, 70384, 70736,
   70864, 71248, 71360, 71472, 71904, 72016, 72784, 73040, 73120, 92768, 92864, 93008, 120782,
   120792, 120802, 120812, 120822, 123200, 123632, 125264, 130032]

def digit? (c : Char) : Option Nat :=
  (zeros.find? fun z => z ≤ c.toNat && c.toNat < z + 10).map (c.toNat - ·)

def digitsFrom (value : Nat) (closed : Bool) : List Char → Option Nat
  | [] => if closed then some value else none
  | c :: cs =>
    match digit? c with
    | some d => digitsFrom (value * 10 + d) true cs
    | none => if c == '_' && closed then digitsFrom value false cs else none

def isBlankAround (c : Char) : Bool := isBlank c && !(28 ≤ c.toNat && c.toNat ≤ 31)

def integer? (s : String) : Option Int :=
  match (dropEnds isBlankAround s).toList with
  | '-' :: cs => (digitsFrom 0 false cs).map fun n => -(n : Int)
  | '+' :: cs => (digitsFrom 0 false cs).map Int.ofNat
  | cs => (digitsFrom 0 false cs).map Int.ofNat

end RubyStubs.Text
