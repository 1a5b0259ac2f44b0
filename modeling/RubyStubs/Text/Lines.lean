namespace RubyStubs.Text

def isBreak (c : Char) : Bool :=
  let n := c.toNat
  (10 ≤ n && n ≤ 13) || (28 ≤ n && n ≤ 30) || n == 0x85 || n == 0x2028 || n == 0x2029

def cutLines : List Char → List (List Char)
  | [] => []
  | '\r' :: '\n' :: cs => [] :: cutLines cs
  | c :: cs =>
    if isBreak c then [] :: cutLines cs
    else
      match cutLines cs with
      | [] => [[c]]
      | l :: ls => (c :: l) :: ls

def lines (s : String) : List String := (cutLines s.toList).map String.ofList

def unifyBreaks : List Char → List Char
  | [] => []
  | '\r' :: '\n' :: cs => '\n' :: unifyBreaks cs
  | '\r' :: cs => '\n' :: unifyBreaks cs
  | c :: cs => c :: unifyBreaks cs

end RubyStubs.Text
