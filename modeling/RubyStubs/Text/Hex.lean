namespace RubyStubs.Text

def hexDigit? (c : Char) : Option Nat :=
  if '0' ≤ c && c ≤ '9' then some (c.toNat - 48)
  else if 'a' ≤ c && c ≤ 'f' then some (c.toNat - 87)
  else if 'A' ≤ c && c ≤ 'F' then some (c.toNat - 55)
  else none

def hexNumber? (cs : List Char) : Option Nat :=
  cs.foldlM (fun n c => (hexDigit? c).map (n * 16 + ·)) 0

end RubyStubs.Text
