namespace RubyStubs.Text

/-- Reads as many of the bytes as lie in the given ranges, each adding six bits to `acc`. Gives
the value, the number of bytes read and whether all ranges were used up. -/
def readTail : List (Nat × Nat) → List UInt8 → Nat → Nat × Nat × Bool
  | [], _, acc => (acc, 0, true)
  | _ :: _, [], acc => (acc, 0, false)
  | (lo, hi) :: rs, b :: bs, acc =>
    if lo ≤ b.toNat && b.toNat ≤ hi then
      let (v, n, ok) := readTail rs bs (acc * 64 + b.toNat % 64)
      (v, n + 1, ok)
    else (acc, 0, false)

def leadRanges (b : Nat) : Option (List (Nat × Nat) × Nat) :=
  if b < 0x80 then some ([], b)
  else if b < 0xC2 then none
  else if b < 0xE0 then some ([(0x80, 0xBF)], b % 32)
  else if b == 0xE0 then some ([(0xA0, 0xBF), (0x80, 0xBF)], b % 16)
  else if b == 0xED then some ([(0x80, 0x9F), (0x80, 0xBF)], b % 16)
  else if b < 0xF0 then some ([(0x80, 0xBF), (0x80, 0xBF)], b % 16)
  else if b == 0xF0 then some ([(0x90, 0xBF), (0x80, 0xBF), (0x80, 0xBF)], b % 8)
  else if b < 0xF4 then some ([(0x80, 0xBF), (0x80, 0xBF), (0x80, 0xBF)], b % 8)
  else if b == 0xF4 then some ([(0x80, 0x8F), (0x80, 0xBF), (0x80, 0xBF)], b % 8)
  else none

def replacement : Char := '\uFFFD'

def readChar (b : UInt8) (bs : List UInt8) : Char × Nat :=
  match leadRanges b.toNat with
  | none => (replacement, 0)
  | some (ranges, bits) =>
    match readTail ranges bs bits with
    | (v, n, true) => (Char.ofNat v, n)
    | (_, n, false) => (replacement, n)

def decodeBytes : List UInt8 → List Char
  | [] => []
  | b :: bs =>
    let (c, n) := readChar b bs
    c :: decodeBytes (bs.drop n)
termination_by bs => bs.length
decreasing_by simp only [List.length_drop, List.length_cons]; omega

def isUtf8 (bytes : List UInt8) : Bool := (String.fromUTF8? ⟨bytes.toArray⟩).isSome

def decode (bytes : List UInt8) : String := String.ofList (decodeBytes bytes)

end RubyStubs.Text
