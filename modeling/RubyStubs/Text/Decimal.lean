namespace RubyStubs

structure Decimal where
  mantissa : Int
  scale : Nat
  deriving DecidableEq, Repr

namespace Decimal

def dropZeros (digits : List Char) : List Char := digits.dropWhile (· == '0')

def scientific (d : Decimal) : List Char × Int :=
  let ds := Nat.toDigits 10 d.mantissa.natAbs
  let top : Int := (ds.length : Int) - 1 - d.scale
  ((dropZeros ds.reverse).reverse, top)

/-- Exponents from -4 to 15 are written positionally, always with a point; others as a power of
ten with a sign and at least two digits. -/
def toText (d : Decimal) : String :=
  if d.mantissa == 0 then "0.0"
  else
    let sign := if d.mantissa < 0 then ['-'] else []
    let (ds, top) := d.scientific
    let body :=
      if top < -4 || 16 ≤ top then
        let frac := ds.drop 1
        let power := Nat.toDigits 10 top.natAbs
        ds.take 1 ++ (if frac.isEmpty then [] else '.' :: frac) ++
          ['e', if top < 0 then '-' else '+'] ++
          (if power.length < 2 then '0' :: power else power)
      else if top < 0 then
        '0' :: '.' :: List.replicate (top.natAbs - 1) '0' ++ ds
      else
        let whole := top.natAbs + 1
        let int := ds.take whole ++ List.replicate (whole - ds.length) '0'
        let frac := ds.drop whole
        int ++ '.' :: (if frac.isEmpty then ['0'] else frac)
    String.ofList (sign ++ body)

end Decimal
end RubyStubs
