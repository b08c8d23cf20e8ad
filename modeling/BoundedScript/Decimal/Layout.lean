import BoundedScript.Decimal.Shortest

set_option autoImplicit false

namespace BoundedScript

structure Layout where
  plainFrom : Option Int
  plainTo : Option Int
  pointZero : Bool

namespace Layout

def json : Layout := ⟨some (-5), some 15, true⟩

def script : Layout := ⟨some (-6), some 20, false⟩

def positional : Layout := ⟨none, none, false⟩

def positionalPoint : Layout := ⟨none, none, true⟩

def isPlain (l : Layout) (lead : Int) : Bool :=
  l.plainFrom.all (· ≤ lead) && l.plainTo.all (lead ≤ ·)

end Layout

namespace Decimal

def exponentText (e : Int) : List Char :=
  'e' :: (if e < 0 then '-' else '+') :: Nat.toDigits 10 e.natAbs

def positionalText (d : Decimal) (pointZero : Bool) : List Char :=
  let ds := d.digits
  let place := d.pointPosition
  if place ≤ 0 then
    '0' :: '.' :: List.replicate (-place).toNat '0' ++ ds
  else if d.exponent < 0 then
    ds.take place.toNat ++ '.' :: ds.drop place.toNat
  else
    ds ++ List.replicate d.exponent.toNat '0' ++ (if pointZero then ['.', '0'] else [])

def exponentialText (d : Decimal) : List Char :=
  let lead := d.leadExponent
  match d.digits with
  | [] => []
  | [c] => c :: exponentText lead
  | c :: rest => c :: '.' :: rest ++ exponentText lead

def render (d : Decimal) (l : Layout) : List Char :=
  if d.coefficient == 0 then '0' :: (if l.pointZero then ['.', '0'] else [])
  else if l.isPlain d.leadExponent then d.positionalText l.pointZero
  else d.exponentialText

end Decimal

def Double.render (l : Layout) (x : Float) : String :=
  let body := (Decimal.shortest (Binary.ofFloat x)).render l
  String.ofList (if Double.isNegative x then '-' :: body else body)

end BoundedScript
