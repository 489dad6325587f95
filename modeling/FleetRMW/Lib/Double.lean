import FleetRMW.Lib.FloatOps
import FleetRMW.Lib.Float64

/-! # Python's numbers as doubles

`float` is a double: the operations are those of `Float`. Where Python raises because a number is
too large for a float or an integer, there is an infinity or 0 here.
-/

namespace FleetRMW.Lib

namespace Float64

/-- `int(x)` -/
def truncated (bits : UInt64) : Int :=
  let n : Int := units bits / 2 ^ 1074
  if !isFinite bits then 0 else if isNegative bits then -n else n

/-- `f"{x:.3f}"`, with the number of places. -/
def fixedText (places : Nat) (bits : UInt64) : Str :=
  let sign := if isNegative bits then lit "-" else []
  if !isFinite bits then (if fraction bits = 0 then sign ++ lit "inf" else lit "nan")
  else
    let n := roundHalfEven (units bits * 10 ^ places) (2 ^ 1074)
    let behind := toString (n % 10 ^ places)
    sign ++ lit (toString (n / 10 ^ places)) ++ lit "." ++
      List.replicate (places - behind.length) 48 ++ lit behind

end Float64

instance : FloatOps Float where
  decLt := Float.decLt
  decLe := Float.decLe
  ofInt := Float.ofInt
  toInt x := Float64.truncated x.toBits
  exp := Float.exp
  log := Float.log
  sqrt := Float.sqrt
  fixed places x := Float64.fixedText places x.toBits

/-- An integer that is no double is rounded. -/
example : FloatOps.toInt (FloatOps.ofInt 9007199254740995 * (1.0 : Float)) = 9007199254740996 := by
  decide +kernel

end FleetRMW.Lib
