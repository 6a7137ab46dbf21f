/-
# From a decimal to a binary64 number

A decimal of scale 0 becomes the binary64 number nearest to its integer. Any other
decimal is converted in binary64 arithmetic, each step rounded: with `p = 10^scale`, the
integer part `ip` and the fraction part `fp` of the mantissa over `p`, the fraction is
`fp / p`. With no fraction the result is `ip`. Otherwise `ip + fp / p` is multiplied by
`p`, rounded to an integer (a half away from zero) and divided by `p` again. The sign
comes last. The steps are seen in the result: `10^-28` becomes `1.0000000000000001e-28`,
not the nearest binary64 number to it.

Key definitions: `Decimal.toBinary64`.
-/
import ColumnExpr.Decimal.Basic
import ColumnExpr.Binary64.Basic
namespace ColumnExpr
namespace Decimal

/-- The binary64 number a decimal converts to, step by step as described above. -/
def toBinary64 (d : Decimal) : Binary64 :=
  if d.scale = 0 then Binary64.ofInt d.signed
  else
    let p := Nat.pow 10 d.scale
    let ip := d.mantissa / p
    let fp := d.mantissa % p
    let magnitude :=
      if fp = 0 then Binary64.ofNat ip
      else
        let frac := Binary64.div (Binary64.ofNat fp) (Binary64.ofNat p)
        let v := Binary64.add (Binary64.ofNat ip) frac
        let r := Binary64.ofNat p
        Binary64.div (Binary64.roundHalfAway (Binary64.mul v r)) r
    if d.negative then magnitude.neg else magnitude

end Decimal
end ColumnExpr
