import EasyNav.BinaryRounding
import EasyNav.ExtendedArithmetic

namespace EasyNav.DoubleArithmetic

open EasyNav.BinaryRounding
open EasyNav.ExtendedArithmetic

/-- A `double` without rounding: every finite one is a rational number. -/
abbrev Double := Extended ℚ

/-- A clock reading, a stamp or a duration, in nanoseconds. -/
abbrev Time := Int

def seconds (duration : Time) : Double := .fin ((duration : ℚ) / 1000000000)

theorem seconds_eq (duration : Time) :
    seconds duration = .fin ((duration : ℚ) / 1000000000) := rfl

/-- Nanoseconds of a duration in seconds, truncated. -/
def durationCast : Double → Time
  | .fin q => if q < 0 then -⌊-q * 1000000000⌋ else ⌊q * 1000000000⌋
  | _ => 0

/-- `std::to_string(double)`: six decimals. -/
def stdToString : Double → String
  | .nan => "nan"
  | .posInf => "inf"
  | .negInf => "-inf"
  | .fin q =>
      let digits := toString (roundHalfEven (|q| * 1000000)).toNat
      let padded := "".pushn '0' (7 - digits.length) ++ digits
      (if q < 0 then "-" else "") ++
        String.ofList (padded.toList.take (padded.length - 6)) ++ "." ++
        String.ofList (padded.toList.drop (padded.length - 6))

example : stdToString (.fin (-3 / 2)) = "-1.500000" := by decide +kernel

/-- `%.<decimals>f` of `snprintf`. -/
def printfFixed (decimals : Nat) : Double → String
  | .nan => "nan"
  | .posInf => "inf"
  | .negInf => "-inf"
  | .fin q =>
      let digits := toString (roundHalfEven (|q| * 10 ^ decimals)).toNat
      let padded := "".pushn '0' (decimals + 1 - digits.length) ++ digits
      (if q < 0 then "-" else "") ++
        String.ofList (padded.toList.take (padded.length - decimals)) ++
        (if decimals = 0 then ""
        else "." ++ String.ofList (padded.toList.drop (padded.length - decimals)))

/-- The exponent `x` with `10 ^ x ≤ q < 10 ^ (x + 1)`, for a positive `q`. -/
def decimalExponent (q : ℚ) : Int :=
  let guess : Int :=
    (Nat.toDigits 10 q.num.toNat).length - (Nat.toDigits 10 q.den).length
  if (10 : ℚ) ^ guess ≤ q then guess else guess - 1

def dropTrailingZeros (digits : List Char) : List Char :=
  (digits.reverse.dropWhile (· == '0')).reverse

/-- `std::ostream << double`: six significant digits. -/
def ostreamDouble : Double → String
  | .nan => "nan"
  | .posInf => "inf"
  | .negInf => "-inf"
  | .fin q =>
      if q = 0 then "0"
      else
        let guess := decimalExponent |q|
        let rounded := roundHalfEven (|q| * (10 : ℚ) ^ (5 - guess))
        let exponent := if rounded = 1000000 then guess + 1 else guess
        let digits := (toString rounded.toNat).toList.take 6
        let sign := if q < 0 then "-" else ""
        let fraction (tail : List Char) : String :=
          if dropTrailingZeros tail = [] then ""
          else "." ++ String.ofList (dropTrailingZeros tail)
        if exponent < -4 ∨ 6 ≤ exponent then
          let power := toString exponent.natAbs
          sign ++ String.ofList (digits.take 1) ++ fraction (digits.drop 1) ++ "e" ++
            (if exponent < 0 then "-" else "+") ++
            (if power.length < 2 then "0" ++ power else power)
        else if exponent < 0 then
          sign ++ "0" ++ fraction (List.replicate (exponent.natAbs - 1) '0' ++ digits)
        else
          let whole := exponent.toNat + 1
          sign ++ String.ofList (digits.take whole) ++ fraction (digits.drop whole)

example : ostreamDouble (.fin (1 / 4)) = "0.25" := by decide +kernel

example : ostreamDouble (.fin 1500000) = "1.5e+06" := by decide +kernel

end EasyNav.DoubleArithmetic
