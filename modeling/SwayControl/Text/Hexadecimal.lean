/-!
Hexadecimal digits of fixed count: the way bytes and code points are written in escapes and colours.
-/

namespace SwayControl.Text

/-- The digit for a number below sixteen, with letters in the given case. -/
def hexDigit (upper : Bool) (n : Nat) : Char :=
  if n < 10 then Char.ofNat ('0'.toNat + n)
  else Char.ofNat ((if upper then 'A'.toNat else 'a'.toNat) + (n - 10))

/-- The last `width` hexadecimal digits of a number, zeros in front where it has fewer. -/
def hexDigits (upper : Bool) : Nat → Nat → List Char
  | 0, _ => []
  | width + 1, n => hexDigits upper width (n / 16) ++ [hexDigit upper (n % 16)]

/-- The number a hexadecimal digit of either case stands for. -/
def hexValue? (c : Char) : Option Nat :=
  if '0' ≤ c && c ≤ '9' then some (c.toNat - '0'.toNat)
  else if 'a' ≤ c && c ≤ 'f' then some (c.toNat - 'a'.toNat + 10)
  else if 'A' ≤ c && c ≤ 'F' then some (c.toNat - 'A'.toNat + 10)
  else none

/-- The number that a list of hexadecimal digits stands for, if all are digits. -/
def hexNumber? (digits : List Char) : Option Nat :=
  digits.foldl (fun total c => do return (← total) * 16 + (← hexValue? c)) (some 0)

theorem hexValue?_hexDigit (upper : Bool) {n : Nat} (h : n < 16) : hexValue? (hexDigit upper n) = some n := by
  have hall : ∀ upper, ∀ n < 16, hexValue? (hexDigit upper n) = some n := by decide
  exact hall upper n h

theorem hexNumber?_concat (digits : List Char) (c : Char) :
    hexNumber? (digits ++ [c]) = do return (← hexNumber? digits) * 16 + (← hexValue? c) := by
  rw [hexNumber?, List.foldl_append]
  rfl

/-- A number is read back from its digits if their count suffices for it. -/
theorem hexNumber?_hexDigits (upper : Bool) {width n : Nat} (h : n < Nat.pow 16 width) :
    hexNumber? (hexDigits upper width n) = some n := by
  induction width generalizing n with
  | zero =>
      obtain rfl : n = 0 := Nat.lt_one_iff.mp h
      rfl
  | succ width ih =>
      have hfront : n / 16 < Nat.pow 16 width := Nat.div_lt_of_lt_mul (by rwa [Nat.mul_comm])
      have hlast : n % 16 < 16 := Nat.mod_lt n (by decide)
      rw [hexDigits, hexNumber?_concat, ih hfront, hexValue?_hexDigit upper hlast]
      exact congrArg some (Nat.div_add_mod' n 16)

end SwayControl.Text
