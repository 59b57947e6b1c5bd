/-!
# Numerals

* `digits base n`: the digits of a natural number, the first one first.
* `ofDigits base ds`: the number that digits denote.
* `numeral base n`: the digits as characters, `0`-`9` and then `a`-`f`.
* `digitValue? base c`: the value of a character as a digit.
-/

namespace Stencil.Number

/-- Powers of numbers are those of the core library, also where powers of monoids are known. -/
@[default_instance 20000]
instance (priority := 2000) powOfNatPow {α : Type} [NatPow α] : Pow α Nat := instPowNat

/-- The digits of `n`, without leading zeros; zero has one digit. -/
def digits (base n : Nat) : List Nat :=
  if _h : n < base ∨ base < 2 then [n] else digits base (n / base) ++ [n % base]
termination_by n
decreasing_by exact Nat.div_lt_self (by omega) (by omega)

/-- The number with these digits. -/
def ofDigits (base : Nat) (ds : List Nat) : Nat := ds.foldl (fun n d => n * base + d) 0

/-- The numeral of `n`, in lower case. -/
def numeral (base n : Nat) : List Char := (digits base n).map Nat.digitChar

/-- The number of decimal digits. -/
def digitCount (n : Nat) : Nat := (digits 10 n).length

/-- The value of a digit in either case. -/
def digitValue? (base : Nat) (c : Char) : Option Nat :=
  let value :=
    if '0' ≤ c ∧ c ≤ '9' then some (c.toNat - '0'.toNat)
    else if 'a' ≤ c ∧ c ≤ 'f' then some (c.toNat - 'a'.toNat + 10)
    else if 'A' ≤ c ∧ c ≤ 'F' then some (c.toNat - 'A'.toNat + 10)
    else none
  value.filter (· < base)

/-- The number that a text of digits denotes; none if it is empty or holds another character. -/
def ofNumeral? (base : Nat) (cs : List Char) : Option Nat :=
  if cs.isEmpty then none else (cs.mapM (digitValue? base)).map (ofDigits base)

/-- The decimal numeral of an integer. -/
def intNumeral (i : Int) : List Char :=
  if i < 0 then '-' :: numeral 10 i.natAbs else numeral 10 i.natAbs

theorem digits_of_lt {base n : Nat} (h : n < base) : digits base n = [n] := by
  rw [digits, dif_pos (.inl h)]

theorem digits_of_le {base n : Nat} (hb : 2 ≤ base) (h : base ≤ n) :
    digits base n = digits base (n / base) ++ [n % base] := by
  rw [digits, dif_neg (by omega)]

theorem digits_ne_nil (base n : Nat) : digits base n ≠ [] := by
  rw [digits]; split <;> simp

@[simp] theorem ofDigits_append_singleton (base : Nat) (ds : List Nat) (d : Nat) :
    ofDigits base (ds ++ [d]) = ofDigits base ds * base + d := by
  simp [ofDigits]

/-- The digits of a number denote it. -/
theorem ofDigits_digits (base n : Nat) : ofDigits base (digits base n) = n := by
  fun_induction digits base n with
  | case1 n h => simp [ofDigits]
  | case2 n h ih => rw [ofDigits_append_singleton, ih, Nat.mul_comm, Nat.div_add_mod]

end Stencil.Number
