/-!
# Decimal digits

Reading a text of decimal digits and writing a number in decimal digits.

## Main statements

* `digitsValue_append_singleton`: one more digit makes ten times the value and the digit.
* `readDigits?_digits`: the digits of a number are read as the number.
* `readInt64?_intText`: so is the text of an integer, if the integer has 64 bits.
-/

namespace LinkedShapes.Number

/-- The value of a decimal digit. -/
def digitValue (c : Char) : Nat := c.toNat - 48

/-- The number that a text of decimal digits stands for. -/
def digitsValue (digits : List Char) : Nat :=
  digits.foldl (fun n c => 10 * n + digitValue c) 0

theorem digitsValue_append_singleton (digits : List Char) (c : Char) :
    digitsValue (digits ++ [c]) = 10 * digitsValue digits + digitValue c := by
  simp [digitsValue]

/-- The number written by a non-empty text of decimal digits. -/
def readDigits? (digits : List Char) : Option Nat :=
  if digits ≠ [] && digits.all Char.isDigit then some (digitsValue digits) else none

/-- The decimal digits of a number. -/
def digits (n : Nat) : List Char := Nat.toDigits 10 n

/-- The number in decimal digits. -/
def natText (n : Nat) : String := String.ofList (digits n)

/-- The integer in decimal digits, after a minus sign if it is negative. -/
def intText : Int → String
  | .ofNat n => natText n
  | .negSucc n => "-" ++ natText (n + 1)

/-- The least number of the signed 64-bit integers. -/
def minInt64 : Int := -9223372036854775808

/-- The greatest number of the signed 64-bit integers. -/
def maxInt64 : Int := 9223372036854775807

/-- The greatest number of the unsigned 64-bit integers. -/
def maxNat64 : Nat := 18446744073709551615

/-- The signed 64-bit integer written by a text: an optional sign and decimal digits. -/
def readInt64? (text : List Char) : Option Int :=
  let magnitude (digits : List Char) (sign : Int) : Option Int :=
    (readDigits? digits).bind fun n =>
      let value := sign * n
      if minInt64 ≤ value ∧ value ≤ maxInt64 then some value else none
  match text with
  | '-' :: rest => magnitude rest (-1)
  | '+' :: rest => magnitude rest 1
  | _ => magnitude text 1

/-- An integer that is read has 64 bits. -/
theorem bounds_of_readInt64? {text : List Char} {n : Int} (read : readInt64? text = some n) :
    minInt64 ≤ n ∧ n ≤ maxInt64 := by
  have bounds {digits : List Char} {sign : Int}
      (read : ((readDigits? digits).bind fun m =>
        if minInt64 ≤ sign * (m : Int) ∧ sign * (m : Int) ≤ maxInt64 then some (sign * (m : Int))
        else none) = some n) : minInt64 ≤ n ∧ n ≤ maxInt64 := by
    obtain ⟨m, -, kept⟩ := Option.bind_eq_some_iff.1 read
    split at kept
    · rename_i within
      exact Option.some.inj kept ▸ within
    · cases kept
  unfold readInt64? at read
  split at read
  · exact bounds read
  · exact bounds read
  · exact bounds read

/-! ### Numbers that are read as they were written -/

theorem digitsValue_digits (n : Nat) : digitsValue (digits n) = n :=
  Nat.ofDigitChars_toDigits (by decide) (by decide)

theorem isDigit_of_mem_digits {n : Nat} {c : Char} (mem : c ∈ digits n) : c.isDigit = true :=
  Nat.isDigit_of_mem_toDigits (by decide) (by decide) mem

/-- The digits of a number are read as the number. -/
theorem readDigits?_digits (n : Nat) : readDigits? (digits n) = some n := by
  have allDigits : (digits n).all Char.isDigit = true :=
    List.all_eq_true.2 fun _ mem => isDigit_of_mem_digits mem
  have someDigit : digits n ≠ [] := Nat.toDigits_ne_nil
  simp [readDigits?, allDigits, someDigit, digitsValue_digits]

theorem isDigit_of_digits_eq_cons {n : Nat} {c : Char} {rest : List Char}
    (first : digits n = c :: rest) : c.isDigit = true :=
  isDigit_of_mem_digits (first ▸ List.mem_cons_self)

/-- Digits have no sign before them. -/
theorem readInt64?_digits (n : Nat) :
    readInt64? (digits n) =
      if minInt64 ≤ (n : Int) ∧ (n : Int) ≤ maxInt64 then some (n : Int) else none := by
  unfold readInt64?
  split
  · rename_i rest first
    exact absurd (isDigit_of_digits_eq_cons first) (by decide)
  · rename_i rest first
    exact absurd (isDigit_of_digits_eq_cons first) (by decide)
  · simp [readDigits?_digits]

/-- Digits after a minus sign stand for the negated number. -/
theorem readInt64?_minus_digits (n : Nat) :
    readInt64? ('-' :: digits n) =
      if minInt64 ≤ -1 * (n : Int) ∧ -1 * (n : Int) ≤ maxInt64 then some (-1 * (n : Int))
      else none := by
  simp only [readInt64?, readDigits?_digits, Option.bind_some]

theorem toList_intText_ofNat (n : Nat) : (intText (.ofNat n)).toList = digits n :=
  String.toList_ofList

theorem toList_intText_negSucc (n : Nat) :
    (intText (.negSucc n)).toList = '-' :: digits (n + 1) := by
  simp [intText, natText]

/-- The text of an integer is read as the integer, if that has 64 bits. -/
theorem readInt64?_intText (n : Int) :
    readInt64? (intText n).toList = if minInt64 ≤ n ∧ n ≤ maxInt64 then some n else none := by
  cases n with
  | ofNat n => rw [toList_intText_ofNat, readInt64?_digits, Int.ofNat_eq_natCast]
  | negSucc n =>
    have negated : -1 * ((n + 1 : Nat) : Int) = .negSucc n := by omega
    rw [toList_intText_negSucc, readInt64?_minus_digits, negated]

/-- The unsigned 64-bit integer written by a text: an optional plus sign and decimal digits. -/
def readNat64? (text : List Char) : Option Nat :=
  let rest := match text with
    | '+' :: rest => rest
    | _ => text
  (readDigits? rest).filter (· ≤ maxNat64)

end LinkedShapes.Number
