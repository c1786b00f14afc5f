import Mathlib.Tactic.IntervalCases
import Mathlib.Tactic.SplitIfs
import LinkQuality.Json.Printer
import LinkQuality.Json.Token

/-!
# Printed numbers

A number is printed as its digits, with a sign before them if it is negative, and the digits after
the point and the exponent if it has any. Each of these parts ends where the next begins, so reading
takes them apart again. A number is kept as it is written, hence nothing about it is lost; only a
digit after the point must be one digit.

## Main results

* `Token.exists_digits`: the digits that a number is written with
* `Token.numeral?_numeralChars`: a printed number is read as that number
* `Token.ofLexeme?_numeralChars`: so it is among the words of a document
-/

namespace LinkQuality.Json.Token

/-- Digits end where a text ends or another character comes. -/
theorem splitDigits_append {digits rest : List Char} (areDigits : ∀ c ∈ digits, c.isDigit = true)
    (ends : ∀ c ∈ rest.head?, c.isDigit = false) :
    splitDigits (digits ++ rest) = (digits.filterMap digit?, rest) := by
  have takes : rest.takeWhile Char.isDigit = [] ∧ rest.dropWhile Char.isDigit = rest := by
    cases rest with
    | nil => exact ⟨rfl, rfl⟩
    | cons c rest => simp [ends c rfl]
  rw [splitDigits, List.takeWhile_append_of_pos areDigits, List.dropWhile_append_of_pos areDigits,
    takes.1, takes.2, List.append_nil]

theorem digit?_digitChar {n : ℕ} (small : n < 10) : digit? n.digitChar = some n := by
  interval_cases n <;> rfl

theorem isDigit_of_mem_toDigits {n : ℕ} {c : Char} (isIn : c ∈ Nat.toDigits 10 n) :
    c.isDigit = true :=
  Nat.isDigit_of_mem_toDigits (by decide) (by decide) isIn

/-- One more digit makes ten times as much of the number before it. -/
theorem ofDigits_append_singleton (digits : List ℕ) (digit : ℕ) :
    ofDigits (digits ++ [digit]) = ofDigits digits * 10 + digit := by
  rw [ofDigits, ofDigits, List.foldl_append]
  rfl

/-- The digits that a number is written with are those of the number, and a zero comes first only if
it is the only one. -/
theorem exists_digits (n : ℕ) :
    ∃ digit more, (Nat.toDigits 10 n).filterMap digit? = digit :: more ∧
      ofDigits (digit :: more) = n ∧ (digit = 0 → more = []) := by
  induction n using Nat.strong_induction_on with
  | _ n ih =>
    by_cases small : n < 10
    · refine ⟨n, [], ?_, by simp [ofDigits], fun _ => rfl⟩
      rw [Nat.toDigits_of_lt_base small, List.filterMap_cons_some (digit?_digitChar small)]
      rfl
    · -- The number without its last digit is smaller.
      obtain ⟨digit, more, split, value, noZero⟩ := ih (n / 10) (by omega)
      refine ⟨digit, more ++ [n % 10], ?_, ?_, ?_⟩
      · rw [Nat.toDigits_of_base_le (by decide) (not_lt.mp small), List.filterMap_append, split,
          List.filterMap_cons_some (digit?_digitChar (Nat.mod_lt n (by decide)))]
        rfl
      · rw [← List.cons_append, ofDigits_append_singleton, value]
        omega
      · -- What comes before the last digit is not zero, since the number has more than one.
        intro isZero
        rw [noZero isZero, isZero] at value
        have : ofDigits [0] = 0 := rfl
        omega

theorem exists_toDigits (n : ℕ) :
    ∃ c more, Nat.toDigits 10 n = c :: more ∧ c.isDigit = true := by
  obtain ⟨c, more, eq⟩ := List.exists_cons_of_ne_nil (Nat.toDigits_ne_nil (n := n) (b := 10))
  exact ⟨c, more, eq, isDigit_of_mem_toDigits (eq ▸ List.mem_cons_self)⟩

theorem splitDigits_fraction {fraction : List ℕ} (areDigits : ∀ digit ∈ fraction, digit < 10)
    {rest : List Char} (ends : ∀ c ∈ rest.head?, c.isDigit = false) :
    splitDigits (fraction.flatMap (Nat.toDigits 10) ++ rest) = (fraction, rest) := by
  have written : (fraction.flatMap (Nat.toDigits 10)).filterMap digit? = fraction := by
    induction fraction with
    | nil => rfl
    | cons digit fraction ih =>
      have small := areDigits digit List.mem_cons_self
      rw [List.flatMap_cons, List.filterMap_append, Nat.toDigits_of_lt_base small,
        ih fun digit isIn => areDigits digit (List.mem_cons_of_mem _ isIn),
        List.filterMap_cons_some (digit?_digitChar small)]
      rfl
  rw [splitDigits_append (by simpa using fun _ digit _ => isDigit_of_mem_toDigits) ends, written]

theorem exponent?_exponentChars (e : Option ℤ) : exponent? (exponentChars e) = some e := by
  cases e with
  | none => rfl
  | some e =>
    obtain ⟨digit, more, split, value, -⟩ := exists_digits e.natAbs
    have splits : splitDigits (Nat.toDigits 10 e.natAbs ++ []) = _ :=
      splitDigits_append (fun _ => isDigit_of_mem_toDigits) (by simp)
    rw [List.append_nil, split] at splits
    by_cases negative : e < 0
    · -- The sign is read first, and then the digits.
      simp only [exponentChars, negative, if_true, List.cons_append, List.nil_append, exponent?,
        splits, value]
      rw [if_neg (by decide), Int.ofNat_natAbs_of_nonpos negative.le, neg_neg]
    · -- The first character is a digit, so no sign is read.
      obtain ⟨c, rest, eq, isDigit⟩ := exists_toDigits e.natAbs
      have noMinus : c ≠ '-' := by rintro rfl; exact absurd isDigit (by decide)
      have noPlus : c ≠ '+' := by rintro rfl; exact absurd isDigit (by decide)
      rw [eq] at splits
      simp only [exponentChars, negative, if_false, eq, exponent?]
      simp [noMinus, noPlus, splits, value, not_lt.mp negative]

/-- A printed exponent does not begin with a digit. -/
theorem not_isDigit_exponentChars (e : Option ℤ) :
    ∀ c ∈ (exponentChars e).head?, c.isDigit = false := by
  cases e with
  | none => simp [exponentChars]
  | some e => simp [exponentChars]

section Unsigned

variable {negative : Bool} {text rest : List Char} {digit : ℕ} {more : List ℕ}

/-- A number without a point is read up to its exponent. -/
theorem unsigned?_of_no_point (split : splitDigits text = (digit :: more, rest))
    (noZero : digit = 0 → more = []) (noPoint : '.' ∉ rest.head?) :
    unsigned? negative text =
      (exponent? rest).map fun e => ⟨negative, ofDigits (digit :: more), [], e⟩ := by
  rw [unsigned?, split]
  -- There is a digit, no zero before others and no point, so the last alternative is taken.
  split
  next _ absent => cases absent
  next _ _ _ zeros => cases zeros; cases noZero rfl
  next _ _ point => cases point; exact absurd rfl noPoint
  next _ _ parts => cases parts; rfl

/-- A number with a point is read up to it, and from there up to its exponent. -/
theorem unsigned?_of_point {first : ℕ} {others : List ℕ} {left : List Char}
    (split : splitDigits text = (digit :: more, '.' :: rest)) (noZero : digit = 0 → more = [])
    (splitRest : splitDigits rest = (first :: others, left)) :
    unsigned? negative text =
      (exponent? left).map fun e => ⟨negative, ofDigits (digit :: more), first :: others, e⟩ := by
  rw [unsigned?, split]
  split
  next _ absent => cases absent
  next _ _ _ zeros => cases zeros; cases noZero rfl
  next _ _ parts => cases parts; rw [splitRest]
  next _ _ noPoint parts => cases parts; exact (noPoint _ rfl).elim

end Unsigned

theorem unsigned?_chars {n : Numeral} (areDigits : ∀ digit ∈ n.fraction, digit < 10)
    (negative : Bool) :
    unsigned? negative (Nat.toDigits 10 n.whole ++ fractionChars n.fraction ++
      exponentChars n.exponent) = some { n with negative } := by
  obtain ⟨digit, more, split, value, noZero⟩ := exists_digits n.whole
  have splitWhole {rest : List Char} (ends : ∀ c ∈ rest.head?, c.isDigit = false) :
      splitDigits (Nat.toDigits 10 n.whole ++ rest) = (digit :: more, rest) := by
    rw [splitDigits_append (fun c => isDigit_of_mem_toDigits) ends, split]
  have ends := not_isDigit_exponentChars n.exponent
  -- Without a fraction there is no point, and the digits end at the exponent or the end.
  cases fractionEq : n.fraction with
  | nil =>
    have noPoint : '.' ∉ (exponentChars n.exponent).head? := by
      cases n.exponent <;> simp [exponentChars]
    rw [fractionChars, List.isEmpty_nil, if_pos rfl, List.append_nil,
      unsigned?_of_no_point (splitWhole ends) noZero noPoint, exponent?_exponentChars,
      Option.map_some, value, ← fractionEq]
  | cons first others =>
    have splitFraction := splitDigits_fraction areDigits ends
    rw [fractionEq] at splitFraction
    rw [fractionChars, List.isEmpty_cons, if_neg Bool.false_ne_true, List.append_assoc,
      List.cons_append, unsigned?_of_point (splitWhole (by simp)) noZero splitFraction,
      exponent?_exponentChars, Option.map_some, value, ← fractionEq]

/-- A number is read as it was written. -/
theorem numeral?_numeralChars {n : Numeral} (areDigits : ∀ digit ∈ n.fraction, digit < 10) :
    numeral? (numeralChars n) = some n := by
  cases negativeEq : n.negative with
  | true =>
    rw [numeralChars, negativeEq, if_pos rfl]
    simp only [List.cons_append, List.nil_append, numeral?]
    rw [unsigned?_chars areDigits, ← negativeEq]
  | false =>
    -- What begins with a digit has no sign.
    obtain ⟨c, more, eq, isDigit⟩ := exists_toDigits n.whole
    have noMinus : c ≠ '-' := by rintro rfl; exact absurd isDigit (by decide)
    rw [numeralChars, negativeEq, if_neg Bool.false_ne_true, List.nil_append, numeral?,
      unsigned?_chars areDigits, ← negativeEq]
    intro rest minus
    rw [eq] at minus
    exact noMinus (List.cons.inj minus).1

/-- Every character of a printed number belongs to it. -/
theorem inLexeme_of_mem_numeralChars {n : Numeral} {c : Char} (isIn : c ∈ numeralChars n) :
    inLexeme c = true := by
  have ofDigit {n : ℕ} (isIn : c ∈ Nat.toDigits 10 n) : inLexeme c = true := by
    simp [inLexeme, Char.isAlphanum, isDigit_of_mem_toDigits isIn]
  -- The whole part and the exponent have signs and digits alike.
  have ofSign {negative : Prop} [Decidable negative]
      (isIn : c ∈ if negative then ['-'] else []) : inLexeme c = true := by
    split_ifs at isIn
    · obtain rfl := List.mem_singleton.mp isIn
      rfl
    · cases isIn
  rw [numeralChars] at isIn
  simp only [List.mem_append] at isIn
  obtain ((sign | whole) | fraction) | exponent := isIn
  · exact ofSign sign
  · exact ofDigit whole
  · rw [fractionChars] at fraction
    split_ifs at fraction
    · cases fraction
    · obtain rfl | digits := List.mem_cons.mp fraction
      · rfl
      · obtain ⟨digit, -, isIn⟩ := List.mem_flatMap.mp digits
        exact ofDigit isIn
  · cases exponentEq : n.exponent with
    | none => rw [exponentEq] at exponent; cases exponent
    | some e =>
      rw [exponentEq, exponentChars] at exponent
      obtain (rfl | sign) | digits := (List.mem_append.mp exponent).imp_left List.mem_cons.mp
      · rfl
      · exact ofSign sign
      · exact ofDigit digits

theorem ofLexeme?_numeralChars {n : Numeral} (areDigits : ∀ digit ∈ n.fraction, digit < 10) :
    ofLexeme? (numeralChars n) = some (.number n) := by
  have read := numeral?_numeralChars areDigits
  have noWord {word : List Char} (noNumber : numeral? word = none) : numeralChars n ≠ word := by
    rintro rfl
    rw [read] at noNumber
    cases noNumber
  rw [ofLexeme?, if_neg (noWord rfl), if_neg (noWord rfl), if_neg (noWord rfl), read,
    Option.map_some]

end LinkQuality.Json.Token
