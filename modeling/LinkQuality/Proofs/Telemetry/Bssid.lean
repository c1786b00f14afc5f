import Mathlib.Data.Bool.AllAny
import Mathlib.Data.List.Forall2
import Mathlib.Data.Nat.Digits.Defs
import Mathlib.Data.Set.List
import LinkQuality.Proofs.Text
import LinkQuality.Telemetry.Bssid

/-!
# Spelled and written addresses

An octet has many spellings: digits of either case, as many zeros in front as one likes, and a plus
sign before them or none. An address is spelled by six octets between colons, with blank characters
around it. Reading accepts spellings and nothing else.

Digits are taken in one after the other, and a value that has outgrown the octet is refused at once.
More digits never make a value smaller, so this refuses no more than looking at the whole value
would. Neither a digit nor a sign is a colon or blank, so an address falls into its octets at the
colons, whatever is around it.

What is written is one of the spellings: the only one with two lower-case digits for each octet.

## Main definitions

* `Text.Octet.IsDigit`, `Text.Octet.Spells`: digits and spellings of octets
* `Bssid.Spells`: spellings of addresses
* `Bssid.IsCanonical`: whether a text has two lower-case digits for each of six octets

## Main results

* `Text.Octet.read_eq_ok_iff`: the texts that are read as an octet are its spellings
* `Bssid.ofChars_eq_ok_iff`: the texts that are read as an address are its spellings
* `Bssid.read_text`: a written address is read as that address
* `Bssid.reads_spellings`: reading inverts writing, which picks the canonical spelling
-/

namespace LinkQuality

namespace Text.Octet

/-! ### Spelled octets -/

/-- The digits in lower case, each at the place of its value. -/
def lowerDigits : List Char :=
  ['0', '1', '2', '3', '4', '5', '6', '7', '8', '9', 'a', 'b', 'c', 'd', 'e', 'f']

/-- Whether a character is the digit of a value, in lower or in upper case. -/
def IsDigit (c : Char) (value : ℕ) : Prop :=
  ∃ lower ∈ lowerDigits[value]?, c = lower ∨ c = lower.toUpper

/-- Whether a text spells an octet: by one digit or more, with a plus sign before them or without,
which are those of its value in base sixteen. -/
def Spells (text : List Char) (octet : Fin 256) : Prop :=
  ∃ digits values, (text = digits ∨ text = '+' :: digits) ∧ digits ≠ [] ∧
    List.Forall₂ IsDigit digits values ∧ Nat.ofDigits 16 values.reverse = octet.val

-- A value has one digit in lower case, so it is enough to look that one up.
instance (c : Char) (value : ℕ) : Decidable (IsDigit c value) :=
  Option.decidableExistsMem lowerDigits[value]?

variable {c : Char} {value : ℕ} {text : List Char} {octet : Fin 256}

/-- The digits in lower case are those that are written. -/
theorem getElem?_lowerDigits (small : value < 16) :
    lowerDigits[value]? = some (digitChar value) := by
  have all : ∀ value < 16, lowerDigits[value]? = some (digitChar value) := by decide +kernel
  exact all value small

theorem digit?_eq_some_iff : digit? c = some value ↔ IsDigit c value := by
  constructor
  · intro isRead
    -- All characters that are read come before 'g', and there are few of those.
    have few : ∀ n < 103, ∀ value ∈ digit? (Char.ofNat n), IsDigit (Char.ofNat n) value := by
      decide +kernel
    have small : c.toNat < 103 := by
      by_contra large
      have after (last : Char) (early : last.toNat < 103) : ¬ c ≤ last := fun atMost => by
        have : c.toNat ≤ last.toNat := UInt32.le_iff_toNat_le.mp atMost
        omega
      simp [digit?, after '9' (by decide), after 'f' (by decide), after 'F' (by decide)] at isRead
    simpa using few c.toNat small value (by simpa using isRead)
  · rintro ⟨lower, isLower, same⟩
    have all : ∀ value < 16, digit? (digitChar value) = some value ∧
        digit? (digitChar value).toUpper = some value := by
      decide +kernel
    have small : value < 16 := (List.getElem?_eq_some_iff.mp isLower).1
    obtain rfl : digitChar value = lower :=
      Option.some.inj ((getElem?_lowerDigits small).symm.trans isLower)
    rcases same with rfl | rfl
    · exact (all value small).1
    · exact (all value small).2

/-- A digit is not taken for a sign, a separator or a blank. -/
theorem IsDigit.spec (isDigit : IsDigit c value) : c ≠ '+' ∧ c ≠ ':' ∧ isBlank c = false := by
  obtain ⟨lower, isLower, same⟩ := isDigit
  have all : ∀ c ∈ lowerDigits ++ lowerDigits.map Char.toUpper,
      c ≠ '+' ∧ c ≠ ':' ∧ isBlank c = false :=
    List.all_iff_forall_prop.mp (by decide +kernel)
  have isLower : lower ∈ lowerDigits := List.mem_of_getElem? isLower
  rcases same with rfl | rfl
  · exact all _ (List.mem_append_left _ isLower)
  · exact all _ (List.mem_append_right _ (List.mem_map_of_mem isLower))

/-- A digit is taken in if the value does not outgrow the octet by it. -/
theorem extend_eq_ok_iff {start : ℕ} : extend start c = .ok value ↔
    ∃ digit, IsDigit c digit ∧ start * 16 + digit = value ∧ value < 256 := by
  unfold extend
  cases isRead : digit? c with
  | none =>
    refine iff_of_false nofun ?_
    rintro ⟨digit, isDigit, -⟩
    exact Option.some_ne_none digit ((digit?_eq_some_iff.mpr isDigit).symm.trans isRead)
  | some digit =>
    -- A character is at most one digit.
    have only (other : ℕ) : IsDigit c other ↔ digit = other := by
      rw [← digit?_eq_some_iff, isRead, Option.some_inj]
    dsimp only
    split_ifs with room
    · simp only [Except.ok.injEq, only, exists_eq_left']
      omega
    · simp only [only, exists_eq_left', false_iff]
      omega

theorem le_foldl (digits : List ℕ) (start : ℕ) :
    start ≤ digits.foldl (fun value digit => value * 16 + digit) start := by
  induction digits generalizing start with
  | nil => exact le_rfl
  | cons digit digits ih =>
    have first : start ≤ start * 16 + digit := by omega
    exact first.trans (ih _)

/-- Digits are taken in one after the other if the value of all of them does not outgrow the
octet. -/
theorem foldlM_extend_eq_ok_iff {digits : List Char} {start : ℕ} (small : start < 256) :
    digits.foldlM extend start = .ok value ↔
      ∃ values, List.Forall₂ IsDigit digits values ∧
        values.foldl (fun value digit => value * 16 + digit) start = value ∧ value < 256 := by
  induction digits generalizing start with
  | nil =>
    simp only [List.foldlM_nil, List.forall₂_nil_left_iff, exists_eq_left, List.foldl_nil]
    constructor
    · rintro ⟨⟩
      exact ⟨rfl, small⟩
    · rintro ⟨rfl, -⟩
      rfl
  | cons c digits ih =>
    -- The digits that follow start from what the first one amounts to.
    rw [List.foldlM_cons]
    constructor
    · intro folds
      cases taken : extend start c with
      | error fault =>
        rw [taken] at folds
        cases folds
      | ok next =>
        rw [taken] at folds
        obtain ⟨digit, isDigit, rfl, room⟩ := extend_eq_ok_iff.mp taken
        obtain ⟨values, areDigits, folded⟩ := (ih room).mp folds
        exact ⟨digit :: values, .cons isDigit areDigits, folded⟩
    · rintro ⟨values, areDigits, folded, outgrowsNot⟩
      obtain ⟨digit, others, isDigit, othersAreDigits, rfl⟩ :=
        List.forall₂_cons_left_iff.mp areDigits
      have room : start * 16 + digit < 256 := by
        have atMost := le_foldl others (start * 16 + digit)
        rw [List.foldl_cons] at folded
        omega
      rw [extend_eq_ok_iff.mpr ⟨digit, isDigit, rfl, room⟩]
      exact (ih room).mpr ⟨others, othersAreDigits, folded, outgrowsNot⟩

/-- The digits of a text follow its sign, if it has one. -/
theorem digitsOf_cases (nonempty : text ≠ []) :
    digitsOf text ≠ [] ∧ (text = digitsOf text ∨ text = '+' :: digitsOf text) := by
  unfold digitsOf
  split
  · exact ⟨List.cons_ne_nil _ _, .inr rfl⟩
  · exact ⟨nonempty, .inl rfl⟩

theorem foldl_eq_ofDigits (values : List ℕ) :
    values.foldl (fun value digit => value * 16 + digit) 0 = Nat.ofDigits 16 values.reverse := by
  rw [Nat.ofDigits_eq_foldr, List.foldr_reverse]
  congr
  funext value digit
  simp only [Nat.cast_id]
  omega

/-- The texts that are read as an octet are its spellings. -/
theorem read_eq_ok_iff : read text = .ok octet ↔ Spells text octet := by
  -- Reading is done once the digits are taken in, for what they amount to is an octet.
  have read_eq (nonempty : text ≠ []) :
      read text = .ok octet ↔ (digitsOf text).foldlM extend 0 = .ok octet.val := by
    rw [read, if_neg (by simpa using nonempty)]
    cases folds : (digitsOf text).foldlM extend 0 with
    | error fault => exact iff_of_false nofun nofun
    | ok value =>
      obtain ⟨-, -, -, room⟩ := (foldlM_extend_eq_ok_iff (by decide)).mp folds
      change (if h : value < 256 then .ok ⟨value, h⟩ else .error .tooLarge :
        Except Fault (Fin 256)) = .ok octet ↔ _
      rw [dif_pos room, Except.ok.injEq, Except.ok.injEq, Fin.ext_iff]
  constructor
  · intro isRead
    have nonempty : text ≠ [] := by
      rintro rfl
      cases isRead
    obtain ⟨hasDigits, signed⟩ := digitsOf_cases nonempty
    obtain ⟨values, areDigits, folded, -⟩ :=
      (foldlM_extend_eq_ok_iff (by decide)).mp ((read_eq nonempty).mp isRead)
    exact ⟨digitsOf text, values, signed, hasDigits, areDigits, foldl_eq_ofDigits values ▸ folded⟩
  · rintro ⟨digits, values, signed, hasDigits, areDigits, isValue⟩
    obtain ⟨first, others, rfl⟩ := List.exists_cons_of_ne_nil hasDigits
    -- The first digit is no sign, so a sign that there is stands before it.
    have unsigned : digitsOf text = first :: others := by
      obtain ⟨value, -, isDigit, -, -⟩ := List.forall₂_cons_left_iff.mp areDigits
      rcases signed with rfl | rfl
      · rw [digitsOf]
        rintro c rest sign
        exact isDigit.spec.1 (List.cons.inj sign).1
      · rfl
    have nonempty : text ≠ [] := by
      rcases signed with rfl | rfl <;> exact List.cons_ne_nil _ _
    rw [read_eq nonempty, unsigned, foldlM_extend_eq_ok_iff (by decide)]
    exact ⟨values, areDigits, (foldl_eq_ofDigits values).trans isValue, octet.isLt⟩

/-- Neither a colon nor a blank is part of a spelled octet. -/
theorem Spells.spec (spells : Spells text octet) : ∀ c ∈ text, c ≠ ':' ∧ isBlank c = false := by
  obtain ⟨digits, values, signed, -, areDigits, -⟩ := spells
  have inDigits : ∀ c ∈ digits, c ≠ ':' ∧ isBlank c = false :=
    ((List.forall₂_and_left _ _).mp
      (areDigits.imp fun _ _ isDigit => ⟨isDigit.spec.2, isDigit⟩)).1
  rcases signed with rfl | rfl
  · exact inDigits
  · exact List.forall_mem_cons.mpr ⟨by decide, inDigits⟩

/-! ### Written octets -/

theorem spells_text (octet : Fin 256) : Spells (Octet.text octet) octet := by
  have isDigit (value : ℕ) (small : value < 16) : IsDigit (digitChar value) value :=
    ⟨_, getElem?_lowerDigits small, .inl rfl⟩
  refine ⟨_, [octet.val / 16, octet.val % 16], .inl rfl, List.cons_ne_nil _ _, ?_, ?_⟩
  · exact .cons (isDigit _ (by omega)) (.cons (isDigit _ (by omega)) .nil)
  · simp only [List.reverse_cons, List.reverse_nil, List.nil_append, List.cons_append,
      Nat.ofDigits_cons, Nat.ofDigits_nil]
    omega

/-- What is written for octets are the texts of two digits in lower case. -/
theorem exists_eq_text_iff : (∃ octet, Octet.text octet = text) ↔
    ∃ high ∈ lowerDigits, ∃ low ∈ lowerDigits, text = [high, low] := by
  constructor
  · rintro ⟨octet, rfl⟩
    have isLower (value : ℕ) (small : value < 16) : digitChar value ∈ lowerDigits :=
      List.mem_of_getElem? (getElem?_lowerDigits small)
    exact ⟨_, isLower _ (by omega), _, isLower _ (by omega), rfl⟩
  · rintro ⟨high, isHigh, low, isLow, rfl⟩
    have isWritten (c : Char) (isLower : c ∈ lowerDigits) : ∃ value < 16, digitChar value = c := by
      obtain ⟨value, found⟩ := List.mem_iff_getElem?.mp isLower
      have small : value < 16 := (List.getElem?_eq_some_iff.mp found).1
      exact ⟨value, small, Option.some.inj ((getElem?_lowerDigits small).symm.trans found)⟩
    obtain ⟨h, h_lt, rfl⟩ := isWritten high isHigh
    obtain ⟨l, l_lt, rfl⟩ := isWritten low isLow
    refine ⟨⟨h * 16 + l, by omega⟩, ?_⟩
    have upper : (h * 16 + l) / 16 = h := by omega
    have lower : (h * 16 + l) % 16 = l := by omega
    rw [Octet.text, upper, lower]

end Text.Octet

namespace Bssid

/-! ### Spelled addresses -/

/-- Whether a text spells an address: by six spelled octets between colons, with nothing but blank
characters around them. -/
def Spells (text : List Char) (bssid : Bssid) : Prop :=
  ∃ before parts after, text = before ++ [':'].intercalate parts ++ after ∧
    Text.allBlank before = true ∧ Text.allBlank after = true ∧
      List.Forall₂ Text.Octet.Spells parts bssid.octets.toList

/-- Whether a text is in canonical form: six times two digits in lower case, between colons. -/
def IsCanonical (text : List Char) : Prop :=
  ∃ parts, text = [':'].intercalate parts ∧ parts.length = 6 ∧ ∀ part ∈ parts,
    ∃ high ∈ Text.Octet.lowerDigits, ∃ low ∈ Text.Octet.lowerDigits, part = [high, low]

variable {text : List Char} {bssid : Bssid}

/-- Octets that have been read are spelled by the parts that were taken for them. -/
theorem exists_spelled_of_readOctets {count : ℕ} {parts rest : List (List Char)}
    {octets : Vector (Fin 256) count} (reads : readOctets count parts = .ok (octets, rest)) :
    ∃ spelled, parts = spelled ++ rest ∧
      List.Forall₂ Text.Octet.Spells spelled octets.toList := by
  induction count generalizing parts with
  | zero =>
    obtain ⟨rfl, rfl⟩ := Prod.mk.inj (Except.ok.inj reads)
    exact ⟨[], rfl, .nil⟩
  | succ count ih =>
    cases parts with
    | nil => cases reads
    | cons part parts =>
      -- The first octet is read before the others, and a fault in it hides theirs.
      rw [readOctets] at reads
      cases isRead : Text.Octet.read part with
      | error cause =>
        rw [isRead] at reads
        cases reads
      | ok octet =>
        rw [isRead] at reads
        cases others : readOctets count parts with
        | error fault =>
          rw [others] at reads
          cases reads
        | ok found =>
          rw [others] at reads
          obtain ⟨rfl, rfl⟩ := Prod.mk.inj (Except.ok.inj reads)
          obtain ⟨spelled, rfl, spells⟩ := ih others
          refine ⟨part :: spelled, rfl, ?_⟩
          change List.Forall₂ _ _ (#v[octet] ++ found.1).toList
          rw [Vector.toList_append]
          exact .cons (Text.Octet.read_eq_ok_iff.mp isRead) spells

/-- Spelled octets are read, and what follows them is left. -/
theorem readOctets_of_spelled {count : ℕ} {octets : List (Fin 256)} (length : octets.length = count)
    {spelled : List (List Char)} (spells : List.Forall₂ Text.Octet.Spells spelled octets)
    (rest : List (List Char)) :
    ∃ found : Vector (Fin 256) count,
      readOctets count (spelled ++ rest) = .ok (found, rest) ∧ found.toList = octets := by
  subst length
  induction spells with
  | nil => exact ⟨#v[], rfl, rfl⟩
  | @cons part octet parts octets spells _ ih =>
    obtain ⟨found, reads, same⟩ := ih
    refine ⟨(#v[octet] ++ found).cast (Nat.add_comm 1 octets.length), ?_, ?_⟩
    · simp [readOctets, Text.Octet.read_eq_ok_iff.mpr spells, reads]
    · change (#v[octet] ++ found).toList = octet :: octets
      rw [Vector.toList_append, same]
      rfl

/-- The texts that are read as an address are its spellings. -/
theorem ofChars_eq_ok_iff : ofChars text = .ok bssid ↔ Spells text bssid := by
  constructor
  · intro isRead
    obtain ⟨before, after, padded, before_blank, after_blank⟩ := Text.exists_padding_of_trim text
    rw [ofChars] at isRead
    cases reads : readOctets 6 (Text.cutAt ':' (Text.trim text)) with
    | error fault =>
      rw [reads] at isRead
      cases isRead
    | ok found =>
      obtain ⟨octets, rest⟩ := found
      obtain ⟨parts, isCut, spells⟩ := exists_spelled_of_readOctets reads
      rw [reads] at isRead
      cases rest with
      | cons => cases isRead
      | nil =>
        obtain rfl := Except.ok.inj isRead
        rw [List.append_nil] at isCut
        refine ⟨before, parts, after, ?_, before_blank, after_blank, spells⟩
        rw [← isCut, Text.intercalate_cutAt, ← padded]
  · rintro ⟨before, parts, after, rfl, before_blank, after_blank, spells⟩
    -- No part has a colon or a blank in it, so the text is cut where the parts were joined.
    have plain : ∀ part ∈ parts, ∀ c ∈ part, c ≠ ':' ∧ Text.isBlank c = false :=
      ((List.forall₂_and_left _ _).mp (spells.imp fun _ _ spells => ⟨spells.spec, spells⟩)).1
    have some : parts ≠ [] := by
      have length : parts.length = 6 := spells.length_eq.trans bssid.octets.length_toList
      exact List.ne_nil_of_length_eq_add_one length
    have noBlank : ∀ c ∈ [':'].intercalate parts, Text.isBlank c = false := by
      intro c isIn
      obtain rfl | ⟨part, isPart, isIn⟩ := Text.eq_or_mem_of_mem_intercalate isIn
      · decide
      · exact (plain part isPart c isIn).2
    obtain ⟨found, reads, same⟩ := readOctets_of_spelled bssid.octets.length_toList spells []
    rw [List.append_nil] at reads
    rw [ofChars, Text.trim_padded noBlank before_blank after_blank,
      Text.cutAt_intercalate some fun part isPart isIn => (plain part isPart _ isIn).1 rfl, reads,
      Vector.toList_inj.mp same]

/-! ### Written addresses -/

theorem spells_toChars (bssid : Bssid) : Spells bssid.toChars bssid := by
  refine ⟨[], _, [], (List.append_nil _).symm, rfl, rfl, List.forall₂_map_left_iff.mpr ?_⟩
  exact List.forall₂_same.mpr fun octet _ => Text.Octet.spells_text octet

/-- **An address is read as it was written.** -/
theorem read_text (bssid : Bssid) : read bssid.text = .ok bssid := by
  rw [read, text, String.toList_ofList]
  exact ofChars_eq_ok_iff.mpr (spells_toChars bssid)

/-- What is written for addresses are the texts in canonical form. -/
theorem exists_eq_toChars_iff : (∃ bssid : Bssid, bssid.toChars = text) ↔ IsCanonical text := by
  constructor
  · rintro ⟨bssid, rfl⟩
    refine ⟨_, rfl, (List.length_map _).trans bssid.octets.length_toList, ?_⟩
    intro part isPart
    obtain ⟨octet, -, isWritten⟩ := List.mem_map.mp isPart
    exact Text.Octet.exists_eq_text_iff.mp ⟨octet, isWritten⟩
  · rintro ⟨parts, rfl, length, canonical⟩
    obtain ⟨octets, rfl⟩ : parts ∈ Set.range (List.map Text.Octet.text) := by
      rw [Set.range_list_map]
      exact fun part isPart => Text.Octet.exists_eq_text_iff.mpr (canonical part isPart)
    rw [List.length_map] at length
    exact ⟨⟨⟨octets.toArray, length⟩⟩, rfl⟩

/-- A text is read as an address exactly if it spells it. What is written for an address is read as
that address, and is the only spelling of it in canonical form. -/
theorem reads_spellings (bssid : Bssid) :
    (∀ input, read input = .ok bssid ↔ Spells input.toList bssid) ∧
      read bssid.text = .ok bssid ∧
        ∀ input, input = bssid.text ↔ IsCanonical input.toList ∧ Spells input.toList bssid := by
  refine ⟨fun input => ofChars_eq_ok_iff, read_text bssid, fun input => ⟨?_, ?_⟩⟩
  · rintro rfl
    rw [text, String.toList_ofList]
    exact ⟨exists_eq_toChars_iff.mp ⟨bssid, rfl⟩, spells_toChars bssid⟩
  · rintro ⟨canonical, spells⟩
    obtain ⟨written, isWritten⟩ := exists_eq_toChars_iff.mpr canonical
    -- The text is what is written for some address, and is read as that one.
    have isRead : read written.text = .ok bssid := by
      rw [read, text, String.toList_ofList, isWritten]
      exact ofChars_eq_ok_iff.mpr spells
    obtain rfl : written = bssid := Except.ok.inj ((read_text written).symm.trans isRead)
    rw [text, isWritten, String.ofList_toList]

example : read "\t+2:1A:00b3:0:fF:9 " = .ok ⟨#v[2, 0x1a, 0xb3, 0, 0xff, 9]⟩ := by
  decide +kernel

end Bssid

end LinkQuality
