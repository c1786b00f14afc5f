import LinkQuality.Json.Reader
import LinkQuality.Proofs.Json.Numerals
import LinkQuality.Proofs.Text

/-!
# The words of printed documents

A printed document is scanned as the words that its parts are printed as. A mark is a word at once,
and so is a string when it ends. A number or one of the three named words ends where a character
comes that cannot be part of it, which in a printed document is a comma, a closing bracket or the
end of the text; so each statement is about what the scan does with a text that goes on.

## Main definitions

* `Json.words`: the words of a document
* `Json.IsPrintable`: documents in which every digit is one and every string has a text
* `Token.Scan.run`: the words that a scan finds in what is left of a text

## Main results

* `Token.ofText?_chars`: a printed document is scanned as its words
* `Json.hasNoControls_chars`: a printed document holds no control character
-/

namespace LinkQuality.Json

mutual

/-- The words of a document. -/
def words : Json → List Token
  | .null => [.null]
  | .bool value => [.bool value]
  | .number value => [.number value]
  | .string text => [.string text]
  | .array items => .openBracket :: ([.comma].intercalate (itemsWords items) ++ [.closeBracket])
  | .object members => .openBrace :: ([.comma].intercalate (membersWords members) ++ [.closeBrace])

/-- The words of each item of an array. -/
def itemsWords : List Json → List (List Token)
  | [] => []
  | item :: rest => words item :: itemsWords rest

/-- The words of each member of an object. -/
def membersWords : List (Option String × Json) → List (List Token)
  | [] => []
  | (key, value) :: rest => (.string key :: .colon :: words value) :: membersWords rest

end

mutual

/-- Whether every digit of a document is one and every string has a text. -/
def IsPrintable : Json → Prop
  | .null | .bool _ => True
  | .number value => ∀ digit ∈ value.fraction, digit < 10
  | .string text => text.isSome
  | .array items => ItemsPrintable items
  | .object members => MembersPrintable members

/-- Whether this is so of all items. -/
def ItemsPrintable : List Json → Prop
  | [] => True
  | item :: rest => item.IsPrintable ∧ ItemsPrintable rest

/-- Whether this is so of all members and their keys. -/
def MembersPrintable : List (Option String × Json) → Prop
  | [] => True
  | (key, value) :: rest => key.isSome ∧ value.IsPrintable ∧ MembersPrintable rest

end

namespace Token

namespace Scan

/-- The words that a scan finds when the rest of a text is read. -/
def run (scan : Scan) (text : List Char) : Option (List Token) := do
  let scan ← text.foldlM step scan
  scan.finish

variable {words : List Token} {rest : List Char}

/-- One character more is one step. -/
theorem run_cons {scan next : Scan} {c : Char} (steps : scan.step c = some next) :
    scan.run (c :: rest) = next.run rest := by
  rw [run, List.foldlM_cons, steps]
  rfl

/-! ### Strings -/

theorem hexDigit?_digitChar {n : ℕ} (small : n < 16) : hexDigit? n.digitChar = some n := by
  interval_cases n <;> rfl

/-- An escape by four digits stands for a character if it is not half of a pair. -/
theorem run_unitChars {draft : Draft} {unit : ℕ} (small : unit < 0x10000) :
    run ⟨words, .unit draft 0 4⟩ (unitChars unit ++ rest) =
      run ⟨words, .string (draft.pushUnit unit)⟩ rest := by
  have digit (n : ℕ) : hexDigit? (n % 16).digitChar = some (n % 16) :=
    hexDigit?_digitChar (Nat.mod_lt n (by decide))
  -- Digits are gathered up to the last one, which ends the escape.
  have early (value n left : ℕ) :
      step ⟨words, .unit draft value (left + 2)⟩ (n % 16).digitChar =
        some ⟨words, .unit draft (value * 16 + n % 16) (left + 1)⟩ := by
    simp [step, digit]
  have last (value n : ℕ) :
      step ⟨words, .unit draft value 1⟩ (n % 16).digitChar =
        some ⟨words, .string (draft.pushUnit (value * 16 + n % 16))⟩ := by
    simp [step, digit]
  have whole : (((0 * 16 + unit / 4096 % 16) * 16 + unit / 256 % 16) * 16 + unit / 16 % 16) * 16 +
      unit % 16 = unit := by
    omega
  simp only [unitChars, List.map_cons, List.map_nil, List.cons_append, List.nil_append]
  rw [run_cons (early 0 _ 2), run_cons (early _ _ 1), run_cons (early _ _ 0),
    run_cons (last _ _), whole]

/-- A character of a string is read as it was written. -/
theorem run_charChars (reversed : List Char) (c : Char) :
    run ⟨words, .string ⟨reversed, none, true⟩⟩ (charChars c ++ rest) =
      run ⟨words, .string ⟨c :: reversed, none, true⟩⟩ rest := by
  by_cases named : c ∈ ['"', '\\', '\x08', '\x0c', '\n', '\r', '\t']
  · -- Each of these has an escape of its own.
    simp only [List.mem_cons, List.not_mem_nil, or_false] at named
    obtain rfl | rfl | rfl | rfl | rfl | rfl | rfl := named <;> rfl
  · simp only [List.mem_cons, List.not_mem_nil, or_false, not_or] at named
    obtain ⟨quote, backslash, b, f, n, r, t⟩ := named
    rw [charChars, if_neg quote, if_neg backslash, if_neg b, if_neg f, if_neg n, if_neg r, if_neg t]
    by_cases control : c.toNat < 0x20
    · -- Other control characters are escaped by number, and none of them is half of a pair.
      rw [if_pos control]
      have pushed :
          Draft.pushUnit ⟨reversed, none, true⟩ c.toNat = ⟨c :: reversed, none, true⟩ := by
        rw [Draft.pushUnit]
        simp only
        rw [if_neg (by omega), if_neg (by omega), Char.ofNat_toNat]
        rfl
      rw [List.cons_append, run_cons rfl, List.cons_append, run_cons rfl,
        run_unitChars (by omega), pushed]
    · -- All others stand for themselves.
      rw [if_neg control]
      refine run_cons ?_
      simp only [step]
      rw [if_neg quote, if_neg backslash, if_neg control]
      rfl

/-- A string is scanned as a word. -/
theorem run_stringChars (text : String) :
    run ⟨words, .between⟩ (stringChars (some text) ++ rest) =
      run ⟨.string (some text) :: words, .between⟩ rest := by
  -- The draft holds what has been read in reverse, and the quote turns it round.
  have chars (text : List Char) (reversed : List Char) :
      run ⟨words, .string ⟨reversed, none, true⟩⟩ (text.flatMap charChars ++ '"' :: rest) =
        run ⟨.string (some (String.ofList (reversed.reverse ++ text))) :: words, .between⟩
          rest := by
    induction text generalizing reversed with
    | nil => exact (run_cons rfl).trans (by simp [Draft.text?])
    | cons c text ih =>
      rw [List.flatMap_cons, List.append_assoc, run_charChars, ih, List.reverse_cons,
        List.append_assoc]
      rfl
  simp only [stringChars, Option.getD_some, List.cons_append, List.append_assoc, List.nil_append]
  rw [run_cons rfl]
  refine (chars _ _).trans ?_
  simp

/-! ### Numbers and words -/

/-- A text that a number or a word before it does not run into. -/
def EndsLexeme (rest : List Char) : Prop := ∀ c ∈ rest.head?, inLexeme c = false

/-- A character of a number or a word begins one. -/
theorem start_of_inLexeme {c : Char} (belongs : inLexeme c = true) :
    start words c = some ⟨words, .lexeme [c]⟩ := by
  rw [start, if_neg, if_pos belongs]
  · rintro (rfl | rfl | rfl | rfl) <;> exact absurd belongs (by decide)
  all_goals
    rintro rfl
    exact absurd belongs (by decide)

/-- The characters of a number or a word are gathered. -/
theorem run_gather {gathered more : List Char} (belong : ∀ c ∈ more, inLexeme c = true) :
    run ⟨words, .lexeme gathered⟩ (more ++ rest) =
      run ⟨words, .lexeme (more.reverse ++ gathered)⟩ rest := by
  induction more generalizing gathered with
  | nil => rfl
  | cons c more ih =>
    have steps : step ⟨words, .lexeme gathered⟩ c = some ⟨words, .lexeme (c :: gathered)⟩ := by
      simp [step, belong c List.mem_cons_self]
    rw [List.cons_append, run_cons steps,
      ih fun c isIn => belong c (List.mem_cons_of_mem _ isIn), List.reverse_cons,
      List.append_assoc]
    rfl

/-- What has been gathered is read when another character or the end of the text comes. -/
theorem run_end {gathered : List Char} {word : Token}
    (read : ofLexeme? gathered.reverse = some word) (ends : EndsLexeme rest) :
    run ⟨words, .lexeme gathered⟩ rest = run ⟨word :: words, .between⟩ rest := by
  cases rest with
  | nil => simp [run, finish, read]
  | cons c rest => simp [run, step, ends c rfl, read]

/-! ### Documents -/

/-- Whether a text is scanned as certain words, in any text that goes on with something else. -/
def ScansAs (text : List Char) (found : List Token) : Prop :=
  ∀ (words : List Token) (rest : List Char), EndsLexeme rest →
    run ⟨words, .between⟩ (text ++ rest) = run ⟨found.reverse ++ words, .between⟩ rest

/-- A number or a word is scanned as what it is read as. -/
theorem scansAs_lexeme {lexeme : List Char} {word : Token} (nonempty : lexeme ≠ [])
    (belong : lexeme.all inLexeme = true) (read : ofLexeme? lexeme = some word) :
    ScansAs lexeme [word] := by
  intro words rest ends
  rw [List.all_eq_true] at belong
  obtain ⟨c, more, rfl⟩ := List.exists_cons_of_ne_nil nonempty
  -- The first character begins the word, all others are gathered, and the rest ends it.
  have begins : step ⟨words, .between⟩ c = some ⟨words, .lexeme [c]⟩ :=
    start_of_inLexeme (belong c List.mem_cons_self)
  rw [List.cons_append, run_cons begins,
    run_gather fun c isIn => belong c (List.mem_cons_of_mem _ isIn), run_end _ ends]
  · rfl
  · simpa using read

/-- Whether a character is a word of its own. -/
def IsMark (mark : Char) (word : Token) : Prop :=
  inLexeme mark = false ∧ ∀ words, start words mark = some ⟨word :: words, .between⟩

/-- A mark separates what is on both sides of it. -/
theorem ScansAs.mark {before after : List Char} {earlier later : List Token} {mark : Char}
    {word : Token} (first : ScansAs before earlier) (isMark : IsMark mark word)
    (second : ScansAs after later) :
    ScansAs (before ++ mark :: after) (earlier ++ word :: later) := by
  intro words rest ends
  obtain ⟨separates, isWord⟩ := isMark
  -- The mark ends a number or a word before it, and then is scanned itself.
  have atMark : EndsLexeme (mark :: (after ++ rest)) := by
    intro c isFirst
    obtain rfl := Option.some.inj isFirst
    exact separates
  have steps : step ⟨earlier.reverse ++ words, .between⟩ mark =
      some ⟨word :: (earlier.reverse ++ words), .between⟩ := isWord _
  rw [List.append_assoc, List.cons_append, first _ _ atMark, run_cons steps, second _ _ ends]
  simp

theorem scansAs_stringChars (text : String) :
    ScansAs (stringChars (some text)) [.string (some text)] :=
  fun _ _ _ => run_stringChars text

theorem scansAs_nil : ScansAs [] [] := fun _ _ _ => rfl

/-- A text between two marks is scanned as its words between those. -/
theorem ScansAs.enclosed {text : List Char} {found : List Token} {opening closing : Char}
    {first last : Token} (scans : ScansAs text found) (opens : IsMark opening first)
    (closes : IsMark closing last) :
    ScansAs (opening :: text ++ [closing]) (first :: (found ++ [last])) :=
  scansAs_nil.mark opens (scans.mark closes scansAs_nil)

/-- Texts with commas between them are scanned as their words with commas between them. -/
theorem scansAs_commaSeparated {texts : List (List Char)} {found : List (List Token)}
    (each : List.Forall₂ ScansAs texts found) :
    ScansAs (commaSeparated texts) ([.comma].intercalate found) := by
  induction each with
  | nil => exact scansAs_nil
  | cons first others ih =>
    cases others with
    | nil => simpa [commaSeparated] using first
    | cons second others =>
      simp only [commaSeparated, List.intercalate_cons_cons, List.append_assoc] at ih ⊢
      exact first.mark ⟨rfl, fun _ => rfl⟩ ih

mutual

/-- A printed document is scanned as its words. -/
theorem scansAs_chars : ∀ {document : Json}, document.IsPrintable →
    ScansAs document.chars document.words
  | .null, _ => scansAs_lexeme (by simp [chars]) rfl rfl
  | .bool true, _ => scansAs_lexeme (by simp [chars]) rfl rfl
  | .bool false, _ => scansAs_lexeme (by simp [chars]) rfl rfl
  | .number value, printable => by
    rw [IsPrintable] at printable
    exact scansAs_lexeme (by simp [chars, numeralChars, Nat.toDigits_ne_nil])
      (List.all_eq_true.mpr fun _ => inLexeme_of_mem_numeralChars)
      (ofLexeme?_numeralChars printable)
  | .string (some text), _ => scansAs_stringChars text
  | .string none, printable => by simp [IsPrintable] at printable
  | .array items, printable => by
    rw [IsPrintable] at printable
    exact (scansAs_commaSeparated (scansAs_itemsChars printable)).enclosed ⟨rfl, fun _ => rfl⟩
      ⟨rfl, fun _ => rfl⟩
  | .object members, printable => by
    rw [IsPrintable] at printable
    exact (scansAs_commaSeparated (scansAs_membersChars printable)).enclosed ⟨rfl, fun _ => rfl⟩
      ⟨rfl, fun _ => rfl⟩

theorem scansAs_itemsChars : ∀ {items : List Json}, ItemsPrintable items →
    List.Forall₂ ScansAs (itemsChars items) (itemsWords items)
  | [], _ => .nil
  | _ :: _, ⟨first, others⟩ => .cons (scansAs_chars first) (scansAs_itemsChars others)

theorem scansAs_membersChars : ∀ {members : List (Option String × Json)},
    MembersPrintable members → List.Forall₂ ScansAs (membersChars members) (membersWords members)
  | [], _ => .nil
  | (none, _) :: _, ⟨key, _, _⟩ => by cases key
  | (some key, _) :: _, ⟨_, value, others⟩ =>
    .cons ((scansAs_stringChars key).mark ⟨rfl, fun _ => rfl⟩ (scansAs_chars value))
      (scansAs_membersChars others)

end

end Scan

/-- **Printing and scanning.** A printed document is scanned as its words. -/
theorem ofText?_chars {document : Json} (printable : document.IsPrintable) :
    ofText? document.chars = some document.words := by
  have ends : Scan.EndsLexeme [] := fun _ isFirst => absurd isFirst (by simp)
  have scanned := Scan.scansAs_chars printable [] [] ends
  rw [List.append_nil, List.append_nil] at scanned
  calc ofText? document.chars = Scan.run ⟨document.words.reverse, .between⟩ [] := scanned
    _ = some document.words := congrArg some document.words.reverse_reverse

end Token

/-! ### Control characters -/

/-- Whether a text holds no control characters. -/
def HasNoControls (text : List Char) : Prop := ∀ c ∈ text, 0x20 ≤ c.toNat

@[simp] theorem hasNoControls_nil : HasNoControls [] := List.forall_mem_nil _

@[simp] theorem hasNoControls_cons {c : Char} {text : List Char} :
    HasNoControls (c :: text) ↔ 0x20 ≤ c.toNat ∧ HasNoControls text :=
  List.forall_mem_cons

@[simp] theorem hasNoControls_append {text more : List Char} :
    HasNoControls (text ++ more) ↔ HasNoControls text ∧ HasNoControls more :=
  List.forall_mem_append

/-- Numbers hold none. -/
theorem hasNoControls_numeralChars (n : Numeral) : HasNoControls (numeralChars n) := by
  intro c isIn
  have belongs := Token.inLexeme_of_mem_numeralChars isIn
  by_contra control
  have small : c.toNat < 0x20 := not_le.mp control
  -- None of the control characters can be part of a number.
  rw [← Char.ofNat_toNat c] at belongs
  interval_cases c.toNat <;> exact absurd belongs (by decide)

/-- Strings are printed without control characters, since these are written as escapes. -/
theorem hasNoControls_stringChars (text : Option String) : HasNoControls (stringChars text) := by
  have digit (n : ℕ) : 0x20 ≤ (n % 16).digitChar.toNat := by
    have small : n % 16 < 16 := Nat.mod_lt n (by decide)
    interval_cases n % 16 <;> decide
  have char (c : Char) : HasNoControls (charChars c) := by
    unfold charChars
    split_ifs with quote backslash b f n r t control
    -- Seven characters have an escape of one letter, and all control characters have digits.
    iterate 7
      · simp
    · simp [unitChars, digit]
    · simpa using control
  have all : HasNoControls ((text.getD "").toList.flatMap charChars) := by
    intro c isIn
    obtain ⟨meant, -, isIn⟩ := List.mem_flatMap.mp isIn
    exact char meant c isIn
  simpa [stringChars] using all

theorem hasNoControls_commaSeparated {texts : List (List Char)}
    (each : ∀ text ∈ texts, HasNoControls text) : HasNoControls (commaSeparated texts) := by
  intro c isIn
  obtain rfl | ⟨text, isText, isIn⟩ := Text.eq_or_mem_of_mem_intercalate isIn
  · decide
  · exact each text isText c isIn

mutual

/-- **Documents are printed without control characters**, and so on one line. -/
theorem hasNoControls_chars : ∀ document : Json, HasNoControls document.chars
  | .null => by simp [chars]
  | .bool true => by simp [chars]
  | .bool false => by simp [chars]
  | .number value => hasNoControls_numeralChars value
  | .string text => hasNoControls_stringChars text
  | .array items => by
    have inside := hasNoControls_commaSeparated (hasNoControls_itemsChars items)
    simpa [chars] using inside
  | .object members => by
    have inside := hasNoControls_commaSeparated (hasNoControls_membersChars members)
    simpa [chars] using inside

theorem hasNoControls_itemsChars : ∀ items : List Json,
    ∀ text ∈ itemsChars items, HasNoControls text
  | [] => by simp [itemsChars]
  | item :: rest => by
    rw [itemsChars]
    exact List.forall_mem_cons.mpr ⟨hasNoControls_chars item, hasNoControls_itemsChars rest⟩

theorem hasNoControls_membersChars : ∀ members : List (Option String × Json),
    ∀ text ∈ membersChars members, HasNoControls text
  | [] => by simp [membersChars]
  | (key, value) :: rest => by
    have member : HasNoControls (stringChars key ++ ':' :: value.chars) := by
      simpa using ⟨hasNoControls_stringChars key, hasNoControls_chars value⟩
    rw [membersChars]
    exact List.forall_mem_cons.mpr ⟨member, hasNoControls_membersChars rest⟩

end

end LinkQuality.Json
