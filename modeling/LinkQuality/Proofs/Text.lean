import Mathlib.Data.List.DropRight
import LinkQuality.Text.Blank

/-!
# Cutting and trimming texts

Parts that do not hold the separator are what a text of them is cut into, and lines that hold no
line ends are the lines of a text of them. The other way round, a text is made of the parts it is
cut into, and of what is left of it after trimming with blank characters around it.

## Main results

* `Text.cutAt_intercalate`: cutting at a separator undoes separating with it
* `Text.intercalate_cutAt`: separating undoes cutting
* `Text.lines_flatMap`: reading lines undoes writing them
* `Text.trim_padded`: trimming takes blank characters away around a text without any
* `Text.exists_padding_of_trim`: trimming takes nothing else away
-/

namespace LinkQuality.Text

section Cutting

variable {separator : Char} {part rest : List Char} {parts : List (List Char)}

theorem cutAt_of_notMem (whole : separator ∉ part) : cutAt separator part = [part] := by
  induction part with
  | nil => rfl
  | cons c part ih =>
    obtain ⟨other, whole⟩ := not_or.mp (List.mem_cons.not.mp whole)
    rw [cutAt, if_neg (Ne.symm other), ih whole]

/-- The first part ends at the first separator. -/
theorem cutAt_append_cons (whole : separator ∉ part) :
    cutAt separator (part ++ separator :: rest) = part :: cutAt separator rest := by
  induction part with
  | nil => rw [List.nil_append, cutAt, if_pos rfl]
  | cons c part ih =>
    obtain ⟨other, whole⟩ := not_or.mp (List.mem_cons.not.mp whole)
    rw [List.cons_append, cutAt, if_neg (Ne.symm other), ih whole]

/-- Cutting at a separator undoes separating with it. -/
theorem cutAt_intercalate (nonempty : parts ≠ []) (whole : ∀ part ∈ parts, separator ∉ part) :
    cutAt separator ([separator].intercalate parts) = parts := by
  induction parts with
  | nil => exact absurd rfl nonempty
  | cons part parts ih =>
    obtain ⟨first, others⟩ := List.forall_mem_cons.mp whole
    cases parts with
    | nil => rw [List.intercalate_singleton, cutAt_of_notMem first]
    | cons next parts =>
      rw [List.intercalate_cons_cons, List.append_assoc, List.singleton_append,
        cutAt_append_cons first, ih (by simp) others]

theorem cutAt_ne_nil (separator : Char) (text : List Char) : cutAt separator text ≠ [] := by
  cases text with
  | nil => exact List.cons_ne_nil _ _
  | cons c text =>
    rw [cutAt]
    split_ifs
    · exact List.cons_ne_nil _ _
    · split <;> exact List.cons_ne_nil _ _

/-- Separating undoes cutting at the separator. -/
theorem intercalate_cutAt (text : List Char) :
    [separator].intercalate (cutAt separator text) = text := by
  induction text with
  | nil => rfl
  | cons c text ih =>
    obtain ⟨part, parts, isCut⟩ := List.exists_cons_of_ne_nil (cutAt_ne_nil separator text)
    rw [isCut] at ih
    rw [cutAt, isCut]
    split_ifs with isSeparator
    · rw [List.intercalate_cons_cons, ih, isSeparator]
      rfl
    · -- The character goes to the front of the first part, whatever follows that.
      cases parts with
      | nil => simpa using ih
      | cons next parts =>
        rw [List.intercalate_cons_cons] at ih ⊢
        simpa using ih

/-- Separating adds nothing but separators. -/
theorem eq_or_mem_of_mem_intercalate {c : Char} (isIn : c ∈ [separator].intercalate parts) :
    c = separator ∨ ∃ part ∈ parts, c ∈ part := by
  induction parts with
  | nil => cases isIn
  | cons part parts ih =>
    cases parts with
    | nil => exact .inr ⟨part, List.mem_cons_self, by simpa using isIn⟩
    | cons next parts =>
      rw [List.intercalate_cons_cons, List.append_assoc, List.singleton_append] at isIn
      obtain first | later := List.mem_append.mp isIn
      · exact .inr ⟨part, List.mem_cons_self, first⟩
      · obtain isSeparator | later := List.mem_cons.mp later
        · exact .inl isSeparator
        · refine (ih later).imp_right ?_
          rintro ⟨part, isPart, isIn⟩
          exact ⟨part, List.mem_cons_of_mem _ isPart, isIn⟩

/-- Parts that are ended by separators have nothing after them. -/
theorem cutAt_flatMap (whole : ∀ part ∈ parts, separator ∉ part) :
    cutAt separator (parts.flatMap fun part => part ++ [separator]) = parts ++ [[]] := by
  induction parts with
  | nil => rfl
  | cons part parts ih =>
    obtain ⟨first, others⟩ := List.forall_mem_cons.mp whole
    rw [List.flatMap_cons, List.append_assoc, List.singleton_append, cutAt_append_cons first,
      ih others, List.cons_append]

/-- Reading lines undoes writing them, if none of them holds a line feed or a carriage return. -/
theorem lines_flatMap (whole : ∀ part ∈ parts, '\n' ∉ part ∧ '\r' ∉ part) :
    lines (parts.flatMap fun part => part ++ ['\n']) = parts := by
  -- No carriage return is there to be dropped at the end of a line.
  have kept : parts.map (fun line => if line.getLast? = some '\r' then line.dropLast else line) =
      parts := by
    conv_rhs => rw [← List.map_id parts]
    refine List.map_congr_left fun line isIn => ?_
    rw [if_neg fun last => (whole line isIn).2 (List.mem_of_getLast? last)]
    rfl
  rw [lines, cutAt_flatMap fun part isIn => (whole part isIn).1]
  simp only [List.dropLast_concat, List.getLast?_concat, kept]

end Cutting

section Trimming

variable {text before after : List Char}

/-- Blank characters around a text that has none itself are trimmed. -/
theorem trim_padded (noBlank : ∀ c ∈ text, isBlank c = false)
    (before_blank : allBlank before = true) (after_blank : allBlank after = true) :
    trim (before ++ text ++ after) = text := by
  have before_blank := List.all_eq_true.mp before_blank
  have after_blank := List.all_eq_true.mp after_blank
  -- What is not blank is kept from the first character on, from whichever end one looks.
  have kept {text : List Char} (noBlank : ∀ c ∈ text, isBlank c = false) :
      text.dropWhile isBlank = text := by
    cases text with
    | nil => rfl
    | cons c text => simp [noBlank c List.mem_cons_self]
  rw [trim, List.append_assoc, List.dropWhile_append_of_pos before_blank]
  cases text with
  | nil => simp [List.dropWhile_eq_nil_iff.mpr after_blank]
  | cons c text =>
    have first : ((c :: text) ++ after).dropWhile isBlank = (c :: text) ++ after := by
      simp [noBlank c List.mem_cons_self]
    rw [first, List.reverse_append, List.dropWhile_append_of_pos, kept, List.reverse_reverse]
    · exact fun c isIn => noBlank c (List.mem_reverse.mp isIn)
    · exact fun c isIn => after_blank c (List.mem_reverse.mp isIn)

/-- Trimming takes only blank characters away. -/
theorem exists_padding_of_trim (text : List Char) :
    ∃ before after, text = before ++ trim text ++ after ∧ allBlank before = true ∧
      allBlank after = true := by
  refine ⟨text.takeWhile isBlank, (text.dropWhile isBlank).rtakeWhile isBlank, ?_, ?_, ?_⟩
  · have ends : trim text ++ (text.dropWhile isBlank).rtakeWhile isBlank =
        text.dropWhile isBlank := List.rdropWhile_append_rtakeWhile
    rw [List.append_assoc, ends, List.takeWhile_append_dropWhile]
  · exact List.all_takeWhile
  · exact List.all_eq_true.mpr fun c isIn => List.mem_rtakeWhile_imp isIn

end Trimming

end LinkQuality.Text
