import LinkQuality.Proofs.Json.Words

/-!
# Reading printed documents

The reader keeps the arrays and objects that have begun, and when the words of a document have been
read the document is where it belongs: in the innermost of them, or alone. What was there before
does not matter.

## Main definitions

* `Reader.Reads`: documents whose words put them where they belong

## Main results

* `Reader.reads`: what the words of a document do to the reader
* `Json.readChars?_chars`: a printed document is read as itself
-/

namespace LinkQuality.Json

namespace Reader

variable {frames outer : List Frame} {rest : List Token}

theorem foldlM_step_cons {reader next : Reader} {word : Token}
    (steps : reader.step word = some next) :
    (word :: rest).foldlM step reader = rest.foldlM step next := by
  rw [List.foldlM_cons, steps]
  rfl

theorem exists_words (document : Json) :
    ∃ word more, document.words = word :: more ∧ word ≠ .closeBracket := by
  cases document <;> exact ⟨_, _, rfl, by simp⟩

/-- The first item of an array is read like the others. -/
theorem foldlM_itemsWords_valueOrEnd {item : Json} {items : List Json} :
    ([.comma].intercalate (itemsWords (item :: items)) ++ rest).foldlM step ⟨frames, .valueOrEnd⟩ =
      ([.comma].intercalate (itemsWords (item :: items)) ++ rest).foldlM step ⟨frames, .value⟩ := by
  obtain ⟨word, more, eq, noEnd⟩ :
      ∃ word more, [Token.comma].intercalate (itemsWords (item :: items)) ++ rest = word :: more ∧
        word ≠ .closeBracket := by
    obtain ⟨word, more, eq, noEnd⟩ := exists_words item
    rw [itemsWords, eq]
    cases itemsWords items <;> exact ⟨_, _, rfl, noEnd⟩
  -- The array could only end here, and its first word is not the one that ends it.
  have same : step ⟨frames, .valueOrEnd⟩ word = step ⟨frames, .value⟩ word := by
    cases word with
    | closeBracket => exact absurd rfl noEnd
    | _ => rfl
  rw [eq, List.foldlM_cons, List.foldlM_cons, same]

/-- The first member of an object is read like the others. -/
theorem foldlM_membersWords_keyOrEnd {member : Option String × Json}
    {members : List (Option String × Json)} :
    ([.comma].intercalate (membersWords (member :: members)) ++ rest).foldlM step
        ⟨frames, .keyOrEnd⟩ =
      ([.comma].intercalate (membersWords (member :: members)) ++ rest).foldlM step
        ⟨frames, .key []⟩ := by
  cases members <;> rfl

/-- Whether the words of a document put it where it belongs, wherever that is. -/
def Reads (document : Json) : Prop :=
  ∀ (frames : List Frame) (rest : List Token),
    (document.words ++ rest).foldlM step ⟨frames, .value⟩ =
      rest.foldlM step (complete document frames)

section Parts

variable {Part : Type} {written : Part → List Token} {parts : List Part} {closing : Token}
  {start : List Part → Reader} {between : Part → List Part → Reader}

/-- Parts with commas between them are read one after the other, and then what closes them. -/
theorem foldlM_intercalate (closed : List Part → Reader) (reversed : List Part)
    (reads : ∀ part ∈ parts, ∀ reversed rest,
      (written part ++ rest).foldlM step (start reversed) =
        rest.foldlM step (between part reversed))
    (goesOn : ∀ part reversed,
      step (between part reversed) .comma = some (start (part :: reversed)))
    (ends : ∀ part reversed,
      step (between part reversed) closing = some (closed (part :: reversed)))
    (nonempty : parts ≠ []) :
    ([Token.comma].intercalate (parts.map written) ++ closing :: rest).foldlM step
        (start reversed) =
      rest.foldlM step (closed (parts.reverse ++ reversed)) := by
  -- What has been read is kept with the last part first, and grows by each part.
  induction parts generalizing reversed with
  | nil => exact absurd rfl nonempty
  | cons part parts ih =>
    obtain ⟨first, others⟩ := List.forall_mem_cons.mp reads
    rw [List.reverse_cons, List.append_assoc, List.singleton_append, List.map_cons]
    cases parts with
    | nil =>
      rw [List.map_nil, List.intercalate_singleton, first, foldlM_step_cons (ends _ _),
        List.reverse_nil, List.nil_append]
    | cons next parts =>
      have later := ih (part :: reversed) others (by simp)
      rw [List.map_cons] at later ⊢
      rw [List.intercalate_cons_cons, List.append_assoc, List.append_assoc, first,
        List.singleton_append, foldlM_step_cons (goesOn _ _), later]

end Parts

theorem itemsWords_eq_map (items : List Json) : itemsWords items = items.map words := by
  induction items with
  | nil => rfl
  | cons item items ih => rw [itemsWords, ih, List.map_cons]

theorem membersWords_eq_map (members : List (Option String × Json)) :
    membersWords members =
      members.map fun member => .string member.1 :: .colon :: member.2.words := by
  induction members with
  | nil => rfl
  | cons member members ih => rw [membersWords, ih, List.map_cons]

/-- The words of items are read as an array of them. -/
theorem foldlM_itemsWords {items : List Json} (each : ∀ item ∈ items, Reads item)
    (nonempty : items ≠ []) :
    ([.comma].intercalate (itemsWords items) ++ .closeBracket :: rest).foldlM step
        ⟨.array [] :: outer, .value⟩ =
      rest.foldlM step (complete (.array items) outer) := by
  have read (item : Json) (isIn : item ∈ items) (reversed : List Json) (rest : List Token) :
      (item.words ++ rest).foldlM step ⟨.array reversed :: outer, .value⟩ =
        rest.foldlM step ⟨.array (item :: reversed) :: outer, .separator⟩ :=
    each item isIn _ _
  rw [itemsWords_eq_map, foldlM_intercalate
    (fun reversed => complete (.array reversed.reverse) outer) [] read (fun _ _ => rfl)
    (fun _ _ => rfl) nonempty, List.append_nil, List.reverse_reverse]

/-- The words of members are read as an object of them. It is among the arrays and objects that
have begun only while a value is read. -/
theorem foldlM_membersWords {members : List (Option String × Json)}
    (each : ∀ member ∈ members, Reads member.2) (nonempty : members ≠ []) :
    ([.comma].intercalate (membersWords members) ++ .closeBrace :: rest).foldlM step
        ⟨outer, .key []⟩ =
      rest.foldlM step (complete (.object members) outer) := by
  have read (member : Option String × Json) (isIn : member ∈ members)
      (reversed : List (Option String × Json)) (rest : List Token) :
      (.string member.1 :: .colon :: member.2.words ++ rest).foldlM step ⟨outer, .key reversed⟩ =
        rest.foldlM step ⟨.object (member :: reversed) member.1 :: outer, .separator⟩ := by
    rw [List.cons_append, foldlM_step_cons rfl, List.cons_append, foldlM_step_cons rfl]
    exact each member isIn _ _
  rw [membersWords_eq_map, foldlM_intercalate
    (fun reversed => complete (.object reversed.reverse) outer) [] read (fun _ _ => rfl)
    (fun _ _ => rfl) nonempty, List.append_nil, List.reverse_reverse]

mutual

/-- The words of every document put it where it belongs. -/
theorem reads : ∀ document : Json, Reads document
  | .null, _, _ => rfl
  | .bool _, _, _ => rfl
  | .number _, _, _ => rfl
  | .string _, _, _ => rfl
  | .array items, frames, rest => by
    rw [words, List.cons_append, foldlM_step_cons rfl, List.append_assoc, List.singleton_append]
    have each := reads_items items
    -- After the bracket the array may end at once, and after a comma it may not.
    cases items with
    | nil => rfl
    | cons item items =>
      rw [foldlM_itemsWords_valueOrEnd, foldlM_itemsWords each (by simp)]
  | .object members, frames, rest => by
    rw [words, List.cons_append, foldlM_step_cons rfl, List.append_assoc, List.singleton_append]
    have each := reads_members members
    cases members with
    | nil => rfl
    | cons member members =>
      rw [foldlM_membersWords_keyOrEnd, foldlM_membersWords each (by simp)]

theorem reads_items : ∀ items : List Json, ∀ item ∈ items, Reads item
  | [] => by simp
  | item :: items => List.forall_mem_cons.mpr ⟨reads item, reads_items items⟩

theorem reads_members : ∀ members : List (Option String × Json),
    ∀ member ∈ members, Reads member.2
  | [] => by simp
  | (_, value) :: members => List.forall_mem_cons.mpr ⟨reads value, reads_members members⟩

end

end Reader

/-- **Printing and reading.** A printed document is read as itself, if its digits are digits and its
strings have texts. -/
theorem readChars?_chars {document : Json} (printable : document.IsPrintable) :
    readChars? document.chars = some document := by
  have placed := Reader.reads document [] []
  rw [List.append_nil] at placed
  rw [readChars?, Token.ofText?_chars printable, Option.bind_eq_bind, Option.bind_some, placed]
  rfl

end LinkQuality.Json
