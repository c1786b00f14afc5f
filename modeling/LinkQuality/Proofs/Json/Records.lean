import Mathlib.Data.List.Nodup
import LinkQuality.Json.Record
import LinkQuality.Proofs.Json.Reading

/-!
# Records without some of their members

Members of a document are taken out by the keys that lead to them. A record that has lost members
still is a record, and reading one of its members finds the value, which may have lost members
itself, or finds nothing if the member has been taken out.

## Main definitions

* `Json.without`: a document without the members at certain places

## Main results

* `Json.fields?_without_record`: the members of a record that are left
* `Json.Fields.optional_without`, `Json.Fields.required_without`: what is read from them
* `Json.isPrintable_without`: what is left can be printed, and so it can be read
-/

namespace LinkQuality.Json

mutual

/-- A document without the members at certain places. A place is given by the keys that lead to it,
outermost first. -/
def without (dropped : List String → Bool) : Json → Json
  | .object members => .object (membersWithout dropped members)
  | document => document

/-- Members without those at certain places. -/
def membersWithout (dropped : List String → Bool) :
    List (Option String × Json) → List (Option String × Json)
  | [] => []
  | (none, value) :: rest => (none, value) :: membersWithout dropped rest
  | (some key, value) :: rest =>
    if dropped [key] then membersWithout dropped rest
    else
      (some key, value.without fun place => dropped (key :: place)) :: membersWithout dropped rest

end

/-! ### What is left -/

mutual

/-- A document that nothing is taken out of stays as it is. -/
theorem without_nothing : ∀ document : Json, document.without (fun _ => false) = document
  | .null => rfl
  | .bool _ => rfl
  | .number _ => rfl
  | .string _ => rfl
  | .array _ => rfl
  | .object members => congrArg object (membersWithout_nothing members)

theorem membersWithout_nothing : ∀ members : List (Option String × Json),
    membersWithout (fun _ => false) members = members
  | [] => rfl
  | (none, value) :: rest => by rw [membersWithout, membersWithout_nothing rest]
  | (some key, value) :: rest => by
    rw [membersWithout, if_neg Bool.false_ne_true, without_nothing value,
      membersWithout_nothing rest]

end

mutual

/-- What is left of a document, or of its members, can be printed if all of it can. -/
theorem isPrintable_without : ∀ {document : Json} {dropped : List String → Bool},
    document.IsPrintable → (document.without dropped).IsPrintable
  | .null, _, printable => printable
  | .bool _, _, printable => printable
  | .number _, _, printable => printable
  | .string _, _, printable => printable
  | .array _, _, printable => printable
  | .object members, dropped, printable => by
    rw [IsPrintable] at printable
    rw [without, IsPrintable]
    exact membersPrintable_without printable

theorem membersPrintable_without : ∀ {members : List (Option String × Json)}
    {dropped : List String → Bool}, MembersPrintable members →
      MembersPrintable (membersWithout dropped members)
  | [], _, printable => printable
  | (none, _) :: _, _, ⟨key, _, _⟩ => by cases key
  | (some key, value) :: rest, dropped, ⟨hasKey, first, others⟩ => by
    have left : MembersPrintable (membersWithout dropped rest) := membersPrintable_without others
    rw [membersWithout]
    split_ifs
    · exact left
    · exact ⟨hasKey, isPrintable_without first, left⟩

end

/-! ### Records -/

section Records

/-- No name is given twice exactly if the names have no duplicates. -/
theorem namesApart_iff {names : List String} : namesApart names = true ↔ names.Nodup := by
  induction names with
  | nil => simp [namesApart]
  | cons name names ih => simp [namesApart, ih]

theorem keyed?_record (members : Fields) :
    keyed? (members.map fun (key, value) => (some key, value)) = some members := by
  induction members with
  | nil => rfl
  | cons member members ih => simp [keyed?, ih]

variable {names : List String} {members : Fields}

/-- The known members of a record are all of them. -/
theorem fields?_record (apart : (members.map Prod.fst).Nodup)
    (known : ∀ name ∈ members.map Prod.fst, name ∈ names) :
    (record members).fields? names = some members := by
  have all : members.filter (fun member => names.contains member.1) = members := by
    rw [List.filter_eq_self]
    intro member isIn
    exact List.elem_eq_true_of_mem (known _ (List.mem_map_of_mem isIn))
  rw [record, fields?, keyed?_record, Option.bind_eq_bind, Option.bind_some, all]
  exact if_pos (namesApart_iff.mpr apart)

theorem fields?_record_of_names (apart : names.Nodup) (named : members.map Prod.fst = names) :
    (record members).fields? names = some members := by
  subst named
  exact fields?_record apart fun _ => id

namespace Fields

/-- Members without those at certain places. -/
def without (dropped : List String → Bool) : Fields → Fields
  | [] => []
  | (name, value) :: rest =>
    if dropped [name] then without dropped rest
    else (name, value.without fun place => dropped (name :: place)) :: without dropped rest

variable (dropped : List String → Bool)

/-- The names of the members that are left are among those that there were, in their order. -/
theorem sublist_without (members : Fields) :
    ((members.without dropped).map Prod.fst).Sublist (members.map Prod.fst) := by
  induction members with
  | nil => exact List.Sublist.refl []
  | cons member members ih =>
    rw [without]
    split_ifs
    · exact ih.cons _
    · exact ih.cons_cons _

/-- A member that is left has what is left of its value. -/
theorem lookup_without (members : Fields) (name : String) :
    (members.without dropped).lookup name =
      if dropped [name] then none
      else (members.lookup name).map (·.without fun place => dropped (name :: place)) := by
  induction members with
  | nil => simp [without]
  | cons member members ih =>
    obtain ⟨key, value⟩ := member
    rw [without]
    by_cases isKey : name = key
    · subst isKey
      by_cases gone : dropped [name] = true
      · rw [if_pos gone, ih, if_pos gone, if_pos gone]
      · simp [gone]
    · have other : (name == key) = false := beq_false_of_ne isKey
      split_ifs at ih ⊢ <;> simp [List.lookup_cons, other, ih]

variable {β : Type} (members : Fields) (name : String) (read : Json → Option β)

/-- A member that may be absent is read as absent if it has been taken out. -/
theorem optional_without (absent : β) :
    (members.without dropped).optional name read absent =
      if dropped [name] then some absent
      else members.optional name
        (fun value => read (value.without fun place => dropped (name :: place))) absent := by
  rw [optional, optional, lookup_without]
  split_ifs
  · rfl
  · cases members.lookup name <;> rfl

section Given

variable {members : Fields} {name : String} {read : Json → Option β} {result : β} {value : Json}

/-- A member that may be absent has its default if it has been taken out. -/
theorem optional_without_eq_some {absent : β} (given : members.lookup name = some value)
    (reads : read (value.without fun place => dropped (name :: place)) = some result) :
    (members.without dropped).optional name read absent =
      some (if dropped [name] then absent else result) := by
  rw [optional_without, optional, given]
  split_ifs
  · rfl
  · exact reads

/-- A member that must be present is not read if it has been taken out. -/
theorem required_without (given : members.lookup name = some value)
    (reads : read (value.without fun place => dropped (name :: place)) = some result) :
    (members.without dropped).required name read =
      if dropped [name] then none else some result := by
  rw [required, lookup_without, given]
  split_ifs
  · rfl
  · exact reads

end Given

/-- Values that are read as they were written are read by their names. -/
theorem optional_map {entries : List (String × β)} {write : β → Json} {read : Json → Option β}
    (reads : ∀ entry ∈ entries, read (write entry.2) = some entry.2) (name : String) (absent : β) :
    optional (entries.map (Prod.map id write)) name read absent =
      some ((entries.lookup name).getD absent) := by
  induction entries with
  | nil => rfl
  | cons entry entries ih =>
    obtain ⟨key, value⟩ := entry
    obtain ⟨first, others⟩ := List.forall_mem_cons.mp reads
    by_cases isKey : name = key
    · simpa [optional, List.lookup_cons, isKey] using first
    · have other : (name == key) = false := beq_false_of_ne isKey
      simpa [optional, List.lookup_cons, other] using ih others

end Fields

/-- A record without some of its members is a record of those that are left. -/
theorem without_record (dropped : List String → Bool) (members : Fields) :
    (record members).without dropped = record (members.without dropped) := by
  rw [record, without, record, object.injEq]
  induction members with
  | nil => rfl
  | cons member members ih =>
    rw [List.map_cons, membersWithout, Fields.without, ih]
    split_ifs <;> rfl

/-- The known members of a record without some of its members are those that are left. -/
theorem fields?_without_record (dropped : List String → Bool) (apart : names.Nodup)
    (named : members.map Prod.fst = names) :
    ((record members).without dropped).fields? names = some (members.without dropped) := by
  have sublist := Fields.sublist_without dropped members
  rw [named] at sublist
  rw [without_record]
  exact fields?_record (apart.sublist sublist) fun _ isIn => sublist.subset isIn

/-- A record can be printed if the values of its members can. -/
theorem isPrintable_record (each : ∀ member ∈ members, member.2.IsPrintable) :
    (record members).IsPrintable := by
  rw [record, IsPrintable]
  induction members with
  | nil => trivial
  | cons member members ih =>
    obtain ⟨first, others⟩ := List.forall_mem_cons.mp each
    exact ⟨rfl, first, ih others⟩

end Records

/-! ### Values -/

/-- An integer of 64 bits, with or without a sign, is the one that its numeral means. -/
theorem toInt?_ofInt {n : ℤ} (low : -0x8000000000000000 ≤ n) (high : n < 0x10000000000000000) :
    (Numeral.ofInt n).toInt? = some n := by
  by_cases negative : n < 0
  · have whole : 1 ≤ n.natAbs ∧ n.natAbs ≤ 0x8000000000000000 := by omega
    have magnitude : -(n.natAbs : ℤ) = n := by omega
    simp only [Numeral.toInt?, Numeral.ofInt, Numeral.isWhole, negative, decide_true]
    rw [if_neg (by decide), if_pos trivial, if_pos whole, magnitude]
  · have whole : n.natAbs < 0x10000000000000000 := by omega
    have magnitude : (n.natAbs : ℤ) = n := by omega
    simp only [Numeral.toInt?, Numeral.ofInt, Numeral.isWhole, negative, decide_false]
    rw [if_neg (by decide), if_neg (by decide), if_pos whole, magnitude]

theorem natBelow?_nat {bound n : ℕ} (below : n < bound) (fits : bound ≤ 0x10000000000000000) :
    natBelow? bound (nat n) = some n := by
  have means : int? (nat n) = some (n : ℤ) := toInt?_ofInt (by omega) (by omega)
  have within : (0 : ℤ) ≤ n ∧ (n : ℤ) < bound := by omega
  rw [natBelow?, means, Option.bind_eq_bind, Option.bind_some, if_pos within, Int.toNat_natCast]

theorem int32?_int {n : ℤ} (within : -0x80000000 ≤ n ∧ n < 0x80000000) :
    int32? (int n) = some n := by
  have means : (int n).int? = some n := toInt?_ofInt (by omega) (by omega)
  have between : -0x80000000 ≤ n ∧ n ≤ 0x7FFFFFFF := by omega
  rw [int32?, intWithin?, means, Option.bind_eq_bind, Option.bind_some, if_pos between]

theorem isPrintable_int (n : ℤ) : (int n).IsPrintable := by
  rw [int, IsPrintable]
  exact List.forall_mem_nil _

theorem isPrintable_nat (n : ℕ) : (nat n).IsPrintable := isPrintable_int n

end LinkQuality.Json
