import Mathlib.Data.List.Forall2
import Mathlib.Data.List.Perm.Basic
import PlcModule.Document.Record

/-! How a record may be spelled in a JSON document, and how it may be misspelled. A record is spelled
by its fields in any order, among fields of other names, or by a list of its fields. Every value is
either a spelling of some record or has a flaw. -/
namespace PlcModule.Document

variable {α β : Type}

theorem mapM_eq_some_iff {f : α → Option β} {l : List α} {l' : List β} :
    l.mapM f = some l' ↔ List.Forall₂ (fun a b => f a = some b) l l' := by
  induction l generalizing l' with
  | nil => cases l' <;> simp
  | cons a l ih => cases l' <;> simp [List.mapM_cons, Option.bind_eq_some_iff, ← ih]

theorem mapM_eq_none_iff {f : α → Option β} {l : List α} :
    l.mapM f = none ↔ ∃ a ∈ l, f a = none := by
  induction l with
  | nil => simp
  | cons a l ih =>
    cases here : f a with
    | none => simp [List.mapM_cons, here]
    | some b => cases rest : l.mapM f <;> simp_all [List.mapM_cons]

theorem mapM_congr {f g : α → Option β} {l : List α} (same : ∀ a ∈ l, f a = g a) :
    l.mapM f = l.mapM g := by
  induction l with
  | nil => rfl
  | cons a l ih =>
    obtain ⟨here, same⟩ := List.forall_mem_cons.mp same
    rw [List.mapM_cons, List.mapM_cons, here, ih same]

section Fields

variable {fields : List (Option String × Value)} {name : String} {names : List String}

/-- The fields that some values make under their names. -/
def written (fields : List (String × Value)) : List (Option String × Value) :=
  fields.map fun x => (some x.1, x.2)

theorem exists_written (readable : ∀ x ∈ fields, x.1 ≠ none) : ∃ xs, fields = written xs := by
  induction fields with
  | nil => exact ⟨[], rfl⟩
  | cons x fields ih =>
    obtain ⟨here, readable⟩ := List.forall_mem_cons.mp readable
    obtain ⟨xs, rfl⟩ := ih readable
    obtain ⟨name, v⟩ := x
    obtain ⟨name, rfl⟩ := Option.ne_none_iff_exists'.mp here
    exact ⟨(name, v) :: xs, rfl⟩

/-- The fields that are given for some names. -/
def given (names : List String) (slots : List (Option Value)) : List (String × Value) :=
  (names.zip slots).flatMap fun x => x.2.toList.map fun v => (x.1, v)

theorem given_cons (name : String) (names : List String) (slot : Option Value)
    (slots : List (Option Value)) :
    given (name :: names) (slot :: slots) =
      (slot.toList.map fun v => (name, v)) ++ given names slots := rfl

theorem mem_given {slots : List (Option Value)} {x : String × Value} (at_ : x ∈ given names slots) :
    x.1 ∈ names := by
  obtain ⟨pair, paired, there⟩ := List.mem_flatMap.mp at_
  obtain ⟨v, -, rfl⟩ := List.mem_map.mp there
  exact (List.of_mem_zip paired).1

theorem fieldOf_eq_some_iff {slot : Option Value} : fieldOf fields name = some slot ↔
    (fields.filter fun x => x.1 == some name) = written (slot.toList.map fun v => (name, v)) := by
  have named : ∀ x ∈ fields.filter (fun x => x.1 == some name), x.1 = some name :=
    fun x at_ => beq_iff_eq.mp (List.mem_filter.mp at_).2
  unfold fieldOf
  generalize fields.filter (fun x => x.1 == some name) = found at named
  match found with
  | [] => cases slot <;> simp [written]
  | [x] =>
    obtain ⟨xname, v⟩ := x
    obtain rfl : xname = some name := named _ (List.mem_singleton_self _)
    cases slot <;> simp [written]
  | x :: y :: more => cases slot <;> simp [written]

theorem fieldOf_eq_none_iff :
    fieldOf fields name = none ↔ 1 < (fields.map Prod.fst).count (some name) := by
  have count : (fields.map Prod.fst).count (some name) =
      (fields.filter fun x => x.1 == some name).length := by
    rw [List.count_eq_countP, List.countP_map, List.countP_eq_length_filter]
    rfl
  rw [count, fieldOf]
  generalize fields.filter (fun x => x.1 == some name) = found
  match found with
  | [] => simp
  | [x] => simp
  | x :: y :: more => simp

theorem fieldOf_others {other : String} (apart : other ≠ name) :
    fieldOf (fields.filter fun x => !(x.1 == some name)) other = fieldOf fields other := by
  have same : (fields.filter fun x => !(x.1 == some name)).filter (fun x => x.1 == some other) =
      fields.filter fun x => x.1 == some other := by
    rw [List.filter_filter]
    refine List.filter_congr fun x _ => ?_
    by_cases here : x.1 = some other
    · simp [here, apart]
    · simp [here]
  rw [fieldOf, fieldOf, same]

/-- What is given for a name is found among fields that do not have the name. -/
theorem written_filter {slot : Option Value} {more : List (String × Value)}
    (apart : ∀ x ∈ more, x.1 ≠ name) :
    let fields := written ((slot.toList.map fun v => (name, v)) ++ more)
    (fields.filter fun x => x.1 == some name) = written (slot.toList.map fun v => (name, v)) ∧
    (fields.filter fun x => !(x.1 == some name)) = written more := by
  have none : ∀ x ∈ written more, (x.1 == some name) = false := by
    intro x at_
    obtain ⟨y, there, rfl⟩ := List.mem_map.mp at_
    simpa using apart y there
  have all : ∀ x ∈ written (slot.toList.map fun v => (name, v)), (x.1 == some name) = true := by
    cases slot <;> simp [written]
  intro fields
  have split : fields = written (slot.toList.map fun v => (name, v)) ++ written more :=
    List.map_append
  rw [split, List.filter_append, List.filter_append]
  refine ⟨?_, ?_⟩
  · rw [List.filter_eq_self.mpr all, List.filter_eq_nil_iff.mpr fun x at_ => by simp [none x at_],
      List.append_nil]
  · rw [List.filter_eq_nil_iff.mpr fun x at_ => by simp [all x at_],
      List.filter_eq_self.mpr fun x at_ => by simp [none x at_], List.nil_append]

/-- The names of a record can be read, and each of some names is given at most once, exactly if the
record has what is given for the names and other fields besides, in some order. -/
theorem fields_iff {slots : List (Option Value)} (distinct : names.Nodup) :
    (∀ x ∈ fields, x.1 ≠ none) ∧ names.mapM (fieldOf fields) = some slots ↔
      slots.length = names.length ∧ ∃ others : List (String × Value),
        (∀ x ∈ others, x.1 ∉ names) ∧ fields.Perm (written (given names slots ++ others)) := by
  induction names generalizing fields slots with
  | nil =>
    constructor
    · rintro ⟨readable, read⟩
      obtain rfl : [] = slots := by simpa using read
      obtain ⟨others, rfl⟩ := exists_written readable
      exact ⟨rfl, others, by simp, List.Perm.refl _⟩
    · rintro ⟨length, others, -, order⟩
      obtain rfl := List.length_eq_zero_iff.mp length
      refine ⟨fun x at_ => ?_, rfl⟩
      obtain ⟨y, -, rfl⟩ := List.mem_map.mp (order.subset at_)
      simp
  | cons name names ih =>
    obtain ⟨fresh, distinct⟩ := List.nodup_cons.mp distinct
    have others_same : names.mapM (fieldOf (fields.filter fun x => !(x.1 == some name))) =
        names.mapM (fieldOf fields) :=
      mapM_congr fun other at_ => fieldOf_others fun same => fresh (same ▸ at_)
    have parts :=
      (List.filter_append_perm (fun x : Option String × Value => x.1 == some name) fields).symm
    constructor
    · rintro ⟨readable, read⟩
      obtain ⟨slot, here, slots, there, rfl⟩ : ∃ slot, fieldOf fields name = some slot ∧
          ∃ rest, names.mapM (fieldOf fields) = some rest ∧ slot :: rest = slots := by
        simpa [List.mapM_cons, Option.bind_eq_some_iff] using read
      obtain ⟨length, others, unknown, order⟩ := (ih distinct).mp
        ⟨fun x at_ => readable x (List.mem_of_mem_filter at_), others_same.trans there⟩
      refine ⟨by rw [List.length_cons, List.length_cons, length], others, fun x at_ => ?_, ?_⟩
      · have left := order.symm.subset (List.mem_map_of_mem (List.mem_append_right _ at_))
        have apart : x.1 ≠ name := by simpa using (List.mem_filter.mp left).2
        simpa [apart] using unknown x at_
      · rw [given_cons, List.append_assoc, written, List.map_append]
        rw [fieldOf_eq_some_iff.mp here] at parts
        exact parts.trans (order.append_left _)
    · rintro ⟨length, others, unknown, order⟩
      cases slots with
      | nil => cases length
      | cons slot slots =>
        rw [given_cons, List.append_assoc] at order
        have apart : ∀ x ∈ given names slots ++ others, x.1 ≠ name := by
          intro x at_ same
          rcases List.mem_append.mp at_ with known | other
          · exact fresh (same ▸ mem_given known)
          · exact unknown x other (same ▸ List.mem_cons_self)
        obtain ⟨here, there⟩ := @written_filter name slot _ apart
        have found := order.filter fun x => x.1 == some name
        have left := order.filter fun x => !(x.1 == some name)
        rw [here] at found
        rw [there] at left
        obtain ⟨-, read⟩ := (ih distinct).mpr ⟨Nat.succ.inj length, others,
          fun x at_ known => unknown x at_ (List.mem_cons_of_mem _ known), left⟩
        have read_here : fieldOf fields name = some slot := by
          rw [fieldOf_eq_some_iff]
          cases slot with
          | none => exact found.eq_nil
          | some v => exact List.perm_singleton.mp found
        refine ⟨fun x at_ => ?_, ?_⟩
        · obtain ⟨y, -, rfl⟩ := List.mem_map.mp (order.subset at_)
          simp
        · simp [List.mapM_cons, read_here, ← others_same, read]

end Fields

/-- How a field of a record may be spelled: by some values, or by being left out. -/
structure FieldForm where
  name : String
  spells : Value → Prop
  omitted : Prop

namespace FieldForm

/-- A field that has to be there. -/
def needed (name : String) (spells : Value → Prop) : FieldForm :=
  ⟨name, spells, False⟩

def Admits (f : FieldForm) : Option Value → Prop
  | none => f.omitted
  | some v => f.spells v

end FieldForm

/-- The values that spell a record: its fields in any order, each once or left out, among fields of
other names; or a list of its fields in their order, of which some at the end may be left out. -/
inductive Spelled (forms : List FieldForm) : Value → Prop where
  | record {fields : List (Option String × Value)} {slots : List (Option Value)}
    {others : List (String × Value)} (admitted : List.Forall₂ FieldForm.Admits forms slots)
    (unknown : ∀ x ∈ others, x.1 ∉ forms.map FieldForm.name)
    (order : fields.Perm (written (given (forms.map FieldForm.name) slots ++ others))) :
    Spelled forms (.record fields)
  | list {items : List Value} {missing : Nat}
    (admitted : List.Forall₂ FieldForm.Admits forms (items.map some ++ List.replicate missing none)) :
    Spelled forms (.list items)

/-- What can be wrong with a field of a record: that it is left out, if it is needed, or its value. -/
structure FieldRule where
  name : String
  needed : Prop
  wrong : Value → Prop

def FieldRule.Rejects (r : FieldRule) : Option Value → Prop
  | none => r.needed
  | some v => r.wrong v

/-- The values that are no record, and why. -/
inductive Flawed (rules : List FieldRule) : Value → Prop where
  | twice {fields : List (Option String × Value)} {r : FieldRule} (known : r ∈ rules)
    (given : 1 < (fields.map Prod.fst).count (some r.name)) : Flawed rules (.record fields)
  | wrong {fields : List (Option String × Value)} {r : FieldRule} {v : Value} (known : r ∈ rules)
    (given : (some r.name, v) ∈ fields) (bad : r.wrong v) : Flawed rules (.record fields)
  | missing {fields : List (Option String × Value)} {r : FieldRule} (known : r ∈ rules)
    (needed : r.needed) (absent : some r.name ∉ fields.map Prod.fst) : Flawed rules (.record fields)
  /-- The name of some field cannot be read. -/
  | unreadable {fields : List (Option String × Value)} {v : Value} (given : (none, v) ∈ fields) :
    Flawed rules (.record fields)
  | wrongItem {items : List Value} {i : Nat} {r : FieldRule} {v : Value} (known : rules[i]? = some r)
    (given : items[i]? = some v) (bad : r.wrong v) : Flawed rules (.list items)
  | missingItem {items : List Value} {i : Nat} {r : FieldRule} (known : rules[i]? = some r)
    (needed : r.needed) (absent : items.length ≤ i) : Flawed rules (.list items)
  | long {items : List Value} (more : rules.length < items.length) : Flawed rules (.list items)
  /-- The value is of another type. -/
  | other {v : Value} (record : ∀ fields, v ≠ .record fields) (list : ∀ items, v ≠ .list items) :
    Flawed rules v

theorem slots?_list (names : List String) (items : List Value) :
    (Value.list items).slots? .json names = if names.length < items.length then none
      else some ⟨true, items.map some ++ List.replicate (names.length - items.length) none⟩ := by
  by_cases long : names.length < items.length
  · simp [Value.slots?, long]
  · have short : items.length ≤ names.length := Nat.le_of_not_lt long
    simp [Value.slots?, long, List.take_of_length_le short]

theorem slots?_record (names : List String) (fields : List (Option String × Value)) :
    (Value.record fields).slots? .json names = if ∃ x ∈ fields, x.1 = none then none
      else (names.mapM (fieldOf fields)).map (⟨false, ·⟩) := by
  by_cases one : ∃ x ∈ fields, x.1 = none
  · have any : (fields.any fun x => x.1.isNone) = true := by
      simpa using one
    simp only [Value.slots?, any, one, if_true]
  · have none : (fields.any fun x => x.1.isNone) = false := by
      rw [List.any_eq_false]
      exact fun x at_ isNone => one ⟨x, at_, Option.isNone_iff_eq_none.mp isNone⟩
    simp only [Value.slots?, none, one, Bool.false_eq_true, if_false]

theorem slots?_record_some {names : List String} {fields : List (Option String × Value)} {s : Slots}
    (read : (Value.record fields).slots? .json names = some s) :
    (∀ x ∈ fields, x.1 ≠ none) ∧ names.mapM (fieldOf fields) = some s.values := by
  rw [slots?_record] at read
  split at read
  · cases read
  · rename_i readable
    obtain ⟨values, slots, rfl⟩ := Option.map_eq_some_iff.mp read
    exact ⟨fun x at_ none => readable ⟨x, at_, none⟩, slots⟩

/-- A value is read as a record just if it spells one, and its slots are then what it spells. -/
theorem spelled_iff {forms : List FieldForm} (distinct : (forms.map FieldForm.name).Nodup) {v : Value}
    (plain : ∀ spelling, v ≠ .date spelling) :
    Spelled forms v ↔ ∃ s, v.slots? .json (forms.map FieldForm.name) = some s ∧
      List.Forall₂ FieldForm.Admits forms s.values := by
  constructor
  · intro spelled
    cases spelled with
    | @record fields slots others admitted unknown order =>
      have length : slots.length = (forms.map FieldForm.name).length := by
        rw [List.length_map, admitted.length_eq]
      obtain ⟨readable, read⟩ := (fields_iff distinct).mpr ⟨length, others, unknown, order⟩
      refine ⟨⟨false, slots⟩, ?_, admitted⟩
      rw [slots?_record, if_neg fun ⟨x, at_, unread⟩ => readable x at_ unread, read]
      rfl
    | @list items missing admitted =>
      have length := admitted.length_eq
      rw [List.length_append, List.length_map, List.length_replicate] at length
      have rest : forms.length - items.length = missing := by omega
      refine ⟨⟨true, items.map some ++ List.replicate missing none⟩, ?_, admitted⟩
      rw [slots?_list, List.length_map, if_neg (by omega), rest]
  · rintro ⟨s, read, admitted⟩
    cases v with
    | record fields =>
      obtain ⟨-, others, unknown, order⟩ := (fields_iff distinct).mp (slots?_record_some read)
      exact .record admitted unknown order
    | list items =>
      rw [slots?_list] at read
      split at read
      · cases read
      · cases read
        exact .list admitted
    | date spelling => exact absurd rfl (plain spelling)
    | null => cases read
    | boolean b => cases read
    | number spelling => cases read
    | text reading => cases read

/-- What is read of a field is what the record has under its name. -/
theorem fieldOf_some_iff {fields : List (Option String × Value)} {name : String} {slot : Option Value}
    (read : fieldOf fields name = some slot) (v : Value) :
    slot = some v ↔ (some name, v) ∈ fields := by
  have found := fieldOf_eq_some_iff.mp read
  have listed : (some name, v) ∈ fields ↔ (some name, v) ∈ written (slot.toList.map (name, ·)) := by
    rw [← found, List.mem_filter]
    simp
  rw [listed]
  cases slot <;> simp [written, eq_comm]

theorem exists_mem_zip {R : α → β → Prop} {l : List α} {l' : List β} (h : List.Forall₂ R l l') {a : α}
    (at_ : a ∈ l) : ∃ b, (a, b) ∈ l.zip l' ∧ R a b := by
  induction h with
  | nil => cases at_
  | cons here _ ih =>
    rcases List.mem_cons.mp at_ with rfl | later
    · exact ⟨_, List.mem_cons_self, here⟩
    · obtain ⟨b, there, related⟩ := ih later
      exact ⟨b, List.mem_cons_of_mem _ there, related⟩

/-- The slots of a list: its items, and nothing for the fields after them. -/
theorem slots_getElem? {items : List Value} {n i : Nat} {slot : Option Value}
    (at_ : i < n) (short : items.length ≤ n) :
    (items.map some ++ List.replicate (n - items.length) none)[i]? = some slot ↔ slot = items[i]? := by
  by_cases given : i < items.length
  · rw [List.getElem?_append_left (by simpa using given)]
    simp [given, eq_comm]
  · have absent : items.length ≤ i := Nat.le_of_not_lt given
    rw [List.getElem?_append_right (by simpa using absent), List.getElem?_replicate,
      List.getElem?_eq_none absent, if_pos (by simp; omega)]
    simp [eq_comm]

section Flaws

variable {rules : List FieldRule}

/-- A value is not read as a record, or what it has in some slot is wrong. -/
def Refused (rules : List FieldRule) (v : Value) : Prop :=
  v.slots? .json (rules.map FieldRule.name) = none ∨
    ∃ s, v.slots? .json (rules.map FieldRule.name) = some s ∧
      ∃ x ∈ rules.zip s.values, x.1.Rejects x.2

theorem exists_zip_nil : (∃ x ∈ ([] : List FieldRule).zip ([] : List (Option Value)),
    x.1.Rejects x.2) ↔ False := by
  simp

theorem exists_zip_cons {r : FieldRule} {slot : Option Value} {slots : List (Option Value)} :
    (∃ x ∈ (r :: rules).zip (slot :: slots), x.1.Rejects x.2) ↔
      r.Rejects slot ∨ ∃ x ∈ rules.zip slots, x.1.Rejects x.2 := by
  rw [List.zip_cons_cons, List.exists_mem_cons_iff]

theorem flawed_record_iff {fields : List (Option String × Value)} :
    Flawed rules (.record fields) ↔ Refused rules (.record fields) := by
  have fieldwise {s : Slots}
      (read : (Value.record fields).slots? .json (rules.map FieldRule.name) = some s) :
      List.Forall₂ (fun (r : FieldRule) slot => fieldOf fields r.name = some slot) rules s.values :=
    List.forall₂_map_left_iff.mp (mapM_eq_some_iff.mp (slots?_record_some read).2)
  constructor
  · intro flawed
    cases read : (Value.record fields).slots? .json (rules.map FieldRule.name) with
    | none => exact .inl read
    | some s =>
      refine .inr ⟨s, read, ?_⟩
      cases flawed with
      | twice known given =>
        obtain ⟨slot, -, once⟩ := exists_mem_zip (fieldwise read) known
        rw [fieldOf_eq_none_iff.mpr given] at once
        cases once
      | wrong known given bad =>
        obtain ⟨slot, paired, here⟩ := exists_mem_zip (fieldwise read) known
        obtain rfl := (fieldOf_some_iff here _).mpr given
        exact ⟨_, paired, bad⟩
      | missing known needed absent =>
        obtain ⟨slot, paired, here⟩ := exists_mem_zip (fieldwise read) known
        cases slot with
        | none => exact ⟨_, paired, needed⟩
        | some v => exact absurd (List.mem_map_of_mem ((fieldOf_some_iff here v).mp rfl)) absent
      | unreadable given => exact absurd rfl ((slots?_record_some read).1 _ given)
      | other record list => exact absurd rfl (record fields)
  · rintro (unread | ⟨s, read, ⟨r, slot⟩, paired, rejects⟩)
    · rw [slots?_record] at unread
      split at unread
      · rename_i unreadable
        obtain ⟨⟨name, v⟩, at_, rfl⟩ := unreadable
        exact .unreadable at_
      · obtain ⟨name, known, twice⟩ := mapM_eq_none_iff.mp (Option.map_eq_none_iff.mp unread)
        obtain ⟨r, member, rfl⟩ := List.mem_map.mp known
        exact .twice member (fieldOf_eq_none_iff.mp twice)
    · have here := (List.forall₂_iff_zip.mp (fieldwise read)).2 paired
      have known := (List.of_mem_zip paired).1
      cases slot with
      | none =>
        refine .missing known rejects fun given => ?_
        obtain ⟨⟨name, v⟩, at_, rfl⟩ := List.mem_map.mp given
        cases (fieldOf_some_iff here v).mpr at_
      | some v => exact .wrong known ((fieldOf_some_iff here v).mp rfl) rejects

theorem flawed_list_iff {items : List Value} :
    Flawed rules (.list items) ↔ Refused rules (.list items) := by
  rw [Refused, slots?_list, List.length_map]
  by_cases long : rules.length < items.length
  · simp only [long, if_true, true_or, iff_true]
    exact .long long
  have short : items.length ≤ rules.length := Nat.le_of_not_lt long
  simp only [long, if_false, reduceCtorEq, false_or, Option.some.injEq, exists_eq_left']
  -- A rule and what it is about have one place.
  have slot_iff {i : Nat} {r : FieldRule} {slot : Option Value} (known : rules[i]? = some r) :
      (items.map some ++ List.replicate (rules.length - items.length) none)[i]? = some slot ↔
        slot = items[i]? :=
    slots_getElem? (List.getElem?_eq_some_iff.mp known).1 short
  constructor
  · intro flawed
    cases flawed with
    | @wrongItem _ i r v known given bad =>
      exact ⟨(r, some v), List.mem_iff_getElem?.mpr ⟨i, List.getElem?_zip_eq_some.mpr
        ⟨known, (slot_iff known).mpr given.symm⟩⟩, bad⟩
    | @missingItem _ i r known needed absent =>
      exact ⟨(r, none), List.mem_iff_getElem?.mpr ⟨i, List.getElem?_zip_eq_some.mpr
        ⟨known, (slot_iff known).mpr (List.getElem?_eq_none absent).symm⟩⟩, needed⟩
    | long more => exact absurd more long
    | other record list => exact absurd rfl (list items)
  · rintro ⟨⟨r, slot⟩, paired, rejects⟩
    obtain ⟨i, at_⟩ := List.mem_iff_getElem?.mp paired
    obtain ⟨known, here⟩ := List.getElem?_zip_eq_some.mp at_
    cases slot with
    | none =>
      exact .missingItem known rejects (List.getElem?_eq_none_iff.mp ((slot_iff known).mp here).symm)
    | some v => exact .wrongItem known ((slot_iff known).mp here).symm rejects

/-- The flaws are what keeps a value from being read. -/
theorem flawed_iff {v : Value} (plain : ∀ spelling, v ≠ .date spelling) :
    Flawed rules v ↔ Refused rules v := by
  have other {v : Value} (record : ∀ fields, v ≠ .record fields) (list : ∀ items, v ≠ .list items)
      (unread : v.slots? .json (rules.map FieldRule.name) = none) :
      Flawed rules v ↔ Refused rules v :=
    ⟨fun _ => .inl unread, fun _ => .other record list⟩
  cases v with
  | record fields => exact flawed_record_iff
  | list items => exact flawed_list_iff
  | date spelling => exact absurd rfl (plain spelling)
  | null => exact other (fun _ => nofun) (fun _ => nofun) rfl
  | boolean b => exact other (fun _ => nofun) (fun _ => nofun) rfl
  | number spelling => exact other (fun _ => nofun) (fun _ => nofun) rfl
  | text reading => exact other (fun _ => nofun) (fun _ => nofun) rfl

end Flaws
end PlcModule.Document
