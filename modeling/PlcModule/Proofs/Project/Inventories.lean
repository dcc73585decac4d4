import PlcModule.Project.InventoryFile
import PlcModule.Proofs.Document.Json
import PlcModule.Proofs.Document.Record

/-! Inventories as JSON documents spell them. However its document is written, an inventory is read
back whole, and a document that is flawed in one place is not read at all. -/
namespace PlcModule

open Document

variable {α : Type}

section Readers

variable {v : Value} {slot : Option Value} {read : Value → Option α} {name : String} {x : α}

/-- What is read of a field that has to be there is what the field spells. -/
theorem required_some_iff {spells : Value → Prop}
    (each : ∀ w, slot = some w → (read w = some x ↔ spells w)) :
    required read slot = some x ↔ (FieldForm.needed name spells).Admits slot := by
  cases slot with
  | none => simp [required, FieldForm.needed, FieldForm.Admits]
  | some w => exact each w rfl

theorem optional_some_iff {fallback : α} {spells : Value → Prop}
    (each : ∀ w, slot = some w → (read w = some x ↔ spells w)) :
    Document.optional fallback read slot = some x ↔
      (FieldForm.mk name spells (x = fallback)).Admits slot := by
  cases slot with
  | none => simp [Document.optional, FieldForm.Admits, eq_comm]
  | some w => exact each w rfl

theorem required_none_iff {wrong : Value → Prop}
    (each : ∀ w, slot = some w → (read w = none ↔ wrong w)) :
    required read slot = none ↔ (FieldRule.mk name True wrong).Rejects slot := by
  cases slot with
  | none => simp [required, FieldRule.Rejects]
  | some w => exact each w rfl

theorem optional_none_iff {fallback : α} {wrong : Value → Prop}
    (each : ∀ w, slot = some w → (read w = none ↔ wrong w)) :
    Document.optional fallback read slot = none ↔ (FieldRule.mk name False wrong).Rejects slot := by
  cases slot with
  | none => simp [Document.optional, FieldRule.Rejects]
  | some w => exact each w rfl

theorem asText?_some_iff {s : String} : v.asText? = some s ↔ v = .ofText s := by
  cases v <;> simp [Value.asText?, Value.ofText]

theorem asBoolean?_some_iff {b : Bool} : v.asBoolean? = some b ↔ v = .boolean b := by
  cases v <;> simp [Value.asBoolean?]

/-- A reader fails on what it reads nothing of. -/
theorem none_iff {result : Option α} {spells : α → Prop} (each : ∀ x, result = some x ↔ spells x) :
    result = none ↔ ∀ x, ¬ spells x := by
  simp only [Option.eq_none_iff_forall_ne_some, ne_eq, each]

theorem asText?_none_iff : v.asText? = none ↔ ∀ s, v ≠ .ofText s :=
  none_iff fun _ => asText?_some_iff

/-- A list whose items spell some values, one each. -/
def ListSpelled (spells : α → Value → Prop) (xs : List α) (v : Value) : Prop :=
  ∃ items, v = .list items ∧ List.Forall₂ spells xs items

/-- What is not a list of values, each without a flaw. -/
def ListFlawed (flawed : Value → Prop) (v : Value) : Prop :=
  (∀ items, v ≠ .list items) ∨ ∃ items, v = .list items ∧ ∃ item ∈ items, flawed item

theorem asList?_some_iff {spells : α → Value → Prop} (dateless : v.Dateless)
    (each : ∀ w : Value, w.Dateless → ∀ x, read w = some x ↔ spells x w) {xs : List α} :
    v.asList? read = some xs ↔ ListSpelled spells xs v := by
  cases dateless with
  | @list items below =>
    simp only [Value.asList?, ListSpelled, Value.list.injEq, exists_eq_left', mapM_eq_some_iff]
    induction items generalizing xs with
    | nil => cases xs <;> simp
    | cons w items ih =>
      obtain ⟨here, below⟩ := List.forall_mem_cons.mp below
      cases xs <;> simp [each w here, ih below]
  | _ => simp [Value.asList?, ListSpelled]

theorem asList?_none_iff {flawed : Value → Prop} (dateless : v.Dateless)
    (each : ∀ w : Value, w.Dateless → (read w = none ↔ flawed w)) :
    v.asList? read = none ↔ ListFlawed flawed v := by
  cases dateless with
  | @list items below =>
    have same : ∀ w ∈ items, read w = none ↔ flawed w := fun w at_ => each w (below w at_)
    simp only [Value.asList?, ListFlawed, Value.list.injEq, exists_eq_left', mapM_eq_none_iff]
    constructor
    · rintro ⟨w, at_, unread⟩
      exact .inr ⟨w, at_, (same w at_).mp unread⟩
    · rintro (other | ⟨w, at_, flaw⟩)
      · exact absurd rfl (other items)
      · exact ⟨w, at_, (same w at_).mpr flaw⟩
  | _ => simp [Value.asList?, ListFlawed]

/-- No date is in what a record has for its fields. -/
theorem slots?_dateless {names : List String} {s : Slots} (dateless : v.Dateless)
    (read : v.slots? .json names = some s) {w : Value} (at_ : some w ∈ s.values) : w.Dateless := by
  cases dateless with
  | @record fields below =>
    have slots := mapM_eq_some_iff.mp (slots?_record_some read).2
    obtain ⟨name, -, here⟩ := exists_mem_zip slots.flip at_
    exact below _ ((fieldOf_some_iff here w).mp rfl)
  | @list items below =>
    rw [slots?_list] at read
    split at read
    · cases read
    · cases read
      exact below w (by simpa using at_)
  | _ => cases read

theorem slots?_length {names : List String} {s : Slots} (dateless : v.Dateless)
    (read : v.slots? .json names = some s) : s.values.length = names.length := by
  cases dateless with
  | record => exact (mapM_eq_some_iff.mp (slots?_record_some read).2).length_eq.symm
  | list =>
    rw [slots?_list] at read
    split at read
    · cases read
    · cases read
      simp
      omega
  | _ => cases read

/-- What is read of a value by the slots of its fields is what the fields spell. -/
theorem record_some_iff {forms : List FieldForm} (names : List String)
    (named : forms.map FieldForm.name = names) (distinct : names.Nodup) (dateless : v.Dateless)
    {result : Option α} (unread : v.slots? .json names = none → result = none)
    (each : ∀ positional slots, v.slots? .json names = some ⟨positional, slots⟩ →
      slots.length = names.length → (∀ w, some w ∈ slots → w.Dateless) →
        (result = some x ↔ List.Forall₂ FieldForm.Admits forms slots)) :
    result = some x ↔ Document.Spelled forms v := by
  subst named
  rw [spelled_iff distinct dateless.plain]
  cases read : v.slots? .json (forms.map FieldForm.name) with
  | none => simp [unread read]
  | some s =>
    rw [each s.positional s.values read (slots?_length dateless read)
      fun w => slots?_dateless dateless read]
    simp

/-- Nothing is read of a value exactly if a rule for one of its fields is broken. -/
theorem record_none_iff {rules : List FieldRule} (names : List String)
    (named : rules.map FieldRule.name = names) (dateless : v.Dateless) {result : Option α}
    (unread : v.slots? .json names = none → result = none)
    (each : ∀ positional slots, v.slots? .json names = some ⟨positional, slots⟩ →
      slots.length = names.length → (∀ w, some w ∈ slots → w.Dateless) →
        (result = none ↔ ∃ x ∈ rules.zip slots, x.1.Rejects x.2)) :
    result = none ↔ Document.Flawed rules v := by
  subst named
  rw [flawed_iff dateless.plain, Refused]
  cases read : v.slots? .json (rules.map FieldRule.name) with
  | none => simp [unread read]
  | some s =>
    rw [each s.positional s.values read (slots?_length dateless read)
      fun w => slots?_dateless dateless read]
    simp

end Readers

namespace Category

/-- The spellings of a category: its text, or a record of one field of that name that holds null. -/
def Spelled (c : Category) (v : Value) : Prop :=
  v = .ofText c.text ∨ v = .record [(some c.text, .null)]

theorem ofText?_some_iff {s : String} {c : Category} : ofText? s = some c ↔ s = c.text := by
  constructor
  · intro found
    unfold ofText? at found
    have same := List.find?_some found
    exact (beq_iff_eq.mp same).symm
  · rintro rfl
    exact c.ofText?_text

theorem ofValue?_some_iff {v : Value} {c : Category} : ofValue? .json v = some c ↔ c.Spelled v := by
  unfold ofValue?
  split
  · simp [ofText?_some_iff, Spelled, Value.ofText]
  · rename_i name w
    cases w <;> simp [Value.isNothing, ofText?_some_iff, Spelled, Value.ofText]
  · rename_i other other'
    simp only [reduceCtorEq, false_iff]
    rintro (rfl | rfl)
    · exact other _ rfl
    · exact other' _ _ rfl

end Category

/-- A text is wrong if it is not one. -/
def NotText (v : Value) : Prop :=
  ∀ s, v ≠ .ofText s

namespace Program

variable {v : Value}

/-- The fields of a program, as they are spelled. -/
def forms (p : Program) : List FieldForm :=
  [.needed "type" (· = .ofText p.typeName), .needed "path" (· = .ofText p.path)]

def Spelled (p : Program) : Value → Prop :=
  Document.Spelled p.forms

/-- The fields of a program, and what is wrong with them. -/
def rules : List FieldRule :=
  [⟨"type", True, NotText⟩, ⟨"path", True, NotText⟩]

def Flawed : Value → Prop :=
  Document.Flawed rules

theorem mk_some_iff {t p : Option String} {x : Program} :
    (do some ⟨← t, ← p⟩ : Option Program) = some x ↔ t = some x.typeName ∧ p = some x.path := by
  cases x
  cases t <;> cases p <;> simp

theorem mk_none_iff {t p : Option String} :
    (do some ⟨← t, ← p⟩ : Option Program) = none ↔ t = none ∨ p = none := by
  cases t <;> cases p <;> simp

theorem ofValue?_some_iff (dateless : v.Dateless) (x : Program) :
    ofValue? .json v = some x ↔ x.Spelled v := by
  refine record_some_iff ["type", "path"] rfl (by decide) dateless
    (fun none => by simp [ofValue?, none]) fun positional slots read length _ => ?_
  obtain ⟨a, b, rfl⟩ := List.length_eq_two.mp length
  simp only [ofValue?, read, forms, List.forall₂_cons, List.forall₂_nil_left_iff, and_true]
  rw [mk_some_iff]
  exact and_congr (required_some_iff fun _ _ => asText?_some_iff)
    (required_some_iff fun _ _ => asText?_some_iff)

theorem ofValue?_none_iff (dateless : v.Dateless) : ofValue? .json v = none ↔ Flawed v := by
  refine record_none_iff ["type", "path"] rfl dateless
    (fun none => by simp [ofValue?, none]) fun positional slots read length _ => ?_
  obtain ⟨a, b, rfl⟩ := List.length_eq_two.mp length
  simp only [ofValue?, read, rules, exists_zip_cons, exists_zip_nil, or_false]
  rw [mk_none_iff]
  exact or_congr (required_none_iff fun _ _ => asText?_none_iff)
    (required_none_iff fun _ _ => asText?_none_iff)

theorem spelled_toValue (x : Program) : x.Spelled x.toValue :=
  @Document.Spelled.record x.forms _ [some (.ofText x.typeName), some (.ofText x.path)] []
    (.cons rfl (.cons rfl .nil)) (by simp) (List.Perm.refl _)

end Program

namespace Variable

variable {v : Value}

def forms (x : Variable) : List FieldForm :=
  [.needed "path" (· = .ofText x.path), .needed "category" x.category.Spelled,
    .needed "type" (· = .ofText x.iecType), ⟨"retain", (· = .boolean x.retain), x.retain = false⟩]

def Spelled (x : Variable) : Value → Prop :=
  Document.Spelled x.forms

def rules : List FieldRule :=
  [⟨"path", True, NotText⟩, ⟨"category", True, fun v => ∀ c : Category, ¬ c.Spelled v⟩,
    ⟨"type", True, NotText⟩, ⟨"retain", False, fun v => ∀ b, v ≠ .boolean b⟩]

def Flawed : Value → Prop :=
  Document.Flawed rules

theorem mk_some_iff {p : Option String} {c : Option Category} {t : Option String} {r : Option Bool}
    {x : Variable} : (do some ⟨← p, ← c, ← t, ← r⟩ : Option Variable) = some x ↔
      p = some x.path ∧ c = some x.category ∧ t = some x.iecType ∧ r = some x.retain := by
  cases x
  cases p <;> cases c <;> cases t <;> cases r <;> simp

theorem mk_none_iff {p : Option String} {c : Option Category} {t : Option String} {r : Option Bool} :
    (do some ⟨← p, ← c, ← t, ← r⟩ : Option Variable) = none ↔
      p = none ∨ c = none ∨ t = none ∨ r = none := by
  cases p <;> cases c <;> cases t <;> cases r <;> simp

theorem ofValue?_some_iff (dateless : v.Dateless) (x : Variable) :
    ofValue? .json v = some x ↔ x.Spelled v := by
  refine record_some_iff ["path", "category", "type", "retain"] rfl (by decide) dateless
    (fun none => by simp [ofValue?, none]) fun positional slots read length _ => ?_
  obtain ⟨a, b, c, d, rfl⟩ := List.length_eq_four.mp length
  simp only [ofValue?, read, forms, List.forall₂_cons, List.forall₂_nil_left_iff, and_true]
  rw [mk_some_iff]
  exact and_congr (required_some_iff fun _ _ => asText?_some_iff)
    (and_congr (required_some_iff fun _ _ => Category.ofValue?_some_iff)
      (and_congr (required_some_iff fun _ _ => asText?_some_iff)
        (optional_some_iff fun _ _ => asBoolean?_some_iff)))

theorem ofValue?_none_iff (dateless : v.Dateless) : ofValue? .json v = none ↔ Flawed v := by
  refine record_none_iff ["path", "category", "type", "retain"] rfl dateless
    (fun none => by simp [ofValue?, none]) fun positional slots read length _ => ?_
  obtain ⟨a, b, c, d, rfl⟩ := List.length_eq_four.mp length
  simp only [ofValue?, read, rules, exists_zip_cons, exists_zip_nil, or_false]
  rw [mk_none_iff]
  exact or_congr (required_none_iff fun _ _ => asText?_none_iff)
    (or_congr (required_none_iff fun _ _ => none_iff fun _ => Category.ofValue?_some_iff)
      (or_congr (required_none_iff fun _ _ => asText?_none_iff)
        (optional_none_iff fun _ _ => none_iff fun _ => asBoolean?_some_iff)))

theorem spelled_toValue (x : Variable) : x.Spelled x.toValue :=
  @Document.Spelled.record x.forms _ [some (.ofText x.path), some (.ofText x.category.text),
      some (.ofText x.iecType), some (.boolean x.retain)] []
    (.cons rfl (.cons (.inl rfl) (.cons rfl (.cons rfl .nil)))) (by simp) (List.Perm.refl _)

end Variable

namespace Inventory

variable {v : Value}

def forms (i : Inventory) : List FieldForm :=
  [⟨"programs", ListSpelled Program.Spelled i.programs, i.programs = []⟩,
    ⟨"variables", ListSpelled Variable.Spelled i.vars, i.vars = []⟩]

def Spelled (i : Inventory) : Value → Prop :=
  Document.Spelled i.forms

def rules : List FieldRule :=
  [⟨"programs", False, ListFlawed Program.Flawed⟩, ⟨"variables", False, ListFlawed Variable.Flawed⟩]

def Flawed : Value → Prop :=
  Document.Flawed rules

theorem mk_some_iff {p : Option (List Program)} {w : Option (List Variable)} {x : Inventory} :
    (do some ⟨← p, ← w⟩ : Option Inventory) = some x ↔ p = some x.programs ∧ w = some x.vars := by
  cases x
  cases p <;> cases w <;> simp

theorem mk_none_iff {p : Option (List Program)} {w : Option (List Variable)} :
    (do some ⟨← p, ← w⟩ : Option Inventory) = none ↔ p = none ∨ w = none := by
  cases p <;> cases w <;> simp

theorem ofValue?_some_iff (dateless : v.Dateless) (i : Inventory) :
    ofValue? .json v = some i ↔ i.Spelled v := by
  refine record_some_iff ["programs", "variables"] rfl (by decide) dateless
    (fun none => by simp [ofValue?, none]) fun positional slots read length below => ?_
  obtain ⟨a, b, rfl⟩ := List.length_eq_two.mp length
  simp only [ofValue?, read, forms, List.forall₂_cons, List.forall₂_nil_left_iff, and_true]
  rw [mk_some_iff]
  exact and_congr
    (optional_some_iff fun w here => asList?_some_iff (below w (by simp [here]))
      fun _ dateless x => Program.ofValue?_some_iff dateless x)
    (optional_some_iff fun w here => asList?_some_iff (below w (by simp [here]))
      fun _ dateless x => Variable.ofValue?_some_iff dateless x)

theorem ofValue?_none_iff (dateless : v.Dateless) : ofValue? .json v = none ↔ Flawed v := by
  refine record_none_iff ["programs", "variables"] rfl dateless
    (fun none => by simp [ofValue?, none]) fun positional slots read length below => ?_
  obtain ⟨a, b, rfl⟩ := List.length_eq_two.mp length
  simp only [ofValue?, read, rules, exists_zip_cons, exists_zip_nil, or_false]
  rw [mk_none_iff]
  exact or_congr
    (optional_none_iff fun w here => asList?_none_iff (below w (by simp [here]))
      fun _ dateless => Program.ofValue?_none_iff dateless)
    (optional_none_iff fun w here => asList?_none_iff (below w (by simp [here]))
      fun _ dateless => Variable.ofValue?_none_iff dateless)

theorem spelled_toValue (i : Inventory) : i.Spelled i.toValue := by
  have listed {β : Type} {spells : β → Value → Prop} {toValue : β → Value}
      (each : ∀ x, spells x (toValue x)) (xs : List β) :
      ListSpelled spells xs (.list (xs.map toValue)) :=
    ⟨_, rfl, List.forall₂_map_right_iff.mpr (List.forall₂_same.mpr fun x _ => each x)⟩
  exact @Document.Spelled.record i.forms _ [some (.list (i.programs.map Program.toValue)),
      some (.list (i.vars.map Variable.toValue))] []
    (.cons (listed Program.spelled_toValue _) (.cons (listed Variable.spelled_toValue _) .nil))
    (by simp) (List.Perm.refl _)

theorem toValue_dateless (i : Inventory) : i.toValue.Dateless := by
  have listed {β : Type} {toValue : β → Value} (each : ∀ x, (toValue x).Dateless) (xs : List β) :
      (Value.list (xs.map toValue)).Dateless := by
    refine .list fun v at_ => ?_
    obtain ⟨x, -, rfl⟩ := List.mem_map.mp at_
    exact each x
  have program (x : Program) : x.toValue.Dateless := by
    refine .record ?_
    simp only [List.map_cons, List.map_nil, List.forall_mem_cons]
    exact ⟨.text _, .text _, by simp⟩
  have variable_ (x : Variable) : x.toValue.Dateless := by
    refine .record ?_
    simp only [List.map_cons, List.map_nil, List.forall_mem_cons]
    exact ⟨.text _, .text _, .text _, .boolean _, by simp⟩
  refine .record ?_
  simp only [List.map_cons, List.map_nil, List.forall_mem_cons]
  exact ⟨listed program _, listed variable_ _, by simp⟩

/-- A document with an inventory is read as what it spells, and one with a flaw is not read at all:
so the order of fields, fields of other names, what is left out for being as it would be anyway and
the form of a list make no difference. What is written of an inventory spells it, with every
field. -/
theorem load_spelled {tree : FileTree} {path : Path} {content : String} {v : Value}
    (read : tree.readText path = .ok content) (document : Json.parse content = some v) :
    (∀ i, load tree path = .ok i ↔ i.Spelled v) ∧
    (load tree path = .error (.extraction (.malformed path)) ↔ Flawed v) ∧
    ∀ i : Inventory, i.Spelled i.toValue ∧ ofValue? .json i.toValue = some i := by
  have dateless := Json.parse_dateless document
  refine ⟨fun i => ?_, ?_, fun i => ⟨i.spelled_toValue, ?_⟩⟩
  · rw [← ofValue?_some_iff dateless]
    simp only [load, read, parse, document, Option.bind_some]
    cases ofValue? .json v <;> simp
  · rw [← ofValue?_none_iff dateless]
    simp only [load, read, parse, document, Option.bind_some]
    cases ofValue? .json v <;> simp
  · exact (ofValue?_some_iff i.toValue_dateless i).mpr i.spelled_toValue

/-- A document with a program as a list, and with a variable as a record that has fields of another
name, a category that is a record itself, and nothing on whether the variable is retained. -/
def sampleTree : FileTree :=
  ⟨[], [(["i.json"], .file ("[[[\"MAIN\",\"R\"]],[\x7b\"note\":1,\"type\":\"INT\",\"note\":2," ++
    "\"category\":\x7b\"MEM\":null\x7d,\"path\":\"R.N\"\x7d]]").toUTF8 false)], by decide⟩

theorem sampleTree_spelled : ∃ content v, sampleTree.readText ⟨"/i.json"⟩ = .ok content ∧
    Json.parse content = some v ∧
    Spelled ⟨[⟨"MAIN", "R"⟩], [⟨"R.N", .memory, "INT", false⟩]⟩ v ∧ ¬ Flawed v := by
  have loaded : (load sampleTree ⟨"/i.json"⟩).toOption =
      some ⟨[⟨"MAIN", "R"⟩], [⟨"R.N", .memory, "INT", false⟩]⟩ := by decide +kernel
  cases read : sampleTree.readText ⟨"/i.json"⟩ with
  | error cause =>
    simp only [load, read] at loaded
    cases loaded
  | ok content =>
    cases document : Json.parse content with
    | none =>
      simp only [load, read, parse, document] at loaded
      cases loaded
    | some v =>
      obtain ⟨spelled, flawed, -⟩ := load_spelled read document
      cases whole : load sampleTree ⟨"/i.json"⟩ with
      | error e =>
        rw [whole] at loaded
        cases loaded
      | ok i =>
        rw [whole] at loaded
        cases loaded
        refine ⟨content, v, rfl, document, (spelled _).mp whole, fun flaw => ?_⟩
        rw [flawed.mpr flaw] at whole
        cases whole

end Inventory

end PlcModule
