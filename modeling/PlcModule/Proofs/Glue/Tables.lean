import Mathlib.Data.List.Forall2
import PlcModule.Glue.DebugSource
import PlcModule.Proofs.Text.Entries

/-! The tables of a debug source, read back from their texts. They are made one by one from the
same variables; all of them give a variable the same number. -/
namespace PlcModule

/-- How the type of a variable ends in the descriptor array. Function blocks are not in it. -/
def Category.enumSuffix : Category → String
  | external | input => "_P_ENUM"
  | memory | output => "_O_ENUM"
  | plain | functionBlock => "_ENUM"

theorem DescriptorTag.enumName_eq {category : Category} {tag : DescriptorTag}
    (tagged : ofCategory? category = some tag) (iecType : String) :
    tag.enumName iecType = iecType ++ category.enumSuffix := by
  cases category <;> cases tagged <;> rfl

/-- The variables that have a descriptor, in order of its number. -/
def Inventory.described (inventory : Inventory) : List Variable :=
  inventory.vars.filter fun v => v.category ≠ .functionBlock

/-- A text declares a variable through a pointer if its descriptor has one, and as it is if not. -/
structure Declares (line : String) (v : Variable) : Prop where
  pointer : line = "extern __IEC_" ++ v.iecType ++ "_p " ++ v.path ++ ";" ↔
    DescriptorTag.ofCategory? v.category = some .pointer ∨
      DescriptorTag.ofCategory? v.category = some .owned
  plain : line = "extern __IEC_" ++ v.iecType ++ "_t " ++ v.path ++ ";" ↔
    DescriptorTag.ofCategory? v.category = some .plain
  functionBlock : line = "extern       " ++ v.iecType ++ "   " ++ v.path ++ ";" ↔
    DescriptorTag.ofCategory? v.category = none

theorem DebugFragments.variableDeclaration_declares (v : Variable) :
    Declares (variableDeclaration v) v := by
  -- The forms differ in the ending of the type, or already in front of the type.
  have kinds : "extern __IEC_" ++ v.iecType ++ "_p " ++ v.path ++ ";" ≠
      "extern __IEC_" ++ v.iecType ++ "_t " ++ v.path ++ ";" := by
    intro same
    simp [← String.toList_inj] at same
  have block (kind : String) : "extern __IEC_" ++ v.iecType ++ kind ++ v.path ++ ";" ≠
      "extern       " ++ v.iecType ++ "   " ++ v.path ++ ";" := by
    intro same
    simp [← String.toList_inj] at same
  cases category : v.category <;>
    constructor <;>
    simp [variableDeclaration, category, DescriptorTag.ofCategory?, kinds, kinds.symm, block,
      (block _).symm]

namespace Descriptor

theorem map_var_table (vars : List Variable) :
    (table vars).map var = vars.filter fun v => v.category ≠ .functionBlock := by
  have numbered (tagged : List (Variable × DescriptorTag)) :
      (tagged.mapIdx fun i x => (⟨i, x.1, x.2⟩ : Descriptor)).map var = tagged.map Prod.fst := by
    apply List.ext_getElem <;> simp
  rw [table, numbered]
  induction vars with
  | nil => rfl
  | cons v vars ih => cases category : v.category <;> simp_all [DescriptorTag.ofCategory?]

theorem map_index_table (vars : List Variable) :
    (table vars).map index = List.range (table vars).length := by
  apply List.ext_getElem
  · simp
  · intro i h _
    rw [List.getElem_map, List.getElem_range]
    exact index_table vars i (by simpa using h)

theorem tag_table {vars : List Variable} {d : Descriptor} (member : d ∈ table vars) :
    DescriptorTag.ofCategory? d.var.category = some d.tag := by
  obtain ⟨i, h, rfl⟩ := List.mem_mapIdx.mp member
  have tagged := List.getElem_mem h
  obtain ⟨v, -, found⟩ := List.mem_filterMap.mp tagged
  obtain ⟨tag, tagOf, pair⟩ := Option.map_eq_some_iff.mp found
  rw [← pair]
  exact tagOf

/-- A descriptor's variable is found by its number among the variables that have one. -/
theorem getElem_of_mem_table {inventory : Inventory} {d : Descriptor}
    (member : d ∈ table inventory.vars) : inventory.described[d.index]? = some d.var := by
  obtain ⟨i, h, rfl⟩ := List.getElem_of_mem member
  rw [index_table inventory.vars i h, Inventory.described, ← map_var_table, List.getElem?_map,
    List.getElem?_eq_getElem h, Option.map_some]

theorem literal_eq {vars : List Variable} {d : Descriptor} (member : d ∈ table vars) :
    d.literal = "\x7b&(" ++ d.var.path ++ "), " ++ d.var.iecType ++ d.var.category.enumSuffix ++
      "\x7d" := by
  rw [literal, DescriptorTag.enumName_eq (tag_table member), ← String.append_assoc]

/-- The numbers of the retained variables rise, and each is there once. -/
theorem retained_rises (vars : List Variable) : (retained (table vars)).Pairwise (· < ·) := by
  have rises : ((table vars).map index).Pairwise (· < ·) := by
    rw [map_index_table]
    exact List.pairwise_lt_range
  exact rises.sublist (List.filter_sublist.map index)

theorem mem_retained {inventory : Inventory} {i : Nat} :
    i ∈ retained (table inventory.vars) ↔
      ∃ v, inventory.described[i]? = some v ∧ v.retain = true := by
  constructor
  · intro at_
    obtain ⟨d, kept, rfl⟩ := List.mem_map.mp at_
    obtain ⟨member, retain⟩ := List.mem_filter.mp kept
    exact ⟨d.var, getElem_of_mem_table member, retain⟩
  · rintro ⟨v, here, retain⟩
    rw [Inventory.described, ← map_var_table, List.getElem?_map, Option.map_eq_some_iff] at here
    obtain ⟨d, at_, rfl⟩ := here
    obtain ⟨h, rfl⟩ := List.getElem?_eq_some_iff.mp at_
    refine List.mem_map.mpr ⟨_, List.mem_filter.mpr ⟨List.getElem_mem h, retain⟩, ?_⟩
    exact index_table inventory.vars i h

/-- An entry names the number of its descriptor and the path of the variable that has it. -/
theorem forall₂_retainEntry (inventory : Inventory) :
    List.Forall₂ (fun entry i => ∃ v, inventory.described[i]? = some v ∧
        entry = "/* " ++ v.path ++ " */ " ++ toString i)
      (((table inventory.vars).filter fun d => d.var.retain).map retainEntry)
      (retained (table inventory.vars)) := by
  rw [retained, List.forall₂_map_left_iff, List.forall₂_map_right_iff, List.forall₂_same]
  intro d kept
  exact ⟨d.var, getElem_of_mem_table (List.mem_of_mem_filter kept), rfl⟩

end Descriptor

namespace DebugFragments

/-- A variable of an inventory is written on one line. -/
structure Fits (v : Variable) : Prop where
  path : '\n' ∉ v.path.toList
  iecType : '\n' ∉ v.iecType.toList

section

variable {v : Variable} {d : Descriptor}

theorem isOneLine_literal (fits : Fits d.var) : Text.IsOneLine d.literal := by
  have named : Text.IsOneLine ("\x7b&(" ++ d.var.path ++ "), ") :=
    (Text.IsOneLine.append (by decide) fits.path).append (by decide)
  have typed : '\n' ∉ (d.tag.enumName d.var.iecType).toList := by
    cases d.tag <;> simp [DescriptorTag.enumName, fits.iecType]
  exact (named.append typed).append (by decide)

theorem isOneLine_retainEntry (fits : Fits d.var) : Text.IsOneLine d.retainEntry := by
  have named : Text.IsOneLine ("/* " ++ d.var.path ++ " */ ") :=
    (Text.IsOneLine.append (by decide) fits.path).append (by decide)
  exact named.append (Text.not_mem_number d.index)

theorem isOneLine_pointerAssignment (i : Nat) : Text.IsOneLine (pointerAssignment i) := by
  have target : Text.IsOneLine ("\tptr[" ++ toString i ++ "] = dbgvardsc[") :=
    (Text.IsOneLine.append (by decide) (Text.not_mem_number i)).append (by decide)
  exact (target.append (Text.not_mem_number i)).append (by decide)

theorem isOneLine_variableDeclaration (fits : Fits v) : Text.IsOneLine (variableDeclaration v) := by
  have typed (front back : String) (line : Text.IsOneLine front) (clean : '\n' ∉ back.toList) :
      Text.IsOneLine (front ++ v.iecType ++ back ++ v.path ++ ";") :=
    (((line.append fits.iecType).append clean).append fits.path).append (by decide)
  cases category : v.category <;> simp only [variableDeclaration, category] <;>
    exact typed _ _ (by decide) (by decide)

end

/-- The tables go by one numbering: that of the variables that are no function blocks, in
inventory order. Each text, split where its entries were joined, has the entries of just these. -/
theorem tables_agree (inventory : Inventory) (accessCode : String)
    (fits : ∀ v ∈ inventory.vars, Fits v) :
    let f := ofInventory inventory accessCode
    let numbered := inventory.described
    Text.entries ",\n" f.variableDeclArray = numbered.map (fun v =>
      "\x7b&(" ++ v.path ++ "), " ++ v.iecType ++ v.category.enumSuffix ++ "\x7d") ∧
    Text.entries "\n" f.pointerAssignments = (List.range numbered.length).map (fun i =>
      "\tptr[" ++ toString i ++ "] = dbgvardsc[" ++ toString i ++ "].ptr;") ∧
    (∃ indices : List Nat,
      indices.Pairwise (· < ·) ∧
      (∀ i, i ∈ indices ↔ ∃ v, numbered[i]? = some v ∧ v.retain = true) ∧
      List.Forall₂ (fun entry i => ∃ v, numbered[i]? = some v ∧
          entry = "/* " ++ v.path ++ " */ " ++ toString i)
        (Text.entries ",\n" f.retainIndexArray) indices ∧
      Descriptor.retained (Descriptor.table inventory.vars) = indices) ∧
    List.Forall₂ Declares (Text.entries "\n" f.externVariablesDeclarations)
      (inventory.vars.filter fun v => '.' ∉ v.path.toList) := by
  have fitsTable : ∀ d ∈ Descriptor.table inventory.vars, Fits d.var := by
    intro d member
    have : d.var ∈ (Descriptor.table inventory.vars).map Descriptor.var := List.mem_map_of_mem member
    rw [Descriptor.map_var_table] at this
    exact fits d.var (List.mem_of_mem_filter this)
  refine ⟨?_, ?_, ?_, ?_⟩
  · have found : Text.entries ",\n" (ofInventory inventory accessCode).variableDeclArray =
        (Descriptor.table inventory.vars).map Descriptor.literal := by
      refine Text.entries_intercalate (by decide) fun line at_ => ?_
      obtain ⟨d, member, rfl⟩ := List.mem_map.mp at_
      exact isOneLine_literal (fitsTable d member)
    rw [found, Inventory.described, ← Descriptor.map_var_table, List.map_map]
    exact List.map_congr_left fun d member => Descriptor.literal_eq member
  · have count : inventory.described.length = (Descriptor.table inventory.vars).length := by
      rw [Inventory.described, ← Descriptor.map_var_table, List.length_map]
    rw [count]
    refine Text.entries_intercalate (by decide) fun line at_ => ?_
    obtain ⟨i, -, rfl⟩ := List.mem_map.mp at_
    exact isOneLine_pointerAssignment i
  · refine ⟨_, Descriptor.retained_rises inventory.vars, fun i => Descriptor.mem_retained, ?_, rfl⟩
    have found : Text.entries ",\n" (ofInventory inventory accessCode).retainIndexArray =
        ((Descriptor.table inventory.vars).filter fun d => d.var.retain).map
          Descriptor.retainEntry := by
      refine Text.entries_intercalate (by decide) fun line at_ => ?_
      obtain ⟨d, kept, rfl⟩ := List.mem_map.mp at_
      exact isOneLine_retainEntry (fitsTable d (List.mem_of_mem_filter kept))
    rw [found]
    exact Descriptor.forall₂_retainEntry inventory
  · have found : Text.entries "\n" (ofInventory inventory accessCode).externVariablesDeclarations =
        (inventory.vars.filter Variable.isTopLevel).map variableDeclaration := by
      refine Text.entries_intercalate (by decide) fun line at_ => ?_
      obtain ⟨v, top, rfl⟩ := List.mem_map.mp at_
      exact isOneLine_variableDeclaration (fits v (List.mem_of_mem_filter top))
    have topLevel : (inventory.vars.filter fun v => '.' ∉ v.path.toList) =
        inventory.vars.filter Variable.isTopLevel := by
      refine List.filter_congr fun v _ => ?_
      simp [Variable.isTopLevel]
    rw [found, topLevel, List.forall₂_map_left_iff, List.forall₂_same]
    intro v _
    exact variableDeclaration_declares v

/-- A block between two variables, all three retained, and a member of the block. -/
def aroundBlock : Inventory where
  programs := [⟨"MAIN", "main"⟩]
  vars := [
    ⟨"speed", .input, "INT", true⟩,
    ⟨"timer", .functionBlock, "TON", true⟩,
    ⟨"timer.q", .plain, "BOOL", false⟩,
    ⟨"count", .plain, "DINT", true⟩]

/-- The block has no number, so the last variable has number two in every table. -/
theorem aroundBlock_tables :
    (∀ v ∈ aroundBlock.vars, Fits v) ∧
      let f := ofInventory aroundBlock ""
      Text.entries ",\n" f.variableDeclArray =
        ["\x7b&(speed), INT_P_ENUM\x7d", "\x7b&(timer.q), BOOL_ENUM\x7d", "\x7b&(count), DINT_ENUM\x7d"] ∧
      Descriptor.retained (Descriptor.table aroundBlock.vars) = [0, 2] ∧
      List.Forall₂ Declares (Text.entries "\n" f.externVariablesDeclarations)
        [⟨"speed", .input, "INT", true⟩, ⟨"timer", .functionBlock, "TON", true⟩,
          ⟨"count", .plain, "DINT", true⟩] := by
  have fits : ∀ v ∈ aroundBlock.vars, Fits v := by
    intro v member
    have all : ∀ v ∈ aroundBlock.vars, '\n' ∉ v.path.toList ∧ '\n' ∉ v.iecType.toList := by decide
    exact ⟨(all v member).1, (all v member).2⟩
  obtain ⟨literals, -, -, declared⟩ := tables_agree aroundBlock "" fits
  exact ⟨fits, literals.trans (by decide), by decide, declared⟩

end DebugFragments
end PlcModule
