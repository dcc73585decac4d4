import Mathlib.Data.List.Count
import PlcModule.Proofs.Glue.Lexemes

/-! The functions of extensions, as a main source declares and calls them. Declarations and calls
are made apart, from the keys alone. Read back from the texts they are of the same functions, and
the keys are read back with them, since a usable key cannot end a name or start another. -/
namespace PlcModule

/-- The four functions of an extension. -/
inductive Hook where
  | init
  | cleanup
  | retrieve
  | publish
  deriving DecidableEq, Repr

namespace Hook

def all : List Hook :=
  [init, cleanup, retrieve, publish]

/-- How the names of its functions start. -/
def opening : Hook → String
  | init => "__init_"
  | cleanup => "__cleanup_"
  | retrieve => "__retrieve_"
  | publish => "__publish_"

def function (h : Hook) (key : String) : String :=
  h.opening ++ key

/-- The key that a function is named for, if it is one of this hook. -/
def key? (h : Hook) (name : String) : Option String :=
  (Statement.after? h.opening name.toList).map String.ofList

/-- The text that calls the functions of this hook. -/
def block (h : Hook) (f : MainFragments) : String :=
  match h with
  | init => f.initCalls
  | cleanup => f.cleanupCalls
  | retrieve => f.retrieveCalls
  | publish => f.publishCalls

/-- What was started first is ended last. -/
def ordered (h : Hook) (keys : List String) : List String :=
  match h with
  | init | retrieve => keys
  | cleanup | publish => keys.reverse

def prototype (h : Hook) (key : String) : Prototype :=
  match h with
  | init => ⟨"int", h.function key, lexemes "int argc,char **argv"⟩
  | _ => ⟨"void", h.function key, lexemes "void"⟩

def call (h : Hook) (key : String) : FunctionCall :=
  match h with
  | init => ⟨h.function key, lexemes "argc,argv", true⟩
  | _ => ⟨h.function key, [], false⟩

/-- The statement that makes the call. -/
def statement (h : Hook) (c : StagedCall) : String :=
  match h with
  | init => MainFragments.initCall c
  | cleanup => MainFragments.cleanupCall c
  | retrieve => MainFragments.retrieveCall c.key
  | publish => MainFragments.publishCall c.key

section

variable {h h' : Hook} {key key' : String}

theorem key?_function (h h' : Hook) (key : String) :
    h'.key? (h.function key) = if h = h' then some key else none := by
  cases h <;> cases h' <;> simp [key?, function, opening, Statement.after?]

theorem function_inj (same : h.function key = h'.function key') : h = h' ∧ key = key' := by
  have own := key?_function h h key
  rw [same, key?_function, if_pos rfl] at own
  split at own
  · rename_i eq
    exact ⟨eq.symm, (Option.some.inj own).symm⟩
  · cases own

theorem prototype_fits (h : Hook) (key : String) : (h.prototype key).Fits (h.call key) := by
  have main : itemNames (lexemes "argc,argv") = itemNames (lexemes "int argc,char **argv") ∧
      lexemes "int argc,char **argv" ≠ [.word "void"] ∧ lexemes "void" = [.word "void"] := by
    decide
  cases h
  · exact ⟨by simp [call, prototype, Prototype.parameterNames, main], by simp [call, prototype]⟩
  all_goals
    exact ⟨by simp [call, prototype, Prototype.parameterNames, main, itemNames],
      by simp [call, prototype]⟩

/-- A usable key goes on with a name to its end. -/
theorem scan_function (h : Hook) (usable : MainFragments.isUsableKey key = true) :
    Lexeme.scan [] (h.function key).toList = [.word (h.function key)] := by
  have all := (Statement.usable_chars usable).2
  have opens : h.opening.toList ≠ [] ∧ h.opening.toList.all Statement.isNameChar = true := by
    cases h <;> decide
  refine Lexeme.scan_word (fun none => opens.1 ?_) fun c at_ => ?_
  · have text := congrArg String.toList none
    rw [function, String.toList_append] at text
    exact (List.append_eq_nil_iff.mp text).1
  · rw [function, String.toList_append] at at_
    exact (List.mem_append.mp at_).elim (List.all_eq_true.mp opens.2 c) (all c)

theorem lexemes_initCall {c : StagedCall} (usable : MainFragments.isUsableKey c.key = true) :
    lexemes (MainFragments.initCall c) =
      [.word "init_level", .mark '=', .word (toString c.level), .mark ';', .word "if", .mark '(',
        .mark '(', .word "res", .mark '=', .word (init.function c.key), .mark '(', .word "argc",
        .mark ',', .word "argv", .mark ')', .mark ')', .mark ')', .mark '{', .word "return",
        .word "res", .mark ';', .mark '}'] := by
  -- Cut at the marks beside the level and the name, only fixed pieces are left to evaluate.
  have text : (MainFragments.initCall c).toList = "init_level".toList ++ '=' ::
      ((toString c.level).toList ++ ';' :: (" if((res =".toList ++ ' ' ::
        ((init.function c.key).toList ++ '(' :: "argc,argv))) \x7b return res; \x7d".toList))) := by
    unfold MainFragments.initCall
    simp [function, opening]
  have front : Lexeme.scan [] "init_level".toList = [.word "init_level"] := by decide
  have test : Lexeme.scan [] " if((res =".toList =
      [.word "if", .mark '(', .mark '(', .word "res", .mark '='] := by decide
  have back : Lexeme.scan [] "argc,argv))) \x7b return res; \x7d".toList =
      [.word "argc", .mark ',', .word "argv", .mark ')', .mark ')', .mark ')', .mark '{',
        .word "return", .word "res", .mark ';', .mark '}'] := by decide
  rw [lexemes, text]
  iterate 4 rw [Lexeme.scan_mark (by decide)]
  rw [scan_function init usable, Lexeme.scan_number, front, test, back]
  rfl

theorem lexemes_cleanupCall {c : StagedCall} (usable : MainFragments.isUsableKey c.key = true) :
    lexemes (MainFragments.cleanupCall c) =
      [.word "if", .mark '(', .word "init_level", .mark '>', .mark '=', .word (toString c.level),
        .mark ')', .word (cleanup.function c.key), .mark '(', .mark ')', .mark ';'] := by
  have text : (MainFragments.cleanupCall c).toList = "if(init_level >=".toList ++ ' ' ::
      ((toString c.level).toList ++ ')' :: ("".toList ++ ' ' ::
        ((cleanup.function c.key).toList ++ '(' :: ");".toList))) := by
    unfold MainFragments.cleanupCall
    simp [function, opening]
  have test : Lexeme.scan [] "if(init_level >=".toList =
      [.word "if", .mark '(', .word "init_level", .mark '>', .mark '='] := by decide
  have back : Lexeme.scan [] ");".toList = [.mark ')', .mark ';'] := by decide
  rw [lexemes, text]
  iterate 4 rw [Lexeme.scan_mark (by decide)]
  rw [scan_function cleanup usable, Lexeme.scan_number, test, back]
  rfl

theorem lexemes_plainCall (h : Hook) (usable : MainFragments.isUsableKey key = true) :
    lexemes (h.function key ++ "();") =
      [.word (h.function key), .mark '(', .mark ')', .mark ';'] := by
  have text : (h.function key ++ "();").toList = (h.function key).toList ++ '(' :: ");".toList := by
    simp
  rw [lexemes, text, Lexeme.scan_mark (by decide), scan_function h usable]
  rfl

theorem lexemes_prototypes (usable : MainFragments.isUsableKey key = true) :
    lexemes (MainFragments.prototypes key) = all.flatMap fun h =>
      .word (h.prototype key).result :: .word (h.prototype key).name :: .mark '(' ::
        ((h.prototype key).parameters ++ [.mark ')', .mark ';']) := by
  have text : (MainFragments.prototypes key).toList =
      "int".toList ++ ' ' :: ((init.function key).toList ++ '(' ::
        ("int argc,char **argv);\nvoid".toList ++ ' ' :: ((cleanup.function key).toList ++ '(' ::
          ("void);\nvoid".toList ++ ' ' :: ((retrieve.function key).toList ++ '(' ::
            ("void);\nvoid".toList ++ ' ' :: ((publish.function key).toList ++ '(' ::
              "void);".toList))))))) := by
    unfold MainFragments.prototypes
    simp [function, opening]
  have result : Lexeme.scan [] "int".toList = [.word "int"] := by decide
  have main : Lexeme.scan [] "int argc,char **argv);\nvoid".toList =
      lexemes "int argc,char **argv" ++ [.mark ')', .mark ';', .word "void"] := by decide
  have void : Lexeme.scan [] "void);\nvoid".toList =
      lexemes "void" ++ [.mark ')', .mark ';', .word "void"] := by decide
  have last : Lexeme.scan [] "void);".toList = lexemes "void" ++ [.mark ')', .mark ';'] := by decide
  rw [lexemes, text]
  iterate 8 rw [Lexeme.scan_mark (by decide)]
  rw [scan_function init usable, scan_function cleanup usable, scan_function retrieve usable,
    scan_function publish usable, result, main, void, last]
  simp [all, prototype, Lexeme.ofMark]

theorem function_notControl (h : Hook) (key : String) : h.function key ∉ controlWords := by
  intro at_
  have plain : ∀ word ∈ controlWords, word.toList.head? ≠ some '_' := by decide
  exact plain _ at_ (by cases h <;> simp [function, opening])

/-- A statement makes its call and no other, and nothing of it reaches into the next. -/
theorem callsIn_statement (h : Hook) {c : StagedCall}
    (usable : MainFragments.isUsableKey c.key = true) (rest : List Lexeme) :
    callsIn false (lexemes (h.statement c) ++ rest) = h.call c.key :: callsIn false rest := by
  have test : "if" ∈ controlWords := by decide
  have passed : lexemes "argc,argv" = [.word "argc", .mark ',', .word "argv"] := by decide
  cases h with
  | init =>
    simp [statement, lexemes_initCall usable, callsIn, test, function_notControl, call, passed]
  | cleanup =>
    simp [statement, lexemes_cleanupCall usable, callsIn, test, function_notControl, call]
  | retrieve =>
    have plain := lexemes_plainCall retrieve usable
    change lexemes (MainFragments.retrieveCall c.key) = _ at plain
    simp [statement, plain, callsIn, function_notControl, call]
  | publish =>
    have plain := lexemes_plainCall publish usable
    change lexemes (MainFragments.publishCall c.key) = _ at plain
    simp [statement, plain, callsIn, function_notControl, call]

theorem callsIn_statements (h : Hook) {cs : List StagedCall}
    (usable : ∀ c ∈ cs, MainFragments.isUsableKey c.key = true) :
    callsIn false ((cs.map h.statement).flatMap lexemes) =
      (cs.map StagedCall.key).map h.call := by
  induction cs with
  | nil => rfl
  | cons c rest ih =>
    obtain ⟨first, later⟩ := List.forall_mem_cons.mp usable
    rw [List.map_cons, List.flatMap_cons, callsIn_statement h first, ih later]
    rfl

theorem prototypesIn_prototype (h : Hook) (key : String) (rest : List Lexeme) :
    prototypesIn (.word (h.prototype key).result :: .word (h.prototype key).name :: .mark '(' ::
      ((h.prototype key).parameters ++ [.mark ')', .mark ';'] ++ rest)) =
        h.prototype key :: prototypesIn rest := by
  have main : lexemes "int argc,char **argv" = [.word "int", .word "argc", .mark ',', .word "char",
      .mark '*', .mark '*', .word "argv"] := by decide
  have void : lexemes "void" = [.word "void"] := by decide
  cases h <;> simp [prototype, prototypesIn, main, void]

theorem prototypesIn_prototypes (usable : MainFragments.isUsableKey key = true)
    (rest : List Lexeme) :
    prototypesIn (lexemes (MainFragments.prototypes key) ++ rest) =
      all.map (·.prototype key) ++ prototypesIn rest := by
  rw [lexemes_prototypes usable]
  -- What is read of one prototype does not depend on which others there are.
  generalize all = hooks
  induction hooks with
  | nil => rfl
  | cons h hooks ih =>
    have step := prototypesIn_prototype h key ((hooks.flatMap fun h =>
      .word (h.prototype key).result :: .word (h.prototype key).name :: .mark '(' ::
        ((h.prototype key).parameters ++ [.mark ')', .mark ';'])) ++ rest)
    rw [ih] at step
    simpa using step

end

/-! The functions that are named, and how often. -/

section

variable {h : Hook} {key : String}

theorem name_call (h : Hook) (key : String) : (h.call key).name = h.function key := by
  cases h <;> rfl

theorem name_prototype (h : Hook) (key : String) : (h.prototype key).name = h.function key := by
  cases h <;> rfl

theorem mem_all (h : Hook) : h ∈ all := by
  cases h <;> decide

theorem mem_ordered {keys : List String} : key ∈ h.ordered keys ↔ key ∈ keys := by
  cases h <;> simp [ordered]

theorem ordered_inj {keys keys' : List String} (same : h.ordered keys = h.ordered keys') :
    keys = keys' := by
  cases h <;> simpa [ordered] using same

theorem count_ordered (h : Hook) (key : String) (keys : List String) :
    (h.ordered keys).count key = keys.count key := by
  cases h <;> simp [ordered]

theorem count_function (h other : Hook) (key : String) (keys : List String) :
    (keys.map other.function).count (h.function key) =
      if other = h then keys.count key else 0 := by
  split
  · subst other
    exact List.count_map_of_injective keys h.function (fun _ _ same => (function_inj same).2) key
  · rename_i differ
    refine List.count_eq_zero_of_not_mem fun at_ => ?_
    obtain ⟨_, -, same⟩ := List.mem_map.mp at_
    exact differ (function_inj same).1

/-- Of the four functions of a key, one is of a hook. -/
theorem count_functions (h : Hook) (key : String) (keys : List String) :
    (keys.flatMap fun k => all.map (·.function k)).count (h.function key) = keys.count key := by
  have one (k : String) : (all.map (·.function k)).count (h.function key) = [k].count key := by
    have of (other : Hook) := count_function h other key [k]
    simp only [List.map_cons, List.map_nil] at of
    have split : all.map (·.function k) =
        [init.function k] ++ [cleanup.function k] ++ [retrieve.function k] ++
          [publish.function k] := rfl
    rw [split]
    simp only [List.count_append, of]
    cases h <;> simp
  induction keys with
  | nil => rfl
  | cons k rest ih =>
    rw [List.flatMap_cons, List.count_append, one, ih, ← List.count_append]
    rfl

end

/-- The calls of a plan, in the order in which a hook makes them. -/
def staged (h : Hook) (p : CallPlan) : List StagedCall :=
  match h with
  | init | retrieve => p.initCalls
  | cleanup | publish => p.cleanupCalls

section

variable {p : CallPlan}

theorem map_key_staged (h : Hook) (p : CallPlan) :
    (h.staged p).map StagedCall.key = h.ordered p.keys := by
  cases h
  case init | retrieve => exact p.map_key_initCalls
  case cleanup | publish => exact p.map_key_cleanupCalls

theorem block_ofPlan (h : Hook) (p : CallPlan) :
    h.block (.ofPlan p) = MainFragments.separator.intercalate ((h.staged p).map h.statement) := by
  have forward := p.map_key_initCalls
  have backward := p.map_key_cleanupCalls
  cases h with
  | init => rfl
  | cleanup => rfl
  | retrieve =>
    simp only [block, MainFragments.ofPlan, ← forward, List.map_map]
    rfl
  | publish =>
    simp only [block, MainFragments.ofPlan, ← backward, List.map_map]
    rfl

theorem callsOf_block (h : Hook) (usable : ∀ key ∈ p.keys, MainFragments.isUsableKey key = true) :
    callsOf (h.block (.ofPlan p)) = (h.ordered p.keys).map h.call := by
  have form : MainFragments.separator.toList = '\n' :: [' ', ' ', ' ', ' '] := by decide
  have usableCalls : ∀ c ∈ h.staged p, MainFragments.isUsableKey c.key = true := by
    intro c at_
    have member : c.key ∈ (h.staged p).map StagedCall.key := List.mem_map_of_mem at_
    rw [map_key_staged] at member
    refine usable _ ?_
    cases h
    case init | retrieve => exact member
    case cleanup | publish => exact List.mem_reverse.mp member
  rw [callsOf, block_ofPlan, Lexeme.lexemes_intercalate form (by simp),
    callsIn_statements h usableCalls, map_key_staged]

theorem prototypesOf_ofPlan (usable : ∀ key ∈ p.keys, MainFragments.isUsableKey key = true) :
    prototypesOf (MainFragments.ofPlan p).callsPrototypes =
      p.keys.flatMap fun key => all.map (·.prototype key) := by
  have form : "\n".toList = '\n' :: [] := by decide
  rw [prototypesOf, MainFragments.ofPlan, Lexeme.lexemes_intercalate form (by simp),
    CallPlan.forward]
  generalize p.keys = keys at usable
  induction keys with
  | nil => rfl
  | cons key rest ih =>
    obtain ⟨first, later⟩ := List.forall_mem_cons.mp usable
    rw [List.map_cons, List.flatMap_cons, prototypesIn_prototypes first, ih later]
    rfl

end

end Hook

namespace MainFragments

/-- A key that can stand in the name of a C function. -/
def FitsName (key : String) : Prop :=
  key ≠ "" ∧ ∀ c ∈ key.toList,
    ('A' ≤ c ∧ c ≤ 'Z') ∨ ('a' ≤ c ∧ c ≤ 'z') ∨ ('0' ≤ c ∧ c ≤ '9') ∨ c = '_'

/-- A location that would be called, by a name that cannot be made. -/
def Refuses (l : Location) : Prop :=
  (l.callable = true ∧ l.sources ≠ []) ∧ ¬ FitsName l.key

/-- The keys that the prototypes were made from. -/
def declaredKeys (f : MainFragments) : List String :=
  (prototypesOf f.callsPrototypes).filterMap (Hook.init.key? ·.name)

/-- The keys that the calls of a hook were made from. -/
def calledKeys (f : MainFragments) (h : Hook) : List String :=
  (callsOf (h.block f)).filterMap (h.key? ·.name)

def declaredNames (f : MainFragments) : List String :=
  (prototypesOf f.callsPrototypes).map Prototype.name

def calledNames (f : MainFragments) (h : Hook) : List String :=
  (callsOf (h.block f)).map FunctionCall.name

/-- What the texts declare is what they call. -/
structure Agree (f : MainFragments) : Prop where
  declared : ∀ h : Hook, ∀ c ∈ callsOf (h.block f),
    ∃ p ∈ prototypesOf f.callsPrototypes, p.name = c.name
  fitting : ∀ h : Hook, ∀ c ∈ callsOf (h.block f), ∀ p ∈ prototypesOf f.callsPrototypes,
    p.name = c.name → p.Fits c
  /-- Each function is called by its own hook, once for each time that it is declared. -/
  called : ∀ p ∈ prototypesOf f.callsPrototypes, ∃ h : Hook, (h.key? p.name).isSome = true ∧
    ∀ other, (f.calledNames other).count p.name =
      if other = h then f.declaredNames.count p.name else 0

section

variable {locations locations' : List Location} {f f' : MainFragments} {p : CallPlan}

theorem isUsableKey_iff {key : String} : isUsableKey key = true ↔ FitsName key := by
  have ranges (c : Char) : c.isAlphanum =
      (decide ('A' ≤ c ∧ c ≤ 'Z') || decide ('a' ≤ c) && decide (c ≤ 'z') ||
        decide ('0' ≤ c) && decide (c ≤ '9')) := rfl
  simp only [isUsableKey, FitsName, Bool.and_eq_true, Bool.not_eq_true', List.all_eq_true,
    Bool.or_eq_true, beq_iff_eq, ranges, decide_eq_true_eq]
  refine and_congr (by simp) (forall₂_congr fun c _ => ?_)
  rw [or_assoc, or_assoc]

theorem refuses_iff {l : Location} :
    (l.hasCalls && !isUsableKey l.key) = true ↔ Refuses l := by
  rw [Refuses, ← isUsableKey_iff]
  simp [Location.hasCalls]

/-- The first location that is refused is named. -/
theorem ofLocations_error_iff {e : BuildError} :
    ofLocations locations false = .error e ↔
      ∃ front l back, locations = front ++ l :: back ∧ Refuses l ∧ (∀ l' ∈ front, ¬ Refuses l') ∧
        e = .extraction (.unusableKey l.key) := by
  have search : (callableKeys locations).find? (fun key => !isUsableKey key) =
      (locations.find? fun l => l.hasCalls && !isUsableKey l.key).map Location.key := by
    simp [callableKeys, List.find?_map, List.find?_filter]
  have first {l : Location} : locations.find? (fun l => l.hasCalls && !isUsableKey l.key) = some l ↔
      ∃ front back, locations = front ++ l :: back ∧ Refuses l ∧ ∀ l' ∈ front, ¬ Refuses l' := by
    simp only [List.find?_eq_some_iff_append, Bool.not_eq_true', ← refuses_iff,
      Bool.not_eq_true]
    exact ⟨fun ⟨here, front, back, at_, before⟩ => ⟨front, back, at_, here, before⟩,
      fun ⟨front, back, at_, here, before⟩ => ⟨here, front, back, at_, before⟩⟩
  simp only [ofLocations, Bool.false_eq_true, if_false, search]
  cases found : locations.find? fun l => l.hasCalls && !isUsableKey l.key with
  | none =>
    have accepted : ∀ l ∈ locations, ¬ Refuses l := fun l at_ refused =>
      List.find?_eq_none.mp found l at_ (refuses_iff.mpr refused)
    simp only [Option.map_none, reduceCtorEq, false_iff]
    rintro ⟨front, l, back, rfl, refused, -⟩
    exact accepted l (by simp) refused
  | some l =>
    obtain ⟨front, back, at_, refused, before⟩ := first.mp found
    simp only [Option.map_some, Except.error.injEq]
    constructor
    · rintro rfl
      exact ⟨front, l, back, at_, refused, before, rfl⟩
    · rintro ⟨front', l', back', at_', refused', before', rfl⟩
      have same := first.mpr ⟨front', back', at_', refused', before'⟩
      rw [found, Option.some.injEq] at same
      rw [same]

/-- A location that is not called is not looked at. -/
theorem callableKeys_insert {l : Location} (plain : ¬ (l.callable = true ∧ l.sources ≠ []))
    (front back : List Location) : callableKeys (front ++ l :: back) = callableKeys (front ++ back) := by
  have off : l.hasCalls = false := by simpa [Location.hasCalls] using plain
  simp [callableKeys, off]

theorem ofLocations_congr (same : callableKeys locations = callableKeys locations') :
    ofLocations locations false = ofLocations locations' false := by
  simp only [ofLocations, same]

theorem calledNames_ofPlan (usable : ∀ key ∈ p.keys, isUsableKey key = true) (h : Hook) :
    (ofPlan p).calledNames h = (h.ordered p.keys).map h.function := by
  rw [calledNames, Hook.callsOf_block h usable, List.map_map]
  simp [Function.comp_def, Hook.name_call]

theorem declaredNames_ofPlan (usable : ∀ key ∈ p.keys, isUsableKey key = true) :
    (ofPlan p).declaredNames = p.keys.flatMap fun key => Hook.all.map (·.function key) := by
  rw [declaredNames, Hook.prototypesOf_ofPlan usable, List.map_flatMap]
  simp [Function.comp_def, Hook.name_prototype]

theorem calledKeys_ofPlan (usable : ∀ key ∈ p.keys, isUsableKey key = true) (h : Hook) :
    (ofPlan p).calledKeys h = h.ordered p.keys := by
  rw [calledKeys, Hook.callsOf_block h usable, List.filterMap_map]
  simp [Hook.name_call, Hook.key?_function]

theorem declaredKeys_ofPlan (usable : ∀ key ∈ p.keys, isUsableKey key = true) :
    (ofPlan p).declaredKeys = p.keys := by
  rw [declaredKeys, Hook.prototypesOf_ofPlan usable, List.filterMap_flatMap]
  simp [Hook.all, Hook.name_prototype, Hook.key?_function]

theorem agree_ofPlan (usable : ∀ key ∈ p.keys, isUsableKey key = true) : (ofPlan p).Agree where
  declared h c at_ := by
    rw [Hook.callsOf_block h usable] at at_
    obtain ⟨key, member, rfl⟩ := List.mem_map.mp at_
    refine ⟨h.prototype key, ?_, by rw [Hook.name_prototype, Hook.name_call]⟩
    rw [Hook.prototypesOf_ofPlan usable]
    exact List.mem_flatMap.mpr
      ⟨key, Hook.mem_ordered.mp member, List.mem_map_of_mem (Hook.mem_all h)⟩
  fitting h c called q declared same := by
    rw [Hook.callsOf_block h usable] at called
    rw [Hook.prototypesOf_ofPlan usable] at declared
    obtain ⟨key, -, rfl⟩ := List.mem_map.mp called
    obtain ⟨key', -, of⟩ := List.mem_flatMap.mp declared
    obtain ⟨h', -, rfl⟩ := List.mem_map.mp of
    rw [Hook.name_prototype, Hook.name_call] at same
    obtain ⟨rfl, rfl⟩ := Hook.function_inj same
    exact h'.prototype_fits key'
  called q declared := by
    rw [Hook.prototypesOf_ofPlan usable] at declared
    obtain ⟨key, -, of⟩ := List.mem_flatMap.mp declared
    obtain ⟨h, -, rfl⟩ := List.mem_map.mp of
    refine ⟨h, by simp [Hook.name_prototype, Hook.key?_function], fun other => ?_⟩
    rw [calledNames_ofPlan usable, declaredNames_ofPlan usable, Hook.name_prototype,
      Hook.count_function, Hook.count_functions, Hook.count_ordered]

theorem readBack (made : ofLocations locations false = .ok f) :
    f.declaredKeys = callableKeys locations ∧
      ∀ h, f.calledKeys h = h.ordered (callableKeys locations) := by
  obtain ⟨rfl, usable⟩ := ofLocations_ok made
  exact ⟨declaredKeys_ofPlan (p := ⟨callableKeys locations⟩) usable,
    calledKeys_ofPlan (p := ⟨callableKeys locations⟩) usable⟩

/-- The texts of a main source are refused for the first key that cannot name a function, and for
no other reason. They come of the keys that are called alone; the keys are read back from each of
them; and what they declare is what they call. -/
theorem ofLocations_wellFormed (locations : List Location) :
    (∀ e, ofLocations locations false = .error e ↔
      ∃ front l back, locations = front ++ l :: back ∧ Refuses l ∧ (∀ l' ∈ front, ¬ Refuses l') ∧
        e = .extraction (.unusableKey l.key)) ∧
    (∀ locations', callableKeys locations' = callableKeys locations →
      ofLocations locations' false = ofLocations locations false) ∧
    (∀ front l back, locations = front ++ l :: back → ¬ (l.callable = true ∧ l.sources ≠ []) →
      ofLocations (front ++ back) false = ofLocations locations false ∧
      ∀ l' : Location, ¬ (l'.callable = true ∧ l'.sources ≠ []) →
        ofLocations (front ++ l' :: back) false = ofLocations locations false) ∧
    ∀ f, ofLocations locations false = .ok f →
      f.Agree ∧
      f.declaredKeys = callableKeys locations ∧
      (∀ h, f.calledKeys h = h.ordered (callableKeys locations)) ∧
      ∀ locations' f', ofLocations locations' false = .ok f' →
        callableKeys locations' ≠ callableKeys locations →
          f'.callsPrototypes ≠ f.callsPrototypes ∧ ∀ h : Hook, h.block f' ≠ h.block f := by
  refine ⟨fun e => ofLocations_error_iff, fun locations' => ofLocations_congr, ?_, ?_⟩
  · rintro front l back rfl plain
    have without := callableKeys_insert plain front back
    refine ⟨ofLocations_congr without.symm, fun l' plain' => ofLocations_congr ?_⟩
    rw [callableKeys_insert plain', without]
  · intro f made
    obtain ⟨declared, called⟩ := readBack made
    refine ⟨?_, declared, called, fun locations' f' made' differ => ?_⟩
    · obtain ⟨rfl, usable⟩ := ofLocations_ok made
      exact agree_ofPlan usable
    · obtain ⟨declared', called'⟩ := readBack made'
      refine ⟨fun same => differ ?_, fun h same => differ ?_⟩
      · rw [← declared', declaredKeys, same, ← declaredKeys, declared]
      · have both : f'.calledKeys h = f.calledKeys h := by rw [calledKeys, same, ← calledKeys]
        rw [called, called'] at both
        exact Hook.ordered_inj both

end

end MainFragments
end PlcModule
