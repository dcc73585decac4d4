import PlcModule.Glue.MainSource
import PlcModule.Proofs.Text.Entries

/-! The calls of a main source, read back as the statements that they are and run. However
starting ends, cleaning up calls for what was started, in reverse, and for nothing else. -/
namespace PlcModule

namespace Statement

/-- The text after a word that stands in front. -/
def after? (word : String) (text : List Char) : Option (List Char) :=
  if word.toList.isPrefixOf text then some (text.drop word.toList.length) else none

/-- The decimal number in front, and the text after it. -/
def number? (text : List Char) : Option (Nat × List Char) :=
  match text.takeWhile Char.isDigit with
  | [] => none
  | digits => some (Nat.ofDigitChars 10 digits 0, text.dropWhile Char.isDigit)

def isNameChar (c : Char) : Bool :=
  c.isAlphanum || c == '_'

/-- The part of a function's name in front, and the text after it. -/
def name? (text : List Char) : Option (String × List Char) :=
  match text.takeWhile isNameChar with
  | [] => none
  | name => some (String.ofList name, text.dropWhile isNameChar)

/-- Reads a statement that calls a function of a key. -/
def call? (front back : String) (text : List Char) : Option String := do
  let rest ← after? front text
  let (key, rest) ← name? rest
  if rest = back.toList then some key else none

/-- Reads a statement that names a level and then calls a function of a key. -/
def staged? (front middle back : String) (text : List Char) : Option StagedCall := do
  let rest ← after? front text
  let (level, rest) ← number? rest
  let key ← call? middle back rest
  some ⟨level, key⟩

def init? (text : String) : Option StagedCall :=
  staged? "init_level=" "; if((res = __init_" "(argc,argv))) \x7b return res; \x7d" text.toList

def cleanup? (text : String) : Option StagedCall :=
  staged? "if(init_level >= " ") __cleanup_" "();" text.toList

def retrieve? (text : String) : Option String :=
  call? "__retrieve_" "();" text.toList

def publish? (text : String) : Option String :=
  call? "__publish_" "();" text.toList

/-- Reads a block of statements, one a line. -/
def block? {α : Type} (read : String → Option α) (text : String) : Option (List α) :=
  (Text.entries MainFragments.separator text).mapM read

/-- Runs the statements of a start from a level. Each sets the level and makes its call; the first
call with a result other than zero ends the run. Answers the last level and the calls. -/
def runInit (result : Nat → Int) (level : Nat) : List StagedCall → Nat × List StagedCall
  | [] => (level, [])
  | c :: rest =>
    if result 0 ≠ 0 then (c.level, [c])
    else
      let (last, made) := runInit (fun i => result (i + 1)) c.level rest
      (last, c :: made)

/-- Runs the statements of a cleanup. Each makes its call if the level has come as far. -/
def runCleanup (level : Nat) (statements : List StagedCall) : List StagedCall :=
  statements.filter fun c => c.level ≤ level

section

variable {α : Type} {key : String} {rest : List Char}

theorem after?_append (word : String) (rest : List Char) :
    after? word (word.toList ++ rest) = some rest := by
  simp [after?]

theorem takeWhile_stop {p : Char → Bool} {front : List Char} (all : ∀ c ∈ front, p c = true)
    (stop : rest.head?.any p = false) :
    (front ++ rest).takeWhile p = front ∧ (front ++ rest).dropWhile p = rest := by
  rw [List.takeWhile_append_of_pos all, List.dropWhile_append_of_pos all]
  cases rest with
  | nil => simp
  | cons c rest =>
    have off : p c = false := stop
    simp [off]

theorem number?_append (n : Nat) (stop : rest.head?.any Char.isDigit = false) :
    number? ((toString n).toList ++ rest) = some (n, rest) := by
  have digits : (toString n).toList = Nat.toDigits 10 n := by simp [Nat.toString_eq_repr, Nat.repr]
  have all : ∀ c ∈ Nat.toDigits 10 n, c.isDigit = true := fun c at_ =>
    Nat.isDigit_of_mem_toDigits (by decide) (by decide) at_
  obtain ⟨taken, dropped⟩ := takeWhile_stop all stop
  obtain ⟨d, ds, eq⟩ := List.exists_cons_of_ne_nil (Nat.toDigits_ne_nil (n := n) (b := 10))
  have value := Nat.ofDigitChars_ten_toDigits (n := n)
  rw [eq] at taken dropped value
  rw [digits, eq, number?, taken, dropped]
  simp only [value]

theorem usable_chars (usable : MainFragments.isUsableKey key = true) :
    key.toList ≠ [] ∧ ∀ c ∈ key.toList, isNameChar c = true := by
  simpa [MainFragments.isUsableKey, isNameChar] using usable

theorem name?_append (usable : MainFragments.isUsableKey key = true)
    (stop : rest.head?.any isNameChar = false) : name? (key.toList ++ rest) = some (key, rest) := by
  obtain ⟨filled, all⟩ := usable_chars usable
  obtain ⟨taken, dropped⟩ := takeWhile_stop all stop
  obtain ⟨c, cs, eq⟩ := List.exists_cons_of_ne_nil filled
  have whole : String.ofList (c :: cs) = key := by rw [← eq, String.ofList_toList]
  rw [eq] at taken dropped
  rw [eq, name?, taken, dropped]
  simp only [whole]

theorem call?_append (usable : MainFragments.isUsableKey key = true) (front back : String)
    (stop : back.toList.head?.any isNameChar = false) :
    call? front back (front.toList ++ (key.toList ++ back.toList)) = some key := by
  simp [call?, after?_append, name?_append usable stop]

/-- A level and a key of a call are read back from its statement. -/
theorem staged?_append {c : StagedCall} (usable : MainFragments.isUsableKey c.key = true)
    (front : String) {middle back : String} (stop : back.toList.head?.any isNameChar = false)
    (stop' : middle.toList.head?.any Char.isDigit = false) (filled : middle ≠ "") :
    staged? front middle back
      (front ++ toString c.level ++ middle ++ c.key ++ back).toList = some c := by
  obtain ⟨d, ds, eq⟩ := List.exists_cons_of_ne_nil (l := middle.toList) (by simpa using filled)
  have stop' : (middle.toList ++ (c.key.toList ++ back.toList)).head?.any Char.isDigit = false := by
    rw [eq] at stop' ⊢
    exact stop'
  simp only [staged?, String.toList_append, List.append_assoc, after?_append,
    Option.bind_eq_bind, Option.bind_some, number?_append c.level stop', call?_append usable middle back stop]

end

theorem init?_initCall {c : StagedCall} (usable : MainFragments.isUsableKey c.key = true) :
    init? (MainFragments.initCall c) = some c :=
  staged?_append usable _ (by decide) (by decide) (by decide)

theorem cleanup?_cleanupCall {c : StagedCall} (usable : MainFragments.isUsableKey c.key = true) :
    cleanup? (MainFragments.cleanupCall c) = some c :=
  staged?_append usable _ (by decide) (by decide) (by decide)

theorem retrieve?_retrieveCall {key : String} (usable : MainFragments.isUsableKey key = true) :
    retrieve? (MainFragments.retrieveCall key) = some key := by
  simpa [retrieve?, MainFragments.retrieveCall] using
    call?_append usable "__retrieve_" "();" (by decide)

theorem publish?_publishCall {key : String} (usable : MainFragments.isUsableKey key = true) :
    publish? (MainFragments.publishCall key) = some key := by
  simpa [publish?, MainFragments.publishCall] using
    call?_append usable "__publish_" "();" (by decide)

/-- A statement that can be read is found again in a block, and with it what it says. -/
theorem block?_intercalate {α : Type} {read : String → Option α} {write : α → String}
    {statements : List α} (oneLine : ∀ a ∈ statements, Text.IsOneLine (write a))
    (readBack : ∀ a ∈ statements, read (write a) = some a) :
    block? read (MainFragments.separator.intercalate (statements.map write)) = some statements := by
  have found : Text.entries MainFragments.separator
      (MainFragments.separator.intercalate (statements.map write)) = statements.map write := by
    refine Text.entries_intercalate (by decide) fun line at_ => ?_
    obtain ⟨a, member, rfl⟩ := List.mem_map.mp at_
    exact oneLine a member
  rw [block?, found]
  clear found
  induction statements with
  | nil => rfl
  | cons a rest ih =>
    obtain ⟨first, others⟩ := List.forall_mem_cons.mp readBack
    simp [first, ih (fun a at_ => oneLine a (List.mem_cons_of_mem _ at_)) others]

/-! A usable key stays on its line, as a number does, so each call is a line. -/

theorem not_mem_usable {key : String} (usable : MainFragments.isUsableKey key = true) :
    '\n' ∉ key.toList := by
  intro at_
  exact absurd ((usable_chars usable).2 _ at_) (by decide)

section

variable {c : StagedCall} {key : String}

theorem isOneLine_initCall (usable : MainFragments.isUsableKey c.key = true) :
    Text.IsOneLine (MainFragments.initCall c) := by
  have level : Text.IsOneLine ("init_level=" ++ toString c.level) :=
    Text.IsOneLine.append (by decide) (Text.not_mem_number c.level)
  have called := (level.append (by decide : '\n' ∉ "; if((res = __init_".toList)).append
    (not_mem_usable usable)
  exact called.append (by decide)

theorem isOneLine_cleanupCall (usable : MainFragments.isUsableKey c.key = true) :
    Text.IsOneLine (MainFragments.cleanupCall c) := by
  have level : Text.IsOneLine ("if(init_level >= " ++ toString c.level) :=
    Text.IsOneLine.append (by decide) (Text.not_mem_number c.level)
  have called := (level.append (by decide : '\n' ∉ ") __cleanup_".toList)).append
    (not_mem_usable usable)
  exact called.append (by decide)

theorem isOneLine_retrieveCall (usable : MainFragments.isUsableKey key = true) :
    Text.IsOneLine (MainFragments.retrieveCall key) := by
  have called : Text.IsOneLine ("__retrieve_" ++ key) :=
    Text.IsOneLine.append (by decide) (not_mem_usable usable)
  exact called.append (by decide)

theorem isOneLine_publishCall (usable : MainFragments.isUsableKey key = true) :
    Text.IsOneLine (MainFragments.publishCall key) := by
  have called : Text.IsOneLine ("__publish_" ++ key) :=
    Text.IsOneLine.append (by decide) (not_mem_usable usable)
  exact called.append (by decide)

end

/-- The levels of the calls rise, from above a level on. -/
def RisesFrom (level : Nat) (calls : List StagedCall) : Prop :=
  (∀ c ∈ calls, level < c.level) ∧ calls.Pairwise fun c d => c.level < d.level

theorem runInit_prefix (result : Nat → Int) (level : Nat) (calls : List StagedCall) :
    (runInit result level calls).2 <+: calls := by
  induction calls generalizing result level with
  | nil => exact List.nil_prefix
  | cons c rest ih =>
    by_cases failed : result 0 ≠ 0
    · simp [runInit, failed]
    · simpa [runInit, failed] using ih (fun i => result (i + 1)) c.level

/-- The calls that a start makes are those whose level is not above its last one. -/
theorem runInit_level (result : Nat → Int) {level : Nat} {calls : List StagedCall}
    (rises : RisesFrom level calls) :
    level ≤ (runInit result level calls).1 ∧
      calls.filter (fun c => c.level ≤ (runInit result level calls).1) =
        (runInit result level calls).2 := by
  induction calls generalizing result level with
  | nil => simp [runInit]
  | cons c rest ih =>
    obtain ⟨above, ordered⟩ := rises
    obtain ⟨later, ordered⟩ := List.pairwise_cons.mp ordered
    have here : level < c.level := above c List.mem_cons_self
    by_cases failed : result 0 ≠ 0
    · have none : rest.filter (fun d => d.level ≤ c.level) = [] := by
        refine List.filter_eq_nil_iff.mpr fun d at_ => ?_
        have := later d at_
        simp only [decide_eq_true_eq]
        omega
      simp only [runInit, if_pos failed]
      refine ⟨by omega, ?_⟩
      rw [List.filter_cons_of_pos (by simp), none]
    · obtain ⟨least, made⟩ := ih (fun i => result (i + 1)) ⟨later, ordered⟩
      simp only [runInit, if_neg failed]
      refine ⟨by omega, ?_⟩
      rw [List.filter_cons_of_pos (by simpa using least), made]

end Statement

theorem CallPlan.initCalls_rises (p : CallPlan) : Statement.RisesFrom 0 p.initCalls := by
  constructor
  · intro c at_
    obtain ⟨i, h, rfl⟩ := List.mem_mapIdx.mp at_
    exact Nat.succ_pos i
  · refine List.pairwise_iff_getElem.mpr fun i j hi hj before => ?_
    simp only [CallPlan.initCalls, List.getElem_mapIdx]
    omega

namespace MainFragments

theorem ofLocations_ok {locations : List Location} {f : MainFragments}
    (made : ofLocations locations false = .ok f) :
    f = ofPlan ⟨callableKeys locations⟩ ∧ ∀ key ∈ callableKeys locations, isUsableKey key = true := by
  simp only [ofLocations, Bool.false_eq_true, if_false] at made
  split at made
  · cases made
  · rename_i none
    refine ⟨(Except.ok.inj made).symm, fun key at_ => ?_⟩
    have := List.find?_eq_none.mp none key at_
    simpa using this

/-- However starting ends, cleaning up calls exactly for what was started, in reverse, and
publishing calls in the reverse order of retrieving. -/
theorem cleanup_undoes_init {locations : List Location} {f : MainFragments}
    (made : ofLocations locations false = .ok f) :
    ∃ inits cleanups : List StagedCall,
      Statement.block? Statement.init? f.initCalls = some inits ∧
      Statement.block? Statement.cleanup? f.cleanupCalls = some cleanups ∧
      inits = (callableKeys locations).mapIdx (fun i key => ⟨i + 1, key⟩) ∧
      (∀ result : Nat → Int,
        (Statement.runInit result 0 inits).2 <+: inits ∧
        Statement.runCleanup (Statement.runInit result 0 inits).1 cleanups =
          (Statement.runInit result 0 inits).2.reverse) ∧
      Statement.runCleanup 0 cleanups = [] ∧
      Statement.block? Statement.retrieve? f.retrieveCalls = some (callableKeys locations) ∧
      Statement.block? Statement.publish? f.publishCalls = some (callableKeys locations).reverse := by
  obtain ⟨rfl, usable⟩ := ofLocations_ok made
  let plan : CallPlan := ⟨callableKeys locations⟩
  have usableCall : ∀ c ∈ plan.initCalls, isUsableKey c.key = true := by
    intro c at_
    have : c.key ∈ plan.initCalls.map StagedCall.key := List.mem_map_of_mem at_
    rw [plan.map_key_initCalls] at this
    exact usable _ this
  have usableCleanup : ∀ c ∈ plan.cleanupCalls, isUsableKey c.key = true := by
    intro c at_
    exact usableCall c (List.mem_reverse.mp at_)
  have usableBackward : ∀ key ∈ plan.backward, isUsableKey key = true := by
    intro key at_
    exact usable key (List.mem_reverse.mp at_)
  refine ⟨plan.initCalls, plan.cleanupCalls, ?_, ?_, rfl, fun result => ?_, ?_, ?_, ?_⟩
  · exact Statement.block?_intercalate
      (fun c at_ => Statement.isOneLine_initCall (usableCall c at_))
      (fun c at_ => Statement.init?_initCall (usableCall c at_))
  · exact Statement.block?_intercalate
      (fun c at_ => Statement.isOneLine_cleanupCall (usableCleanup c at_))
      (fun c at_ => Statement.cleanup?_cleanupCall (usableCleanup c at_))
  · obtain ⟨-, started⟩ := Statement.runInit_level result plan.initCalls_rises
    refine ⟨Statement.runInit_prefix result 0 plan.initCalls, ?_⟩
    rw [Statement.runCleanup, CallPlan.cleanupCalls, List.filter_reverse, started]
  · rw [Statement.runCleanup, List.filter_eq_nil_iff]
    intro c at_
    have := plan.initCalls_rises.1 c (List.mem_reverse.mp at_)
    simp only [decide_eq_true_eq]
    omega
  · exact Statement.block?_intercalate
      (fun key at_ => Statement.isOneLine_retrieveCall (usable key at_))
      (fun key at_ => Statement.retrieve?_retrieveCall (usable key at_))
  · exact Statement.block?_intercalate
      (fun key at_ => Statement.isOneLine_publishCall (usableBackward key at_))
      (fun key at_ => Statement.publish?_publishCall (usableBackward key at_))

/-- Four extensions of which two share a key. -/
def sharedKey : List Location :=
  ["io", "can", "io", "net"].map fun key => ⟨key, true, [⟨⟨key ++ ".c"⟩, ""⟩]⟩

/-- The third of four starts fails. It is cleaned up after, then the two before it; the last one,
which was not started, is not. -/
theorem third_init_fails :
    ∃ f, ofLocations sharedKey false = .ok f ∧
      ∃ inits cleanups,
        Statement.block? Statement.init? f.initCalls = some inits ∧
        Statement.block? Statement.cleanup? f.cleanupCalls = some cleanups ∧
        Statement.runCleanup (Statement.runInit (fun i => if i = 2 then 5 else 0) 0 inits).1 cleanups =
          [⟨3, "io"⟩, ⟨2, "can"⟩, ⟨1, "io"⟩] := by
  have made : ofLocations sharedKey false = .ok (ofPlan ⟨["io", "can", "io", "net"]⟩) := by
    decide +kernel
  obtain ⟨inits, cleanups, readInits, readCleanups, rfl, run, -⟩ := cleanup_undoes_init made
  obtain ⟨-, undone⟩ := run fun i => if i = 2 then 5 else 0
  refine ⟨_, made, _, cleanups, readInits, readCleanups, ?_⟩
  rw [undone]
  decide

end MainFragments
end PlcModule
