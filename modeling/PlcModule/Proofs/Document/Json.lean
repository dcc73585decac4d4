import PlcModule.Document.Json

/-! What JSON documents hold. They have no way to write a date, so no date is in the value of one. -/
namespace PlcModule.Document

/-- No date is in a value. -/
inductive Value.Dateless : Value → Prop where
  | null : Dateless .null
  | boolean (b : Bool) : Dateless (.boolean b)
  | number (spelling : String) : Dateless (.number spelling)
  | text (reading : Option String) : Dateless (.text reading)
  | list {items : List Value} (each : ∀ v ∈ items, Dateless v) : Dateless (.list items)
  | record {fields : List (Option String × Value)} (each : ∀ x ∈ fields, Dateless x.2) :
    Dateless (.record fields)

theorem Value.Dateless.plain {v : Value} (h : v.Dateless) (spelling : String) : v ≠ .date spelling := by
  rintro rfl
  cases h

namespace Json

def Lexeme.Dateless (lexeme : Lexeme) : Prop :=
  ∀ v, lexeme = .atom v → v.Dateless

theorem word?_dateless {cs rest : List Char} {v : Value} (h : word? cs = some (v, rest)) :
    v.Dateless := by
  unfold word? at h
  split at h
  · cases h
    exact .null
  · cases h
    exact .boolean true
  · cases h
    exact .boolean false
  · obtain ⟨x, -, same⟩ := Option.map_eq_some_iff.mp h
    cases same
    exact .number _

theorem punctuation?_dateless {c : Char} {lexeme : Lexeme} (h : punctuation? c = some lexeme) :
    lexeme.Dateless := by
  rintro v rfl
  unfold punctuation? at h
  split at h <;> cases h

theorem lex_dateless {done lexemes : List Lexeme} {cs : List Char} (h : lex done cs = some lexemes)
    (before : ∀ l ∈ done, l.Dateless) : ∀ l ∈ lexemes, l.Dateless := by
  fun_induction lex done cs with
  | case1 done =>
    cases h
    simpa using before
  | case2 done c rest space ih => exact ih h before
  | case3 done rest units tail read _ ih =>
    refine ih h (List.forall_mem_cons.mpr ⟨?_, before⟩)
    rintro v ⟨⟩
    exact .text _
  | case4 => cases h
  | case5 done c rest space quote lexeme mark ih =>
    exact ih h (List.forall_mem_cons.mpr ⟨punctuation?_dateless mark, before⟩)
  | case6 done c rest space quote mark value tail word ih =>
    refine ih h (List.forall_mem_cons.mpr ⟨?_, before⟩)
    rintro v ⟨⟩
    exact word?_dateless word
  | case7 => cases h

/-- No date is in what an open list or record holds so far. -/
def Frame.Dateless : Frame → Prop
  | .list done => ∀ v ∈ done, v.Dateless
  | .record done => ∀ x ∈ done, x.2.Dateless
  | .field done _ => ∀ x ∈ done, x.2.Dateless

structure Machine.Dateless (m : Machine) : Prop where
  stack : ∀ f ∈ m.stack, f.Dateless
  done : ∀ v, m.need = .done v → v.Dateless

theorem Machine.complete_dateless {v : Value} {stack : List Frame} (value : v.Dateless)
    (frames : ∀ f ∈ stack, f.Dateless) : (complete v stack).Dateless := by
  cases stack with
  | nil =>
    refine ⟨frames, fun w same => ?_⟩
    cases same
    exact value
  | cons frame outer =>
    obtain ⟨here, outer⟩ := List.forall_mem_cons.mp frames
    cases frame with
    | list done =>
      exact ⟨List.forall_mem_cons.mpr ⟨List.forall_mem_cons.mpr ⟨value, here⟩, outer⟩, nofun⟩
    | record done => exact ⟨frames, nofun⟩
    | field done name =>
      exact ⟨List.forall_mem_cons.mpr ⟨List.forall_mem_cons.mpr ⟨value, here⟩, outer⟩, nofun⟩

/-- One lexeme brings no date. -/
theorem Machine.take_dateless {m m' : Machine} {lexeme : Lexeme} (h : m.take lexeme = some m')
    (before : m.Dateless) (brought : lexeme.Dateless) : m'.Dateless := by
  obtain ⟨stack, need⟩ := m
  obtain ⟨frames, -⟩ := before
  have closeList {done : List Value} {outer : List Frame}
      (opened : ∀ f ∈ Frame.list done :: outer, f.Dateless) :
      (complete (.list done.reverse) outer).Dateless := by
    obtain ⟨here, outer⟩ := List.forall_mem_cons.mp opened
    exact complete_dateless (.list fun v at_ => here v (List.mem_reverse.mp at_)) outer
  have closeRecord {done : List (Option String × Value)} {outer : List Frame}
      (opened : ∀ f ∈ Frame.record done :: outer, f.Dateless) :
      (complete (.record done.reverse) outer).Dateless := by
    obtain ⟨here, outer⟩ := List.forall_mem_cons.mp opened
    exact complete_dateless (.record fun x at_ => here x (List.mem_reverse.mp at_)) outer
  unfold take at h
  split at h <;> cases h
  case h_1 => exact complete_dateless (brought _ rfl) frames
  case h_2 => exact ⟨List.forall_mem_cons.mpr ⟨by simp [Frame.Dateless], frames⟩, nofun⟩
  case h_3 => exact ⟨List.forall_mem_cons.mpr ⟨by simp [Frame.Dateless], frames⟩, nofun⟩
  case h_4 top => exact closeList (top ▸ frames)
  case h_5 => exact ⟨frames, nofun⟩
  case h_6 top => exact closeRecord (top ▸ frames)
  case h_7 top =>
    -- A field is open on what its record held.
    obtain ⟨here, outer⟩ := List.forall_mem_cons.mp (top ▸ frames)
    exact ⟨List.forall_mem_cons.mpr ⟨here, outer⟩, nofun⟩
  case h_8 top => exact ⟨top ▸ frames, nofun⟩
  case h_9 top => exact ⟨top ▸ frames, nofun⟩
  case h_10 top => exact closeList (top ▸ frames)
  case h_11 top => exact closeRecord (top ▸ frames)

theorem Machine.foldlM_dateless {m m' : Machine} {lexemes : List Lexeme}
    (h : lexemes.foldlM take m = some m') (before : m.Dateless)
    (brought : ∀ l ∈ lexemes, l.Dateless) : m'.Dateless := by
  induction lexemes generalizing m with
  | nil =>
    cases h
    exact before
  | cons l rest ih =>
    obtain ⟨here, brought⟩ := List.forall_mem_cons.mp brought
    rw [List.foldlM_cons] at h
    obtain ⟨next, taken, h⟩ := Option.bind_eq_some_iff.mp h
    exact ih h (take_dateless taken before here) brought

theorem parse_dateless {s : String} {v : Value} (h : parse s = some v) : v.Dateless := by
  obtain ⟨lexemes, lexed, h⟩ := Option.bind_eq_some_iff.mp h
  obtain ⟨last, run, h⟩ := Option.bind_eq_some_iff.mp h
  have start : Machine.start.Dateless := ⟨fun _ none => (by cases none), nofun⟩
  have done := Machine.foldlM_dateless run start (lex_dateless lexed fun _ none => (by cases none))
  split at h
  · rename_i need
    cases h
    exact done.done v need
  · cases h

end Json
end PlcModule.Document
