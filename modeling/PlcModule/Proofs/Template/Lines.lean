import PlcModule.Proofs.Template.Writing

/-! Templates line by line. No mark goes over the end of a line, and what is read after the end of a
line does not hang on what came before it. So a template is rendered as its lines are, each on its
own, and the first line that cannot be rendered decides the error. -/
namespace PlcModule.Template

/-- A mark is written on one line. -/
theorem Mark.newline_notMem_text (m : Mark) : '\n' ∉ m.text := by
  cases m with
  | placeholder key word =>
    have plain : '\n' ∉ key := fun at_ => by simpa [Text.not_isWord_delimiters] using word.2 _ at_
    simp [text, plain]
  | percent => simp [text]

/-- A mark that begins on a line ends on it. -/
theorem beginsMarked_of_line {line back : List Char}
    (marked : Decomposition.BeginsMarked (line ++ '\n' :: back)) :
    Decomposition.BeginsMarked line := by
  obtain ⟨m, begins⟩ := marked
  refine ⟨m, ?_⟩
  rcases List.prefix_or_prefix_of_prefix begins (List.prefix_append line ('\n' :: back)) with
    within | ⟨more, beyond⟩
  · exact within
  · rw [← beyond, List.prefix_append_right_inj] at begins
    cases more with
    | nil => simp [← beyond]
    | cons c more =>
      obtain ⟨rfl, -⟩ := List.cons_prefix_cons.mp begins
      exact absurd (beyond ▸ List.mem_append_right line List.mem_cons_self) m.newline_notMem_text

/-- Reading goes on after the end of a line as from the start of a text. -/
theorem scan_line (line back : List Char) :
    Token.scan (line ++ '\n' :: back) = Token.scan line ++ .plain '\n' :: Token.scan back := by
  by_cases marked : Decomposition.BeginsMarked line
  · obtain ⟨m, tail, rfl⟩ := marked
    have shorter : tail.length < (m.text ++ tail).length := by
      have := List.length_pos_iff.mpr m.text_ne_nil
      rw [List.length_append]
      omega
    rw [List.append_assoc, Token.scan_mark, Token.scan_mark, scan_line tail back]
    rfl
  · have whole : ¬ Decomposition.BeginsMarked (line ++ '\n' :: back) := fun marked' =>
      marked (beginsMarked_of_line marked')
    cases line with
    | nil =>
      rw [List.nil_append] at whole ⊢
      rw [Token.scan_unmarked whole, Token.scan]
      rfl
    | cons c tail =>
      rw [List.cons_append] at whole ⊢
      rw [Token.scan_unmarked whole, Token.scan_unmarked marked, scan_line tail back]
      rfl
termination_by line.length

section

variable {path : Path} {line back : String}

theorem tokens_line : (Template.mk path (line ++ "\n" ++ back)).tokens =
    (Template.mk path line).tokens ++ .plain '\n' :: (Template.mk path back).tokens := by
  simpa [tokens] using scan_line line.toList back.toList

theorem keys_line : (Template.mk path (line ++ "\n" ++ back)).keys =
    (Template.mk path line).keys ++ (Template.mk path back).keys := by
  rw [keys, tokens_line, List.filterMap_append, List.map_append]
  rfl

theorem render_line (values : Values) : (Template.mk path (line ++ "\n" ++ back)).render values =
    match (Template.mk path line).render values, (Template.mk path back).render values with
    | .error e, _ => .error e
    | .ok _, .error e => .error e
    | .ok here, .ok later => .ok (here ++ "\n" ++ later) := by
  simp only [render, keys_line, tokens_line, List.find?_append]
  cases (Template.mk path line).keys.find? fun key => (values.lookup key).isNone with
  | some key => rfl
  | none =>
    cases (Template.mk path back).keys.find? fun key => (values.lookup key).isNone with
    | some key => rfl
    | none => simp [Token.render, ← String.toList_inj]

end

/-- The renderings of two texts, of which the first ends a line, stand one after the other as the
texts do, and the error of the first goes before that of the second. So the lines of a template are
rendered one by one: what a line says has no part in how another line is rendered. -/
theorem render_lines (path : Path) (values : Values) :
    (∀ line back : String, (Template.mk path (line ++ "\n" ++ back)).render values =
      match (Template.mk path line).render values, (Template.mk path back).render values with
      | .error e, _ => .error e
      | .ok _, .error e => .error e
      | .ok here, .ok later => .ok (here ++ "\n" ++ later)) ∧
    ∀ lines : List String, (Template.mk path ("\n".intercalate lines)).render values =
      (lines.mapM fun line => (Template.mk path line).render values).map "\n".intercalate := by
  refine ⟨fun line back => render_line values, fun lines => ?_⟩
  induction lines with
  | nil => simp [render, keys, tokens, Token.scan, Except.map, pure, Except.pure]
  | cons line rest ih =>
    cases rest with
    | nil =>
      rw [List.mapM_cons, List.mapM_nil]
      cases rendered : (Template.mk path line).render values <;>
        simp [rendered, Except.map, bind, Except.bind, pure, Except.pure]
    | cons next rest =>
      rw [String.intercalate_cons_cons, render_line, ih]
      simp only [List.mapM_cons]
      cases (Template.mk path line).render values with
      | error e => rfl
      | ok here =>
        cases (Template.mk path next).render values with
        | error e => rfl
        | ok later =>
          cases rest.mapM fun line => (Template.mk path line).render values with
          | error e => rfl
          | ok others => exact congrArg Except.ok (String.intercalate_cons_cons ..).symm

end PlcModule.Template
