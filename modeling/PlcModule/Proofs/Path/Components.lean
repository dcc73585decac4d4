import PlcModule.Proofs.FileTree.Parents

/-! Paths that are joined, and their components. Below a directory a text adds the components of its
own pieces, and a plain name adds one. Joining is associative, text for text, and a path never loses
components by it. -/
namespace PlcModule.Path

/-- A text below which another piece starts: nothing stands before it, or a separator does. -/
def Opens (cs : List Char) : Prop :=
  cs = [] ∨ cs.getLast? = some '/'

theorem components_opened {cs : List Char} (opens : Opens cs) {name : List Char} (plain : '/' ∉ name) :
    (Text.splitAt '/' (cs ++ name)).filterMap pieceComponent =
      (Text.splitAt '/' cs).filterMap pieceComponent ++ (pieceComponent name).toList := by
  have alone : Text.splitAt '/' name = [name] := Text.splitAt_of_not_mem plain
  have idle : pieceComponent [] = none := rfl
  have single : ([name] : List (List Char)).filterMap pieceComponent = (pieceComponent name).toList := by
    cases named : pieceComponent name <;> simp [named]
  rcases opens with rfl | ends
  · simp [alone, single, Text.splitAt, idle]
  · obtain ⟨front, rfl⟩ : ∃ front, cs = front ++ ['/'] :=
      ⟨_, (List.dropLast_append_getLast? '/' (by simpa using ends)).symm⟩
    have whole := Text.splitAt_append '/' front []
    have more := Text.splitAt_append '/' front name
    simp [whole, more, alone, single, Text.splitAt, idle]

theorem child_opens {name : String} (plain : IsPlainName name) (dir : Path) :
    ∃ front, Opens front ∧ (dir.child name).text.toList = front ++ name.toList ∧
      (front = dir.text.toList ∨ front = dir.text.toList ++ ['/'] ∧ dir.text ≠ "") := by
  have relative := FileTree.isAbsolute_plain plain
  unfold child join
  by_cases empty : dir.text = ""
  · exact ⟨[], .inl rfl, by simp [relative, empty], .inl (by simp [empty])⟩
  have filled : dir.text.isEmpty = false := by simpa using empty
  simp only [relative, filled, Bool.or_self, Bool.false_eq_true, if_false]
  split
  · rename_i ends
    exact ⟨_, .inr ends, by simp, .inl rfl⟩
  · exact ⟨dir.text.toList ++ ['/'], .inr (by simp), by simp, .inr ⟨rfl, empty⟩⟩

/-- The start of a text that is more than a dot tells where the pieces begin, whatever comes after. -/
theorem cut_opened {front : List Char} (filled : front ≠ []) (more : front ≠ ['.']) :
    ∃ start rest, (Opens front → Opens rest) ∧
      ∀ (p : Path) (back : List Char), p.text.toList = front ++ back →
        p.cut = (start, Text.splitAt '/' (rest ++ back)) := by
  obtain ⟨c, tail, rfl⟩ := List.exists_cons_of_ne_nil filled
  by_cases root : c = '/'
  · subst root
    refine ⟨['/'], tail, fun opens => ?_, fun p back text => by simp [cut, text]⟩
    cases tail with
    | nil => exact .inl rfl
    | cons d tail => exact .inr (by simpa [Opens] using opens)
  by_cases dot : c = '.'
  · subst dot
    obtain ⟨d, tail, rfl⟩ := List.exists_cons_of_ne_nil (l := tail) (by simpa using more)
    by_cases here : d = '/'
    · subst here
      exact ⟨['.'], '/' :: tail, fun opens => .inr (by simpa [Opens] using opens),
        fun p back text => by simp [cut, text]⟩
    · exact ⟨[], '.' :: d :: tail, id, fun p back text => by simp [cut, text, here]⟩
  · exact ⟨[], c :: tail, id, fun p back text => by simp [cut, text, root, dot]⟩

/-- An entry of a directory is one component below it. -/
theorem components_child {name : String} (plain : IsPlainName name) (dir : Path) :
    (dir.child name).components = dir.components ++ [.name name] := by
  have filled : name.toList ≠ [] := by simpa using plain.1
  have here : name.toList ≠ ['.'] := fun eq => plain.2.2.1 (String.toList_inj.mp eq)
  have up : name.toList ≠ ['.', '.'] := fun eq => plain.2.2.2 (String.toList_inj.mp eq)
  have piece : pieceComponent name.toList = some (.name name) := by
    simp [pieceComponent, isIdle, filled, here, up]
  have idle : pieceComponent [] = none := rfl
  have alone : Text.splitAt '/' name.toList = [name.toList] := Text.splitAt_of_not_mem plain.2.1
  obtain ⟨front, opens, text, sort⟩ := child_opens plain dir
  by_cases empty : dir.text = ""
  · obtain rfl : front = [] := by simpa [empty] using sort
    have cutDir : dir.cut = ([], [[]]) := by simp [cut, empty, Text.splitAt]
    have cutName : (dir.child name).cut = ([], [name.toList]) := by
      rw [List.nil_append] at text
      rcases (dir.child name).cut_cases with ⟨rest, root, -⟩ | ⟨dot, -⟩ | ⟨rest, dot, -⟩ | ⟨-, cut⟩
      · rw [text] at root
        exact absurd (root ▸ List.mem_cons_self) plain.2.1
      · exact absurd (text.symm.trans dot) here
      · rw [text] at dot
        exact absurd (dot ▸ List.mem_cons_of_mem _ List.mem_cons_self) plain.2.1
      · rw [cut, text, alone]
    simp [components, cutDir, cutName, piece, idle]
  have filledDir : dir.text.toList ≠ [] := by simpa using empty
  by_cases dot : dir.text.toList = ['.']
  · obtain rfl : front = ['.', '/'] := by
      rcases sort with rfl | ⟨rfl, -⟩
      · simp [dot, Opens] at opens
      · rw [dot]; rfl
    simp [components, cut, dot, text, Text.splitAt, alone, piece, idle]
  obtain ⟨start, rest, after, cuts⟩ := cut_opened filledDir dot
  have cutDir := cuts dir [] (by simp)
  rcases sort with rfl | ⟨rfl, -⟩
  · have cutChild := cuts _ _ text
    simp [components, cutDir, cutChild, components_opened (after opens) plain.2.1, piece]
  · have cutChild := cuts _ ('/' :: name.toList) (by simpa using text)
    simp [components, cutDir, cutChild, Text.splitAt_append, alone, piece]

/-- The text that a relative path is put behind. -/
def opened (p : Path) : String :=
  if p.text.isEmpty || p.text.toList.getLast? = some '/' then p.text else p.text ++ "/"

theorem join_relative {q : Path} (relative : q.isAbsolute = false) (p : Path) :
    p.join q = ⟨p.opened ++ q.text⟩ := by
  by_cases empty : p.text = ""
  · simp [join, opened, relative, empty]
  · by_cases ends : p.text.toList.getLast? = some '/' <;> simp [join, opened, relative, empty, ends]

theorem opened_join {q : Path} (relative : q.isAbsolute = false) (p : Path) :
    (p.join q).opened = p.opened ++ q.opened := by
  rw [join_relative relative]
  by_cases empty : q.text = ""
  · by_cases none : p.text = ""
    · simp [opened, none, empty]
    · by_cases ends : p.text.toList.getLast? = some '/' <;> simp [opened, none, ends, empty]
  · have filled : q.text.toList ≠ [] := by simpa using empty
    have last : (p.opened ++ q.text).toList.getLast? = q.text.toList.getLast? := by
      rw [String.toList_append, List.getLast?_append_of_ne_nil _ filled]
    rw [opened, last]
    by_cases ends : q.text.toList.getLast? = some '/' <;>
      simp [opened, empty, ends, String.append_assoc]

/-- A path seen from a directory that is itself seen from another is seen from both joined. -/
theorem join_assoc (p q r : Path) : p.join (q.join r) = (p.join q).join r := by
  cases root : r.isAbsolute with
  | true => simp only [join_absolute _ _ root]
  | false =>
    have whole := FileTree.isAbsolute_join q r root
    cases middle : q.isAbsolute with
    | true => rw [join_absolute _ _ (whole.trans middle), join_absolute _ _ middle]
    | false =>
      rw [join_relative (whole.trans middle), join_relative root, join_relative root,
        opened_join middle, String.append_assoc]

/-- Below a directory the pieces of a text are all that it adds. -/
theorem components_below {dir rest : List Char} (filled : dir ≠ []) {p : Path}
    (text : p.text.toList = dir ++ '/' :: rest) :
    p.components = (Path.mk (String.ofList dir)).components ++
      (Text.splitAt '/' rest).filterMap pieceComponent := by
  by_cases dot : dir = ['.']
  · subst dot
    have idle : pieceComponent [] = none := rfl
    simp [components, cut, text, Text.splitAt, idle]
  · obtain ⟨start, after, -, cuts⟩ := cut_opened filled dot
    have here := cuts ⟨String.ofList dir⟩ [] (by simp)
    have below := cuts p _ text
    simp [components, here, below, Text.splitAt_append]

theorem splitAt_cons {separator c : Char} (other : c ≠ separator) (cs : List Char) :
    ∃ piece pieces, Text.splitAt separator cs = piece :: pieces ∧
      Text.splitAt separator (c :: cs) = (c :: piece) :: pieces := by
  obtain ⟨piece, pieces, split⟩ := List.exists_cons_of_ne_nil (Text.splitAt_ne_nil separator cs)
  exact ⟨piece, pieces, split, by simp [Text.splitAt, other, split]⟩

/-- Only the empty path has no component. -/
theorem components_ne_nil {p : Path} (filled : p.text ≠ "") : p.components ≠ [] := by
  obtain ⟨c, cs, text⟩ := List.exists_cons_of_ne_nil (l := p.text.toList) (by simpa using filled)
  -- A path that starts otherwise than with a root or a dot has a name or `..` for its first piece.
  have named {piece : List Char} {pieces : List (List Char)} (cut : p.cut = ([], piece :: pieces))
      (busy : isIdle piece = false) : p.components ≠ [] := by
    obtain ⟨component, named⟩ : ∃ component, pieceComponent piece = some component := by
      by_cases up : piece = ['.', '.']
      · exact ⟨.up, by simp [up, pieceComponent, isIdle]⟩
      · exact ⟨.name (String.ofList piece), by simp [pieceComponent, busy, up]⟩
    simp [components, cut, named]
  by_cases root : c = '/'
  · subst root
    simp [components, cut, text, startComponents]
  obtain ⟨piece, pieces, tail, split⟩ := splitAt_cons root cs
  by_cases dot : c = '.'
  · subst dot
    cases cs with
    | nil => simp [components, cut, text, startComponents]
    | cons d ds =>
      by_cases here : d = '/'
      · subst here
        simp [components, cut, text, startComponents]
      · obtain ⟨piece', pieces', -, split'⟩ := splitAt_cons here ds
        rw [tail, List.cons.injEq] at split'
        obtain ⟨rfl, rfl⟩ := split'
        have pieces : p.cut = ([], Text.splitAt '/' ('.' :: d :: ds)) := by simp [cut, text, here]
        exact named (pieces.trans (by rw [split])) (by simp [isIdle])
  · have pieces : p.cut = ([], Text.splitAt '/' (c :: cs)) := by simp [cut, text, root, dot]
    exact named (pieces.trans (by rw [split])) (by simp [isIdle, dot])

/-- A relative path is its pieces, but for a dot in front. -/
theorem length_components_le {p : Path} (relative : p.isAbsolute = false) :
    p.components.length ≤
      ((Text.splitAt '/' p.text.toList).filterMap pieceComponent).length + 1 := by
  have idle : pieceComponent [] = none := rfl
  have dot : pieceComponent ['.'] = none := rfl
  rcases p.cut_cases with ⟨rest, text, -⟩ | ⟨text, cut⟩ | ⟨rest, text, cut⟩ | ⟨-, cut⟩
  · simp [isAbsolute, text] at relative
  · simp [components, cut, text, startComponents]
  · simp [components, cut, text, startComponents, Text.splitAt, idle, dot]
  · simp [components, cut, startComponents]

/-- Seen from anywhere a path has no fewer components. -/
theorem length_components_join (p q : Path) :
    q.components.length ≤ (p.join q).components.length := by
  cases root : q.isAbsolute with
  | true => rw [join_absolute _ _ root]
  | false =>
    by_cases empty : p.text = ""
    · simp [join, empty]
    have pieces := length_components_le root
    obtain ⟨dir, text⟩ : ∃ dir, (p.join q).text.toList = dir ++ '/' :: q.text.toList := by
      rw [join_relative root]
      by_cases ends : p.text.toList.getLast? = some '/'
      · obtain ⟨dir, eq⟩ : ∃ dir, p.text.toList = dir ++ ['/'] :=
          ⟨_, (List.dropLast_append_getLast? '/' (by simpa using ends)).symm⟩
        exact ⟨dir, by simp [opened, eq]⟩
      · exact ⟨p.text.toList, by simp [opened, empty, ends]⟩
    by_cases top : dir = []
    · subst top
      simpa [components, cut, text, startComponents] using pieces
    · have filled : (Path.mk (String.ofList dir)).components ≠ [] :=
        components_ne_nil (by simpa using top)
      have := List.length_pos_iff.mpr filled
      rw [components_below top text, List.length_append]
      omega

end PlcModule.Path
