import MiniDocker.Limits.Resources

/-! # The build-file parser

`parse_image_file` strips every line, skips blank lines and comments, joins a line ending in
a backslash to the next kept line (the backslash becomes a space), and splits each joined
line into an upper-cased keyword and its arguments. The joined text pending at the end of the
file is never split: an instruction whose last line ends in a backslash is dropped
(`parseImageFile_eq`).
-/

namespace MiniDocker.Image
open MiniDocker.Limits
set_option autoImplicit false

/-- `s.split("\n")`. -/
def splitNewlines : List Char → List (List Char)
  | [] => [[]]
  | '\n' :: cs => [] :: splitNewlines cs
  | c :: cs =>
    match splitNewlines cs with
    | l :: ls => (c :: l) :: ls
    | [] => [[c]]

/-- `s.split(None, 1)`: the first word and what follows the blanks after it, or nothing when
`s` is blank. -/
def splitWord (cs : List Char) : Option (List Char × List Char) :=
  match cs.dropWhile isPySpace with
  | [] => none
  | c :: r => some (c :: r.takeWhile (!isPySpace ·), (r.dropWhile (!isPySpace ·)).dropWhile isPySpace)

/-- The instruction of a joined line: `parts[0].upper()` and `parts[1]`, empty when absent. -/
def parseInstruction (cur : List Char) : Option (String × String) :=
  (splitWord cur).map fun p => (String.mk (pyUpper p.1), String.mk p.2)

/-- A stripped line that `parse_image_file` skips: blank, or a comment. -/
def skipped (stripped : List Char) : Bool := stripped = [] || stripped.head? = some '#'

/-- A stripped line that continues into the next one. -/
def endsBackslash (stripped : List Char) : Bool := stripped.getLast? = some '\\'

/-- `parse_image_file(content)`. -/
def parseImageFile (content : String) : List (String × String) :=
  loop (splitNewlines content.toList) []
where
  /-- The loop over the lines, with `current_line`. -/
  loop : List (List Char) → List Char → List (String × String)
    | [], _ => []
    | line :: lines, cur =>
      let stripped := strip line
      if skipped stripped then loop lines cur
      else if endsBackslash stripped then loop lines (cur ++ stripped.dropLast ++ [' '])
      else
        match parseInstruction (cur ++ stripped) with
        | some p => p :: loop lines []
        | none => loop lines []

/-! ## The logical lines -/

/-- The stripped lines that are neither blank nor comments. -/
def keptLines (content : String) : List (List Char) :=
  ((splitNewlines content.toList).map strip).filter (!skipped ·)

/-- Maximal groups of lines in which every line but the last ends in a backslash; the last
group may end in one. -/
def groupLines : List (List Char) → List (List (List Char))
  | [] => []
  | l :: ls =>
    if endsBackslash l then
      match groupLines ls with
      | g :: gs => (l :: g) :: gs
      | [] => [[l]]
    else [l] :: groupLines ls

/-- One line of a group, its trailing backslash replaced by a space. -/
def joinPiece (l : List Char) : List Char := if endsBackslash l then l.dropLast ++ [' '] else l

/-- A group joined into one logical line. -/
def joinGroup (g : List (List Char)) : List Char := (g.map joinPiece).flatten

/-- A group whose last line ends without a backslash. -/
def complete (g : List (List Char)) : Bool := !(g.getLast?.map endsBackslash).getD false

/-- One instruction per logical line, the last group included. -/
def logicalInstructions (content : String) : List (String × String) :=
  (groupLines (keptLines content)).filterMap (parseInstruction ∘ joinGroup)

theorem groupLines_backslashes {p : List (List Char)} (hp : ∀ l ∈ p, endsBackslash l = true)
    (s : List Char) (hs : endsBackslash s = false) (ls : List (List Char)) :
    groupLines (p ++ s :: ls) = (p ++ [s]) :: groupLines ls := by
  induction p with
  | nil => simp [groupLines, hs]
  | cons l p ih =>
    rw [List.cons_append, groupLines, if_pos (hp l (List.mem_cons_self _ _)),
      ih fun l' hl' => hp l' (List.mem_cons_of_mem _ hl')]
    rfl

theorem complete_groupLines_backslashes {p : List (List Char)}
    (hp : ∀ l ∈ p, endsBackslash l = true) : (groupLines p).filter complete = [] := by
  induction p with
  | nil => rfl
  | cons l p ih =>
    have hl := hp l (List.mem_cons_self _ _)
    have ih := ih fun l' hl' => hp l' (List.mem_cons_of_mem _ hl')
    rw [groupLines, if_pos hl]
    split
    · next g gs h =>
      rw [h, List.filter_cons] at ih
      split at ih
      · cases ih
      · next hg =>
        have hg' : complete (l :: g) = false := by
          cases g with
          | nil => simp [complete, hl]
          | cons x g => simpa [complete] using hg
        rw [List.filter_cons, hg', if_neg (by simp)]
        simpa using ih
    · simp [complete, hl]

theorem joinGroup_append (p : List (List Char)) (s : List Char) :
    joinGroup (p ++ [s]) = joinGroup p ++ joinPiece s := by
  simp [joinGroup]

theorem loop_eq (lines : List (List Char)) :
    ∀ (p : List (List Char)), (∀ l ∈ p, endsBackslash l = true) →
      parseImageFile.loop lines (joinGroup p) =
        ((groupLines (p ++ (lines.map strip).filter (!skipped ·))).filter complete).filterMap
          (parseInstruction ∘ joinGroup) := by
  induction lines with
  | nil =>
    intro p hp
    simp [parseImageFile.loop, complete_groupLines_backslashes hp]
  | cons line lines ih =>
    intro p hp
    rw [parseImageFile.loop, List.map_cons]
    by_cases hsk : skipped (strip line) = true
    · rw [if_pos hsk, List.filter_cons_of_neg (by simp [hsk])]
      exact ih p hp
    · rw [if_neg hsk, List.filter_cons_of_pos (by simpa using hsk)]
      by_cases hb : endsBackslash (strip line) = true
      · have hp' : ∀ l ∈ p ++ [strip line], endsBackslash l = true :=
          List.forall_mem_append.2 ⟨hp, List.forall_mem_singleton.2 hb⟩
        rw [if_pos hb, show joinGroup p ++ (strip line).dropLast ++ [' '] =
            joinGroup (p ++ [strip line]) by simp [joinGroup_append, joinPiece, hb],
          ih (p ++ [strip line]) hp']
        simp
      · have hb' : endsBackslash (strip line) = false := by simpa using hb
        rw [if_neg hb, groupLines_backslashes hp _ hb', List.filter_cons,
          if_pos (by simp [complete, hb'])]
        have hj : joinGroup (p ++ [strip line]) = joinGroup p ++ strip line := by
          simp [joinGroup_append, joinPiece, hb']
        have ih' := ih [] (by simp)
        simp only [List.nil_append, joinGroup, List.map_nil, List.flatten_nil] at ih'
        rw [List.filterMap_cons, Function.comp_apply, hj]
        split <;> simp_all [joinGroup]

/-- `parse_image_file` yields one instruction for every complete group of kept lines. -/
theorem parseImageFile_eq (content : String) :
    parseImageFile content =
      ((groupLines (keptLines content)).filter complete).filterMap (parseInstruction ∘ joinGroup) :=
  loop_eq _ [] (by simp)

theorem groupLines_eq_nil {ls : List (List Char)} : groupLines ls = [] ↔ ls = [] := by
  cases ls with
  | nil => simp [groupLines]
  | cons l ls =>
    simp only [groupLines, reduceCtorEq, iff_false]
    split
    · split <;> simp
    · simp

theorem complete_cons {l : List Char} {g : List (List Char)} (hg : g ≠ []) :
    complete (l :: g) = complete g := by
  simp [complete, List.getLast?_cons, List.getLast?_eq_getLast g hg]

/-- The groups are not empty, every group but the last is complete, and the last group is
complete exactly when the last line ends without a backslash. -/
theorem groupLines_spec : ∀ ls : List (List Char),
    (∀ g ∈ groupLines ls, g ≠ []) ∧ (∀ g ∈ (groupLines ls).dropLast, complete g = true) ∧
      (groupLines ls).getLast?.map complete = ls.getLast?.map (!endsBackslash ·)
  | [] => by simp [groupLines]
  | [l] => by by_cases hl : endsBackslash l <;> simp [groupLines, hl, complete]
  | l :: l' :: ls => by
    obtain ⟨hne, hdrop, hlast⟩ := groupLines_spec (l' :: ls)
    obtain ⟨g, gs, hgg⟩ := List.exists_cons_of_ne_nil
      (by simp [groupLines_eq_nil] : groupLines (l' :: ls) ≠ [])
    rw [hgg] at hne hdrop hlast
    have hg : g ≠ [] := hne g (List.mem_cons_self _ _)
    rw [List.getLast?_cons_cons, ← hlast, groupLines, hgg]
    split
    · -- `l` ends in a backslash and opens the first group
      refine ⟨List.forall_mem_cons.2 ⟨List.cons_ne_nil _ _,
        fun g' h => hne g' (List.mem_cons_of_mem _ h)⟩, ?_, ?_⟩
      · cases gs with
        | nil => simp
        | cons g₂ gs =>
          simp only [List.dropLast_cons₂, List.forall_mem_cons] at hdrop ⊢
          exact ⟨(complete_cons hg).trans hdrop.1, hdrop.2⟩
      · cases gs <;> simp [complete_cons hg, List.getLast?_cons_cons]
    · -- `l` is a group of its own
      next hl =>
      refine ⟨List.forall_mem_cons.2 ⟨List.cons_ne_nil _ _, hne⟩, ?_, by simp [List.getLast?_cons_cons]⟩
      simp only [List.dropLast_cons₂, List.forall_mem_cons]
      exact ⟨by simpa [complete] using hl, hdrop⟩

theorem filter_of_dropLast {β : Type} {p : β → Bool} {l : List β}
    (h : ∀ x ∈ l.dropLast, p x = true) :
    l.filter p = if l.getLast?.map p = some false then l.dropLast else l := by
  rcases List.eq_nil_or_concat l with rfl | ⟨l', x, rfl⟩
  · rfl
  · simp only [List.concat_eq_append, List.dropLast_concat] at h ⊢
    rw [List.filter_append, List.filter_eq_self.2 h, List.getLast?_concat]
    by_cases hx : p x <;> simp [hx]

/-- `parse_image_file` yields the instructions of the logical lines the build-file format
describes, one per group of kept lines, except that when the file's last kept line ends in a
backslash, the instruction of the last group is dropped. -/
theorem parseImageFile_logical (content : String) :
    parseImageFile content =
      if (keptLines content).getLast?.map endsBackslash = some true then
        ((groupLines (keptLines content)).dropLast).filterMap (parseInstruction ∘ joinGroup)
      else logicalInstructions content := by
  obtain ⟨-, hdrop, hlast⟩ := groupLines_spec (keptLines content)
  rw [parseImageFile_eq, filter_of_dropLast hdrop, hlast, logicalInstructions]
  cases (keptLines content).getLast? with
  | none => rfl
  | some x => by_cases hx : endsBackslash x <;> simp [hx]

/-- A build file whose last line continues: its `RUN` instruction is a logical line, and
`parse_image_file` drops it. -/
example :
    parseImageFile "FROM base\nRUN make \\" = [("FROM", "base")] ∧
      logicalInstructions "FROM base\nRUN make \\" = [("FROM", "base"), ("RUN", "make  ")] := by
  decide

end MiniDocker.Image
