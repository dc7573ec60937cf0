import MiniDocker.Image.BuildFile

/-! # The container log

`ContainerLogger.write(data)` appends one line `<ts> <line>\n` for every non-empty piece of
`data.split("\n")`, `ts` being the time of the call. `read_logs` opens the file in text mode,
where `\r\n` and a lone `\r` read as `\n`, splits it with `readlines` and strips the newline of
each line; only with `timestamps=False` does it drop the text up to the first blank.
`print_logs` calls it with that argument left at its default `True`. So what `print_logs`
prints still carries the stored timestamps, and with `timestamps=True` it puts a second one in
front (`printLogs_written`).
-/

namespace MiniDocker.Logs
open MiniDocker.Image
set_option autoImplicit false

/-- What `ContainerLogger.write(data, timestamp=True)` appends at the time `ts`. -/
def write (ts data : List Char) : List Char :=
  ((splitNewlines data).filter (· ≠ [])).flatMap fun line => ts ++ ' ' :: line ++ ['\n']

/-- The log after the writes `ws` into a new file, each write a time and the data written. -/
def logText (ws : List (List Char × List Char)) : List Char := ws.flatMap fun w => write w.1 w.2

/-- Reading in text mode: `\r\n` and a lone `\r` read as `\n`. -/
def translateNewlines : List Char → List Char
  | '\r' :: '\n' :: cs => '\n' :: translateNewlines cs
  | '\r' :: cs => '\n' :: translateNewlines cs
  | c :: cs => c :: translateNewlines cs
  | [] => []

/-- `f.readlines()` of the text read; `acc` holds the line being read, reversed. -/
def readlines : List Char → List Char → List (List Char)
  | [], acc => if acc = [] then [] else [acc.reverse]
  | '\n' :: cs, acc => ('\n' :: acc).reverse :: readlines cs []
  | c :: cs, acc => readlines cs (c :: acc)

/-- `line.rstrip("\n")`. -/
def rstripNewline (line : List Char) : List Char := (line.reverse.dropWhile (· = '\n')).reverse

/-- `line.split(" ", 1)[1]` when the line holds a blank, else the line. -/
def dropFirstWord (line : List Char) : List Char :=
  match line.span (· ≠ ' ') with
  | (_, _ :: rest) => rest
  | _ => line

/-- `lines[-tail:]` when `tail` is positive, else every line. -/
def tailLines (tail : Option Int) (lines : List (List Char)) : List (List Char) :=
  match tail with
  | some n => if 0 < n then lines.drop (lines.length - n.toNat) else lines
  | none => lines

/-- `read_logs(id, tail=tail, timestamps=timestamps)` without `follow`, on the log's text. -/
def readLogs (text : List Char) (tail : Option Int) (timestamps : Bool) : List (List Char) :=
  (tailLines tail (readlines (translateNewlines text) [])).map fun line =>
    rstripNewline (if timestamps then line else dropFirstWord line)

/-- The lines `print_logs(id, tail=tail, timestamps=timestamps)` prints; `stamp i` is the time
it prints before the line at place `i`. -/
def printLogs (text : List Char) (tail : Option Int) (timestamps : Bool)
    (stamp : Nat → List Char) : List (List Char) :=
  (readLogs text tail true).enum.map fun p =>
    if timestamps then stamp p.1 ++ 'Z' :: ' ' :: p.2 else p.2

/-- The lines the log format describes: a timestamp, a blank and the line, for every non-empty
line of every write. -/
def logLines (ws : List (List Char × List Char)) : List (List Char) :=
  ws.flatMap fun w => ((splitNewlines w.2).filter (· ≠ [])).map (w.1 ++ ' ' :: ·)

/-! ## Writing and reading back -/

theorem logText_eq (ws : List (List Char × List Char)) :
    logText ws = (logLines ws).flatMap (· ++ ['\n']) := by
  simp only [logText, write, logLines, List.flatMap_assoc, List.flatMap_map, List.append_assoc,
    List.cons_append]

theorem mem_splitNewlines : ∀ {cs : List Char}, ∀ l ∈ splitNewlines cs, ∀ c ∈ l,
    c ∈ cs ∧ c ≠ '\n'
  | [] => by simp [splitNewlines]
  | c :: cs => by
    by_cases hc : c = '\n'
    · subst hc
      simp only [splitNewlines, List.mem_cons]
      rintro l (rfl | hl) x hx
      · cases hx
      · exact ⟨.inr (mem_splitNewlines l hl x hx).1, (mem_splitNewlines l hl x hx).2⟩
    · have ih := @mem_splitNewlines cs
      rw [splitNewlines.eq_3 _ _ hc]
      split
      · next l' ls h =>
        rw [h] at ih
        simp only [List.mem_cons] at ih ⊢
        rintro l (rfl | hl) x hx
        · rcases List.mem_cons.1 hx with rfl | hx
          · exact ⟨.inl rfl, hc⟩
          · exact ⟨.inr (ih l' (.inl rfl) x hx).1, (ih l' (.inl rfl) x hx).2⟩
        · exact ⟨.inr (ih l (.inr hl) x hx).1, (ih l (.inr hl) x hx).2⟩
      · simp only [List.mem_singleton]
        rintro l rfl x hx
        rw [List.mem_singleton] at hx
        subst hx
        exact ⟨List.mem_cons_self _ _, hc⟩

theorem translateNewlines_of_not_mem : ∀ {cs : List Char}, '\r' ∉ cs → translateNewlines cs = cs
  | [], _ => rfl
  | c :: cs, h => by
    have hc : c ≠ '\r' := fun he => h (he ▸ List.mem_cons_self _ _)
    rw [translateNewlines.eq_3 _ _ (fun _ he => absurd he hc) hc,
      translateNewlines_of_not_mem fun hm => h (.tail _ hm)]

theorem readlines_append {x : List Char} (hx : '\n' ∉ x) :
    ∀ (acc rest : List Char),
      readlines (x ++ '\n' :: rest) acc = (acc.reverse ++ x ++ ['\n']) :: readlines rest [] := by
  induction x with
  | nil => intro acc rest; simp [readlines]
  | cons c x ih =>
    intro acc rest
    have hc : c ≠ '\n' := fun he => hx (he ▸ List.mem_cons_self _ _)
    rw [List.cons_append, readlines.eq_3 _ _ _ hc, ih (fun hm => hx (.tail _ hm))]
    simp

theorem readlines_lines : ∀ {L : List (List Char)}, (∀ l ∈ L, '\n' ∉ l) →
    readlines (L.flatMap (· ++ ['\n'])) [] = L.map (· ++ ['\n'])
  | [], _ => rfl
  | l :: L, h => by
    rw [List.flatMap_cons, List.append_assoc, List.singleton_append,
      readlines_append (h l (List.mem_cons_self _ _)),
      readlines_lines fun l' hl' => h l' (.tail _ hl')]
    simp

theorem rstripNewline_append {y : List Char} (hy : '\n' ∉ y) : rstripNewline (y ++ ['\n']) = y := by
  rw [rstripNewline, List.reverse_append, List.reverse_singleton, List.singleton_append,
    List.dropWhile_cons_of_pos (by simp)]
  cases h : y.reverse with
  | nil => simpa using h
  | cons a r =>
    have ha : a ≠ '\n' := fun he => hy (List.mem_reverse.1 (h ▸ he ▸ List.mem_cons_self _ _))
    rw [List.dropWhile_cons_of_neg (by simpa using ha), ← h, List.reverse_reverse]

theorem tailLines_map (tail : Option Int) (f : List Char → List Char) (ls : List (List Char)) :
    tailLines tail (ls.map f) = (tailLines tail ls).map f := by
  cases tail with
  | none => rfl
  | some n => simp only [tailLines, List.length_map]; split <;> simp [List.map_drop]

theorem mem_tailLines {tail : Option Int} {ls : List (List Char)} {l : List Char}
    (h : l ∈ tailLines tail ls) : l ∈ ls := by
  cases tail with
  | none => exact h
  | some n =>
    simp only [tailLines] at h
    split at h
    · exact List.mem_of_mem_drop h
    · exact h

/-- The lines of the log have no line break when neither the times nor the data have one. -/
theorem logLines_no_break {ws : List (List Char × List Char)}
    (hts : ∀ w ∈ ws, '\n' ∉ w.1 ∧ '\r' ∉ w.1) (hd : ∀ w ∈ ws, '\r' ∉ w.2) :
    ∀ l ∈ logLines ws, '\n' ∉ l ∧ '\r' ∉ l := by
  simp only [logLines, List.mem_flatMap, List.mem_map, List.mem_filter]
  rintro l ⟨w, hw, line, ⟨hline, -⟩, rfl⟩
  have hc := mem_splitNewlines line hline
  refine ⟨?_, ?_⟩ <;> simp only [List.mem_append, List.mem_cons, not_or]
  · exact ⟨(hts w hw).1, by decide, fun h => (hc _ h).2 rfl⟩
  · exact ⟨(hts w hw).2, by decide, fun h => hd w hw (hc _ h).1⟩

/-- After writes whose times and data hold no `\r` and whose times hold no `\n`,
`print_logs(id, tail=tail)` prints the lines of the log format, the stored timestamp and its
blank included, and `print_logs(id, tail=tail, timestamps=True)` prints each of them after a
second timestamp and a `Z`. -/
theorem printLogs_written (ws : List (List Char × List Char))
    (hts : ∀ w ∈ ws, '\n' ∉ w.1 ∧ '\r' ∉ w.1) (hd : ∀ w ∈ ws, '\r' ∉ w.2)
    (tail : Option Int) (stamp : Nat → List Char) :
    printLogs (logText ws) tail false stamp = tailLines tail (logLines ws) ∧
    printLogs (logText ws) tail true stamp =
      (tailLines tail (logLines ws)).enum.map fun p => stamp p.1 ++ 'Z' :: ' ' :: p.2 := by
  have hl := logLines_no_break hts hd
  have hr : '\r' ∉ logText ws := by
    simp only [logText_eq, List.mem_flatMap, List.mem_append, List.mem_singleton, not_exists,
      not_and, not_or]
    exact fun l hm => ⟨(hl l hm).2, by decide⟩
  have hread : readLogs (logText ws) tail true = tailLines tail (logLines ws) := by
    rw [readLogs, translateNewlines_of_not_mem hr, logText_eq,
      readlines_lines fun l hm => (hl l hm).1, tailLines_map, List.map_map]
    conv_rhs => rw [← List.map_id (tailLines tail (logLines ws))]
    exact List.map_congr_left fun l hm =>
      rstripNewline_append (hl l (mem_tailLines hm)).1
  refine ⟨?_, ?_⟩ <;> simp only [printLogs, hread, if_true, if_false, Bool.false_eq_true]
  exact List.enum_map_snd _

/-- One write of `hello` and `world` on two lines: `print_logs(id)` prints both with the stored
timestamp. -/
theorem printLogs_written_hello :
    (∀ w ∈ [("2026-11-09T10:00:00.000".toList, "hello\nworld\n".toList)],
      '\n' ∉ w.1 ∧ '\r' ∉ w.1) ∧
    (∀ w ∈ [("2026-11-09T10:00:00.000".toList, "hello\nworld\n".toList)], '\r' ∉ w.2) ∧
    printLogs (logText [("2026-11-09T10:00:00.000".toList, "hello\nworld\n".toList)]) none false
      (fun _ => "2026-11-09T10:00:05.000".toList) =
      ["2026-11-09T10:00:00.000 hello".toList, "2026-11-09T10:00:00.000 world".toList] :=
  ⟨by decide, by decide, by
    rw [(printLogs_written [("2026-11-09T10:00:00.000".toList, "hello\nworld\n".toList)]
      (by decide) (by decide) none fun _ => "2026-11-09T10:00:05.000".toList).1]
    decide⟩

/-- A carriage return read back as a line break: the second part loses its timestamp. -/
example : printLogs (logText [("T".toList, "a\rb".toList)]) none false (fun _ => []) =
    ["T a".toList, "b".toList] := by
  decide

end MiniDocker.Logs
