import LogGate.Program.Report
import LogGate.Proofs.Text.Decimal
import LogGate.Proofs.Text.Lines

/-!
# What a report shows

A report consists of lines: those of the failure, and if it has causes, an empty line, a heading and
the lines of every cause in their order (`Reports`). A cause is indented, and behind its number if it
is not the only one. `isLines_report` says so for any texts, which may have line feeds in them.
-/

namespace LogGate.Program

/-- The lines of a text, the first one behind one text and the further ones behind another. -/
def behind (first further text : String) : List String :=
  match Text.lines text with
  | [] => []
  | line :: rest => (first ++ line) :: rest.map (further ++ ·)

/-- The lines by which a failure and its causes are reported. Of several causes, each has its number
in front, moved to the right in five columns. -/
inductive Reports (failure : String) : List String → List String → Prop where
  | alone : Reports failure [] (behind "Error: " "" failure)
  | single {cause : String} : Reports failure [cause]
    (behind "Error: " "" failure ++ ["", "Caused by:"] ++ behind "    " "    " cause)
  | several {first second : String} {more : List String} : Reports failure (first :: second :: more)
    (behind "Error: " "" failure ++ ["", "Caused by:"] ++
      (first :: second :: more).zipIdx.flatMap fun (cause, i) =>
        behind (String.ofList ((Nat.toDigits 10 i).leftpad 5 ' ') ++ ": ") "       " cause)

section
variable {first further : String}

/-- Characters that are put behind each line feed join the line that begins there. -/
theorem splitOn_indented {p : List Char} (h : '\n' ∉ p) {s line : List Char}
    {rest : List (List Char)} (hs : s.splitOn '\n' = line :: rest) :
    (s.flatMap fun c => if c = '\n' then c :: p else [c]).splitOn '\n' =
      line :: rest.map (p ++ ·) := by
  induction s generalizing line rest with
  | nil =>
    cases hs
    rfl
  | cons c s ih =>
    obtain ⟨line', rest', hsplit⟩ := List.exists_cons_of_ne_nil (List.splitOn_ne_nil '\n' s)
    rw [List.flatMap_cons]
    by_cases hc : c = '\n'
    · subst hc
      rw [Text.splitOn_cons_feed, hsplit] at hs
      cases hs
      rw [if_pos rfl, List.cons_append, Text.splitOn_cons_feed, Text.splitOn_append h, ih hsplit]
      rfl
    · rw [Text.splitOn_cons_of_ne hc, hsplit] at hs
      cases hs
      rw [if_neg hc, List.singleton_append, Text.splitOn_cons_of_ne hc, ih hsplit]
      rfl

/-- A text that is indented has its lines behind what it is indented by. -/
theorem lines_indent (hfirst : Text.feeds first = 0) (hfurther : Text.feeds further = 0)
    (text : String) : Text.lines (indent first further text) = behind first further text := by
  obtain ⟨line, rest, hsplit⟩ :=
    List.exists_cons_of_ne_nil (List.splitOn_ne_nil '\n' text.toList)
  have hbehind : behind first further text =
      (first ++ String.ofList line) :: (rest.map String.ofList).map (further ++ ·) := by
    rw [behind, Text.lines, hsplit, List.map_cons]
  rw [hbehind, Text.lines, indent, String.toList_append, String.toList_ofList,
    Text.splitOn_append (Text.feeds_eq_zero_iff.1 hfirst),
    splitOn_indented (Text.feeds_eq_zero_iff.1 hfurther) hsplit, List.modifyHead_cons,
    List.map_cons, List.map_map, List.map_map, String.ofList_append, String.ofList_toList]
  refine congrArg _ (List.map_congr_left fun line _ => ?_)
  rw [Function.comp_apply, Function.comp_apply, String.ofList_append, String.ofList_toList]

/-- Without further indentation, a text only has something in front of it. -/
theorem indent_empty (first text : String) : indent first "" text = first ++ text := by
  simp [indent]

/-- The number of a cause is in front of its first line. -/
theorem feeds_number (i : Nat) : Text.feeds (number i) = 0 := by
  rw [Text.feeds_eq_zero_iff, number, String.toList_append, String.toList_ofList, List.leftpad]
  intro h
  rcases List.mem_append.1 h with h | h
  · rcases List.mem_append.1 h with h | h
    · cases List.eq_of_mem_replicate h
    · exact absurd ((Text.numeral_toDigits i).isDigit _ h) (by decide)
  · exact absurd h (by decide)

example : number 3 = "    3: " ∧ number 12 = "   12: " := by decide

/-- Numbered causes have their lines behind the numbers. -/
theorem lines_numbered (causes : List String) : (numbered causes).flatMap Text.lines =
    causes.zipIdx.flatMap fun (cause, i) => behind (number i) "       " cause := by
  rw [numbered, List.flatMap_map]
  refine congrArg (List.flatMap · causes.zipIdx) (funext fun (cause, i) => ?_)
  exact lines_indent (feeds_number i) rfl cause

/-- **What a report shows.** A report consists of the lines of the failure and of all its causes. -/
theorem isLines_report (failure : String) (causes : List String) :
    ∃ rows, Reports failure causes rows ∧ Text.IsLines (report failure causes) rows := by
  have hfailure : Text.lines ("Error: " ++ failure) = behind "Error: " "" failure := by
    rw [← indent_empty, lines_indent rfl rfl]
  refine ⟨_, ?_, Text.isLines_join _⟩
  rw [List.flatMap_cons, hfailure]
  match causes with
  | [] =>
    rw [if_pos rfl, List.flatMap_nil, List.append_nil]
    exact .alone
  | [cause] =>
    have hcauses : (["", "Caused by:"] ++ renderCauses [cause]).flatMap Text.lines =
        ["", "Caused by:"] ++ behind "    " "    " cause := by
      rw [renderCauses, List.flatMap_append, List.flatMap_singleton, lines_indent rfl rfl]
      rfl
    rw [if_neg (by simp), hcauses, ← List.append_assoc]
    exact .single
  | first :: second :: more =>
    have hcauses : (["", "Caused by:"] ++ renderCauses (first :: second :: more)).flatMap
        Text.lines = ["", "Caused by:"] ++
          (first :: second :: more).zipIdx.flatMap fun (cause, i) =>
            behind (number i) "       " cause := by
      rw [renderCauses, List.flatMap_append, lines_numbered]
      · rfl
      · simp
    rw [if_neg (by simp), hcauses, ← List.append_assoc]
    exact .several

end

end LogGate.Program
