import Mathlib.Algebra.Ring.Nat
import Mathlib.Data.List.Basic

/-!
# Lines

A text that ends its lines is a row of lines, each with a line feed behind it and none within
(`IsLines`). There is one such row at most (`IsLines.unique`). Any text, with a line feed put behind
it, is the row of its `lines`, of which there is one more than it has line feeds of its own
(`isLines_lines`, `length_lines`).
-/

namespace LogGate.Text

/-- The lines that a text falls into at its line feeds. -/
def lines (text : String) : List String := (text.toList.splitOn '\n').map String.ofList

/-- The number of line feeds in a text. -/
def feeds (text : String) : Nat := text.toList.count '\n'

/-- A text is made of lines, each with a line feed behind it and none within. -/
structure IsLines (text : String) (rows : List String) : Prop where
  text_eq : text = String.join (rows.map (· ++ "\n"))
  whole : ∀ line ∈ rows, feeds line = 0

section
variable {s t text line : String} {rows rows' : List String}

/-! ## Line feeds -/

/-- Line feeds are counted in both parts of a text. -/
@[simp] theorem feeds_append (s t : String) : feeds (s ++ t) = feeds s + feeds t := by
  rw [feeds, String.toList_append, List.count_append, feeds, feeds]

/-- Line feeds are counted in all parts of a text. -/
theorem feeds_join (rows : List String) : feeds (String.join rows) = (rows.map feeds).sum := by
  induction rows with
  | nil => rfl
  | cons line rows ih => rw [String.join_cons, feeds_append, ih, List.map_cons, List.sum_cons]

/-- A text whose characters are no line feeds counts none. -/
theorem feeds_eq_zero_iff : feeds s = 0 ↔ '\n' ∉ s.toList := List.count_eq_zero

/-! ## Rows of lines -/

/-- No lines are a row of the empty text. -/
theorem isLines_nil : IsLines "" [] := ⟨rfl, nofun⟩

/-- Rows are put one behind the other with their texts. -/
theorem IsLines.append (hs : IsLines s rows) (ht : IsLines t rows') :
    IsLines (s ++ t) (rows ++ rows') where
  text_eq := by rw [hs.text_eq, ht.text_eq, List.map_append, String.join_append]
  whole line hline := (List.mem_append.1 hline).elim (hs.whole line) (ht.whole line)

/-- At its line feeds, a text of lines falls into those lines, and nothing behind the last. -/
theorem IsLines.splitOn_eq (h : IsLines text rows) :
    text.toList.splitOn '\n' = rows.map String.toList ++ [[]] := by
  obtain ⟨rfl, hwhole⟩ := h
  induction rows with
  | nil => rfl
  | cons line rows ih =>
    obtain ⟨hline, hrows⟩ := List.forall_mem_cons.1 hwhole
    have hcons : (String.join ((line :: rows).map (· ++ "\n"))).toList =
        line.toList ++ '\n' :: (String.join (rows.map (· ++ "\n"))).toList := by
      simp [String.toList_append]
    rw [hcons, List.splitOn_append_cons_self_of_not_mem (feeds_eq_zero_iff.1 hline), ih hrows]
    rfl

/-- A text is made of one row of lines at most. -/
theorem IsLines.unique (h : IsLines text rows) (h' : IsLines text rows') : rows = rows' := by
  have hsplit := h.splitOn_eq.symm.trans h'.splitOn_eq
  exact List.map_injective_iff.2 (fun _ _ => String.toList_inj.1) (List.append_cancel_right hsplit)

/-! ## Splitting at line feeds -/

/-- At a line feed the first line ends. -/
theorem splitOn_cons_feed (s : List Char) : ('\n' :: s).splitOn '\n' = [] :: s.splitOn '\n' :=
  List.splitOn_append_cons_self_of_not_mem List.not_mem_nil s

/-- Any other character joins the first line. -/
theorem splitOn_cons_of_ne {c : Char} (h : c ≠ '\n') (s : List Char) :
    (c :: s).splitOn '\n' = (s.splitOn '\n').modifyHead (c :: ·) := by
  rw [List.splitOn_cons_eq_if_modifyHead, if_neg fun hc => h (beq_iff_eq.1 hc)]

/-- And so do several. -/
theorem splitOn_append {p : List Char} (h : '\n' ∉ p) (s : List Char) :
    (p ++ s).splitOn '\n' = (s.splitOn '\n').modifyHead (p ++ ·) := by
  induction p with
  | nil => exact (congrFun List.modifyHead_id _).symm
  | cons c p ih =>
    have hc : c ≠ '\n' := fun hc => h (hc ▸ List.mem_cons_self)
    rw [List.cons_append, splitOn_cons_of_ne hc, ih fun hp => h (List.mem_cons_of_mem c hp),
      List.modifyHead_modifyHead]
    rfl

/-- Characters fall into lines that have no line feeds and are those characters again when each of
them gets a line feed behind it. There is one line more than there are line feeds. -/
theorem splitOn_feed (s : List Char) :
    (s.splitOn '\n').flatMap (· ++ ['\n']) = s ++ ['\n'] ∧
      (∀ line ∈ s.splitOn '\n', line.count '\n' = 0) ∧
      (s.splitOn '\n').length = s.count '\n' + 1 := by
  induction s with
  | nil => exact ⟨rfl, fun line hline => by rw [List.mem_singleton.1 hline]; rfl, rfl⟩
  | cons c s ih =>
    obtain ⟨hjoin, hwhole, hlength⟩ := ih
    by_cases hc : c = '\n'
    · subst hc
      rw [splitOn_cons_feed]
      refine ⟨?_, List.forall_mem_cons.2 ⟨rfl, hwhole⟩, ?_⟩
      · rw [List.flatMap_cons, hjoin]
        rfl
      · rw [List.length_cons, hlength, List.count_cons_self]
    · rw [splitOn_cons_of_ne hc]
      -- the character joins the first line
      obtain ⟨first, rest, hsplit⟩ := List.exists_cons_of_ne_nil (List.splitOn_ne_nil '\n' s)
      rw [hsplit] at hjoin hwhole hlength ⊢
      obtain ⟨hfirst, hrest⟩ := List.forall_mem_cons.1 hwhole
      refine ⟨?_, List.forall_mem_cons.2 ⟨?_, hrest⟩, ?_⟩
      · exact congrArg (List.cons c) hjoin
      · rw [List.count_cons_of_ne hc, hfirst]
      · rw [List.count_cons_of_ne hc, ← hlength]
        rfl

/-- A text with a line feed behind it is made of the lines of the text. -/
theorem isLines_lines (s : String) : IsLines (s ++ "\n") (lines s) where
  text_eq := by
    refine String.toList_inj.1 ?_
    rw [String.toList_append, String.toList_join, lines, List.map_map, List.flatMap_map]
    refine (splitOn_feed s.toList).1.symm.trans ?_
    refine congrArg (List.flatMap · _) (funext fun line => ?_)
    rw [Function.comp_apply, String.toList_append, String.toList_ofList]
    rfl
  whole line hline := by
    obtain ⟨chars, hchars, rfl⟩ := List.mem_map.1 hline
    rw [feeds, String.toList_ofList]
    exact (splitOn_feed s.toList).2.1 chars hchars

/-- Several texts, each with a line feed behind it, are made of the lines of all of them. -/
theorem isLines_join (texts : List String) :
    IsLines (String.join (texts.map (· ++ "\n"))) (texts.flatMap lines) := by
  induction texts with
  | nil => exact isLines_nil
  | cons text texts ih =>
    rw [List.map_cons, String.join_cons, List.flatMap_cons]
    exact (isLines_lines text).append ih

/-- A text has one line more than it has line feeds. -/
theorem length_lines (s : String) : (lines s).length = feeds s + 1 := by
  rw [lines, List.length_map]
  exact (splitOn_feed s.toList).2.2

/-- A text without line feeds is a line of its own. -/
theorem lines_of_feeds (h : feeds s = 0) : lines s = [s] := by
  rw [lines, List.splitOn_eq_singleton (feeds_eq_zero_iff.1 h), List.map_singleton,
    String.ofList_toList]

end

end LogGate.Text
