import Baste.Migrator
import Baste.ScriptSplitting

/-!
# Splitting migration scripts

A migration file is split right if its statements come back in order, each the
same up to comments and to blanks outside literals, and nothing else.  The
process drops lines and cuts the rest at all semicolons, whether they separate
statements or stand in literals and comments, and it executes what is left of a
comment behind the last statement.
-/

namespace Baste

namespace Migrator

open ChargeService (splitLines strip isSpace isLineBoundary)
open ScriptLexing (Line joined cleaned cut content lex statements)

/-- What `str.strip` removes, and where `str.splitlines` splits. -/
def blanks : ScriptLexing.Blanks where
  isSpace := isSpace
  isLineEnd := isLineBoundary
  isSpace_of_isLineEnd := by
    intro char ends
    rw [isLineBoundary, decide_eq_true_eq] at ends
    rw [isSpace, Bool.or_eq_true, decide_eq_true_eq]
    left
    simp only [List.mem_cons, List.not_mem_nil, or_false] at ends ⊢
    omega
  isLineEnd_newline := by decide
  visible := by
    simp only [List.mem_cons, List.not_mem_nil, or_false, forall_eq_or_imp,
      forall_eq]
    decide

/-- The lines of a text with their ends, with the characters of the current
line so far. -/
def cutLines (current : List Char) : List Char → List Line
  | [] => if current = [] then [] else [⟨current.reverse, []⟩]
  | '\r' :: '\n' :: rest => ⟨current.reverse, ['\r', '\n']⟩ :: cutLines [] rest
  | char :: rest =>
      if isLineBoundary char then ⟨current.reverse, [char]⟩ :: cutLines [] rest
      else cutLines (char :: current) rest

section Lines

variable (current text : List Char)

theorem text_cutLines :
    (cutLines current text).map Line.text = splitLines current text := by
  fun_induction cutLines current text with
  | case1 => rfl
  | case2 current noText => simp [splitLines, noText]
  | case3 current rest ih => rw [List.map_cons, ih, splitLines]
  | case4 current char rest noReturn ends ih =>
      rw [List.map_cons, ih, splitLines, if_pos ends]
      exact noReturn
  | case5 current char rest noReturn noEnd ih =>
      rw [ih, splitLines, if_neg noEnd]
      exact noReturn

theorem joined_cutLines :
    joined (cutLines current text) = current.reverse ++ text := by
  fun_induction cutLines current text with
  | case1 => rfl
  | case2 current noText => simp [joined, Line.whole]
  | case3 current rest ih => simpa [joined, Line.whole] using ih
  | case4 current char rest noReturn ends ih =>
      simpa [joined, Line.whole] using ih
  | case5 current char rest noReturn noEnd ih => rw [ih]; simp

theorem areLines_cutLines
    (inside : ∀ char ∈ current, isLineBoundary char = false) :
    ScriptLexing.AreLines blanks (cutLines current text) := by
  fun_induction cutLines current text with
  | case1 => trivial
  | case2 current noText =>
      exact ⟨⟨fun char member => inside char (List.mem_reverse.mp member),
        List.forall_mem_nil _⟩, fun _ => rfl, trivial⟩
  | case3 current rest ih =>
      refine ⟨⟨fun char member => inside char (List.mem_reverse.mp member), ?_⟩,
        fun noEnd => absurd noEnd (List.cons_ne_nil _ _),
        ih (List.forall_mem_nil _)⟩
      exact List.forall_mem_cons.mpr
        ⟨by decide, List.forall_mem_singleton.mpr (by decide)⟩
  | case4 current char rest noReturn ends ih =>
      exact ⟨⟨fun char member => inside char (List.mem_reverse.mp member),
          List.forall_mem_singleton.mpr ends⟩,
        fun noEnd => absurd noEnd (List.cons_ne_nil _ _),
        ih (List.forall_mem_nil _)⟩
  | case5 current char rest noReturn noEnd ih =>
      exact ih (List.forall_mem_cons.mpr ⟨by simpa using noEnd, inside⟩)

end Lines

theorem intercalate_newline {lines : List (List Char)} (some : lines ≠ []) :
    (['\n'] : List Char).intercalate lines ++ ['\n'] =
      lines.flatMap (· ++ ['\n']) := by
  induction lines with
  | nil => exact absurd rfl some
  | cons line lines ih =>
      by_cases last : lines = []
      · simp [last]
      · rw [List.intercalate_cons_of_ne_nil last, List.append_assoc, ih last,
          List.flatMap_cons]

/-- The lines that are kept, cut at their semicolons. -/
theorem toList_splitStatements (sqlText : String) :
    (splitStatements sqlText).map String.toList =
      cut blanks (cleaned blanks (cutLines [] sqlText.toList)) := by
  let kept := (splitLines [] sqlText.toList).filter
    (!ScriptLexing.isDropped blanks ·)
  have isCleaned : cleaned blanks (cutLines [] sqlText.toList) =
      kept.flatMap (· ++ ['\n']) := by
    unfold kept
    rw [← text_cutLines, List.filter_map, List.flatMap_map]
    rfl
  have pieces : (splitStatements sqlText).map String.toList =
      cut blanks ((['\n'] : List Char).intercalate kept) := by
    have sameFilter : ∀ statements : List (List Char),
        statements.filter (!·.isEmpty) = statements.filter (· ≠ []) := by
      intro statements
      apply List.filter_congr
      intro statement _
      cases statement with
      | nil | cons => rfl
    have sameText : String.toList ∘ String.ofList = id :=
      funext fun _ => String.toList_ofList
    rw [splitStatements, List.map_map, sameText, List.map_id, sameFilter]
    rfl
  rw [pieces, isCleaned]
  by_cases none : kept = []
  · rw [none]
    rfl
  · rw [← intercalate_newline none, ScriptLexing.cut_append_space (by decide)]

/-- The characters of a script and what they are. -/
abbrev scriptOf (sqlText : String) : List ScriptLexing.Lexeme :=
  lex blanks .start sqlText.toList

/-- Every literal of the script is closed. -/
abbrev IsScript (sqlText : String) : Prop :=
  ScriptLexing.IsClosed blanks sqlText.toList

/-- Outside literals the lines of blanks and comments are dropped, and no
others. -/
def DropsComments (sqlText : String) : Prop :=
  ScriptLexing.CommentsMatch blanks .start (cutLines [] sqlText.toList)

/-- The statements of the script come back in order, each the same up to
comments and to blanks outside literals, and nothing else. -/
def SplitsRight (sqlText : String) : Prop :=
  (splitStatements sqlText).map (content blanks ·.toList) =
    statements (scriptOf sqlText)

instance (sqlText : String) : Decidable (DropsComments sqlText) :=
  inferInstanceAs (Decidable (ScriptLexing.CommentsMatch _ _ _))

instance (sqlText : String) : Decidable (SplitsRight sqlText) :=
  inferInstanceAs (Decidable (_ = _))

/-- Outside literals the blanks and comments are dropped and no other lines.
No literal has anything like a dropped line in it.  No semicolon stands in a
literal, or in a comment with anything but blanks behind it, and no comment
stands where there is no statement. -/
structure SplitsCleanly (sqlText : String) : Prop where
  comments : DropsComments sqlText
  literals : ScriptLexing.LiteralsKept blanks (scriptOf sqlText)
  separated : ScriptLexing.Separated blanks (scriptOf sqlText)

/-- A script whose comments are dropped line by line is split right exactly if
nothing else is in the way of its semicolons and its literals. -/
theorem splitsRight_iff_splitsCleanly (sqlText : String)
    (isScript : IsScript sqlText) :
    DropsComments sqlText ∧ SplitsRight sqlText ↔ SplitsCleanly sqlText := by
  have areLines := areLines_cutLines [] sqlText.toList (List.forall_mem_nil _)
  have isText := joined_cutLines [] sqlText.toList
  rw [List.reverse_nil, List.nil_append] at isText
  have right := ScriptLexing.cut_cleaned_iff areLines
    (by rw [isText]; exact isScript)
  rw [isText, ← toList_splitStatements, List.map_map] at right
  constructor
  · rintro ⟨comments, splits⟩
    obtain ⟨literals, separated⟩ := (right comments).mp splits
    exact ⟨comments, literals, separated⟩
  · rintro ⟨comments, literals, separated⟩
    exact ⟨comments, (right comments).mpr ⟨literals, separated⟩⟩

theorem splitsRight_iff_splitsCleanly_update : SplitsCleanly
    "-- ledger\nALTER TABLE a ADD b INT; -- first\nUPDATE a\n SET b = 'x';\n" :=
  (splitsRight_iff_splitsCleanly _ (by decide +kernel)).mp
    ⟨by decide +kernel, by decide +kernel⟩

/-- A comment behind the last statement is returned as another one. -/
theorem trailing_comment_returned :
    IsScript "SELECT 1; -- done" ∧ DropsComments "SELECT 1; -- done" ∧
      splitStatements "SELECT 1; -- done" = ["SELECT 1", "-- done"] ∧
      ¬ SplitsRight "SELECT 1; -- done" := by
  decide +kernel

-- a semicolon in a literal, and one in a comment
example : ¬ SplitsRight "SELECT ';'" ∧ ¬ SplitsRight "SELECT -- a; b\n 1" := by
  decide +kernel

-- a line of the comment goes astray, and one of the statement is dropped that
-- says the same
example : SplitsRight "A -- c\u2028x --y\nx\n--y x\nB;" ∧
    ¬ DropsComments "A -- c\u2028x --y\nx\n--y x\nB;" := by
  decide +kernel

end Migrator

end Baste
