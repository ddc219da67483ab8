import Baste.ScriptLines

/-!
# Splitting scripts right

What a literal has in it comes back in the statement that it belongs to.  So a
script whose lines are dropped and whose rest is cut is only split right if no
literal has anything in it that these lines could have.
-/

namespace ScriptLexing

variable {blanks : Blanks}

section Words

variable {mode : Mode} {due : Bool} {word : List Char}
variable {lexemes : List Lexeme} {text : List Char}

theorem tidy_quoted (some : word ≠ []) :
    ∃ before, tidy due (word.map .quoted) = before ++ word.map .quoted := by
  have tidyFalse : ∀ word : List Char,
      tidy false (word.map .quoted) = word.map .quoted := by
    intro word
    induction word with
    | nil => rfl
    | cons char word ih =>
        exact congrArg (Lexeme.quoted char :: ·) ih
  cases word with
  | nil => exact absurd rfl some
  | cons char word =>
      cases due with
      | true =>
          exact ⟨[.blank], congrArg (Lexeme.blank :: ·) (tidyFalse (char :: word))⟩
      | false => exact ⟨[], tidyFalse _⟩

theorem infix_tidy (some : word ≠ [])
    (isInfix : word.map .quoted <:+: lexemes) :
    word.map .quoted <:+: tidy due (lexemes.map Lexeme.bare) := by
  obtain ⟨front, back, rfl⟩ := isInfix
  have bareWord : (word.map Lexeme.quoted).map Lexeme.bare =
      word.map .quoted := by
    rw [List.map_map]
    rfl
  obtain ⟨before, isTidy⟩ := @tidy_quoted
    (dueAfter due (front.map Lexeme.bare)) word some
  rw [List.map_append, List.map_append, tidy_append, tidy_append, bareWord,
    isTidy]
  exact (List.suffix_append before _).isInfix.trans (List.infix_append _ _ _)

theorem not_prefix_tidy {char : Char} {others : List Lexeme} :
    ¬ .quoted char :: others <+: tidy true lexemes := by
  induction lexemes with
  | nil => simp [tidy]
  | cons lexeme lexemes ih =>
      cases lexeme with
      | blank => exact ih
      | code | quoted | comment | separator =>
          intro isPrefix
          cases (List.cons_prefix_cons.mp isPrefix).1

theorem prefix_of_tidy
    (isPrefix : word.map .quoted <+: tidy false (lexemes.map Lexeme.bare)) :
    word.map .quoted <+: lexemes := by
  induction word generalizing lexemes with
  | nil => exact List.nil_prefix
  | cons char word ih =>
      cases lexemes with
      | nil => cases List.prefix_nil.mp isPrefix
      | cons lexeme lexemes =>
          cases lexeme with
          | quoted other =>
              obtain ⟨same, later⟩ := List.cons_prefix_cons.mp isPrefix
              cases same
              exact List.cons_prefix_cons.mpr ⟨rfl, ih later⟩
          | code | separator =>
              cases (List.cons_prefix_cons.mp isPrefix).1
          | blank | comment => exact absurd isPrefix not_prefix_tidy

theorem infix_of_cons {first : Lexeme} (other : ∀ char, first ≠ .quoted char)
    (isInfix : word.map .quoted <:+: first :: lexemes) :
    word.map .quoted <:+: lexemes := by
  rcases List.infix_cons_iff.mp isInfix with isPrefix | later
  · cases word with
    | nil => exact List.nil_infix
    | cons char word =>
        exact absurd (List.cons_prefix_cons.mp isPrefix).1.symm (other char)
  · exact later

/-- Tidying brings no characters of literals together. -/
theorem infix_of_tidy
    (isInfix : word.map .quoted <:+: tidy due (lexemes.map Lexeme.bare)) :
    word.map .quoted <:+: lexemes := by
  induction lexemes generalizing due with
  | nil => exact isInfix
  | cons lexeme lexemes ih =>
      have later : word.map .quoted <:+: lexemes →
          word.map .quoted <:+: lexeme :: lexemes :=
        fun inside => inside.trans (List.suffix_cons _ _).isInfix
      cases lexeme with
      | blank | comment => exact later (ih isInfix)
      | separator =>
          exact later (ih (infix_of_cons (fun _ same => by cases same) isInfix))
      | code char =>
          have behind : word.map .quoted <:+:
              Lexeme.code char :: tidy false (lexemes.map Lexeme.bare) := by
            cases due with
            | true =>
                exact infix_of_cons (fun _ same => by cases same) isInfix
            | false => exact isInfix
          exact later (ih (infix_of_cons (fun _ same => by cases same) behind))
      | quoted char =>
          have behind : word.map .quoted <:+:
              Lexeme.quoted char :: tidy false (lexemes.map Lexeme.bare) := by
            cases due with
            | true =>
                exact infix_of_cons (fun _ same => by cases same) isInfix
            | false => exact isInfix
          rcases List.infix_cons_iff.mp behind with isPrefix | inside
          · exact (@prefix_of_tidy word (.quoted char :: lexemes)
              isPrefix).isInfix
          · exact later (ih inside)

theorem infix_of_lex (isInfix : word.map .quoted <:+: lex blanks mode text) :
    word <:+: text := by
  obtain ⟨front, back, isLex⟩ := isInfix
  have fits := @fits_lex blanks mode text
  rw [← isLex, List.append_assoc] at fits
  have here := List.forall₂_take_append _ _ _
    (List.forall₂_drop_append _ _ _ fits)
  have same : ∀ {chars word : List Char}, List.Forall₂
      (fun char (lexeme : Lexeme) => lexeme.Fits blanks char) chars
        (word.map .quoted) → word = chars := by
    intro chars word related
    induction word generalizing chars with
    | nil =>
        cases related
        rfl
    | cons char word ih =>
        cases related with
        | cons isChar later =>
            cases isChar
            rw [ih later]
  rw [same here]
  exact (List.take_prefix _ _).isInfix.trans (List.drop_suffix _ _).isInfix

end Words

section Pieces

variable {text word : List Char}
variable {lexemes : List Lexeme}

theorem infix_append_cons {Item : Type} {word before behind : List Item}
    {item : Item} (notMem : item ∉ word)
    (isInfix : word <:+: before ++ item :: behind) :
    word <:+: before ∨ word <:+: behind := by
  obtain ⟨front, back, same⟩ := isInfix
  rcases List.append_eq_append_iff.mp same with
    ⟨rest, isBefore, -⟩ | ⟨rest, isWord, isBehind⟩
  · exact .inl ⟨front, rest, isBefore.symm⟩
  cases rest with
  | nil => exact .inl ⟨front, [], by simpa using isWord⟩
  | cons other rest =>
      obtain ⟨rfl, isRest⟩ := List.cons.inj isBehind
      rcases List.append_eq_append_iff.mp isWord with
        ⟨start, -, isHere⟩ | ⟨start, -, isHere⟩
      · exact absurd (by rw [isHere]; simp) notMem
      · cases start with
        | nil =>
            rw [List.nil_append] at isHere
            exact absurd (by rw [← isHere]; simp) notMem
        | cons _ start =>
            obtain ⟨-, rfl⟩ := List.cons.inj isHere
            exact .inr ⟨start, back, by rw [isRest]; rfl⟩

/-- What a literal has in it is in a statement. -/
theorem exists_statement (some : word ≠ [])
    (isInfix : word.map .quoted <:+: lexemes) :
    ∃ statement ∈ statements lexemes, word.map .quoted <:+: statement := by
  have tidied := @infix_tidy true word lexemes some isInfix
  have noSeparator : .separator ∉ word.map Lexeme.quoted := by simp
  have found : ∀ lexemes, word.map .quoted <:+: lexemes →
      ∃ segment ∈ lexemes.splitOnP isSeparator,
        word.map .quoted <:+: segment := by
    intro lexemes isInfix
    induction length : lexemes.length using Nat.strong_induction_on
      generalizing lexemes with
    | _ length ih =>
        by_cases member : .separator ∈ lexemes
        · obtain ⟨before, behind, rfl, whole⟩ :=
            List.eq_append_cons_of_mem member
          rw [List.length_append, List.length_cons] at length
          rw [List.splitOnP_append_cons _ _ rfl, splitOnP_whole whole]
          rcases infix_append_cons noSeparator isInfix with here | later
          · exact ⟨before, List.mem_append_left _ List.mem_cons_self, here⟩
          · obtain ⟨segment, isThere, inside⟩ :=
              ih behind.length (by omega) behind later rfl
            exact ⟨segment, List.mem_append_right _ isThere, inside⟩
        · rw [splitOnP_whole member]
          exact ⟨lexemes, List.mem_cons_self, isInfix⟩
  obtain ⟨segment, member, inside⟩ := found _ tidied
  refine ⟨segment, List.mem_filter.mpr ⟨member, ?_⟩, inside⟩
  rw [decide_eq_true_eq]
  rintro rfl
  exact some (List.map_eq_nil_iff.mp (List.eq_nil_of_infix_nil inside))

/-- The pieces of a text are parts of it. -/
theorem infix_of_mem_cut {piece : List Char} (member : piece ∈ cut blanks text) :
    piece <:+: text := by
  induction length : text.length using Nat.strong_induction_on
    generalizing text with
  | _ length ih =>
      by_cases hasSemicolon : ';' ∈ text
      · obtain ⟨first, rest, rfl, -⟩ := List.eq_append_cons_of_mem hasSemicolon
        rw [List.length_append, List.length_cons] at length
        rw [cut_semicolon] at member
        rcases List.mem_append.mp member with here | later
        · exact (ih first.length (by omega) here rfl).trans
            (List.prefix_append _ _).isInfix
        · exact ((ih rest.length (by omega) later rfl).trans
            (List.suffix_cons _ _).isInfix).trans
              (List.suffix_append _ _).isInfix
      · rw [cut_whole hasSemicolon] at member
        split_ifs at member with nothing
        · cases member
        · obtain ⟨front, back, isText, -⟩ := exists_trim blanks text
          cases List.mem_singleton.mp member
          exact ⟨front, back, by rw [List.append_assoc, ← isText]⟩

end Pieces

section KeptLines

variable {lines : List Line} {texts : List (List Char)}
variable {word behind : List Char}

/-- Behind the end of a line there is another one. -/
theorem prefix_of_newline (areTexts : ∀ text ∈ texts, '\n' ∉ text)
    (isInfix : '\n' :: behind <:+: texts.flatMap (· ++ ['\n'])) :
    ∃ later, later <:+ texts ∧ behind <+: later.flatMap (· ++ ['\n']) := by
  induction texts with
  | nil => cases List.eq_nil_of_infix_nil isInfix
  | cons text texts ih =>
      obtain ⟨noEnd, areLater⟩ := List.forall_mem_cons.mp areTexts
      obtain ⟨front, back, same⟩ := isInfix
      rw [List.flatMap_cons, List.append_assoc, List.append_assoc] at same
      rcases List.append_eq_append_iff.mp same with
        ⟨rest, isText, isBehind⟩ | ⟨rest, -, isRest⟩
      · cases rest with
        | nil =>
            exact ⟨texts, List.suffix_cons _ _, back,
              (List.cons.inj isBehind).2⟩
        | cons char rest =>
            obtain ⟨rfl, -⟩ := List.cons.inj isBehind
            exact absurd (by rw [isText]; simp) noEnd
      · cases rest with
        | nil =>
            exact ⟨texts, List.suffix_cons _ _, back,
              (List.cons.inj isRest).2.symm⟩
        | cons char rest =>
            obtain ⟨-, isLater⟩ := List.cons.inj isRest
            obtain ⟨later, isSuffix, isPrefix⟩ := ih areLater
              ⟨rest, back, by
                rw [List.append_assoc]
                exact isLater.symm⟩
            exact ⟨later, isSuffix.trans (List.suffix_cons _ _), isPrefix⟩

theorem AreLines.valid (areLines : AreLines blanks lines) :
    ∀ line ∈ lines, line.Valid blanks := by
  induction lines with
  | nil => exact List.forall_mem_nil _
  | cons line lines ih =>
      exact List.forall_mem_cons.mpr ⟨areLines.1, ih areLines.2.2⟩

/-- A text of lines that are kept. -/
structure KeptText (blanks : Blanks) (text : List Char) : Prop where
  inside : ∀ char ∈ text, blanks.isLineEnd char = false
  isKept : isDropped blanks text = false

theorem KeptText.noNewline {text : List Char} (kept : KeptText blanks text) :
    '\n' ∉ text := by
  intro member
  have noEnd := kept.inside _ member
  rw [blanks.isLineEnd_newline] at noEnd
  cases noEnd

theorem cleaned_texts (areLines : AreLines blanks lines) :
    ∃ texts : List (List Char),
      cleaned blanks lines = texts.flatMap (· ++ ['\n']) ∧
      ∀ text ∈ texts, KeptText blanks text := by
  refine ⟨(lines.filter (!isDropped blanks ·.text)).map Line.text, ?_, ?_⟩
  · rw [List.flatMap_map]
    rfl
  · intro text member
    obtain ⟨line, isLine, rfl⟩ := List.mem_map.mp member
    obtain ⟨isThere, isKept⟩ := List.mem_filter.mp isLine
    exact ⟨(areLines.valid line isThere).text, by simpa using isKept⟩

/-- What is kept is neither blank nor begins with two dashes. -/
theorem KeptText.not_unkept {text spaces tail back rest : List Char}
    (kept : KeptText blanks text)
    (areSpaces : ∀ char ∈ spaces, blanks.isSpace char = true ∧
      blanks.isLineEnd char = false)
    (isTail : tail = ['\n'] ∨ tail = ['-', '-']) :
    spaces ++ tail ++ back ≠ text ++ ['\n'] ++ rest := by
  intro same
  have noNewline : '\n' ∉ spaces := by
    intro member
    have noEnd := (areSpaces _ member).2
    rw [blanks.isLineEnd_newline] at noEnd
    cases noEnd
  have notBlank : text ≠ spaces := by
    rintro rfl
    have isKept := kept.isKept
    rw [← Bool.not_eq_true, isDropped_iff] at isKept
    exact isKept (.inl fun char member => (areSpaces char member).1)
  have noDashes : ∀ more, text ≠ spaces ++ '-' :: '-' :: more := by
    rintro more rfl
    have isKept := kept.isKept
    rw [← Bool.not_eq_true, isDropped_iff] at isKept
    exact isKept (.inr ⟨spaces, more,
      fun char member => (areSpaces char member).1, rfl⟩)
  rw [List.append_assoc, List.append_assoc] at same
  rcases List.append_eq_append_iff.mp same with
    ⟨middle, isText, isRest⟩ | ⟨middle, isSpaces, isRest⟩
  · rcases isTail with rfl | rfl
    · cases middle with
      | nil => exact notBlank (by simpa using isText)
      | cons char middle =>
          obtain ⟨rfl, -⟩ := List.cons.inj isRest
          exact kept.noNewline (by rw [isText]; simp)
    · match middle with
      | [] => cases isRest
      | [_] => cases isRest
      | first :: second :: middle =>
          obtain ⟨rfl, isLater⟩ := List.cons.inj isRest
          obtain ⟨rfl, -⟩ := List.cons.inj isLater
          exact noDashes middle isText
  · cases middle with
    | nil => exact notBlank (by simpa using isSpaces.symm)
    | cons char middle =>
        obtain ⟨rfl, -⟩ := List.cons.inj isRest
        exact noNewline (by rw [isSpaces]; simp)

theorem not_infix_cleaned (areLines : AreLines blanks lines)
    (unkept : Unkept blanks word) : ¬ word <:+: cleaned blanks lines := by
  obtain ⟨texts, isCleaned, areKept⟩ := cleaned_texts areLines
  rw [isCleaned]
  intro isInfix
  have noLine : ∀ spaces tail, (∀ char ∈ spaces, blanks.isSpace char = true ∧
      blanks.isLineEnd char = false) → (tail = ['\n'] ∨ tail = ['-', '-']) →
      ¬ '\n' :: (spaces ++ tail) <:+: texts.flatMap (· ++ ['\n']) := by
    intro spaces tail areSpaces isTail isInfix
    obtain ⟨later, isSuffix, back, isPrefix⟩ := prefix_of_newline
      (fun text member => (areKept text member).noNewline) isInfix
    cases later with
    | nil => rcases isTail with rfl | rfl <;> simp at isPrefix
    | cons text later =>
        exact (areKept text (isSuffix.subset List.mem_cons_self)).not_unkept
          areSpaces isTail isPrefix
  cases unkept with
  | lineEnd char ends unusual =>
      have member := isInfix.subset List.mem_cons_self
      obtain ⟨text, isText, inText⟩ := List.mem_flatMap.mp member
      rcases List.mem_append.mp inText with here | last
      · rw [(areKept text isText).inside char here] at ends
        cases ends
      · exact unusual (List.mem_singleton.mp last)
  | blankLine spaces areSpaces =>
      exact noLine spaces _ areSpaces (.inl rfl) isInfix
  | dashes spaces areSpaces =>
      exact noLine spaces _ areSpaces (.inr rfl) isInfix

end KeptLines

section Splitting

variable {lines : List Line}

theorem Unkept.ne_nil {word : List Char} (unkept : Unkept blanks word) :
    word ≠ [] := by
  cases unkept with
  | lineEnd | blankLine | dashes => exact List.cons_ne_nil _ _

/-- If the statements come back, so does everything in their literals. -/
theorem literalsKept_of_right (areLines : AreLines blanks lines)
    {lexemes : List Lexeme}
    (right : (cut blanks (cleaned blanks lines)).map (content blanks) =
      statements lexemes) : LiteralsKept blanks lexemes := by
  intro word unkept isInfix
  obtain ⟨statement, member, inside⟩ :=
    exists_statement unkept.ne_nil isInfix
  rw [← right] at member
  obtain ⟨piece, isPiece, rfl⟩ := List.mem_map.mp member
  exact not_infix_cleaned areLines unkept
    ((infix_of_lex (infix_of_tidy inside)).trans (infix_of_mem_cut isPiece))

/-- A script is split right exactly if it is separated and nothing in its
literals looks like the end of a dropped line. -/
theorem cut_cleaned_iff (areLines : AreLines blanks lines)
    (closed : IsClosed blanks (joined lines))
    (comments : CommentsMatch blanks .start lines) :
    (cut blanks (cleaned blanks lines)).map (content blanks) =
        statements (lex blanks .start (joined lines)) ↔
      LiteralsKept blanks (lex blanks .start (joined lines)) ∧
        Separated blanks (lex blanks .start (joined lines)) := by
  have splits : LiteralsKept blanks (lex blanks .start (joined lines)) →
      ((cut blanks (cleaned blanks lines)).map (content blanks) =
          statements (lex blanks .start (joined lines)) ↔
        Separated blanks (lex blanks .start (joined lines))) := by
    intro kept
    obtain ⟨same, plain, cleanClosed⟩ := cleaned_right
      (.atLine .start (.inl rfl)) areLines comments closed kept
      fun inside => inside.elim
    rw [← statements_tidy, ← @separated_tidy blanks true,
      same true (.inr rfl), statements_tidy, separated_tidy]
    exact (cut_script cleanClosed plain).2
  constructor
  · intro right
    have kept := literalsKept_of_right areLines right
    exact ⟨kept, (splits kept).mp right⟩
  · rintro ⟨kept, separated⟩
    exact (splits kept).mpr separated

end Splitting

end ScriptLexing
