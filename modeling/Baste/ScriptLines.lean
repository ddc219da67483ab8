import Baste.ScriptCutting

/-!
# Scripts line by line

Whoever drops the blank lines of a script, and those that begin with two
dashes, and then cuts it at its semicolons, gets its statements exactly if it
is separated and no literal has such a line, or an unusual line end, in it.
-/

namespace ScriptLexing

/-- A line and what ends it. -/
structure Line where
  text : List Char
  ending : List Char

namespace Line

def whole (line : Line) : List Char :=
  line.text ++ line.ending

/-- No character ends the line before its end. -/
structure Valid (blanks : Blanks) (line : Line) : Prop where
  text : ∀ char ∈ line.text, blanks.isLineEnd char = false
  ending : ∀ char ∈ line.ending, blanks.isLineEnd char = true

end Line

/-- The text of some lines. -/
def joined (lines : List Line) : List Char :=
  lines.flatMap Line.whole

variable (blanks : Blanks)

/-- The lines of a text.  Only the last may lack an end. -/
def AreLines : List Line → Prop
  | [] => True
  | line :: lines =>
      line.Valid blanks ∧ (line.ending = [] → lines = []) ∧ AreLines lines

/-- The line is blank, or begins with two dashes. -/
def isDropped (text : List Char) : Bool :=
  ['-', '-'].isPrefixOf (blanks.trim text) || (blanks.trim text).isEmpty

/-- The other lines. -/
def cleaned (lines : List Line) : List Char :=
  (lines.filter (!isDropped blanks ·.text)).flatMap (·.text ++ ['\n'])

/-- Of the lines that begin outside literals, those are dropped that are blanks
and comments. -/
def CommentsMatch (mode : Mode) : List Line → Prop
  | [] => True
  | line :: lines =>
      (¬ mode.InLiteral → (isDropped blanks line.text = true ↔
        ∀ lexeme ∈ lex blanks mode line.whole, lexeme = .blank)) ∧
      CommentsMatch (after blanks mode line.whole) lines

instance (mode : Mode) (lines : List Line) :
    Decidable (CommentsMatch blanks mode lines) :=
  match lines with
  | [] => inferInstanceAs (Decidable True)
  | line :: lines =>
      have := instDecidableCommentsMatch (after blanks mode line.whole) lines
      inferInstanceAs (Decidable (_ ∧ _))

/-- An unusual line end, a blank line, or the beginning of a line with two
dashes. -/
inductive Unkept : List Char → Prop
  | lineEnd (char : Char) (ends : blanks.isLineEnd char = true)
      (unusual : char ≠ '\n') : Unkept [char]
  | blankLine (spaces : List Char)
      (areSpaces : ∀ char ∈ spaces, blanks.isSpace char = true ∧
        blanks.isLineEnd char = false) :
      Unkept ('\n' :: (spaces ++ ['\n']))
  | dashes (spaces : List Char)
      (areSpaces : ∀ char ∈ spaces, blanks.isSpace char = true ∧
        blanks.isLineEnd char = false) :
      Unkept ('\n' :: (spaces ++ ['-', '-']))

/-- Nothing in a literal looks like the end of a dropped line. -/
def LiteralsKept (lexemes : List Lexeme) : Prop :=
  ∀ word, Unkept blanks word → ¬ word.map .quoted <:+: lexemes

section LineEnds

variable {blanks}
variable {mode : Mode} {char : Char} {text ending rest : List Char}
variable {line : Line}

/-- The mode at the beginning of a line outside literals. -/
def Mode.AtLine (mode : Mode) : Prop :=
  mode = .code true ∨ mode = .comment true

def Mode.NoDash (mode : Mode) : Prop :=
  ∀ fresh, mode ≠ .dash fresh

theorem Mode.AtLine.noDash (atLine : mode.AtLine) : mode.NoDash := by
  intro fresh isDash
  rcases atLine with same | same
  · cases same.symm.trans isDash
  · cases same.symm.trans isDash

theorem Mode.AtLine.outside (atLine : mode.AtLine) : ¬ mode.InLiteral := by
  rcases atLine with rfl | rfl
  · exact id
  · exact id

theorem noDash_after (noDash : mode.NoDash) :
    (after blanks mode text).NoDash :=
  fun fresh => after_ne_dash (.inl noDash) fresh

/-- The end of a line is read alike before all lines. -/
theorem read_lineEnd (noDash : mode.NoDash)
    (ends : blanks.isLineEnd char = true) (first second : List Char) :
    mode.read blanks char first = mode.read blanks char second := by
  cases mode with
  | code fresh =>
      have space := blanks.isSpace_of_isLineEnd _ ends
      rw [read_space space, read_space space]
  | literal | escaped | comment => rfl
  | dash fresh => exact absurd rfl (noDash fresh)

theorem lex_lineEnds (noDash : mode.NoDash)
    (ends : ∀ char ∈ ending, blanks.isLineEnd char = true) :
    lex blanks mode (ending ++ rest) =
        lex blanks mode ending ++ lex blanks (after blanks mode ending) rest ∧
      after blanks mode (ending ++ rest) =
        after blanks (after blanks mode ending) rest := by
  induction ending generalizing mode with
  | nil => exact ⟨rfl, rfl⟩
  | cons char ending ih =>
      obtain ⟨here, later⟩ := List.forall_mem_cons.mp ends
      have same := read_lineEnd noDash here (ending ++ rest) ending
      have nextNoDash : (mode.read blanks char ending).2.NoDash :=
        @noDash_after blanks mode [char] noDash |> fun next => by
          rwa [after, after, read_lineEnd noDash here [] ending] at next
      obtain ⟨lexemes, modes⟩ := ih nextNoDash later
      constructor
      · rw [List.cons_append, lex, same, lexemes, lex, after,
          List.cons_append]
      · rw [List.cons_append, after, same, modes, after]

/-- A line with an end is read alike before all lines. -/
theorem lex_whole (noDash : mode.NoDash) (valid : line.Valid blanks)
    (hasEnd : line.ending ≠ []) :
    lex blanks mode (line.whole ++ rest) =
        lex blanks mode line.whole ++
          lex blanks (after blanks mode line.whole) rest ∧
      after blanks mode (line.whole ++ rest) =
        after blanks (after blanks mode line.whole) rest := by
  have endsHere : ∀ rest, EndsHere blanks (line.ending ++ rest) := by
    intro rest char member
    apply blanks.isSpace_of_isLineEnd
    apply valid.ending
    obtain ⟨first, others, isEnding⟩ := List.exists_cons_of_ne_nil hasEnd
    rw [isEnding] at member ⊢
    cases member
    exact List.mem_cons_self
  have alone := endsHere []
  rw [List.append_nil] at alone
  obtain ⟨lexemes, modes⟩ :=
    @lex_lineEnds blanks (after blanks mode line.text) line.ending rest
      (noDash_after noDash) valid.ending
  constructor
  · rw [Line.whole, List.append_assoc, lex_append (endsHere rest), lexemes,
      lex_append alone, after_append alone, List.append_assoc]
  · rw [Line.whole, List.append_assoc, after_append (endsHere rest), modes,
      after_append alone]

/-- Outside literals nothing but blanks comes of line ends. -/
theorem lineEnds_outside (noDash : mode.NoDash) (outside : ¬ mode.InLiteral)
    (ends : ∀ char ∈ ending, blanks.isLineEnd char = true) :
    (∀ lexeme ∈ lex blanks mode ending, lexeme = .blank) ∧
      (ending ≠ [] → (after blanks mode ending).AtLine) ∧
      ¬ (after blanks mode ending).InLiteral := by
  induction ending generalizing mode with
  | nil => exact ⟨List.forall_mem_nil _, fun some => absurd rfl some, outside⟩
  | cons char ending ih =>
      obtain ⟨here, later⟩ := List.forall_mem_cons.mp ends
      have atLine : (mode.read blanks char ending).1 = .blank ∧
          (mode.read blanks char ending).2.AtLine := by
        cases mode with
        | code fresh =>
            rw [read_space (blanks.isSpace_of_isLineEnd _ here), here,
              Bool.or_true]
            exact ⟨rfl, .inl rfl⟩
        | comment fresh =>
            rw [Mode.read, if_pos here]
            refine ⟨rfl, ?_⟩
            dsimp only
            split_ifs
            · exact .inl rfl
            · exact .inr rfl
        | literal | escaped => exact absurd trivial outside
        | dash fresh => exact absurd rfl (noDash fresh)
      obtain ⟨areBlank, laterAtLine, closed⟩ :=
        ih atLine.2.noDash atLine.2.outside later
      refine ⟨?_, fun _ => ?_, closed⟩
      · rw [lex]
        exact List.forall_mem_cons.mpr ⟨atLine.1, areBlank⟩
      · rw [after]
        cases ending with
        | nil => exact atLine.2
        | cons => exact laterAtLine (List.cons_ne_nil _ _)

end LineEnds

section DroppedLines

variable {blanks}
variable {mode : Mode} {quote : Char} {text rest : List Char}

theorem trim_spaces {spaces : List Char}
    (areSpaces : ∀ char ∈ spaces, blanks.isSpace char = true) :
    blanks.trim (spaces ++ text) = blanks.trim text := by
  rw [Blanks.trim, Blanks.trim, List.dropWhile_append_of_pos areSpaces]

theorem trim_dashes : ∃ more,
    blanks.trim ('-' :: '-' :: text) = '-' :: '-' :: more := by
  have visible := @isSpace_dash blanks
  rw [Blanks.trim, List.dropWhile_cons_of_neg (by simp [visible]),
    List.reverse_cons, List.reverse_cons, List.append_assoc,
    List.dropWhile_append]
  split_ifs with nothing
  · exact ⟨[], by simp [visible]⟩
  · exact ⟨(text.reverse.dropWhile blanks.isSpace).reverse, by simp⟩

theorem isDropped_iff : isDropped blanks text = true ↔
    (∀ char ∈ text, blanks.isSpace char = true) ∨
      ∃ spaces more, (∀ char ∈ spaces, blanks.isSpace char = true) ∧
        text = spaces ++ '-' :: '-' :: more := by
  rw [isDropped, Bool.or_eq_true, List.isEmpty_iff, trim_eq_nil_iff, or_comm]
  apply or_congr_right
  constructor
  · intro begins
    obtain ⟨front, back, isText, areSpaces, -⟩ := exists_trim blanks text
    obtain ⟨more, isMore⟩ := List.isPrefixOf_iff_prefix.mp begins
    refine ⟨front, more ++ back, areSpaces, ?_⟩
    rw [isText, ← isMore]
    rfl
  · rintro ⟨spaces, more, areSpaces, rfl⟩
    rw [trim_spaces areSpaces]
    obtain ⟨others, begins⟩ := @trim_dashes blanks more
    rw [begins]
    rfl

/-- A statement or a literal has no blanks but spaces in its line. -/
theorem plain_settled (settled : mode.settled = mode)
    (inside : ∀ char ∈ text, blanks.isLineEnd char = false) :
    Plain blanks text (lex blanks mode text) := by
  induction text generalizing mode with
  | nil => exact .nil
  | cons char text ih =>
      obtain ⟨noEnd, later⟩ := List.forall_mem_cons.mp inside
      have step := @reads blanks mode char text
      rw [lex]
      generalize mode.read blanks char text = outcome at step ⊢
      cases step with
      | opens fresh | comment fresh =>
          cases settled
          exact .cons (fun isBlank => by cases isBlank) (ih rfl later)
      | quote | separator | code | closes | escaped =>
          exact .cons (fun isBlank => by cases isBlank) (ih rfl later)
      | blank fresh space =>
          cases settled
          refine .cons (fun _ => space) (ih ?_ later)
          rw [noEnd]
          rfl
      | inside _ _ isNext =>
          refine .cons (fun isBlank => by cases isBlank) (ih ?_ later)
          rcases isNext with rfl | rfl
          · rfl
          · rfl
      | dash fresh _ isNext =>
          cases settled
          refine .cons (fun isBlank => by cases isBlank) (ih ?_ later)
          rcases isNext with ⟨rfl, -⟩ | ⟨rfl, -⟩
          · rfl
          · rfl
      | lineEnd _ _ ends =>
          rw [noEnd] at ends
          cases ends

/-- A line that is kept does not begin with a comment. -/
theorem plain_kept (isKept : isDropped blanks text = false)
    (inside : ∀ char ∈ text, blanks.isLineEnd char = false) :
    Plain blanks text (lex blanks (.code true) text) := by
  have noDashes : ∀ spaces more,
      (∀ char ∈ spaces, blanks.isSpace char = true) →
      text ≠ spaces ++ '-' :: '-' :: more := by
    intro spaces more areSpaces isText
    rw [← Bool.not_eq_true, isDropped_iff] at isKept
    exact isKept (.inr ⟨spaces, more, areSpaces, isText⟩)
  clear isKept
  induction text with
  | nil => exact .nil
  | cons char text ih =>
      obtain ⟨noEnd, later⟩ := List.forall_mem_cons.mp inside
      have step := @reads blanks (.code true) char text
      rw [lex]
      generalize (Mode.code true).read blanks char text = outcome at step ⊢
      cases step with
      | opens _ isDash opens =>
          unfold opensComment at opens
          split at opens
          · subst isDash
            exact absurd rfl (noDashes [] _ (List.forall_mem_nil _))
          · cases opens
      | quote | separator | code =>
          exact .cons (fun isBlank => by cases isBlank)
            (plain_settled rfl later)
      | blank _ space =>
          refine .cons (fun _ => space) (ih later ?_)
          intro spaces more areSpaces isText
          refine noDashes (char :: spaces) more ?_ (by rw [isText]; rfl)
          exact List.forall_mem_cons.mpr ⟨space, areSpaces⟩

/-- A comment goes on to the end of its line. -/
theorem lex_comment_line
    (inside : ∀ char ∈ text, blanks.isLineEnd char = false) :
    (∀ lexeme ∈ lex blanks (.comment true) text, lexeme = .blank) ∧
      after blanks (.comment true) text = .comment true := by
  induction text with
  | nil => exact ⟨List.forall_mem_nil _, rfl⟩
  | cons char text ih =>
      obtain ⟨noEnd, later⟩ := List.forall_mem_cons.mp inside
      have here : (Mode.comment true).read blanks char text =
          (.blank, .comment true) := by
        rw [Mode.read, if_neg (by simp [noEnd])]
        rfl
      rw [lex, after, here]
      exact ⟨List.forall_mem_cons.mpr ⟨rfl, (ih later).1⟩, (ih later).2⟩

theorem outside_of_blank (outside : ¬ mode.InLiteral)
    (areBlank : ∀ lexeme ∈ lex blanks mode text, lexeme = .blank) :
    ¬ (after blanks mode text).InLiteral := by
  induction text generalizing mode with
  | nil => exact outside
  | cons char text ih =>
      rw [lex] at areBlank
      obtain ⟨here, later⟩ := List.forall_mem_cons.mp areBlank
      refine ih ?_ later
      have step := @reads blanks mode char text
      generalize mode.read blanks char text = outcome at step here ⊢
      cases step with
      | opens | blank | comment => exact id
      | dash _ _ isNext =>
          rcases isNext with ⟨rfl, -⟩ | ⟨rfl, -⟩
          · exact id
          · exact id
      | lineEnd _ _ _ isNext =>
          rcases isNext with rfl | rfl
          · exact id
          · exact id
      | quote | separator | code => cases here
      | inside | closes | escaped => exact absurd trivial outside

end DroppedLines

section Literals

variable {blanks}
variable {mode : Mode} {quote char : Char} {text ending rest : List Char}
variable {line : Line} {lines : List Line}

theorem LiteralsKept.of_infix {part lexemes : List Lexeme}
    (kept : LiteralsKept blanks lexemes) (isPart : part <:+: lexemes) :
    LiteralsKept blanks part :=
  fun word unkept isInfix => kept word unkept (isInfix.trans isPart)

theorem read_literal (other : char ≠ quote) (noEscape : char ≠ '\\') :
    (Mode.literal quote).read blanks char rest =
      (.quoted char, .literal quote) := by
  rw [Mode.read, if_neg other, if_neg (by simp [noEscape])]

theorem read_literal_space (isQuoted : isQuote quote = true)
    (space : blanks.isSpace char = true) :
    (Mode.literal quote).read blanks char rest =
      (.quoted char, .literal quote) := by
  apply read_literal
  · rintro rfl
    rw [isSpace_of_isQuote isQuoted] at space
    cases space
  · rintro rfl
    rw [blanks.visible _ (by simp)] at space
    cases space

theorem read_literal_dash (isQuoted : isQuote quote = true) :
    (Mode.literal quote).read blanks '-' rest =
      (.quoted '-', .literal quote) := by
  apply read_literal
  · rintro rfl
    cases isQuoted
  · decide

theorem lex_literal_spaces (isQuoted : isQuote quote = true)
    (spaces : ∀ char ∈ text, blanks.isSpace char = true) :
    lex blanks (.literal quote) (text ++ rest) =
        text.map .quoted ++ lex blanks (.literal quote) rest ∧
      after blanks (.literal quote) (text ++ rest) =
        after blanks (.literal quote) rest := by
  induction text with
  | nil => exact ⟨rfl, rfl⟩
  | cons char text ih =>
      obtain ⟨space, later⟩ := List.forall_mem_cons.mp spaces
      obtain ⟨lexemes, modes⟩ := ih later
      rw [List.cons_append, lex, after, read_literal_space isQuoted space]
      exact ⟨by rw [lexemes]; rfl, modes⟩

/-- The end of a line in a literal is a newline. -/
theorem literal_lineEnd (sound : mode.Sound) (inside : mode.InLiteral)
    (hasEnd : ending ≠ [])
    (ends : ∀ char ∈ ending, blanks.isLineEnd char = true)
    (kept : LiteralsKept blanks (lex blanks mode ending)) :
    ending = ['\n'] ∧ lex blanks mode ['\n'] = [.quoted '\n'] ∧
      ∃ quote, isQuote quote = true ∧
        after blanks mode ['\n'] = .literal quote := by
  have newline := blanks.isSpace_of_isLineEnd _ blanks.isLineEnd_newline
  obtain ⟨quote, isQuoted, reads⟩ : ∃ quote, isQuote quote = true ∧
      ∀ char rest, blanks.isSpace char = true →
        mode.read blanks char rest = (.quoted char, .literal quote) := by
    cases mode with
    | literal quote =>
        exact ⟨quote, sound, fun _ _ => read_literal_space sound⟩
    | escaped quote => exact ⟨quote, sound, fun _ _ _ => rfl⟩
    | code | dash | comment => exact inside.elim
  have unusual : ∀ char later, lex blanks mode ending =
      .quoted char :: later → blanks.isLineEnd char = true → char = '\n' := by
    intro char later lexemes isEnd
    by_contra other
    refine kept [char] (.lineEnd char isEnd other) ⟨[], later, ?_⟩
    rw [lexemes]
    rfl
  refine ⟨?_, by rw [lex, reads _ _ newline]; rfl, quote, isQuoted,
    by rw [after, reads _ _ newline]; rfl⟩
  cases ending with
  | nil => exact absurd rfl hasEnd
  | cons char ending =>
      obtain ⟨here, later⟩ := List.forall_mem_cons.mp ends
      have space := blanks.isSpace_of_isLineEnd _ here
      rw [lex, reads _ _ space] at kept unusual
      cases unusual char _ rfl here
      cases ending with
      | nil => rfl
      | cons char ending =>
          exfalso
          have isEnd := later char List.mem_cons_self
          rw [lex, read_literal_space isQuoted
            (blanks.isSpace_of_isLineEnd _ isEnd)] at kept
          by_cases isNewline : char = '\n'
          · subst isNewline
            exact kept _ (.blankLine [] (List.forall_mem_nil _)) ⟨[], _, rfl⟩
          · exact kept _ (.lineEnd char isEnd isNewline)
              ⟨[.quoted '\n'], _, rfl⟩

/-- No line that begins in a literal is dropped. -/
theorem isDropped_literal (isQuoted : isQuote quote = true)
    (valid : AreLines blanks (line :: lines))
    (closed : ¬ (after blanks (.literal quote)
      (joined (line :: lines))).InLiteral)
    (kept : LiteralsKept blanks (.quoted '\n' ::
      lex blanks (.literal quote) (joined (line :: lines)))) :
    isDropped blanks line.text = false := by
  rw [← Bool.not_eq_true]
  intro dropped
  have isJoined : joined (line :: lines) =
      line.text ++ (line.ending ++ joined lines) := by
    rw [joined, List.flatMap_cons, Line.whole, List.append_assoc]
    rfl
  rw [isJoined] at closed kept
  obtain ⟨lineValid, hasEnd, -⟩ := valid
  rcases isDropped_iff.mp dropped with spaces | ⟨spaces, more, areSpaces, isText⟩
  · obtain ⟨lexemes, modes⟩ :=
      @lex_literal_spaces blanks quote line.text (line.ending ++ joined lines)
        isQuoted spaces
    rw [lexemes] at kept
    rw [modes] at closed
    cases isEnding : line.ending with
    | nil =>
        rw [isEnding, hasEnd isEnding] at closed
        exact closed trivial
    | cons char ending =>
        have ends : blanks.isLineEnd char = true :=
          lineValid.ending char (by rw [isEnding]; exact List.mem_cons_self)
        rw [isEnding, List.cons_append, lex, read_literal_space isQuoted
          (blanks.isSpace_of_isLineEnd _ ends)] at kept
        by_cases isNewline : char = '\n'
        · subst isNewline
          refine kept _ (.blankLine line.text fun char member =>
            ⟨spaces char member, lineValid.text char member⟩)
              ⟨[], lex blanks (.literal quote) (ending ++ joined lines), ?_⟩
          simp
        · refine kept _ (.lineEnd char ends isNewline)
            ⟨.quoted '\n' :: line.text.map .quoted,
              lex blanks (.literal quote) (ending ++ joined lines), ?_⟩
          simp
  · obtain ⟨lexemes, -⟩ :=
      @lex_literal_spaces blanks quote spaces
        ('-' :: '-' :: more ++ (line.ending ++ joined lines)) isQuoted areSpaces
    rw [isText, List.append_assoc, lexemes, List.cons_append, lex,
      read_literal_dash isQuoted, List.cons_append, lex,
      read_literal_dash isQuoted] at kept
    refine kept _ (.dashes spaces fun char member =>
      ⟨areSpaces char member, lineValid.text char ?_⟩) ⟨[],
        lex blanks (.literal quote) (more ++ (line.ending ++ joined lines)), ?_⟩
    · rw [isText]
      exact List.mem_append_left _ member
    · simp

end Literals

section Cleaning

variable {blanks}
variable {mode clean : Mode} {due : Bool} {rest : List Char}
variable {first firsts seconds : List Lexeme}
variable {line : Line} {lines : List Line}

/-- The modes at the beginning of a line, in the script and in what is left of
it. -/
inductive Aligned : Mode → Mode → Prop
  | atLine (mode : Mode) (atLine : mode.AtLine) : Aligned mode (.code true)
  | literal (quote : Char) (isQuoted : isQuote quote = true) :
      Aligned (.literal quote) (.literal quote)

theorem Aligned.noDash (aligned : Aligned mode clean) : mode.NoDash := by
  cases aligned with
  | atLine _ atLine => exact atLine.noDash
  | literal quote isQuoted => exact fun _ isDash => by cases isDash

theorem Aligned.sound (aligned : Aligned mode clean) : mode.Sound := by
  cases aligned with
  | atLine _ atLine =>
      rcases atLine with rfl | rfl
      · trivial
      · trivial
  | literal quote isQuoted => exact isQuoted

theorem Line.Valid.endsHere (valid : line.Valid blanks) :
    EndsHere blanks line.ending :=
  fun char member => blanks.isSpace_of_isLineEnd _
    (valid.ending char (List.mem_of_mem_head? member))

theorem tidy_some_blanks (some : first ≠ [])
    (areBlank : ∀ lexeme ∈ first, lexeme = .blank) :
    tidy due (first ++ firsts) = tidy true firsts := by
  cases first with
  | nil => exact absurd rfl some
  | cons lexeme first =>
      obtain ⟨rfl, later⟩ := List.forall_mem_cons.mp areBlank
      exact tidy_blanks_append later

theorem endsHere_newline : EndsHere blanks ('\n' :: rest) :=
  endsHere_cons (blanks.isSpace_of_isLineEnd _ blanks.isLineEnd_newline)

theorem lex_newline (noDash : mode.NoDash) (outside : ¬ mode.InLiteral) :
    lex blanks mode ['\n'] = [.blank] ∧
      after blanks mode ['\n'] = .code true := by
  cases mode with
  | code fresh =>
      rw [lex, after, read_space
        (blanks.isSpace_of_isLineEnd _ blanks.isLineEnd_newline),
        blanks.isLineEnd_newline, Bool.or_true]
      exact ⟨rfl, rfl⟩
  | comment fresh =>
      rw [lex, after, Mode.read, if_pos blanks.isLineEnd_newline]
      exact ⟨rfl, rfl⟩
  | literal | escaped => exact absurd trivial outside
  | dash fresh => exact absurd rfl (noDash fresh)

/-- A line that is kept may end in a newline. -/
theorem kept_line (noDash : mode.NoDash) (sound : mode.Sound)
    (valid : line.Valid blanks) (hasEnd : line.ending ≠ [])
    (kept : LiteralsKept blanks (lex blanks mode line.whole)) :
    Aligned (after blanks mode line.whole)
        (after blanks mode (line.text ++ ['\n'])) ∧
      ((after blanks mode line.whole).InLiteral →
        [.quoted '\n'] <:+ lex blanks mode line.whole) ∧
      ∀ due firsts seconds, (∀ due,
          (after blanks mode line.whole).InLiteral ∨ due = true →
            tidy due firsts = tidy due seconds) →
        tidy due (lex blanks mode line.whole ++ firsts) =
          tidy due (lex blanks mode (line.text ++ ['\n']) ++ seconds) := by
  have endsHere := valid.endsHere
  have laterNoDash := @noDash_after blanks mode line.text noDash
  rw [Line.whole, lex_append endsHere, after_append endsHere] at *
  rw [lex_append endsHere_newline, after_append endsHere_newline]
  by_cases inside : (after blanks mode line.text).InLiteral
  · obtain ⟨isNewline, newline, quote, isQuoted, isLiteral⟩ :=
      literal_lineEnd (sound_after sound) inside hasEnd valid.ending
        (kept.of_infix (List.suffix_append _ _).isInfix)
    rw [isNewline, isLiteral]
    refine ⟨.literal quote isQuoted, fun _ => ?_,
      fun due firsts seconds same => ?_⟩
    · rw [newline]
      exact List.suffix_append _ _
    rw [tidy_append, same _ (.inl trivial), ← tidy_append]
  · obtain ⟨areBlank, atLine, -⟩ :=
      lineEnds_outside laterNoDash inside valid.ending
    obtain ⟨newline, isCode⟩ := @lex_newline blanks _ laterNoDash inside
    rw [isCode, newline]
    refine ⟨.atLine _ (atLine hasEnd),
      fun isLiteral => absurd isLiteral (atLine hasEnd).outside,
      fun due firsts seconds same => ?_⟩
    have some : lex blanks (after blanks mode line.text) line.ending ≠ [] := by
      intro nothing
      apply hasEnd
      rw [← List.length_eq_zero_iff, ← length_lex, nothing]
      rfl
    rw [List.append_assoc, tidy_append, tidy_some_blanks some areBlank,
      List.append_assoc, tidy_append, same true (.inr rfl)]
    rfl

/-- A line that is dropped ends outside literals. -/
theorem dropped_line (atLine : mode.AtLine) (valid : line.Valid blanks)
    (hasEnd : line.ending ≠ [])
    (areBlank : ∀ lexeme ∈ lex blanks mode line.whole, lexeme = .blank) :
    (after blanks mode line.whole).AtLine := by
  have endsHere := valid.endsHere
  rw [Line.whole, lex_append endsHere, List.forall_mem_append] at areBlank
  rw [Line.whole, after_append endsHere]
  exact (lineEnds_outside (noDash_after atLine.noDash)
    (outside_of_blank atLine.outside areBlank.1) valid.ending).2.1 hasEnd

/-- The script and what is left of it agree in a line that is kept. -/
theorem Aligned.eq_of_kept (aligned : Aligned mode clean)
    (valid : line.Valid blanks)
    (comments : CommentsMatch blanks mode (line :: lines))
    (isKept : isDropped blanks line.text = false) : mode = clean := by
  cases aligned with
  | literal => rfl
  | atLine _ atLine =>
      rcases atLine with rfl | rfl
      · rfl
      · exfalso
        rw [← Bool.not_eq_true, comments.1 id] at isKept
        apply isKept
        have endsHere := valid.endsHere
        obtain ⟨areBlank, goesOn⟩ := lex_comment_line valid.text
        rw [Line.whole, lex_append endsHere, List.forall_mem_append, goesOn]
        exact ⟨areBlank, (lineEnds_outside (fun _ isDash => by cases isDash) id
          valid.ending).1⟩

/-- A kept line is plain. -/
theorem plain_line (aligned : Aligned mode mode)
    (isKept : isDropped blanks line.text = false)
    (valid : line.Valid blanks) :
    Plain blanks (line.text ++ ['\n'])
      (lex blanks mode (line.text ++ ['\n'])) := by
  rw [lex_append endsHere_newline]
  apply List.rel_append
  · cases aligned with
    | atLine => exact plain_kept isKept valid.text
    | literal => exact plain_settled rfl valid.text
  · exact .cons (fun _ => blanks.isSpace_of_isLineEnd _ blanks.isLineEnd_newline)
      .nil

/-- Dropping lines changes nothing but comments and blanks. -/
theorem cleaned_right (aligned : Aligned mode clean)
    (areLines : AreLines blanks lines)
    (comments : CommentsMatch blanks mode lines)
    (closed : ¬ (after blanks mode (joined lines)).InLiteral)
    (kept : LiteralsKept blanks (lex blanks mode (joined lines)))
    (behind : mode.InLiteral → LiteralsKept blanks
      (.quoted '\n' :: lex blanks mode (joined lines))) :
    (∀ due, mode.InLiteral ∨ due = true →
      tidy due (lex blanks mode (joined lines)) =
        tidy due (lex blanks clean (cleaned blanks lines))) ∧
      Plain blanks (cleaned blanks lines)
        (lex blanks clean (cleaned blanks lines)) ∧
      ¬ (after blanks clean (cleaned blanks lines)).InLiteral := by
  induction lines generalizing mode clean with
  | nil =>
      refine ⟨fun _ _ => rfl, .nil, ?_⟩
      cases aligned with
      | atLine => exact id
      | literal => exact closed
  | cons line lines ih =>
      have isJoined : joined (line :: lines) = line.whole ++ joined lines := rfl
      obtain ⟨valid, hasEnd, areLater⟩ := areLines
      have noDash := aligned.noDash
      by_cases isKept : isDropped blanks line.text = false
      · have isCleaned : cleaned blanks (line :: lines) =
            line.text ++ ['\n'] ++ cleaned blanks lines := by
          rw [cleaned, List.filter_cons_of_pos (by simp [isKept])]
          rfl
        cases aligned.eq_of_kept valid comments isKept
        have plain := plain_line aligned isKept valid
        rw [isCleaned]
        by_cases some : line.ending = []
        · cases hasEnd some
          have isText : joined [line] = line.text := by
            rw [isJoined, Line.whole, some, List.append_nil]
            exact List.append_nil _
          have isLast : line.text ++ ['\n'] ++ cleaned blanks [] =
              line.text ++ ['\n'] :=
            List.append_nil _
          rw [isText] at closed ⊢
          rw [isLast, lex_append endsHere_newline,
            after_append endsHere_newline]
          rw [lex_append endsHere_newline] at plain
          obtain ⟨newline, isCode⟩ :=
            @lex_newline blanks _ (noDash_after noDash) closed
          refine ⟨fun due _ => ?_, plain, ?_⟩
          · rw [newline, tidy_append_blanks (by simp)]
          · rw [isCode]
            exact id
        · obtain ⟨lexemes, modes⟩ :=
            @lex_whole blanks mode (joined lines) line noDash valid some
          obtain ⟨cleanLexemes, cleanModes⟩ :=
            @lex_whole blanks mode (cleaned blanks lines)
              ⟨line.text, ['\n']⟩ noDash
              ⟨valid.text, by simp [blanks.isLineEnd_newline]⟩ (by simp)
          rw [Line.whole] at cleanLexemes cleanModes
          dsimp only at cleanLexemes cleanModes
          rw [isJoined] at closed kept behind ⊢
          rw [lexemes] at kept behind ⊢
          rw [modes] at closed
          rw [cleanLexemes, cleanModes]
          obtain ⟨later, ends, same⟩ := kept_line noDash aligned.sound valid
            some (kept.of_infix (List.prefix_append _ _).isInfix)
          obtain ⟨laterSame, laterPlain, laterClosed⟩ :=
            ih later areLater comments.2 closed
              (kept.of_infix (List.suffix_append _ _).isInfix) fun inside => by
                obtain ⟨before, isBefore⟩ := ends inside
                rw [← isBefore, List.append_assoc] at kept
                exact kept.of_infix (List.suffix_append _ _).isInfix
          exact ⟨fun due _ => same due _ _ laterSame,
            List.rel_append plain laterPlain, laterClosed⟩
      · have isCleaned : cleaned blanks (line :: lines) =
            cleaned blanks lines := by
          rw [cleaned, List.filter_cons_of_neg (by simpa using isKept)]
          rfl
        cases aligned with
        | literal quote isQuoted =>
            exact absurd (isDropped_literal isQuoted ⟨valid, hasEnd, areLater⟩
              closed (behind trivial)) isKept
        | atLine _ atLine =>
            have areBlank := (comments.1 atLine.outside).mp
              (by simpa using isKept)
            rw [isCleaned]
            by_cases some : line.ending = []
            · cases hasEnd some
              refine ⟨fun due _ => ?_, .nil, id⟩
              have isWhole : joined [line] = line.whole := List.append_nil _
              rw [isWhole, tidy_blanks areBlank]
              rfl
            · obtain ⟨lexemes, modes⟩ :=
                @lex_whole blanks mode (joined lines) line noDash valid some
              rw [isJoined] at closed kept ⊢
              rw [lexemes] at kept ⊢
              rw [modes] at closed
              have later := dropped_line atLine valid some areBlank
              obtain ⟨laterSame, laterPlain, laterClosed⟩ :=
                ih (.atLine _ later) areLater comments.2 closed
                  (kept.of_infix (List.suffix_append _ _).isInfix)
                  fun inside => absurd inside later.outside
              refine ⟨fun due isDue => ?_, laterPlain, laterClosed⟩
              cases isDue.resolve_left atLine.outside
              rw [tidy_blanks_append areBlank]
              exact laterSame true (.inr rfl)

end Cleaning

end ScriptLexing
