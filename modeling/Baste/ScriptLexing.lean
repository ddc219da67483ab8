import Mathlib.Data.List.TakeWhile
import Mathlib.Tactic.Common

/-!
# The lexical grammar of scripts

A script is a sequence of statements with semicolons between them.  Literals
stand in quotes, and a comment begins with two dashes before a blank or the end
of its statement, and ends with its line.  The lexer tells comments that have
their lines for themselves from those that follow something.
-/

namespace ScriptLexing

/-- The characters that are blank, and those of them that end a line. -/
structure Blanks where
  isSpace : Char → Bool
  isLineEnd : Char → Bool
  isSpace_of_isLineEnd : ∀ char, isLineEnd char = true → isSpace char = true
  isLineEnd_newline : isLineEnd '\n' = true
  visible : ∀ char ∈ ['-', ';', '\x27', '"', '\x60', '\\'],
    isSpace char = false

/-- What a character is in a script.  Blanks and comments that have their lines
for themselves are alike. -/
inductive Lexeme where
  | code (char : Char)
  | quoted (char : Char)
  | comment (char : Char)
  | blank
  | separator
  deriving DecidableEq, Repr

/-- Where the lexer is: in a statement, in a literal, behind its escape
character, behind the first dash of a comment, or in a comment.  It is fresh
if nothing but blanks and comments has come in this line. -/
inductive Mode where
  | code (fresh : Bool)
  | literal (quote : Char)
  | escaped (quote : Char)
  | dash (fresh : Bool)
  | comment (fresh : Bool)
  deriving DecidableEq, Repr

namespace Mode

/-- The beginning of a script. -/
abbrev start : Mode :=
  .code true

def InLiteral : Mode → Prop
  | literal _ | escaped _ => True
  | _ => False

instance : (mode : Mode) → Decidable mode.InLiteral
  | literal _ | escaped _ => inferInstanceAs (Decidable True)
  | code _ | dash _ | comment _ => inferInstanceAs (Decidable False)

end Mode

def isQuote (char : Char) : Bool :=
  char = '\x27' || char = '"' || char = '\x60'

/-- A character of a comment. -/
def Lexeme.ofComment (fresh : Bool) (char : Char) : Lexeme :=
  if fresh then .blank else .comment char

variable (blanks : Blanks)

/-- The dash before this text is the first of a comment. -/
def opensComment : List Char → Bool
  | '-' :: rest => rest.head?.all fun char =>
      blanks.isSpace char || char = ';'
  | _ => false

/-- Read a character before the rest of the text. -/
def Mode.read (char : Char) (rest : List Char) : Mode → Lexeme × Mode
  | code fresh =>
      if char = '-' ∧ opensComment blanks rest then
        (.ofComment fresh char, .dash fresh)
      else if isQuote char then (.quoted char, .literal char)
      else if char = ';' then (.separator, .code false)
      else if blanks.isSpace char then
        (.blank, .code (fresh || blanks.isLineEnd char))
      else (.code char, .code false)
  | literal quote =>
      (.quoted char,
        if char = quote then .code false
        else if char = '\\' ∧ quote ≠ '\x60' then .escaped quote
        else .literal quote)
  | escaped quote => (.quoted char, .literal quote)
  | dash fresh =>
      (.ofComment fresh char,
        if rest.head? = some ';' then .code fresh else .comment fresh)
  | comment fresh =>
      if blanks.isLineEnd char then
        (.blank, if char = '\n' then .code true else .comment true)
      else (.ofComment fresh char, .comment fresh)

def lex (mode : Mode) : List Char → List Lexeme
  | [] => []
  | char :: rest =>
      (mode.read blanks char rest).1 ::
        lex (mode.read blanks char rest).2 rest

/-- The mode behind a text. -/
def after (mode : Mode) : List Char → Mode
  | [] => mode
  | char :: rest => after (mode.read blanks char rest).2 rest

/-- Every literal of the script is closed. -/
abbrev IsClosed (text : List Char) : Prop :=
  ¬ (after blanks .start text).InLiteral

section Statements

/-- A comment is nothing but a blank. -/
def Lexeme.bare : Lexeme → Lexeme
  | comment _ => blank
  | lexeme => lexeme

/-- Keep one blank before every word of a statement.  It is due at the
beginning of a statement and behind blanks. -/
def tidy : Bool → List Lexeme → List Lexeme
  | _, [] => []
  | _, .blank :: rest => tidy true rest
  | _, .separator :: rest => .separator :: tidy true rest
  | true, lexeme :: rest => .blank :: lexeme :: tidy false rest
  | false, lexeme :: rest => lexeme :: tidy false rest

def isSeparator (lexeme : Lexeme) : Bool :=
  lexeme = .separator

/-- A text up to comments and to blanks outside literals. -/
def content (text : List Char) : List Lexeme :=
  tidy true ((lex blanks .start text).map Lexeme.bare)

/-- The statements of a script up to comments and to blanks outside
literals. -/
def statements (lexemes : List Lexeme) : List (List Lexeme) :=
  ((tidy true (lexemes.map Lexeme.bare)).splitOnP isSeparator).filter (· ≠ [])

end Statements

section Reading

variable {blanks}
variable {mode : Mode} {char : Char} {text rest : List Char}

theorem isSpace_dash : blanks.isSpace '-' = false :=
  blanks.visible _ (by simp)

theorem isSpace_semicolon : blanks.isSpace ';' = false :=
  blanks.visible _ (by simp)

theorem isSpace_of_isQuote (quote : isQuote char = true) :
    blanks.isSpace char = false := by
  apply blanks.visible
  simp only [isQuote, Bool.or_eq_true, decide_eq_true_eq] at quote
  rcases quote with (rfl | rfl) | rfl
  · simp
  · simp
  · simp

theorem ne_semicolon_of_isQuote (quote : isQuote char = true) :
    char ≠ ';' := by
  rintro rfl
  exact absurd quote (by decide)

theorem isQuote_of_isSpace (space : blanks.isSpace char = true) :
    isQuote char = false := by
  rw [← Bool.not_eq_true]
  intro quote
  rw [isSpace_of_isQuote quote] at space
  cases space

/-- A blank or the end of the text is behind it. -/
def EndsHere (blanks : Blanks) (rest : List Char) : Prop :=
  ∀ char ∈ rest.head?, blanks.isSpace char = true

theorem endsHere_cons (space : blanks.isSpace char = true) :
    EndsHere blanks (char :: rest) := by
  intro other member
  cases member
  exact space

theorem opensComment_append (ends : EndsHere blanks rest) :
    opensComment blanks (text ++ rest) = opensComment blanks text := by
  cases text with
  | nil =>
      unfold opensComment
      split
      · rename_i more same
        have space := ends '-' (by rw [← List.nil_append rest, same]; rfl)
        rw [isSpace_dash] at space
        cases space
      · rfl
  | cons char more =>
      by_cases isDash : char = '-'
      · subst isDash
        cases more with
        | cons => rfl
        | nil =>
            cases rest with
            | nil => rfl
            | cons char more => simp [opensComment, ends char rfl]
      · simp [opensComment, isDash]

theorem opensComment_append_semicolon :
    opensComment blanks (text ++ ';' :: rest) = opensComment blanks text := by
  cases text with
  | nil => simp [opensComment]
  | cons char more =>
      by_cases isDash : char = '-'
      · subst isDash
        cases more with
        | cons => rfl
        | nil => simp [opensComment]
      · simp [opensComment, isDash]

theorem read_append (ends : EndsHere blanks rest) :
    mode.read blanks char (text ++ rest) = mode.read blanks char text := by
  cases mode with
  | code fresh => simp only [Mode.read, opensComment_append ends]
  | literal | escaped | comment => rfl
  | dash fresh =>
      cases text with
      | cons => rfl
      | nil =>
          cases rest with
          | nil => rfl
          | cons other more =>
              have space := ends other rfl
              have other_ne : other ≠ ';' := by
                rintro rfl
                rw [isSpace_semicolon] at space
                cases space
              simp [Mode.read, other_ne]

theorem lex_append (ends : EndsHere blanks rest) :
    lex blanks mode (text ++ rest) =
      lex blanks mode text ++ lex blanks (after blanks mode text) rest := by
  induction text generalizing mode with
  | nil => rfl
  | cons char text ih =>
      rw [List.cons_append, lex, lex, read_append ends, ih, after,
        List.cons_append]

theorem after_append (ends : EndsHere blanks rest) :
    after blanks mode (text ++ rest) =
      after blanks (after blanks mode text) rest := by
  induction text generalizing mode with
  | nil => rfl
  | cons char text ih => rw [List.cons_append, after, read_append ends, ih, after]

/-- Before a semicolon a text is read as at the end of a script.  Only two
dashes at its end do not go on as a comment. -/
theorem lex_append_semicolon :
    ∃ between, lex blanks mode (text ++ ';' :: rest) =
        lex blanks mode text ++ lex blanks between (';' :: rest) ∧
      after blanks mode (text ++ ';' :: rest) =
        after blanks between (';' :: rest) ∧
      (between = after blanks mode text ∨
        ∃ fresh, between = .code fresh ∧
          after blanks mode text = .comment fresh) := by
  induction text generalizing mode with
  | nil => exact ⟨mode, rfl, rfl, .inl rfl⟩
  | cons char text ih =>
      have goesOn : mode.read blanks char (text ++ ';' :: rest) =
            mode.read blanks char text ∨
          text = [] ∧ ∃ fresh, mode = .dash fresh := by
        cases mode with
        | code fresh =>
            simp [Mode.read, opensComment_append_semicolon]
        | literal | escaped | comment => exact .inl rfl
        | dash fresh =>
            cases text with
            | nil => exact .inr ⟨rfl, fresh, rfl⟩
            | cons => exact .inl rfl
      rcases goesOn with same | ⟨rfl, fresh, rfl⟩
      · rw [List.cons_append, lex, after, same, lex, after]
        obtain ⟨between, lexemes, modes, last⟩ :=
          @ih (mode.read blanks char text).2
        exact ⟨between, by rw [lexemes, List.cons_append], modes, last⟩
      · exact ⟨.code fresh, rfl, rfl, .inr ⟨fresh, rfl, rfl⟩⟩

theorem length_lex : (lex blanks mode text).length = text.length := by
  induction text generalizing mode with
  | nil => rfl
  | cons char text ih => rw [lex, List.length_cons, ih, List.length_cons]

end Reading

section Steps

variable {blanks}
variable {mode : Mode} {char : Char} {text rest : List Char}

/-- What the lexer does with a character. -/
inductive Reads (blanks : Blanks) (char : Char) (rest : List Char) :
    Mode → Lexeme × Mode → Prop
  | opens (fresh : Bool) (isDash : char = '-')
      (opens : opensComment blanks rest = true) :
      Reads blanks char rest (.code fresh)
        (.ofComment fresh char, .dash fresh)
  | quote (fresh : Bool) (quote : isQuote char = true) :
      Reads blanks char rest (.code fresh) (.quoted char, .literal char)
  | separator (fresh : Bool) (isSemicolon : char = ';') :
      Reads blanks char rest (.code fresh) (.separator, .code false)
  | blank (fresh : Bool) (space : blanks.isSpace char = true) :
      Reads blanks char rest (.code fresh)
        (.blank, .code (fresh || blanks.isLineEnd char))
  | code (fresh : Bool)
      (other : char ≠ '-' ∨ opensComment blanks rest = false)
      (noQuote : isQuote char = false) (noSemicolon : char ≠ ';')
      (visible : blanks.isSpace char = false) :
      Reads blanks char rest (.code fresh) (.code char, .code false)
  | inside (quote : Char) (next : Mode)
      (isNext : next = .literal quote ∨ next = .escaped quote) :
      Reads blanks char rest (.literal quote) (.quoted char, next)
  | closes (quote : Char) (isQuote : char = quote) :
      Reads blanks char rest (.literal quote) (.quoted char, .code false)
  | escaped (quote : Char) :
      Reads blanks char rest (.escaped quote) (.quoted char, .literal quote)
  | dash (fresh : Bool) (next : Mode)
      (isNext : next = .code fresh ∧ rest.head? = some ';' ∨
        next = .comment fresh ∧ rest.head? ≠ some ';') :
      Reads blanks char rest (.dash fresh) (.ofComment fresh char, next)
  | comment (fresh : Bool) (noEnd : blanks.isLineEnd char = false) :
      Reads blanks char rest (.comment fresh)
        (.ofComment fresh char, .comment fresh)
  | lineEnd (fresh : Bool) (next : Mode)
      (ends : blanks.isLineEnd char = true)
      (isNext : next = .code true ∨ next = .comment true) :
      Reads blanks char rest (.comment fresh) (.blank, next)

theorem reads :
    Reads blanks char rest mode (mode.read blanks char rest) := by
  cases mode with
  | code fresh =>
      unfold Mode.read
      dsimp only
      split_ifs with opens quote isSemicolon space
      · exact .opens fresh opens.1 opens.2
      · exact .quote fresh quote
      · exact .separator fresh isSemicolon
      · exact .blank fresh space
      · refine .code fresh ?_ (by simpa using quote) isSemicolon
          (by simpa using space)
        by_contra both
        push Not at both
        exact opens ⟨both.1, by simpa using both.2⟩
  | literal quote =>
      unfold Mode.read
      dsimp only
      split_ifs with isQuote escapes
      · exact .closes quote isQuote
      · exact .inside quote _ (.inr rfl)
      · exact .inside quote _ (.inl rfl)
  | escaped quote => exact .escaped quote
  | dash fresh =>
      unfold Mode.read
      dsimp only
      split_ifs with ends
      · exact .dash fresh _ (.inl ⟨rfl, ends⟩)
      · exact .dash fresh _ (.inr ⟨rfl, ends⟩)
  | comment fresh =>
      unfold Mode.read
      dsimp only
      split_ifs with ends newline
      · exact .lineEnd fresh _ ends (.inl rfl)
      · exact .lineEnd fresh _ ends (.inr rfl)
      · exact .comment fresh (by simpa using ends)

/-- What a lexeme says about its character. -/
def Lexeme.Fits (blanks : Blanks) (char : Char) : Lexeme → Prop
  | .code other =>
      other = char ∧ blanks.isSpace char = false ∧ char ≠ ';'
  | .quoted other | .comment other => other = char
  | .blank => True
  | .separator => char = ';'

theorem fits_ofComment (fresh : Bool) :
    (Lexeme.ofComment fresh char).Fits blanks char := by
  cases fresh with
  | true => trivial
  | false => exact rfl

theorem fits_read : (mode.read blanks char rest).1.Fits blanks char := by
  have step := @reads blanks mode char rest
  generalize mode.read blanks char rest = outcome at step ⊢
  cases step with
  | opens | dash | comment => exact fits_ofComment _
  | quote | inside | closes | escaped => exact rfl
  | separator _ isSemicolon => exact isSemicolon
  | blank | lineEnd => trivial
  | code _ _ _ noSemicolon visible => exact ⟨rfl, visible, noSemicolon⟩

theorem fits_lex (mode : Mode) (text : List Char) :
    List.Forall₂ (fun char (lexeme : Lexeme) => lexeme.Fits blanks char) text
      (lex blanks mode text) := by
  induction text generalizing mode with
  | nil => exact .nil
  | cons char text ih => exact .cons fits_read (ih _)

/-- Blanks and semicolons. -/
def Blanks.isVoid (blanks : Blanks) (char : Char) : Bool :=
  blanks.isSpace char || char = ';'

theorem isVoid_of_isQuote (quote : isQuote char = true) :
    blanks.isVoid char = false := by
  simp [Blanks.isVoid, isSpace_of_isQuote quote, ne_semicolon_of_isQuote quote]

theorem isVoid_dash : blanks.isVoid '-' = false := by
  simp [Blanks.isVoid, isSpace_dash]

/-- The quotes of literals are quotes. -/
def Mode.Sound : Mode → Prop
  | literal quote | escaped quote => isQuote quote = true
  | _ => True

theorem sound_read (sound : mode.Sound) :
    (mode.read blanks char rest).2.Sound := by
  have step := @reads blanks mode char rest
  generalize mode.read blanks char rest = outcome at step ⊢
  cases step with
  | opens | separator | blank | code | closes | comment => trivial
  | quote _ quote => exact quote
  | escaped => exact sound
  | inside _ _ isNext => rcases isNext with rfl | rfl <;> exact sound
  | dash _ _ isNext => rcases isNext with ⟨rfl, -⟩ | ⟨rfl, -⟩ <;> trivial
  | lineEnd _ _ _ isNext => rcases isNext with rfl | rfl <;> trivial

theorem sound_after (sound : mode.Sound) :
    (after blanks mode text).Sound := by
  induction text generalizing mode with
  | nil => exact sound
  | cons char text ih => exact ih (sound_read sound)

/-- A literal goes on until a quote comes. -/
theorem inLiteral_after (sound : mode.Sound) (isInside : mode.InLiteral)
    (noQuote : ∀ char ∈ text, isQuote char = false) :
    (after blanks mode text).InLiteral := by
  induction text generalizing mode with
  | nil => exact isInside
  | cons char text ih =>
      apply ih (sound_read sound)
      · have here := noQuote char List.mem_cons_self
        have step := @reads blanks mode char text
        generalize mode.read blanks char text = outcome at step ⊢
        cases step with
        | opens | quote | separator | blank | code | dash | comment
        | lineEnd => exact isInside.elim
        | inside _ _ isNext => rcases isNext with rfl | rfl <;> trivial
        | closes _ isQuote =>
            subst isQuote
            exact absurd (sound.symm.trans here) (by simp)
        | escaped => trivial
      · exact fun other member =>
          noQuote other (List.mem_cons_of_mem _ member)

/-- A statement without quotes and dashes stays one. -/
theorem after_code (visible : ∀ char ∈ text,
    isQuote char = false ∧ char ≠ '-') (fresh : Bool) :
    ∃ later, after blanks (.code fresh) text = .code later := by
  induction text generalizing fresh with
  | nil => exact ⟨fresh, rfl⟩
  | cons char text ih =>
      obtain ⟨noQuote, noDash⟩ := visible char List.mem_cons_self
      have later := ih fun other member =>
        visible other (List.mem_cons_of_mem _ member)
      have step := @reads blanks (.code fresh) char text
      rw [after]
      generalize (Mode.code fresh).read blanks char text = outcome at step ⊢
      cases step with
      | opens _ isDash => exact absurd isDash noDash
      | quote _ quote => rw [noQuote] at quote; cases quote
      | separator | blank | code => exact later _

/-- Without quotes there is no literal. -/
theorem notMem_quoted (outside : ¬ mode.InLiteral)
    (noQuote : ∀ char ∈ text, isQuote char = false) (other : Char) :
    .quoted other ∉ lex blanks mode text := by
  induction text generalizing mode with
  | nil => exact List.not_mem_nil
  | cons char text ih =>
      have here := noQuote char List.mem_cons_self
      have later := fun {next : Mode} (outside : ¬ next.InLiteral) =>
        @ih next outside fun other member =>
          noQuote other (List.mem_cons_of_mem _ member)
      have step := @reads blanks mode char text
      rw [lex, List.mem_cons, not_or]
      generalize mode.read blanks char text = outcome at step ⊢
      cases step with
      | opens fresh | comment fresh =>
          exact ⟨by cases fresh <;> simp [Lexeme.ofComment], later id⟩
      | quote _ quote => rw [here] at quote; cases quote
      | separator | blank | code => exact ⟨by simp, later id⟩
      | inside | closes | escaped => exact absurd trivial outside
      | dash fresh _ isNext =>
          refine ⟨by cases fresh <;> simp [Lexeme.ofComment], later ?_⟩
          rcases isNext with ⟨rfl, -⟩ | ⟨rfl, -⟩ <;> exact id
      | lineEnd _ _ _ isNext =>
          refine ⟨by simp, later ?_⟩
          rcases isNext with rfl | rfl <;> exact id

/-- A dash is read only before another one. -/
theorem after_ne_dash (possible : (∀ fresh, mode ≠ .dash fresh) ∨
    text.head? = some '-') (fresh : Bool) :
    after blanks mode text ≠ .dash fresh := by
  induction text generalizing mode with
  | nil =>
      rcases possible with noDash | absent
      · exact noDash fresh
      · cases absent
  | cons char text ih =>
      apply ih
      have step := @reads blanks mode char text
      generalize mode.read blanks char text = outcome at step ⊢
      cases step with
      | opens _ _ opens =>
          right
          unfold opensComment at opens
          split at opens
          · rfl
          · cases opens
      | quote | separator | blank | code | closes | escaped | comment =>
          exact .inl fun _ same => by cases same
      | inside _ _ isNext | lineEnd _ _ _ isNext =>
          rcases isNext with rfl | rfl
          · exact .inl fun _ same => by cases same
          · exact .inl fun _ same => by cases same
      | dash _ _ isNext =>
          rcases isNext with ⟨rfl, -⟩ | ⟨rfl, -⟩
          · exact .inl fun _ same => by cases same
          · exact .inl fun _ same => by cases same

/-- The lexeme is a blank, or a blank or semicolon in a comment. -/
def Lexeme.isVoid (blanks : Blanks) : Lexeme → Bool
  | .blank => true
  | .comment char => blanks.isVoid char
  | _ => false

/-- Blanks and semicolons in a statement. -/
theorem lex_void_code (voids : ∀ char ∈ text, blanks.isVoid char = true)
    (fresh : Bool) :
    ∀ lexeme ∈ lex blanks (.code fresh) text,
      lexeme = .blank ∨ lexeme = .separator := by
  induction text generalizing fresh with
  | nil => simp [lex]
  | cons char text ih =>
      have here := voids char List.mem_cons_self
      have later := ih fun other member =>
        voids other (List.mem_cons_of_mem _ member)
      have step := @reads blanks (.code fresh) char text
      rw [lex, List.forall_mem_cons]
      generalize (Mode.code fresh).read blanks char text = outcome at step ⊢
      cases step with
      | opens _ isDash =>
          rw [isDash, isVoid_dash] at here
          cases here
      | quote _ quote =>
          rw [isVoid_of_isQuote quote] at here
          cases here
      | separator => exact ⟨.inr rfl, later _⟩
      | blank => exact ⟨.inl rfl, later _⟩
      | code _ _ _ noSemicolon visible =>
          simp [Blanks.isVoid, noSemicolon, visible] at here

/-- Blanks and semicolons in a comment and behind it. -/
theorem lex_void_comment (voids : ∀ char ∈ text, blanks.isVoid char = true)
    (fresh : Bool) :
    ∀ lexeme ∈ lex blanks (.comment fresh) text,
      lexeme.isVoid blanks = true ∨ lexeme = .separator := by
  induction text generalizing fresh with
  | nil => simp [lex]
  | cons char text ih =>
      have here := voids char List.mem_cons_self
      have rest : ∀ other ∈ text, blanks.isVoid other = true :=
        fun other member => voids other (List.mem_cons_of_mem _ member)
      have step := @reads blanks (.comment fresh) char text
      rw [lex, List.forall_mem_cons]
      generalize (Mode.comment fresh).read blanks char text = outcome at step ⊢
      cases step with
      | comment =>
          refine ⟨.inl ?_, ih rest _⟩
          cases fresh with
          | true => rfl
          | false => exact here
      | lineEnd _ _ _ isNext =>
          refine ⟨.inl rfl, ?_⟩
          rcases isNext with rfl | rfl
          · intro lexeme member
            rcases lex_void_code rest true lexeme member with rfl | rfl
            · exact .inl rfl
            · exact .inr rfl
          · exact ih rest _

end Steps

section Tidying

variable {blanks}
variable {due : Bool} {first rest : List Lexeme}

/-- A blank is due behind these lexemes. -/
def dueAfter : Bool → List Lexeme → Bool
  | due, [] => due
  | _, lexeme :: rest =>
      dueAfter (lexeme = .blank || lexeme = .separator) rest

theorem tidy_append : tidy due (first ++ rest) =
    tidy due first ++ tidy (dueAfter due first) rest := by
  induction first generalizing due with
  | nil => rfl
  | cons lexeme first ih =>
      cases lexeme with
      | code | quoted | comment =>
          cases due with
          | true => simp [tidy, dueAfter, ih]
          | false => simp [tidy, dueAfter, ih]
      | blank | separator => simp [tidy, dueAfter, ih]

theorem tidy_separator : tidy due (first ++ .separator :: rest) =
    tidy due first ++ .separator :: tidy true rest := by
  rw [tidy_append]
  rfl

theorem tidy_blanks (areBlank : ∀ lexeme ∈ first, lexeme = .blank) :
    tidy due first = [] := by
  induction first generalizing due with
  | nil => rfl
  | cons lexeme first ih =>
      obtain ⟨rfl, later⟩ := List.forall_mem_cons.mp areBlank
      exact ih later

theorem tidy_blanks_append (areBlank : ∀ lexeme ∈ first, lexeme = .blank) :
    tidy true (first ++ rest) = tidy true rest := by
  induction first with
  | nil => rfl
  | cons lexeme first ih =>
      obtain ⟨rfl, later⟩ := List.forall_mem_cons.mp areBlank
      exact ih later

theorem tidy_append_blanks (areBlank : ∀ lexeme ∈ rest, lexeme = .blank) :
    tidy due (first ++ rest) = tidy due first := by
  rw [tidy_append, tidy_blanks areBlank, List.append_nil]

/-- The lexeme is no blank when comments count as blanks. -/
theorem tidy_eq_nil_iff :
    tidy due first = [] ↔ ∀ lexeme ∈ first, lexeme = .blank := by
  constructor
  · induction first generalizing due with
    | nil => simp
    | cons lexeme first ih =>
        intro nothing
        cases lexeme with
        | blank => exact List.forall_mem_cons.mpr ⟨rfl, ih nothing⟩
        | code | quoted | comment => cases due <;> cases nothing
        | separator => cases nothing
  · exact tidy_blanks

theorem separator_notMem_tidy (whole : .separator ∉ first) :
    .separator ∉ tidy due first := by
  induction first generalizing due with
  | nil => exact List.not_mem_nil
  | cons lexeme first ih =>
      obtain ⟨other, later⟩ := List.ne_and_not_mem_of_not_mem_cons whole
      cases lexeme with
      | blank => exact ih later
      | code | quoted | comment =>
          cases due with
          | true => simp [tidy, ih later]
          | false => simp [tidy, ih later]
      | separator => exact absurd rfl other

theorem separator_notMem_bare (whole : .separator ∉ first) :
    .separator ∉ first.map Lexeme.bare := by
  intro member
  obtain ⟨lexeme, isThere, same⟩ := List.mem_map.mp member
  cases lexeme with
  | separator => exact whole isThere
  | code | quoted | comment | blank => cases same

theorem splitOnP_whole (whole : .separator ∉ first) :
    first.splitOnP isSeparator = [first] := by
  apply List.splitOnP_eq_singleton
  intro lexeme member
  rw [isSeparator, decide_eq_false_iff_not]
  rintro rfl
  exact whole member

theorem statements_separator :
    statements (first ++ .separator :: rest) =
      statements first ++ statements rest := by
  unfold statements
  rw [List.map_append, List.map_cons]
  change ((tidy true (_ ++ .separator :: _)).splitOnP _).filter _ = _
  rw [tidy_separator, List.splitOnP_append_cons _ _ rfl, List.filter_append]

theorem statements_whole (whole : .separator ∉ first) :
    statements first =
      if tidy true (first.map Lexeme.bare) = [] then []
      else [tidy true (first.map Lexeme.bare)] := by
  unfold statements
  rw [splitOnP_whole (separator_notMem_tidy (separator_notMem_bare whole))]
  split_ifs with nothing
  · simp [nothing]
  · simp [nothing]

end Tidying

section Trimming

variable {blanks}
variable {text rest : List Char}

/-- The text without the blanks around it. -/
def Blanks.trim (blanks : Blanks) (text : List Char) : List Char :=
  ((text.dropWhile blanks.isSpace).reverse.dropWhile blanks.isSpace).reverse

theorem exists_trim (blanks : Blanks) (text : List Char) :
    ∃ front back, text = front ++ (blanks.trim text ++ back) ∧
      (∀ char ∈ front, blanks.isSpace char = true) ∧
      ∀ char ∈ back, blanks.isSpace char = true := by
  let rest := text.dropWhile blanks.isSpace
  refine ⟨text.takeWhile blanks.isSpace,
    (rest.reverse.takeWhile blanks.isSpace).reverse, ?_,
    fun char member => List.mem_takeWhile_imp member, fun char member =>
      List.mem_takeWhile_imp (List.mem_reverse.mp member)⟩
  have last : rest = blanks.trim text ++
      (rest.reverse.takeWhile blanks.isSpace).reverse := by
    rw [Blanks.trim, ← List.reverse_append, List.takeWhile_append_dropWhile,
      List.reverse_reverse]
  rw [← last, List.takeWhile_append_dropWhile]

theorem trim_eq_nil_iff : blanks.trim text = [] ↔
    ∀ char ∈ text, blanks.isSpace char = true := by
  constructor
  · intro nothing char member
    obtain ⟨front, back, isText, inFront, inBack⟩ := exists_trim blanks text
    rw [isText, nothing, List.nil_append, List.mem_append] at member
    exact member.elim (inFront char) (inBack char)
  · intro spaces
    rw [Blanks.trim, List.dropWhile_eq_nil_iff.mpr spaces]
    rfl

theorem read_space {char : Char} (space : blanks.isSpace char = true)
    (fresh : Bool) (rest : List Char) :
    (Mode.code fresh).read blanks char rest =
      (.blank, .code (fresh || blanks.isLineEnd char)) := by
  have ne : ∀ other, blanks.isSpace other = false → char ≠ other := by
    rintro other visible rfl
    rw [space] at visible
    cases visible
  simp [Mode.read, ne _ isSpace_dash, isQuote_of_isSpace space,
    ne _ isSpace_semicolon, space]

/-- Nothing comes of blanks at the beginning of a line. -/
theorem lex_spaces (spaces : ∀ char ∈ text, blanks.isSpace char = true) :
    ∃ before, (∀ lexeme ∈ before, lexeme = .blank) ∧
      lex blanks .start (text ++ rest) = before ++ lex blanks .start rest ∧
      after blanks .start (text ++ rest) = after blanks .start rest := by
  induction text with
  | nil => exact ⟨[], by simp, rfl, rfl⟩
  | cons char text ih =>
      obtain ⟨space, later⟩ := List.forall_mem_cons.mp spaces
      obtain ⟨before, areBlank, lexemes, modes⟩ := ih later
      have here := @read_space blanks char space true (text ++ rest)
      rw [Bool.true_or] at here
      refine ⟨.blank :: before, List.forall_mem_cons.mpr ⟨rfl, areBlank⟩, ?_,
        ?_⟩
      · rw [List.cons_append, lex, here, lexemes]
        rfl
      · rw [List.cons_append, after, here, modes]

end Trimming

end ScriptLexing
