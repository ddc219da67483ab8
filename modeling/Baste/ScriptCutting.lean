import Baste.ScriptLexing
import Mathlib.Data.List.Forall2

/-!
# Cutting scripts at semicolons

Whoever cuts a script at all its semicolons gets its statements, up to comments
and to blanks, exactly if no semicolon stands where it separates nothing, and
no comment stands where there is no statement.
-/

namespace ScriptLexing

variable (blanks : Blanks)

/-- What stands between the semicolons of a text, without the blanks around
it. -/
def cut (text : List Char) : List (List Char) :=
  ((text.splitOn ';').map blanks.trim).filter (· ≠ [])

/-- A character of a statement. -/
def Lexeme.isContent : Lexeme → Bool
  | .code _ | .quoted _ => true
  | _ => false

/-- A semicolon that separates nothing. -/
def Lexeme.isHidden : Lexeme → Bool
  | .quoted char | .comment char => char = ';'
  | _ => false

/-- Blanks, or a statement without semicolons.  A comment at its end may have
some, with nothing but blanks behind the first. -/
def IsWhole (segment : List Lexeme) : Prop :=
  (∀ lexeme ∈ segment, lexeme = .blank) ∨
    (∃ lexeme ∈ segment, lexeme.isContent = true) ∧
      ∀ lexeme ∈ segment.dropWhile (!·.isHidden), lexeme.isVoid blanks = true

instance (segment : List Lexeme) : Decidable (IsWhole blanks segment) :=
  inferInstanceAs (Decidable (_ ∨ _))

/-- What stands between separators is blank or whole. -/
def Separated (lexemes : List Lexeme) : Prop :=
  ∀ segment ∈ lexemes.splitOnP isSeparator, IsWhole blanks segment

instance (lexemes : List Lexeme) : Decidable (Separated blanks lexemes) :=
  inferInstanceAs (Decidable (∀ segment ∈ _, _))

/-- No comment has its lines for itself. -/
def Plain (text : List Char) (lexemes : List Lexeme) : Prop :=
  List.Forall₂ (fun char lexeme => lexeme = .blank →
    blanks.isSpace char = true) text lexemes

section Tidied

variable {blanks}
variable {due : Bool} {lexeme : Lexeme} {lexemes : List Lexeme}

theorem mem_tidy (notBlank : lexeme ≠ .blank) :
    lexeme ∈ tidy due lexemes ↔ lexeme ∈ lexemes := by
  induction lexemes generalizing due with
  | nil => exact Iff.rfl
  | cons first lexemes ih =>
      cases first with
      | code | quoted | comment =>
          cases due with
          | true => simp [tidy, notBlank, ih]
          | false => simp [tidy, ih]
      | blank => simp [tidy, notBlank, ih]
      | separator => simp [tidy, ih]

theorem forall_mem_tidy {property : Lexeme → Prop} (blank : property .blank) :
    (∀ lexeme ∈ tidy due lexemes, property lexeme) ↔
      ∀ lexeme ∈ lexemes, property lexeme := by
  constructor
  · intro all lexeme member
    by_cases isBlank : lexeme = .blank
    · rw [isBlank]
      exact blank
    · exact all lexeme ((mem_tidy isBlank).mpr member)
  · intro all lexeme member
    by_cases isBlank : lexeme = .blank
    · rw [isBlank]
      exact blank
    · exact all lexeme ((mem_tidy isBlank).mp member)

@[simp]
theorem isHidden_code (char : Char) : (Lexeme.code char).isHidden = false :=
  rfl

@[simp]
theorem isHidden_quoted (char : Char) :
    (Lexeme.quoted char).isHidden = decide (char = ';') :=
  rfl

@[simp]
theorem isHidden_comment (char : Char) :
    (Lexeme.comment char).isHidden = decide (char = ';') :=
  rfl

@[simp]
theorem isHidden_blank : Lexeme.blank.isHidden = false :=
  rfl

@[simp]
theorem isHidden_separator : Lexeme.separator.isHidden = false :=
  rfl

theorem dropWhile_tidy :
    (tidy due lexemes).dropWhile (!·.isHidden) =
      tidy false (lexemes.dropWhile (!·.isHidden)) := by
  induction lexemes generalizing due with
  | nil => rfl
  | cons first lexemes ih =>
      cases first with
      | blank | separator => simp [tidy, ih]
      | code => cases due <;> simp [tidy, ih]
      | quoted char | comment char =>
          by_cases isSemicolon : char = ';'
          · cases due <;> simp [tidy, isSemicolon]
          · cases due <;> simp [tidy, isSemicolon, ih]

theorem isWhole_tidy :
    IsWhole blanks (tidy due lexemes) ↔ IsWhole blanks lexemes := by
  have content : (∃ lexeme ∈ tidy due lexemes, lexeme.isContent = true) ↔
      ∃ lexeme ∈ lexemes, lexeme.isContent = true := by
    rw [← not_iff_not]
    push Not
    exact forall_mem_tidy (by simp [Lexeme.isContent])
  have areBlank : (∀ lexeme ∈ tidy due lexemes, lexeme = .blank) ↔
      ∀ lexeme ∈ lexemes, lexeme = .blank :=
    forall_mem_tidy rfl
  have voids : (∀ lexeme ∈ tidy false (lexemes.dropWhile (!·.isHidden)),
      lexeme.isVoid blanks = true) ↔
        ∀ lexeme ∈ lexemes.dropWhile (!·.isHidden),
          lexeme.isVoid blanks = true :=
    forall_mem_tidy rfl
  rw [IsWhole, IsWhole, content, areBlank, dropWhile_tidy, voids]

theorem separated_whole (whole : .separator ∉ lexemes) :
    Separated blanks lexemes ↔ IsWhole blanks lexemes := by
  rw [Separated, splitOnP_whole whole, List.forall_mem_singleton]

theorem separated_separator {before later : List Lexeme}
    (whole : .separator ∉ before) :
    Separated blanks (before ++ .separator :: later) ↔
      IsWhole blanks before ∧ Separated blanks later := by
  rw [Separated, List.splitOnP_append_cons _ _ rfl, splitOnP_whole whole,
    List.forall_mem_append, List.forall_mem_singleton]
  rfl

theorem separated_tidy :
    Separated blanks (tidy due lexemes) ↔ Separated blanks lexemes := by
  induction length : lexemes.length using Nat.strong_induction_on
    generalizing lexemes due with
  | _ length ih =>
      by_cases member : .separator ∈ lexemes
      · obtain ⟨before, later, rfl, whole⟩ := List.eq_append_cons_of_mem member
        rw [List.length_append, List.length_cons] at length
        rw [tidy_separator, separated_separator (separator_notMem_tidy whole),
          separated_separator whole, isWhole_tidy,
          ih later.length (by omega) rfl]
      · rw [separated_whole (separator_notMem_tidy member),
          separated_whole member, isWhole_tidy]

theorem tidy_bare_tidy {early : Bool} :
    tidy due ((tidy early lexemes).map Lexeme.bare) =
      tidy (due || early) (lexemes.map Lexeme.bare) := by
  induction lexemes generalizing due early with
  | nil => rfl
  | cons first lexemes ih =>
      cases first with
      | blank | separator => simp [tidy, Lexeme.bare, ih]
      | code | quoted | comment =>
          cases due with
          | true => cases early <;> simp [tidy, Lexeme.bare, ih]
          | false => cases early <;> simp [tidy, Lexeme.bare, ih]

/-- Statements do not depend on how many blanks there are. -/
theorem statements_tidy : statements (tidy true lexemes) = statements lexemes := by
  rw [statements, statements, tidy_bare_tidy, Bool.or_true]

end Tidied

section Settled

variable {blanks}
variable {mode : Mode} {char : Char} {text rest : List Char}

/-- The mode without its memory of the line. -/
def Mode.settled : Mode → Mode
  | .code _ => .code false
  | .dash _ => .dash false
  | .comment _ => .comment false
  | mode => mode

theorem bare_ofComment (fresh : Bool) :
    (Lexeme.ofComment fresh char).bare = .blank := by
  cases fresh with
  | true => rfl
  | false => rfl

theorem read_settled :
    (mode.settled.read blanks char rest).1.bare =
        (mode.read blanks char rest).1.bare ∧
      (mode.settled.read blanks char rest).2.settled =
        (mode.read blanks char rest).2.settled := by
  cases mode with
  | literal | escaped => exact ⟨rfl, rfl⟩
  | code fresh =>
      unfold Mode.settled Mode.read
      dsimp only
      split_ifs with opens quote isSemicolon space
      · exact ⟨by rw [bare_ofComment, bare_ofComment], rfl⟩
      · exact ⟨rfl, rfl⟩
      · exact ⟨rfl, rfl⟩
      · exact ⟨rfl, rfl⟩
      · exact ⟨rfl, rfl⟩
  | dash fresh =>
      unfold Mode.settled Mode.read
      dsimp only
      split_ifs with ends
      · exact ⟨by rw [bare_ofComment, bare_ofComment], rfl⟩
      · exact ⟨by rw [bare_ofComment, bare_ofComment], rfl⟩
  | comment fresh =>
      unfold Mode.settled Mode.read
      dsimp only
      split_ifs with ends newline
      · exact ⟨rfl, rfl⟩
      · exact ⟨rfl, rfl⟩
      · exact ⟨by rw [bare_ofComment, bare_ofComment], rfl⟩

/-- What counts as a blank does not depend on the lines. -/
theorem bare_lex_congr {first second : Mode}
    (same : first.settled = second.settled) :
    (lex blanks first text).map Lexeme.bare =
      (lex blanks second text).map Lexeme.bare := by
  induction text generalizing first second with
  | nil => rfl
  | cons char text ih =>
      obtain ⟨firstLexeme, firstMode⟩ := @read_settled blanks first char text
      obtain ⟨secondLexeme, secondMode⟩ := @read_settled blanks second char text
      rw [same] at firstLexeme firstMode
      rw [lex, lex, List.map_cons, List.map_cons, ← firstLexeme, secondLexeme,
        ih (firstMode.symm.trans secondMode)]

/-- Nothing but blanks comes of blanks outside literals. -/
theorem bare_lex_spaces (outside : ¬ mode.InLiteral)
    (spaces : ∀ char ∈ text, blanks.isSpace char = true) :
    ∀ lexeme ∈ (lex blanks mode text).map Lexeme.bare, lexeme = .blank := by
  induction text generalizing mode with
  | nil => simp [lex]
  | cons char text ih =>
      obtain ⟨space, later⟩ := List.forall_mem_cons.mp spaces
      have step := @reads blanks mode char text
      rw [lex, List.map_cons, List.forall_mem_cons]
      generalize mode.read blanks char text = outcome at step ⊢
      cases step with
      | opens _ isDash =>
          rw [isDash, isSpace_dash] at space
          cases space
      | quote _ quote =>
          rw [isSpace_of_isQuote quote] at space
          cases space
      | separator _ isSemicolon =>
          rw [isSemicolon, isSpace_semicolon] at space
          cases space
      | blank => exact ⟨rfl, ih id later⟩
      | code _ _ _ _ visible =>
          rw [visible] at space
          cases space
      | inside | closes | escaped => exact absurd trivial outside
      | comment => exact ⟨bare_ofComment _, ih id later⟩
      | dash _ _ isNext =>
          rcases isNext with ⟨rfl, -⟩ | ⟨rfl, -⟩
          · exact ⟨bare_ofComment _, ih id later⟩
          · exact ⟨bare_ofComment _, ih id later⟩
      | lineEnd _ _ _ isNext =>
          rcases isNext with rfl | rfl
          · exact ⟨rfl, ih id later⟩
          · exact ⟨rfl, ih id later⟩

/-- The blanks around a text with closed literals do not matter. -/
theorem content_trim (closed : IsClosed blanks text) :
    content blanks (blanks.trim text) = content blanks text := by
  obtain ⟨front, back, isText, inFront, inBack⟩ := exists_trim blanks text
  obtain ⟨before, areBlank, lexemes, modes⟩ :=
    @lex_spaces blanks front (blanks.trim text ++ back) inFront
  have ends : EndsHere blanks back := fun char member =>
    inBack char (List.mem_of_mem_head? member)
  rw [IsClosed, isText, modes, after_append ends] at closed
  have outside : ¬ (after blanks .start (blanks.trim text)).InLiteral :=
    fun inside => closed <| inLiteral_after (sound_after trivial) inside
      fun char member => isQuote_of_isSpace (inBack char member)
  have whole : content blanks text = content blanks (blanks.trim text) := by
    calc content blanks text
        = tidy true ((before ++ (lex blanks .start (blanks.trim text) ++
            lex blanks (after blanks .start (blanks.trim text)) back)).map
              Lexeme.bare) := by
          rw [← lex_append ends, ← lexemes, ← isText, content]
      _ = tidy true ((lex blanks .start (blanks.trim text)).map Lexeme.bare ++
            (lex blanks (after blanks .start (blanks.trim text)) back).map
              Lexeme.bare) := by
          rw [List.map_append, List.map_append, tidy_blanks_append]
          intro lexeme member
          obtain ⟨other, isBefore, rfl⟩ := List.mem_map.mp member
          rw [areBlank other isBefore]
          rfl
      _ = content blanks (blanks.trim text) :=
          tidy_append_blanks (bare_lex_spaces outside inBack)
  exact whole.symm

end Settled

section Cutting

variable {blanks}
variable {text first rest : List Char}

theorem cut_semicolon :
    cut blanks (first ++ ';' :: rest) = cut blanks first ++ cut blanks rest := by
  rw [cut, List.splitOn_append_cons_self, List.map_append, List.filter_append]
  rfl

theorem cut_whole (whole : ';' ∉ text) :
    cut blanks text =
      if blanks.trim text = [] then [] else [blanks.trim text] := by
  rw [cut, List.splitOn_eq_singleton whole]
  split_ifs with nothing
  · simp [nothing]
  · simp [nothing]

theorem cut_eq_nil_iff :
    cut blanks text = [] ↔ ∀ char ∈ text, blanks.isVoid char = true := by
  induction length : text.length using Nat.strong_induction_on
    generalizing text with
  | _ length ih =>
      by_cases member : ';' ∈ text
      · obtain ⟨first, rest, rfl, whole⟩ := List.eq_append_cons_of_mem member
        rw [List.length_append, List.length_cons] at length
        have before := @ih first.length (by omega) first rfl
        have behind := @ih rest.length (by omega) rest rfl
        rw [cut_semicolon, List.append_eq_nil_iff, before, behind,
          List.forall_mem_append, List.forall_mem_cons]
        simp [Blanks.isVoid]
      · have ne : ∀ char ∈ text, char ≠ ';' := by
          rintro char isThere rfl
          exact member isThere
        rw [cut_whole member, ite_eq_left_iff]
        constructor
        · intro nothing char isThere
          have spaces := trim_eq_nil_iff.mp
            (not_not.mp fun some => List.cons_ne_nil _ _ (nothing some))
          simp [Blanks.isVoid, spaces char isThere]
        · intro voids some
          refine absurd (trim_eq_nil_iff.mpr fun char isThere => ?_) some
          simpa [Blanks.isVoid, ne char isThere] using voids char isThere

theorem trim_append_space {char : Char} (space : blanks.isSpace char = true) :
    blanks.trim (text ++ [char]) = blanks.trim text := by
  rw [Blanks.trim, List.dropWhile_append]
  split_ifs with nothing
  · rw [List.isEmpty_iff] at nothing
    simp [Blanks.trim, nothing, space]
  · rw [List.reverse_append, List.reverse_singleton, List.singleton_append,
      List.dropWhile_cons_of_pos space, Blanks.trim]

/-- A blank at the end of a text does not matter. -/
theorem cut_append_space {char : Char} (space : blanks.isSpace char = true) :
    cut blanks (text ++ [char]) = cut blanks text := by
  induction length : text.length using Nat.strong_induction_on
    generalizing text with
  | _ length ih =>
      by_cases member : ';' ∈ text
      · obtain ⟨first, rest, rfl, -⟩ := List.eq_append_cons_of_mem member
        rw [List.length_append, List.length_cons] at length
        rw [List.append_assoc, List.cons_append, cut_semicolon, cut_semicolon,
          @ih rest.length (by omega) rest rfl]
      · have whole : ';' ∉ text ++ [char] := by
          rw [List.mem_append, List.mem_singleton]
          rintro (here | rfl)
          · exact member here
          · rw [isSpace_semicolon] at space
            cases space
        rw [cut_whole whole, cut_whole member, trim_append_space space]

end Cutting

section Positions

variable {blanks}
variable {mode : Mode} {fresh : Bool} {lexeme : Lexeme}
variable {text : List Char}

theorem exists_fits (member : lexeme ∈ lex blanks mode text) :
    ∃ char ∈ text, lexeme.Fits blanks char := by
  induction text generalizing mode with
  | nil => cases member
  | cons char text ih =>
      rcases List.mem_cons.mp member with rfl | later
      · exact ⟨char, List.mem_cons_self, fits_read⟩
      · obtain ⟨other, isThere, fits⟩ := ih later
        exact ⟨other, List.mem_cons_of_mem _ isThere, fits⟩

theorem isHidden_eq_false (whole : ';' ∉ text)
    (member : lexeme ∈ lex blanks mode text) : lexeme.isHidden = false := by
  obtain ⟨char, isThere, fits⟩ := exists_fits member
  have ne : char ≠ ';' := by
    rintro rfl
    exact whole isThere
  cases lexeme with
  | code | blank | separator => rfl
  | quoted other | comment other =>
      cases fits
      exact decide_eq_false ne

/-- A statement has characters that are neither blanks nor semicolons. -/
theorem exists_visible
    (some : ∃ lexeme ∈ lex blanks (.code fresh) text,
      lexeme.isContent = true) :
    ∃ char ∈ text, blanks.isVoid char = false := by
  obtain ⟨lexeme, member, isContent⟩ := some
  cases lexeme with
  | code other =>
      obtain ⟨char, isThere, rfl, visible, noSemicolon⟩ := exists_fits member
      exact ⟨_, isThere, by simp [Blanks.isVoid, visible, noSemicolon]⟩
  | quoted other =>
      by_contra none
      push Not at none
      refine notMem_quoted id (fun char isThere => ?_) other member
      rw [← Bool.not_eq_true]
      intro quote
      exact none char isThere (isVoid_of_isQuote quote)
  | comment | blank | separator => cases isContent

theorem exists_split_of_forall₂ {Source Target : Type}
    {relation : Source → Target → Prop} {sources : List Source}
    {before after : List Target} {target : Target}
    (related : List.Forall₂ relation sources (before ++ target :: after)) :
    ∃ first source rest, sources = first ++ source :: rest ∧
      first.length = before.length ∧ relation source target := by
  induction before generalizing sources with
  | nil =>
      cases related with
      | cons here later => exact ⟨[], _, _, rfl, rfl, here⟩
  | cons other before ih =>
      cases related with
      | @cons source _ sources _ here later =>
          obtain ⟨first, found, rest, rfl, length, isRelated⟩ := ih later
          exact ⟨source :: first, found, rest, rfl, by simp [length],
            isRelated⟩

/-- A script with a separator is a statement, a semicolon and a script. -/
theorem exists_separator (member : .separator ∈ lex blanks mode text) :
    ∃ first rest, text = first ++ ';' :: rest ∧
      .separator ∉ lex blanks mode first ∧
      ¬ (after blanks mode first).InLiteral ∧
      lex blanks mode text =
        lex blanks mode first ++ .separator :: lex blanks (.code false) rest ∧
      after blanks mode text = after blanks (.code false) rest := by
  obtain ⟨before, later, isLex, whole⟩ := List.eq_append_cons_of_mem member
  obtain ⟨first, char, rest, rfl, length, isSemicolon⟩ :=
    exists_split_of_forall₂ (isLex ▸ fits_lex mode text)
  cases isSemicolon
  obtain ⟨between, lexemes, modes, isBetween⟩ :=
    @lex_append_semicolon blanks mode first rest
  obtain ⟨rfl, isLater⟩ := List.append_inj (lexemes.symm.trans isLex)
    (by rw [length_lex, length])
  rw [lex, List.cons.injEq] at isLater
  rw [after] at modes
  have step := @reads blanks between ';' rest
  generalize between.read blanks ';' rest = outcome at step isLater modes
  cases step with
  | separator fresh =>
      refine ⟨first, rest, rfl, whole, ?_, ?_, modes⟩
      · rcases isBetween with same | ⟨_, -, same⟩
        · rw [← same]
          exact id
        · rw [same]
          exact id
      · rw [isLex, ← isLater.2]
  | opens fresh | dash fresh | comment fresh =>
      cases fresh with
      | true => cases isLater.1
      | false => cases isLater.1
  | quote | blank | code | inside | closes | escaped | lineEnd =>
      cases isLater.1

/-- The first semicolon of a text without separators is in a literal or in a
comment. -/
theorem exists_hidden (whole : .separator ∉ lex blanks (.code fresh) text)
    (member : ';' ∈ text) :
    ∃ first rest, text = first ++ ';' :: rest ∧ ';' ∉ first ∧
      lex blanks (.code fresh) text =
        lex blanks (.code fresh) first ++
          lex blanks (after blanks (.code fresh) first) (';' :: rest) ∧
      after blanks (.code fresh) text =
        after blanks (after blanks (.code fresh) first) (';' :: rest) ∧
      ((after blanks (.code fresh) first).InLiteral ∨
        ∃ other, after blanks (.code fresh) first = .comment other) := by
  obtain ⟨first, rest, rfl, noSemicolon⟩ := List.eq_append_cons_of_mem member
  obtain ⟨between, lexemes, modes, isBetween⟩ :=
    @lex_append_semicolon blanks (.code fresh) first rest
  have notCode : ∀ other, between ≠ .code other := by
    rintro other rfl
    apply whole
    rw [lexemes, lex]
    apply List.mem_append_right
    have isSeparator : (Mode.code other).read blanks ';' rest =
        (.separator, .code false) := by
      simp [Mode.read, isQuote]
    rw [isSeparator]
    exact List.mem_cons_self
  rcases isBetween with rfl | ⟨other, isCode, -⟩
  · refine ⟨first, rest, rfl, noSemicolon, lexemes, modes, ?_⟩
    cases isMode : after blanks (.code fresh) first with
    | code other => exact absurd isMode (notCode other)
    | literal | escaped => exact .inl trivial
    | dash other =>
        exact absurd isMode
          (after_ne_dash (.inl fun _ same => by cases same) other)
    | comment other => exact .inr ⟨other, rfl⟩
  · exact absurd isCode (notCode other)

end Positions

section Segments

variable {blanks}
variable {mode : Mode} {fresh : Bool} {text first rest : List Char}
variable {lexemes : List Lexeme}

theorem settled_after {first second : Mode}
    (same : first.settled = second.settled) :
    (after blanks first text).settled = (after blanks second text).settled := by
  induction text generalizing first second with
  | nil => exact same
  | cons char text ih =>
      apply ih
      have firstMode := (@read_settled blanks first char text).2
      rw [← firstMode, same]
      exact read_settled.2

theorem inLiteral_settled : mode.settled.InLiteral ↔ mode.InLiteral := by
  cases mode with
  | code | literal | escaped | dash | comment => exact Iff.rfl

/-- A statement may as well begin a script. -/
theorem content_eq (fresh : Bool) (text : List Char) :
    content blanks text =
      tidy true ((lex blanks (.code fresh) text).map Lexeme.bare) :=
  congrArg (tidy true) (bare_lex_congr rfl)

theorem isClosed_of_code
    (closed : ¬ (after blanks (.code fresh) text).InLiteral) :
    IsClosed blanks text := by
  have same : (after blanks .start text).settled =
      (after blanks (.code fresh) text).settled :=
    settled_after rfl
  rwa [IsClosed, ← inLiteral_settled, same, inLiteral_settled]

theorem bare_eq_blank {lexeme : Lexeme} (noContent : lexeme.isContent = false)
    (noSeparator : lexeme ≠ .separator) : lexeme.bare = .blank := by
  cases lexeme with
  | code | quoted => cases noContent
  | comment | blank => rfl
  | separator => exact absurd rfl noSeparator

theorem statements_of_content (whole : .separator ∉ lexemes)
    (some : ∃ lexeme ∈ lexemes, lexeme.isContent = true) :
    statements lexemes = [tidy true (lexemes.map Lexeme.bare)] := by
  rw [statements_whole whole, if_neg]
  rw [tidy_eq_nil_iff]
  intro areBlank
  obtain ⟨lexeme, member, isContent⟩ := some
  have isBlank := areBlank _ (List.mem_map_of_mem member)
  cases lexeme with
  | code | quoted => cases isBlank
  | comment | blank | separator => cases isContent

theorem statements_of_no_content (whole : .separator ∉ lexemes)
    (none : ¬ ∃ lexeme ∈ lexemes, lexeme.isContent = true) :
    statements lexemes = [] := by
  rw [statements_whole whole, if_pos]
  apply tidy_blanks
  intro bare member
  obtain ⟨lexeme, isThere, rfl⟩ := List.mem_map.mp member
  apply bare_eq_blank
  · rw [← Bool.not_eq_true]
    exact fun isContent => none ⟨lexeme, isThere, isContent⟩
  · rintro rfl
    exact whole isThere

theorem code_of_void (voids : ∀ char ∈ text, blanks.isVoid char = true) :
    ∃ later, after blanks (.code fresh) text = .code later := by
  apply after_code
  intro char member
  constructor
  · rw [← Bool.not_eq_true]
    intro quote
    exact absurd (voids char member) (by simp [isVoid_of_isQuote quote])
  · rintro rfl
    exact absurd (voids _ member) (by simp [isVoid_dash])

/-- A semicolon in a literal or a comment has something before it. -/
theorem cut_ne_nil_of_not_code
    (notCode : ∀ later, after blanks (.code fresh) text ≠ .code later) :
    cut blanks text ≠ [] := by
  intro nothing
  obtain ⟨later, isCode⟩ := code_of_void (cut_eq_nil_iff.mp nothing)
  exact notCode later isCode

theorem cut_ne_nil_of_content
    (some : ∃ lexeme ∈ lex blanks (.code fresh) text,
      lexeme.isContent = true) :
    cut blanks text ≠ [] := by
  intro nothing
  obtain ⟨char, member, visible⟩ := exists_visible some
  rw [cut_eq_nil_iff.mp nothing char member] at visible
  cases visible

theorem plain_append {firstLexemes restLexemes : List Lexeme}
    (length : first.length = firstLexemes.length)
    (plain : Plain blanks (first ++ rest) (firstLexemes ++ restLexemes)) :
    Plain blanks first firstLexemes ∧ Plain blanks rest restLexemes := by
  have taken := List.forall₂_take_append _ _ _ plain
  have dropped := List.forall₂_drop_append _ _ _ plain
  rw [← length, List.take_left] at taken
  rw [← length, List.drop_left] at dropped
  exact ⟨taken, dropped⟩

/-- Void lexemes come of blanks and semicolons. -/
theorem isVoid_of_plain
    (fits : List.Forall₂ (fun char (lexeme : Lexeme) =>
      lexeme.Fits blanks char) text lexemes)
    (plain : Plain blanks text lexemes)
    (voids : ∀ lexeme ∈ lexemes, lexeme.isVoid blanks = true) :
    ∀ char ∈ text, blanks.isVoid char = true := by
  induction fits with
  | nil => simp
  | @cons char lexeme text lexemes here later ih =>
      obtain ⟨isVoid, laterVoid⟩ := List.forall_mem_cons.mp voids
      cases plain with
      | cons isBlank laterPlain =>
          refine List.forall_mem_cons.mpr ⟨?_, ih laterPlain laterVoid⟩
          cases lexeme with
          | blank => simp [Blanks.isVoid, isBlank rfl]
          | comment other =>
              cases here
              exact isVoid
          | code | quoted | separator => cases isVoid

theorem length_statements_segment
    (whole : .separator ∉ lex blanks (.code fresh) text) :
    (statements (lex blanks (.code fresh) text)).length ≤
      (cut blanks text).length := by
  by_cases some : ∃ lexeme ∈ lex blanks (.code fresh) text,
      lexeme.isContent = true
  · rw [statements_of_content whole some, List.length_singleton]
    exact List.length_pos_of_ne_nil (cut_ne_nil_of_content some)
  · rw [statements_of_no_content whole some]
    exact Nat.zero_le _

theorem isWhole_of_no_content
    (none : ¬ ∃ lexeme ∈ lexemes, lexeme.isContent = true) :
    IsWhole blanks lexemes ↔ ∀ lexeme ∈ lexemes, lexeme = .blank :=
  or_iff_left fun some => none some.1

theorem isWhole_of_content
    (some : ∃ lexeme ∈ lexemes, lexeme.isContent = true) :
    IsWhole blanks lexemes ↔ ∀ lexeme ∈ lexemes.dropWhile (!·.isHidden),
      lexeme.isVoid blanks = true := by
  rw [IsWhole, and_iff_right some, or_iff_right]
  intro areBlank
  obtain ⟨lexeme, member, isContent⟩ := some
  rw [areBlank lexeme member] at isContent
  cases isContent

theorem dropWhile_hidden {lexeme : Lexeme} {before later : List Lexeme}
    (none : ∀ other ∈ before, other.isHidden = false)
    (isHidden : lexeme.isHidden = true) :
    (before ++ lexeme :: later).dropWhile (!·.isHidden) = lexeme :: later := by
  rw [List.dropWhile_append_of_pos fun other member => by
    rw [none other member, Bool.not_false]]
  rw [List.dropWhile_cons_of_neg (by simp [isHidden])]

/-- A text that is cut in two is no statement. -/
theorem cut_in_two (whole : .separator ∉ lexemes)
    (before : cut blanks first ≠ []) (behind : cut blanks rest ≠ []) :
    (cut blanks (first ++ ';' :: rest)).map (content blanks) ≠
      statements lexemes := by
  intro same
  have lengths := congrArg List.length same
  have atMost : (statements lexemes).length ≤ 1 := by
    rw [statements_whole whole]
    split_ifs
    · exact Nat.zero_le 1
    · exact le_rfl
  have beforePos := List.length_pos_of_ne_nil before
  have behindPos := List.length_pos_of_ne_nil behind
  rw [List.length_map, cut_semicolon, List.length_append] at lengths
  omega

theorem lex_literal (inside : mode.InLiteral) (char : Char) :
    ∃ later, lex blanks mode (char :: rest) = .quoted char :: later := by
  cases mode with
  | literal | escaped => exact ⟨_, rfl⟩
  | code | dash | comment => exact inside.elim

theorem lex_comment_semicolon :
    lex blanks (.comment fresh) (';' :: rest) =
      .ofComment fresh ';' :: lex blanks (.comment fresh) rest := by
  have noEnd : blanks.isLineEnd ';' = false := by
    rw [← Bool.not_eq_true]
    intro ends
    exact absurd (blanks.isSpace_of_isLineEnd _ ends)
      (by simp [isSpace_semicolon])
  rw [lex, Mode.read, if_neg (by simp [noEnd])]

/-- A literal is cut at its semicolons. -/
theorem cut_literal (closed : ¬ (after blanks mode (';' :: rest)).InLiteral)
    (sound : mode.Sound) (inside : mode.InLiteral) : cut blanks rest ≠ [] := by
  intro nothing
  refine closed (inLiteral_after sound inside fun char member => ?_)
  rcases List.mem_cons.mp member with rfl | later
  · rfl
  · rw [← Bool.not_eq_true]
    intro quote
    exact absurd (cut_eq_nil_iff.mp nothing char later)
      (by simp [isVoid_of_isQuote quote])

/-- Nothing but blanks and semicolons is in the comment, and behind it. -/
theorem isVoid_comment {lexeme : Lexeme}
    (whole : .separator ∉ lex blanks (.comment false) rest)
    (nothing : cut blanks rest = [])
    (member : lexeme ∈ lex blanks (.comment false) (';' :: rest)) :
    lexeme.isVoid blanks = true := by
  rw [lex_comment_semicolon] at member
  rcases List.mem_cons.mp member with rfl | later
  · simp [Lexeme.ofComment, Lexeme.isVoid, Blanks.isVoid]
  · rcases lex_void_comment (cut_eq_nil_iff.mp nothing) false lexeme later with
      isVoid | rfl
    · exact isVoid
    · exact absurd later whole

theorem bare_of_isVoid {lexeme : Lexeme} (isVoid : lexeme.isVoid blanks = true) :
    lexeme.bare = .blank := by
  cases lexeme with
  | blank | comment => rfl
  | code | quoted | separator => cases isVoid

/-- A comment is cut at its semicolons, unless they are at its end. -/
theorem cut_segment_comment {other : Bool}
    (isComment : after blanks (.code fresh) first = .comment other)
    (noSemicolon : ';' ∉ first)
    (lexemes : lex blanks (.code fresh) (first ++ ';' :: rest) =
      lex blanks (.code fresh) first ++
        lex blanks (.comment other) (';' :: rest))
    (whole : .separator ∉ lex blanks (.code fresh) (first ++ ';' :: rest))
    (plain : Plain blanks (first ++ ';' :: rest)
      (lex blanks (.code fresh) (first ++ ';' :: rest)))
    (some : ∃ lexeme ∈ lex blanks (.code fresh) (first ++ ';' :: rest),
      lexeme.isContent = true) :
    (cut blanks (first ++ ';' :: rest)).map (content blanks) =
        statements (lex blanks (.code fresh) (first ++ ';' :: rest)) ↔
      ∀ lexeme ∈ (lex blanks (.code fresh) (first ++ ';' :: rest)).dropWhile
        (!·.isHidden), lexeme.isVoid blanks = true := by
  rw [lexemes] at plain
  obtain ⟨-, laterPlain⟩ := plain_append length_lex.symm plain
  have notFresh : other = false := by
    rw [← Bool.not_eq_true]
    rintro rfl
    rw [lex_comment_semicolon] at laterPlain
    cases laterPlain with
    | cons isBlank => exact absurd (isBlank rfl) (by simp [isSpace_semicolon])
  subst notFresh
  have before : cut blanks first ≠ [] := by
    apply cut_ne_nil_of_not_code
    intro later isCode
    cases isComment.symm.trans isCode
  have hidden : (lex blanks (.code fresh) (first ++ ';' :: rest)).dropWhile
      (!·.isHidden) = lex blanks (.comment false) (';' :: rest) := by
    rw [lexemes, lex_comment_semicolon]
    exact dropWhile_hidden (fun _ => isHidden_eq_false noSemicolon) rfl
  rw [hidden]
  by_cases nothing : cut blanks rest = []
  · have voids : ∀ lexeme ∈ lex blanks (.comment false) (';' :: rest),
        lexeme.isVoid blanks = true := by
      intro lexeme member
      refine isVoid_comment (fun separator => whole ?_) nothing member
      rw [lexemes, lex_comment_semicolon]
      exact List.mem_append_right _ (List.mem_cons_of_mem _ separator)
    refine iff_of_true ?_ voids
    have closed : ¬ (after blanks (.code fresh) first).InLiteral := by
      rw [isComment]
      exact id
    have hasText : blanks.trim first ≠ [] := by
      intro noText
      apply before
      rw [cut_whole noSemicolon, if_pos noText]
    rw [cut_semicolon, nothing, List.append_nil, cut_whole noSemicolon,
      if_neg hasText, List.map_singleton,
      content_trim (isClosed_of_code closed), content_eq fresh,
      statements_of_content whole some, lexemes, List.map_append,
      tidy_append_blanks]
    intro bare member
    obtain ⟨lexeme, isThere, rfl⟩ := List.mem_map.mp member
    exact bare_of_isVoid (voids lexeme isThere)
  · refine iff_of_false (cut_in_two whole before nothing) fun voids => ?_
    apply nothing
    rw [cut_eq_nil_iff]
    intro char member
    exact isVoid_of_plain (fits_lex _ _) laterPlain voids char
      (List.mem_cons_of_mem _ member)

/-- A text without separators is cut right exactly if it is whole. -/
theorem cut_segment (whole : .separator ∉ lex blanks (.code fresh) text)
    (closed : ¬ (after blanks (.code fresh) text).InLiteral)
    (plain : Plain blanks text (lex blanks (.code fresh) text)) :
    (cut blanks text).map (content blanks) =
        statements (lex blanks (.code fresh) text) ↔
      IsWhole blanks (lex blanks (.code fresh) text) := by
  by_cases some : ∃ lexeme ∈ lex blanks (.code fresh) text,
      lexeme.isContent = true
  · by_cases member : ';' ∈ text
    · obtain ⟨first, rest, rfl, noSemicolon, lexemes, modes, place⟩ :=
        exists_hidden whole member
      rw [modes] at closed
      rw [isWhole_of_content some]
      rcases place with inside | ⟨other, isComment⟩
      · obtain ⟨later, isLater⟩ := @lex_literal blanks
          (after blanks (.code fresh) first) rest inside ';'
        have before : cut blanks first ≠ [] := by
          apply @cut_ne_nil_of_not_code blanks fresh
          intro later isCode
          rw [isCode] at inside
          exact inside
        apply iff_of_false
        · exact cut_in_two whole before
            (cut_literal closed (sound_after trivial) inside)
        · rw [lexemes, isLater,
            dropWhile_hidden (fun _ => isHidden_eq_false noSemicolon) rfl]
          intro voids
          cases voids _ List.mem_cons_self
      · rw [isComment] at lexemes
        exact cut_segment_comment isComment noSemicolon lexemes whole plain some
    · have hasText : blanks.trim text ≠ [] := by
        intro nothing
        apply cut_ne_nil_of_content some
        rw [cut_whole member, if_pos nothing]
      apply iff_of_true
      · rw [statements_of_content whole some, cut_whole member,
          if_neg hasText, List.map_singleton,
          content_trim (isClosed_of_code closed), content_eq fresh]
      · rw [isWhole_of_content some, List.dropWhile_eq_nil_iff.mpr]
        · exact List.forall_mem_nil _
        · intro lexeme isThere
          rw [isHidden_eq_false member isThere, Bool.not_false]
  · rw [statements_of_no_content whole some, List.map_eq_nil_iff,
      cut_eq_nil_iff, isWhole_of_no_content some]
    constructor
    · intro voids lexeme member
      rcases lex_void_code voids fresh lexeme member with isBlank | rfl
      · exact isBlank
      · exact absurd member whole
    · intro areBlank
      refine isVoid_of_plain (fits_lex _ _) plain fun lexeme member => ?_
      rw [areBlank lexeme member]
      rfl

/-- There is a text for every statement, and they agree exactly if the script
is separated. -/
theorem cut_script (closed : ¬ (after blanks (.code fresh) text).InLiteral)
    (plain : Plain blanks text (lex blanks (.code fresh) text)) :
    (statements (lex blanks (.code fresh) text)).length ≤
        (cut blanks text).length ∧
      ((cut blanks text).map (content blanks) =
          statements (lex blanks (.code fresh) text) ↔
        Separated blanks (lex blanks (.code fresh) text)) := by
  induction length : text.length using Nat.strong_induction_on
    generalizing text fresh with
  | _ length ih =>
      by_cases member : .separator ∈ lex blanks (.code fresh) text
      · obtain ⟨first, rest, rfl, whole, firstClosed, lexemes, modes⟩ :=
          exists_separator member
        rw [List.length_append, List.length_cons] at length
        rw [lexemes] at plain ⊢
        rw [modes] at closed
        obtain ⟨firstPlain, semicolonPlain⟩ :=
          plain_append length_lex.symm plain
        cases semicolonPlain with
        | cons _ restPlain =>
            obtain ⟨atMost, restRight⟩ :=
              ih _ (by omega) closed restPlain rfl
            have firstAtMost := length_statements_segment whole
            rw [statements_separator, cut_semicolon, List.map_append,
              separated_separator whole,
              ← cut_segment whole firstClosed firstPlain, ← restRight]
            constructor
            · rw [List.length_append, List.length_append]
              omega
            · constructor
              · intro same
                -- neither part can make up for texts of the other
                have lengths := congrArg List.length same
                simp only [List.length_append, List.length_map] at lengths
                exact List.append_inj same (by rw [List.length_map]; omega)
              · rintro ⟨firstSame, restSame⟩
                rw [firstSame, restSame]
      · rw [separated_whole member]
        exact ⟨length_statements_segment member,
          cut_segment member closed plain⟩

end Segments

end ScriptLexing
