import Baste.NumericRanges

/-!
# Questions for numbers

A bot asks for a number in a state of the conversation, and a handler takes the
answers.  The answer may be any text.  What the handlers do with numbers in the
range of their column is alike for all such numbers, and they ask again for
texts that are no numbers.
-/

namespace Baste

open BotScripts

/-- A question for a number: the state in which a bot asks it, the handler of
the answers, and what a number should be. -/
structure NumericQuestion (State Data : Type) where
  state : State
  handler : BotHandler State Data
  /-- The text is read as a number. -/
  IsNumber : String → Prop
  /-- If the text is read as a number, it is in the range of the column. -/
  InRange : String → Prop

namespace NumericQuestion

variable {State Data : Type} (question : NumericQuestion State Data)

/-- What is done with an answer. -/
def answer (message : Message) : BotScript State Data Unit :=
  question.handler.action (.message message)

/-- The bot leaves everything as it is, so that it waits for another
answer. -/
def AsksAgain (message : Message) (visit : Visit State Data) : Prop :=
  (question.answer message).runOn visit = (.ok (), visit)

/-- A question for a decimal in a range. -/
def forDecimal (state : State) (handler : BotHandler State Data)
    (read : String → Option Numerals.Decimal)
    (Fits : Numerals.Decimal → Prop) : NumericQuestion State Data where
  state := state
  handler := handler
  IsNumber text := (read text).isSome
  InRange text := ∀ number, read text = some number → Fits number

/-- A question for a number of uses. -/
def forCount (state : State) (handler : BotHandler State Data) :
    NumericQuestion State Data where
  state := state
  handler := handler
  IsNumber text := (typedInteger text).isSome
  InRange text := ∀ number, typedInteger text = some number → IsCount number

theorem inRange_forDecimal {state : State}
    {handler : BotHandler State Data}
    {read : String → Option Numerals.Decimal}
    {Fits : Numerals.Decimal → Prop} {text : String}
    {number : Numerals.Decimal} (isNumber : read text = some number)
    (fits : Fits number) :
    (forDecimal state handler read Fits).InRange text := by
  intro other isOther
  cases isNumber.symm.trans isOther
  exact fits

theorem inRange_forCount {state : State} {handler : BotHandler State Data}
    {text : String} {number : Int}
    (isNumber : typedInteger text = some number) (isCount : IsCount number) :
    (forCount state handler).InRange text := by
  intro other isOther
  cases isNumber.symm.trans isOther
  exact isCount

/-- If the update answers the question, the answer is in range. -/
def AnsweredInRange (state : Option State) (update : Update) : Prop :=
  state = some question.state → ∀ message text, update = .message message →
    message.text = some text → question.InRange text

variable {question} in
theorem answeredInRange_callback {state : Option State}
    {callback : Callback} :
    question.AnsweredInRange state (.callback callback) :=
  fun _ _ _ isMessage => nomatch isMessage

variable {question} in
theorem answeredInRange_message {state : Option State} {message : Message}
    {text : String} (isText : message.text = some text)
    (inRange : question.InRange text) :
    question.AnsweredInRange state (.message message) := by
  rintro _ _ other ⟨⟩ isOther
  cases isText.symm.trans isOther
  exact inRange

/-- If the handler raises on the answer, it is not because of the answer: it
raises on a zero as well. -/
def RaisesAnyway (visit : Visit State Data) (update : Update) : Prop :=
  visit.conversation.state = some question.state → ∀ message text,
    update = .message message → message.text = some text →
      (question.answer message).Fails visit →
        (question.answer { message with text := some "0" }).Fails visit

/-- Of two questions, one for a new number and one for another one in its
place, both ask again for the answer, or neither does. -/
def AdmitsAlike (create edit : NumericQuestion State Data)
    (state : Option State) (update : Update) : Prop :=
  state = some create.state ∨ state = some edit.state → ∀ message text,
    update = .message message → message.text = some text →
      ∀ visit other, visit.conversation.state = some create.state →
        other.conversation.state = some edit.state →
          (create.AsksAgain message visit ↔ edit.AsksAgain message other)

/-- The handler does what it should with every answer in range: it raises only
if it raises on a zero as well, whatever the reason is then, and it asks again
exactly if the answer is no number. -/
structure TakesNumbers : Prop where
  raises : ∀ message text, message.text = some text → question.InRange text →
    Failing.FailsLike (question.answer message)
      (question.answer { message with text := some "0" })
  asksAgain : ∀ message text visit,
    visit.conversation.state = some question.state →
    message.text = some text → question.InRange text →
      (question.AsksAgain message visit ↔ ¬ question.IsNumber text)

section Questions

variable {question} {state : Option State} {update : Update}

theorem TakesNumbers.raisesAnyway {visit : Visit State Data}
    (takes : question.TakesNumbers)
    (answered : question.AnsweredInRange visit.conversation.state update) :
    question.RaisesAnyway visit update := by
  intro asked message text isMessage isText
  have inRange := answered asked message text isMessage isText
  exact takes.raises message text isText inRange visit

/-- Two questions for numbers of the same kind in the same range. -/
theorem TakesNumbers.admitsAlike {create edit : NumericQuestion State Data}
    (takesCreate : create.TakesNumbers) (takesEdit : edit.TakesNumbers)
    (sameKind : edit.IsNumber = create.IsNumber)
    (sameRange : edit.InRange = create.InRange)
    (createAnswered : create.AnsweredInRange state update)
    (editAnswered : edit.AnsweredInRange state update) :
    create.AdmitsAlike edit state update := by
  intro asked message text isMessage isText visit other isCreate isEdit
  have inRange : create.InRange text := by
    rcases asked with asked | asked
    · exact createAnswered asked message text isMessage isText
    · rw [← sameRange]
      exact editAnswered asked message text isMessage isText
  have editRange : edit.InRange text := by
    rw [sameRange]
    exact inRange
  calc
    create.AsksAgain message visit ↔ ¬ create.IsNumber text :=
      takesCreate.asksAgain message text visit isCreate isText inRange
    _ ↔ ¬ edit.IsNumber text := by rw [sameKind]
    _ ↔ edit.AsksAgain message other :=
      (takesEdit.asksAgain message text other isEdit isText editRange).symm

end Questions

end NumericQuestion

section Answers

variable {State Data Result Next Number : Type}

/-- Where the script ends well, the conversation has left the state. -/
def EndsOutside (state : State) (script : BotScript State Data Result) :
    Prop :=
  ∀ visit value, (script.runOn visit).1 = .ok value →
    (script.runOn visit).2.conversation.state ≠ some state

theorem EndsOutside.bind {state : State}
    {script : BotScript State Data Result}
    {next : Result → BotScript State Data Next}
    (rest : ∀ value, EndsOutside state (next value)) :
    EndsOutside state (script >>= next) := by
  intro visit value
  rw [Failing.runOn_bind]
  rcases script.runOn visit with ⟨error | between, reached⟩
  · exact nofun
  · exact rest between reached value

theorem endsOutside_setState {state next : State} (other : next ≠ state) :
    EndsOutside state (setState next : BotScript State Data Unit) :=
  fun _ _ _ same => other (Option.some.inj same)

theorem endsOutside_clear [EmptyCollection Data] (state : State) :
    EndsOutside state (clear : BotScript State Data Unit) :=
  fun _ _ _ => nofun

theorem EndsOutside.ite {state : State} {test : Prop} [Decidable test]
    {yes no : BotScript State Data Result} (first : EndsOutside state yes)
    (second : EndsOutside state no) :
    EndsOutside state (if test then yes else no) := by
  split
  · exact first
  · exact second

/-- Storing a number and going on to the next question. -/
theorem neverFails_nextQuestion {change : Data → Data} {next : State} :
    Failing.NeverFails (do updateData change; setState next :
      BotScript State Data Unit) :=
  (Failing.neverFails_modify _).bind fun _ => Failing.neverFails_modify _

/-- A write at the end of a conversation. -/
theorem neverFails_lastWrite [EmptyCollection Data] {change : Db → Db} :
    Failing.NeverFails (do executeWrite change; clear :
      BotScript State Data Unit) :=
  (Failing.neverFails_modify _).bind fun _ => Failing.neverFails_modify _

theorem neverFails_query (read : Db → Result) :
    (query read : BotScript State Data Result).NeverFails := by
  rintro visit ⟨error, failed⟩
  cases failed

/-- Only a missing value makes the script fail. -/
theorem fails_required_bind {error : HandlerError} {value : Option Result}
    {next : Result → BotScript State Data Next}
    {visit : Visit State Data} (rest : ∀ found, (next found).NeverFails) :
    (required error value >>= next).Fails visit ↔ value = none := by
  cases value with
  | none => exact iff_of_true ⟨error, rfl⟩ rfl
  | some found => exact iff_of_false (rest found visit) nofun

/-- Two inserts into a table under constraints that hold alike. -/
theorem failsLike_executeInsert {name : TableName} {allowed other : Db → Bool}
    {row otherRow : RowOf name}
    (same : ∀ db, other db = true → allowed db = true) :
    Failing.FailsLike
      (executeInsert name allowed row : BotScript State Data Nat)
      (executeInsert name other otherRow : BotScript State Data Nat) := by
  apply Failing.FailsLike.bind
  intro id
  apply Failing.FailsLike.bind
  rintro _ visit fails
  rw [Failing.fails_bind_iff] at fails ⊢
  rcases fails with ⟨error, failed⟩ | ⟨isAllowed, reached, failed⟩
  · cases failed
  · cases reached
    cases holds : other visit.platform.db with
    | true =>
        rw [same _ holds, if_pos rfl] at failed
        exact absurd failed
          ((Failing.neverFails_modify _).bind
            (fun _ => Failing.neverFails_pure _) _)
    | false => exact .inr ⟨false, by simp [holds], _, rfl⟩

/-- Go on with the number in a text, or ask again. -/
def reads (read : String → Option Number)
    (script : Number → BotScript State Data Unit) (message : Message) :
    BotScript State Data Unit := do
  match read (← textOf message) with
  | none => pure ()
  | some number => script number

variable {question : NumericQuestion State Data}
variable {read : String → Option Number}
variable {script : Number → BotScript State Data Unit}

theorem runOn_reads_none {message : Message} {text : String}
    {visit : Visit State Data} (isText : message.text = some text)
    (noNumber : read text = none) :
    (reads read script message).runOn visit = (.ok (), visit) := by
  simp [reads, textOf, required, isText, noNumber]

theorem reads_some {message : Message} {text : String} {number : Number}
    (isText : message.text = some text) (isNumber : read text = some number) :
    reads read script message = script number := by
  simp [reads, textOf, required, isText, isNumber]

/-- A handler takes numbers as it should if it does alike with all numbers in
range and ends outside of its state. -/
theorem NumericQuestion.takesNumbers_of_reads {zero : Number}
    (answers : ∀ message, question.answer message = reads read script message)
    (isNumber : ∀ text, question.IsNumber text ↔ (read text).isSome)
    (isZero : read "0" = some zero)
    (alike : ∀ text number, question.InRange text → read text = some number →
      Failing.FailsLike (script number) (script zero))
    (ends : ∀ text number, question.InRange text → read text = some number →
      EndsOutside question.state (script number)) :
    question.TakesNumbers where
  raises message text isText inRange := by
    rw [answers, answers]
    cases found : read text with
    | none =>
        rintro visit ⟨error, failed⟩
        rw [runOn_reads_none isText found] at failed
        cases failed
    | some number =>
        rw [reads_some isText found, reads_some rfl isZero]
        exact alike text number inRange found
  asksAgain message text visit state isText inRange := by
    rw [AsksAgain, answers, isNumber]
    cases found : read text with
    | none => simp [runOn_reads_none isText found]
    | some number =>
        rw [reads_some isText found]
        apply iff_of_false
        · intro again
          apply ends text number inRange found visit () (by rw [again])
          rw [again]
          exact state
        · simp

end Answers

theorem typedDecimal_zero : typedDecimal "0" = some (.finite 0) := by
  decide +kernel

theorem typedAmount_zero : typedAmount "0" = some (.finite 0) := by
  decide +kernel

theorem typedInteger_zero : typedInteger "0" = some 0 := by
  decide +kernel

end Baste
