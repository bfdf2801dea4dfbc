import EntityCatalog.Proofs.Registration.Stages

/-!
# The memory of a memoized introspector

A dialogue with an introspector is a series of questions with what comes back for each of them. In a
dialogue with a memoized introspector the one behind it takes part in a dialogue of its own: of the
questions that agree but for their options it gets those up to the first one that it answers, and no
more. The reply to each of them is passed on, be it an answer or a failure, and what it has answered
once is the reply to all later ones. What is remembered are these answers, and reports and labels
are remembered apart from each other.
-/

namespace EntityCatalog

variable {τ σ : Type}

namespace Introspector

/-- A question, with everything that is asked along with it. -/
inductive Question (τ : Type) where
  | describe (table scope : String) (options : EntityOptions τ)
  | labels (typeName : String)

/-- The call that a question makes, which leaves out the options. -/
def Question.call : Question τ → Call
  | .describe table scope _ => .describe table scope
  | .labels typeName => .labels typeName

/-- What comes back for a question. -/
inductive Reply where
  | report (outcome : Except IntrospectionError ReportedEntity)
  | labels (outcome : Except IntrospectionError (List String))

/-- Whether a reply is an answer and no failure. -/
def Reply.isAnswer : Reply → Bool
  | .report (.ok _) | .labels (.ok _) => true
  | _ => false

/-- A question with its reply. -/
structure Exchange (τ : Type) where
  question : Question τ
  reply : Reply

namespace Exchange

def call (exchange : Exchange τ) : Call := exchange.question.call

def isAnswered (exchange : Exchange τ) : Bool := exchange.reply.isAnswer

end Exchange

/-- The reply to a question and the state after it. -/
def reply (introspector : Introspector τ σ) : Question τ → σ → Reply × σ
  | .describe table scope options, state =>
      (introspector.describe table scope options state).map .report id
  | .labels typeName, state => (introspector.labels typeName state).map .labels id

/-- The exchanges that a series of questions leads to, and the state after them. -/
def dialogue (introspector : Introspector τ σ) : List (Question τ) → σ → List (Exchange τ) × σ
  | [], state => ([], state)
  | question :: rest, state =>
      let (reply, next) := introspector.reply question state
      let (exchanges, final) := introspector.dialogue rest next
      (⟨question, reply⟩ :: exchanges, final)

/-- The exchanges about one call. -/
def exchangesAbout (call : Call) (exchanges : List (Exchange τ)) : List (Exchange τ) :=
  exchanges.filter fun exchange => exchange.call = call

/-- The exchanges up to and including the first one with an answer. -/
def throughAnswer : List (Exchange τ) → List (Exchange τ)
  | [] => []
  | exchange :: rest =>
      if exchange.isAnswered then [exchange] else exchange :: throughAnswer rest

/-- The exchanges that an introspector took part in, with its state after them. -/
structure Observed (τ σ : Type) where
  exchanges : List (Exchange τ)
  source : σ

/-- Adds an exchange at the end. -/
def Observed.add (observed : Observed τ σ) (question : Question τ) (reply : Reply) (source : σ) :
    Observed τ σ :=
  ⟨observed.exchanges ++ [⟨question, reply⟩], source⟩

/-- The introspector that lists the exchanges it takes part in. -/
def observed (introspector : Introspector τ σ) : Introspector τ (Observed τ σ) where
  describe table scope options state :=
    let (outcome, source) := introspector.describe table scope options state.source
    (outcome, state.add (.describe table scope options) (.report outcome) source)
  labels typeName state :=
    let (outcome, source) := introspector.labels typeName state.source
    (outcome, state.add (.labels typeName) (.labels outcome) source)

/-- The answer that is remembered for a call. -/
def Memo.recall? (memo : Memo σ) : Call → Option Reply
  | .describe table scope => (memo.reports.get? (scope, table)).map fun report => .report (.ok report)
  | .labels typeName => (memo.labels.get? typeName).map fun labels => .labels (.ok labels)

section Dialogue

variable {introspector : Introspector τ σ}

theorem dialogue_cons (question : Question τ) (rest : List (Question τ)) (state : σ) :
    introspector.dialogue (question :: rest) state =
      (⟨question, (introspector.reply question state).1⟩ ::
          (introspector.dialogue rest (introspector.reply question state).2).1,
        (introspector.dialogue rest (introspector.reply question state).2).2) := rfl

theorem dialogue_append_singleton (front : List (Question τ)) (question : Question τ) (state : σ) :
    introspector.dialogue (front ++ [question]) state =
      ((introspector.dialogue front state).1 ++
          [⟨question, (introspector.reply question (introspector.dialogue front state).2).1⟩],
        (introspector.reply question (introspector.dialogue front state).2).2) := by
  induction front generalizing state with
  | nil => rfl
  | cons first rest ih => rw [List.cons_append, dialogue_cons, ih, dialogue_cons, List.cons_append]

theorem map_question_dialogue (questions : List (Question τ)) (state : σ) :
    (introspector.dialogue questions state).1.map Exchange.question = questions := by
  induction questions generalizing state with
  | nil => rfl
  | cons question rest ih => rw [dialogue_cons, List.map_cons, ih]

theorem reply_observed (question : Question τ) (state : Observed τ σ) :
    introspector.observed.reply question state =
      ((introspector.reply question state.source).1,
        state.add question (introspector.reply question state.source).1
          (introspector.reply question state.source).2) := by
  cases question <;> rfl

end Dialogue

section Memoized

variable {introspector : Introspector τ σ} {memo : Memo σ} {question : Question τ} {call : Call}
  {reply : Reply}

theorem Memo.isAnswer_of_recall? (remembered : memo.recall? call = some reply) :
    reply.isAnswer = true := by
  cases call <;>
  · rcases Option.map_eq_some_iff.mp remembered with ⟨_, _, rfl⟩
    rfl

theorem reply_memoized_of_some (remembered : memo.recall? question.call = some reply) :
    introspector.memoized.reply question memo = (reply, memo) := by
  cases question <;> rcases Option.map_eq_some_iff.mp remembered with ⟨_, found, rfl⟩
  case describe => simp [Introspector.reply, memoized_describe_of_some found]
  case labels => simp [Introspector.reply, memoized_labels_of_some found]

theorem Memo.recall?_keepReport (table scope : String) (source : σ)
    (outcome : Except IntrospectionError ReportedEntity) (call : Call) :
    (memo.keepReport (scope, table) source outcome).recall? call =
      if call = .describe table scope ∧ (Reply.report outcome).isAnswer = true then
        some (.report outcome)
      else memo.recall? call := by
  rcases outcome with error | report
  · rw [if_neg (by simp [Reply.isAnswer])]
    rfl
  · rcases call with ⟨otherTable, otherScope⟩ | other
    · simp only [Memo.recall?, Memo.keepReport, OrderedMap.get?_insert, Prod.mk.injEq,
        Call.describe.injEq, Reply.isAnswer, and_true]
      by_cases same : otherTable = table ∧ otherScope = scope
      · rw [if_pos same, if_pos same.symm, Option.map_some]
      · rw [if_neg same, if_neg fun swapped => same swapped.symm]
    · rw [if_neg (by simp)]
      rfl

theorem Memo.recall?_keepLabels (typeName : String) (source : σ)
    (outcome : Except IntrospectionError (List String)) (call : Call) :
    (memo.keepLabels typeName source outcome).recall? call =
      if call = .labels typeName ∧ (Reply.labels outcome).isAnswer = true then
        some (.labels outcome)
      else memo.recall? call := by
  rcases outcome with error | labels
  · rw [if_neg (by simp [Reply.isAnswer])]
    rfl
  · rcases call with ⟨table, scope⟩ | other
    · rw [if_neg (by simp)]
      rfl
    · simp only [Memo.recall?, Memo.keepLabels, OrderedMap.get?_insert, Call.labels.injEq,
        Reply.isAnswer, and_true]
      by_cases same : other = typeName
      · rw [if_pos same, if_pos same, Option.map_some]
      · rw [if_neg same, if_neg same]

/-- A question that has no answer yet is passed on, and an answer to it is remembered. -/
theorem reply_memoized_of_none (introspector : Introspector τ σ)
    (unknown : memo.recall? question.call = none) :
    (introspector.memoized.reply question memo).1 = (introspector.reply question memo.source).1 ∧
      (introspector.memoized.reply question memo).2.source =
        (introspector.reply question memo.source).2 ∧
      ∀ call, (introspector.memoized.reply question memo).2.recall? call =
        if call = question.call ∧ (introspector.reply question memo.source).1.isAnswer = true then
          some (introspector.reply question memo.source).1
        else memo.recall? call := by
  cases question with
  | describe table scope options =>
      have notFound := Option.map_eq_none_iff.mp unknown
      simp only [Introspector.reply, memoized_describe_of_none notFound, Prod.map]
      refine ⟨trivial, ?_, fun call => memo.recall?_keepReport table scope _ _ call⟩
      cases (introspector.describe table scope options memo.source).1 <;> rfl
  | labels typeName =>
      have notFound := Option.map_eq_none_iff.mp unknown
      simp only [Introspector.reply, memoized_labels_of_none notFound, Prod.map]
      refine ⟨trivial, ?_, fun call => memo.recall?_keepLabels typeName _ _ call⟩
      cases (introspector.labels typeName memo.source).1 <;> rfl

end Memoized

section ThroughAnswer

variable {front : List (Exchange τ)}

theorem throughAnswer_append_of_unanswered
    (unanswered : ∀ exchange ∈ front, exchange.isAnswered = false) (back : List (Exchange τ)) :
    throughAnswer (front ++ back) = front ++ throughAnswer back := by
  induction front with
  | nil => rfl
  | cons exchange rest ih =>
      rcases List.forall_mem_cons.mp unanswered with ⟨first, others⟩
      rw [List.cons_append, throughAnswer, first, ih others]
      rfl

theorem throughAnswer_of_unanswered
    (unanswered : ∀ exchange ∈ front, exchange.isAnswered = false) : throughAnswer front = front := by
  have appended := throughAnswer_append_of_unanswered unanswered []
  rwa [throughAnswer, List.append_nil] at appended

theorem throughAnswer_singleton (exchange : Exchange τ) : throughAnswer [exchange] = [exchange] := by
  simp [throughAnswer]

theorem throughAnswer_append_of_answered {exchange : Exchange τ} (mem : exchange ∈ front)
    (answered : exchange.isAnswered = true) (back : List (Exchange τ)) :
    throughAnswer (front ++ back) = throughAnswer front := by
  induction front with
  | nil => cases mem
  | cons first rest ih =>
      rw [List.cons_append, throughAnswer, throughAnswer]
      split
      · rfl
      · next unanswered =>
        rcases List.mem_cons.mp mem with rfl | later
        · exact absurd answered unanswered
        · rw [ih later]

theorem exchangesAbout_append (call : Call) (front back : List (Exchange τ)) :
    exchangesAbout call (front ++ back) = exchangesAbout call front ++ exchangesAbout call back :=
  List.filter_append _ _

theorem exchangesAbout_singleton (call : Call) (exchange : Exchange τ) :
    exchangesAbout call [exchange] = if exchange.call = call then [exchange] else [] := by
  by_cases same : exchange.call = call <;> simp [exchangesAbout, same]

theorem mem_exchangesAbout_iff {call : Call} {exchange : Exchange τ} :
    exchange ∈ exchangesAbout call front ↔ exchange ∈ front ∧ exchange.call = call := by
  simp [exchangesAbout]

end ThroughAnswer

/-- What a memory that was fresh at first has to do with the exchanges since then. -/
structure Memo.Reflects (memo : Memo (Observed τ σ)) (introspector : Introspector τ σ) (source : σ)
    (past : List (Exchange τ)) : Prop where
  /-- The introspector behind the memory had a dialogue of its own. -/
  genuine : introspector.dialogue (memo.source.exchanges.map Exchange.question) source =
    (memo.source.exchanges, memo.source.source)
  /-- It took part in some of the exchanges, in their order. -/
  inOrder : memo.source.exchanges.Sublist past
  /-- Of those about one call it took part in all up to the first one with an answer. -/
  received : ∀ call,
    exchangesAbout call memo.source.exchanges = throughAnswer (exchangesAbout call past)
  /-- All failures are its own. -/
  failures : (past.filter fun exchange => !exchange.isAnswered) =
    memo.source.exchanges.filter fun exchange => !exchange.isAnswered
  /-- After an answer all replies about the same call are that answer. -/
  settled : past.Pairwise fun earlier later =>
    earlier.isAnswered = true → later.call = earlier.call → later.reply = earlier.reply
  /-- What is remembered is what was answered. -/
  recalls : ∀ call reply, memo.recall? call = some reply ↔
    ∃ exchange ∈ past, exchange.isAnswered = true ∧ exchange.call = call ∧ exchange.reply = reply

namespace Memo.Reflects

variable {introspector : Introspector τ σ} {source : σ} {memo : Memo (Observed τ σ)}
  {past : List (Exchange τ)} {question : Question τ} {reply : Reply}

theorem fresh (introspector : Introspector τ σ) (source : σ) :
    (Memo.fresh ⟨[], source⟩ : Memo (Observed τ σ)).Reflects introspector source [] where
  genuine := rfl
  inOrder := List.Sublist.slnil
  received _ := rfl
  failures := rfl
  settled := List.Pairwise.nil
  recalls call reply := by cases call <;> simp [Memo.recall?, Memo.fresh]

/-- A question that is answered from memory changes nothing. -/
theorem again (reflects : memo.Reflects introspector source past)
    (remembered : memo.recall? question.call = some reply) :
    memo.Reflects introspector source (past ++ [⟨question, reply⟩]) := by
  rcases (reflects.recalls _ _).mp remembered with ⟨first, mem, answered, sameCall, sameReply⟩
  have replyAnswers := Memo.isAnswer_of_recall? remembered
  have isAnswered : (⟨question, reply⟩ : Exchange τ).isAnswered = true := replyAnswers
  constructor
  case genuine => exact reflects.genuine
  case inOrder => exact reflects.inOrder.trans (List.sublist_append_left _ _)
  case received =>
    intro call
    rw [reflects.received, exchangesAbout_append, exchangesAbout_singleton]
    split
    · next same =>
      have firstMem := mem_exchangesAbout_iff.mpr ⟨mem, sameCall.trans same⟩
      rw [throughAnswer_append_of_answered firstMem answered]
    · rw [List.append_nil]
  case failures =>
    rw [List.filter_append, reflects.failures, List.filter_singleton, isAnswered]
    exact List.append_nil _
  case settled =>
    rw [List.pairwise_append]
    refine ⟨reflects.settled, List.pairwise_singleton _ _, ?_⟩
    intro earlier earlierMem later laterMem earlierAnswered same
    rcases List.mem_singleton.mp laterMem with rfl
    have recalled := (reflects.recalls _ _).mpr ⟨earlier, earlierMem, earlierAnswered, rfl, rfl⟩
    rw [← same] at recalled
    exact Option.some.inj (remembered.symm.trans recalled)
  case recalls =>
    intro call other
    rw [reflects.recalls]
    constructor
    · rintro ⟨exchange, exchangeMem, rest⟩
      exact ⟨exchange, List.mem_append_left _ exchangeMem, rest⟩
    · rintro ⟨exchange, exchangeMem, rest⟩
      rcases List.mem_append.mp exchangeMem with before | new
      · exact ⟨exchange, before, rest⟩
      · rcases List.mem_singleton.mp new with rfl
        rcases rest with ⟨_, rfl, rfl⟩
        exact ⟨first, mem, answered, sameCall, sameReply⟩

/-- A question that is passed on is an exchange of the introspector behind the memory. -/
theorem asked (reflects : memo.Reflects introspector source past)
    (unknown : memo.recall? question.call = none) :
    (introspector.observed.memoized.reply question memo).2.Reflects introspector source
      (past ++ [⟨question, (introspector.observed.memoized.reply question memo).1⟩]) := by
  rcases reply_memoized_of_none introspector.observed unknown with
    ⟨replyEq, sourceEq, recallEq⟩
  have unanswered : ∀ exchange ∈ past, exchange.call = question.call →
      exchange.isAnswered = false := by
    intro exchange mem same
    by_contra answered
    rw [Bool.not_eq_false] at answered
    have recalled := (reflects.recalls _ _).mpr ⟨exchange, mem, answered, same, rfl⟩
    rw [unknown] at recalled
    cases recalled
  rw [reply_observed] at replyEq sourceEq recallEq
  rw [replyEq]
  generalize (introspector.observed.memoized.reply question memo).2 = next at sourceEq recallEq ⊢
  simp only at sourceEq recallEq ⊢
  constructor
  case genuine =>
    rw [sourceEq]
    simp only [Observed.add, List.map_append, List.map_singleton, dialogue_append_singleton,
      reflects.genuine]
  case inOrder =>
    rw [sourceEq]
    exact reflects.inOrder.append (List.Sublist.refl _)
  case received =>
    intro call
    rw [sourceEq, Observed.add, exchangesAbout_append, exchangesAbout_append,
      exchangesAbout_singleton, reflects.received]
    split
    · next same =>
      have unansweredAbout : ∀ exchange ∈ exchangesAbout call past, exchange.isAnswered = false := by
        intro exchange mem
        rcases mem_exchangesAbout_iff.mp mem with ⟨mem, aboutCall⟩
        exact unanswered exchange mem (aboutCall.trans same.symm)
      rw [throughAnswer_of_unanswered unansweredAbout,
        throughAnswer_append_of_unanswered unansweredAbout, throughAnswer_singleton]
    · rw [List.append_nil, List.append_nil]
  case failures =>
    rw [sourceEq, Observed.add, List.filter_append, List.filter_append, reflects.failures]
  case settled =>
    rw [List.pairwise_append]
    refine ⟨reflects.settled, List.pairwise_singleton _ _, ?_⟩
    intro earlier earlierMem later laterMem answered same
    rcases List.mem_singleton.mp laterMem with rfl
    rw [unanswered earlier earlierMem same.symm] at answered
    cases answered
  case recalls =>
    intro call other
    simp only [List.mem_append, List.mem_singleton, or_and_right, exists_or, exists_eq_left,
      ← reflects.recalls]
    rw [recallEq]
    split
    · next aboutQuestion =>
      rcases aboutQuestion with ⟨rfl, answers⟩
      simp [unknown, Exchange.isAnswered, Exchange.call, answers]
    · next notAnswered =>
      refine (or_iff_left ?_).symm
      rintro ⟨answers, same, _⟩
      exact notAnswered ⟨same.symm, answers⟩

/-- What is asked next is reflected too. -/
theorem next (reflects : memo.Reflects introspector source past) (question : Question τ) :
    (introspector.observed.memoized.reply question memo).2.Reflects introspector source
      (past ++ [⟨question, (introspector.observed.memoized.reply question memo).1⟩]) := by
  rcases recalled : memo.recall? question.call with _ | remembered
  · exact reflects.asked recalled
  · rw [reply_memoized_of_some recalled]
    exact reflects.again recalled

/-- A dialogue is reflected by the memory that it leaves. -/
theorem dialogue (reflects : memo.Reflects introspector source past)
    (questions : List (Question τ)) :
    (introspector.observed.memoized.dialogue questions memo).2.Reflects introspector source
      (past ++ (introspector.observed.memoized.dialogue questions memo).1) := by
  induction questions generalizing memo past with
  | nil =>
      rw [Introspector.dialogue, List.append_nil]
      exact reflects
  | cons question rest ih =>
      have grown := ih (reflects.next question)
      rw [List.append_assoc] at grown
      exact grown

end Memo.Reflects

/-- Labels make no difference to the reports that are remembered. -/
theorem reports_memoized_labels (introspector : Introspector τ σ) (typeName : String)
    (memo : Memo σ) : (introspector.memoized.labels typeName memo).2.reports = memo.reports := by
  rcases remembered : memo.labels.get? typeName with _ | labels
  · rw [memoized_labels_of_none remembered]
    cases (introspector.labels typeName memo.source).1 <;> rfl
  · rw [memoized_labels_of_some remembered]

/-- Reports make no difference to the labels that are remembered. -/
theorem labels_memoized_describe (introspector : Introspector τ σ) (table scope : String)
    (options : EntityOptions τ) (memo : Memo σ) :
    (introspector.memoized.describe table scope options memo).2.labels = memo.labels := by
  rcases remembered : memo.reports.get? (scope, table) with _ | report
  · rw [memoized_describe_of_none remembered]
    cases (introspector.describe table scope options memo.source).1 <;> rfl
  · rw [memoized_describe_of_some remembered]

/--
In every dialogue with a memoized introspector, the one behind it has a dialogue of its own, of
which the memory knows the answers. What it is asked about a call is what the client asked about
this call up to the first answer, with all options; its failures are passed on one by one, and after
an answer all replies about the same call are this answer, whatever their options are. Neither of
the two kinds of questions changes what is remembered of the other.
-/
theorem memoized_dialogue (introspector : Introspector τ σ) (source : σ)
    (questions : List (Question τ)) :
    let outcome := introspector.observed.memoized.dialogue questions (.fresh ⟨[], source⟩)
    outcome.1.map Exchange.question = questions ∧
      outcome.2.Reflects introspector source outcome.1 ∧
      (∀ typeName memo, (introspector.memoized.labels typeName memo).2.reports = memo.reports) ∧
      ∀ table scope options memo,
        (introspector.memoized.describe table scope options memo).2.labels = memo.labels := by
  refine ⟨map_question_dialogue questions _, ?_, introspector.reports_memoized_labels,
    introspector.labels_memoized_describe⟩
  exact (Memo.Reflects.fresh introspector source).dialogue questions

end Introspector

end EntityCatalog
