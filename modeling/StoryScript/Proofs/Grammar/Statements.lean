import StoryScript.Proofs.Grammar.Clauses
import StoryScript.Proofs.Grammar.StatementReads

set_option autoImplicit false

namespace StoryScript.Grammar

open Reading

theorem forLoop_eq (initializer : Option Stmt) (condition increment : Option Expr) (body : Stmt) :
    Stmt.forLoop initializer condition increment body =
      .block (initializer.toList ++ [.loop (condition.getD (.literal (.bool true))) (loopRound body increment)]) := by
  cases increment <;> rfl

-- Each theorem recurses as the reader it is about does. A statement that dangles is never followed by
-- an `else`, because the reader of its last `if` would have taken it.
mutual

theorem statement_sound (tokens : List Token) (stmt : Stmt) (rest : List Token)
    (reads : (statement tokens).Reads stmt rest) :
    ∃ dangles taken, tokens = taken ++ rest ∧ DerivesStatement dangles taken stmt ∧
      (dangles = true → NoElse rest) := by
  match tokens with
  | [] =>
    rw [statement] at reads
    obtain ⟨taken, same, derives⟩ := (expressionStatement_iff ..).1 reads
    exact ⟨false, taken, same, .expression taken stmt derives, fun closed => by cases closed⟩
  | t :: tokens =>
    by_cases isPrint : t.kind = .wordPrint
    · rw [statement_print t tokens isPrint, reads_past, printStatement] at reads
      obtain ⟨taken, semicolon, expr, rfl, isEnd, derives, rfl⟩ := (terminated_map_iff ..).1 reads
      exact ⟨false, t :: (taken ++ [semicolon]), by simp, .print t semicolon taken expr isPrint isEnd derives,
        fun closed => by cases closed⟩
    by_cases isReturn : t.kind = .wordReturn
    · rw [statement_return t tokens isReturn, reads_past] at reads
      obtain ⟨taken, semicolon, value, rfl, isEnd, derives, rfl⟩ := (returnStatement_iff ..).1 reads
      exact ⟨false, t :: (taken ++ [semicolon]), by simp, .ret t semicolon taken value isReturn isEnd derives,
        fun closed => by cases closed⟩
    by_cases isBrace : t.kind = .leftBrace
    · rw [statement_block t tokens isBrace, reads_past] at reads
      obtain ⟨body, inner, rfl⟩ := (reads_map ..).1 reads
      obtain ⟨taken, closing, rfl, isClosing, derives⟩ := block_sound tokens body rest inner
      exact ⟨false, t :: (taken ++ [closing]), by simp, .block t closing taken body isBrace isClosing derives,
        fun closed => by cases closed⟩
    by_cases isIf : t.kind = .wordIf
    · obtain ⟨condition, middle, thenBranch, left, first, second, finish⟩ := (reads_statement_if t tokens isIf ..).1 reads
      have fewer := reads_fewer _ _ _ first
      have still := reads_fewer _ _ _ second
      obtain ⟨opening, between, closing, rfl, isOpening, isClosing, conditionDerives⟩ := (parenthesised_iff ..).1 first
      obtain ⟨dangles, thenTokens, rfl, thenDerives, noElse⟩ := statement_sound middle thenBranch left second
      rcases finish with ⟨other, more, elseBranch, same, isElse, third, rfl⟩ | ⟨open', rfl, rfl⟩
      · have last : more.length < left.length := by simp [same]
        subst same
        obtain ⟨elseDangles, elseTokens, rfl, elseDerives, noMore⟩ := statement_sound more elseBranch rest third
        have closed : dangles = false := by
          cases dangles with
          | false => rfl
          | true => exact (noElse rfl other _ rfl isElse).elim
        subst closed
        exact ⟨elseDangles, t :: opening :: (between ++ closing :: (thenTokens ++ other :: elseTokens)), by simp,
          .ifElse elseDangles t opening closing other between thenTokens elseTokens condition thenBranch elseBranch
            isIf isOpening isClosing isElse conditionDerives thenDerives elseDerives, noMore⟩
      · exact ⟨true, t :: opening :: (between ++ closing :: thenTokens), by simp,
          .ifThen dangles t opening closing between thenTokens condition thenBranch isIf isOpening isClosing
            conditionDerives thenDerives, fun _ => open'⟩
    by_cases isWhile : t.kind = .wordWhile
    · obtain ⟨condition, middle, body, first, second, rfl⟩ := (reads_statement_while t tokens isWhile ..).1 reads
      have fewer := reads_fewer _ _ _ first
      obtain ⟨opening, between, closing, rfl, isOpening, isClosing, conditionDerives⟩ := (parenthesised_iff ..).1 first
      obtain ⟨dangles, bodyTokens, rfl, bodyDerives, noElse⟩ := statement_sound middle body rest second
      exact ⟨dangles, t :: opening :: (between ++ closing :: bodyTokens), by simp,
        .loop dangles t opening closing between bodyTokens condition body isWhile isOpening isClosing conditionDerives
          bodyDerives, noElse⟩
    by_cases isFor : t.kind = .wordFor
    · obtain ⟨clauses, middle, body, first, second, rfl⟩ := (reads_statement_for t tokens isFor ..).1 reads
      have fewer := reads_fewer _ _ _ first
      obtain ⟨opening, one, two, semicolon, three, closing, rfl, isOpening, isEnd, isClosing, oneDerives, twoDerives,
        threeDerives⟩ := (forClauses_iff ..).1 first
      obtain ⟨dangles, bodyTokens, rfl, bodyDerives, noElse⟩ := statement_sound middle body rest second
      refine ⟨dangles, t :: opening :: (one ++ (two ++ semicolon :: (three ++ closing :: bodyTokens))), by simp, ?_,
        noElse⟩
      rw [forLoop_eq]
      exact .forLoop dangles t opening semicolon closing one two three bodyTokens _ _ _ body isFor isOpening isEnd
        isClosing oneDerives twoDerives threeDerives bodyDerives
    rw [statement_expression t tokens isPrint isReturn isBrace isIf isWhile isFor] at reads
    obtain ⟨taken, same, derives⟩ := (expressionStatement_iff ..).1 reads
    exact ⟨false, taken, same, .expression taken stmt derives, fun closed => by cases closed⟩
termination_by 8 * tokens.length + 0
decreasing_by all_goals (simp only [List.length_cons]; omega)

theorem block_sound (tokens : List Token) (body : List Stmt) (rest : List Token)
    (reads : (block tokens).Reads body rest) :
    ∃ taken closing, tokens = taken ++ closing :: rest ∧ closing.kind = .rightBrace ∧
      DerivesDeclarations taken body := by
  obtain ⟨closing, lists, isClosing⟩ := (reads_block ..).1 reads
  obtain ⟨taken, same, derives⟩ := declarations_sound tokens body (closing :: rest) lists
  exact ⟨taken, closing, same, isClosing, derives⟩
termination_by 8 * tokens.length + 3
decreasing_by omega

theorem declarations_sound (tokens : List Token) (body : List Stmt) (rest : List Token)
    (lists : (declarations tokens).Lists body rest) :
    ∃ taken, tokens = taken ++ rest ∧ DerivesDeclarations taken body := by
  match tokens with
  | [] =>
    rw [declarations_stop [] (fun _ _ same => by cases same)] at lists
    obtain ⟨rfl, rfl⟩ := (lists_empty ..).1 lists
    exact ⟨[], rfl, .nil⟩
  | t :: tokens =>
    by_cases isClosing : t.kind = .rightBrace
    · have stops : ∀ t' more, t :: tokens = t' :: more → t'.kind = .rightBrace := by
        intro t' more same
        rw [← (List.cons.inj same).1]
        exact isClosing
      rw [declarations_stop (t :: tokens) stops] at lists
      obtain ⟨rfl, rfl⟩ := (lists_empty ..).1 lists
      exact ⟨[], rfl, .nil⟩
    · obtain ⟨stmt, middle, more, first, later, rfl⟩ := (lists_declarations_cons t tokens isClosing ..).1 lists
      have fewer : middle.length < tokens.length + 1 := reads_fewer _ _ _ first
      obtain ⟨before, same, derives⟩ := declaration_sound (t :: tokens) stmt middle first
      obtain ⟨after, rfl, moreDerive⟩ := declarations_sound middle more rest later
      exact ⟨before ++ after, by rw [same, List.append_assoc], .cons before after stmt more derives moreDerive⟩
termination_by 8 * tokens.length + 2
decreasing_by all_goals (simp only [List.length_cons]; omega)

theorem declaration_sound (tokens : List Token) (stmt : Stmt) (rest : List Token)
    (reads : (declaration tokens).Reads stmt rest) :
    ∃ taken, tokens = taken ++ rest ∧ DerivesDeclaration taken stmt := by
  match tokens with
  | [] =>
    rw [declaration] at reads
    obtain ⟨dangles, taken, same, derives, _⟩ := statement_sound [] stmt rest reads
    exact ⟨taken, same, .statement dangles taken stmt derives⟩
  | t :: tokens =>
    by_cases isVar : t.kind = .wordVar
    · rw [declaration_var t tokens isVar, reads_past] at reads
      obtain ⟨taken, rfl, derives⟩ := (varDeclaration_iff t isVar ..).1 reads
      exact ⟨t :: taken, rfl, .var _ stmt derives⟩
    by_cases isFun : t.kind = .wordFun
    · obtain ⟨⟨ident, params⟩, middle, body, first, second, rfl⟩ := (reads_declaration_function t tokens isFun ..).1 reads
      have fewer := reads_fewer _ _ _ first
      obtain ⟨name, opening, between, closing, brace, rfl, isName, rfl, isOpening, isClosing, isBrace, paramsDerive⟩ :=
        (functionHead_iff ..).1 first
      obtain ⟨bodyTokens, ending, rfl, isEnding, bodyDerives⟩ := block_sound middle body rest second
      exact ⟨t :: name :: opening :: (between ++ closing :: brace :: (bodyTokens ++ [ending])), by simp,
        .function t name opening closing brace ending between bodyTokens params body isFun isName isOpening isClosing
          isBrace isEnding paramsDerive bodyDerives⟩
    rw [declaration_statement t tokens isVar isFun] at reads
    obtain ⟨dangles, taken, same, derives, _⟩ := statement_sound (t :: tokens) stmt rest reads
    exact ⟨taken, same, .statement dangles taken stmt derives⟩
termination_by 8 * tokens.length + 1
decreasing_by
  · omega
  · simp only [List.length_cons]
    omega
  · omega

end

structure BeginsStatement (kind : Kind) : Prop where
  notVar : kind ≠ .wordVar
  notFun : kind ≠ .wordFun
  notElse : kind ≠ .wordElse
  notClosing : kind ≠ .rightBrace

theorem begins_of_expression (kind : Kind) (begins : beginsExpression kind = true) : BeginsStatement kind := by
  constructor <;> (rintro rfl; cases begins)

theorem begins_of_word (kind word : Kind) (same : kind = word) (begins : BeginsStatement word) :
    BeginsStatement kind := same ▸ begins

theorem statement_first (dangles : Bool) (tokens : List Token) (stmt : Stmt)
    (derives : DerivesStatement dangles tokens stmt) :
    ∃ t rest, tokens = t :: rest ∧ BeginsStatement t.kind := by
  cases derives with
  | expression _ _ inner =>
    obtain ⟨t, rest, same, begins⟩ := expressionStatement_first tokens stmt inner
    exact ⟨t, rest, same, begins_of_expression t.kind begins⟩
  | print word _ _ _ isWord => exact ⟨word, _, rfl, begins_of_word _ _ isWord (by constructor <;> decide)⟩
  | ret word _ _ _ isWord => exact ⟨word, _, rfl, begins_of_word _ _ isWord (by constructor <;> decide)⟩
  | block opening _ _ _ isOpening => exact ⟨opening, _, rfl, begins_of_word _ _ isOpening (by constructor <;> decide)⟩
  | ifThen _ word _ _ _ _ _ _ isWord => exact ⟨word, _, rfl, begins_of_word _ _ isWord (by constructor <;> decide)⟩
  | ifElse _ word _ _ _ _ _ _ _ _ _ isWord =>
    exact ⟨word, _, rfl, begins_of_word _ _ isWord (by constructor <;> decide)⟩
  | loop _ word _ _ _ _ _ _ isWord => exact ⟨word, _, rfl, begins_of_word _ _ isWord (by constructor <;> decide)⟩
  | forLoop _ word _ _ _ _ _ _ _ _ _ _ _ isWord =>
    exact ⟨word, _, rfl, begins_of_word _ _ isWord (by constructor <;> decide)⟩

theorem declaration_first (tokens : List Token) (stmt : Stmt) (derives : DerivesDeclaration tokens stmt) :
    ∃ t rest, tokens = t :: rest ∧ t.kind ≠ .wordElse ∧ t.kind ≠ .rightBrace := by
  cases derives with
  | var _ _ inner =>
    obtain ⟨word, rest, same, isWord⟩ := var_first tokens stmt inner
    exact ⟨word, rest, same, by simp [isWord], by simp [isWord]⟩
  | function word _ _ _ _ _ _ _ _ _ isWord => exact ⟨word, _, rfl, by simp [isWord], by simp [isWord]⟩
  | statement dangles _ _ inner =>
    obtain ⟨t, rest, same, begins⟩ := statement_first dangles tokens stmt inner
    exact ⟨t, rest, same, begins.notElse, begins.notClosing⟩

theorem noElse_cons (t : Token) (rest : List Token) (notElse : t.kind ≠ .wordElse) : NoElse (t :: rest) := by
  intro other more same
  rw [← (List.cons.inj same).1]
  exact notElse

def Closes (tokens : List Token) : Prop := ∀ t more, tokens = t :: more → t.kind = .rightBrace

theorem noElse_closes (tokens : List Token) (closes : Closes tokens) : NoElse tokens := by
  intro other more same isElse
  have isClosing := closes other more same
  simp [isElse] at isClosing

-- No declaration begins with an `else`, so one can only come from what follows them all.
theorem declarations_noElse (tokens : List Token) (body : List Stmt) (derives : DerivesDeclarations tokens body)
    (rest : List Token) (noElse : NoElse rest) : NoElse (tokens ++ rest) := by
  cases derives with
  | nil => exact noElse
  | cons before after stmt more first =>
    obtain ⟨t, others, rfl, notElse, _⟩ := declaration_first before stmt first
    exact noElse_cons t _ notElse

mutual

theorem statement_complete (dangles : Bool) (tokens : List Token) (stmt : Stmt)
    (derives : DerivesStatement dangles tokens stmt) (rest : List Token) (noElse : dangles = true → NoElse rest) :
    (statement (tokens ++ rest)).Reads stmt rest := by
  cases derives with
  | expression _ _ inner =>
    obtain ⟨t, more, rfl, begins⟩ := expressionStatement_first tokens stmt inner
    rw [List.cons_append, statement_expression t (more ++ rest)]
    · exact (expressionStatement_iff ..).2 ⟨t :: more, rfl, inner⟩
    all_goals
      intro isWord
      rw [isWord] at begins
      cases begins
  | print word semicolon taken expr isWord isEnd inner =>
    rw [List.cons_append, statement_print word _ isWord, reads_past]
    exact (terminated_map_iff ..).2 ⟨taken, semicolon, expr, by simp, isEnd, inner, rfl⟩
  | ret word semicolon taken value isWord isEnd inner =>
    rw [List.cons_append, statement_return word _ isWord, reads_past]
    exact (returnStatement_iff ..).2 ⟨taken, semicolon, value, by simp, isEnd, inner, rfl⟩
  | block opening closing taken body isOpening isClosing inner =>
    rw [List.cons_append, statement_block opening _ isOpening, reads_past]
    refine (reads_map ..).2 ⟨body, ?_, rfl⟩
    rw [List.append_assoc]
    exact block_complete taken body inner closing rest isClosing
  | ifThen thenDangles word opening closing between thenTokens condition thenBranch isWord isOpening isClosing
      conditionInner thenInner =>
    refine (reads_statement_if word _ isWord ..).2 ⟨condition, thenTokens ++ rest, thenBranch, rest, ?_, ?_, ?_⟩
    · exact (parenthesised_iff ..).2 ⟨opening, between, closing, by simp, isOpening, isClosing, conditionInner⟩
    · exact statement_complete thenDangles thenTokens thenBranch thenInner rest fun _ => noElse rfl
    · exact (finishesIf_then condition thenBranch rest _ rest (noElse rfl)).2 ⟨rfl, rfl⟩
  | ifElse _ word opening closing other between thenTokens elseTokens condition thenBranch elseBranch isWord
      isOpening isClosing isOther conditionInner thenInner elseInner =>
    refine (reads_statement_if word _ isWord ..).2
      ⟨condition, thenTokens ++ other :: (elseTokens ++ rest), thenBranch, other :: (elseTokens ++ rest), ?_, ?_, ?_⟩
    · exact (parenthesised_iff ..).2 ⟨opening, between, closing, by simp, isOpening, isClosing, conditionInner⟩
    · exact statement_complete false thenTokens thenBranch thenInner _ fun closed => by cases closed
    · exact (finishesIf_else condition thenBranch other _ _ rest isOther).2
        ⟨elseBranch, statement_complete dangles elseTokens elseBranch elseInner rest noElse, rfl⟩
  | loop _ word opening closing between bodyTokens condition body isWord isOpening isClosing conditionInner
      bodyInner =>
    refine (reads_statement_while word _ isWord ..).2 ⟨condition, bodyTokens ++ rest, body, ?_, ?_, rfl⟩
    · exact (parenthesised_iff ..).2 ⟨opening, between, closing, by simp, isOpening, isClosing, conditionInner⟩
    · exact statement_complete dangles bodyTokens body bodyInner rest noElse
  | forLoop _ word opening semicolon closing first second third bodyTokens initializer condition increment body
      isWord isOpening isEnd isClosing firstInner secondInner thirdInner bodyInner =>
    refine (reads_statement_for word _ isWord ..).2
      ⟨⟨initializer, condition, increment⟩, bodyTokens ++ rest, body, ?_, ?_, forLoop_eq ..⟩
    · exact (forClauses_iff ..).2 ⟨opening, first, second, semicolon, third, closing, by simp, isOpening, isEnd,
        isClosing, firstInner, secondInner, thirdInner⟩
    · exact statement_complete dangles bodyTokens body bodyInner rest noElse
termination_by 8 * tokens.length + 0
decreasing_by
  all_goals subst_vars
  all_goals simp only [List.length_append, List.length_cons]
  all_goals omega

theorem block_complete (tokens : List Token) (body : List Stmt) (derives : DerivesDeclarations tokens body)
    (closing : Token) (rest : List Token) (isClosing : closing.kind = .rightBrace) :
    (block (tokens ++ closing :: rest)).Reads body rest := by
  refine (reads_block ..).2 ⟨closing, ?_, isClosing⟩
  refine declarations_complete tokens body derives (closing :: rest) ?_
  intro t more same
  rw [← (List.cons.inj same).1]
  exact isClosing
termination_by 8 * tokens.length + 3
decreasing_by
  omega

theorem declarations_complete (tokens : List Token) (body : List Stmt) (derives : DerivesDeclarations tokens body)
    (rest : List Token) (closes : Closes rest) : (declarations (tokens ++ rest)).Lists body rest := by
  cases derives with
  | nil =>
    rw [List.nil_append, declarations_stop rest closes]
    exact (lists_empty ..).2 ⟨rfl, rfl⟩
  | cons before after stmt more first others =>
    have noElse := declarations_noElse after more others rest (noElse_closes rest closes)
    have reads := declaration_complete before stmt first (after ++ rest) noElse
    obtain ⟨t, within, rfl, _, notClosing⟩ := declaration_first before stmt first
    rw [List.append_assoc]
    exact (lists_declarations_cons t (within ++ (after ++ rest)) notClosing ..).2
      ⟨stmt, after ++ rest, more, reads, declarations_complete after more others rest closes, rfl⟩
termination_by 8 * tokens.length + 2
decreasing_by
  all_goals subst_vars
  all_goals simp only [List.length_append, List.length_cons]
  all_goals omega

theorem declaration_complete (tokens : List Token) (stmt : Stmt) (derives : DerivesDeclaration tokens stmt)
    (rest : List Token) (noElse : NoElse rest) : (declaration (tokens ++ rest)).Reads stmt rest := by
  cases derives with
  | var _ _ inner =>
    obtain ⟨word, more, rfl, isWord⟩ := var_first tokens stmt inner
    rw [List.cons_append, declaration_var word _ isWord, reads_past]
    exact (varDeclaration_iff word isWord ..).2 ⟨more, rfl, inner⟩
  | function word name opening closing brace ending paramTokens bodyTokens params body isWord isName isOpening
      isClosing isBrace isEnding paramsInner bodyInner =>
    refine (reads_declaration_function word _ isWord ..).2
      ⟨(⟨name.lexeme, name.line⟩, params), bodyTokens ++ ending :: rest, body, ?_, ?_, rfl⟩
    · exact (functionHead_iff ..).2 ⟨name, opening, paramTokens, closing, brace, by simp, isName, rfl, isOpening,
        isClosing, isBrace, paramsInner⟩
    · exact block_complete bodyTokens body bodyInner ending rest isEnding
  | statement dangles _ _ inner =>
    have reads := statement_complete dangles tokens stmt inner rest fun _ => noElse
    obtain ⟨t, more, rfl, begins⟩ := statement_first dangles tokens stmt inner
    rw [List.cons_append, declaration_statement t _ begins.notVar begins.notFun]
    exact reads
termination_by 8 * tokens.length + 1
decreasing_by
  · subst_vars
    simp only [List.length_append, List.length_cons]
    omega
  · subst_vars
    omega

end

end StoryScript.Grammar
