import StoryScript.Proofs.Grammar.ExpressionComplete
import StoryScript.Proofs.Grammar.ExpressionSound

set_option autoImplicit false

namespace StoryScript.Grammar

open Reading

theorem follows_semicolon (level : Level) (t : Token) (rest : List Token) (isEnd : t.kind = .semicolon) :
    Follows level (t :: rest) :=
  follows_plain level t rest (by simp [isEnd, binding?]) (by simp [isEnd])

theorem expression_derives (tokens : List Token) (expr : Expr) (rest : List Token)
    (reads : (expression 0 tokens).Reads expr rest) :
    ∃ taken, tokens = taken ++ rest ∧ DerivesExpression taken expr := by
  obtain ⟨taken, same, _, derives⟩ := expression_sound 0 tokens expr rest reads
  exact ⟨taken, same, derives .assignment serves_any⟩

theorem expression_first (tokens : List Token) (expr : Expr) (derives : DerivesExpression tokens expr) :
    ∃ t rest, tokens = t :: rest ∧ beginsExpression t.kind = true := by
  obtain ⟨t, rest, same, begins, _⟩ := derives_first .assignment tokens expr derives
  exact ⟨t, rest, same, begins⟩

theorem expression_not_startsWith (kind : Kind) (tokens rest : List Token) (expr : Expr)
    (derives : DerivesExpression tokens expr) (other : beginsExpression kind = false) :
    startsWith kind (tokens ++ rest) = false := by
  obtain ⟨t, more, rfl, begins⟩ := expression_first tokens expr derives
  apply Bool.eq_false_iff.2
  intro starts
  simp only [List.cons_append, startsWith, beq_iff_eq] at starts
  rw [starts, other] at begins
  cases begins

theorem terminated_iff (complaint : Complaint) (tokens : List Token) (expr : Expr) (rest : List Token) :
    (terminated complaint tokens).Reads expr rest ↔
      ∃ taken semicolon, tokens = taken ++ semicolon :: rest ∧ semicolon.kind = .semicolon ∧
        DerivesExpression taken expr := by
  rw [reads_terminated]
  constructor
  · rintro ⟨semicolon, reads, isEnd⟩
    obtain ⟨taken, same, derives⟩ := expression_derives _ _ _ reads
    exact ⟨taken, semicolon, same, isEnd, derives⟩
  · rintro ⟨taken, semicolon, rfl, isEnd, derives⟩
    exact ⟨semicolon, expression_then taken expr derives _ (follows_semicolon _ semicolon rest isEnd), isEnd⟩

theorem parenthesised_iff (before after : Complaint) (tokens : List Token) (expr : Expr) (rest : List Token) :
    (parenthesised before after tokens).Reads expr rest ↔
      ∃ opening taken closing, tokens = opening :: (taken ++ closing :: rest) ∧ opening.kind = .leftParen ∧
        closing.kind = .rightParen ∧ DerivesExpression taken expr := by
  rw [reads_parenthesised]
  constructor
  · rintro ⟨opening, closing, middle, rfl, isOpening, reads, isClosing⟩
    obtain ⟨taken, rfl, derives⟩ := expression_derives _ _ _ reads
    exact ⟨opening, taken, closing, rfl, isOpening, isClosing, derives⟩
  · rintro ⟨opening, taken, closing, rfl, isOpening, isClosing, derives⟩
    exact ⟨opening, closing, _, rfl, isOpening,
      expression_then taken expr derives _ (follows_closing _ closing rest isClosing), isClosing⟩

theorem terminated_map_iff {α : Type} (complaint : Complaint) (tokens : List Token) (f : Expr → α) (phrase : α)
    (rest : List Token) :
    ((terminated complaint tokens).map f).Reads phrase rest ↔
      ∃ taken semicolon expr, tokens = taken ++ semicolon :: rest ∧ semicolon.kind = .semicolon ∧
        DerivesExpression taken expr ∧ f expr = phrase := by
  rw [reads_map]
  constructor
  · rintro ⟨expr, reads, same⟩
    obtain ⟨taken, semicolon, rfl, isEnd, derives⟩ := (terminated_iff ..).1 reads
    exact ⟨taken, semicolon, expr, rfl, isEnd, derives, same⟩
  · rintro ⟨taken, semicolon, expr, rfl, isEnd, derives, same⟩
    exact ⟨expr, (terminated_iff ..).2 ⟨taken, semicolon, rfl, isEnd, derives⟩, same⟩

theorem expressionStatement_iff (tokens : List Token) (stmt : Stmt) (rest : List Token) :
    (expressionStatement tokens).Reads stmt rest ↔
      ∃ taken, tokens = taken ++ rest ∧ DerivesExpressionStatement taken stmt := by
  rw [expressionStatement, terminated_map_iff]
  constructor
  · rintro ⟨taken, semicolon, expr, rfl, isEnd, derives, rfl⟩
    exact ⟨taken ++ [semicolon], by simp, .expression taken semicolon expr isEnd derives⟩
  · rintro ⟨_, rfl, ⟨taken, semicolon, expr, isEnd, derives⟩⟩
    exact ⟨taken, semicolon, expr, by simp, isEnd, derives, rfl⟩

-- An expression that may be absent before the token that closes it. The reader looks at the first
-- token only, which is enough because no expression begins with the closing token.
theorem optional_iff {α : Type} (kind : Kind) (tokens rest : List Token) (phrase : α) (f : Option Expr → α)
    (other : beginsExpression kind = false) (absent present : Reading α tokens.length)
    (absentReads : absent.Reads phrase rest ↔ ∃ closing, tokens = closing :: rest ∧ closing.kind = kind ∧ f none = phrase)
    (presentReads : present.Reads phrase rest ↔ ∃ taken closing expr, tokens = taken ++ closing :: rest ∧
      closing.kind = kind ∧ DerivesExpression taken expr ∧ f (some expr) = phrase) :
    (if startsWith kind tokens then absent else present).Reads phrase rest ↔
      ∃ taken closing value, tokens = taken ++ closing :: rest ∧ closing.kind = kind ∧
        DerivesOptional taken value ∧ f value = phrase := by
  constructor
  · intro reads
    split at reads
    · obtain ⟨closing, same, isClosing, result⟩ := absentReads.1 reads
      exact ⟨[], closing, none, same, isClosing, .absent, result⟩
    · obtain ⟨taken, closing, expr, same, isClosing, derives, result⟩ := presentReads.1 reads
      exact ⟨taken, closing, some expr, same, isClosing, .present taken expr derives, result⟩
  · rintro ⟨taken, closing, value, same, isClosing, derives, result⟩
    cases derives with
    | absent =>
      rw [if_pos ((startsWith_iff kind tokens).2 ⟨closing, rest, same, isClosing⟩)]
      exact absentReads.2 ⟨closing, same, isClosing, result⟩
    | present _ expr derives =>
      have later := expression_not_startsWith kind taken (closing :: rest) expr derives other
      rw [← same] at later
      rw [if_neg (Bool.eq_false_iff.1 later)]
      exact presentReads.2 ⟨taken, closing, expr, same, isClosing, derives, result⟩

theorem returnStatement_iff (word : Token) (tokens : List Token) (stmt : Stmt) (rest : List Token) :
    (returnStatement word tokens).Reads stmt rest ↔
      ∃ taken semicolon value, tokens = taken ++ semicolon :: rest ∧ semicolon.kind = .semicolon ∧
        DerivesOptional taken value ∧ .ret value word.line = stmt := by
  unfold returnStatement
  refine optional_iff .semicolon tokens rest stmt (fun value => Stmt.ret value word.line) rfl _ _ ?_ ?_
  · exact reads_expect_map ..
  · exact terminated_map_iff ..

theorem varDeclaration_iff (word : Token) (isWord : word.kind = .wordVar) (tokens : List Token) (stmt : Stmt)
    (rest : List Token) :
    (varDeclaration tokens).Reads stmt rest ↔
      ∃ taken, tokens = taken ++ rest ∧ DerivesVar (word :: taken) stmt := by
  unfold varDeclaration
  rw [reads_bind_cons _ _ _ _ fun ident sign left =>
    (sign.kind = .equal ∧ ∃ taken semicolon value, left = taken ++ semicolon :: rest ∧
      semicolon.kind = .semicolon ∧ DerivesExpression taken value ∧ .var ident (some value) = stmt) ∨
    (sign.kind = .semicolon ∧ left = rest ∧ .var ident none = stmt)]
  · simp only [reads_name]
    constructor
    · rintro ⟨_, sign, left, ⟨t, rfl, isName, rfl⟩, ⟨isSign, taken, semicolon, value, rfl, isEnd, derives, rfl⟩ |
        ⟨isEnd, rfl, rfl⟩⟩
      · exact ⟨t :: sign :: (taken ++ [semicolon]), by simp,
          .initialised word t sign semicolon taken value isWord isName isSign isEnd derives⟩
      · exact ⟨[t, sign], rfl, .bare word t sign isWord isName isEnd⟩
    · rintro ⟨_, rfl, derives⟩
      cases derives with
      | bare _ t semicolon _ isName isEnd =>
        exact ⟨_, semicolon, rest, ⟨t, rfl, isName, rfl⟩, Or.inr ⟨isEnd, rfl, rfl⟩⟩
      | initialised _ t sign semicolon taken value _ isName isSign isEnd derives =>
        exact ⟨_, sign, taken ++ semicolon :: rest, ⟨t, by simp, isName, rfl⟩,
          Or.inl ⟨isSign, taken, semicolon, value, rfl, isEnd, derives, rfl⟩⟩
  · intro ident fewer reads
    exact reads_complain _ _ _ _ ((reads_within ..).1 reads)
  · intro ident sign left fewer
    by_cases isSign : sign.kind = .equal
    · simp [isSign, reads_within, terminated_map_iff]
    · simp [isSign, reads_within, reads_expect_map_cons]

theorem moreParameters_iff (tokens : List Token) (params : List Ident) (rest : List Token) :
    (moreParameters tokens).Reads params rest ↔
      ∃ t sign middle, tokens = t :: sign :: middle ∧ t.kind = .identifier ∧
        (sign.kind = .comma ∧
          (∃ more, (moreParameters middle).Reads more rest ∧ ⟨t.lexeme, t.line⟩ :: more = params) ∨
        sign.kind = .rightParen ∧ middle = rest ∧ [⟨t.lexeme, t.line⟩] = params) := by
  rw [moreParameters]
  rw [reads_bind_cons _ _ _ _ fun param sign left =>
    sign.kind = .comma ∧ (∃ more, (moreParameters left).Reads more rest ∧ param :: more = params) ∨
      sign.kind = .rightParen ∧ left = rest ∧ [param] = params]
  · simp only [reads_name]
    constructor
    · rintro ⟨_, sign, left, ⟨t, rfl, isName, rfl⟩, next⟩
      exact ⟨t, sign, left, rfl, isName, next⟩
    · rintro ⟨t, sign, left, rfl, isName, next⟩
      exact ⟨_, sign, left, ⟨t, rfl, isName, rfl⟩, next⟩
  · intro param fewer reads
    exact reads_complain _ _ _ _ ((reads_within ..).1 reads)
  · intro param sign left fewer
    by_cases isComma : sign.kind = .comma
    · simp [isComma, reads_within, reads_map]
    · simp [isComma, reads_within, reads_expect_map_cons]

theorem moreParameters_sound (tokens : List Token) (params : List Ident) (rest : List Token)
    (reads : (moreParameters tokens).Reads params rest) :
    ∃ taken closing first others, tokens = taken ++ closing :: rest ∧ closing.kind = .rightParen ∧
      params = first :: others ∧ DerivesParameters taken params := by
  obtain ⟨t, sign, middle, same, isName, next⟩ := (moreParameters_iff ..).1 reads
  have fewer : middle.length + 2 = tokens.length := by simp [same]
  subst same
  rcases next with ⟨isComma, more, moreReads, rfl⟩ | ⟨isClosing, rfl, rfl⟩
  · obtain ⟨taken, closing, first, others, rfl, isClosing, rfl, derives⟩ :=
      moreParameters_sound middle more rest moreReads
    exact ⟨t :: sign :: taken, closing, _, _, rfl, isClosing, rfl,
      .more t sign taken first others isName isComma derives⟩
  · exact ⟨[t], sign, _, [], rfl, isClosing, rfl, .last t isName⟩
termination_by tokens.length
decreasing_by omega

theorem moreParameters_complete (tokens : List Token) (first : Ident) (others : List Ident)
    (derives : DerivesParameters tokens (first :: others)) (closing : Token) (rest : List Token)
    (isClosing : closing.kind = .rightParen) :
    (moreParameters (tokens ++ closing :: rest)).Reads (first :: others) rest := by
  generalize same : first :: others = params at derives
  induction derives generalizing first others with
  | none => cases same
  | last t isName => exact (moreParameters_iff ..).2 ⟨t, closing, rest, rfl, isName, Or.inr ⟨isClosing, rfl, rfl⟩⟩
  | more t comma tokens next params isName isComma _ ih =>
    exact (moreParameters_iff ..).2 ⟨t, comma, tokens ++ closing :: rest, rfl, isName,
      Or.inl ⟨isComma, next :: params, ih next params rfl, rfl⟩⟩

theorem parameters_iff (tokens : List Token) (params : List Ident) (rest : List Token) :
    (parameters tokens).Reads params rest ↔
      ∃ taken closing, tokens = taken ++ closing :: rest ∧ closing.kind = .rightParen ∧
        DerivesParameters taken params := by
  unfold parameters
  constructor
  · intro reads
    split at reads
    · obtain ⟨closing, rfl, isClosing, rfl⟩ := (reads_expect_map ..).1 reads
      exact ⟨[], closing, rfl, isClosing, .none⟩
    · obtain ⟨taken, closing, _, _, same, isClosing, _, derives⟩ := moreParameters_sound tokens params rest reads
      exact ⟨taken, closing, same, isClosing, derives⟩
  · rintro ⟨taken, closing, rfl, isClosing, derives⟩
    cases params with
    | nil =>
      cases derives
      rw [List.nil_append, if_pos ((startsWith_iff ..).2 ⟨closing, rest, rfl, isClosing⟩)]
      exact (reads_expect_map ..).2 ⟨closing, rfl, isClosing, rfl⟩
    | cons first others =>
      have later : ¬ startsWith .rightParen (taken ++ closing :: rest) = true := by
        cases derives with
        | last t isName => simp [startsWith, isName]
        | more t comma tokens next params isName => simp [startsWith, isName]
      rw [if_neg later]
      exact moreParameters_complete taken first others derives closing rest isClosing

theorem functionHead_iff (tokens : List Token) (ident : Ident) (params : List Ident) (rest : List Token) :
    (functionHead tokens).Reads (ident, params) rest ↔
      ∃ t opening taken closing brace, tokens = t :: opening :: (taken ++ closing :: brace :: rest) ∧
        t.kind = .identifier ∧ ⟨t.lexeme, t.line⟩ = ident ∧ opening.kind = .leftParen ∧
        closing.kind = .rightParen ∧ brace.kind = .leftBrace ∧ DerivesParameters taken params := by
  unfold functionHead
  rw [reads_bind _ _ _ _ fun found left => ∃ opening taken closing brace,
    left = opening :: (taken ++ closing :: brace :: rest) ∧ opening.kind = .leftParen ∧
    closing.kind = .rightParen ∧ brace.kind = .leftBrace ∧ found = ident ∧ DerivesParameters taken params]
  · simp only [reads_name]
    constructor
    · rintro ⟨_, left, ⟨t, rfl, isName, rfl⟩, opening, taken, closing, brace, rfl, isOpening, isClosing, isBrace, same, derives⟩
      exact ⟨t, opening, taken, closing, brace, rfl, isName, same, isOpening, isClosing, isBrace, derives⟩
    · rintro ⟨t, opening, taken, closing, brace, rfl, isName, same, isOpening, isClosing, isBrace, derives⟩
      exact ⟨_, _, ⟨t, rfl, isName, rfl⟩, opening, taken, closing, brace, rfl, isOpening, isClosing, isBrace, same, derives⟩
  · intro found left fewer
    rw [reads_bind _ _ _ _ fun _ left => ∃ taken closing brace, left = taken ++ closing :: brace :: rest ∧
      closing.kind = .rightParen ∧ brace.kind = .leftBrace ∧ found = ident ∧ DerivesParameters taken params]
    · simp only [reads_within, reads_expect]
      constructor
      · rintro ⟨opening, _, ⟨rfl, isOpening⟩, taken, closing, brace, rfl, more⟩
        exact ⟨opening, taken, closing, brace, rfl, isOpening, more⟩
      · rintro ⟨opening, taken, closing, brace, rfl, isOpening, more⟩
        exact ⟨opening, _, ⟨rfl, isOpening⟩, taken, closing, brace, rfl, more⟩
    · intro opening left fewer
      rw [reads_closed]
      simp only [reads_within, parameters_iff, Prod.mk.injEq]
      constructor
      · rintro ⟨_, brace, ⟨taken, closing, rfl, isClosing, derives⟩, isBrace, same, rfl⟩
        exact ⟨taken, closing, brace, rfl, isClosing, isBrace, same, derives⟩
      · rintro ⟨taken, closing, brace, rfl, isClosing, isBrace, same, derives⟩
        exact ⟨params, brace, ⟨taken, closing, rfl, isClosing, derives⟩, isBrace, same, rfl⟩

theorem expressionStatement_first (tokens : List Token) (stmt : Stmt)
    (derives : DerivesExpressionStatement tokens stmt) :
    ∃ t rest, tokens = t :: rest ∧ beginsExpression t.kind = true := by
  obtain ⟨taken, semicolon, expr, isEnd, inner⟩ := derives
  obtain ⟨t, rest, rfl, begins⟩ := expression_first taken expr inner
  exact ⟨t, _, rfl, begins⟩

theorem var_first (tokens : List Token) (stmt : Stmt) (derives : DerivesVar tokens stmt) :
    ∃ word rest, tokens = word :: rest ∧ word.kind = .wordVar := by
  cases derives with
  | bare word t semicolon isWord => exact ⟨word, _, rfl, isWord⟩
  | initialised word t sign semicolon taken value isWord => exact ⟨word, _, rfl, isWord⟩

theorem initializer_absent (t : Token) (rest : List Token) (isEnd : t.kind = .semicolon) :
    forInitializer (t :: rest) = ended none rest := by
  simp [forInitializer, isEnd]

theorem initializer_var (t : Token) (rest : List Token) (isWord : t.kind = .wordVar) :
    forInitializer (t :: rest) = ((varDeclaration rest).map some).past := by
  simp [forInitializer, isWord]

theorem initializer_expression (t : Token) (rest : List Token) (notEnd : t.kind ≠ .semicolon)
    (notWord : t.kind ≠ .wordVar) :
    forInitializer (t :: rest) = (expressionStatement (t :: rest)).map some := by
  simp [forInitializer, notEnd, notWord]

theorem forInitializer_iff (tokens : List Token) (initializer : Option Stmt) (rest : List Token) :
    (forInitializer tokens).Reads initializer rest ↔
      ∃ taken, tokens = taken ++ rest ∧ DerivesInitializer taken initializer := by
  constructor
  · intro reads
    cases tokens with
    | nil =>
      obtain ⟨stmt, inner, rfl⟩ := (reads_map ..).1 reads
      obtain ⟨taken, same, derives⟩ := (expressionStatement_iff ..).1 inner
      exact ⟨taken, same, .expression taken stmt derives⟩
    | cons t more =>
      by_cases isEnd : t.kind = .semicolon
      · rw [initializer_absent t more isEnd] at reads
        obtain ⟨rfl, rfl⟩ := (reads_ended ..).1 reads
        exact ⟨[t], rfl, .absent t isEnd⟩
      · by_cases isWord : t.kind = .wordVar
        · rw [initializer_var t more isWord, reads_past] at reads
          obtain ⟨stmt, inner, rfl⟩ := (reads_map ..).1 reads
          obtain ⟨taken, rfl, derives⟩ := (varDeclaration_iff t isWord ..).1 inner
          exact ⟨t :: taken, rfl, .var _ stmt derives⟩
        · rw [initializer_expression t more isEnd isWord] at reads
          obtain ⟨stmt, inner, rfl⟩ := (reads_map ..).1 reads
          obtain ⟨taken, same, derives⟩ := (expressionStatement_iff ..).1 inner
          exact ⟨taken, same, .expression taken stmt derives⟩
  · rintro ⟨taken, rfl, derives⟩
    cases derives with
    | absent semicolon isEnd =>
      rw [List.cons_append, initializer_absent semicolon _ isEnd]
      exact (reads_ended ..).2 ⟨rfl, rfl⟩
    | var _ stmt inner =>
      obtain ⟨word, more, rfl, isWord⟩ := var_first taken stmt inner
      rw [List.cons_append, initializer_var word _ isWord, reads_past]
      exact (reads_map ..).2 ⟨stmt, (varDeclaration_iff word isWord ..).2 ⟨more, rfl, inner⟩, rfl⟩
    | expression _ stmt inner =>
      obtain ⟨t, more, rfl, begins⟩ := expressionStatement_first taken stmt inner
      have notEnd : t.kind ≠ .semicolon := fun isEnd => by simp [isEnd, beginsExpression] at begins
      have notWord : t.kind ≠ .wordVar := fun isWord => by simp [isWord, beginsExpression] at begins
      rw [List.cons_append, initializer_expression t _ notEnd notWord]
      exact (reads_map ..).2 ⟨stmt, (expressionStatement_iff ..).2 ⟨t :: more, rfl, inner⟩, rfl⟩

theorem forCondition_iff (tokens : List Token) (condition : Option Expr) (rest : List Token) :
    (forCondition tokens).Reads condition rest ↔
      ∃ taken semicolon value, tokens = taken ++ semicolon :: rest ∧ semicolon.kind = .semicolon ∧
        DerivesOptional taken value ∧ value = condition := by
  unfold forCondition
  refine optional_iff .semicolon tokens rest condition id rfl _ _ ?_ ?_
  · exact reads_expect_map ..
  · exact terminated_map_iff ..

theorem forIncrement_iff (tokens : List Token) (increment : Option Expr) (rest : List Token) :
    (forIncrement tokens).Reads increment rest ↔
      ∃ taken closing value, tokens = taken ++ closing :: rest ∧ closing.kind = .rightParen ∧
        DerivesOptional taken value ∧ value = increment := by
  unfold forIncrement
  refine optional_iff .rightParen tokens rest increment id rfl _ _ ?_ ?_
  · exact reads_expect_map ..
  · rw [reads_closed]
    constructor
    · rintro ⟨expr, closing, reads, isClosing, same⟩
      obtain ⟨taken, rfl, derives⟩ := expression_derives _ _ _ reads
      exact ⟨taken, closing, expr, rfl, isClosing, derives, same⟩
    · rintro ⟨taken, closing, expr, rfl, isClosing, derives, same⟩
      exact ⟨expr, closing, expression_then taken expr derives _ (follows_closing _ closing rest isClosing),
        isClosing, same⟩

theorem forClauses_iff (tokens : List Token) (clauses : Clauses) (rest : List Token) :
    (forClauses tokens).Reads clauses rest ↔
      ∃ opening first second semicolon third closing,
        tokens = opening :: (first ++ (second ++ semicolon :: (third ++ closing :: rest))) ∧
        opening.kind = .leftParen ∧ semicolon.kind = .semicolon ∧ closing.kind = .rightParen ∧
        DerivesInitializer first clauses.initializer ∧ DerivesOptional second clauses.condition ∧
        DerivesOptional third clauses.increment := by
  unfold forClauses
  rw [reads_opened _ _ _ _ _ _ fun _ left => ∃ first second semicolon third closing,
    left = first ++ (second ++ semicolon :: (third ++ closing :: rest)) ∧ semicolon.kind = .semicolon ∧
    closing.kind = .rightParen ∧ DerivesInitializer first clauses.initializer ∧
    DerivesOptional second clauses.condition ∧ DerivesOptional third clauses.increment]
  · constructor
    · rintro ⟨opening, _, rfl, isOpening, first, second, semicolon, third, closing, rfl, more⟩
      exact ⟨opening, first, second, semicolon, third, closing, rfl, isOpening, more⟩
    · rintro ⟨opening, first, second, semicolon, third, closing, rfl, isOpening, more⟩
      exact ⟨opening, _, rfl, isOpening, first, second, semicolon, third, closing, rfl, more⟩
  · intro opening left fewer
    rw [reads_bind _ _ _ _ fun initializer left => ∃ second semicolon third closing,
      left = second ++ semicolon :: (third ++ closing :: rest) ∧ semicolon.kind = .semicolon ∧
      closing.kind = .rightParen ∧ initializer = clauses.initializer ∧
      DerivesOptional second clauses.condition ∧ DerivesOptional third clauses.increment]
    · simp only [reads_within, forInitializer_iff]
      constructor
      · rintro ⟨_, _, ⟨first, rfl, firstInner⟩, second, semicolon, third, closing, rfl, isEnd, isClosing, rfl, more⟩
        exact ⟨first, second, semicolon, third, closing, rfl, isEnd, isClosing, firstInner, more⟩
      · rintro ⟨first, second, semicolon, third, closing, rfl, isEnd, isClosing, firstInner, more⟩
        exact ⟨_, _, ⟨first, rfl, firstInner⟩, second, semicolon, third, closing, rfl, isEnd, isClosing, rfl, more⟩
    · intro initializer left fewer
      rw [reads_bind _ _ _ _ fun condition left => ∃ third closing, left = third ++ closing :: rest ∧
        closing.kind = .rightParen ∧ initializer = clauses.initializer ∧ condition = clauses.condition ∧
        DerivesOptional third clauses.increment]
      · simp only [reads_within, forCondition_iff]
        constructor
        · rintro ⟨_, _, ⟨second, semicolon, _, rfl, isEnd, secondInner, rfl⟩, third, closing, rfl, isClosing, same, rfl, more⟩
          exact ⟨second, semicolon, third, closing, rfl, isEnd, isClosing, same, secondInner, more⟩
        · rintro ⟨second, semicolon, third, closing, rfl, isEnd, isClosing, same, secondInner, more⟩
          exact ⟨_, _, ⟨second, semicolon, _, rfl, isEnd, secondInner, rfl⟩, third, closing, rfl, isClosing, same, rfl, more⟩
      · intro condition left fewer
        simp only [reads_within, reads_map, forIncrement_iff]
        constructor
        · rintro ⟨_, ⟨third, closing, _, rfl, isClosing, thirdInner, rfl⟩, rfl⟩
          exact ⟨third, closing, rfl, isClosing, rfl, rfl, thirdInner⟩
        · rintro ⟨third, closing, rfl, isClosing, rfl, rfl, thirdInner⟩
          exact ⟨_, ⟨third, closing, _, rfl, isClosing, thirdInner, rfl⟩, rfl⟩

end StoryScript.Grammar
