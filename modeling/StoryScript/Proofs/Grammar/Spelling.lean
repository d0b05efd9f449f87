import StoryScript.Proofs.Grammar.Texts
import StoryScript.Proofs.Token.LongestMatch
import StoryScript.Proofs.Token.Lines
import StoryScript.Proofs.Tree.Meaning

set_option autoImplicit false

namespace StoryScript.Grammar

-- A token as it is cut from a text: nothing longer could be cut where it stands, and its literal is what it spells.
structure Cut (t : Token) : Prop where
  longest : ∃ after, Lexicon.Longest t.kind t.lexeme.toList after
  literal : t.literal = Token.literalOf t.kind t.lexeme

theorem tokensOf_cut (text : String) (startLine : Nat) : ∀ t ∈ tokensOf text startLine, Cut t := by
  intro t member
  refine ⟨?_, tokensOf_literal text startLine t member⟩
  obtain ⟨before, piece, after, split, seen⟩ := (Piece.mem_collect Piece.token? _ _ t).1 member
  cases piece with
  | token kind lexeme =>
    cases seen
    have among : Piece.token kind lexeme ∈ pieces text.toList := by
      rw [split]
      exact List.mem_append_right _ List.mem_cons_self
    rw [Token.lexeme_spelled, String.toList_ofList]
    exact Lexicon.lexed_longest _ _ (Lexicon.pieces_lexed text.toList) kind lexeme among
  | _ => cases seen

theorem cut_isName (t : Token) (cut : Cut t) (isName : t.kind = .identifier) : IsName t.lexeme := by
  obtain ⟨after, longest⟩ := cut.longest
  refine ⟨isName ▸ longest.pattern, ?_⟩
  cases found : Piece.keyword? t.lexeme.toList with
  | none => rfl
  | some kind =>
    have notName : ∀ entry ∈ Piece.keywords, entry.2 ≠ .identifier := by decide
    have listed := (Lexicon.keyword_listed kind _).1 found
    rcases longest.preferred kind (.keyword kind _ listed) with same | other
    · exact absurd (same.trans isName) (notName _ listed)
    · exact absurd other (notName _ listed)

theorem ofRatio_unsigned (num den : Nat) : (Number.ofRatio false num den).unsigned = true := by
  unfold Number.ofRatio
  dsimp only
  split <;> rfl

theorem ofDecimal_unsigned (d : Decimal) : (Number.ofDecimal false d).unsigned = true := by
  unfold Number.ofDecimal
  split
  · exact ofRatio_unsigned 0 1
  split
  · rfl
  split
  · exact ofRatio_unsigned 0 1
  split
  · exact ofRatio_unsigned _ 1
  · exact ofRatio_unsigned _ _

theorem number_pattern (text : List Char) (pattern : Lexicon.Pattern .number text) :
    ∃ c more, text = c :: more ∧ c.isDigit = true := by
  have notSign : ∀ entry ∈ Lexicon.signs, entry.2 ≠ .number := by decide
  have notKeyword : ∀ entry ∈ Piece.keywords, entry.2 ≠ .number := by decide
  cases pattern with
  | sign _ _ listed => exact absurd rfl (notSign _ listed)
  | keyword _ _ listed => exact absurd rfl (notKeyword _ listed)
  | whole c digits first _ => exact ⟨c, digits, rfl, first⟩
  | decimal c d digits fraction first _ _ _ => exact ⟨c, _, rfl, first⟩

theorem cut_unsigned (t : Token) (cut : Cut t) (isNumber : t.kind = .number) (value : Number)
    (read : Number.ofText? t.lexeme = some value) : value.unsigned = true := by
  obtain ⟨after, longest⟩ := cut.longest
  obtain ⟨c, more, spelled, digit⟩ := number_pattern _ (isNumber ▸ longest.pattern)
  rw [Number.ofText?, spelled, Number.ofChars_digits c more digit] at read
  obtain ⟨d, _, rfl⟩ := Option.map_eq_some_iff.1 read
  exact ofDecimal_unsigned d

def Spelled (node : Node) : Prop := node.Spelled fun value => value.unsigned = true

theorem literal_spelled (t : Token) (cut : Cut t) : Spelled (.expr (.literal (t.literal.getD .nil))) := by
  cases found : t.literal with
  | none => trivial
  | some value =>
    cases value with
    | number value =>
      rw [cut.literal] at found
      unfold Token.literalOf at found
      split at found
      · rename_i isNumber
        obtain ⟨_, read, same⟩ := Option.map_eq_some_iff.1 found
        cases same
        exact cut_unsigned t cut isNumber value read
      all_goals cases found
    | _ => trivial

mutual

theorem derives_spelled (level : Level) (tokens : List Token) (expr : Expr) (derives : Derives level tokens expr)
    (cut : ∀ t ∈ tokens, Cut t) : ∀ node ∈ expr.nodes, Spelled node := by
  match derives with
  | .tighter _ _ _ _ inner => exact derives_spelled _ tokens expr inner cut
  | .assign name sign rest value isName _ inner =>
    obtain ⟨first, others⟩ := List.forall_mem_cons.1 cut
    refine List.forall_mem_cons.2 ⟨cut_isName name first isName, ?_⟩
    exact derives_spelled _ rest value inner (List.forall_mem_cons.1 others).2
  | .logical _ op before after sign left right _ leftInner rightInner =>
    obtain ⟨first, others⟩ := List.forall_mem_append.1 cut
    refine List.forall_mem_cons.2 ⟨trivial, List.forall_mem_append.2 ⟨?_, ?_⟩⟩
    · exact derives_spelled _ before left leftInner first
    · exact derives_spelled _ after right rightInner (List.forall_mem_cons.1 others).2
  | .binary _ op before after sign left right _ leftInner rightInner =>
    obtain ⟨first, others⟩ := List.forall_mem_append.1 cut
    refine List.forall_mem_cons.2 ⟨trivial, List.forall_mem_append.2 ⟨?_, ?_⟩⟩
    · exact derives_spelled _ before left leftInner first
    · exact derives_spelled _ after right rightInner (List.forall_mem_cons.1 others).2
  | .not sign rest operand _ inner =>
    exact List.forall_mem_cons.2 ⟨trivial, derives_spelled _ rest operand inner (List.forall_mem_cons.1 cut).2⟩
  | .negate sign rest operand _ inner =>
    exact List.forall_mem_cons.2 ⟨trivial, derives_spelled _ rest operand inner (List.forall_mem_cons.1 cut).2⟩
  | .call before within opening closing callee args _ _ calleeInner argsInner =>
    obtain ⟨first, others⟩ := List.forall_mem_append.1 cut
    obtain ⟨second, _⟩ := List.forall_mem_append.1 (List.forall_mem_cons.1 others).2
    refine List.forall_mem_cons.2 ⟨trivial, List.forall_mem_append.2 ⟨?_, ?_⟩⟩
    · exact derives_spelled _ before callee calleeInner first
    · exact arguments_spelled within args argsInner second
  | .literal t _ => exact List.forall_mem_singleton.2 (literal_spelled t (List.forall_mem_singleton.1 cut))
  | .nil t _ => exact List.forall_mem_singleton.2 trivial
  | .name t isName => exact List.forall_mem_singleton.2 (cut_isName t (List.forall_mem_singleton.1 cut) isName)
  | .grouping opening closing within inner _ _ derives =>
    obtain ⟨first, _⟩ := List.forall_mem_append.1 (List.forall_mem_cons.1 cut).2
    exact List.forall_mem_cons.2 ⟨trivial, derives_spelled _ within inner derives first⟩

theorem arguments_spelled (tokens : List Token) (args : List Expr) (derives : DerivesArguments tokens args)
    (cut : ∀ t ∈ tokens, Cut t) : ∀ node ∈ Expr.nodesAll args, Spelled node := by
  match derives with
  | .none => simp [Expr.nodesAll]
  | .last _ arg inner => simpa [Expr.nodesAll] using derives_spelled _ tokens arg inner cut
  | .more before after comma arg next rest _ inner others =>
    obtain ⟨first, second⟩ := List.forall_mem_append.1 cut
    refine List.forall_mem_append.2 ⟨?_, ?_⟩
    · exact derives_spelled _ before arg inner first
    · exact arguments_spelled after (next :: rest) others (List.forall_mem_cons.1 second).2

end

theorem optional_spelled (tokens : List Token) (value : Option Expr) (derives : DerivesOptional tokens value)
    (cut : ∀ t ∈ tokens, Cut t) : ∀ node ∈ Expr.nodesOption value, Spelled node := by
  cases derives with
  | absent => simp [Expr.nodesOption]
  | present _ expr inner => exact derives_spelled _ tokens expr inner cut

theorem expressionStatement_spelled (tokens : List Token) (stmt : Stmt) (derives : DerivesExpressionStatement tokens stmt)
    (cut : ∀ t ∈ tokens, Cut t) : ∀ node ∈ stmt.nodes, Spelled node := by
  cases derives with
  | expression within semicolon expr _ inner =>
    obtain ⟨first, _⟩ := List.forall_mem_append.1 cut
    exact List.forall_mem_cons.2 ⟨trivial, derives_spelled _ within expr inner first⟩

theorem var_spelled (tokens : List Token) (stmt : Stmt) (derives : DerivesVar tokens stmt)
    (cut : ∀ t ∈ tokens, Cut t) : ∀ node ∈ stmt.nodes, Spelled node := by
  cases derives with
  | bare word name semicolon _ isName _ =>
    exact List.forall_mem_singleton.2 (cut_isName name (cut name (by simp)) isName)
  | initialised word name sign semicolon within value _ isName _ _ inner =>
    refine List.forall_mem_cons.2 ⟨cut_isName name (cut name (by simp)) isName, ?_⟩
    exact derives_spelled _ within value inner fun t member => cut t (by simp [member])

theorem parameters_spelled (tokens : List Token) (params : List Ident) (derives : DerivesParameters tokens params)
    (cut : ∀ t ∈ tokens, Cut t) : ∀ param ∈ params, IsName param.name := by
  induction derives with
  | none => simp
  | last name isName => exact List.forall_mem_singleton.2 (cut_isName name (cut name (by simp)) isName)
  | more name comma within next params isName _ _ ih =>
    refine List.forall_mem_cons.2 ⟨cut_isName name (cut name (by simp)) isName, ?_⟩
    exact ih fun t member => cut t (by simp [member])

theorem initializer_spelled (tokens : List Token) (initializer : Option Stmt)
    (derives : DerivesInitializer tokens initializer) (cut : ∀ t ∈ tokens, Cut t) :
    ∀ node ∈ Stmt.nodesAll initializer.toList, Spelled node := by
  cases derives with
  | absent semicolon _ => simp [Stmt.nodesAll]
  | var _ stmt inner => simpa [Stmt.nodesAll] using var_spelled tokens stmt inner cut
  | expression _ stmt inner => simpa [Stmt.nodesAll] using expressionStatement_spelled tokens stmt inner cut

theorem nodesAll_append (stmts more : List Stmt) :
    Stmt.nodesAll (stmts ++ more) = Stmt.nodesAll stmts ++ Stmt.nodesAll more := by
  induction stmts with
  | nil => rfl
  | cons stmt rest ih => rw [List.cons_append, Stmt.nodesAll, ih, Stmt.nodesAll, List.append_assoc]

theorem forLoop_spelled (initializer : Option Stmt) (condition increment : Option Expr) (body : Stmt)
    (first : ∀ node ∈ Stmt.nodesAll initializer.toList, Spelled node)
    (second : ∀ node ∈ Expr.nodesOption condition, Spelled node)
    (third : ∀ node ∈ Expr.nodesOption increment, Spelled node) (inner : ∀ node ∈ body.nodes, Spelled node) :
    ∀ node ∈ (Stmt.block (initializer.toList ++
      [.loop (condition.getD (.literal (.bool true))) (loopRound body increment)])).nodes, Spelled node := by
  have test : ∀ node ∈ (condition.getD (.literal (.bool true))).nodes, Spelled node := by
    cases condition with
    | none => exact List.forall_mem_singleton.2 trivial
    | some condition => exact second
  have round : ∀ node ∈ (loopRound body increment).nodes, Spelled node := by
    cases increment with
    | none => exact inner
    | some increment =>
      have last : ∀ node ∈ (Stmt.expression increment).nodes, Spelled node := List.forall_mem_cons.2 ⟨trivial, third⟩
      refine List.forall_mem_cons.2 ⟨trivial, List.forall_mem_append.2 ⟨inner, ?_⟩⟩
      simpa [Stmt.nodesAll] using last
  refine List.forall_mem_cons.2 ⟨trivial, ?_⟩
  rw [nodesAll_append]
  refine List.forall_mem_append.2 ⟨first, ?_⟩
  have loop : ∀ node ∈ (Stmt.loop (condition.getD (.literal (.bool true))) (loopRound body increment)).nodes, Spelled node :=
    List.forall_mem_cons.2 ⟨trivial, List.forall_mem_append.2 ⟨test, round⟩⟩
  simpa [Stmt.nodesAll] using loop

mutual

theorem statement_spelled (dangles : Bool) (tokens : List Token) (stmt : Stmt)
    (derives : DerivesStatement dangles tokens stmt) (cut : ∀ t ∈ tokens, Cut t) : ∀ node ∈ stmt.nodes, Spelled node := by
  match derives with
  | .expression _ _ inner => exact expressionStatement_spelled tokens stmt inner cut
  | .print word semicolon within expr _ _ inner =>
    obtain ⟨first, _⟩ := List.forall_mem_append.1 (List.forall_mem_cons.1 cut).2
    exact List.forall_mem_cons.2 ⟨trivial, derives_spelled _ within expr inner first⟩
  | .ret word semicolon within value _ _ inner =>
    obtain ⟨first, _⟩ := List.forall_mem_append.1 (List.forall_mem_cons.1 cut).2
    exact List.forall_mem_cons.2 ⟨trivial, optional_spelled within value inner first⟩
  | .block opening closing within body _ _ inner =>
    obtain ⟨first, _⟩ := List.forall_mem_append.1 (List.forall_mem_cons.1 cut).2
    exact List.forall_mem_cons.2 ⟨trivial, declarations_spelled within body inner first⟩
  | .ifThen inside word opening closing within thenTokens condition thenBranch _ _ _ conditionInner thenInner =>
    refine List.forall_mem_cons.2 ⟨trivial, List.forall_mem_append.2 ⟨?_, ?_⟩⟩
    · exact derives_spelled _ within condition conditionInner fun t member => cut t (by simp [member])
    · exact statement_spelled inside thenTokens thenBranch thenInner fun t member => cut t (by simp [member])
  | .ifElse _ word opening closing other within thenTokens elseTokens condition thenBranch elseBranch _ _ _ _
      conditionInner thenInner elseInner =>
    refine List.forall_mem_cons.2 ⟨trivial, List.forall_mem_append.2 ⟨List.forall_mem_append.2 ⟨?_, ?_⟩, ?_⟩⟩
    · exact derives_spelled _ within condition conditionInner fun t member => cut t (by simp [member])
    · exact statement_spelled false thenTokens thenBranch thenInner fun t member => cut t (by simp [member])
    · exact statement_spelled dangles elseTokens elseBranch elseInner fun t member => cut t (by simp [member])
  | .loop _ word opening closing within bodyTokens condition body _ _ _ conditionInner bodyInner =>
    refine List.forall_mem_cons.2 ⟨trivial, List.forall_mem_append.2 ⟨?_, ?_⟩⟩
    · exact derives_spelled _ within condition conditionInner fun t member => cut t (by simp [member])
    · exact statement_spelled dangles bodyTokens body bodyInner fun t member => cut t (by simp [member])
  | .forLoop _ word opening semicolon closing first second third bodyTokens initializer condition increment body _ _ _ _
      firstInner secondInner thirdInner bodyInner =>
    refine forLoop_spelled initializer condition increment body ?_ ?_ ?_ ?_
    · exact initializer_spelled first initializer firstInner fun t member => cut t (by simp [member])
    · exact optional_spelled second condition secondInner fun t member => cut t (by simp [member])
    · exact optional_spelled third increment thirdInner fun t member => cut t (by simp [member])
    · exact statement_spelled dangles bodyTokens body bodyInner fun t member => cut t (by simp [member])

theorem declaration_spelled (tokens : List Token) (stmt : Stmt) (derives : DerivesDeclaration tokens stmt)
    (cut : ∀ t ∈ tokens, Cut t) : ∀ node ∈ stmt.nodes, Spelled node := by
  match derives with
  | .var _ _ inner => exact var_spelled tokens stmt inner cut
  | .function word name opening closing brace ending paramTokens bodyTokens params body _ isName _ _ _ _ paramsInner
      bodyInner =>
    refine List.forall_mem_cons.2 ⟨⟨cut_isName name (cut name (by simp)) isName, ?_⟩, ?_⟩
    · exact parameters_spelled paramTokens params paramsInner fun t member => cut t (by simp [member])
    · exact declarations_spelled bodyTokens body bodyInner fun t member => cut t (by simp [member])
  | .statement dangles _ _ inner => exact statement_spelled dangles tokens stmt inner cut

theorem declarations_spelled (tokens : List Token) (body : List Stmt) (derives : DerivesDeclarations tokens body)
    (cut : ∀ t ∈ tokens, Cut t) : ∀ node ∈ Stmt.nodesAll body, Spelled node := by
  match derives with
  | .nil => simp [Stmt.nodesAll]
  | .cons before after stmt rest inner more =>
    obtain ⟨first, second⟩ := List.forall_mem_append.1 cut
    refine List.forall_mem_append.2 ⟨?_, ?_⟩
    · exact declaration_spelled before stmt inner first
    · exact declarations_spelled after rest more second

end

theorem parsed_spelled (text : String) (startLine : Nat) (clean : (parse text startLine).diagnostics = []) :
    ∀ stmt ∈ (parse text startLine).program, ∀ node ∈ stmt.nodes, Spelled node := by
  obtain ⟨_, derives⟩ := (parse_iff text startLine _).1 ⟨clean, rfl⟩
  have each := declarations_spelled _ _ derives (tokensOf_cut text startLine)
  intro stmt among
  obtain ⟨before, after, split⟩ := List.append_of_mem among
  rw [split, nodesAll_append] at each
  exact (List.forall_mem_append.1 (List.forall_mem_append.1 each).2).1

-- Statements of texts without errors that are written alike are the same statements, but for the lines they stand on.
-- A number that is too large to be finite is excepted: what is written for it is a name, too.
theorem rendering_is_unambiguous (first second : String) (startLine startLineToo : Nat) (stmt other : Stmt)
    (clean : (parse first startLine).diagnostics = []) (cleanToo : (parse second startLineToo).diagnostics = [])
    (among : stmt ∈ (parse first startLine).program) (amongToo : other ∈ (parse second startLineToo).program)
    (finite : ∀ node ∈ stmt.nodes, node.isFinite = true) (finiteToo : ∀ node ∈ other.nodes, node.isFinite = true)
    (same : stmt.render = other.render) : stmt.renumbered (fun _ => 0) = other.renumbered fun _ => 0 := by
  have spelled := parsed_spelled first startLine clean stmt among
  have spelledToo := parsed_spelled second startLineToo cleanToo other amongToo
  refine render_unique stmt other ?_ ?_ same
  · exact fun node member => node.legible_of_finite (spelled node member) (finite node member)
  · exact fun node member => node.legible_of_finite (spelledToo node member) (finiteToo node member)

example : (Expr.literal (.number (.infinite false))).render = (Expr.reference ⟨"inf", 1⟩).render := by decide

-- One function, written over three lines and in one.
def spreadFunction : String := "fun f(a, b) \x7b\n  if (a < 1) return -a; else print \"x) (\";\n\x7d"

def packedFunction : String := "fun f(a,b)\x7bif(a<1.0)return -a;else print \"x) (\";\x7d"

theorem same_rendering_on_other_lines :
    ∃ stmt ∈ (parse spreadFunction 1).program, ∃ other ∈ (parse packedFunction 7).program,
      stmt.render = other.render ∧ stmt.nodes.map Node.label ≠ other.nodes.map Node.label ∧
        stmt.renumbered (fun _ => 0) = other.renumbered fun _ => 0 := by
  have written : ∃ stmt ∈ (parse spreadFunction 1).program, ∃ other ∈ (parse packedFunction 7).program,
      stmt.render = other.render ∧ stmt.nodes.map Node.label ≠ other.nodes.map Node.label ∧
        (∀ node ∈ stmt.nodes, node.isFinite = true) ∧ ∀ node ∈ other.nodes, node.isFinite = true := by
    decide +kernel
  obtain ⟨stmt, among, other, amongToo, same, elsewhere, finite, finiteToo⟩ := written
  exact ⟨stmt, among, other, amongToo, same, elsewhere, rendering_is_unambiguous _ _ 1 7 stmt other
    (by decide +kernel) (by decide +kernel) among amongToo finite finiteToo same⟩

end StoryScript.Grammar
