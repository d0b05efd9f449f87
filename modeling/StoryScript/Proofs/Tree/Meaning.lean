import StoryScript.Proofs.Number.Readback
import StoryScript.Proofs.Tree.Renumbering
import StoryScript.Proofs.Tree.Rendering
import StoryScript.Tree.Nodes

set_option autoImplicit false

namespace StoryScript

-- What a form means, read without knowing which tree it was written for. Every line of what is read is zero.
def UnaryOp.ofSign? (sign : String) : Option UnaryOp := [.negate, .not].find? (·.sign == sign)

def BinaryOp.ofSign? (sign : String) : Option BinaryOp :=
  [.add, .subtract, .multiply, .divide, .greater, .greaterEqual, .less, .lessEqual, .equal, .notEqual].find?
    (·.sign == sign)

def LogicalOp.ofSign? (sign : String) : Option LogicalOp := [.and, .or].find? (·.sign == sign)

def Expr.ofWord? : String → Option Expr
  | "true" => some (.literal (.bool true))
  | "false" => some (.literal (.bool false))
  | "nil" => some (.literal .nil)
  | text =>
    if text.toList.head?.any Char.isDigit then (Number.ofText? text).map fun value => .literal (.number value)
    else some (.reference ⟨text, 0⟩)

def Expr.ofParts? : String → List Expr → Option Expr
  | "group", [inner] => some (.grouping inner)
  | "=", [.reference ident, value] => some (.assign ident value)
  | "call", callee :: args => some (.call callee args 0)
  | sign, [operand] => (UnaryOp.ofSign? sign).map fun op => .unary op operand 0
  | sign, [left, right] =>
    match LogicalOp.ofSign? sign with
    | some op => some (.logical left op right)
    | none => (BinaryOp.ofSign? sign).map fun op => .binary left op right 0
  | _, _ => none

mutual

def Form.expr? : Form → Option Expr
  | .word text => Expr.ofWord? text
  | .quoted text => some (.literal (.string text))
  | .list (.word head :: parts) => (Form.exprs? parts).bind (Expr.ofParts? head)
  | .list _ => none

def Form.exprs? : List Form → Option (List Expr)
  | [] => some []
  | form :: rest => form.expr?.bind fun expr => (Form.exprs? rest).map (expr :: ·)

end

def Form.ident? : Form → Option Ident
  | .word name => some ⟨name, 0⟩
  | _ => none

mutual

def Form.stmt? : Form → Option Stmt
  | .list [.word "expr", expr] => expr.expr?.map .expression
  | .list [.word "print", expr] => expr.expr?.map (.print · 0)
  | .list [.word "var", .word name] => some (.var ⟨name, 0⟩ none)
  | .list [.word "var", .word name, value] => value.expr?.map fun value => .var ⟨name, 0⟩ (some value)
  | .list (.word "block" :: body) => (Form.stmts? body).map .block
  | .list [.word "if", condition, thenBranch] =>
    condition.expr?.bind fun condition => thenBranch.stmt?.map (.ifThen condition)
  | .list [.word "if", condition, thenBranch, elseBranch] =>
    condition.expr?.bind fun condition => thenBranch.stmt?.bind fun thenBranch =>
      elseBranch.stmt?.map (.ifElse condition thenBranch)
  | .list [.word "while", condition, body] => condition.expr?.bind fun condition => body.stmt?.map (.loop condition)
  | .list (.word "fun" :: .word name :: .list params :: body) =>
    (params.mapM Form.ident?).bind fun params => (Form.stmts? body).map (.function ⟨name, 0⟩ params)
  | .list [.word "return"] => some (.ret none 0)
  | .list [.word "return", value] => value.expr?.map fun value => .ret (some value) 0
  | _ => none

def Form.stmts? : List Form → Option (List Stmt)
  | [] => some []
  | form :: rest => form.stmt?.bind fun stmt => (Form.stmts? rest).map (stmt :: ·)

end

def Number.unsigned : Number → Bool
  | .nan => false
  | .infinite negative => !negative
  | .finite negative .. => !negative

def Number.isFinite : Number → Bool
  | .finite .. => true
  | _ => false

structure IsName (name : String) : Prop where
  pattern : Lexicon.Pattern .identifier name.toList
  noKeyword : Piece.keyword? name.toList = none

def Node.Spelled (numbers : Number → Prop) : Node → Prop
  | .expr (.literal (.number value)) => numbers value
  | .expr (.reference ident) => IsName ident.name
  | .expr (.assign ident _) => IsName ident.name
  | .stmt (.var ident _) => IsName ident.name
  | .stmt (.function ident params _) => IsName ident.name ∧ ∀ param ∈ params, IsName param.name
  | _ => True

-- Nodes whose numbers can be written with digits alone.
def Node.Legible (node : Node) : Prop := node.Spelled fun value => value.unsigned = true ∧ value.isFinite = true

def Node.isFinite : Node → Bool
  | .expr (.literal (.number value)) => value.isFinite
  | _ => true

theorem Node.legible_of_finite (node : Node) (spelled : node.Spelled fun value => value.unsigned = true)
    (finite : node.isFinite = true) : node.Legible := by
  unfold Node.Legible
  unfold Node.Spelled at spelled ⊢
  split at spelled
  · exact ⟨spelled, finite⟩
  all_goals exact spelled

theorem name_letters (name : String) (isName : IsName name) :
    ∃ c word, name.toList = c :: word ∧ Piece.startsName c = true ∧ ∀ d ∈ word, Piece.continuesName d = true := by
  have notSign : ∀ entry ∈ Lexicon.signs, entry.2 ≠ .identifier := by decide
  have notKeyword : ∀ entry ∈ Piece.keywords, entry.2 ≠ .identifier := by decide
  have pattern := isName.pattern
  generalize name.toList = text at pattern ⊢
  cases pattern with
  | sign _ _ listed => exact absurd rfl (notSign _ listed)
  | keyword _ _ listed => exact absurd rfl (notKeyword _ listed)
  | name c word starts continues => exact ⟨c, word, rfl, starts, continues⟩

theorem wordChar_continues (c : Char) (continues : Piece.continuesName c = true) : wordChar c = true := by
  by_contra other
  simp only [wordChar, Bool.and_eq_true, bne_iff_ne, not_and_or, not_not] at other
  rcases other with ((rfl | rfl) | rfl) | rfl <;> cases continues

theorem name_plain (name : String) (isName : IsName name) : PlainWord name := by
  obtain ⟨c, word, spelled, starts, continues⟩ := name_letters name isName
  refine ⟨by simp [spelled], ?_⟩
  rw [spelled]
  refine List.forall_mem_cons.2 ⟨wordChar_continues c (Lexicon.continues_of_starts c starts), ?_⟩
  exact fun d member => wordChar_continues d (continues d member)

theorem name_means (name : String) (isName : IsName name) : Expr.ofWord? name = some (.reference ⟨name, 0⟩) := by
  obtain ⟨c, word, spelled, starts, _⟩ := name_letters name isName
  have noDigit := Lexicon.startsName_not_digit c starts
  have noWord : ∀ value : String, (Piece.keyword? value.toList).isSome = true → name ≠ value := by
    rintro value listed rfl
    rw [isName.noKeyword] at listed
    cases listed
  rw [Expr.ofWord?]
  · simp [spelled, noDigit]
  · exact noWord "true" rfl
  · exact noWord "false" rfl
  · exact noWord "nil" rfl

theorem unsigned_finite (value : Number) (unsigned : value.unsigned = true) (finite : value.isFinite = true) :
    ∃ units short small, value = .finite false units short small := by
  cases value with
  | nan => cases finite
  | infinite negative => cases finite
  | finite negative units short small =>
    cases negative with
    | true => cases unsigned
    | false => exact ⟨units, short, small, rfl⟩

theorem number_digits (units : Nat) (short : Number.Short units) (small : units < Number.limit) :
    (∃ c more, (Number.finite false units short small).text.toList = c :: more ∧ c.isDigit = true) ∧
      ∀ c ∈ (Number.finite false units short small).text.toList, wordChar c = true := by
  obtain ⟨whole, part, spelled, begun, digits, digitsToo, _⟩ := Number.chars_digits units short small
  have digit : ∀ c : Char, c.isDigit = true → wordChar c = true := by
    intro c isDigit
    refine wordChar_continues c ?_
    simp [Piece.continuesName, Char.isAlphanum, isDigit]
  obtain ⟨c, more, rfl⟩ := List.exists_cons_of_ne_nil begun
  rw [Number.text, String.toList_ofList, spelled, Decimal.written]
  split
  · exact ⟨⟨c, more, rfl, digits c List.mem_cons_self⟩, fun d member => digit d (digits d member)⟩
  · refine ⟨⟨c, _, rfl, digits c List.mem_cons_self⟩, ?_⟩
    intro d member
    rcases List.mem_append.1 member with before | after
    · exact digit d (digits d before)
    · rcases List.mem_cons.1 after with rfl | behind
      · rfl
      · exact digit d (digitsToo d behind)

theorem number_plain (units : Nat) (short : Number.Short units) (small : units < Number.limit) :
    PlainWord (Number.finite false units short small).text := by
  obtain ⟨⟨c, more, spelled, _⟩, plain⟩ := number_digits units short small
  exact ⟨by simp [spelled], plain⟩

theorem number_means (units : Nat) (short : Number.Short units) (small : units < Number.limit) :
    Expr.ofWord? (Number.finite false units short small).text =
      some (.literal (.number (.finite false units short small))) := by
  obtain ⟨⟨c, more, spelled, digit⟩, _⟩ := number_digits units short small
  have readBack := Number.text_reads_back units short small
  generalize (Number.finite false units short small).text = text at spelled readBack
  have noWord : ∀ value : String, value.toList.head?.any Char.isDigit = false → text ≠ value := by
    rintro value isLetter rfl
    simp [spelled, digit] at isLetter
  rw [Expr.ofWord?]
  · simp [spelled, digit, readBack]
  · exact noWord "true" rfl
  · exact noWord "false" rfl
  · exact noWord "nil" rfl

theorem UnaryOp.sign_plain (op : UnaryOp) : PlainWord op.sign := by cases op <;> decide

theorem BinaryOp.sign_plain (op : BinaryOp) : PlainWord op.sign := by cases op <;> decide

theorem LogicalOp.sign_plain (op : LogicalOp) : PlainWord op.sign := by cases op <;> decide

theorem Literal.form_plain (value : Literal) (legible : (Node.expr (.literal value)).Legible) : value.form.Plain := by
  cases value with
  | number value =>
    obtain ⟨units, short, small, rfl⟩ := unsigned_finite value legible.1 legible.2
    exact .word _ (number_plain units short small)
  | string value => exact .quoted value
  | bool value => cases value <;> exact .word _ (by decide)
  | nil => exact .word _ (by decide)

theorem Literal.form_means (value : Literal) (legible : (Node.expr (.literal value)).Legible) :
    value.form.expr? = some (.literal value) := by
  cases value with
  | number value =>
    obtain ⟨units, short, small, rfl⟩ := unsigned_finite value legible.1 legible.2
    rw [Literal.form, Form.expr?, number_means units short small]
  | string value => rw [Literal.form, Form.expr?]
  | bool value => cases value <;> rw [Literal.form, Form.expr?, Expr.ofWord?]
  | nil => rw [Literal.form, Form.expr?, Expr.ofWord?]

theorem headed_plain (head : String) (items : List Form) (isPlain : PlainWord head) (each : ∀ item ∈ items, item.Plain) :
    (Form.list (.word head :: items)).Plain :=
  .list _ (List.forall_mem_cons.2 ⟨.word head isPlain, each⟩)

mutual

theorem Expr.form_plain (expr : Expr) (legible : ∀ node ∈ expr.nodes, node.Legible) : expr.form.Plain := by
  cases expr with
  | literal value => exact value.form_plain (legible _ List.mem_cons_self)
  | grouping inner =>
    obtain ⟨_, inside⟩ := List.forall_mem_cons.1 legible
    exact headed_plain _ _ (by decide) (by simpa using Expr.form_plain inner inside)
  | unary op operand line =>
    obtain ⟨_, inside⟩ := List.forall_mem_cons.1 legible
    exact headed_plain _ _ op.sign_plain (by simpa using Expr.form_plain operand inside)
  | binary left op right line =>
    obtain ⟨_, inside⟩ := List.forall_mem_cons.1 legible
    obtain ⟨first, second⟩ := List.forall_mem_append.1 inside
    exact headed_plain _ _ op.sign_plain (by simpa using ⟨Expr.form_plain left first, Expr.form_plain right second⟩)
  | logical left op right =>
    obtain ⟨_, inside⟩ := List.forall_mem_cons.1 legible
    obtain ⟨first, second⟩ := List.forall_mem_append.1 inside
    exact headed_plain _ _ op.sign_plain (by simpa using ⟨Expr.form_plain left first, Expr.form_plain right second⟩)
  | reference ident => exact .word _ (name_plain _ (legible _ List.mem_cons_self))
  | assign ident value =>
    obtain ⟨isName, inside⟩ := List.forall_mem_cons.1 legible
    have name : (Form.word ident.name).Plain := .word _ (name_plain _ isName)
    exact headed_plain _ _ (by decide) (by simpa using ⟨name, Expr.form_plain value inside⟩)
  | call callee args line =>
    obtain ⟨_, inside⟩ := List.forall_mem_cons.1 legible
    obtain ⟨first, others⟩ := List.forall_mem_append.1 inside
    exact headed_plain _ _ (by decide)
      (List.forall_mem_cons.2 ⟨Expr.form_plain callee first, Expr.forms_plain args others⟩)

theorem Expr.forms_plain (exprs : List Expr) (legible : ∀ node ∈ Expr.nodesAll exprs, node.Legible) :
    ∀ form ∈ Expr.forms exprs, form.Plain := by
  cases exprs with
  | nil => simp [Expr.forms]
  | cons expr rest =>
    obtain ⟨first, others⟩ := List.forall_mem_append.1 legible
    exact List.forall_mem_cons.2 ⟨Expr.form_plain expr first, Expr.forms_plain rest others⟩

end

theorem UnaryOp.ofParts_sign (op : UnaryOp) (operand : Expr) :
    Expr.ofParts? op.sign [operand] = some (.unary op operand 0) := by
  cases op <;> rfl

theorem BinaryOp.ofParts_sign (op : BinaryOp) (left right : Expr) :
    Expr.ofParts? op.sign [left, right] = some (.binary left op right 0) := by
  cases op <;> rfl

theorem LogicalOp.ofParts_sign (op : LogicalOp) (left right : Expr) :
    Expr.ofParts? op.sign [left, right] = some (.logical left op right) := by
  cases op <;> rfl

mutual

theorem Expr.form_means (expr : Expr) (legible : ∀ node ∈ expr.nodes, node.Legible) :
    expr.form.expr? = some (expr.renumbered fun _ => 0) := by
  cases expr with
  | literal value => exact value.form_means (legible _ List.mem_cons_self)
  | grouping inner =>
    obtain ⟨_, inside⟩ := List.forall_mem_cons.1 legible
    simp [Expr.form, Form.expr?, Form.exprs?, Expr.form_means inner inside, Expr.ofParts?, Expr.renumbered]
  | unary op operand line =>
    obtain ⟨_, inside⟩ := List.forall_mem_cons.1 legible
    simp [Expr.form, Form.expr?, Form.exprs?, Expr.form_means operand inside, UnaryOp.ofParts_sign, Expr.renumbered]
  | binary left op right line =>
    obtain ⟨_, inside⟩ := List.forall_mem_cons.1 legible
    obtain ⟨first, second⟩ := List.forall_mem_append.1 inside
    simp [Expr.form, Form.expr?, Form.exprs?, Expr.form_means left first, Expr.form_means right second,
      BinaryOp.ofParts_sign, Expr.renumbered]
  | logical left op right =>
    obtain ⟨_, inside⟩ := List.forall_mem_cons.1 legible
    obtain ⟨first, second⟩ := List.forall_mem_append.1 inside
    simp [Expr.form, Form.expr?, Form.exprs?, Expr.form_means left first, Expr.form_means right second,
      LogicalOp.ofParts_sign, Expr.renumbered]
  | reference ident =>
    rw [Expr.form, Form.expr?, name_means _ (legible _ List.mem_cons_self)]
    rfl
  | assign ident value =>
    obtain ⟨isName, inside⟩ := List.forall_mem_cons.1 legible
    simp [Expr.form, Form.expr?, Form.exprs?, name_means _ isName, Expr.form_means value inside, Expr.ofParts?,
      Expr.renumbered, Ident.renumbered]
  | call callee args line =>
    obtain ⟨_, inside⟩ := List.forall_mem_cons.1 legible
    obtain ⟨first, others⟩ := List.forall_mem_append.1 inside
    simp [Expr.form, Form.expr?, Form.exprs?, Expr.form_means callee first, Expr.forms_mean args others,
      Expr.ofParts?, Expr.renumbered]

theorem Expr.forms_mean (exprs : List Expr) (legible : ∀ node ∈ Expr.nodesAll exprs, node.Legible) :
    Form.exprs? (Expr.forms exprs) = some (Expr.renumberedAll (fun _ => 0) exprs) := by
  cases exprs with
  | nil => rw [Expr.forms, Form.exprs?, Expr.renumberedAll]
  | cons expr rest =>
    obtain ⟨first, others⟩ := List.forall_mem_append.1 legible
    simp [Expr.forms, Form.exprs?, Expr.form_means expr first, Expr.forms_mean rest others, Expr.renumberedAll]

end

theorem Expr.formOption_plain (expr : Option Expr) (legible : ∀ node ∈ Expr.nodesOption expr, node.Legible) :
    ∀ form ∈ Expr.formOption expr, form.Plain := by
  cases expr with
  | none => simp [Expr.formOption]
  | some expr => simpa [Expr.formOption] using expr.form_plain legible

theorem params_plain (params : List Ident) (each : ∀ param ∈ params, IsName param.name) :
    (Form.list (params.map fun param => .word param.name)).Plain := by
  refine .list _ ?_
  intro form member
  obtain ⟨param, among, rfl⟩ := List.mem_map.1 member
  exact .word _ (name_plain _ (each param among))

mutual

theorem Stmt.form_plain (stmt : Stmt) (legible : ∀ node ∈ stmt.nodes, node.Legible) : stmt.form.Plain := by
  cases stmt with
  | expression expr =>
    obtain ⟨_, inside⟩ := List.forall_mem_cons.1 legible
    exact headed_plain _ _ (by decide) (by simpa using expr.form_plain inside)
  | print expr line =>
    obtain ⟨_, inside⟩ := List.forall_mem_cons.1 legible
    exact headed_plain _ _ (by decide) (by simpa using expr.form_plain inside)
  | var ident initializer =>
    obtain ⟨isName, inside⟩ := List.forall_mem_cons.1 legible
    exact headed_plain _ _ (by decide)
      (List.forall_mem_cons.2 ⟨.word _ (name_plain _ isName), Expr.formOption_plain initializer inside⟩)
  | block body =>
    obtain ⟨_, inside⟩ := List.forall_mem_cons.1 legible
    exact headed_plain _ _ (by decide) (Stmt.forms_plain body inside)
  | ifThen condition thenBranch =>
    obtain ⟨_, inside⟩ := List.forall_mem_cons.1 legible
    obtain ⟨first, second⟩ := List.forall_mem_append.1 inside
    exact headed_plain _ _ (by decide) (by simpa using ⟨condition.form_plain first, Stmt.form_plain thenBranch second⟩)
  | ifElse condition thenBranch elseBranch =>
    obtain ⟨_, inside⟩ := List.forall_mem_cons.1 legible
    obtain ⟨before, third⟩ := List.forall_mem_append.1 inside
    obtain ⟨first, second⟩ := List.forall_mem_append.1 before
    exact headed_plain _ _ (by decide)
      (by simpa using ⟨condition.form_plain first, Stmt.form_plain thenBranch second, Stmt.form_plain elseBranch third⟩)
  | loop condition body =>
    obtain ⟨_, inside⟩ := List.forall_mem_cons.1 legible
    obtain ⟨first, second⟩ := List.forall_mem_append.1 inside
    exact headed_plain _ _ (by decide) (by simpa using ⟨condition.form_plain first, Stmt.form_plain body second⟩)
  | function ident params body =>
    obtain ⟨⟨isName, areNames⟩, inside⟩ := List.forall_mem_cons.1 legible
    exact headed_plain _ _ (by decide) (List.forall_mem_cons.2 ⟨.word _ (name_plain _ isName),
      List.forall_mem_cons.2 ⟨params_plain params areNames, Stmt.forms_plain body inside⟩⟩)
  | ret value line =>
    obtain ⟨_, inside⟩ := List.forall_mem_cons.1 legible
    exact headed_plain _ _ (by decide) (Expr.formOption_plain value inside)

theorem Stmt.forms_plain (stmts : List Stmt) (legible : ∀ node ∈ Stmt.nodesAll stmts, node.Legible) :
    ∀ form ∈ Stmt.forms stmts, form.Plain := by
  cases stmts with
  | nil => simp [Stmt.forms]
  | cons stmt rest =>
    obtain ⟨first, others⟩ := List.forall_mem_append.1 legible
    exact List.forall_mem_cons.2 ⟨Stmt.form_plain stmt first, Stmt.forms_plain rest others⟩

end

theorem params_mean (params : List Ident) :
    (params.map fun param => Form.word param.name).mapM Form.ident? = some (params.map (Ident.renumbered fun _ => 0)) := by
  induction params with
  | nil => rfl
  | cons param params ih => simp [ih, Form.ident?, Ident.renumbered]

mutual

theorem Stmt.form_means (stmt : Stmt) (legible : ∀ node ∈ stmt.nodes, node.Legible) :
    stmt.form.stmt? = some (stmt.renumbered fun _ => 0) := by
  cases stmt with
  | expression expr =>
    obtain ⟨_, inside⟩ := List.forall_mem_cons.1 legible
    simp [Stmt.form, Form.stmt?, expr.form_means inside, Stmt.renumbered]
  | print expr line =>
    obtain ⟨_, inside⟩ := List.forall_mem_cons.1 legible
    simp [Stmt.form, Form.stmt?, expr.form_means inside, Stmt.renumbered]
  | var ident initializer =>
    obtain ⟨_, inside⟩ := List.forall_mem_cons.1 legible
    cases initializer with
    | none => simp [Stmt.form, Form.stmt?, Expr.formOption, Stmt.renumbered, Ident.renumbered]
    | some value =>
      simp [Stmt.form, Form.stmt?, Expr.formOption, value.form_means inside, Stmt.renumbered, Ident.renumbered]
  | block body =>
    obtain ⟨_, inside⟩ := List.forall_mem_cons.1 legible
    simp [Stmt.form, Form.stmt?, Stmt.forms_mean body inside, Stmt.renumbered]
  | ifThen condition thenBranch =>
    obtain ⟨_, inside⟩ := List.forall_mem_cons.1 legible
    obtain ⟨first, second⟩ := List.forall_mem_append.1 inside
    simp [Stmt.form, Form.stmt?, condition.form_means first, Stmt.form_means thenBranch second, Stmt.renumbered]
  | ifElse condition thenBranch elseBranch =>
    obtain ⟨_, inside⟩ := List.forall_mem_cons.1 legible
    obtain ⟨before, third⟩ := List.forall_mem_append.1 inside
    obtain ⟨first, second⟩ := List.forall_mem_append.1 before
    simp [Stmt.form, Form.stmt?, condition.form_means first, Stmt.form_means thenBranch second,
      Stmt.form_means elseBranch third, Stmt.renumbered]
  | loop condition body =>
    obtain ⟨_, inside⟩ := List.forall_mem_cons.1 legible
    obtain ⟨first, second⟩ := List.forall_mem_append.1 inside
    simp [Stmt.form, Form.stmt?, condition.form_means first, Stmt.form_means body second, Stmt.renumbered]
  | function ident params body =>
    obtain ⟨_, inside⟩ := List.forall_mem_cons.1 legible
    simp [Stmt.form, Form.stmt?, params_mean params, Stmt.forms_mean body inside, Stmt.renumbered, Ident.renumbered]
  | ret value line =>
    obtain ⟨_, inside⟩ := List.forall_mem_cons.1 legible
    cases value with
    | none => simp [Stmt.form, Form.stmt?, Expr.formOption, Stmt.renumbered]
    | some value => simp [Stmt.form, Form.stmt?, Expr.formOption, value.form_means inside, Stmt.renumbered]

theorem Stmt.forms_mean (stmts : List Stmt) (legible : ∀ node ∈ Stmt.nodesAll stmts, node.Legible) :
    Form.stmts? (Stmt.forms stmts) = some (Stmt.renumberedAll (fun _ => 0) stmts) := by
  cases stmts with
  | nil => rw [Stmt.forms, Form.stmts?, Stmt.renumberedAll]
  | cons stmt rest =>
    obtain ⟨first, others⟩ := List.forall_mem_append.1 legible
    simp [Stmt.forms, Form.stmts?, Stmt.form_means stmt first, Stmt.forms_mean rest others, Stmt.renumberedAll]

end

-- Legible trees that are written alike differ in nothing but their lines.
theorem render_unique (stmt other : Stmt) (legible : ∀ node ∈ stmt.nodes, node.Legible)
    (legibleToo : ∀ node ∈ other.nodes, node.Legible) (same : stmt.render = other.render) :
    stmt.renumbered (fun _ => 0) = other.renumbered fun _ => 0 := by
  have chars : stmt.form.chars ++ [] = other.form.chars ++ [] := by
    rw [← stmt.render_chars, ← other.render_chars, same]
  obtain ⟨forms, _⟩ := form_unique _ _ _ _ (stmt.form_plain legible) (other.form_plain legibleToo) .nothing .nothing chars
  have meanings := congrArg Form.stmt? forms
  rw [stmt.form_means legible, other.form_means legibleToo] at meanings
  exact Option.some.inj meanings

end StoryScript
