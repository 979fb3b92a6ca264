import Stagecraft.Proofs.Script.Phrases
import Stagecraft.Proofs.Script.Reading

/-!
Reading bodies: the grammar finds expressions and statements again from the tokens that they are written
with. Operators stand in parentheses, so that their ranks decide nothing.
-/

namespace Stagecraft.Script

open Text (Span)

namespace Grammar

/-! ### Operators -/

def Detached (rest : List Token) : Prop :=
  rest.head? ≠ some (.symbol .dot) ∧ rest.head? ≠ some (.symbol .opening)

def Closes (rest : List Token) : Prop := Detached rest ∧ rest.head?.bind binaryOp? = none

theorem closes_of_mem {token : Token} (rest : List Token)
    (member : token ∈ [.newline, .symbol .comma, .symbol .closing, .symbol .assign]) :
    Closes (token :: rest) := by
  have all : ∀ token ∈ [Token.newline, .symbol .comma, .symbol .closing, .symbol .assign],
      (token ≠ .symbol .dot ∧ token ≠ .symbol .opening) ∧ binaryOp? token = none := by decide
  obtain ⟨⟨point, parenthesis⟩, operator⟩ := all token member
  exact ⟨⟨fun same => point (Option.some.inj same), fun same => parenthesis (Option.some.inj same)⟩,
    operator⟩

theorem binaryOp?_token (op : BinaryOp) : binaryOp? op.token = some op := by
  cases op <;> rfl

theorem unaryOp?_token (op : UnaryOp) : unaryOp? op.token = some op := by
  cases op <;> rfl

section Ladder

variable {operand : Parser Expr} {before between after : List Token} {post : Expr → Prop}

theorem chain_stops {rank fuel : Nat} {left : Expr}
    (other : ∀ op, after.head?.bind binaryOp? = some op → op.rank ≠ rank) (holds : post left) :
    Reads (chain operand rank (fuel + 1) left) after after post := by
  refine .bind (peek_reads after) ?_
  rintro _ rfl
  have none : (after.head?.bind binaryOp?).filter (·.rank == rank) = none := by
    rw [Option.filter_eq_none_iff]
    intro op found
    rw [beq_iff_eq]
    exact other op found
  rw [none]
  exact .pure holds

theorem joined_passes {rank fuel : Nat} (reads : Reads operand before after post)
    (other : ∀ op, after.head?.bind binaryOp? = some op → op.rank ≠ rank) :
    Reads (joined operand (fuel + 1) rank) before after post :=
  reads.bind fun _ holds => chain_stops other holds

def ladder (fuel : Nat) (ranks : List Nat) (operand : Parser Expr) : Parser Expr :=
  ranks.foldl (fun operand rank => joined operand fuel rank) operand

theorem ladder_passes {fuel : Nat} {ranks : List Nat} (reads : Reads operand before after post)
    (other : ∀ op, after.head?.bind binaryOp? = some op → op.rank ∉ ranks) :
    Reads (ladder (fuel + 1) ranks operand) before after post := by
  induction ranks generalizing operand with
  | nil => exact reads
  | cons rank rest ih =>
    refine ih (joined_passes reads fun op found same => ?_) fun op found member => ?_
    · exact other op found (same ▸ List.mem_cons_self)
    · exact other op found (List.mem_cons_of_mem _ member)

/-- An operator of the rank takes the operand behind it, and the chain goes on. -/
theorem chain_takes {op : BinaryOp} {token : Token} (spelled : binaryOp? token = some op) {fuel : Nat}
    {left right : Expr} (second : Reads operand before between (fun found => found.bare = right.bare))
    (goes : ∀ found, found.bare = right.bare →
      Reads (chain operand op.rank fuel (.join op left found)) between after post) :
    Reads (chain operand op.rank (fuel + 1) left) (token :: before) after post := by
  refine .bind (peek_reads _) ?_
  rintro _ rfl
  rw [List.head?_cons, Option.bind_some, spelled, Option.filter_some, if_pos (beq_self_eq_true _)]
  exact .bind (advance_reads _ _) fun _ _ => second.bind goes

theorem join_bare {op : BinaryOp} {left right leftFound rightFound : Expr}
    (leftSame : leftFound.bare = left.bare) (rightSame : rightFound.bare = right.bare) (span : Span) :
    (Expr.join op leftFound rightFound).bare = (Expr.binary op left right span).bare := by
  rw [Expr.join, Expr.bare, Expr.bare, leftSame, rightSame]

theorem joined_joins {op : BinaryOp} {left right : Expr} {fuel : Nat}
    (first : Reads operand before (op.token :: between) (fun found => found.bare = left.bare))
    (second : Reads operand between after (fun found => found.bare = right.bare))
    (closed : after.head?.bind binaryOp? = none) (span : Span) :
    Reads (joined operand (fuel + 2) op.rank) before after
      (fun found => found.bare = (Expr.binary op left right span).bare) := by
  refine first.bind fun leftFound leftSame => ?_
  refine chain_takes (binaryOp?_token op) second fun rightFound rightSame => ?_
  refine chain_stops (fun other found => ?_) (join_bare leftSame rightSame span)
  rw [closed] at found
  cases found

/-- The rungs below and above the rank of an operator pass over it. -/
theorem ladder_joins {op : BinaryOp} {left right : Expr} {fuel : Nat}
    (first : Reads operand before (op.token :: between) (fun found => found.bare = left.bare))
    (second : Reads operand between after (fun found => found.bare = right.bare))
    (closed : after.head?.bind binaryOp? = none) (span : Span) :
    Reads (ladder (fuel + 2) [5, 4, 3, 2, 1, 0] operand) before after
      (fun found => found.bare = (Expr.binary op left right span).bare) := by
  obtain ⟨tighter, looser, ranks, apart⟩ : ∃ tighter looser,
      [5, 4, 3, 2, 1, 0] = tighter ++ op.rank :: looser ∧ op.rank ∉ tighter := by
    cases op
    all_goals first
      | exact ⟨[], _, rfl, by decide⟩
      | exact ⟨[5], _, rfl, by decide⟩
      | exact ⟨[5, 4], _, rfl, by decide⟩
      | exact ⟨[5, 4, 3], _, rfl, by decide⟩
      | exact ⟨[5, 4, 3, 2], _, rfl, by decide⟩
      | exact ⟨[5, 4, 3, 2, 1], _, rfl, by decide⟩
  have none (found : BinaryOp) (member : after.head?.bind binaryOp? = some found) : False := by
    rw [closed] at member
    cases member
  rw [ranks, ladder, List.foldl_append, List.foldl_cons]
  refine ladder_passes (joined_joins (ladder_passes first ?_) (ladder_passes second ?_) closed span) ?_
  · intro found member
    rw [List.head?_cons, Option.bind_some, binaryOp?_token] at member
    cases member
    exact apart
  · exact fun found member => (none found member).elim
  · exact fun found member => (none found member).elim

end Ladder

section Prefixes

variable {operand : Parser Expr} {rest after : List Token} {post : Expr → Prop}

theorem prefixed_passes {token : Token} {fuel : Nat} (plain : unaryOp? token = none)
    (reads : Reads operand (token :: rest) after post) :
    Reads (prefixed operand (fuel + 1)) (token :: rest) after post := by
  intro feed same
  obtain ⟨span, left, stop, rfl, -⟩ := Feed.tokens_cons same
  unfold prefixed
  dsimp only
  rw [plain]
  exact reads _ same

theorem prefixed_reads {op : UnaryOp} {token : Token} (spelled : unaryOp? token = some op) {fuel : Nat}
    {written : Expr}
    (reads : Reads (prefixed operand fuel) rest after (fun found => found.bare = written.bare))
    (span : Span) :
    Reads (prefixed operand (fuel + 1)) (token :: rest) after
      (fun found => found.bare = (Expr.unary op written span).bare) := by
  intro feed same
  obtain ⟨place, left, stop, rfl, behind⟩ := Feed.tokens_cons same
  obtain ⟨found, beyond, ran, remains, bared⟩ := reads ⟨left, place.stop⟩ behind
  unfold prefixed
  dsimp only
  rw [spelled]
  dsimp only
  rw [ran]
  refine ⟨_, beyond, rfl, remains, ?_⟩
  rw [Expr.bare, Expr.bare, bared]

end Prefixes

/-! ### Operands -/

def withPath (base : Expr) (path : List String) : Expr :=
  path.foldl (fun base name => .field base name nowhere) base

theorem fields_reads {path : List String} {fuel : Nat} (enough : path.length < fuel) {base : Expr}
    {rest : List Token} (apart : rest.head? ≠ some (.symbol .dot)) :
    Reads (fields fuel base) (pathTokens path ++ rest) rest
      (fun found => found.bare = withPath base.bare path) := by
  induction path generalizing fuel base with
  | nil =>
    cases fuel with
    | zero => cases enough
    | succ fuel => exact .skipped apart (.pure rfl)
  | cons name others ih =>
    cases fuel with
    | zero => cases enough
    | succ fuel =>
      refine .taken (.bind (expectIdent_reads name _ _) ?_)
      rintro ⟨_, span⟩ rfl
      exact ih (Nat.lt_of_succ_lt_succ enough)

theorem literal_of_bare {expr : Expr} {value : Value} {span : Span}
    (same : expr.bare = .literal value span) : ∃ place, expr = .literal value place := by
  cases expr with
  | literal found place =>
    cases same
    exact ⟨place, rfl⟩
  | _ => cases same

theorem bare_ofComponents (x y z : Expr) (span : Span) :
    (Expr.ofComponents x y z span).bare = Expr.ofComponents x.bare y.bare z.bare nowhere := by
  generalize plain : Expr.ofComponents x y z span = found
  generalize bared : Expr.ofComponents x.bare y.bare z.bare nowhere = other
  unfold Expr.ofComponents at plain bared
  split at plain
  · cases bared
    cases plain
    rfl
  · next apart =>
    split at bared
    · next first second third =>
      obtain ⟨_, rfl⟩ := literal_of_bare first
      obtain ⟨_, rfl⟩ := literal_of_bare second
      obtain ⟨_, rfl⟩ := literal_of_bare third
      exact (apart _ _ _ _ _ _ rfl rfl rfl).elim
    · cases plain
      cases bared
      rfl

section Parentheses

variable {expr : Parser Expr} {rest : List Token}

theorem parenthesized_reads {inside : List Token} {post : Expr → Prop} (start : Nat)
    (reads : Reads expr (inside ++ .symbol .closing :: rest) (.symbol .closing :: rest) post) :
    Reads (parenthesized expr start) (inside ++ .symbol .closing :: rest) rest post :=
  reads.bind fun _ holds => .skipped nofun (.bind (expect_reads _ _ rest) fun _ _ => .pure holds)

def ReadableAs (expr : Parser Expr) (written : Expr) (tokens : List Token) : Prop :=
  ∀ rest, Closes rest → Reads expr (tokens ++ rest) rest (fun found => found.bare = written.bare)

def Readable (expr : Parser Expr) (written : Expr) : Prop :=
  ∀ rest, Closes rest → Reads expr (written.tokens ++ rest) rest (fun found => found.bare = written.bare)

theorem vector_reads {x y z : Expr} {xs ys zs : List Token} (first : ReadableAs expr x xs)
    (second : ReadableAs expr y ys) (third : ReadableAs expr z zs) (start : Nat) (span : Span) :
    Reads (parenthesized expr start) (commas [xs, ys, zs] ++ .symbol .closing :: rest) rest
      (fun found => found.bare = (Expr.ofComponents x y z span).bare) := by
  simp only [commas, List.append_assoc, List.cons_append]
  refine (first _ (closes_of_mem _ (by decide))).bind fun a sameA => .taken ?_
  refine (second _ (closes_of_mem _ (by decide))).bind fun b sameB => ?_
  refine .bind (expect_reads _ _ _) fun _ _ => ?_
  refine (third _ (closes_of_mem _ (by decide))).bind fun c sameC => ?_
  refine .bind (expect_reads _ _ rest) fun _ _ => .bind (lastStop_reads rest) fun _ _ => .pure ?_
  rw [bare_ofComponents, bare_ofComponents, sameA, sameB, sameC]

theorem arguments_reads {parts : List (Expr × List Token)}
    (starts : ∀ part ∈ parts, ∃ first more, part.2 = first :: more ∧ first ≠ .symbol .closing)
    (readable : ∀ part ∈ parts, ReadableAs expr part.1 part.2) {fuel : Nat}
    (enough : parts.length ≤ fuel) :
    Reads (arguments expr fuel) (commas (parts.map Prod.snd) ++ .symbol .closing :: rest) rest
      (fun found => found.map Expr.bare = parts.map (fun part => part.1.bare)) := by
  cases parts with
  | nil => exact .taken (.pure rfl)
  | cons part others =>
    obtain ⟨first, more, same, other⟩ := starts part List.mem_cons_self
    obtain ⟨behind, head⟩ := commas_head same (others.map Prod.snd)
    have apart : Token.symbol .closing ≠ .symbol .comma := nofun
    have reads : ∀ member ∈ part :: others, ∀ next rest,
        next = .symbol .comma ∨ next = .symbol .closing →
        Reads expr (member.2 ++ next :: rest) (next :: rest)
          (fun found => found.bare = member.1.bare) := by
      intro member inside next rest closes
      refine readable member inside _ (closes_of_mem rest ?_)
      rcases closes with rfl | rfl
      all_goals decide
    refine .skipped ?_ ?_
    · rw [List.map_cons, head]
      exact fun clash => other (Option.some.inj clash)
    · exact (commaSeparated_reads apart (List.cons_ne_nil part others) reads enough rest).bind
        fun found same => .bind (expect_reads _ _ rest) fun _ _ => .pure same

theorem written_arguments_reads {args : List Expr} (proper : ∀ arg ∈ args, arg.Proper)
    (readable : ∀ arg ∈ args, Readable expr arg) {fuel : Nat} (enough : args.length ≤ fuel) :
    Reads (arguments expr fuel) (commas (args.map Expr.tokens) ++ .symbol .closing :: rest) rest
      (fun found => found.map Expr.bare = args.map Expr.bare) := by
  have starts : ∀ arg ∈ args, ∃ first more, arg.tokens = first :: more ∧ first ≠ .symbol .closing := by
    intro arg inside
    obtain ⟨first, more, same, heads⟩ := arg.tokens_cons (proper arg inside)
    refine ⟨first, more, same, ?_⟩
    rintro rfl
    cases heads
  have reads : Reads (arguments expr fuel)
      (commas ((args.map fun arg => (arg, arg.tokens)).map Prod.snd) ++ .symbol .closing :: rest) rest
      (fun found => found.map Expr.bare =
        (args.map fun arg => (arg, arg.tokens)).map (fun part => part.1.bare)) :=
    arguments_reads (List.forall_mem_map.mpr starts) (List.forall_mem_map.mpr readable)
      ((List.length_map _).trans_le enough)
  rw [List.map_map, List.map_map] at reads
  exact reads

end Parentheses

/-! ### Expressions -/

/-- With so much fuel, expressions are found again that have at most as many tokens, and so are the
operators with their operands that stand in parentheses. -/
structure Fluent (fuel : Nat) : Prop where
  plain : ∀ written : Expr, written.Proper → written.tokens.length ≤ fuel → Readable (expr fuel) written
  unary : ∀ op (written : Expr) span rest, written.Proper → written.tokens.length < fuel → Closes rest →
    Reads (expr fuel) (op.token :: written.tokens ++ rest) rest
      (fun found => found.bare = (Expr.unary op written span).bare)
  binary : ∀ op (left right : Expr) span rest, left.Proper → right.Proper →
    left.tokens.length + right.tokens.length < fuel → Closes rest →
    Reads (expr fuel) (left.tokens ++ op.token :: right.tokens ++ rest) rest
      (fun found => found.bare = (Expr.binary op left right span).bare)

def atom (fuel : Nat) : Parser Expr := do fields (fuel + 1) (← primary (expr fuel) fuel)

theorem expr_succ (fuel : Nat) :
    expr (fuel + 1) = ladder (fuel + 1) [5, 4, 3, 2, 1, 0] (prefixed (atom fuel) (fuel + 1)) := rfl

section Primary

variable {parser : Parser Expr} {fuel : Nat} {rest : List Token}

theorem primary_literal {token : Token} {value : Value} (literal : literal? token = some value)
    (span : Span) :
    Reads (primary parser fuel) (token :: rest) rest
      (fun found => found.bare = (Expr.literal value span).bare) := by
  intro feed same
  obtain ⟨place, left, stop, rfl, behind⟩ := Feed.tokens_cons same
  unfold primary
  dsimp only
  rw [literal]
  exact ⟨_, _, rfl, behind, rfl⟩

theorem primary_var {name : String} (apart : rest.head? ≠ some (.symbol .opening)) (span : Span) :
    Reads (primary parser fuel) (.ident name :: rest) rest
      (fun found => found.bare = (Expr.var name span).bare) := by
  intro feed same
  obtain ⟨place, left, stop, rfl, behind⟩ := Feed.tokens_cons same
  have read : Reads (do
      if ← eatSymbol .opening then
        let args ← arguments parser fuel
        return .call name args ⟨place.start, ← lastStop⟩
      else return .var name place : Parser Expr) rest rest
      (fun found => found.bare = (Expr.var name span).bare) :=
    .skipped apart (.pure rfl)
  exact read _ behind

theorem primary_call {name : String} {args : List Expr} {inside : List Token}
    (reads : Reads (arguments parser fuel) inside rest
      (fun found => found.map Expr.bare = args.map Expr.bare)) (span : Span) :
    Reads (primary parser fuel) (.ident name :: .symbol .opening :: inside) rest
      (fun found => found.bare = (Expr.call name args span).bare) := by
  intro feed same
  obtain ⟨place, left, stop, rfl, behind⟩ := Feed.tokens_cons same
  have read : Reads (do
      if ← eatSymbol .opening then
        let args ← arguments parser fuel
        return .call name args ⟨place.start, ← lastStop⟩
      else return .var name place : Parser Expr) (.symbol .opening :: inside) rest
      (fun found => found.bare = (Expr.call name args span).bare) := by
    refine .taken (reads.bind fun found sameArgs => .bind (lastStop_reads rest) fun _ _ => .pure ?_)
    rw [Expr.bare, Expr.bare, Expr.bareAll_eq, Expr.bareAll_eq, sameArgs]
  exact read _ behind

theorem primary_parenthesized {inside : List Token} {post : Expr → Prop}
    (reads : ∀ start, Reads (parenthesized parser start) inside rest post) :
    Reads (primary parser fuel) (.symbol .opening :: inside) rest post := by
  intro feed same
  obtain ⟨place, left, stop, rfl, behind⟩ := Feed.tokens_cons same
  exact reads place.start _ behind

end Primary

theorem enclosed_append (tokens rest : List Token) :
    enclosed tokens ++ rest = .symbol .opening :: (tokens ++ .symbol .closing :: rest) := by
  rw [enclosed, List.append_assoc, List.cons_append, List.singleton_append]

theorem length_enclosed (tokens : List Token) : (enclosed tokens).length = tokens.length + 2 := by
  rw [enclosed, List.length_append, List.length_cons]
  rfl

theorem operand_reads {fuel : Nat} {base : Expr} {path : List String} {before rest : List Token}
    (reads : Reads (primary (expr fuel) fuel) before (pathTokens path ++ rest)
      (fun found => found.bare = base.bare))
    (enough : path.length ≤ fuel) (apart : Detached rest) :
    Reads (atom fuel) before rest (fun found => found.bare = withPath base.bare path) := by
  refine reads.bind fun found same => ?_
  rw [← same]
  exact fields_reads (Nat.lt_succ_of_le enough) apart.1

theorem no_arguments {path : List String} {rest : List Token} (apart : Detached rest) :
    (pathTokens path ++ rest).head? ≠ some (.symbol .opening) := by
  cases path with
  | nil => exact apart.2
  | cons name others => exact nofun

/-- An operand is found again, with the fields behind it. -/
theorem atom_reads {fuel : Nat} (fluent : Fluent fuel) : (written : Expr) → written.Proper →
    ∀ (path : List String) (rest : List Token), written.tokens.length + path.length ≤ fuel + 1 →
    Detached rest →
    Reads (atom fuel) (written.tokens ++ (pathTokens path ++ rest)) rest
      (fun found => found.bare = withPath written.bare path)
  | .field base name span, proper => by
    intro path rest enough apart
    rw [Expr.tokens, List.length_append] at enough
    have behind := atom_reads fluent base proper.1 (name :: path) rest
      (by simp only [List.length_cons] at enough ⊢; omega) apart
    rw [Expr.tokens, List.append_assoc]
    exact behind
  | .literal value span, proper => by
    intro path rest enough apart
    have present := proper.1
    rw [Expr.tokens] at enough ⊢
    cases value with
    | number | text =>
      exact operand_reads (primary_literal rfl span) (by simp [literalTokens] at enough; omega) apart
    | boolean b =>
      cases b <;>
      exact operand_reads (primary_literal rfl span) (by simp [literalTokens] at enough; omega) apart
    | vector v =>
      have number (n : Float) (member : .number n ∈ literalTokens (.vector v)) :
          Readable (expr fuel) (.literal (.number n) nowhere) := by
        have numberProper : (Expr.literal (.number n) nowhere).Proper :=
          ⟨List.cons_ne_nil _ _, List.forall_mem_singleton.mpr (proper.2 _ member)⟩
        refine fluent.plain _ numberProper ?_
        simp only [literalTokens, length_enclosed, commas, List.length_append, List.length_cons,
          List.length_nil] at enough
        have short : (Expr.literal (.number n) nowhere).tokens.length = 1 := rfl
        omega
      rw [literalTokens, length_enclosed] at enough
      rw [literalTokens, enclosed_append]
      refine operand_reads (primary_parenthesized fun start => ?_) (by omega) apart
      exact vector_reads (number v.x (by simp [literalTokens, enclosed, commas]))
        (number v.y (by simp [literalTokens, enclosed, commas]))
        (number v.z (by simp [literalTokens, enclosed, commas])) start span
    | _ => exact absurd rfl present
  | .var name span, proper => by
    intro path rest enough apart
    rw [Expr.tokens] at enough ⊢
    rw [List.length_singleton] at enough
    exact operand_reads (primary_var (no_arguments apart) span) (by omega) apart
  | .call name args span, proper => by
    intro path rest enough apart
    rw [Expr.tokens, Expr.tokensOfAll_eq] at enough ⊢
    rw [List.length_cons, length_enclosed] at enough
    rw [List.cons_append, enclosed_append]
    have count := count_le_commas (args.map Expr.tokens)
    rw [List.length_map] at count
    have argsProper := Expr.allProper_iff.mp proper.2
    have readable : ∀ arg ∈ args, Readable (expr fuel) arg := by
      intro arg inside
      have short := length_le_commas (List.mem_map.mpr ⟨arg, inside, rfl⟩ :
        arg.tokens ∈ args.map Expr.tokens)
      exact fluent.plain arg (argsProper arg inside) (by omega)
    have fits : args.length ≤ fuel := by omega
    exact operand_reads (primary_call (written_arguments_reads argsProper readable fits) span) (by omega) apart
  | .unary op operand span, proper => by
    intro path rest enough apart
    rw [Expr.tokens] at enough ⊢
    rw [length_enclosed, List.length_cons] at enough
    rw [enclosed_append]
    refine operand_reads (primary_parenthesized fun start => parenthesized_reads start ?_)
      (by omega) apart
    exact fluent.unary op operand span _ proper (by omega) (closes_of_mem _ (by decide))
  | .binary op left right span, proper => by
    intro path rest enough apart
    rw [Expr.tokens] at enough ⊢
    rw [length_enclosed, List.length_append, List.length_cons] at enough
    rw [enclosed_append]
    refine operand_reads (primary_parenthesized fun start => parenthesized_reads start ?_)
      (by omega) apart
    exact fluent.binary op left right span _ proper.1 proper.2 (by omega) (closes_of_mem _ (by decide))
  | .vector x y z span, proper => by
    intro path rest enough apart
    obtain ⟨plain, first, second, third⟩ := proper
    rw [Expr.tokens] at enough ⊢
    rw [length_enclosed] at enough
    rw [enclosed_append, ← plain]
    simp only [commas, List.length_append, List.length_cons] at enough
    refine operand_reads (primary_parenthesized fun start => ?_) (by omega) apart
    exact vector_reads (fluent.plain x first (by omega)) (fluent.plain y second (by omega))
      (fluent.plain z third (by omega)) start span

theorem fluent (fuel : Nat) : Fluent fuel := by
  induction fuel with
  | zero =>
    refine ⟨fun written proper enough => ?_, nofun, nofun⟩
    obtain ⟨first, rest, same, -⟩ := written.tokens_cons proper
    rw [same] at enough
    cases enough
  | succ fuel ih =>
    have alone (written : Expr) (proper : written.Proper) (enough : written.tokens.length ≤ fuel + 1)
        (more : Nat) {rest : List Token} (apart : Detached rest) :
        Reads (prefixed (atom fuel) (more + 1)) (written.tokens ++ rest) rest
          (fun found => found.bare = written.bare) := by
      have read := atom_reads ih written proper [] rest enough apart
      obtain ⟨first, behind, same, heads⟩ := written.tokens_cons proper
      rw [pathTokens, List.flatMap_nil, List.nil_append, same] at read
      rw [same]
      exact prefixed_passes (unaryOp?_of_heads heads) read
    have none {rest : List Token} (closes : Closes rest) :
        ∀ op, rest.head?.bind binaryOp? = some op → op.rank ∉ [5, 4, 3, 2, 1, 0] := by
      intro op found
      rw [closes.2] at found
      cases found
    refine ⟨fun written proper enough rest closes => ?_, ?_, ?_⟩
    · rw [expr_succ]
      exact ladder_passes (alone written proper enough fuel closes.1) (none closes)
    · intro op written span rest proper enough closes
      obtain ⟨first, behind, same, -⟩ := written.tokens_cons proper
      rw [same, List.length_cons] at enough
      obtain ⟨more, rfl⟩ : ∃ more, fuel = more + 1 := ⟨fuel - 1, by omega⟩
      rw [expr_succ, List.cons_append]
      refine ladder_passes (prefixed_reads (unaryOp?_token op) (alone written proper ?_ more closes.1) span)
        (none closes)
      rw [same, List.length_cons]
      omega
    · intro op left right span rest leftProper rightProper enough closes
      obtain ⟨first, behind, same, -⟩ := left.tokens_cons leftProper
      rw [same, List.length_cons] at enough
      obtain ⟨more, rfl⟩ : ∃ more, fuel = more + 1 := ⟨fuel - 1, by omega⟩
      rw [expr_succ, List.append_assoc, List.cons_append]
      refine ladder_joins (alone left leftProper ?_ _ ?_) (alone right rightProper (by omega) _ closes.1)
        closes.2 span
      · rw [same, List.length_cons]
        omega
      · cases op
        all_goals exact ⟨nofun, nofun⟩

theorem expr_reads {written : Expr} (proper : written.Proper) {fuel : Nat}
    (enough : written.tokens.length ≤ fuel) {rest : List Token} (closes : Closes rest) :
    Reads (expr fuel) (written.tokens ++ rest) rest (fun found => found.bare = written.bare) :=
  (fluent fuel).plain written proper enough rest closes

/-! ### Places -/

theorem withPath_tokens (base : Expr) (path : List String) :
    (withPath base path).tokens = base.tokens ++ pathTokens path := by
  induction path generalizing base with
  | nil => exact (List.append_nil _).symm
  | cons name others ih =>
    have step := ih (.field base name nowhere)
    rw [Expr.tokens, List.append_assoc] at step
    exact step

theorem withPath_proper {base : Expr} (proper : base.Proper) {path : List String}
    (areNames : ∀ name ∈ path, IsName name) : (withPath base path).Proper := by
  induction path generalizing base with
  | nil => exact proper
  | cons name others ih =>
    obtain ⟨here, behind⟩ := List.forall_mem_cons.mp areNames
    exact ih ⟨proper, here⟩ behind

theorem withPath_asPlace {base : Expr} {root : String} {inner : List String} (path : List String)
    (place : base.asPlace? = some ⟨root, inner, nowhere⟩) :
    (withPath base path).asPlace? = some ⟨root, inner ++ path, nowhere⟩ := by
  induction path generalizing base inner with
  | nil => rw [List.append_nil, ← place, withPath, List.foldl_nil]
  | cons name others ih =>
    have below : (Expr.field base name nowhere).asPlace? = some ⟨root, inner ++ [name], nowhere⟩ := by
      rw [Expr.asPlace?, place]
      rfl
    have step := ih below
    rw [List.append_assoc] at step
    exact step

theorem asPlace?_bare : (expr : Expr) → expr.bare.asPlace? = expr.asPlace?.map Place.bare
  | .var _ _ => rfl
  | .field base name _ => by
    rw [Expr.bare, Expr.asPlace?, Expr.asPlace?, asPlace?_bare base, Option.map_map, Option.map_map]
    rfl
  | .literal _ _ | .unary _ _ _ | .binary _ _ _ _ | .call _ _ _ | .vector _ _ _ _ => rfl

theorem place_reads {place : Place} (proper : place.Proper) {fuel : Nat}
    (enough : place.tokens.length ≤ fuel) {rest : List Token} (closes : Closes rest) :
    Reads (expr fuel) (place.tokens ++ rest) rest
      (fun found => ∃ target, found.asPlace? = some target ∧ target.bare = place.bare) := by
  obtain ⟨root, path, span⟩ := place
  have written : (⟨root, path, span⟩ : Place).tokens = (withPath (.var root nowhere) path).tokens := by
    rw [withPath_tokens]
    rfl
  have rooted : (Expr.var root nowhere).Proper := proper.root
  rw [written] at enough ⊢
  refine (expr_reads (withPath_proper rooted proper.path) enough closes).mono fun found same => ?_
  have places := congrArg Expr.asPlace? same
  rw [asPlace?_bare, asPlace?_bare, withPath_asPlace path rfl] at places
  exact Option.map_eq_some_iff.mp places

/-! ### Simple statements -/

theorem atDeclaration_reads {type : TypeExpr} (declares : type.Declares) (name : String)
    (rest : List Token) :
    Reads atDeclaration (type.tokens ++ .ident name :: rest) (type.tokens ++ .ident name :: rest)
      (· = true) := by
  intro feed same
  obtain ⟨typeName, args, span⟩ := type
  cases args with
  | nil =>
    obtain ⟨_, left, stop, rfl, behind⟩ := Feed.tokens_cons same
    obtain ⟨_, more, rfl, -⟩ := lexemes_cons behind
    exact ⟨_, _, rfl, same, rfl⟩
  | cons arg others =>
    rcases declares with none | rfl
    · cases none
    · obtain ⟨_, left, stop, rfl, behind⟩ := Feed.tokens_cons same
      obtain ⟨_, more, rfl, -⟩ := lexemes_cons behind
      exact ⟨_, _, rfl, same, rfl⟩

def isIdent : Token → Bool
  | .ident _ => true
  | _ => false

theorem atDeclaration_skips {first second : Token} {rest : List Token}
    (other : isIdent first = false ∨ isIdent second = false ∧ second ≠ .symbol .less) :
    Reads atDeclaration (first :: second :: rest) (first :: second :: rest) (· = false) := by
  intro feed same
  obtain ⟨_, left, stop, rfl, behind⟩ := Feed.tokens_cons same
  obtain ⟨_, more, rfl, -⟩ := lexemes_cons behind
  refine ⟨false, _, ?_, same, rfl⟩
  unfold atDeclaration
  split
  · next shape =>
    cases shape
    rcases other with plain | ⟨plain, -⟩
    all_goals cases plain
  · next shape =>
    cases shape
    rcases other with plain | ⟨-, bracket⟩
    · cases plain
    · exact absurd rfl bracket
  · rfl

theorem atDeclaration_skips_expr : (written : Expr) → written.Proper →
    ∀ (next : Token) (rest : List Token), isIdent next = false → next ≠ .symbol .less →
    Reads atDeclaration (written.tokens ++ next :: rest) (written.tokens ++ next :: rest) (· = false)
  | .var _ _, _ => fun _ _ plain bracket => atDeclaration_skips (.inr ⟨plain, bracket⟩)
  | .call _ _ _, _ => fun _ _ _ _ => atDeclaration_skips (.inr ⟨rfl, by decide⟩)
  | .field base name _, proper => by
    intro next rest _ _
    rw [Expr.tokens, List.append_assoc]
    exact atDeclaration_skips_expr base proper.1 (.symbol .dot) (.ident name :: next :: rest) rfl
      (by decide)
  | .literal value _, proper => by
    intro next rest _ _
    have present := proper.1
    cases value with
    | number | text | vector => exact atDeclaration_skips (.inl rfl)
    | boolean b => cases b <;> exact atDeclaration_skips (.inl rfl)
    | _ => exact absurd rfl present
  | .unary op operand _, _ => fun _ _ _ _ => atDeclaration_skips (.inl rfl)
  | .binary op left right _, proper => by
    intro next rest _ _
    obtain ⟨first, more, same, -⟩ := left.tokens_cons proper.1
    rw [Expr.tokens, same]
    exact atDeclaration_skips (.inl rfl)
  | .vector x y z _, proper => by
    intro next rest _ _
    obtain ⟨first, more, same, -⟩ := x.tokens_cons proper.2.1
    rw [Expr.tokens, same]
    exact atDeclaration_skips (.inl rfl)

theorem declaration_reads {type : TypeExpr} {value : Expr} (proper : value.Proper) {name : String}
    {fuel : Nat} (enoughType : type.tokens.length ≤ fuel) (enough : value.tokens.length ≤ fuel)
    (span : Span) (rest : List Token) :
    Reads (declaration fuel)
      (type.tokens ++ .ident name :: .symbol .assign :: (value.tokens ++ .newline :: rest)) rest
      (fun found => found.bare = (Stmt.declare type name value span).bare) := by
  refine .bind (type_reads enoughType nofun) fun declared sameType => ?_
  refine .bind (expectIdent_reads name _ _) ?_
  rintro ⟨_, place⟩ rfl
  refine .bind (expect_reads _ _ _) fun _ _ => ?_
  refine (expr_reads proper enough (closes_of_mem rest (by decide))).bind fun found sameValue => ?_
  refine .bind (endLine_reads rest) fun _ _ => .pure ?_
  rw [Stmt.bare, Stmt.bare, sameType, sameValue]

theorem plainStmt_reads_expr {value : Expr} (proper : value.Proper) {fuel : Nat}
    (enough : value.tokens.length ≤ fuel) (rest : List Token) :
    Reads (plainStmt fuel) (value.tokens ++ .newline :: rest) rest
      (fun found => found.bare = (Stmt.expr value).bare) := by
  refine (expr_reads proper enough (closes_of_mem rest (by decide))).bind fun found same => ?_
  refine .bind (peek_reads _) ?_
  rintro _ rfl
  rw [if_neg nofun]
  refine .bind (endLine_reads rest) fun _ _ => .pure ?_
  rw [Stmt.bare, Stmt.bare, same]

theorem plainStmt_reads_assign {target : Place} (targetProper : target.Proper) {value : Expr}
    (proper : value.Proper) {fuel : Nat} (enoughTarget : target.tokens.length ≤ fuel)
    (enough : value.tokens.length ≤ fuel) (span : Span) (rest : List Token) :
    Reads (plainStmt fuel) (target.tokens ++ .symbol .assign :: (value.tokens ++ .newline :: rest)) rest
      (fun found => found.bare = (Stmt.assign target value span).bare) := by
  refine (place_reads targetProper enoughTarget (closes_of_mem _ (by decide))).bind ?_
  rintro found ⟨place, assignable, sameTarget⟩
  refine .bind (peek_reads _) ?_
  rintro _ rfl
  rw [List.head?_cons, if_pos rfl, assignable]
  refine .bind (advance_reads _ _) fun _ _ => ?_
  refine (expr_reads proper enough (closes_of_mem rest (by decide))).bind fun assigned sameValue => ?_
  refine .bind (endLine_reads rest) fun _ _ => .pure ?_
  rw [Stmt.bare, Stmt.bare, sameTarget, sameValue]

theorem emission_reads {event : String} {args : List Expr} (proper : ∀ arg ∈ args, arg.Proper)
    {fuel : Nat} (enough : (commas (args.map Expr.tokens)).length < fuel) (span : Span)
    (rest : List Token) :
    Reads (emission fuel)
      (.keyword .emit :: .ident event :: (enclosed (commas (args.map Expr.tokens)) ++ .newline :: rest))
      rest (fun found => found.bare = (Stmt.emit event args span).bare) := by
  have count := count_le_commas (args.map Expr.tokens)
  rw [List.length_map] at count
  have readable : ∀ arg ∈ args, Readable (expr fuel) arg := by
    intro arg inside rest closes
    have short := length_le_commas (List.mem_map.mpr ⟨arg, inside, rfl⟩ :
      arg.tokens ∈ args.map Expr.tokens)
    exact expr_reads (proper arg inside) (by omega) closes
  rw [enclosed_append]
  refine .bind (expect_reads _ _ _) fun start _ => .bind (expectIdent_reads event _ _) ?_
  rintro ⟨_, place⟩ rfl
  refine .bind (expect_reads _ _ _) fun _ _ => ?_
  refine (written_arguments_reads proper readable (by omega)).bind fun found same => ?_
  refine .bind (lastStop_reads _) fun _ _ => .bind (endLine_reads rest) fun _ _ => .pure ?_
  rw [Stmt.bare, Stmt.bare, Expr.bareAll_eq, Expr.bareAll_eq, same]

theorem condition_reads {value : Expr} (proper : value.Proper) {fuel : Nat}
    (enough : value.tokens.length ≤ fuel) (keyword : Keyword) (what : String) (rest : List Token) :
    Reads (condition keyword what fuel) (.keyword keyword :: (value.tokens ++ .newline :: rest)) rest
      (fun found => found.1.bare = value.bare) := by
  refine .bind (expect_reads _ _ _) fun start _ => ?_
  refine (expr_reads proper enough (closes_of_mem rest (by decide))).bind fun found same => ?_
  exact .bind (endLine_reads rest) fun _ _ => .pure same

/-! ### Blocks -/

def stmtTokens (hand : Hand) (stmt : Stmt) : List Token := Outline.tokensOfAll (stmt.outlines hand)

theorem tokensOfAll_append (left right : List Outline) :
    Outline.tokensOfAll (left ++ right) = Outline.tokensOfAll left ++ Outline.tokensOfAll right := by
  induction left with
  | nil => rfl
  | cons outline rest ih =>
    rw [List.cons_append, Outline.tokensOfAll, Outline.tokensOfAll, ih, List.append_assoc]

theorem tokensOfAll_stmts (hand : Hand) (stmts : List Stmt) :
    Outline.tokensOfAll (Stmt.outlinesOfAll hand stmts) = stmts.flatMap (stmtTokens hand) := by
  induction stmts with
  | nil => rfl
  | cons stmt rest ih => rw [Stmt.outlinesOfAll, tokensOfAll_append, ih, List.flatMap_cons, stmtTokens]

theorem outlines_ne_nil (hand : Hand) (stmt : Stmt) : stmt.outlines hand ≠ [] := by
  cases stmt <;> exact List.cons_ne_nil _ _

theorem outlinesOfAll_ne_nil (hand : Hand) {stmts : List Stmt} (present : stmts ≠ []) :
    Stmt.outlinesOfAll hand stmts ≠ [] := by
  obtain ⟨first, rest, rfl⟩ := List.exists_cons_of_ne_nil present
  exact List.append_ne_nil_of_left_ne_nil (outlines_ne_nil hand first) _

theorem tokens_body (hand : Hand) {stmts : List Stmt} (present : stmts ≠ []) (line rest : List Token) :
    (Outline.entry line (Stmt.outlinesOfAll hand stmts)).tokens ++ rest =
      line ++ .newline :: .indent :: (stmts.flatMap (stmtTokens hand) ++ .dedent :: rest) := by
  rw [tokens_block (outlinesOfAll_ne_nil hand present), tokensOfAll_stmts]

def elseTokens (hand : Hand) (no : List Stmt) : List Token :=
  Outline.tokensOfAll (elseOutlines hand no (Stmt.outlinesOfAll hand no))

theorem tokensOfAll_prepend (token : Token) {outlines : List Outline} (present : outlines ≠ []) :
    Outline.tokensOfAll (Outline.prepend token outlines) = token :: Outline.tokensOfAll outlines := by
  obtain ⟨⟨line, block⟩, rest, rfl⟩ := List.exists_cons_of_ne_nil present
  rw [Outline.prepend, Outline.tokensOfAll, Outline.tokensOfAll]
  cases block with
  | nil => rw [Outline.tokens, Outline.tokens]; rfl
  | cons first others => rw [Outline.tokens, Outline.tokens]; rfl

theorem elseTokens_cases (hand : Hand) (no : List Stmt) :
    (no = [] ∧ elseTokens hand no = []) ∨
    (∃ condition yes other span, no = [.branch condition yes other span] ∧
      elseTokens hand no = .keyword .else_ :: stmtTokens hand (.branch condition yes other span)) ∨
    (no ≠ [] ∧ ∀ rest, elseTokens hand no ++ rest =
      .keyword .else_ :: .newline :: .indent :: (no.flatMap (stmtTokens hand) ++ .dedent :: rest)) := by
  have block (present : no ≠ []) (rest : List Token) :
      Outline.tokensOfAll [.entry [.keyword .else_] (Stmt.outlinesOfAll hand no)] ++ rest =
        .keyword .else_ :: .newline :: .indent :: (no.flatMap (stmtTokens hand) ++ .dedent :: rest) := by
    have tokens := tokens_body hand present [.keyword .else_] rest
    rw [Outline.tokensOfAll, Outline.tokensOfAll, List.append_nil]
    exact tokens
  unfold elseTokens elseOutlines
  split
  · exact .inl ⟨rfl, rfl⟩
  · next condition yes other span =>
    split
    · refine .inr (.inl ⟨condition, yes, other, span, rfl, ?_⟩)
      rw [tokensOfAll_prepend _ (outlinesOfAll_ne_nil hand (List.cons_ne_nil _ _)), tokensOfAll_stmts]
      exact congrArg _ (List.append_nil _)
    · exact .inr (.inr ⟨List.cons_ne_nil _ _, block (List.cons_ne_nil _ _)⟩)
  · next others absent _ =>
    exact .inr (.inr ⟨absent, block absent⟩)

/-! ### Statements -/

theorem tokensOfAll_line (line rest : List Token) :
    Outline.tokensOfAll [.entry line []] ++ rest = line ++ .newline :: rest := by
  rw [Outline.tokensOfAll, Outline.tokensOfAll, List.append_nil, tokens_line]

theorem stmtTokens_branch (hand : Hand) (condition : Expr) {yes : List Stmt} (present : yes ≠ [])
    (no : List Stmt) (span : Span) (rest : List Token) :
    stmtTokens hand (.branch condition yes no span) ++ rest =
      .keyword .if_ :: (condition.tokens ++ .newline :: .indent ::
        (yes.flatMap (stmtTokens hand) ++ .dedent :: (elseTokens hand no ++ rest))) := by
  rw [stmtTokens, Stmt.outlines, Outline.tokensOfAll, List.append_assoc, tokens_body hand present]
  rfl

theorem stmtTokens_begin (hand : Hand) {stmt : Stmt} (proper : stmt.Proper) :
    Begins (stmtTokens hand stmt) := by
  cases stmt with
  | assign target value span => exact ⟨_, _, rfl, nofun, nofun⟩
  | declare type name value span =>
    obtain ⟨rest, starts⟩ := type_tokens type
    rw [stmtTokens, Stmt.outlines, starts]
    exact ⟨_, _, rfl, nofun, nofun⟩
  | expr value =>
    obtain ⟨first, rest, same, heads⟩ := value.tokens_cons proper
    rw [stmtTokens, Stmt.outlines, same]
    refine ⟨first, _, rfl, ?_, ?_⟩
    all_goals
      rintro rfl
      cases heads
  | branch condition yes no span =>
    have tokens := stmtTokens_branch hand condition proper.2.1 no span []
    rw [List.append_nil] at tokens
    exact ⟨.keyword .if_, _, tokens, nofun, nofun⟩
  | loop condition body span =>
    have tokens := tokens_body hand proper.2.1 (.keyword .while_ :: condition.tokens) []
    exact ⟨.keyword .while_, _, tokens, nofun, nofun⟩
  | emit event args span => exact ⟨_, _, rfl, nofun, nofun⟩

theorem stmt_reads_simple {exprFuel fuel : Nat} {before after : List Token}
    (starts : ∃ first rest, before = first :: rest ∧ first.heads = true) {post : Stmt → Prop}
    {declares : Bool} (decides : Reads atDeclaration before before (· = declares))
    (reads : Reads (if declares = true then declaration exprFuel else plainStmt exprFuel)
      before after post) :
    Reads (stmt exprFuel (fuel + 1)) before after post := by
  obtain ⟨first, rest, rfl, heads⟩ := starts
  refine .bind (peek_reads _) ?_
  rintro _ rfl
  rw [List.head?_cons]
  split
  · next same => cases same; cases heads
  · next same => cases same; cases heads
  · next same => cases same; cases heads
  · refine decides.bind ?_
    rintro _ rfl
    exact reads

section Bodies

variable {hand : Hand} {exprFuel fuel : Nat}

def StmtsRead (hand : Hand) (exprFuel fuel : Nat) : Prop :=
  ∀ written : Stmt, written.Proper → (stmtTokens hand written).length < exprFuel →
    (stmtTokens hand written).length ≤ fuel → ∀ rest, rest.head? ≠ some (.keyword .else_) →
    Reads (stmt exprFuel fuel) (stmtTokens hand written ++ rest) rest
      (fun found => found.bare = written.bare)

theorem block_reads (reads : StmtsRead hand exprFuel fuel) {stmts : List Stmt}
    (proper : Stmt.AllProper stmts) (enoughExpr : (stmts.flatMap (stmtTokens hand)).length < exprFuel)
    (enough : (stmts.flatMap (stmtTokens hand)).length ≤ fuel) (rest : List Token) :
    Reads (block (stmt exprFuel fuel) exprFuel)
      (.indent :: (stmts.flatMap (stmtTokens hand) ++ .dedent :: rest)) rest
      (fun found => found.map Stmt.bare = stmts.map Stmt.bare) := by
  have allProper := Stmt.allProper_iff.mp proper
  have begins : ∀ stmt ∈ stmts, Begins (stmtTokens hand stmt) :=
    fun stmt inside => stmtTokens_begin hand (allProper stmt inside)
  have count := count_le_flatMap begins
  refine .bind (expect_reads _ _ _) fun _ _ => untilDedent_reads begins ?_ (by omega) rest
  intro stmt inside behind apart
  have short := @length_le_flatMap _ (stmtTokens hand) _ _ inside
  exact reads stmt (allProper stmt inside) (by omega) (by omega) behind apart

end Bodies

theorem stmt_reads (hand : Hand) (exprFuel fuel : Nat) : StmtsRead hand exprFuel fuel := by
  induction fuel with
  | zero =>
    intro written proper _ enough
    obtain ⟨first, rest, same, -⟩ := stmtTokens_begin hand proper
    rw [same] at enough
    cases enough
  | succ fuel ih =>
    intro written proper enoughExpr enough rest apart
    cases written with
    | assign target value span =>
      obtain ⟨place, valueProper⟩ := proper
      have tokens (rest : List Token) : stmtTokens hand (.assign target value span) ++ rest =
          target.tokens ++ .symbol .assign :: (value.tokens ++ .newline :: rest) := by
        rw [stmtTokens, Stmt.outlines, tokensOfAll_line, List.append_assoc, List.cons_append]
      have length := congrArg List.length (tokens [])
      simp only [List.append_nil, List.length_append, List.length_cons] at length
      have decides : Reads atDeclaration
          (target.tokens ++ .symbol .assign :: (value.tokens ++ .newline :: rest))
          (target.tokens ++ .symbol .assign :: (value.tokens ++ .newline :: rest)) (· = false) := by
        obtain ⟨root, path, place⟩ := target
        cases path with
        | nil => exact atDeclaration_skips (.inr ⟨rfl, by decide⟩)
        | cons name others => exact atDeclaration_skips (.inr ⟨rfl, by decide⟩)
      rw [tokens rest]
      refine stmt_reads_simple ⟨_, _, rfl, rfl⟩ decides ?_
      exact plainStmt_reads_assign place valueProper (by omega) (by omega) span rest
    | declare type name value span =>
      obtain ⟨-, declares, -, valueProper⟩ := proper
      have tokens (rest : List Token) : stmtTokens hand (.declare type name value span) ++ rest =
          type.tokens ++ .ident name :: .symbol .assign :: (value.tokens ++ .newline :: rest) := by
        rw [stmtTokens, Stmt.outlines, tokensOfAll_line, List.append_assoc, List.cons_append,
          List.cons_append]
      have length := congrArg List.length (tokens [])
      simp only [List.append_nil, List.length_append, List.length_cons] at length
      obtain ⟨more, starts⟩ := type_tokens type
      rw [tokens rest]
      refine stmt_reads_simple ⟨_, _, congrArg (· ++ _) starts, rfl⟩
        (atDeclaration_reads declares name _) ?_
      exact declaration_reads valueProper (by omega) (by omega) span rest
    | expr value =>
      have tokens (rest : List Token) : stmtTokens hand (.expr value) ++ rest =
          value.tokens ++ .newline :: rest := by
        rw [stmtTokens, Stmt.outlines, tokensOfAll_line]
      have length := congrArg List.length (tokens [])
      simp only [List.append_nil, List.length_append, List.length_cons] at length
      obtain ⟨first, more, starts, heads⟩ := value.tokens_cons proper
      rw [tokens rest]
      refine stmt_reads_simple ⟨first, _, congrArg (· ++ _) starts, heads⟩
        (atDeclaration_skips_expr value proper .newline rest rfl (by decide)) ?_
      exact plainStmt_reads_expr proper (by omega) rest
    | branch condition yes no span =>
      obtain ⟨valueProper, present, yesProper, noProper⟩ := proper
      have tokens := stmtTokens_branch hand condition present no span
      have length := congrArg List.length (tokens [])
      simp only [List.append_nil, List.length_append, List.length_cons] at length
      rw [tokens rest]
      refine .bind (peek_reads _) ?_
      rintro _ rfl
      refine (condition_reads valueProper (by omega) .if_ _ _).bind ?_
      rintro ⟨value, place⟩ sameValue
      refine (block_reads ih yesProper (by omega) (by omega) _).bind fun yesFound sameYes => ?_
      have build (found : List Stmt) (same : found.map Stmt.bare = no.map Stmt.bare) :
          Reads (pure (.branch value yesFound found place) : Parser Stmt) rest rest
            (fun found => found.bare = (Stmt.branch condition yes no span).bare) := by
        refine .pure ?_
        rw [Stmt.bare, Stmt.bare, Stmt.bareAll_eq, Stmt.bareAll_eq, Stmt.bareAll_eq, Stmt.bareAll_eq,
          sameYes, same, sameValue]
      rcases elseTokens_cases hand no with ⟨rfl, none⟩ | ⟨other, first, second, inner, rfl, chained⟩ |
        ⟨some_, below⟩
      · rw [none]
        refine .skipped apart (.bind (.pure rfl) ?_)
        rintro _ rfl
        exact build [] rfl
      · have starts := stmtTokens_branch hand other noProper.1.2.1 second inner rest
        rw [chained, List.length_cons] at length
        rw [chained, List.cons_append]
        refine .taken (.bind (peek_reads _) ?_)
        rintro _ rfl
        rw [starts, List.head?_cons, if_pos rfl, ← starts]
        refine (ih _ noProper.1 (by omega) (by omega) rest apart).bind fun found same => ?_
        refine .bind (.pure rfl) ?_
        rintro _ rfl
        exact build [found] (congrArg (fun stmt => [stmt]) same)
      · have whole := congrArg List.length (below [])
        simp only [List.append_nil, List.length_append, List.length_cons] at whole
        rw [below rest]
        refine .taken (.bind (peek_reads _) ?_)
        rintro _ rfl
        rw [if_neg nofun]
        refine .bind (endLine_reads _) fun _ _ => ?_
        exact (block_reads ih noProper (by omega) (by omega) rest).bind build
    | loop condition body span =>
      obtain ⟨valueProper, present, bodyProper⟩ := proper
      have tokens (rest : List Token) : stmtTokens hand (.loop condition body span) ++ rest =
          .keyword .while_ :: (condition.tokens ++ .newline :: .indent ::
            (body.flatMap (stmtTokens hand) ++ .dedent :: rest)) := by
        rw [stmtTokens, Stmt.outlines, Outline.tokensOfAll, Outline.tokensOfAll, List.append_nil,
          tokens_body hand present]
        rfl
      have length := congrArg List.length (tokens [])
      simp only [List.append_nil, List.length_append, List.length_cons] at length
      rw [tokens rest]
      refine .bind (peek_reads _) ?_
      rintro _ rfl
      refine (condition_reads valueProper (by omega) .while_ _ _).bind ?_
      rintro ⟨value, place⟩ sameValue
      refine (block_reads ih bodyProper (by omega) (by omega) rest).bind fun found same => .pure ?_
      rw [Stmt.bare, Stmt.bare, Stmt.bareAll_eq, Stmt.bareAll_eq, same, sameValue]
    | emit event args span =>
      have tokens (rest : List Token) : stmtTokens hand (.emit event args span) ++ rest =
          .keyword .emit :: .ident event :: (enclosed (commas (args.map Expr.tokens)) ++
            .newline :: rest) := by
        rw [stmtTokens, Stmt.outlines, tokensOfAll_line, Expr.tokensOfAll_eq]
        rfl
      have length := congrArg List.length (tokens [])
      simp only [List.append_nil, List.length_append, List.length_cons, length_enclosed] at length
      rw [tokens rest]
      refine .bind (peek_reads _) ?_
      rintro _ rfl
      exact emission_reads (Expr.allProper_iff.mp proper.2) (by omega) span rest

end Grammar

end Stagecraft.Script
