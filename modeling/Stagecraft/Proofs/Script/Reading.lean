import Stagecraft.Proofs.Script.Propriety

/-!
Reading: the grammar finds declarations again from the tokens that they are written with. Where a parser
looks ahead, what follows is constrained; where it recurs, it has at least as much fuel as there are
tokens.
-/

namespace Stagecraft.Script

open Text (Span)

theorem lexemes_cons {left : List Lexeme} {token : Token} {rest : List Token}
    (same : left.map Lexeme.token = token :: rest) :
    ∃ span behind, left = ⟨token, span⟩ :: behind ∧ behind.map Lexeme.token = rest := by
  cases left with
  | nil => cases same
  | cons lexeme left =>
    obtain ⟨here, behind⟩ := List.cons.inj same
    exact ⟨lexeme.span, left, here ▸ rfl, behind⟩

theorem Feed.tokens_cons {feed : Feed} {token : Token} {rest : List Token}
    (same : feed.tokens = token :: rest) :
    ∃ span left stop, feed = ⟨⟨token, span⟩ :: left, stop⟩ ∧ left.map Lexeme.token = rest := by
  obtain ⟨left, stop⟩ := feed
  obtain ⟨span, behind, rfl, remains⟩ := lexemes_cons same
  exact ⟨span, behind, stop, rfl, remains⟩

namespace Grammar

/-- Of lexemes with the tokens `before` the parser leaves those with the tokens `after`, and what it
finds satisfies `post`. -/
def Reads {α : Type} (parser : Parser α) (before after : List Token) (post : α → Prop) : Prop :=
  ∀ feed, feed.tokens = before →
    ∃ found rest, parser feed = .ok (found, rest) ∧ rest.tokens = after ∧ post found

/-! ### Single steps -/

section Combinators

variable {α β : Type} {parser : Parser α} {next : α → Parser β} {before between after : List Token}
  {middle : α → Prop} {post : β → Prop}

theorem Reads.bind (first : Reads parser before between middle)
    (second : ∀ found, middle found → Reads (next found) between after post) :
    Reads (parser >>= next) before after post := by
  intro feed same
  obtain ⟨part, inside, ran, left, holds⟩ := first feed same
  obtain ⟨found, rest, ranNext, leftNext, holdsNext⟩ := second part holds inside left
  refine ⟨found, rest, ?_, leftNext, holdsNext⟩
  change (parser feed >>= fun found => next found.1 found.2) = _
  rw [ran]
  exact ranNext

theorem Reads.pure {found : β} (holds : post found) :
    Reads (pure found : Parser β) before before post :=
  fun feed same => ⟨found, feed, rfl, same, holds⟩

theorem Reads.mono {weaker : α → Prop} (reads : Reads parser before after middle)
    (implies : ∀ found, middle found → weaker found) : Reads parser before after weaker := by
  intro feed same
  obtain ⟨found, rest, ran, left, holds⟩ := reads feed same
  exact ⟨found, rest, ran, left, implies found holds⟩

end Combinators

theorem peek_reads (before : List Token) : Reads peek before before (· = before.head?) := by
  rintro feed rfl
  exact ⟨_, feed, rfl, rfl, List.head?_map.symm⟩

theorem lastStop_reads (before : List Token) : Reads lastStop before before (fun _ => True) :=
  fun feed same => ⟨_, feed, rfl, same, trivial⟩

theorem advance_reads (token : Token) (rest : List Token) :
    Reads advance (token :: rest) rest (fun _ => True) := by
  intro feed same
  obtain ⟨span, left, stop, rfl, behind⟩ := Feed.tokens_cons same
  exact ⟨_, _, rfl, behind, trivial⟩

theorem expect_reads (token : Token) (what : String) (rest : List Token) :
    Reads (expect token what) (token :: rest) rest (fun _ => True) := by
  intro feed same
  obtain ⟨span, left, stop, rfl, behind⟩ := Feed.tokens_cons same
  unfold expect
  dsimp only
  rw [if_pos rfl]
  exact ⟨_, _, rfl, behind, trivial⟩

theorem endLine_reads (rest : List Token) : Reads endLine (.newline :: rest) rest (fun _ => True) :=
  .bind (expect_reads _ _ rest) fun _ _ => .pure trivial

theorem expectIdent_reads (name what : String) (rest : List Token) :
    Reads (expectIdent what) (.ident name :: rest) rest (fun found => found.1 = name) := by
  intro feed same
  obtain ⟨span, left, stop, rfl, behind⟩ := Feed.tokens_cons same
  exact ⟨_, _, rfl, behind, rfl⟩

section Choices

variable {α : Type} {token : Token} {yes no : Parser α} {before after : List Token} {post : α → Prop}

theorem Reads.taken (reads : Reads yes before after post) :
    Reads (eat token >>= fun there => if there = true then yes else no) (token :: before) after
      post := by
  have eaten : Reads (eat token) (token :: before) before (· = true) := by
    refine .bind (peek_reads _) ?_
    rintro _ rfl
    rw [List.head?_cons, if_pos rfl]
    exact .bind (advance_reads token before) fun _ _ => .pure rfl
  refine eaten.bind ?_
  rintro _ rfl
  exact reads

theorem Reads.skipped (other : before.head? ≠ some token) (reads : Reads no before after post) :
    Reads (eat token >>= fun there => if there = true then yes else no) before after post := by
  have skipped : Reads (eat token) before before (· = false) := by
    refine .bind (peek_reads _) ?_
    rintro _ rfl
    rw [if_neg other]
    exact .pure rfl
  refine skipped.bind ?_
  rintro _ rfl
  exact reads

end Choices

/-! ### Repetitions -/

theorem commas_cons (part other : List Token) (more : List (List Token)) :
    commas (part :: other :: more) = part ++ .symbol .comma :: commas (other :: more) := rfl

theorem commas_head {part more : List Token} {first : Token} (starts : part = first :: more)
    (others : List (List Token)) : ∃ rest, commas (part :: others) = first :: rest := by
  subst starts
  cases others with
  | nil => exact ⟨more, rfl⟩
  | cons other beyond => exact ⟨_, rfl⟩

theorem length_le_commas {parts : List (List Token)} {part : List Token} (member : part ∈ parts) :
    part.length ≤ (commas parts).length := by
  induction parts with
  | nil => cases member
  | cons first rest ih =>
    cases rest with
    | nil =>
      rw [List.mem_singleton.mp member]
      exact Nat.le_refl _
    | cons other more =>
      rw [commas_cons, List.length_append, List.length_cons]
      rcases List.mem_cons.mp member with rfl | behind
      · omega
      · have := ih behind
        omega

theorem count_le_commas (parts : List (List Token)) : parts.length ≤ (commas parts).length + 1 := by
  induction parts with
  | nil => exact Nat.zero_le _
  | cons first rest ih =>
    cases rest with
    | nil => exact Nat.succ_le_succ (Nat.zero_le _)
    | cons other more =>
      simp only [commas_cons, List.length_append, List.length_cons] at ih ⊢
      omega

section Separation

variable {α β γ : Type} {parser : Parser α} {write : β → List Token} {bare : α → γ} {expected : β → γ}

/-- What is separated by commas is read member by member, if each is read up to a comma or to what closes
them all. -/
theorem commaSeparated_reads {close : Token} (apart : close ≠ .symbol .comma) {members : List β}
    (present : members ≠ [])
    (reads : ∀ member ∈ members, ∀ next rest, next = .symbol .comma ∨ next = close →
      Reads parser (write member ++ next :: rest) (next :: rest)
        (fun found => bare found = expected member))
    {fuel : Nat} (enough : members.length ≤ fuel) (rest : List Token) :
    Reads (commaSeparated parser fuel) (commas (members.map write) ++ close :: rest) (close :: rest)
      (fun found => found.map bare = members.map expected) := by
  induction members generalizing fuel with
  | nil => exact absurd rfl present
  | cons member others ih =>
    obtain ⟨here, behind⟩ := List.forall_mem_cons.mp reads
    cases fuel with
    | zero => cases enough
    | succ fuel =>
      cases others with
      | nil =>
        refine .bind (here close rest (.inr rfl)) fun found same => .skipped ?_ (.pure ?_)
        · exact fun clash => apart (Option.some.inj clash)
        · rw [List.map_singleton, List.map_singleton, same]
      | cons other more =>
        have read :=
          here (.symbol .comma) (commas ((other :: more).map write) ++ close :: rest) (.inl rfl)
        have split : commas ((member :: other :: more).map write) ++ close :: rest =
            write member ++ .symbol .comma :: (commas ((other :: more).map write) ++ close :: rest) := by
          rw [List.map_cons, List.map_cons, commas_cons, List.append_assoc, List.cons_append]
        rw [split]
        refine .bind read fun found same => .taken ?_
        have later := ih (List.cons_ne_nil _ _) behind (Nat.le_of_succ_le_succ enough)
        refine later.bind fun found others => .pure ?_
        rw [List.map_cons, List.map_cons, same, others]

end Separation

section Repetitions

variable {α : Type} {parser : Parser α} {write : α → List Token} {bare : α → α}

/-- A line, or the lines of a statement, that no block ends with and no `else` begins. -/
def Begins (tokens : List Token) : Prop :=
  ∃ first rest, tokens = first :: rest ∧ first ≠ .dedent ∧ first ≠ .keyword .else_

/-- The members of a block are read up to its end, if each is read wherever no `else` follows. -/
theorem untilDedent_reads {members : List α} (begins : ∀ member ∈ members, Begins (write member))
    (reads : ∀ member ∈ members, ∀ rest, rest.head? ≠ some (.keyword .else_) →
      Reads parser (write member ++ rest) rest (fun found => bare found = bare member))
    {fuel : Nat} (enough : members.length < fuel) (rest : List Token) :
    Reads (untilDedent parser fuel) (members.flatMap write ++ .dedent :: rest) rest
      (fun found => found.map bare = members.map bare) := by
  induction members generalizing fuel with
  | nil =>
    cases fuel with
    | zero => cases enough
    | succ fuel => exact .taken (.pure rfl)
  | cons member others ih =>
    obtain ⟨here, behind⟩ := List.forall_mem_cons.mp reads
    obtain ⟨⟨first, more, starts, inside, -⟩, laterBegins⟩ := List.forall_mem_cons.mp begins
    cases fuel with
    | zero => cases enough
    | succ fuel =>
      rw [List.flatMap_cons, List.append_assoc]
      refine .skipped ?_ ?_
      · rw [starts]
        exact fun clash => inside (Option.some.inj clash)
      · refine .bind (here _ ?_) fun found same => ?_
        · cases others with
          | nil => exact nofun
          | cons other rest =>
            obtain ⟨next, beyond, startsNext, -, apart⟩ := laterBegins other List.mem_cons_self
            rw [List.flatMap_cons, startsNext]
            exact fun clash => apart (Option.some.inj clash)
        · have later := ih laterBegins behind (Nat.lt_of_succ_lt_succ enough)
          refine later.bind fun found others => .pure ?_
          rw [List.map_cons, List.map_cons, same, others]

end Repetitions

theorem length_le_flatMap {α : Type} {write : α → List Token} {members : List α} {member : α}
    (inside : member ∈ members) : (write member).length ≤ (members.flatMap write).length := by
  induction members with
  | nil => cases inside
  | cons first rest ih =>
    rw [List.flatMap_cons, List.length_append]
    rcases List.mem_cons.mp inside with rfl | behind
    · omega
    · have := ih behind
      omega

theorem count_le_flatMap {α : Type} {write : α → List Token} {members : List α}
    (begins : ∀ member ∈ members, Begins (write member)) :
    members.length ≤ (members.flatMap write).length := by
  induction members with
  | nil => exact Nat.le_refl 0
  | cons first rest ih =>
    obtain ⟨⟨token, more, starts, -⟩, behind⟩ := List.forall_mem_cons.mp begins
    have := ih behind
    rw [List.flatMap_cons, List.length_append, starts, List.length_cons, List.length_cons]
    omega

/-! ### Outlines -/

theorem tokens_line (line rest : List Token) :
    (Outline.entry line []).tokens ++ rest = line ++ .newline :: rest := by
  rw [Outline.tokens, List.append_assoc, List.singleton_append]

theorem tokens_block {block : List Outline} (present : block ≠ []) (line rest : List Token) :
    (Outline.entry line block).tokens ++ rest =
      line ++ .newline :: .indent :: (Outline.tokensOfAll block ++ .dedent :: rest) := by
  obtain ⟨first, others, rfl⟩ := List.exists_cons_of_ne_nil present
  rw [Outline.tokens]
  simp only [List.append_assoc, List.cons_append, List.nil_append]

theorem length_tokens (line : List Token) (block : List Outline) :
    line.length + (Outline.tokensOfAll block).length < (Outline.entry line block).tokens.length := by
  cases block with
  | nil =>
    rw [Outline.tokens, Outline.tokensOfAll, List.length_append]
    exact Nat.lt_succ_self _
  | cons first others =>
    have same := congrArg List.length (tokens_block (List.cons_ne_nil first others) line [])
    simp only [List.length_append, List.length_cons, List.length_nil] at same
    omega

theorem tokensOfAll_lines {α : Type} (write : α → List Token) (members : List α) :
    Outline.tokensOfAll (members.map (fun member => .entry (write member) [])) =
      members.flatMap (fun member => write member ++ [.newline]) := by
  induction members with
  | nil => rfl
  | cons member rest ih => rw [List.map_cons, Outline.tokensOfAll, ih, List.flatMap_cons, Outline.tokens]

/-! ### Types and fields -/

theorem type_reads {written : TypeExpr} {fuel : Nat} (enough : written.tokens.length ≤ fuel)
    {rest : List Token} (apart : rest.head? ≠ some (.symbol .less)) :
    Reads (type fuel) (written.tokens ++ rest) rest (fun found => found.bare = written.bare) := by
  induction fuel generalizing written rest with
  | zero =>
    obtain ⟨name, args, span⟩ := written
    cases args <;> cases enough
  | succ fuel ih =>
    obtain ⟨name, args, span⟩ := written
    have build (args found : List TypeExpr) (same : found.map TypeExpr.bare = args.map TypeExpr.bare)
        (start : Nat) : Reads (do return ⟨name, found, ⟨start, ← lastStop⟩⟩ : Parser TypeExpr) rest rest
          (fun found => found.bare = (⟨name, args, span⟩ : TypeExpr).bare) := by
      refine .bind (lastStop_reads rest) fun _ _ => .pure ?_
      rw [TypeExpr.bare, TypeExpr.bare, TypeExpr.bareAll_eq, TypeExpr.bareAll_eq, same]
    cases args with
    | nil =>
      refine .bind (expectIdent_reads name _ _) ?_
      rintro ⟨_, start⟩ rfl
      refine .skipped apart (.bind (.pure rfl) ?_)
      rintro _ rfl
      exact build [] [] rfl start.start
    | cons arg others =>
      rw [TypeExpr.tokens, TypeExpr.tokensOfAll_eq] at enough ⊢
      simp only [List.cons_append, List.append_assoc, List.nil_append, List.length_cons,
        List.length_append] at enough ⊢
      refine .bind (expectIdent_reads name _ _) ?_
      rintro ⟨_, start⟩ rfl
      refine .taken ?_
      have members := count_le_commas ((arg :: others).map TypeExpr.tokens)
      rw [List.length_map] at members
      have fits : (arg :: others).length ≤ fuel := by omega
      have apart : Token.symbol .greater ≠ .symbol .comma := nofun
      have args : Reads (commaSeparated (type fuel) fuel)
          (commas ((arg :: others).map TypeExpr.tokens) ++ .symbol .greater :: rest)
          (.symbol .greater :: rest)
          (fun found => found.map TypeExpr.bare = (arg :: others).map TypeExpr.bare) := by
        refine commaSeparated_reads apart (List.cons_ne_nil arg others) ?_ fits rest
        intro member inside next rest closes
        have short := length_le_commas (List.mem_map.mpr ⟨member, inside, rfl⟩ :
          member.tokens ∈ (arg :: others).map TypeExpr.tokens)
        refine ih (by omega) ?_
        rcases closes with rfl | rfl
        all_goals exact nofun
      refine args.bind fun found same => .bind (expect_reads _ _ rest) fun _ _ => .bind (.pure rfl) ?_
      rintro _ rfl
      exact build _ found same start.start

theorem Field.tokens_append (field : Field) (rest : List Token) :
    field.tokens ++ rest = field.type.tokens ++ .ident field.name :: rest := by
  rw [Field.tokens, List.append_assoc, List.singleton_append]

theorem fieldLine_reads {written : Field} {fuel : Nat} (enough : written.tokens.length ≤ fuel)
    (rest : List Token) :
    Reads (fieldLine fuel) (written.tokens ++ .newline :: rest) rest
      (fun found => found.bare = written.bare) := by
  rw [Field.tokens_append]
  rw [Field.tokens, List.length_append] at enough
  refine .bind (type_reads (by omega) nofun) fun type same => ?_
  refine .bind (expectIdent_reads _ _ _) ?_
  rintro ⟨name, span⟩ named
  refine .bind (endLine_reads rest) fun _ _ => .pure ?_
  rw [Field.bare, Field.bare, same]
  exact congrArg (Field.mk _ · _) named

theorem type_tokens (type : TypeExpr) : ∃ rest, type.tokens = .ident type.name :: rest := by
  obtain ⟨name, args, span⟩ := type
  cases args with
  | nil => exact ⟨[], rfl⟩
  | cons arg rest => exact ⟨_, rfl⟩

theorem tokens_lines {α : Type} {write : α → List Token} {members : List α} (present : members ≠ [])
    (line rest : List Token) :
    (Outline.entry line (members.map (fun member => .entry (write member) []))).tokens ++ rest =
      line ++ .newline :: .indent ::
        (members.flatMap (fun member => write member ++ [.newline]) ++ .dedent :: rest) := by
  rw [tokens_block (fun empty => present (List.map_eq_nil_iff.mp empty)), tokensOfAll_lines]

/-- Lines of names and types fit into the fuel that their tokens allow. -/
theorem lines_fit {α : Type} {write : α → List Token} {members : List α} {line : List Token} {fuel : Nat}
    (enough : (Outline.entry line
      (members.map (fun member => .entry (write member) []))).tokens.length ≤ fuel) {member : α} (inside : member ∈ members) : (write member).length < fuel := by
  have whole := length_tokens line (members.map (fun member => .entry (write member) []))
  rw [tokensOfAll_lines] at whole
  have part := @length_le_flatMap _ (fun member => write member ++ [.newline]) _ _ inside
  rw [List.length_append] at part
  omega

theorem component_reads {written : ComponentDecl} {fuel : Nat}
    (enough : written.outline.tokens.length ≤ fuel) {rest : List Token}
    (apart : rest.head? ≠ some .indent) :
    Reads (component fuel) (written.outline.tokens ++ rest) rest
      (fun found => found.bare = written.bare) := by
  obtain ⟨name, body, span⟩ := written
  cases body with
  | alias_ type =>
    rw [ComponentDecl.outline, Outline.tokens] at enough
    rw [ComponentDecl.outline, tokens_line]
    simp only [List.length_append, List.length_cons] at enough
    refine .bind (expect_reads _ _ _) fun start _ => .bind (expectIdent_reads name _ _) ?_
    rintro ⟨_, place⟩ rfl
    refine .taken (.bind (type_reads (by omega) nofun) fun found same => ?_)
    refine .bind (lastStop_reads _) fun _ _ => .bind (endLine_reads rest) fun _ _ => .pure ?_
    rw [ComponentDecl.bare, ComponentDecl.bare, ComponentBody.bare, ComponentBody.bare, same]
  | fields lines =>
    dsimp only [ComponentDecl.outline] at enough ⊢
    have build (start : Nat) (found : List Field) (same : found.map Field.bare = lines.map Field.bare) :
        Reads (do return ⟨name, .fields found, ⟨start, ← lastStop⟩⟩ : Parser ComponentDecl) rest rest
          (fun found => found.bare = (⟨name, .fields lines, span⟩ : ComponentDecl).bare) := by
      refine .bind (lastStop_reads _) fun _ _ => .pure ?_
      rw [ComponentDecl.bare, ComponentDecl.bare, ComponentBody.bare, ComponentBody.bare, same]
    cases lines with
    | nil =>
      rw [List.map_nil, tokens_line]
      refine .bind (expect_reads _ _ _) fun start _ => .bind (expectIdent_reads name _ _) ?_
      rintro ⟨_, place⟩ rfl
      refine .skipped nofun (.bind (endLine_reads rest) fun _ _ => .skipped apart (.bind (.pure rfl) ?_))
      rintro _ rfl
      exact build start.start [] rfl
    | cons line others =>
      have begins : ∀ field ∈ line :: others, Begins (field.tokens ++ [.newline]) := by
        intro field _
        obtain ⟨rest, starts⟩ := type_tokens field.type
        rw [Field.tokens_append, starts]
        exact ⟨_, _, rfl, nofun, nofun⟩
      have count := count_le_flatMap begins
      have whole := length_tokens [.keyword .component, .ident name]
        ((line :: others).map (fun field => .entry field.tokens []))
      rw [tokensOfAll_lines] at whole
      rw [tokens_lines (List.cons_ne_nil line others)]
      refine .bind (expect_reads _ _ _) fun start _ => .bind (expectIdent_reads name _ _) ?_
      rintro ⟨_, place⟩ rfl
      refine .skipped nofun (.bind (endLine_reads _) fun _ _ => .taken ?_)
      refine .bind (untilDedent_reads begins ?_ (by omega) rest) (build start.start)
      intro field inside behind _
      rw [List.append_assoc]
      exact fieldLine_reads (Nat.le_of_lt (lines_fit enough inside)) behind

/-! ### Roles -/

def roleType (name : String) (components : List String) : TypeExpr :=
  ⟨name, components.map (⟨·, [], nowhere⟩), nowhere⟩

theorem roleType_tokens (name : String) {components : List String} (present : components ≠ []) :
    (roleType name components).tokens =
      .ident name :: .symbol .less :: commas (nameTokens components) ++ [.symbol .greater] := by
  obtain ⟨first, others, rfl⟩ := List.exists_cons_of_ne_nil present
  have names : (others.map (fun component => (⟨component, [], nowhere⟩ : TypeExpr))).map
      TypeExpr.tokens = nameTokens others := by
    rw [List.map_map]
    rfl
  rw [roleType, List.map_cons, TypeExpr.tokens, TypeExpr.tokensOfAll, TypeExpr.tokensOfAll_eq, names]
  rfl

theorem bare_name (type : TypeExpr) : type.bare.name = type.name := by
  cases type
  rfl

theorem bare_args (type : TypeExpr) : type.bare.args = type.args.map TypeExpr.bare := by
  cases type
  exact TypeExpr.bareAll_eq _

theorem bare_eq {type other : TypeExpr} (alike : type.bare = other.bare) :
    type.name = other.name ∧ type.args.map TypeExpr.bare = other.args.map TypeExpr.bare := by
  rw [← bare_name, ← bare_name other, ← bare_args, ← bare_args other, alike]
  exact ⟨rfl, rfl⟩

theorem roleOfType_reads {head : TypeExpr} {name : String} {components : List String}
    (same : head.bare = (roleType name components).bare) (before : List Token) :
    Reads (roleOfType head) before before
      (fun role => role.bare = ⟨some name, components, nowhere⟩) := by
  have sameName := congrArg TypeExpr.name same
  have sameArgs := congrArg TypeExpr.args same
  rw [bare_name, bare_name] at sameName
  rw [bare_args, bare_args] at sameArgs
  have names : head.args.map (·.name) = components := by
    have mapped := congrArg (List.map TypeExpr.name) sameArgs
    rw [roleType, List.map_map, List.map_map, List.map_map] at mapped
    rw [← List.map_congr_left (fun arg _ => bare_name arg)]
    exact mapped.trans (List.map_id components)
  have plain : head.args.find? (fun arg => !arg.args.isEmpty) = none := by
    rw [List.find?_eq_none]
    intro arg inside
    have member : arg.bare ∈ (roleType name components).args.map TypeExpr.bare :=
      sameArgs ▸ List.mem_map_of_mem inside
    obtain ⟨component, written, bared⟩ := List.mem_map.mp member
    obtain ⟨word, -, rfl⟩ := List.mem_map.mp written
    have none := congrArg TypeExpr.args bared
    rw [bare_args, bare_args, List.map_nil] at none
    rw [List.map_eq_nil_iff.mp none.symm]
    exact Bool.false_ne_true
  unfold roleOfType
  rw [plain]
  refine .pure ?_
  rw [RoleDecl.bare, names, sameName]
  rfl

theorem bareComponents_reads {names : List String} {fuel : Nat} (enough : names.length < fuel)
    {rest : List Token} (apart : rest.head? ≠ some (.symbol .comma)) :
    Reads (bareComponents fuel) (names.flatMap (fun name => [.symbol .comma, .ident name]) ++ rest) rest
      (· = names) := by
  induction names generalizing fuel with
  | nil =>
    cases fuel with
    | zero => cases enough
    | succ fuel => exact .skipped apart (.pure rfl)
  | cons name others ih =>
    cases fuel with
    | zero => cases enough
    | succ fuel =>
      refine .taken (.bind (expectIdent_reads name _ _) ?_)
      rintro ⟨_, span⟩ rfl
      refine .bind (ih (Nat.lt_of_succ_lt_succ enough)) ?_
      rintro _ rfl
      exact .pure rfl

theorem commas_names (first : String) (others : List String) :
    commas (nameTokens (first :: others)) =
      .ident first :: others.flatMap (fun name => [.symbol .comma, .ident name]) := by
  induction others generalizing first with
  | nil => rfl
  | cons other more ih =>
    have behind := ih other
    rw [nameTokens, List.map_cons] at behind
    rw [nameTokens, List.map_cons, List.map_cons, commas_cons, behind]
    rfl

theorem role_tokens {role : RoleDecl} (present : role.components ≠ []) :
    ∃ name rest, role.tokens = .ident name :: rest := by
  obtain ⟨name, components, span⟩ := role
  cases name with
  | some name => exact ⟨name, _, rfl⟩
  | none =>
    obtain ⟨first, others, rfl⟩ := List.exists_cons_of_ne_nil present
    exact ⟨first, _, commas_names first others⟩

/-! ### Events -/

def EventParts.bare (parts : EventParts) : EventParts :=
  ⟨parts.roles.map RoleDecl.bare, parts.payload.map Field.bare⟩

theorem atIdent_reads (name : String) (rest : List Token) :
    Reads atIdent (.ident name :: rest) (.ident name :: rest) (· = true) := by
  refine .bind (peek_reads _) ?_
  rintro _ rfl
  exact .pure rfl

theorem atIdent_skips {before : List Token} (other : ∀ name, before.head? ≠ some (.ident name)) :
    Reads atIdent before before (· = false) := by
  refine .bind (peek_reads before) ?_
  rintro _ rfl
  split
  · next name same => exact absurd same (other name)
  · exact .pure rfl

theorem payload_reads {head : TypeExpr} {written : Field} (same : head.bare = written.type.bare)
    {parts : EventParts} (alone : parts.payload = none) (rest : List Token) :
    Reads (payload head parts) (.ident written.name :: rest) rest
      (fun found => found.bare = ({ parts with payload := some written } : EventParts).bare) := by
  unfold payload
  rw [alone, if_neg nofun]
  refine .bind (expectIdent_reads _ _ rest) ?_
  rintro ⟨name, span⟩ named
  refine .pure ?_
  have payload : (⟨head, name, ⟨head.span.start, span.stop⟩⟩ : Field).bare = written.bare := by
    rw [Field.bare, Field.bare, same]
    exact congrArg (Field.mk _ · _) named
  rw [EventParts.bare, EventParts.bare]
  exact congrArg (EventParts.mk _ <| some ·) payload

theorem bare_addRole {parts : EventParts} {found written : RoleDecl} (same : found.bare = written.bare) :
    (parts.addRole found).bare = (parts.addRole written).bare := by
  rw [EventParts.bare, EventParts.bare, EventParts.addRole, EventParts.addRole, List.map_append,
    List.map_append, List.map_singleton, List.map_singleton, same]

theorem namedRole_reads {name : String} {components : List String} (present : components ≠ [])
    {fuel : Nat} {span : Span} (enough : (⟨some name, components, span⟩ : RoleDecl).tokens.length ≤ fuel)
    (rest : List Token) (apart : rest.head? ≠ some (.symbol .less)) :
    Reads (type fuel) ((⟨some name, components, span⟩ : RoleDecl).tokens ++ rest) rest
      (fun head => head.bare = (roleType name components).bare ∧ head.args ≠ []) := by
  have written : (⟨some name, components, span⟩ : RoleDecl).tokens = (roleType name components).tokens :=
    (roleType_tokens name present).symm
  rw [written] at enough ⊢
  refine (type_reads enough apart).mono fun head same => ⟨same, fun empty => ?_⟩
  have args := congrArg TypeExpr.args same
  rw [bare_args, bare_args, empty, List.map_nil] at args
  exact present (List.map_eq_nil_iff.mp (List.map_eq_nil_iff.mp args.symm))

def eventPart (fuel : Nat) (parts : EventParts) (other : TypeExpr → Parser EventParts) :
    Parser EventParts := do
  let head ← type fuel
  if ← atIdent then payload head parts else other head

theorem eventPart_reads_payload {field : Field} {fuel : Nat} (enough : field.tokens.length ≤ fuel)
    {parts : EventParts} (alone : parts.payload = none) (other : TypeExpr → Parser EventParts)
    (rest : List Token) :
    Reads (eventPart fuel parts other) (field.tokens ++ rest) rest
      (fun found => found.bare = ({ parts with payload := some field } : EventParts).bare) := by
  rw [Field.tokens_append]
  rw [Field.tokens, List.length_append] at enough
  refine .bind (type_reads (by omega) nofun) fun head same => .bind (atIdent_reads _ _) ?_
  rintro _ rfl
  rw [if_pos rfl]
  exact payload_reads same alone rest

theorem eventPart_reads_role {name : String} {components : List String} (present : components ≠ [])
    {fuel : Nat} {span : Span} (enough : (⟨some name, components, span⟩ : RoleDecl).tokens.length ≤ fuel)
    {parts : EventParts} {other : TypeExpr → Parser EventParts}
    (others : ∀ head, head.args ≠ [] → other head = do return parts.addRole (← roleOfType head))
    {next : Token} (apart : next ∈ [.newline, .symbol .comma, .symbol .closing]) (rest : List Token) :
    Reads (eventPart fuel parts other)
      ((⟨some name, components, span⟩ : RoleDecl).tokens ++ next :: rest) (next :: rest)
      (fun found => found.bare = (parts.addRole ⟨some name, components, span⟩).bare) := by
  have plain : ∀ next ∈ [Token.newline, .symbol .comma, .symbol .closing], next ≠ .symbol .less := by
    decide
  refine .bind (namedRole_reads present enough _ fun same => plain next apart (Option.some.inj same)) ?_
  rintro head ⟨same, full⟩
  refine .bind (atIdent_skips fun word same => ?_) ?_
  · cases same
    exact absurd apart (by simp)
  · rintro _ rfl
    rw [if_neg Bool.false_ne_true, others head full]
    exact .bind (roleOfType_reads same _) fun role bared => .pure (bare_addRole bared)

/-- A role without a name: the first component is read as a type. -/
theorem eventLine_reads_bare {first : String} {others : List String} {span : Span} {fuel : Nat}
    (enough : (⟨none, first :: others, span⟩ : RoleDecl).tokens.length < fuel) (parts : EventParts)
    (rest : List Token) :
    Reads (eventLine fuel parts)
      ((⟨none, first :: others, span⟩ : RoleDecl).tokens ++ .newline :: rest) (.newline :: rest)
      (fun found => found.bare = (parts.addRole ⟨none, first :: others, span⟩).bare) := by
  have written : (⟨none, first :: others, span⟩ : RoleDecl).tokens =
      .ident first :: others.flatMap (fun name => [.symbol .comma, .ident name]) :=
    commas_names first others
  have count : others.length ≤ (others.flatMap (fun name => [Token.symbol .comma, .ident name])).length :=
    count_le_flatMap fun _ _ => ⟨_, _, rfl, nofun, nofun⟩
  rw [written] at enough ⊢
  rw [List.length_cons] at enough
  have head : Reads (type fuel)
      ((⟨first, [], nowhere⟩ : TypeExpr).tokens ++
        (others.flatMap (fun name => [.symbol .comma, .ident name]) ++ .newline :: rest))
      (others.flatMap (fun name => [.symbol .comma, .ident name]) ++ .newline :: rest)
      (fun found => found.bare = (⟨first, [], nowhere⟩ : TypeExpr).bare) := by
    refine type_reads (Nat.le_of_lt (Nat.lt_of_le_of_lt ?_ enough)) ?_
    · exact Nat.succ_le_succ (Nat.zero_le _)
    · cases others with
      | nil => exact nofun
      | cons other more => exact nofun
  refine head.bind fun head same => .bind (atIdent_skips fun name => ?_) ?_
  · cases others with
    | nil => exact nofun
    | cons other more => exact nofun
  · rintro _ rfl
    have none := congrArg TypeExpr.args same
    have sameName := congrArg TypeExpr.name same
    rw [bare_args, bare_args] at none
    rw [bare_name, bare_name] at sameName
    rw [if_neg Bool.false_ne_true, if_pos (List.isEmpty_iff.mpr (List.map_eq_nil_iff.mp none))]
    refine .bind (bareComponents_reads (by omega) nofun) ?_
    rintro _ rfl
    refine .bind (lastStop_reads _) fun _ _ => .pure (bare_addRole ?_)
    rw [RoleDecl.bare, RoleDecl.bare, sameName]

theorem eventLine_reads_role {role : RoleDecl} (present : role.components ≠ []) {fuel : Nat}
    (enough : role.tokens.length < fuel) (parts : EventParts) (rest : List Token) :
    Reads (eventLine fuel parts) (role.tokens ++ .newline :: rest) (.newline :: rest)
      (fun found => found.bare = (parts.addRole role).bare) := by
  obtain ⟨name, components, span⟩ := role
  cases name with
  | some name =>
    refine eventPart_reads_role present (Nat.le_of_lt enough) (fun head full => ?_) (by decide) rest
    rw [if_neg (List.isEmpty_iff.not.mpr full)]
  | none =>
    obtain ⟨first, others, rfl⟩ := List.exists_cons_of_ne_nil present
    exact eventLine_reads_bare enough parts rest

def partTokens (roles : List RoleDecl) (payload : Option Field) : List (List Token) :=
  roles.map RoleDecl.tokens ++ (payload.map Field.tokens).toList

def PartsFit (fuel : Nat) (roles : List RoleDecl) (payload : Option Field) : Prop :=
  ∀ part ∈ partTokens roles payload, part.length < fuel

theorem bare_more {parts found : EventParts} {role : RoleDecl} {roles : List RoleDecl}
    {payload : Option Field} (same : found.bare = (parts.addRole role).bare) :
    (⟨found.roles ++ roles, payload⟩ : EventParts).bare =
      (⟨parts.roles ++ role :: roles, payload⟩ : EventParts).bare := by
  have sameRoles := congrArg EventParts.roles same
  rw [EventParts.bare, EventParts.bare, EventParts.addRole] at sameRoles
  dsimp only at sameRoles
  rw [EventParts.bare, EventParts.bare, List.map_append, sameRoles, List.map_append, List.map_append,
    List.append_assoc, List.map_singleton, List.map_cons]
  rfl

theorem payload_eq_none {parts found : EventParts} {role : RoleDecl}
    (same : found.bare = (parts.addRole role).bare) (alone : parts.payload = none) :
    found.payload = none := by
  have samePayload := congrArg EventParts.payload same
  rw [EventParts.bare, EventParts.bare, EventParts.addRole, alone] at samePayload
  exact Option.map_eq_none_iff.mp samePayload

theorem eventLines_reads {roles : List RoleDecl} {payload : Option Field}
    (present : ∀ role ∈ roles, role.components ≠ []) {lineFuel : Nat}
    (fit : PartsFit lineFuel roles payload) {fuel : Nat} (enough : roles.length + 2 ≤ fuel)
    {parts : EventParts} (alone : parts.payload = none) (rest : List Token) :
    Reads (eventLines lineFuel fuel parts)
      ((partTokens roles payload).flatMap (fun part => part ++ [.newline]) ++ .dedent :: rest) rest
      (fun found => found.bare = (⟨parts.roles ++ roles, payload⟩ : EventParts).bare) := by
  induction roles generalizing fuel parts with
  | nil =>
    obtain ⟨fuel, rfl⟩ : ∃ rest, fuel = rest + 2 := ⟨fuel - 2, by omega⟩
    cases payload with
    | none =>
      refine .taken (.pure ?_)
      rw [List.append_nil, ← alone]
    | some field =>
      have short := fit field.tokens (by simp [partTokens])
      obtain ⟨others, starts⟩ := type_tokens field.type
      have line : ((partTokens [] (some field)).flatMap (fun part => part ++ [.newline]) ++
          .dedent :: rest) = field.tokens ++ .newline :: .dedent :: rest := by
        simp [partTokens]
      rw [line]
      refine .skipped ?_ ((eventPart_reads_payload (Nat.le_of_lt short) alone _ _).bind fun found same => ?_)
      · rw [Field.tokens_append, starts]
        exact nofun
      · refine .bind (endLine_reads _) fun _ _ => .taken (.pure ?_)
        rw [same, List.append_nil]
  | cons role others ih =>
    obtain ⟨full, fullOthers⟩ := List.forall_mem_cons.mp present
    obtain ⟨short, shortOthers⟩ := List.forall_mem_cons.mp fit
    obtain ⟨fuel, rfl⟩ : ∃ rest, fuel = rest + 1 := ⟨fuel - 1, by rw [List.length_cons] at enough; omega⟩
    have lines : (partTokens (role :: others) payload).flatMap (fun part => part ++ [.newline]) ++
        .dedent :: rest = role.tokens ++ .newline ::
          ((partTokens others payload).flatMap (fun part => part ++ [.newline]) ++ .dedent :: rest) := by
      simp [partTokens]
    rw [lines]
    refine .skipped ?_ (.bind (eventLine_reads_role full short parts _) fun found same => ?_)
    · obtain ⟨name, more, starts⟩ := role_tokens full
      rw [starts]
      exact nofun
    · refine .bind (endLine_reads _) fun _ _ => ?_
      refine (ih fullOthers shortOthers (by simpa using enough) (payload_eq_none same alone)).mono ?_
      intro final bared
      rw [bared, bare_more same]

theorem headerPart_reads_role {role : RoleDecl} (present : role.components ≠ [])
    (named : role.name.isSome) {fuel : Nat} (enough : role.tokens.length < fuel) (parts : EventParts)
    {next : Token} (apart : next ∈ [.newline, .symbol .comma, .symbol .closing]) (rest : List Token) :
    Reads (headerPart fuel parts) (role.tokens ++ next :: rest) (next :: rest)
      (fun found => found.bare = (parts.addRole role).bare) := by
  obtain ⟨name, components, span⟩ := role
  obtain ⟨name, rfl⟩ := Option.isSome_iff_exists.mp named
  refine eventPart_reads_role present (Nat.le_of_lt enough) (fun head full => ?_) apart rest
  rw [if_neg (List.isEmpty_iff.not.mpr full)]

theorem headerParts_reads {roles : List RoleDecl} {payload : Option Field}
    (present : ∀ role ∈ roles, role.components ≠ []) (named : Named roles) {partFuel : Nat}
    (fit : PartsFit partFuel roles payload) (some_ : partTokens roles payload ≠ []) {fuel : Nat}
    (enough : roles.length + 1 ≤ fuel) {parts : EventParts} (alone : parts.payload = none)
    (rest : List Token) :
    Reads (headerParts partFuel fuel parts)
      (commas (partTokens roles payload) ++ .symbol .closing :: rest) (.symbol .closing :: rest)
      (fun found => found.bare = (⟨parts.roles ++ roles, payload⟩ : EventParts).bare) := by
  induction roles generalizing fuel parts with
  | nil =>
    obtain ⟨fuel, rfl⟩ : ∃ rest, fuel = rest + 1 := ⟨fuel - 1, by omega⟩
    cases payload with
    | none => exact absurd rfl some_
    | some field =>
      have short := fit field.tokens (by simp [partTokens])
      refine .bind (eventPart_reads_payload (Nat.le_of_lt short) alone _ _) fun found same => ?_
      refine .skipped nofun (.pure ?_)
      rw [same, List.append_nil]
  | cons role others ih =>
    obtain ⟨full, fullOthers⟩ := List.forall_mem_cons.mp present
    obtain ⟨here, namedOthers⟩ := List.forall_mem_cons.mp named
    obtain ⟨short, shortOthers⟩ := List.forall_mem_cons.mp fit
    obtain ⟨fuel, rfl⟩ : ∃ rest, fuel = rest + 1 := ⟨fuel - 1, by omega⟩
    rcases more : partTokens others payload with - | ⟨next, beyond⟩
    · obtain ⟨noRoles, noPayload⟩ := List.append_eq_nil_iff.mp more
      rw [List.map_eq_nil_iff] at noRoles
      have last : commas (partTokens (role :: others) payload) = role.tokens := by
        have same : partTokens (role :: others) payload = role.tokens :: partTokens others payload := rfl
        rw [same, more]
        rfl
      rw [last]
      refine .bind (headerPart_reads_role full here short parts (by decide) rest) fun found same => ?_
      refine .skipped nofun (.pure ?_)
      have final := @bare_more _ _ _ others payload same
      subst noRoles
      have alonePayload : payload = none := by simpa using noPayload
      rw [← final, List.append_nil, alonePayload, ← payload_eq_none same alone]
    · have split : commas (partTokens (role :: others) payload) ++ .symbol .closing :: rest =
          role.tokens ++ .symbol .comma ::
            (commas (partTokens others payload) ++ .symbol .closing :: rest) := by
        have same : partTokens (role :: others) payload = role.tokens :: partTokens others payload := rfl
        rw [same, more, commas_cons, List.append_assoc, List.cons_append]
      rw [split]
      refine (headerPart_reads_role full here short parts (by decide) _).bind fun found same => .taken ?_
      have present : partTokens others payload ≠ [] := more ▸ List.cons_ne_nil next beyond
      refine (ih fullOthers namedOthers shortOthers present (by simpa using enough)
        (payload_eq_none same alone)).mono ?_
      intro final bared
      rw [bared, bare_more same]

theorem event_reads_parts {written : EventDecl} {parts : EventParts}
    (same : parts.bare = (⟨written.roles, written.payload⟩ : EventParts).bare) (start : Nat)
    (rest : List Token) :
    Reads (do
        return ⟨written.name, parts.roles, parts.payload, ⟨start, ← lastStop⟩⟩ : Parser EventDecl)
      rest rest (fun found => found.bare = written.bare) := by
  obtain ⟨roles, payload⟩ := EventParts.mk.inj same
  refine .bind (lastStop_reads rest) fun _ _ => .pure ?_
  rw [EventDecl.bare, EventDecl.bare]
  dsimp only
  rw [roles, payload]

theorem parts_begin {written : EventDecl} (present : ∀ role ∈ written.roles, role.components ≠ []) :
    ∀ part ∈ written.parts, ∃ name rest, part = .ident name :: rest := by
  refine List.forall_mem_append.mpr ⟨fun part member => ?_, fun part member => ?_⟩
  · obtain ⟨role, inside, rfl⟩ := List.mem_map.mp member
    exact role_tokens (present role inside)
  · obtain ⟨field, -, rfl⟩ := Option.map_eq_some_iff.mp (Option.mem_toList.mp member)
    obtain ⟨rest, starts⟩ := type_tokens field.type
    exact ⟨field.type.name, _, by rw [Field.tokens, starts, List.cons_append]⟩

theorem roles_le_parts (written : EventDecl) : written.roles.length ≤ written.parts.length := by
  rw [EventDecl.parts, List.length_append, List.length_map]
  exact Nat.le_add_right _ _

theorem eventHeader_reads {written : EventDecl} (present : ∀ role ∈ written.roles, role.components ≠ [])
    (named : Named written.roles) {fuel : Nat} (enough : (commas written.parts).length + 1 < fuel)
    (rest : List Token) :
    Reads (eventHeader fuel written.name) (enclosed (commas written.parts) ++ rest) rest
      (fun found => found.bare = written.bare) := by
  rw [enclosed, List.append_assoc, List.cons_append, List.singleton_append]
  refine .bind (expect_reads _ _ _) fun start _ => ?_
  by_cases empty : written.parts = []
  · obtain ⟨noRoles, noPayload⟩ := List.append_eq_nil_iff.mp empty
    rw [empty]
    refine .taken (.bind (.pure rfl) ?_)
    rintro _ rfl
    refine @event_reads_parts _ EventParts.none ?_ start.start rest
    rw [List.map_eq_nil_iff.mp noRoles]
    have alone : written.payload = none := by simpa using noPayload
    rw [alone]
    rfl
  · have fit : PartsFit fuel written.roles written.payload := fun part member =>
      Nat.lt_of_le_of_lt (length_le_commas member) (Nat.lt_of_succ_lt enough)
    have count := count_le_commas written.parts
    have roles := roles_le_parts written
    have alone : EventParts.none.payload = none := rfl
    refine .skipped ?_ (.bind (headerParts_reads present named fit empty (by omega) alone rest)
      fun parts same => ?_)
    · obtain ⟨first, others, split⟩ := List.exists_cons_of_ne_nil empty
      obtain ⟨name, more, starts⟩ := parts_begin present first (split ▸ List.mem_cons_self)
      obtain ⟨behind, begins⟩ := commas_head starts others
      rw [split, begins]
      simp
    · refine .bind (expect_reads _ _ rest) fun _ _ => .bind (.pure rfl) ?_
      rintro _ rfl
      exact event_reads_parts same start.start rest

theorem event_reads {written : EventDecl} (present : ∀ role ∈ written.roles, role.components ≠ [])
    {fuel : Nat} (enough : written.outline.tokens.length ≤ fuel) {rest : List Token}
    (apart : rest.head? ≠ some .indent) :
    Reads (event fuel) (written.outline.tokens ++ rest) rest
      (fun found => found.bare = written.bare) := by
  by_cases empty : written.parts = []
  · obtain ⟨noRoles, noPayload⟩ := List.append_eq_nil_iff.mp empty
    rw [EventDecl.outline, empty, List.map_nil, tokens_line]
    refine .bind (expect_reads _ _ _) fun start _ => .bind (expectIdent_reads written.name _ _) ?_
    rintro ⟨_, place⟩ rfl
    refine .bind (peek_reads _) ?_
    rintro _ rfl
    rw [if_neg nofun]
    refine .bind (endLine_reads rest) fun _ _ => .skipped apart (.bind (.pure rfl) ?_)
    rintro _ rfl
    refine @event_reads_parts _ EventParts.none ?_ start.start rest
    rw [List.map_eq_nil_iff.mp noRoles]
    have alone : written.payload = none := by simpa using noPayload
    rw [alone]
    rfl
  · have whole := length_tokens [.keyword .event, .ident written.name]
      (written.parts.map (fun part => .entry part []))
    have begins : ∀ part ∈ written.parts, Begins (part ++ [.newline]) := by
      intro part member
      obtain ⟨name, more, rfl⟩ := parts_begin present part member
      exact ⟨_, _, rfl, nofun, nofun⟩
    have count := count_le_flatMap begins
    have roles := roles_le_parts written
    rw [tokensOfAll_lines] at whole
    rw [EventDecl.outline] at enough
    rw [EventDecl.outline, tokens_lines empty]
    have fit : PartsFit fuel written.roles written.payload :=
      fun part member => @lines_fit _ (fun part => part) _ _ _ enough _ member
    have enoughLines : written.roles.length + 2 ≤ fuel := by
      simp only [List.length_cons, List.length_nil] at whole
      omega
    refine .bind (expect_reads _ _ _) fun start _ => .bind (expectIdent_reads written.name _ _) ?_
    rintro ⟨_, place⟩ rfl
    refine .bind (peek_reads _) ?_
    rintro _ rfl
    rw [if_neg nofun]
    refine .bind (endLine_reads _) fun _ _ => .taken ?_
    have alone : EventParts.none.payload = none := rfl
    exact (eventLines_reads present fit enoughLines alone rest).bind fun parts same =>
      event_reads_parts same start.start rest

end Grammar

end Stagecraft.Script
