import Stagecraft.Proofs.Script.ReadingBodies

/-!
The round trip: the fair copy of a script is parsed as the same script. Nothing in it is lost, doubled,
put elsewhere or attached to another block.
-/

namespace Stagecraft.Script

open Text (Span)

namespace Grammar

/-! ### Systems -/

theorem param_reads {role : RoleDecl} (present : role.components ≠ []) (named : role.name.isSome)
    {fuel : Nat} (enough : role.tokens.length ≤ fuel) {next : Token}
    (apart : next = .symbol .comma ∨ next = .symbol .closing) (rest : List Token) :
    Reads (param fuel) (role.tokens ++ next :: rest) (next :: rest)
      (fun found => found.bare = role.bare) := by
  obtain ⟨name, components, span⟩ := role
  obtain ⟨name, rfl⟩ := Option.isSome_iff_exists.mp named
  refine .bind (namedRole_reads present enough _ ?_) ?_
  · rcases apart with rfl | rfl
    all_goals exact nofun
  · rintro head ⟨same, full⟩
    rw [if_neg (List.isEmpty_iff.not.mpr full)]
    exact roleOfType_reads same _

theorem params_read {params : List RoleDecl} (present : ∀ role ∈ params, role.components ≠ [])
    (named : Named params) {fuel : Nat} (enough : (commas (params.map RoleDecl.tokens)).length < fuel)
    (full : params ≠ []) (rest : List Token) :
    Reads (commaSeparated (param fuel) fuel)
      (commas (params.map RoleDecl.tokens) ++ .symbol .closing :: rest) (.symbol .closing :: rest)
      (fun found => found.map RoleDecl.bare = params.map RoleDecl.bare) := by
  have count := count_le_commas (params.map RoleDecl.tokens)
  rw [List.length_map] at count
  have apart : Token.symbol .closing ≠ .symbol .comma := nofun
  refine commaSeparated_reads apart full (fun role inside next behind closes => ?_) (by omega) rest
  have short := length_le_commas (List.mem_map.mpr ⟨role, inside, rfl⟩ :
    role.tokens ∈ params.map RoleDecl.tokens)
  exact param_reads (present role inside) (named role inside) (by omega) closes behind

theorem header_tokens (decl : EventDecl) :
    decl.header = .ident decl.name :: enclosed (commas decl.parts) := rfl

theorem system_reads (hand : Hand) {written : SystemDecl} (proper : written.Proper) {fuel : Nat}
    (enough : (written.outline hand).tokens.length ≤ fuel) (rest : List Token) :
    Reads (system fuel) ((written.outline hand).tokens ++ rest) rest
      (fun found => found.bare = written.bare) := by
  have tokens (rest : List Token) : (written.outline hand).tokens ++ rest =
      .keyword .system :: .ident written.name :: .symbol .opening ::
        (commas (written.params.map RoleDecl.tokens) ++ .symbol .closing :: .keyword .event ::
          .ident written.event.name :: (enclosed (commas written.event.parts) ++ .newline :: .indent ::
            (written.body.flatMap (stmtTokens hand) ++ .dedent :: rest))) := by
    rw [SystemDecl.outline, tokens_body hand proper.present, header_tokens]
    simp only [enclosed, List.append_assoc, List.cons_append, List.nil_append]
  have length := congrArg List.length (tokens [])
  simp only [List.append_nil, List.length_append, List.length_cons, length_enclosed] at length
  rw [tokens rest]
  refine .bind (expect_reads _ _ _) fun start _ => .bind (expectIdent_reads written.name _ _) ?_
  rintro ⟨_, place⟩ rfl
  refine .bind (expect_reads _ _ _) fun _ _ => ?_
  -- What is left of the line, and the body, once the parameters are known.
  have build (found : List RoleDecl)
      (same : found.map RoleDecl.bare = written.params.map RoleDecl.bare) :
      Reads (do
          let _ ← expect (.keyword .event) "`event`"
          let heard ← expectIdent "event name"
          let listener ← eventHeader fuel heard.1
          let stop ← lastStop
          endLine
          let body ← block (stmt fuel fuel) fuel
          return ⟨written.name, found, listener, body, ⟨start.start, stop⟩⟩ : Parser SystemDecl)
        (.keyword .event :: .ident written.event.name :: (enclosed (commas written.event.parts) ++
          .newline :: .indent :: (written.body.flatMap (stmtTokens hand) ++ .dedent :: rest))) rest
        (fun found => found.bare = written.bare) := by
    have present : ∀ role ∈ written.event.roles, role.components ≠ [] :=
      fun role inside => (proper.event.roles role inside).present
    refine .bind (expect_reads _ _ _) fun _ _ => .bind (expectIdent_reads written.event.name _ _) ?_
    rintro ⟨_, place⟩ rfl
    refine .bind (eventHeader_reads present proper.namedRoles (by omega) _) fun listener sameEvent => ?_
    refine .bind (lastStop_reads _) fun _ _ => .bind (endLine_reads _) fun _ _ => ?_
    refine (block_reads (stmt_reads hand fuel fuel) proper.body (by omega) (by omega) rest).bind
      fun body sameBody => .pure ?_
    rw [SystemDecl.bare, SystemDecl.bare, Stmt.bareAll_eq, Stmt.bareAll_eq, same, sameEvent, sameBody]
  rcases params : written.params with - | ⟨first, others⟩
  · refine .taken (.bind (.pure rfl) ?_)
    rintro _ rfl
    exact build [] (by rw [params])
  · have present : ∀ role ∈ written.params, role.components ≠ [] :=
      fun role inside => (proper.params role inside).present
    have full : written.params ≠ [] := params ▸ List.cons_ne_nil first others
    rw [← params]
    refine .skipped ?_ ?_
    · obtain ⟨name, more, starts⟩ := role_tokens (present first (params ▸ List.mem_cons_self))
      obtain ⟨behind, head⟩ := commas_head starts (others.map RoleDecl.tokens)
      rw [params, List.map_cons, head]
      simp
    · refine (params_read present proper.namedParams (by omega) full _).bind fun found same => ?_
      refine .bind (expect_reads _ _ _) fun _ _ => .bind (.pure rfl) ?_
      rintro _ rfl
      exact build found same

/-! ### Scripts -/

def itemKeyword : Item → Keyword
  | .component _ => .component
  | .event _ => .event
  | .system _ => .system

theorem item_tokens (hand : Hand) (item : Item) (rest : List Token) :
    ((item.outline hand).tokens ++ rest).head? = some (.keyword (itemKeyword item)) := by
  have line (keyword : Keyword) (others : List Token) (block : List Outline) :
      ((Outline.entry (.keyword keyword :: others) block).tokens ++ rest).head? =
        some (.keyword keyword) := by
    cases block with
    | nil => rfl
    | cons first more => rfl
  cases item with
  | component decl =>
    obtain ⟨name, body, span⟩ := decl
    cases body with
    | alias_ type => exact line _ _ _
    | fields lines => exact line _ _ _
  | event decl => exact line _ _ _
  | system decl => exact line _ _ _

theorem items_read (hand : Hand) {written : List Item} (proper : ∀ item ∈ written, item.Proper)
    {itemFuel fuel : Nat}
    (enoughItem : (Outline.tokensOfAll (written.map (Item.outline hand))).length ≤ itemFuel)
    (enough : (Outline.tokensOfAll (written.map (Item.outline hand))).length < fuel) :
    Reads (items itemFuel fuel) (Outline.tokensOfAll (written.map (Item.outline hand))) []
      (fun found => found.map Item.bare = written.map Item.bare) := by
  induction written generalizing fuel with
  | nil =>
    cases fuel with
    | zero => cases enough
    | succ fuel =>
      refine .bind (peek_reads _) ?_
      rintro _ rfl
      exact .pure rfl
  | cons item others ih =>
    obtain ⟨here, behind⟩ := List.forall_mem_cons.mp proper
    rw [List.map_cons, Outline.tokensOfAll, List.length_append] at enoughItem enough
    rw [List.map_cons, Outline.tokensOfAll]
    obtain ⟨tokens, starts⟩ :
        ∃ tokens, (item.outline hand).tokens = .keyword (itemKeyword item) :: tokens := by
      have head := item_tokens hand item []
      rw [List.append_nil] at head
      exact List.head?_eq_some_iff.mp head
    have positive := congrArg List.length starts
    rw [List.length_cons] at positive
    have apart : (Outline.tokensOfAll (others.map (Item.outline hand))).head? ≠ some .indent := by
      cases others with
      | nil => exact nofun
      | cons other more =>
        rw [List.map_cons, Outline.tokensOfAll, item_tokens]
        exact nofun
    cases fuel with
    | zero => cases enough
    | succ fuel =>
      have rest := ih behind (by omega) (show _ < fuel by omega)
      refine .bind (peek_reads _) ?_
      rintro _ rfl
      rw [item_tokens]
      cases item with
      | component decl =>
        refine (component_reads (by rw [Item.outline] at enoughItem; omega) apart).bind
          fun found same => ?_
        refine rest.bind fun more sameMore => .pure ?_
        rw [List.map_cons, List.map_cons, sameMore, Item.bare, Item.bare, same]
      | event decl =>
        have present : ∀ role ∈ decl.roles, role.components ≠ [] :=
          fun role inside => (here.roles role inside).present
        refine (event_reads present (by rw [Item.outline] at enoughItem; omega) apart).bind
          fun found same => ?_
        refine rest.bind fun more sameMore => .pure ?_
        rw [List.map_cons, List.map_cons, sameMore, Item.bare, Item.bare, same]
      | system decl =>
        refine (system_reads hand here (by rw [Item.outline] at enoughItem; omega) _).bind
          fun found same => ?_
        refine rest.bind fun more sameMore => .pure ?_
        rw [List.map_cons, List.map_cons, sameMore, Item.bare, Item.bare, same]

theorem tree_reads (hand : Hand) {written : Tree} (proper : ∀ item ∈ written.items, item.Proper)
    {lexemes : List Lexeme}
    (same : lexemes.map Lexeme.token = Outline.tokensOfAll (written.items.map (Item.outline hand))) :
    ∃ found, tree lexemes = .ok found ∧ found.bare = written.bare := by
  have length := congrArg List.length same
  rw [List.length_map] at length
  have enough : (Outline.tokensOfAll (written.items.map (Item.outline hand))).length <
      lexemes.length + 2 := by omega
  obtain ⟨found, rest, read, -, bared⟩ :=
    items_read hand proper (Nat.le_of_lt enough) enough ⟨lexemes, 0⟩ same
  refine ⟨⟨found⟩, ?_, congrArg Tree.mk bared⟩
  unfold tree
  dsimp only
  rw [read]
  rfl

end Grammar

/-- The round trip: whatever source is parsed, every fair copy of what it says is parsed as the same
script, apart from the places of its parts. -/
theorem parse_write (source : String) (tree : Tree) (hand : Hand) (parsed : parse source = .ok tree) :
    ∃ again, parse (tree.write hand) = .ok again ∧ again.bare = tree.bare := by
  have proper := parse_proper parsed
  obtain ⟨lexemes, lexed, same⟩ := tree.lexes_write hand proper
  obtain ⟨again, read, bared⟩ := Grammar.tree_reads hand proper same
  refine ⟨again, ?_, bared⟩
  unfold parse
  rw [lexed]
  dsimp only
  rw [read]

def fadeScript : String :=
  "component Lamp\n\tNumber glow\nevent Dim(lamp<Lamp>)\n" ++
  "system Fade(lamp<Lamp>) event Dim(lamp<Lamp>)\n\tif lamp.Lamp.glow < -1.5\n\t\temit Dim(lamp)\n" ++
  "\telse if not (2 == 1)\n\t\tVector3 at = (1, 2, 3)\n"

theorem fadeScript_again : ∃ tree again, ∃ hand : Hand, hand.chains = true ∧
    parse fadeScript = .ok tree ∧ tree.items.length = 3 ∧
    parse (tree.write hand) = .ok again ∧ again.bare = tree.bare := by
  have parsed : ((parse fadeScript).map (fun tree => tree.items.length)).toOption = some 3 := by
    decide +kernel
  obtain ⟨hand, chains⟩ := exists_hand true
  cases outcome : parse fadeScript with
  | error fault =>
    rw [outcome] at parsed
    cases parsed
  | ok tree =>
    rw [outcome] at parsed
    obtain ⟨again, reparsed, same⟩ := parse_write fadeScript tree hand outcome
    exact ⟨tree, again, hand, chains, rfl, Option.some.inj parsed, reparsed, same⟩

end Stagecraft.Script
