import Stagecraft.Proofs.Script.ReadingBodies
import Stagecraft.Proofs.Script.Seams

/-!
Echoes: the grammar finds the same once more where its tokens stand elsewhere, where there is more fuel, and
where another item comes behind. What a parser takes for the end of the tokens, it takes the start of an item
for as well.
-/

namespace Stagecraft.Script

open Text (Span)

/-- The tokens that a script can go on with where it could have ended. -/
def resuming : List Token := [.newline, .keyword .component, .keyword .event, .keyword .system]

namespace Grammar

variable {tail : List Token} {α β γ δ : Type}

/-- What `parser` finds here, `other` finds where these tokens go on with `tail`, apart from what `bare` takes
away. At least `cost` lexemes are taken for it. -/
structure EchoesAt (tail : List Token) (cost : Nat) (bare : α → γ) (feed : Feed) (parser other : Parser α) :
    Prop where
  takes : ∀ {found after}, parser feed = .ok (found, after) →
    after.left.length + cost ≤ feed.left.length
  reads : ∀ {found after}, parser feed = .ok (found, after) →
    Reads other (feed.tokens ++ tail) (after.tokens ++ tail) (fun same => bare found = bare same)

def Echoes (tail : List Token) (cost : Nat) (bare : α → γ) (parser other : Parser α) : Prop :=
  ∀ feed, EchoesAt tail cost bare feed parser other

def anything (_ : α) : Unit := ()

/-- By the fuel of two parsers, the first of which has no more than the other. -/
@[elab_as_elim]
theorem fuel_induction {motive : (fuel more : Nat) → fuel ≤ more → Prop}
    (spent : ∀ more, motive 0 more (Nat.zero_le more))
    (more : ∀ fuel more fewer, motive fuel more fewer → motive (fuel + 1) (more + 1) (Nat.succ_le_succ fewer)) :
    ∀ fuel more enough, motive fuel more enough
  | 0, others, _ => spent others
  | fuel + 1, 0, enough => absurd enough (Nat.not_succ_le_zero fuel)
  | fuel + 1, others + 1, enough =>
    have fewer := Nat.le_of_succ_le_succ enough
    more fuel others fewer (fuel_induction spent more fuel others fewer)

/-! ### Rules -/

section Rules

variable {cost : Nat} {bare : α → γ} {bareNext : β → δ} {feed : Feed} {parser other : Parser α}
  {next nextOther : α → Parser β}

theorem EchoesAt.bind (first : EchoesAt tail cost bare feed parser other)
    (second : ∀ found same, bare found = bare same →
      Echoes tail 0 bareNext (next found) (nextOther same)) :
    EchoesAt tail cost bareNext feed (parser >>= next) (other >>= nextOther) := by
  constructor
  · intro found after succeeded
    obtain ⟨part, between, ran, succeeded⟩ := chain_ok succeeded
    have before := first.takes ran
    have behind := (second part part rfl between).takes succeeded
    omega
  · intro found after succeeded
    obtain ⟨part, between, ran, succeeded⟩ := chain_ok succeeded
    exact (first.reads ran).bind fun same alike => (second part same alike between).reads succeeded

theorem Echoes.bind (first : Echoes tail cost bare parser other)
    (second : ∀ found same, bare found = bare same →
      Echoes tail 0 bareNext (next found) (nextOther same)) :
    Echoes tail cost bareNext (parser >>= next) (other >>= nextOther) :=
  fun feed => (first feed).bind second

theorem Echoes.pure {found same : α} (alike : bare found = bare same) :
    Echoes tail 0 bare (pure found) (pure same) := by
  intro feed
  constructor
  · rintro _ _ ⟨⟩
    exact Nat.le_refl _
  · rintro _ _ ⟨⟩
    exact .pure alike

theorem Echoes.ite {condition conditionOther : Prop} [Decidable condition] [Decidable conditionOther]
    {yes no yesOther noOther : Parser α} (same : condition ↔ conditionOther)
    (first : condition → Echoes tail cost bare yes yesOther)
    (second : ¬condition → Echoes tail cost bare no noOther) :
    Echoes tail cost bare (if condition then yes else no)
      (if conditionOther then yesOther else noOther) := by
  by_cases holds : condition
  · rw [if_pos holds, if_pos (same.mp holds)]
    exact first holds
  · rw [if_neg holds, if_neg (mt same.mpr holds)]
    exact second holds

theorem refuse_echoes {complaint : Complaint} : Echoes tail cost bare (refuse complaint) other :=
  fun _ => ⟨nofun, nofun⟩

theorem refuseAt_echoes {complaint : Complaint} {span : Span} :
    Echoes tail cost bare (refuseAt complaint span) other :=
  fun _ => ⟨nofun, nofun⟩

end Rules

/-! ### Single steps -/

theorem lastStop_echoes : Echoes tail 0 anything lastStop lastStop := by
  intro feed
  constructor
  · rintro _ _ ⟨⟩
    exact Nat.le_refl _
  · rintro _ _ ⟨⟩
    exact (lastStop_reads _).mono fun _ _ => rfl

theorem expect_echoes {token : Token} {what : String} {cost : Nat} (least : cost ≤ 1) :
    Echoes tail cost anything (expect token what) (expect token what) := by
  rintro ⟨left, stop⟩
  have found {span : Span} {after : Feed} (succeeded : expect token what ⟨left, stop⟩ = .ok (span, after)) :
      left.map Lexeme.token = token :: after.tokens := by
    unfold expect at succeeded
    dsimp only at succeeded
    split at succeeded
    · next lexeme rest =>
      split at succeeded
      · next same =>
        cases succeeded
        exact congrArg (· :: _) same
      · cases succeeded
    · cases succeeded
  constructor
  · intro span after succeeded
    have lengths := congrArg List.length (found succeeded)
    rw [List.length_map, List.length_cons, Feed.tokens, List.length_map] at lengths
    dsimp only
    omega
  · intro span after succeeded
    have tokens : (⟨left, stop⟩ : Feed).tokens = token :: after.tokens := found succeeded
    rw [tokens]
    exact (expect_reads token what _).mono fun _ _ => rfl

theorem endLine_echoes : Echoes tail 0 anything endLine endLine :=
  .bind (expect_echoes (Nat.zero_le 1)) fun _ _ _ => .pure rfl

theorem expectIdent_echoes {what : String} :
    Echoes tail 0 Prod.fst (expectIdent what) (expectIdent what) := by
  rintro ⟨left, stop⟩
  constructor
  · intro found after succeeded
    unfold expectIdent at succeeded
    dsimp only at succeeded
    split at succeeded
    · cases succeeded
      exact Nat.le_succ _
    · cases succeeded
  · intro found after succeeded
    unfold expectIdent at succeeded
    dsimp only at succeeded
    split at succeeded
    · next name span rest =>
      cases succeeded
      exact (expectIdent_reads name what _).mono fun _ same => same.symm
    · cases succeeded

theorem advance_echoes {feed : Feed} {token : Token} (here : feed.tokens.head? = some token) :
    EchoesAt tail 0 anything feed advance advance := by
  obtain ⟨left, stop⟩ := feed
  cases left with
  | nil => cases here
  | cons lexeme rest =>
    constructor
    · rintro _ _ ⟨⟩
      exact Nat.le_succ _
    · rintro _ _ ⟨⟩
      exact (advance_reads _ _).mono fun _ _ => rfl

section Steps

variable (resumes : ∀ token ∈ tail.head?, token ∈ resuming)
include resumes

/-- What comes next decides, and the end of the tokens decides as the start of an item does. -/
theorem EchoesAt.look {cost : Nat} {bare : α → γ} {feed : Feed} {next nextOther : Option Token → Parser α}
    (here : ∀ token, feed.tokens.head? = some token →
      EchoesAt tail cost bare feed (next (some token)) (nextOther (some token)))
    (ended : ∀ other, (∀ token ∈ other, token ∈ resuming) →
      EchoesAt tail cost bare feed (next none) (nextOther other)) :
    EchoesAt tail cost bare feed (peek >>= next) (peek >>= nextOther) := by
  have both : EchoesAt tail cost bare feed (next feed.tokens.head?)
      (nextOther (feed.tokens ++ tail).head?) := by
    cases tokens : feed.tokens with
    | nil => exact ended _ resumes
    | cons token rest => exact here token (by rw [tokens]; rfl)
  have first : feed.tokens.head? = feed.left.head?.map Lexeme.token := List.head?_map
  constructor
  · intro found after succeeded
    obtain ⟨_, _, ⟨⟩, succeeded⟩ := chain_ok succeeded
    exact both.takes (first ▸ succeeded)
  · intro found after succeeded
    obtain ⟨_, _, ⟨⟩, succeeded⟩ := chain_ok succeeded
    refine (peek_reads _).bind ?_
    rintro _ rfl
    exact both.reads (first ▸ succeeded)

theorem eat_echoes {token : Token} (other : token ∉ resuming) :
    Echoes tail 0 id (eat token) (eat token) := by
  intro feed
  refine .look resumes (fun next here => ?_) (fun seen resumed => ?_)
  · by_cases same : some next = some token
    · rw [if_pos same]
      exact (advance_echoes here).bind fun _ _ _ => .pure rfl
    · rw [if_neg same]
      exact Echoes.pure rfl feed
  · have apart : seen ≠ some token := by
      rintro rfl
      exact other (resumed token rfl)
    rw [if_neg nofun, if_neg apart]
    exact Echoes.pure rfl feed

theorem whenEat_echoes {bare : α → γ} {token : Token} {yes no yesOther noOther : Parser α}
    (other : token ∉ resuming) (first : Echoes tail 0 bare yes yesOther)
    (second : Echoes tail 0 bare no noOther) :
    Echoes tail 0 bare (eat token >>= fun there => if there = true then yes else no)
      (eat token >>= fun there => if there = true then yesOther else noOther) := by
  refine .bind (eat_echoes resumes other) ?_
  rintro there _ rfl
  exact .ite Iff.rfl (fun _ => first) (fun _ => second)

theorem whenNext_echoes {bare : α → γ} {token : Token} {yes no yesOther noOther : Parser α}
    (other : token ∉ resuming) {feed : Feed}
    (first : feed.tokens.head? = some token → EchoesAt tail 0 bare feed yes yesOther)
    (second : EchoesAt tail 0 bare feed no noOther) :
    EchoesAt tail 0 bare feed (peek >>= fun next => if next = some token then yes else no)
      (peek >>= fun next => if next = some token then yesOther else noOther) := by
  refine .look resumes (fun next here => ?_) (fun seen resumed => ?_)
  · by_cases same : some next = some token
    · rw [if_pos same, if_pos same]
      exact first (here.trans same)
    · rw [if_neg same, if_neg same]
      exact second
  · have apart : seen ≠ some token := by
      rintro rfl
      exact other (resumed token rfl)
    rw [if_neg nofun, if_neg apart]
    exact second

/-! ### Repetitions -/

theorem commaSeparated_echoes {bare : α → γ} {parser other : Parser α}
    (echoes : Echoes tail 0 bare parser other) {fuel more : Nat} (enough : fuel ≤ more) :
    Echoes tail 0 (List.map bare) (commaSeparated parser fuel) (commaSeparated other more) := by
  induction fuel, more, enough using fuel_induction with
  | spent more => exact refuse_echoes
  | more fuel more fewer ih =>
    refine .bind echoes fun first same alike => whenEat_echoes resumes (by decide) ?_ ?_
    · refine .bind ih fun others sames likes => .pure ?_
      rw [List.map_cons, List.map_cons, alike, likes]
    · exact .pure (congrArg ([·]) alike)

theorem untilDedent_echoes {bare : α → γ} {parser other : Parser α}
    (echoes : Echoes tail 0 bare parser other) {fuel more : Nat} (enough : fuel ≤ more) :
    Echoes tail 0 (List.map bare) (untilDedent parser fuel) (untilDedent other more) := by
  induction fuel, more, enough using fuel_induction with
  | spent more => exact refuse_echoes
  | more fuel more fewer ih =>
    refine whenEat_echoes resumes (by decide) (.pure rfl) ?_
    refine .bind echoes fun first same alike => ?_
    refine .bind ih fun others sames likes => .pure ?_
    rw [List.map_cons, List.map_cons, alike, likes]

/-! ### Declarations -/

theorem type_echoes {fuel more : Nat} (enough : fuel ≤ more) :
    Echoes tail 0 TypeExpr.bare (type fuel) (type more) := by
  induction fuel, more, enough using fuel_induction with
  | spent more => exact refuse_echoes
  | more fuel more fewer ih =>
    refine .bind expectIdent_echoes ?_
    rintro ⟨name, span⟩ ⟨_, spanOther⟩ (rfl : name = _)
    have build (args sames : List TypeExpr) (alike : args.map TypeExpr.bare = sames.map TypeExpr.bare) :
        Echoes tail 0 TypeExpr.bare (do return ⟨name, args, ⟨span.start, ← lastStop⟩⟩)
          (do return ⟨name, sames, ⟨spanOther.start, ← lastStop⟩⟩) := by
      refine .bind lastStop_echoes fun _ _ _ => .pure ?_
      rw [TypeExpr.bare, TypeExpr.bare, TypeExpr.bareAll_eq, TypeExpr.bareAll_eq, alike]
    refine whenEat_echoes resumes (by decide) ?_
      (.bind (.pure rfl) (by rintro _ _ same; exact build _ _ same))
    refine .bind (commaSeparated_echoes resumes ih fewer) fun args sames alike => ?_
    exact .bind (expect_echoes (Nat.zero_le 1)) fun _ _ _ => .bind (.pure alike) build

theorem fieldLine_echoes {fuel more : Nat} (enough : fuel ≤ more) :
    Echoes tail 0 Field.bare (fieldLine fuel) (fieldLine more) := by
  refine .bind (type_echoes resumes enough) fun found same alike => .bind expectIdent_echoes ?_
  rintro ⟨name, span⟩ ⟨_, spanOther⟩ (rfl : name = _)
  refine .bind endLine_echoes fun _ _ _ => .pure ?_
  rw [Field.bare, Field.bare, alike]

theorem component_echoes {fuel more : Nat} (enough : fuel ≤ more) :
    Echoes tail 1 ComponentDecl.bare (component fuel) (component more) := by
  refine .bind (expect_echoes (Nat.le_refl 1)) fun start startOther _ => .bind expectIdent_echoes ?_
  rintro ⟨name, span⟩ ⟨_, spanOther⟩ (rfl : name = _)
  refine whenEat_echoes resumes (by decide) ?_ (.bind endLine_echoes fun _ _ _ => ?_)
  · refine .bind (type_echoes resumes enough) fun found same alike => .bind lastStop_echoes fun _ _ _ =>
      .bind endLine_echoes fun _ _ _ => .pure ?_
    rw [ComponentDecl.bare, ComponentDecl.bare, ComponentBody.bare, ComponentBody.bare, alike]
  · have build (lines sames : List Field) (alike : lines.map Field.bare = sames.map Field.bare) :
        Echoes tail 0 ComponentDecl.bare (do return ⟨name, .fields lines, ⟨start.start, ← lastStop⟩⟩)
          (do return ⟨name, .fields sames, ⟨startOther.start, ← lastStop⟩⟩) := by
      refine .bind lastStop_echoes fun _ _ _ => .pure ?_
      rw [ComponentDecl.bare, ComponentDecl.bare, ComponentBody.bare, ComponentBody.bare, alike]
    refine whenEat_echoes resumes (by decide) ?_ (.bind (.pure rfl) (by rintro _ _ same; exact build _ _ same))
    exact .bind (untilDedent_echoes resumes (fieldLine_echoes resumes enough) enough) build

end Steps

/-! ### Events -/

theorem isEmpty_args {head same : TypeExpr} (alike : head.bare = same.bare) :
    head.args.isEmpty = true ↔ same.args.isEmpty = true := by
  have args := congrArg List.isEmpty (bare_eq alike).2
  rw [List.isEmpty_map, List.isEmpty_map] at args
  rw [args]

theorem roleOfType_echoes {head same : TypeExpr} (alike : head.bare = same.bare) :
    Echoes tail 0 RoleDecl.bare (roleOfType head) (roleOfType same) := by
  obtain ⟨name, args⟩ := bare_eq alike
  have plain (args : List TypeExpr) : ((args.map TypeExpr.bare).find? (fun arg => !arg.args.isEmpty)) =
      (args.find? (fun arg => !arg.args.isEmpty)).map TypeExpr.bare := by
    rw [List.find?_map]
    congr 2
    funext arg
    rw [Function.comp_apply, bare_args, List.isEmpty_map]
  have names (args : List TypeExpr) : (args.map TypeExpr.bare).map TypeExpr.name = args.map TypeExpr.name := by
    rw [List.map_map]
    exact List.map_congr_left fun arg _ => bare_name arg
  unfold roleOfType
  have found := (plain head.args).symm.trans (args ▸ plain same.args)
  cases nested : head.args.find? (fun arg => !arg.args.isEmpty) with
  | some arg => exact refuseAt_echoes
  | none =>
    rw [nested] at found
    rw [Option.map_eq_none_iff.mp found.symm]
    refine .pure ?_
    rw [RoleDecl.bare, RoleDecl.bare, name, ← names, args, names]

theorem parts_alike {parts others : EventParts} : parts.bare = others.bare ↔
    parts.roles.map RoleDecl.bare = others.roles.map RoleDecl.bare ∧
      parts.payload.map Field.bare = others.payload.map Field.bare := by
  rw [EventParts.bare, EventParts.bare, EventParts.mk.injEq]

theorem addRole_alike {parts others : EventParts} (alikeParts : parts.bare = others.bare)
    {role same : RoleDecl} (alike : role.bare = same.bare) :
    (parts.addRole role).bare = (others.addRole same).bare := by
  obtain ⟨roles, payloads⟩ := parts_alike.mp alikeParts
  refine parts_alike.mpr ⟨?_, payloads⟩
  rw [EventParts.addRole, EventParts.addRole, List.map_append, List.map_append, roles, List.map_singleton,
    List.map_singleton, alike]

theorem event_alike (name : String) {parts others : EventParts} (alike : parts.bare = others.bare)
    {span spanOther : Span} : (⟨name, parts.roles, parts.payload, span⟩ : EventDecl).bare =
      (⟨name, others.roles, others.payload, spanOther⟩ : EventDecl).bare := by
  obtain ⟨roles, payloads⟩ := parts_alike.mp alike
  rw [EventDecl.bare, EventDecl.bare, roles, payloads]

theorem payload_echoes {head same : TypeExpr} (alike : head.bare = same.bare) {parts others : EventParts}
    (alikeParts : parts.bare = others.bare) :
    Echoes tail 0 EventParts.bare (payload head parts) (payload same others) := by
  obtain ⟨roles, payloads⟩ := parts_alike.mp alikeParts
  have present := congrArg Option.isSome payloads
  rw [Option.isSome_map, Option.isSome_map] at present
  refine .ite (by rw [present]) (fun _ => refuseAt_echoes) fun _ => .bind expectIdent_echoes ?_
  rintro ⟨name, span⟩ ⟨_, spanOther⟩ (rfl : name = _)
  refine .pure (parts_alike.mpr ⟨roles, ?_⟩)
  rw [Option.map_some, Option.map_some, Field.bare, Field.bare, alike]

theorem role_echoes {head same : TypeExpr} (alike : head.bare = same.bare) {parts others : EventParts}
    (alikeParts : parts.bare = others.bare) :
    Echoes tail 0 EventParts.bare (do return parts.addRole (← roleOfType head))
      (do return others.addRole (← roleOfType same)) :=
  .bind (roleOfType_echoes alike) fun _ _ alike => .pure (addRole_alike alikeParts alike)

section Events

variable (resumes : ∀ token ∈ tail.head?, token ∈ resuming)
include resumes

theorem atIdent_echoes : Echoes tail 0 id atIdent atIdent := by
  intro feed
  refine .look resumes (fun next _ => ?_) (fun seen resumed => ?_)
  · split <;> exact Echoes.pure rfl feed
  · change EchoesAt tail 0 id feed (pure false) _
    split
    · next name => exact absurd (resumed _ rfl) (by simp [resuming])
    · exact Echoes.pure rfl feed

theorem bareComponents_echoes {fuel more : Nat} (enough : fuel ≤ more) :
    Echoes tail 0 id (bareComponents fuel) (bareComponents more) := by
  induction fuel, more, enough using fuel_induction with
  | spent more => exact refuse_echoes
  | more fuel more fewer ih =>
    refine whenEat_echoes resumes (by decide) (.bind expectIdent_echoes ?_) (.pure rfl)
    rintro ⟨name, span⟩ ⟨_, spanOther⟩ (rfl : name = _)
    refine .bind ih ?_
    rintro others _ rfl
    exact .pure rfl

theorem eventLine_echoes {fuel more : Nat} (enough : fuel ≤ more) {parts others : EventParts}
    (alikeParts : parts.bare = others.bare) :
    Echoes tail 0 EventParts.bare (eventLine fuel parts) (eventLine more others) := by
  refine .bind (type_echoes resumes enough) fun head same alike => .bind (atIdent_echoes resumes) ?_
  rintro named _ rfl
  refine .ite Iff.rfl (fun _ => payload_echoes alike alikeParts) fun _ => ?_
  refine .ite (isEmpty_args alike) (fun _ => ?_) (fun _ => role_echoes alike alikeParts)
  refine .bind (bareComponents_echoes resumes enough) ?_
  rintro components _ (rfl : components = _)
  refine .bind lastStop_echoes fun _ _ _ => .pure (addRole_alike alikeParts ?_)
  rw [RoleDecl.bare, RoleDecl.bare, (bare_eq alike).1]

theorem eventLines_echoes {lineFuel lineMore fuel more : Nat} (lines : lineFuel ≤ lineMore)
    (enough : fuel ≤ more) {parts others : EventParts} (alikeParts : parts.bare = others.bare) :
    Echoes tail 0 EventParts.bare (eventLines lineFuel fuel parts) (eventLines lineMore more others) := by
  induction fuel, more, enough using fuel_induction generalizing parts others with
  | spent more => exact refuse_echoes
  | more fuel more fewer ih =>
    refine whenEat_echoes resumes (by decide) (.pure alikeParts) ?_
    exact .bind (eventLine_echoes resumes lines alikeParts) fun _ _ alike =>
      .bind endLine_echoes fun _ _ _ => ih alike

theorem headerPart_echoes {fuel more : Nat} (enough : fuel ≤ more) {parts others : EventParts}
    (alikeParts : parts.bare = others.bare) :
    Echoes tail 0 EventParts.bare (headerPart fuel parts) (headerPart more others) := by
  refine .bind (type_echoes resumes enough) fun head same alike => .bind (atIdent_echoes resumes) ?_
  rintro named _ rfl
  refine .ite Iff.rfl (fun _ => payload_echoes alike alikeParts) fun _ => ?_
  exact .ite (isEmpty_args alike) (fun _ => refuse_echoes) (fun _ => role_echoes alike alikeParts)

theorem headerParts_echoes {partFuel partMore fuel more : Nat} (part : partFuel ≤ partMore)
    (enough : fuel ≤ more) {parts others : EventParts} (alikeParts : parts.bare = others.bare) :
    Echoes tail 0 EventParts.bare (headerParts partFuel fuel parts) (headerParts partMore more others) := by
  induction fuel, more, enough using fuel_induction generalizing parts others with
  | spent more => exact refuse_echoes
  | more fuel more fewer ih =>
    exact .bind (headerPart_echoes resumes part alikeParts) fun _ _ alike =>
      whenEat_echoes resumes (by decide) (ih alike) (.pure alike)

theorem eventHeader_echoes {fuel more : Nat} (enough : fuel ≤ more) (name : String) :
    Echoes tail 0 EventDecl.bare (eventHeader fuel name) (eventHeader more name) := by
  refine .bind (expect_echoes (Nat.zero_le 1)) fun start startOther _ => ?_
  have build (parts others : EventParts) (alike : parts.bare = others.bare) :
      Echoes tail 0 EventDecl.bare (do return ⟨name, parts.roles, parts.payload, ⟨start.start, ← lastStop⟩⟩)
        (do return ⟨name, others.roles, others.payload, ⟨startOther.start, ← lastStop⟩⟩) :=
    .bind lastStop_echoes fun _ _ _ => .pure (event_alike name alike)
  refine whenEat_echoes resumes (by decide) (.bind (.pure rfl) build) ?_
  exact .bind (headerParts_echoes resumes enough enough rfl) fun parts others alike =>
    .bind (expect_echoes (Nat.zero_le 1)) fun _ _ _ => .bind (.pure alike) build

theorem event_echoes {fuel more : Nat} (enough : fuel ≤ more) :
    Echoes tail 1 EventDecl.bare (event fuel) (event more) := by
  refine .bind (expect_echoes (Nat.le_refl 1)) fun start startOther _ => .bind expectIdent_echoes ?_
  rintro ⟨name, span⟩ ⟨_, spanOther⟩ (rfl : name = _)
  have build (parts others : EventParts) (alike : parts.bare = others.bare) :
      Echoes tail 0 EventDecl.bare (do return ⟨name, parts.roles, parts.payload, ⟨start.start, ← lastStop⟩⟩)
        (do return ⟨name, others.roles, others.payload, ⟨startOther.start, ← lastStop⟩⟩) :=
    .bind lastStop_echoes fun _ _ _ => .pure (event_alike name alike)
  intro feed
  refine whenNext_echoes resumes (by decide) (fun _ => ?_) ?_
  · refine (eventHeader_echoes resumes enough name feed).bind fun decl same alike =>
      .bind endLine_echoes fun _ _ _ => .pure ?_
    exact alike
  · refine Echoes.bind endLine_echoes (fun _ _ _ => whenEat_echoes resumes (by decide) ?_ ?_) feed
    · exact .bind (eventLines_echoes resumes enough enough rfl) build
    · exact .bind (.pure rfl) build

end Events

/-! ### Expressions -/

theorem EchoesAt.behind {bare : α → γ} {token : Token} {span : Span} {rest : List Lexeme} {stop : Nat}
    {parser other : Parser α} (inner : Parser α) (innerOther : Span → Parser α)
    (echoes : ∀ spanOther, Echoes tail 0 bare inner (innerOther spanOther))
    (goes : parser ⟨⟨token, span⟩ :: rest, stop⟩ = inner ⟨rest, span.stop⟩)
    (goesOther : ∀ spanOther left stop,
      other ⟨⟨token, spanOther⟩ :: left, stop⟩ = innerOther spanOther ⟨left, spanOther.stop⟩) :
    EchoesAt tail 0 bare ⟨⟨token, span⟩ :: rest, stop⟩ parser other := by
  constructor
  · intro found after succeeded
    rw [goes] at succeeded
    exact Nat.le_succ_of_le ((echoes span _).takes succeeded)
  · intro found after succeeded feed same
    rw [goes] at succeeded
    obtain ⟨spanOther, left, stopOther, rfl, behind⟩ := Feed.tokens_cons same
    rw [goesOther]
    exact (echoes spanOther _).reads succeeded ⟨left, spanOther.stop⟩ behind

theorem plain_of_resuming : ∀ token ∈ resuming, binaryOp? token = none ∧ unaryOp? token = none := by
  decide

section Shapes

variable {expr operand : Parser Expr} {token : Token} {span : Span} {rest : List Lexeme} {stop fuel : Nat}

theorem primary_of_literal {value : Value} (literal : literal? token = some value) :
    primary expr fuel ⟨⟨token, span⟩ :: rest, stop⟩ = .ok (.literal value span, ⟨rest, span.stop⟩) := by
  unfold primary
  dsimp only
  rw [literal]

def named (expr : Parser Expr) (fuel : Nat) (name : String) (span : Span) : Parser Expr := do
  if ← eatSymbol .opening then
    let args ← arguments expr fuel
    return .call name args ⟨span.start, ← lastStop⟩
  else return .var name span

theorem primary_ok {found : Expr × Feed} (literal : literal? token = none)
    (succeeded : primary expr fuel ⟨⟨token, span⟩ :: rest, stop⟩ = .ok found) :
    (∃ name, token = .ident name) ∨ token = .symbol .opening := by
  unfold primary at succeeded
  dsimp only at succeeded
  rw [literal] at succeeded
  dsimp only at succeeded
  split at succeeded
  · next name => exact .inl ⟨name, rfl⟩
  · exact .inr rfl
  · cases succeeded

theorem prefixed_plain {feed : Feed} (plain : ∀ token ∈ feed.tokens.head?, unaryOp? token = none) :
    prefixed operand (fuel + 1) feed = operand feed := by
  obtain ⟨left, stop⟩ := feed
  unfold prefixed
  cases left with
  | nil => rfl
  | cons lexeme rest =>
    dsimp only
    rw [plain lexeme.token rfl]

theorem prefixed_op {op : UnaryOp} (known : unaryOp? token = some op) :
    prefixed operand (fuel + 1) ⟨⟨token, span⟩ :: rest, stop⟩ =
      (do
        let expr ← prefixed operand fuel
        return .unary op expr ⟨span.start, expr.span.stop⟩ : Parser Expr) ⟨rest, span.stop⟩ := by
  rw [prefixed]
  dsimp only
  rw [known]
  rfl

end Shapes

section Expressions

variable (resumes : ∀ token ∈ tail.head?, token ∈ resuming)
include resumes

theorem fields_echoes {fuel more : Nat} (enough : fuel ≤ more) {base same : Expr}
    (alike : base.bare = same.bare) : Echoes tail 0 Expr.bare (fields fuel base) (fields more same) := by
  induction fuel, more, enough using fuel_induction generalizing base same with
  | spent more => exact refuse_echoes
  | more fuel more fewer ih =>
    refine whenEat_echoes resumes (by decide) (.bind expectIdent_echoes ?_) (.pure alike)
    rintro ⟨name, span⟩ ⟨_, spanOther⟩ (rfl : name = _)
    refine ih ?_
    rw [Expr.bare, Expr.bare, alike]

variable {expr other : Parser Expr} (echoes : Echoes tail 0 Expr.bare expr other)
include echoes

theorem arguments_echoes {fuel more : Nat} (enough : fuel ≤ more) :
    Echoes tail 0 (List.map Expr.bare) (arguments expr fuel) (arguments other more) := by
  refine whenEat_echoes resumes (by decide) (.pure rfl) ?_
  exact .bind (commaSeparated_echoes resumes echoes enough) fun _ _ alike =>
    .bind (expect_echoes (Nat.zero_le 1)) fun _ _ _ => .pure alike

theorem parenthesized_echoes (start startOther : Nat) :
    Echoes tail 0 Expr.bare (parenthesized expr start) (parenthesized other startOther) := by
  refine .bind echoes fun x xOther alikeX => whenEat_echoes resumes (by decide) ?_ ?_
  · refine .bind echoes fun y yOther alikeY => .bind (expect_echoes (Nat.zero_le 1)) fun _ _ _ => ?_
    refine .bind echoes fun z zOther alikeZ => .bind (expect_echoes (Nat.zero_le 1)) fun _ _ _ => ?_
    refine .bind lastStop_echoes fun _ _ _ => .pure ?_
    rw [bare_ofComponents, bare_ofComponents, alikeX, alikeY, alikeZ]
  · exact .bind (expect_echoes (Nat.zero_le 1)) fun _ _ _ => .pure alikeX

theorem primary_echoes {fuel more : Nat} (enough : fuel ≤ more) :
    Echoes tail 0 Expr.bare (primary expr fuel) (primary other more) := by
  rintro ⟨left, stop⟩
  cases left with
  | nil => exact ⟨nofun, nofun⟩
  | cons lexeme rest =>
    obtain ⟨token, span⟩ := lexeme
    cases literal : literal? token with
    | some value =>
      exact .behind (pure (.literal value span)) (fun span => pure (.literal value span)) (fun _ => .pure rfl)
        (primary_of_literal literal) fun _ _ _ => primary_of_literal literal
    | none =>
      by_cases starts : (∃ name, token = .ident name) ∨ token = .symbol .opening
      · rcases starts with ⟨name, rfl⟩ | rfl
        · refine .behind (named expr fuel name span) (named other more name) (fun spanOther => ?_) rfl
            fun _ _ _ => rfl
          refine whenEat_echoes resumes (by decide) ?_ (.pure rfl)
          refine .bind (arguments_echoes resumes echoes enough) fun args sames alike => ?_
          refine .bind lastStop_echoes fun _ _ _ => .pure ?_
          rw [Expr.bare, Expr.bare, Expr.bareAll_eq, Expr.bareAll_eq, alike]
        · exact .behind (parenthesized expr span.start) (fun span => parenthesized other span.start)
            (fun _ => parenthesized_echoes resumes echoes _ _) rfl fun _ _ _ => rfl
      · exact ⟨fun succeeded => absurd (primary_ok literal succeeded) starts,
          fun succeeded => absurd (primary_ok literal succeeded) starts⟩

theorem prefixed_echoes {fuel more : Nat} (enough : fuel ≤ more) :
    Echoes tail 0 Expr.bare (prefixed expr fuel) (prefixed other more) := by
  induction fuel, more, enough using fuel_induction with
  | spent more => exact refuse_echoes
  | more fuel more fewer ih =>
    intro feed
    -- Where no operator comes first here, none does there: `tail` starts with none either.
    have plain (none : ∀ token ∈ feed.tokens.head?, unaryOp? token = none) :
        EchoesAt tail 0 Expr.bare feed (prefixed expr (fuel + 1)) (prefixed other (more + 1)) := by
      constructor
      · intro found after succeeded
        rw [prefixed_plain none] at succeeded
        exact (echoes feed).takes succeeded
      · intro found after succeeded feedOther same
        rw [prefixed_plain none] at succeeded
        rw [prefixed_plain]
        · exact (echoes feed).reads succeeded feedOther same
        · rw [same]
          cases tokens : feed.tokens with
          | nil => exact fun token next => (plain_of_resuming token (resumes token next)).2
          | cons token rest => exact fun _ next => none _ (tokens ▸ next)
    obtain ⟨left, stop⟩ := feed
    cases left with
    | nil => exact plain nofun
    | cons lexeme rest =>
      obtain ⟨token, span⟩ := lexeme
      cases op : unaryOp? token with
      | none =>
        apply plain
        rintro _ ⟨⟩
        exact op
      | some op =>
        refine .behind _ _ (fun spanOther => ?_) (prefixed_op op) fun _ _ _ => prefixed_op op
        refine .bind ih fun found same alike => .pure ?_
        rw [Expr.bare, Expr.bare, alike]

theorem chain_echoes (rank : Nat) {fuel more : Nat} (enough : fuel ≤ more) {left same : Expr}
    (alike : left.bare = same.bare) :
    Echoes tail 0 Expr.bare (chain expr rank fuel left) (chain other rank more same) := by
  induction fuel, more, enough using fuel_induction generalizing left same with
  | spent more => exact refuse_echoes
  | more fuel more fewer ih =>
    intro feed
    refine .look resumes (fun next here => ?_) (fun seen resumed => ?_)
    · split
      · exact Echoes.pure alike feed
      · next op _ =>
        refine (advance_echoes here).bind fun _ _ _ => .bind echoes fun right rightOther alikeRight => ?_
        refine ih ?_
        rw [Expr.join, Expr.join, Expr.bare, Expr.bare, alike, alikeRight]
    · have none : seen.bind binaryOp? = none := by
        cases seen with
        | none => rfl
        | some token => exact (plain_of_resuming token (resumed token rfl)).1
      rw [none]
      exact Echoes.pure alike feed

theorem ladder_echoes {fuel more : Nat} (enough : fuel ≤ more) (ranks : List Nat) :
    Echoes tail 0 Expr.bare (ranks.foldl (fun operand rank => joined operand fuel rank) expr)
      (ranks.foldl (fun operand rank => joined operand more rank) other) := by
  induction ranks generalizing expr other with
  | nil => exact echoes
  | cons rank rest ih =>
    exact ih (.bind echoes fun left same alike => chain_echoes resumes echoes rank enough alike)

end Expressions

theorem expr_echoes (resumes : ∀ token ∈ tail.head?, token ∈ resuming) {fuel more : Nat}
    (enough : fuel ≤ more) : Echoes tail 0 Expr.bare (expr fuel) (expr more) := by
  induction fuel, more, enough using fuel_induction with
  | spent more => exact refuse_echoes
  | more fuel more fewer ih =>
    have enough := Nat.succ_le_succ fewer
    have atoms : Echoes tail 0 Expr.bare (atom fuel) (atom more) :=
      .bind (primary_echoes resumes ih fewer) fun _ _ alike => fields_echoes resumes enough alike
    -- The ranks of operators lie around the unary ones, the loosest one outermost.
    exact ladder_echoes resumes (prefixed_echoes resumes atoms enough) enough [5, 4, 3, 2, 1, 0]

/-! ### Statements -/

def startsDeclaration : List Token → Bool
  | first :: second :: _ =>
    isIdent first && (isIdent second || first == .ident "Optional" && second == .symbol .less)
  | _ => false

theorem atDeclaration_eq (feed : Feed) : atDeclaration feed = .ok (startsDeclaration feed.tokens, feed) := by
  obtain ⟨left, stop⟩ := feed
  unfold atDeclaration
  dsimp only [Feed.tokens]
  split
  · rfl
  · rfl
  · next names optional =>
    obtain _ | ⟨⟨first, firstSpan⟩, _ | ⟨⟨second, secondSpan⟩, rest⟩⟩ := left
    · rfl
    · rfl
    · have none : startsDeclaration (first :: second :: rest.map Lexeme.token) = false := by
        rw [startsDeclaration]
        cases ident : isIdent first with
        | false => rw [Bool.false_and]
        | true =>
          cases first with
          | ident name =>
            cases second with
            | ident => exact absurd rfl (names _ _ _ _ _)
            | symbol symbol =>
              by_cases bracket : Token.ident name = .ident "Optional" ∧ Token.symbol symbol = .symbol .less
              · obtain ⟨⟨⟩, ⟨⟩⟩ := bracket
                exact absurd rfl (optional _ _ _)
              · simpa [isIdent] using bracket
            | _ => simp [isIdent]
          | _ => cases ident
      rw [← none]
      rfl

section Statements

variable (resumes : ∀ token ∈ tail.head?, token ∈ resuming)
include resumes

theorem block_echoes {parser other : Parser Stmt} (echoes : Echoes tail 0 Stmt.bare parser other)
    {fuel more : Nat} (enough : fuel ≤ more) :
    Echoes tail 0 (List.map Stmt.bare) (block parser fuel) (block other more) :=
  .bind (expect_echoes (Nat.zero_le 1)) fun _ _ _ => untilDedent_echoes resumes echoes enough

theorem declaration_echoes {fuel more : Nat} (enough : fuel ≤ more) :
    Echoes tail 0 Stmt.bare (declaration fuel) (declaration more) := by
  refine .bind (type_echoes resumes enough) fun declared declaredOther alike => .bind expectIdent_echoes ?_
  rintro ⟨name, span⟩ ⟨_, spanOther⟩ (rfl : name = _)
  refine .bind (expect_echoes (Nat.zero_le 1)) fun _ _ _ => ?_
  refine .bind (expr_echoes resumes enough) fun value same alikeValue => .bind endLine_echoes fun _ _ _ => ?_
  refine .pure ?_
  rw [Stmt.bare, Stmt.bare, alike, alikeValue]

theorem emission_echoes {fuel more : Nat} (enough : fuel ≤ more) :
    Echoes tail 0 Stmt.bare (emission fuel) (emission more) := by
  refine .bind (expect_echoes (Nat.zero_le 1)) fun start startOther _ => .bind expectIdent_echoes ?_
  rintro ⟨name, span⟩ ⟨_, spanOther⟩ (rfl : name = _)
  refine .bind (expect_echoes (Nat.zero_le 1)) fun _ _ _ => ?_
  refine .bind (arguments_echoes resumes (expr_echoes resumes enough) enough) fun args sames alike => ?_
  refine .bind lastStop_echoes fun _ _ _ => .bind endLine_echoes fun _ _ _ => .pure ?_
  rw [Stmt.bare, Stmt.bare, Expr.bareAll_eq, Expr.bareAll_eq, alike]

theorem condition_echoes {keyword : Keyword} {what : String} {fuel more : Nat} (enough : fuel ≤ more) :
    Echoes tail 0 (fun found => found.1.bare) (condition keyword what fuel) (condition keyword what more) := by
  refine .bind (expect_echoes (Nat.zero_le 1)) fun start startOther _ => ?_
  exact .bind (expr_echoes resumes enough) fun value same alike => .bind endLine_echoes fun _ _ _ => .pure alike

theorem plainStmt_echoes {fuel more : Nat} (enough : fuel ≤ more) :
    Echoes tail 0 Stmt.bare (plainStmt fuel) (plainStmt more) := by
  refine .bind (expr_echoes resumes enough) fun value same alike feed => ?_
  refine whenNext_echoes resumes (by decide) (fun here => ?_) ?_
  · have places := (asPlace?_bare value).symm.trans ((congrArg Expr.asPlace? alike).trans (asPlace?_bare same))
    cases target : value.asPlace? with
    | none => exact refuseAt_echoes feed
    | some target =>
      rw [target] at places
      obtain ⟨targetOther, other, alikeTarget⟩ := Option.map_eq_some_iff.mp places.symm
      rw [other]
      refine (advance_echoes here).bind fun _ _ _ => ?_
      refine .bind (expr_echoes resumes enough) fun assigned assignedOther alikeAssigned => ?_
      refine .bind endLine_echoes fun _ _ _ => .pure ?_
      rw [Stmt.bare, Stmt.bare, alikeTarget, alikeAssigned]
  · exact Echoes.bind endLine_echoes (fun _ _ _ => .pure (by rw [Stmt.bare, Stmt.bare, alike])) feed

theorem startsDeclaration_append (tokens : List Token) :
    startsDeclaration (tokens ++ tail) = startsDeclaration tokens := by
  have apart : ∀ token ∈ resuming, isIdent token = false ∧ token ≠ .symbol .less := by decide
  match tokens, tail, resumes with
  | _, [], _ => rw [List.append_nil]
  | [], token :: rest, resumes =>
    obtain ⟨plain, -⟩ := apart token (resumes token rfl)
    cases rest with
    | nil => rfl
    | cons => rw [List.nil_append, startsDeclaration, plain, Bool.false_and]; rfl
  | [first], token :: rest, resumes =>
    obtain ⟨plain, bracket⟩ := apart token (resumes token rfl)
    rw [List.singleton_append, startsDeclaration, plain, beq_eq_false_iff_ne.mpr bracket, Bool.and_false,
      Bool.false_or, Bool.and_false]
    rfl
  | first :: second :: rest, token :: _, _ => rfl

theorem atDeclaration_echoes : Echoes tail 0 id atDeclaration atDeclaration := by
  intro feed
  constructor
  · intro found after succeeded
    rw [atDeclaration_eq] at succeeded
    cases succeeded
    exact Nat.le_refl _
  · intro found after succeeded feedOther same
    rw [atDeclaration_eq] at succeeded ⊢
    cases succeeded
    refine ⟨_, _, rfl, same, ?_⟩
    rw [same, startsDeclaration_append resumes]

theorem stmt_echoes {exprFuel exprMore : Nat} (exprs : exprFuel ≤ exprMore) {fuel more : Nat}
    (enough : fuel ≤ more) : Echoes tail 0 Stmt.bare (stmt exprFuel fuel) (stmt exprMore more) := by
  induction fuel, more, enough using fuel_induction with
  | spent more => exact refuse_echoes
  | more fuel more fewer inner =>
    have plain : Echoes tail 0 Stmt.bare
        (do if ← atDeclaration then declaration exprFuel else plainStmt exprFuel)
        (do if ← atDeclaration then declaration exprMore else plainStmt exprMore) := by
      refine .bind (atDeclaration_echoes resumes) ?_
      rintro there _ rfl
      exact .ite Iff.rfl (fun _ => declaration_echoes resumes exprs) fun _ => plainStmt_echoes resumes exprs
    intro feed
    refine .look resumes (fun next here => ?_) (fun seen resumed => ?_)
    · split
      · refine Echoes.bind (condition_echoes resumes exprs) ?_ feed
        rintro ⟨value, span⟩ ⟨same, spanOther⟩ (alike : value.bare = same.bare)
        refine .bind (block_echoes resumes inner exprs) fun yes yesOther alikeYes => ?_
        have build (no noOther : List Stmt) (alikeNo : no.map Stmt.bare = noOther.map Stmt.bare) :
            Echoes tail 0 Stmt.bare (pure (.branch value yes no span))
              (pure (.branch same yesOther noOther spanOther)) := by
          refine .pure ?_
          rw [Stmt.bare, Stmt.bare, Stmt.bareAll_eq, Stmt.bareAll_eq, Stmt.bareAll_eq, Stmt.bareAll_eq, alike,
            alikeYes, alikeNo]
        refine whenEat_echoes resumes (by decide) (fun feed => ?_) (.bind (.pure rfl) build)
        refine whenNext_echoes resumes (by decide) (fun _ => ?_) ?_
        · exact (inner feed).bind fun chained chainedOther alikeChained =>
            .bind (.pure (congrArg ([·]) alikeChained)) build
        · exact Echoes.bind endLine_echoes (fun _ _ _ => .bind (block_echoes resumes inner exprs) build) feed
      · refine Echoes.bind (condition_echoes resumes exprs) ?_ feed
        rintro ⟨value, span⟩ ⟨same, spanOther⟩ (alike : value.bare = same.bare)
        refine .bind (block_echoes resumes inner exprs) fun body bodyOther alikeBody => .pure ?_
        rw [Stmt.bare, Stmt.bare, Stmt.bareAll_eq, Stmt.bareAll_eq, alike, alikeBody]
      · exact emission_echoes resumes exprs feed
      · exact plain feed
    -- Where the tokens end here, an item may start there, and no statement starts as an item does.
    · cases seen with
      | none => exact plain feed
      | some token =>
        have := resumed token rfl
        simp only [resuming, List.mem_cons, List.not_mem_nil, or_false] at this
        rcases this with rfl | rfl | rfl | rfl <;> exact plain feed

/-! ### Systems -/

theorem param_echoes {fuel more : Nat} (enough : fuel ≤ more) :
    Echoes tail 0 RoleDecl.bare (param fuel) (param more) :=
  .bind (type_echoes resumes enough) fun _ _ alike =>
    .ite (isEmpty_args alike) (fun _ => refuseAt_echoes) fun _ => roleOfType_echoes alike

theorem system_echoes {fuel more : Nat} (enough : fuel ≤ more) :
    Echoes tail 1 SystemDecl.bare (system fuel) (system more) := by
  refine .bind (expect_echoes (Nat.le_refl 1)) fun start startOther _ => .bind expectIdent_echoes ?_
  rintro ⟨name, span⟩ ⟨_, spanOther⟩ (rfl : name = _)
  refine .bind (expect_echoes (Nat.zero_le 1)) fun _ _ _ => ?_
  extract_lets build buildOther
  have built (params sames : List RoleDecl) (alike : params.map RoleDecl.bare = sames.map RoleDecl.bare) :
      Echoes tail 0 SystemDecl.bare (build params) (buildOther sames) := by
    refine .bind (expect_echoes (Nat.zero_le 1)) fun _ _ _ => .bind expectIdent_echoes ?_
    rintro ⟨event, eventSpan⟩ ⟨_, eventSpanOther⟩ (rfl : event = _)
    refine .bind (eventHeader_echoes resumes enough event) fun listener listenerOther alikeListener => ?_
    refine .bind lastStop_echoes fun _ _ _ => .bind endLine_echoes fun _ _ _ => ?_
    refine .bind (block_echoes resumes (stmt_echoes resumes enough enough) enough)
      fun body bodyOther alikeBody => .pure ?_
    rw [SystemDecl.bare, SystemDecl.bare, alike, alikeListener, Stmt.bareAll_eq, Stmt.bareAll_eq, alikeBody]
  refine whenEat_echoes resumes (by decide) (.bind (.pure rfl) built) ?_
  exact .bind (commaSeparated_echoes resumes (param_echoes resumes enough) enough) fun _ _ alike =>
    .bind (expect_echoes (Nat.zero_le 1)) fun _ _ _ => .bind (.pure alike) built

end Statements

/-! ### Items -/

theorem items_resume {itemFuel fuel : Nat} {feed : Feed} {found : List Item × Feed}
    (succeeded : items itemFuel fuel feed = .ok found) : ∀ token ∈ feed.tokens.head?, token ∈ resuming := by
  cases fuel with
  | zero => cases succeeded
  | succ fuel =>
    intro token here
    obtain ⟨found, last⟩ := found
    obtain ⟨next, _, looked, succeeded⟩ := chain_ok succeeded
    cases looked
    have first : feed.left.head?.map Lexeme.token = some token := List.head?_map.symm.trans here
    rw [first] at succeeded
    cases token with
    | newline => decide
    | keyword word => cases word <;> first | decide | cases succeeded
    | _ => cases succeeded

def GoesOn (tail : List Token) (rest : List Item) (feed : Feed) (parser other : Parser (List Item)) : Prop :=
  ∀ found after, parser feed = .ok (found, after) →
    Reads other (feed.tokens ++ tail) [] (fun same => same.map Item.bare = found.map Item.bare ++ rest)

theorem GoesOn.look {rest : List Item} {token : Token} {feed : Feed} (here : feed.tokens.head? = some token)
    {next nextOther : Option Token → Parser (List Item)}
    (goes : GoesOn tail rest feed (next (some token)) (nextOther (some token))) :
    GoesOn tail rest feed (peek >>= next) (peek >>= nextOther) := by
  intro found after succeeded
  obtain ⟨_, _, looked, succeeded⟩ := chain_ok succeeded
  cases looked
  rw [show feed.left.head?.map Lexeme.token = some token from List.head?_map.symm.trans here] at succeeded
  refine (peek_reads _).bind ?_
  rintro _ rfl
  rw [List.head?_append, here, Option.some_or]
  exact goes found after succeeded

theorem item_goesOn {rest : List Item} {bare : α → γ} (wrap : α → Item)
    (wraps : ∀ found same, bare found = bare same → (wrap found).bare = (wrap same).bare)
    {item itemOther : Parser α} (echoes : Echoes tail 1 bare item itemOther)
    {parser other : Parser (List Item)} {feed : Feed}
    (others : ∀ after : Feed, after.left.length < feed.left.length → GoesOn tail rest after parser other) :
    GoesOn tail rest feed (do let decl ← item; let others ← parser; return wrap decl :: others)
      (do let decl ← itemOther; let others ← other; return wrap decl :: others) := by
  intro found after succeeded
  obtain ⟨decl, between, ran, succeeded⟩ := chain_ok succeeded
  obtain ⟨more, last, ranMore, done⟩ := chain_ok succeeded
  cases done
  refine ((echoes feed).reads ran).bind fun same alike => ?_
  refine (others between ((echoes feed).takes ran) more _ ranMore).bind fun sames likes => .pure ?_
  rw [List.map_cons, List.map_cons, List.cons_append, wraps decl same alike, likes]

/-- The items of a script are read again where others follow, if there is fuel for both. -/
theorem items_goOn {itemFuel itemMore : Nat} (enough : itemFuel ≤ itemMore) {least : Nat} {rest : List Item}
    (resumes : ∀ token ∈ tail.head?, token ∈ resuming)
    (follow : ∀ fuel, least ≤ fuel →
      Reads (items itemMore fuel) tail [] (fun same => same.map Item.bare = rest))
    {fuel more : Nat} {feed : Feed} (lasts : least + feed.left.length ≤ more) :
    GoesOn tail rest feed (items itemFuel fuel) (items itemMore more) := by
  -- On the fuel of the first parser. Every item takes a lexeme at least, so `lasts` holds behind it as well, and
  -- at the end there is still enough fuel for the items that follow.
  induction fuel generalizing more feed with
  | zero => nofun
  | succ fuel ih =>
    obtain ⟨left, stop⟩ := feed
    cases left with
    | nil =>
      intro found after succeeded
      cases succeeded
      exact follow more lasts
    | cons lexeme left =>
      obtain ⟨token, span⟩ := lexeme
      cases more with
      | zero => cases lasts
      | succ more =>
        have others (after : Feed) (shorter : after.left.length < left.length + 1) :
            GoesOn tail rest after (items itemFuel fuel) (items itemMore more) :=
          ih (by rw [List.length_cons] at lasts; omega)
        have here : (⟨⟨token, span⟩ :: left, stop⟩ : Feed).tokens.head? = some token := rfl
        refine .look here ?_
        split
        · next none => cases none
        · next same =>
          intro found after succeeded
          cases same
          obtain ⟨_, _, advanced, succeeded⟩ := chain_ok succeeded
          cases advanced
          exact (advance_reads _ _).bind fun _ _ => others _ (Nat.lt_succ_self _) _ _ succeeded
        · exact item_goesOn .component (fun _ _ alike => congrArg Item.component alike)
            (component_echoes resumes enough) others
        · exact item_goesOn .event (fun _ _ alike => congrArg Item.event alike)
            (event_echoes resumes enough) others
        · exact item_goesOn .system (fun _ _ alike => congrArg Item.system alike)
            (system_echoes resumes enough) others
        · exact nofun

theorem tree_join {lexemes others all : List Lexeme} {first second : Tree} (read : tree lexemes = .ok first)
    (readOther : tree others = .ok second)
    (tokens : all.map Lexeme.token = lexemes.map Lexeme.token ++ others.map Lexeme.token) :
    ∃ joint, tree all = .ok joint ∧ joint.bare.items = first.bare.items ++ second.bare.items := by
  obtain ⟨⟨found, after⟩, ran, done⟩ := bind_ok read
  cases done
  obtain ⟨⟨foundOther, afterOther⟩, ranOther, done⟩ := bind_ok readOther
  cases done
  have lengths := congrArg List.length tokens
  rw [List.length_append, List.length_map, List.length_map, List.length_map] at lengths
  have ending (fuel : Nat) (least : 1 ≤ fuel) :
      Reads (items (all.length + 2) fuel) [] [] (fun same => same.map Item.bare = []) := by
    obtain ⟨fuel, rfl⟩ := Nat.exists_eq_add_of_le' least
    refine (peek_reads _).bind ?_
    rintro _ rfl
    exact .pure rfl
  have follow (fuel : Nat) (least : 1 + others.length ≤ fuel) :
      Reads (items (all.length + 2) fuel) (others.map Lexeme.token) []
        (fun same => same.map Item.bare = foundOther.map Item.bare) := by
    have goes := items_goOn (by omega) (fun _ here => by cases here) ending least _ _ ranOther
    rw [List.append_nil] at goes
    exact goes.mono fun same alike => alike.trans (List.append_nil _)
  have lasts : 1 + others.length + lexemes.length ≤ all.length + 2 := by omega
  obtain ⟨same, last, ranAll, -, alike⟩ :=
    items_goOn (by omega) (items_resume ranOther) follow lasts _ _ ran ⟨all, 0⟩ tokens
  refine ⟨⟨same⟩, ?_, alike⟩
  simp only [tree, ranAll]
  rfl

end Grammar

theorem parse_ok_iff {source : String} {tree : Tree} :
    parse source = .ok tree ↔ ∃ lexemes, lex source = .ok lexemes ∧ Grammar.tree lexemes = .ok tree := by
  unfold parse
  cases lex source with
  | error fault => simp
  | ok lexemes => cases read : Grammar.tree lexemes <;> simp [read]

/-- One script behind another, where the first one ends with a line, is read as the items of both, apart from
their places. -/
theorem parse_append {first second : String} {tree treeOther : Tree}
    (ends : first = "" ∨ ∃ lines, first = lines ++ "\n") (parsed : parse first = .ok tree)
    (parsedOther : parse second = .ok treeOther) :
    ∃ joint, parse (first ++ second) = .ok joint ∧
      joint.bare.items = tree.bare.items ++ treeOther.bare.items := by
  obtain ⟨lexemes, lexed, read⟩ := parse_ok_iff.mp parsed
  obtain ⟨others, lexedOther, readOther⟩ := parse_ok_iff.mp parsedOther
  have outset : (others.map Lexeme.token).head? ≠ some .indent := by
    intro indents
    obtain ⟨found, ran, -⟩ := bind_ok readOther
    exact absurd (Grammar.items_resume ran .indent indents) (by decide)
  obtain ⟨all, lexedAll, tokens⟩ := lex_append ends lexed lexedOther outset
  obtain ⟨joint, readAll, alike⟩ := Grammar.tree_join read readOther tokens
  exact ⟨joint, parse_ok_iff.mpr ⟨all, lexedAll, readAll⟩, alike⟩

end Stagecraft.Script
