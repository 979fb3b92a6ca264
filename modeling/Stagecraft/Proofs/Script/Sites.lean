import Stagecraft.Proofs.Script.LogicalLines

/-!
Sites: where the parsers refuse. A refusal is about what is next, or about a type or an expression that was read; then
the first lexeme of it is known, and what stands in front of that lexeme.
-/

namespace Stagecraft.Script

open Text (Span)

def Token.weight : Token → Int
  | .indent => 1
  | .dedent => -1
  | _ => 0

theorem Token.weight_of_not_isMark {token : Token} (plain : ¬token.IsMark) : token.weight = 0 := by
  unfold weight
  split
  · exact absurd (by decide) plain
  · exact absurd (by decide) plain
  · rfl

def blocksOpen : List Lexeme → Int
  | [] => 0
  | lexeme :: rest => lexeme.token.weight + blocksOpen rest

theorem blocksOpen_append (front rest : List Lexeme) :
    blocksOpen (front ++ rest) = blocksOpen front + blocksOpen rest := by
  induction front with
  | nil => exact (Int.zero_add _).symm
  | cons lexeme more ih => rw [List.cons_append, blocksOpen, blocksOpen, ih, Int.add_assoc]

theorem blocksOpen_singleton (lexeme : Lexeme) : blocksOpen [lexeme] = lexeme.token.weight := Int.add_zero _

/-- Behind these lexemes no dedent stands where the next token starts: a block is open, or a symbol is the last. -/
def Settled (taken : List Lexeme) : Prop :=
  0 < blocksOpen taken ∨ ∃ lexeme symbol, taken.getLast? = some lexeme ∧ lexeme.token = .symbol symbol

def Fresh (taken : List Lexeme) : Prop := ∃ mark, taken.getLast? = some mark ∧ mark.token.IsMark

namespace Grammar

/-! ### What a refusal points at -/

def TypeAt (lexeme : Lexeme) (rest : List Lexeme) (head : TypeExpr) (after : Feed) : Prop :=
  ¬lexeme.token.IsMark ∧ ∃ fuel stop, type fuel ⟨lexeme :: rest, stop⟩ = .ok (head, after)

def OpensVector (paren : Lexeme) (rest : List Lexeme) : Prop :=
  ∃ fuel first comma others stop, expr fuel ⟨rest, paren.span.stop⟩ = .ok (first, ⟨comma :: others, stop⟩) ∧
    comma.token = .symbol .comma

/-- The lexeme introduces an expression behind parentheses that only group. -/
structure Introduces (parens : List Lexeme) (lexeme : Lexeme) (rest : List Lexeme) : Prop where
  groups : ∀ paren ∈ parens, paren.token = .symbol .opening
  plain : ¬lexeme.token.IsMark
  vector : lexeme.token = .symbol .opening → OpensVector lexeme rest

/-- What a refusal points at behind the lexemes that are taken. Mostly this is what is next. Else it is the first lexeme
of a type, which a name follows though there is a payload, which has no arguments though it is a parameter, or which
has arguments though it is one in a role; or it is the first lexeme of an expression that starts a line and is
assigned to though it is no place, behind the parentheses that only group. -/
inductive Points : Refusal → (taken left : List Lexeme) → Prop
  /-- What is next. The place needs no further condition: a parser that refuses what is next (`refuse`) puts the
  lexemes of its own feed into the refusal, so they are those at which it stood. -/
  | next {complaint : Complaint} {taken left : List Lexeme} : Points ⟨complaint, .next left⟩ taken left
  | payload {taken rest : List Lexeme} {lexeme : Lexeme} {head : TypeExpr} {after : Feed} {name : String}
      (read : TypeAt lexeme rest head after) (named : after.left.head?.map (·.token) = some (.ident name)) :
      Points ⟨.secondPayload, .starting lexeme.span.start⟩ taken (lexeme :: rest)
  | param {taken rest : List Lexeme} {lexeme : Lexeme} {head : TypeExpr} {after : Feed}
      (read : TypeAt lexeme rest head after) (bare : head.args = []) :
      Points ⟨.expected "`name<components>`", .starting lexeme.span.start⟩ taken (lexeme :: rest)
  | component {front inner rest : List Lexeme} {first lexeme : Lexeme} {role arg : TypeExpr} {after behind : Feed}
      (outer : TypeAt first (inner ++ lexeme :: rest) role after)
      (unfit : role.args.find? (fun arg => !arg.args.isEmpty) = some arg) (read : TypeAt lexeme rest arg behind) :
      Points ⟨.expected "a component name", .starting lexeme.span.start⟩ (front ++ first :: inner) (lexeme :: rest)
  | target {front parens rest : List Lexeme} {lexeme : Lexeme} {fuel stop : Nat} {value : Expr} {after : Feed}
      (fresh : Fresh front) (read : expr fuel ⟨parens ++ lexeme :: rest, stop⟩ = .ok (value, after))
      (assigned : after.left.head?.map (·.token) = some (.symbol .assign)) (fixed : value.asPlace? = none)
      (introduces : Introduces parens lexeme rest) :
      Points ⟨.notAssignable, .starting lexeme.span.start⟩ (front ++ parens) (lexeme :: rest)

/-- The refusal points into the lexemes, and where it does so by an offset, no dedent stands there. -/
def Sited (whole : List Lexeme) (refusal : Refusal) : Prop :=
  ∃ taken left, whole = taken ++ left ∧ Points refusal taken left ∧ refusal.complaint ≠ .exhausted ∧
    ((∃ offset, refusal.site = .starting offset) → Settled taken)

/-! ### Parsers among the lexemes -/

structure Spot (whole : List Lexeme) where
  taken : List Lexeme
  feed : Feed
  split : whole = taken ++ feed.left

namespace Spot

variable {whole : List Lexeme}

def ahead (here : Spot whole) : Nat := here.feed.left.length

def level (here : Spot whole) : Int := blocksOpen here.taken

def behind (here : Spot whole) {lexeme : Lexeme} {rest : List Lexeme} (shape : here.feed.left = lexeme :: rest) :
    Spot whole where
  taken := here.taken ++ [lexeme]
  feed := ⟨rest, lexeme.span.stop⟩
  split := by
    have split := here.split
    rwa [shape, ← List.singleton_append, ← List.append_assoc] at split

theorem between (here there : Spot whole) (later : there.ahead ≤ here.ahead) :
    ∃ inner, there.taken = here.taken ++ inner ∧ here.feed.left = inner ++ there.feed.left := by
  unfold ahead at later
  rcases List.append_eq_append_iff.mp (here.split.symm.trans there.split) with within | ⟨inner, taken, left⟩
  · exact within
  · have length := congrArg List.length left
    rw [List.length_append] at length
    obtain rfl := List.length_eq_zero_iff.mp (show inner.length = 0 by omega)
    rw [List.append_nil] at taken
    rw [List.nil_append] at left
    exact ⟨[], by rw [taken, List.append_nil], by rw [left, List.nil_append]⟩

theorem refuses (here : Spot whole) {complaint : Complaint} (real : complaint ≠ .exhausted) :
    Sited whole ⟨complaint, .next here.feed.left⟩ :=
  ⟨here.taken, here.feed.left, here.split, .next, real, nofun⟩

end Spot

section Rules

variable {whole : List Lexeme} {here : Spot whole}

/-- From one place to another `change` blocks are started, and at least `least` lexemes are taken. -/
abbrev Moves (change : Int) (least : Nat) (here there : Spot whole) : Prop :=
  there.level = here.level + change ∧ there.ahead + least ≤ here.ahead

def Took (token : Token) (here there : Spot whole) : Prop :=
  ∃ lexeme, lexeme.token = token ∧ here.feed.left = lexeme :: there.feed.left ∧ there.taken = here.taken ++ [lexeme]

theorem Took.moves {token : Token} {there : Spot whole} (took : Took token here there) :
    Moves token.weight 1 here there := by
  obtain ⟨lexeme, rfl, left, taken⟩ := took
  constructor
  · rw [Spot.level, taken, blocksOpen_append, blocksOpen_singleton]
    rfl
  · rw [Spot.ahead, Spot.ahead, left, List.length_cons]

theorem Took.settled {symbol : Symbol} {there : Spot whole} (took : Took (.symbol symbol) here there) :
    Settled there.taken := by
  obtain ⟨lexeme, same, -, taken⟩ := took
  exact .inr ⟨lexeme, symbol, by rw [taken, List.getLast?_concat], same⟩

theorem Took.fresh {mark : Token} {there : Spot whole} (took : Took mark here there) (isMark : mark.IsMark) :
    Fresh there.taken := by
  obtain ⟨lexeme, same, -, taken⟩ := took
  exact ⟨lexeme, by rw [taken, List.getLast?_concat], same ▸ isMark⟩

structure Lined (here : Spot whole) : Prop where
  opened : 0 < here.level
  fresh : Fresh here.taken

theorem Lined.settled (lined : Lined here) : Settled here.taken := .inl lined.opened

theorem Spot.behind_took (here : Spot whole) {lexeme : Lexeme} {rest : List Lexeme}
    (shape : here.feed.left = lexeme :: rest) : Took lexeme.token here (here.behind shape) :=
  ⟨lexeme, rfl, shape, rfl⟩

variable {α β : Type} {parser : Parser α} {next : α → Parser β} {middle : α → Spot whole → Prop}
  {post : β → Spot whole → Prop}

/-- From here the parser comes to a place as `post` tells, or refuses and points into the lexemes. -/
def Goes (parser : Parser β) (here : Spot whole) (post : β → Spot whole → Prop) : Prop :=
  match parser here.feed with
  | .ok (found, after) => ∃ there : Spot whole, there.feed = after ∧ post found there
  | .error refusal => Sited whole refusal

namespace Goes

theorem bind (first : Goes parser here middle)
    (second : ∀ found there, middle found there → Goes (next found) there post) :
    Goes (parser >>= next) here post := by
  have chained : (parser >>= next) here.feed = (parser here.feed >>= fun part => next part.1 part.2) := rfl
  unfold Goes at first ⊢
  rw [chained]
  cases ran : parser here.feed with
  | error refusal =>
    rw [ran] at first
    exact first
  | ok part =>
    obtain ⟨found, after⟩ := part
    rw [ran] at first
    obtain ⟨there, rfl, holds⟩ := first
    exact second found there holds

theorem pure {found : β} (holds : post found here) : Goes (pure found : Parser β) here post := ⟨here, rfl, holds⟩

theorem handed {found : α} (rest : Goes (next found) here post) :
    Goes ((Pure.pure found : Parser α) >>= next) here post :=
  rest

theorem ite {condition : Prop} [Decidable condition] {yes no : Parser β} (first : condition → Goes yes here post)
    (second : ¬condition → Goes no here post) : Goes (if condition then yes else no) here post := by
  split
  · exact first ‹_›
  · exact second ‹_›

theorem imp {post weaker : α → Spot whole → Prop} (goes : Goes parser here post)
    (implies : ∀ found there, parser here.feed = .ok (found, there.feed) → post found there → weaker found there) :
    Goes parser here weaker := by
  unfold Goes at goes ⊢
  cases ran : parser here.feed with
  | error refusal =>
    rw [ran] at goes
    exact goes
  | ok part =>
    obtain ⟨found, after⟩ := part
    rw [ran] at goes
    obtain ⟨there, rfl, holds⟩ := goes
    exact ⟨there, rfl, implies found there ran holds⟩

theorem mono {post weaker : α → Spot whole → Prop} (goes : Goes parser here post)
    (implies : ∀ found there, post found there → weaker found there) : Goes parser here weaker :=
  goes.imp fun found there _ => implies found there

theorem ran {post : α → Spot whole → Prop} (goes : Goes parser here post) :
    Goes parser here fun found there => post found there ∧ parser here.feed = .ok (found, there.feed) :=
  goes.imp fun _ _ ran holds => ⟨holds, ran⟩

theorem refuse {complaint : Complaint} (real : complaint ≠ .exhausted) : Goes (refuse complaint) here post :=
  here.refuses real

section Tokens

variable {token : Token} {what : String}

theorem peek {next : Option Token → Parser β} (rest : Goes (next (here.feed.left.head?.map (·.token))) here post) :
    Goes (peek >>= next) here post := rest

theorem lastStop {next : Nat → Parser β} (rest : Goes (next here.feed.lastStop) here post) :
    Goes (lastStop >>= next) here post := rest

theorem advance {next : Unit → Parser β} (present : here.feed.left.head?.map (·.token) = some token)
    (rest : ∀ there, Took token here there → Goes (next ()) there post) : Goes (advance >>= next) here post := by
  obtain ⟨lexeme, first, rfl⟩ := Option.map_eq_some_iff.mp present
  obtain ⟨left, shape⟩ := List.head?_eq_some_iff.mp first
  have steps : Goes Grammar.advance here fun _ there => Took lexeme.token here there := by
    unfold Goes Grammar.advance
    rw [shape]
    exact ⟨here.behind shape, rfl, here.behind_took shape⟩
  exact steps.bind fun _ there took => rest there took

theorem eat {next : Bool → Parser β} (change : Int) (weight : token.weight = change)
    (yes : ∀ there, Took token here there → Moves change 1 here there → Goes (next true) there post)
    (no : Goes (next false) here post) : Goes (eat token >>= next) here post := by
  have eats : Goes (Grammar.eat token) here fun ate there => if ate then Took token here there else there = here := by
    refine .peek (.ite (fun present => ?_) fun _ => .pure rfl)
    exact .advance present fun there took => .pure took
  refine eats.bind fun ate there holds => ?_
  cases ate with
  | true =>
    have took : Took token here there := holds
    exact yes there took (weight ▸ took.moves)
  | false =>
    obtain rfl : there = here := holds
    exact no

theorem expect {next : Span → Parser β} (change : Int) (weight : token.weight = change)
    (rest : ∀ span there, Took token here there → Moves change 1 here there → Goes (next span) there post) :
    Goes (expect token what >>= next) here post := by
  have expects : Goes (Grammar.expect token what) here fun _ there => Took token here there := by
    obtain ⟨taken, ⟨left, stop⟩, split⟩ := here
    cases left with
    | nil => exact Spot.refuses ⟨taken, ⟨[], stop⟩, split⟩ nofun
    | cons lexeme others =>
      unfold Goes Grammar.expect
      dsimp only
      by_cases same : lexeme.token = token
      · rw [if_pos same]
        exact ⟨_, rfl, same ▸ Spot.behind_took ⟨taken, ⟨lexeme :: others, stop⟩, split⟩ rfl⟩
      · rw [if_neg same]
        exact Spot.refuses ⟨taken, ⟨lexeme :: others, stop⟩, split⟩ nofun
  exact expects.bind fun span there took => rest span there took (weight ▸ took.moves)

theorem expectIdent {next : String × Span → Parser β}
    (rest : ∀ name span there, here.feed.left = ⟨.ident name, span⟩ :: there.feed.left → Moves 0 1 here there →
      Goes (next (name, span)) there post) : Goes (expectIdent what >>= next) here post := by
  have expects : Goes (Grammar.expectIdent what) here fun found there =>
      here.feed.left = ⟨.ident found.1, found.2⟩ :: there.feed.left ∧ Moves 0 1 here there := by
    obtain ⟨taken, ⟨left, stop⟩, split⟩ := here
    cases left with
    | nil => exact Spot.refuses ⟨taken, ⟨[], stop⟩, split⟩ nofun
    | cons lexeme others =>
      obtain ⟨token, span⟩ := lexeme
      cases token with
      | ident name =>
        exact ⟨_, rfl, rfl, (Spot.behind_took ⟨taken, ⟨⟨.ident name, span⟩ :: others, stop⟩, split⟩ rfl).moves⟩
      | _ => exact Spot.refuses ⟨taken, ⟨⟨_, span⟩ :: others, stop⟩, split⟩ nofun
  exact expects.bind fun found there holds => rest found.1 found.2 there holds.1 holds.2

theorem endLine {next : Unit → Parser β}
    (rest : ∀ there, Fresh there.taken → Moves 0 1 here there → Goes (next ()) there post) :
    Goes (endLine >>= next) here post := by
  have ends : Goes Grammar.endLine here fun _ there => Fresh there.taken ∧ Moves 0 1 here there :=
    .expect 0 rfl fun _ there took moved => .pure ⟨took.fresh (by decide), moved⟩
  exact ends.bind fun _ there ⟨fresh, moved⟩ => rest there fresh moved

theorem atIdent {next : Bool → Parser β}
    (rest : ∀ found, (found = true → ∃ name, here.feed.left.head?.map (·.token) = some (.ident name)) →
      Goes (next found) here post) : Goes (atIdent >>= next) here post := by
  have looks : Goes Grammar.atIdent here fun found there =>
      there = here ∧ (found = true → ∃ name, here.feed.left.head?.map (·.token) = some (.ident name)) := by
    refine .peek ?_
    split
    · next name present => exact .pure ⟨rfl, fun _ => ⟨name, present⟩⟩
    · exact .pure ⟨rfl, nofun⟩
  refine looks.bind fun found there ⟨stays, named⟩ => ?_
  obtain rfl := stays
  exact rest found named

end Tokens

end Goes

end Rules

/-! ### Repetitions -/

section Repetitions

variable {whole : List Lexeme} {here : Spot whole} {α : Type} {parser : Parser α}

end Repetitions

/-! ### Declarations -/

section Declarations

variable {whole : List Lexeme} {here : Spot whole} {fuel : Nat}

structure Heads (here : Spot whole) (head : TypeExpr) (after : Feed) : Prop where
  settled : Settled here.taken
  starts : ∃ lexeme rest, here.feed.left = lexeme :: rest ∧ lexeme.span.start = head.span.start ∧
    TypeAt lexeme rest head after

theorem Heads.refused {α : Type} {post : α → Spot whole → Prop} {there : Spot whole} {complaint : Complaint}
    {head : TypeExpr} {after : Feed} (heads : Heads here head after) (real : complaint ≠ .exhausted)
    (points : ∀ lexeme rest, here.feed.left = lexeme :: rest → TypeAt lexeme rest head after →
      Points ⟨complaint, .starting lexeme.span.start⟩ here.taken (lexeme :: rest)) :
    Goes (refuseAt complaint head.span) there post := by
  obtain ⟨lexeme, rest, shape, start, read⟩ := heads.starts
  unfold Goes refuseAt
  dsimp only
  rw [← start]
  exact ⟨here.taken, lexeme :: rest, shape ▸ here.split, points lexeme rest shape read, real, fun _ => heads.settled⟩

end Declarations

/-! ### Expressions -/

def Starts (left : List Lexeme) (start : Nat) : Prop :=
  ∃ parens lexeme rest, left = parens ++ lexeme :: rest ∧ lexeme.span.start = start ∧ Introduces parens lexeme rest

theorem Starts.vector {paren : Lexeme} {rest : List Lexeme} (opening : paren.token = .symbol .opening)
    (opens : OpensVector paren rest) : Starts (paren :: rest) paren.span.start :=
  ⟨[], paren, rest, rfl, rfl, nofun, by simp [opening, Token.IsMark], fun _ => opens⟩

section Expressions

variable {whole : List Lexeme} {here : Spot whole} {fuel : Nat} {operand : Parser Expr}

def Expresses (parser : Parser Expr) (here : Spot whole) : Prop :=
  Goes parser here fun value there => Moves 0 1 here there ∧ Starts here.feed.left value.span.start

def Extends (parser : Parser Expr) (here : Spot whole) (base : Expr) : Prop :=
  Goes parser here fun value there => Moves 0 0 here there ∧ value.span.start = base.span.start

theorem Expresses.extend {parser : Parser Expr} {next : Expr → Parser Expr} (first : Expresses parser here)
    (second : ∀ base there, Moves 0 1 here there → Extends (next base) there base) :
    Expresses (parser >>= next) here := by
  refine Goes.bind first fun base there ⟨moved, starts⟩ => ?_
  refine (second base there moved).mono fun value last ⟨rest, same⟩ => ⟨by omega, ?_⟩
  rw [same]
  exact starts

section Atoms

variable (reads : ∀ place : Spot whole, place.ahead < fuel → Expresses (expr fuel) place)
include reads

end Atoms

end Expressions

/-! ### Statements -/

section Statements

variable {whole : List Lexeme} {here : Spot whole} {fuel : Nat}

end Statements

end Grammar

end Stagecraft.Script
