import Stagecraft.Script.Lexing

/-!
Lexing in place: the same lexemes, read by moving one byte offset through the source. Every look at the source
is a slice of it, and a slice breaks unless both of its ends fall between characters.
-/

namespace Stagecraft.Script.Slicing

open Text (Span byteSize)

inductive Stop where
  /-- A slice has an end inside a character or outside the source. -/
  | broken
  | fault (fault : LexFault)
deriving DecidableEq

structure Stand where
  pos : Nat
  blocks : List Nat
  depth : Nat
  lineStart : Bool
  lexemes : List Lexeme
deriving DecidableEq

def Stand.start : Stand := ⟨0, [], 0, true, []⟩

abbrev Slicer := StateT Stand (Except Stop)

def here : Slicer Nat := do return (← get).pos

def push (lexemes : List Lexeme) : Slicer Unit :=
  modify fun stand => { stand with lexemes := stand.lexemes ++ lexemes }

def startLine (lineStart : Bool) : Slicer Unit :=
  modify fun stand => { stand with lineStart := lineStart }

def numberOf (text : List Char) : Token :=
  .number (Decimal.Numeral.fixed (text.takeWhile Char.isDigit) ((text.dropWhile Char.isDigit).drop 1))

def countParens (symbol : Symbol) : Slicer Unit := do
  let stand ← get
  match symbol with
  | .opening => set { stand with depth := stand.depth + 1 }
  | .closing =>
    if stand.depth = 0 then throw (.fault ⟨.unmatchedClosing, ⟨stand.pos, stand.pos + 1⟩⟩)
    else set { stand with depth := stand.depth - 1 }
  | _ => return

section

variable (source : List Char)

def slice (start stop : Nat) : Slicer (List Char) :=
  match Text.slice? ⟨start, stop⟩ source with
  | some chars => return chars
  | none => throw .broken

def rest : Slicer (List Char) := do slice source (← here) (byteSize source)

def current : Slicer Char := do return (← rest source).headD '\x00'

def peek : Slicer Char := do return (← rest source)[1]?.getD '\x00'

def inside : Slicer Bool := do return decide ((← here) < byteSize source)

def advance : Slicer Unit := do
  if ← inside source then
    let c ← current source
    modify fun stand => { stand with pos := stand.pos + c.utf8Size }

def atSome (test : Char → Bool) : Slicer Bool := do return test (← current source)

def insideAnd (test : Char → Bool) : Slicer Bool := do
  if ← inside source then atSome source test else return false

def advanceWhile (going : Slicer Bool) : (fuel : Nat) → Slicer Unit
  | 0 => return
  | fuel + 1 => do
    if ← going then
      advance source
      advanceWhile going fuel

def countIndent : (fuel : Nat) → Slicer Nat
  | 0 => return 0
  | fuel + 1 => do
    if ← inside source then
      let c ← current source
      if c = '\t' ∨ c = ' ' then
        advance source
        let others ← countIndent fuel
        return others + 1
      else if c = '\r' then
        advance source
        countIndent fuel
      else return 0
    else return 0

def skipComment : Slicer Unit := advanceWhile source (insideAnd source (· ≠ '\n')) source.length

def skipBlanks : Slicer Unit := advanceWhile source (insideAnd source isLineBlank) source.length

def text : Slicer Lexeme := do
  let start ← here
  advance source
  let first ← here
  advanceWhile source (insideAnd source fun d => d ≠ '"' ∧ d ≠ '\n') source.length
  let last ← here
  if (← current source) = '"' then
    let content ← slice source first last
    advance source
    return ⟨.text (String.ofList content), ⟨start, ← here⟩⟩
  else throw (.fault ⟨.unterminatedText, ⟨start, last⟩⟩)

def fraction : Slicer Unit := do
  if (← current source) = '.' then
    if (← peek source).isDigit then
      advance source
      advanceWhile source (atSome source Char.isDigit) source.length

def number : Slicer Lexeme := do
  let start ← here
  advanceWhile source (atSome source Char.isDigit) source.length
  fraction source
  let stop ← here
  let digits ← slice source start stop
  return ⟨numberOf digits, ⟨start, stop⟩⟩

def word : Slicer Lexeme := do
  let start ← here
  advanceWhile source (atSome source continuesWord) source.length
  let stop ← here
  let letters ← slice source start stop
  return ⟨Token.ofWord (String.ofList letters), ⟨start, stop⟩⟩

def symbol (c : Char) : Slicer Lexeme := do
  let start ← here
  match Symbol.ofPair? c (← peek source) with
  | some symbol =>
    advance source
    advance source
    return ⟨.symbol symbol, ⟨start, ← here⟩⟩
  | none =>
    match Symbol.ofChar? c with
    | some symbol =>
      countParens symbol
      advance source
      return ⟨.symbol symbol, ⟨start, ← here⟩⟩
    | none => throw (.fault ⟨.unexpected c, ⟨start, start + c.utf8Size⟩⟩)

def token (c : Char) : Slicer Lexeme :=
  if c = '"' then text source
  else if c.isDigit then number source
  else if startsWord c then word source
  else symbol source c

def indent (width start : Nat) : Slicer Unit := do
  let stand ← get
  let span : Span := ⟨start, stand.pos⟩
  match layoutMarks? width stand.blocks with
  | some (marks, blocks) =>
    set { stand with blocks := blocks }
    push (marks.map fun mark => ⟨mark, span⟩)
  | none => throw (.fault ⟨.inconsistentDedent, span⟩)

def openLine : Slicer Unit := do
  startLine false
  let start ← here
  let width ← countIndent source source.length
  let c ← current source
  if c = '\n' ∨ c = '#' ∨ c = '\x00' then
    skipComment source
    advance source
    startLine true
  else indent width start

def withinLine : Slicer Unit := do
  skipBlanks source
  if ← inside source then
    let c ← current source
    if c = '#' then skipComment source
    else if c = '\n' then
      let start ← here
      advance source
      if (← get).depth = 0 then
        push [⟨.newline, ⟨start, ← here⟩⟩]
        startLine true
    else
      let lexeme ← token source c
      push [lexeme]

def turn : Slicer Unit := do
  if (← get).lineStart then openLine source
  if (← get).lineStart then return else withinLine source

def run : (fuel : Nat) → Slicer Unit
  | 0 => return
  | fuel + 1 => do
    if ← inside source then
      turn source
      run fuel

end

def unfinished (lexemes : List Lexeme) : Bool := lexemes.getLast?.any (·.token ≠ .newline)

def finish : Slicer Unit := do
  let stand ← get
  let mark (token : Token) : Lexeme := ⟨token, ⟨stand.pos, stand.pos⟩⟩
  if 0 < stand.depth then throw (.fault ⟨.unclosedOpening, ⟨stand.pos, stand.pos⟩⟩)
  else
    if unfinished stand.lexemes then push [mark .newline]
    push (stand.blocks.map fun _ => mark .dedent)

def lex (source : String) : Except Stop (List Lexeme) := do
  let chars := source.toList
  let ((), stand) ← (do run chars chars.length; finish : Slicer Unit) .start
  return stand.lexemes

end Stagecraft.Script.Slicing
