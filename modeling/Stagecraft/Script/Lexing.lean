import Stagecraft.Script.Token
import Stagecraft.Decimal.Numeral
import Stagecraft.Text.Quoted

/-!
From source text to lexemes. Leading blanks of a line become `indent` and `dedent` marks; lines that
are blank or hold only a comment are skipped, and inside parentheses lines do not end. Each step
takes at least one character, so the recursion is on the length of what is left.
-/

namespace Stagecraft.Script

open Text (Span byteSize)

inductive LexIssue where
  | inconsistentDedent
  | unmatchedClosing
  | unclosedOpening
  | unterminatedText
  | unexpected (c : Char)
deriving DecidableEq

namespace LexIssue

def message : LexIssue → String
  | inconsistentDedent => "inconsistent dedent"
  | unmatchedClosing => "unmatched `)`"
  | unclosedOpening => "unclosed parenthesis"
  | unterminatedText => "unterminated string"
  | unexpected c => "unexpected character: " ++ Text.quotedChar c

end LexIssue

structure LexFault where
  issue : LexIssue
  span : Span
deriving DecidableEq

namespace LexFault

def message (fault : LexFault) : String := fault.issue.message

def render (fault : LexFault) : String :=
  fault.message ++ " at Span \x7b start: " ++ toString fault.span.start ++ ", end: "
    ++ toString fault.span.stop ++ " \x7d"

end LexFault

def isLineBlank (c : Char) : Bool := c == ' ' || c == '\t' || c == '\r'

/-- A line of which only this is left holds no statement. A null character ends a line's statements
like the end of the source. -/
def endsLine : List Char → Bool
  | [] => true
  | c :: _ => c == '\n' || c == '#' || c == '\x00'

/-- The width of an indentation: tabs and spaces count one each, carriage returns nothing. -/
def indentWidth (blanks : List Char) : Nat := blanks.countP (· ≠ '\r')

def startsWord (c : Char) : Bool := Text.isAlphabetic c || c == '_'

def continuesWord (c : Char) : Bool := Text.isAlphanumeric c || c == '_'

def scanNumber (chars : List Char) : Token × Nat :=
  let whole := chars.takeWhile Char.isDigit
  match chars.dropWhile Char.isDigit with
  | '.' :: rest =>
    let fraction := rest.takeWhile Char.isDigit
    if fraction.isEmpty then (.number (Decimal.Numeral.fixed whole []), whole.length)
    else (.number (Decimal.Numeral.fixed whole fraction), whole.length + 1 + fraction.length)
  | _ => (.number (Decimal.Numeral.fixed whole []), whole.length)

/-- The token that starts with `c`, and how many characters of `rest` belong to it; failing that,
the issue and how many characters of `rest` it concerns. A text runs to its closing quote on the
same line and knows no escapes. -/
def scanToken (c : Char) (rest : List Char) : Except (LexIssue × Nat) (Token × Nat) :=
  if c = '"' then
    let content := rest.takeWhile (fun d => d ≠ '"' ∧ d ≠ '\n')
    if (rest.drop content.length).head? = some '"' then
      .ok (.text (String.ofList content), content.length + 1)
    else .error (.unterminatedText, content.length)
  else if c.isDigit then
    let (token, length) := scanNumber (c :: rest)
    .ok (token, length - 1)
  else if startsWord c then
    let others := rest.takeWhile continuesWord
    .ok (Token.ofWord (String.ofList (c :: others)), others.length)
  else
    match rest.head?.bind (Symbol.ofPair? c) with
    | some symbol => .ok (.symbol symbol, 1)
    | none =>
      match Symbol.ofChar? c with
      | some symbol => .ok (.symbol symbol, 0)
      | none => .error (.unexpected c, 0)

/-- Where the lexer stands: the byte offset of what is left, the widths of the open blocks with the
innermost first, the number of open parentheses, and whether the current line has a token. -/
structure Cursor where
  offset : Nat
  blocks : List Nat
  depth : Nat
  midLine : Bool
deriving DecidableEq

namespace Cursor

def start : Cursor := ⟨0, [], 0, false⟩

def pass (cursor : Cursor) (chars : List Char) : Cursor :=
  { cursor with offset := cursor.offset + byteSize chars }

def width (cursor : Cursor) : Nat := cursor.blocks.headD 0

def countParens? (cursor : Cursor) : Token → Option Nat
  | .symbol .opening => some (cursor.depth + 1)
  | .symbol .closing => if cursor.depth = 0 then none else some (cursor.depth - 1)
  | _ => some cursor.depth

end Cursor

def closeBlocks (width : Nat) : List Nat → Nat × List Nat
  | [] => (0, [])
  | block :: outer =>
    if width < block then ((closeBlocks width outer).1 + 1, (closeBlocks width outer).2)
    else (0, block :: outer)

/-- The marks in front of a line of the given width, and the blocks open after them. A narrower line
must return to the width of an open block. -/
def layoutMarks? (width : Nat) (blocks : List Nat) : Option (List Token × List Nat) :=
  if blocks.headD 0 < width then some ([.indent], width :: blocks)
  else
    let (closed, open_) := closeBlocks width blocks
    if open_.headD 0 = width then some (List.replicate closed .dedent, open_) else none

def finish (cursor : Cursor) : Except LexFault (List Lexeme) :=
  let here : Span := ⟨cursor.offset, cursor.offset⟩
  if cursor.depth = 0 then
    .ok ((if cursor.midLine then [⟨.newline, here⟩] else [])
      ++ cursor.blocks.map (fun _ => ⟨.dedent, here⟩))
  else .error ⟨.unclosedOpening, here⟩

theorem length_dropWhile_le {α : Type} (p : α → Bool) :
    ∀ chars : List α, (chars.dropWhile p).length ≤ chars.length
  | [] => Nat.le_refl _
  | c :: rest => by
    rw [List.dropWhile_cons]
    split
    · exact Nat.le_succ_of_le (length_dropWhile_le p rest)
    · exact Nat.le_refl _

def lexFrom (cursor : Cursor) (lineStart : Bool) (chars : List Char) :
    Except LexFault (List Lexeme) :=
  if chars.isEmpty then finish cursor
  else
    let after := cursor.pass (chars.takeWhile isLineBlank)
    if lineStart then
      if endsLine (chars.dropWhile isLineBlank) then
        let line := (chars.dropWhile isLineBlank).takeWhile (· ≠ '\n')
        let left := (chars.dropWhile isLineBlank).dropWhile (· ≠ '\n')
        lexFrom ((after.pass line).pass (left.take 1)) true (left.drop 1)
      else
        let span : Span := ⟨cursor.offset, after.offset⟩
        match layoutMarks? (indentWidth (chars.takeWhile isLineBlank)) cursor.blocks with
        | none => .error ⟨.inconsistentDedent, span⟩
        | some (marks, blocks) => do
          let lexemes ← lexFrom { after with blocks := blocks } false (chars.dropWhile isLineBlank)
          return marks.map (⟨·, span⟩) ++ lexemes
    else
      match _shape : chars.dropWhile isLineBlank with
      | [] => finish after
      | c :: rest =>
        if c = '#' then
          lexFrom ((after.pass [c]).pass (rest.takeWhile (· ≠ '\n'))) false
            (rest.dropWhile (· ≠ '\n'))
        else if c = '\n' then
          let next := after.pass [c]
          if cursor.depth = 0 then do
            let lexemes ← lexFrom { next with midLine := false } true rest
            return ⟨.newline, ⟨after.offset, next.offset⟩⟩ :: lexemes
          else lexFrom next false rest
        else
          match scanToken c rest with
          | .error (issue, length) =>
            .error ⟨issue, ⟨after.offset, (after.pass (c :: rest.take length)).offset⟩⟩
          | .ok (token, length) =>
            let next := after.pass (c :: rest.take length)
            match cursor.countParens? token with
            | none => .error ⟨.unmatchedClosing, ⟨after.offset, next.offset⟩⟩
            | some depth => do
              let lexemes ← lexFrom { next with depth := depth, midLine := true } false
                (rest.drop length)
              return ⟨token, ⟨after.offset, next.offset⟩⟩ :: lexemes
termination_by 2 * chars.length + (if lineStart then 1 else 0)
decreasing_by
  · have line := length_dropWhile_le (· ≠ '\n') (chars.dropWhile isLineBlank)
    have blanks := length_dropWhile_le isLineBlank chars
    have positive : 0 < chars.length := by
      rw [List.length_pos_iff]
      simpa using ‹¬chars.isEmpty = true›
    rw [List.length_drop, if_pos trivial, if_pos ‹lineStart = true›]
    omega
  · have blanks := length_dropWhile_le isLineBlank chars
    rw [if_neg not_false, if_pos ‹lineStart = true›]
    omega
  all_goals
    have blanks := length_dropWhile_le isLineBlank chars
    rw [_shape, List.length_cons] at blanks
    rw [if_neg ‹¬lineStart = true›]
  · have line := length_dropWhile_le (· ≠ '\n') rest
    rw [if_neg not_false]
    omega
  · rw [if_pos trivial]
    omega
  · rw [if_neg not_false]
    omega
  · rw [List.length_drop, if_neg not_false]
    omega

def lex (source : String) : Except LexFault (List Lexeme) :=
  lexFrom .start true source.toList

end Stagecraft.Script
