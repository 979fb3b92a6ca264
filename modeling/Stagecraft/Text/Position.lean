/-!
Places in a text: byte ranges, and the line and column of a byte offset.
-/

namespace Stagecraft.Text

structure Span where
  start : Nat
  stop : Nat
deriving DecidableEq, Repr, Inhabited

def byteSize (chars : List Char) : Nat :=
  chars.foldl (fun n c => n + c.utf8Size) 0

/-- The characters of the first `bytes` bytes; none where the cut would fall inside a character or
behind the end. -/
def cut? : (bytes : Nat) → List Char → Option (List Char)
  | 0, _ => some []
  | _ + 1, [] => none
  | bytes + 1, c :: rest =>
    if c.utf8Size ≤ bytes + 1 then (cut? (bytes + 1 - c.utf8Size) rest).map (c :: ·) else none
termination_by structural _ chars => chars

def slice? (span : Span) (chars : List Char) : Option (List Char) := do
  let before ← cut? span.start chars
  let within ← cut? span.stop chars
  guard (span.start ≤ span.stop)
  return within.drop before.length

/-- Line and column, both counted from one, of a place with the given text before it. -/
def lineColumnAfter (before : List Char) : Nat × Nat :=
  (before.count '\n' + 1, (before.reverse.takeWhile (· ≠ '\n')).length + 1)

/-- Line and column of a byte offset. An offset that falls between no two characters of the source
stands for its end. -/
def lineColumn (source : String) (offset : Nat) : Nat × Nat :=
  lineColumnAfter ((cut? offset source.toList).getD source.toList)

end Stagecraft.Text
