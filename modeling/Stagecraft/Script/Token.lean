import Stagecraft.Decimal.Layout
import Stagecraft.Text.Position

/-!
The tokens of scripts: literals, names, keywords, symbols, and the three marks of layout.
-/

namespace Stagecraft.Script

inductive Keyword where
  | component
  | system
  | event
  | if_
  | else_
  | while_
  | emit
  | true_
  | false_
  | and_
  | or_
  | not_
deriving DecidableEq, Repr

namespace Keyword

def text : Keyword → String
  | component => "component"
  | system => "system"
  | event => "event"
  | if_ => "if"
  | else_ => "else"
  | while_ => "while"
  | emit => "emit"
  | true_ => "True"
  | false_ => "False"
  | and_ => "and"
  | or_ => "or"
  | not_ => "not"

def ofText? : String → Option Keyword
  | "component" => some component
  | "system" => some system
  | "event" => some event
  | "if" => some if_
  | "else" => some else_
  | "while" => some while_
  | "emit" => some emit
  | "True" => some true_
  | "False" => some false_
  | "and" => some and_
  | "or" => some or_
  | "not" => some not_
  | _ => none

theorem ofText?_text (keyword : Keyword) : ofText? keyword.text = some keyword := by
  cases keyword <;> rfl

end Keyword

inductive Symbol where
  | plus
  | minus
  | star
  | slash
  | percent
  | assign
  | equal
  | notEqual
  | less
  | greater
  | lessEqual
  | greaterEqual
  | andAnd
  | orOr
  | bang
  | dot
  | comma
  | opening
  | closing
deriving DecidableEq, Repr

namespace Symbol

def text : Symbol → String
  | plus => "+"
  | minus => "-"
  | star => "*"
  | slash => "/"
  | percent => "%"
  | assign => "="
  | equal => "=="
  | notEqual => "!="
  | less => "<"
  | greater => ">"
  | lessEqual => "<="
  | greaterEqual => ">="
  | andAnd => "&&"
  | orOr => "||"
  | bang => "!"
  | dot => "."
  | comma => ","
  | opening => "("
  | closing => ")"

def ofPair? : Char → Char → Option Symbol
  | '=', '=' => some equal
  | '!', '=' => some notEqual
  | '<', '=' => some lessEqual
  | '>', '=' => some greaterEqual
  | '&', '&' => some andAnd
  | '|', '|' => some orOr
  | _, _ => none

def ofChar? : Char → Option Symbol
  | '+' => some plus
  | '-' => some minus
  | '*' => some star
  | '/' => some slash
  | '%' => some percent
  | '=' => some assign
  | '<' => some less
  | '>' => some greater
  | '!' => some bang
  | '.' => some dot
  | ',' => some comma
  | '(' => some opening
  | ')' => some closing
  | _ => none

end Symbol

/-- A token. Layout is part of the stream: every logical line ends with `newline`, and blocks are
enclosed in `indent` and `dedent`. -/
inductive Token where
  | number (n : Float)
  | text (s : String)
  | ident (name : String)
  | keyword (k : Keyword)
  | symbol (s : Symbol)
  | newline
  | indent
  | dedent
deriving DecidableEq

namespace Token

def render : Token → String
  | number n => Decimal.Layout.plain.write n
  | text s => "\"" ++ s ++ "\""
  | ident name => name
  | keyword k => k.text
  | symbol s => s.text
  | newline => "end of line"
  | indent => "indent"
  | dedent => "dedent"

def ofWord (word : String) : Token :=
  match Keyword.ofText? word with
  | some k => keyword k
  | none => ident word

end Token

structure Lexeme where
  token : Token
  span : Text.Span
deriving DecidableEq

end Stagecraft.Script
