import Accessors.Syntax.Lexer
import Accessors.Syntax.Statement

/-!
# Reading PHP files

* `Grammar.level`: the grammar for constructs nested to a given depth.
* `Program.parse?`: the syntax tree of a file, none when the file has a syntax error.
-/

namespace Accessors.Syntax

/-- The grammar whose rules may recur to a given depth. -/
def Grammar.level : Nat → Grammar
  | 0 => ⟨Parser.fail, Parser.fail, Parser.fail⟩
  | n + 1 =>
    let g := Grammar.level n
    ⟨Grammar.hintRule g, Grammar.expressionRule g, Grammar.statementRule g⟩

/-- Read a list of tokens. A rule takes a token before it recurs, so that the number of tokens
bounds the depth. -/
def Program.ofTokens? (tokens : List Token) : Option Program := do
  let g := Grammar.level (tokens.length + 1)
  let (statements, _) ← (Parser.manyUntil Option.isNone g.statement).run ⟨tokens, []⟩
  return ⟨statements⟩

/-- Read a source file. -/
def Program.parse? (source : Text) : Option Program :=
  (tokenize? source).bind Program.ofTokens?

end Accessors.Syntax
