import Accessors.Text.Basic

/-!
# PHP tokens

* `Variable`: a variable, by the word behind its dollar sign.
* `Keyword`: reserved words, grouped by the role they play in the grammar.
* `Symbol`: punctuation; operators that only ever stand between two operands are one symbol.
* `Token`: a token with the byte offsets it covers.
-/

namespace Accessors.Syntax

/-! ## Characters of words -/

namespace Lexer

/-- Characters that start a word; every character outside ASCII does. -/
def isWordStart (c : Char) : Bool := c.isAlpha || c = '_' || 128 ≤ c.val

/-- Characters inside a word. -/
def isWordChar (c : Char) : Bool := isWordStart c || c.isDigit

/-- Whether a text starts with a word. -/
def startsWord : Text → Bool
  | c :: _ => isWordStart c
  | [] => false

theorem startsWord_takeWhile {t : Text} (h : startsWord t = true) :
    startsWord (t.takeWhile isWordChar) = true := by
  cases t with
  | nil => cases h
  | cons c t =>
    have hc : isWordChar c = true := by rw [isWordChar, show isWordStart c = true from h]; rfl
    rw [List.takeWhile_cons_of_pos hc]
    exact h

end Lexer

/-- A variable, by the word behind its dollar sign. -/
structure Variable where
  word : Text
  starts_word : Lexer.startsWord word = true
  all_word : word.all Lexer.isWordChar = true
  deriving DecidableEq, Repr

namespace Variable

/-- The variable as written. -/
def text (v : Variable) : Text := '$' :: v.word

/-- The variable with the word at the front of a text. -/
def atFront (t : Text) (h : Lexer.startsWord t = true) : Variable :=
  ⟨t.takeWhile Lexer.isWordChar, Lexer.startsWord_takeWhile h, List.all_takeWhile⟩

end Variable

/-! ## Words -/

/-- Reserved words by their role. Words of one role are told apart by nothing but their spelling. -/
inductive Keyword where
  | abstract
  | array
  | as
  | callable
  | caseLabel
  | catchClause
  | classDecl
  | clone
  | const
  | declare
  | defaultLabel
  | doLoop
  | echo
  | elseClause
  | elseifClause
  | empty
  | endDeclare
  | endFor
  | endForeach
  | endIf
  | endSwitch
  | endWhile
  | enum
  | eval
  /-- `exit` and `die` -/
  | exit
  | extends
  | final
  | finallyClause
  | fn
  | forLoop
  | foreach
  | from
  | function
  | global
  | goto
  | haltCompiler
  | ifClause
  | implements
  /-- `include`, `require` and their `_once` forms -/
  | includeFile
  | instanceof
  | insteadof
  | interface
  | isset
  /-- `break` and `continue` -/
  | leave
  | list
  /-- `and`, `or` and `xor` -/
  | logical
  /-- Constants that depend on where they stand, such as `__LINE__`. -/
  | magic
  | matchExpr
  | namespaceDecl
  | new
  | print
  | isPrivate
  | isProtected
  | isPublic
  | readonly
  | returnStmt
  | static
  | switch
  | throw
  | trait
  | tryBlock
  | unset
  | use
  | var
  | whileLoop
  | yield
  deriving DecidableEq, Repr

/-- The spellings of the reserved words, in lower case. -/
def Keyword.table : List (Text × Keyword) :=
  [("abstract".toList, .abstract), ("and".toList, .logical), ("array".toList, .array),
   ("as".toList, .as), ("break".toList, .leave), ("callable".toList, .callable),
   ("case".toList, .caseLabel), ("catch".toList, .catchClause), ("class".toList, .classDecl),
   ("clone".toList, .clone), ("const".toList, .const), ("continue".toList, .leave),
   ("declare".toList, .declare), ("default".toList, .defaultLabel), ("die".toList, .exit),
   ("do".toList, .doLoop), ("echo".toList, .echo), ("else".toList, .elseClause),
   ("elseif".toList, .elseifClause), ("empty".toList, .empty),
   ("enddeclare".toList, .endDeclare), ("endfor".toList, .endFor),
   ("endforeach".toList, .endForeach), ("endif".toList, .endIf),
   ("endswitch".toList, .endSwitch), ("endwhile".toList, .endWhile), ("enum".toList, .enum),
   ("eval".toList, .eval), ("exit".toList, .exit), ("extends".toList, .extends),
   ("final".toList, .final), ("finally".toList, .finallyClause), ("fn".toList, .fn),
   ("for".toList, .forLoop), ("foreach".toList, .foreach), ("from".toList, .from),
   ("function".toList, .function), ("global".toList, .global), ("goto".toList, .goto),
   ("__halt_compiler".toList, .haltCompiler), ("if".toList, .ifClause),
   ("implements".toList, .implements), ("include".toList, .includeFile),
   ("include_once".toList, .includeFile), ("instanceof".toList, .instanceof),
   ("insteadof".toList, .insteadof), ("interface".toList, .interface),
   ("isset".toList, .isset), ("list".toList, .list), ("match".toList, .matchExpr),
   ("namespace".toList, .namespaceDecl), ("new".toList, .new), ("or".toList, .logical),
   ("print".toList, .print), ("private".toList, .isPrivate),
   ("protected".toList, .isProtected), ("public".toList, .isPublic),
   ("readonly".toList, .readonly), ("require".toList, .includeFile),
   ("require_once".toList, .includeFile), ("return".toList, .returnStmt),
   ("static".toList, .static), ("switch".toList, .switch), ("throw".toList, .throw),
   ("trait".toList, .trait), ("try".toList, .tryBlock), ("unset".toList, .unset),
   ("use".toList, .use), ("var".toList, .var), ("while".toList, .whileLoop),
   ("xor".toList, .logical), ("yield".toList, .yield), ("__class__".toList, .magic),
   ("__dir__".toList, .magic), ("__file__".toList, .magic), ("__function__".toList, .magic),
   ("__line__".toList, .magic), ("__method__".toList, .magic), ("__namespace__".toList, .magic),
   ("__property__".toList, .magic), ("__trait__".toList, .magic)]

/-- The reserved word with a spelling; case does not matter. -/
def Keyword.ofSpelling? (word : Text) : Option Keyword :=
  Keyword.table.lookup (word.map Char.toLower)

/-! ## Punctuation -/

/-- Punctuation. -/
inductive Symbol where
  | leftParen
  | rightParen
  | leftBracket
  | rightBracket
  | leftBrace
  | rightBrace
  | semicolon
  | comma
  | colon
  | doubleColon
  | arrow
  /-- `?->` -/
  | safeArrow
  | doubleArrow
  | question
  | ampersand
  | pipe
  | ellipsis
  | assign
  /-- `#[` -/
  | attribute
  /-- A dollar sign with an opening brace. -/
  | dollarBrace
  | dollar
  | backslash
  /-- `+` and `-` -/
  | sign
  /-- `!`, `~` and `@` -/
  | unary
  /-- `++` and `--` -/
  | step
  /-- Operators that only stand between two operands, compound assignments among them. -/
  | binary
  deriving DecidableEq, Repr

/-- The spellings of the symbols, longer ones first. -/
def Symbol.table : List (Text × Symbol) :=
  [("?->".toList, .safeArrow), ("...".toList, .ellipsis), ("===".toList, .binary),
   ("!==".toList, .binary), ("<=>".toList, .binary), ("**=".toList, .binary),
   ("<<=".toList, .binary), (">>=".toList, .binary), ("??=".toList, .binary),
   ("::".toList, .doubleColon), ("->".toList, .arrow), ("=>".toList, .doubleArrow),
   ("#[".toList, .attribute), ("$\x7b".toList, .dollarBrace), ("++".toList, .step),
   ("--".toList, .step), ("==".toList, .binary), ("!=".toList, .binary), ("<>".toList, .binary),
   ("<=".toList, .binary), (">=".toList, .binary), ("&&".toList, .binary), ("||".toList, .binary),
   ("??".toList, .binary), ("+=".toList, .binary), ("-=".toList, .binary), ("*=".toList, .binary),
   ("/=".toList, .binary), (".=".toList, .binary), ("%=".toList, .binary), ("&=".toList, .binary),
   ("|=".toList, .binary), ("^=".toList, .binary), ("<<".toList, .binary), (">>".toList, .binary),
   ("**".toList, .binary), ("|>".toList, .binary), ("(".toList, .leftParen),
   (")".toList, .rightParen), ("[".toList, .leftBracket), ("]".toList, .rightBracket),
   ("\x7b".toList, .leftBrace), ("\x7d".toList, .rightBrace), (";".toList, .semicolon),
   (",".toList, .comma), (":".toList, .colon), ("?".toList, .question), ("&".toList, .ampersand),
   ("|".toList, .pipe), ("=".toList, .assign), ("$".toList, .dollar), ("\\".toList, .backslash),
   ("+".toList, .sign), ("-".toList, .sign), ("!".toList, .unary), ("~".toList, .unary),
   ("@".toList, .unary), ("*".toList, .binary), ("/".toList, .binary), ("%".toList, .binary),
   (".".toList, .binary), ("<".toList, .binary), (">".toList, .binary), ("^".toList, .binary)]

/-! ## Tokens -/

/-- What a token is. -/
inductive TokenKind where
  /-- A word that is not reserved. -/
  | name (text : Text)
  | keyword (word : Keyword) (text : Text)
  /-- A name with a namespace separator. -/
  | qualified
  | variable (v : Variable)
  | number
  /-- A string without interpolation. -/
  | string
  /-- The start of a string with interpolation. -/
  | opening
  /-- A literal part of such a string. -/
  | part
  /-- The end of such a string. -/
  | closing
  /-- A type in parentheses that converts the operand behind it. -/
  | cast
  /-- A visibility for writing, such as `private(set)`. -/
  | setVisibility
  /-- Text outside the tags. -/
  | html
  | openTag
  | echoTag
  | closeTag
  | symbol (s : Symbol)
  deriving DecidableEq, Repr

/-- A token and the byte offsets it covers. -/
structure Token where
  kind : TokenKind
  start : Nat
  stop : Nat
  deriving DecidableEq, Repr

end Accessors.Syntax
