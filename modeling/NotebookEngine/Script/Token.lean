/-
**Tokens of scripts.**

Main definitions:

* `Script.Lexeme` — what a token is;
* `Script.Token` — a token and where it stands;
* `Script.Lexeme.title` — how a token is named in messages;
* `Script.keywords`, `Script.isReserved` — words with a fixed meaning.
-/

import NotebookEngine.Script.Complaint

set_option autoImplicit false

namespace NotebookEngine

namespace Script

/-! ### Tokens -/

/-- What a token is. -/
inductive Lexeme where
  | finish
  /-- A word, and whether it was written with escapes. -/
  | word (text : String) (escaped : Bool)
  | number (value : Float) (raw : String)
  | bigint (value : Nat) (raw : String)
  | string (value raw : String)
  | regex (pattern flags : String)
  | backtick
  | punct (text : String)
  /-- Text that is no token. -/
  | bad (problem : Problem)
  deriving Inhabited

/-- A token and where it stands; characters are counted from zero. -/
structure Token where
  lexeme : Lexeme
  lo : Nat
  hi : Nat
  /-- Whether a line ends before the token. -/
  afterLineEnd : Bool
  /-- Faults that do not keep the text from being a token. -/
  issues : List Problem
  /-- The source from the token on. -/
  text : List Char
  /-- The source after the token. -/
  rest : List Char
  deriving Inhabited

/-! ### Words -/

/-- The words that are never names. -/
def keywords : List String :=
  ["await", "break", "case", "catch", "class", "const", "continue", "debugger", "default", "delete",
    "do", "else", "export", "extends", "false", "finally", "for", "function", "if", "import", "in",
    "instanceof", "let", "new", "null", "return", "super", "switch", "this", "throw", "true", "try",
    "typeof", "var", "void", "while", "with", "yield"]

/-- The words that are no names in strict code either. -/
def strictWords : List String :=
  ["enum", "implements", "interface", "package", "private", "protected", "public", "static"]

/-- Whether a word cannot be a name in a module. -/
def isReserved (word : String) : Bool := keywords.contains word || strictWords.contains word

/-- The words that have a meaning in some places and are named by themselves in messages. -/
def knownWords : List String :=
  ["abstract", "accessor", "any", "as", "assert", "asserts", "async", "bigint", "boolean",
    "constructor", "declare", "from", "get", "global", "infer", "intrinsic", "is", "keyof", "meta",
    "module", "namespace", "never", "number", "object", "of", "out", "override", "readonly",
    "require", "satisfies", "set", "string", "symbol", "target", "type", "undefined", "unique",
    "unknown", "using"]

/-- How a token is named in messages. -/
def Lexeme.title : Lexeme → String
  | .finish => "<eof>"
  | .word w _ =>
    if isReserved w || knownWords.contains w then w else "ident"
  | .number _ _ => "numeric literal"
  | .bigint _ _ => "bigint literal"
  | .string _ _ => "string literal"
  | .regex _ _ => "regexp literal"
  | .backtick => "\x60"
  | .punct s => s
  | .bad _ => "<lexing error>"

namespace Token

/-- Whether the token is a mark. -/
def isPunct (t : Token) (s : String) : Bool :=
  match t.lexeme with
  | .punct p => p = s
  | _ => false

/-- The text of a word. -/
def word? (t : Token) : Option String :=
  match t.lexeme with
  | .word w _ => some w
  | _ => none

/-- Whether the token is a word without escapes. -/
def isWord (t : Token) (s : String) : Bool :=
  match t.lexeme with
  | .word w escaped => w = s && !escaped
  | _ => false

/-- Whether the token is any word. -/
def isAnyWord (t : Token) : Bool := t.word?.isSome

/-- Whether the text is at its end. -/
def isFinish (t : Token) : Bool :=
  match t.lexeme with
  | .finish => true
  | _ => false

/-- Whether the token can be a name that is referred to. A word that starts with an escape is none of
those with a meaning of their own. -/
def isNameRef (t : Token) : Bool :=
  match t.lexeme with
  | .word w escaped => if escaped then !strictWords.contains w else !isReserved w
  | _ => false

end Token

end Script

end NotebookEngine
