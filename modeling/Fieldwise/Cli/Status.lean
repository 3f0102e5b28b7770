/-!
# Status lines

A status line is a word in brackets, which tells what kind of news it is, and the news. On a terminal
the word has a colour.
-/

namespace Fieldwise.Cli

/-- The kinds of news. -/
inductive StatusKind where
  | info
  | success
  | warning
  | error
  deriving BEq, DecidableEq, Repr

/-- The word for a kind. -/
def StatusKind.word : StatusKind → String
  | .info => "info"
  | .success => "ok"
  | .warning => "warning"
  | .error => "error"

/-- The number of a kind's colour in the codes of terminals. -/
def StatusKind.color : StatusKind → Nat
  | .info => 34
  | .success => 32
  | .warning => 33
  | .error => 31

/-- A status line, with the end of its line. -/
def StatusKind.line (kind : StatusKind) (message : String) (colored : Bool) : String :=
  let word :=
    if colored then "\x1b[" ++ toString kind.color ++ "m" ++ kind.word ++ "\x1b[39m" else kind.word
  "[" ++ word ++ "] " ++ message ++ "\n"

end Fieldwise.Cli
