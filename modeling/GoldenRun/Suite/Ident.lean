/-!
# Identifiers

A text becomes an identifier in lower case: words that run together are divided before a capital,
and every other character becomes an underscore. An identifier that could not stand in the listing
of a suite is preceded by two characters that make it harmless.
-/

namespace GoldenRun.Suite

/-- A text in lower case with underscores, given whether a small letter or a digit stands before
it. -/
def snake (divide : Bool) : List Char → List Char
  | [] => []
  | c :: rest =>
    if c.isUpper then (if divide then ['_'] else []) ++ c.toLower :: snake false rest
    else if c.isAlphanum then c :: snake true rest
    else '_' :: snake false rest

def keywords : List String :=
  ["abstract", "as", "async", "await", "become", "box", "break", "const", "continue", "crate",
   "do", "dyn", "else", "enum", "extern", "false", "final", "fn", "for", "gen", "if", "impl",
   "in", "let", "loop", "macro", "match", "mod", "move", "mut", "override", "priv", "pub", "ref",
   "return", "self", "static", "struct", "super", "trait", "true", "try", "type", "typeof",
   "unsafe", "unsized", "use", "virtual", "where", "while", "yield"]

/-- The names that every listing uses for something else. -/
def usedNames : List String :=
  ["harness", "rvtest_core", "std"]

/-- Whether a text could not stand in a listing as an identifier. -/
def isUnusable (ident : List Char) : Bool :=
  ident.isEmpty || ident.head?.any Char.isDigit || ident.all (· == '_')
    || keywords.contains (String.ofList ident) || usedNames.contains (String.ofList ident)

/-- The identifier of a text. -/
def ident (text : String) : String :=
  let plain := snake false text.toList
  String.ofList (if isUnusable plain then 't' :: '_' :: plain else plain)

end GoldenRun.Suite
