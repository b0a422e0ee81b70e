import GoldenRun.Suite.Ident
import GoldenRun.Text.Quoted
import GoldenRun.Trial.Name

/-!
# Listings of suites

A suite is listed as a program text with one test function for each test of a category, in the
order of the tests. Two tests must not have the same identifier.
-/

namespace GoldenRun.Suite

def header : String :=
  "// This is a generated file. Do not add to git.\n"

/-- What every listing begins with, behind its first line. -/
def preamble : String :=
  "// Regenerate with `rvtest generate` whenever the assembly corpus changes.\n"
    ++ "\n"
    ++ "use std::sync::OnceLock;\n"
    ++ "\n"
    ++ "use rvtest_core::Harness;\n"
    ++ "\n"
    ++ "static HARNESS: OnceLock<Harness> = OnceLock::new();\n"
    ++ "\n"
    ++ "fn harness() -> &'static Harness \x7b\n"
    ++ "    HARNESS.get_or_init(|| Harness::from_env().unwrap_or_else(|e| panic!(\"\x7be\x7d\")))\n"
    ++ "\x7d\n"

def quoted (text : String) : String :=
  String.ofList (Text.Quoted.encode text.toList)

def stanza (category name : String) : String :=
  "\n    #[test]\n"
    ++ "    fn " ++ ident name ++ "() \x7b\n"
    ++ "        let mut case = harness()\n"
    ++ "            .case(" ++ quoted category ++ ", " ++ quoted name ++ ")\n"
    ++ "            .unwrap_or_else(|e| panic!(\"\x7be\x7d\"));\n"
    ++ "        let result = case.run_detailed().unwrap_or_else(|e| panic!(\"\x7be\x7d\"));\n"
    ++ "        assert!(result.passed, \"\x7b\x7d: \x7bresult\x7d\", case.id());\n"
    ++ "    \x7d\n"

/-- Checks names in turn, given the identifiers that are taken and by which names. -/
def check (category : String) (taken : List (String × String)) : List String → Except Failure Unit
  | [] => .ok ()
  | name :: rest =>
    match Trial.checkName category name with
    | .error failure => .error failure
    | .ok () =>
      match taken.lookup (ident name) with
      | some first => .error (.nameClash first name (ident name))
      | none => check category ((ident name, name) :: taken) rest

def text (category : String) (names : List String) : String :=
  header ++ preamble
    ++ "\nmod " ++ ident category ++ " \x7b\n"
    ++ "    use super::harness;\n"
    ++ String.join (names.map (stanza category))
    ++ "\x7d\n"

def render (category : String) (names : List String) : Except Failure String := do
  check category [] names
  return text category names

end GoldenRun.Suite
