/-!
# Tools and files of a test

The programs that a test run launches, and what the files are for that it reads and writes.
-/

namespace GoldenRun

/-- A program that is launched. -/
inductive Tool
  | assembler
  | disassembler
  | simulator
  deriving DecidableEq, Repr

def Tool.label : Tool → String
  | assembler => "assembler"
  | disassembler => "disassembler"
  | simulator => "simulator"

/-- What a file is for. -/
inductive Role
  | source
  | object
  | listing
  | image
  | expected
  | actual
  | settings
  | suite
  deriving DecidableEq, Repr

def Role.label : Role → String
  | source => "assembly source"
  | object => "object"
  | listing => "disassembly"
  | image => "memory image"
  | expected => "expected result"
  | actual => "simulator result"
  | settings => "config"
  | suite => "generated suite"

end GoldenRun
