import GoldenRun.Fault
import GoldenRun.Text.Utf8

/-!
# Streams

What reading a file to its end meets: its content, and then either a clean end or a fault.
-/

namespace GoldenRun

/-- A content, and the fault that reading past it meets, if any. -/
structure Stream where
  content : Bytes
  fault : Option Fault := none
  deriving DecidableEq

end GoldenRun
