/-
How a failed command is reported: what failed, and under it the causes, one
below the other.
-/
import Fleetkeeper.Fault

namespace Fleetkeeper.CommandLine

/-- A failed command. -/
structure Failure where
  message : String
  /-- What lies underneath, the nearest first. -/
  causes : List String := []
deriving DecidableEq, Repr

namespace Failure

/-- A fault with the fault it wraps, if it wraps one. -/
def chain (f : Fault) : List String := f.message :: f.source?.toList

/-- A command that failed with a fault. -/
def ofFault (f : Fault) : Failure := ⟨f.message, f.source?.toList⟩

/-- A fault as the cause of a failure. -/
def within (context : String) (f : Fault) : Failure := ⟨context, chain f⟩

/-- A cause, its later lines indented like the first. -/
def indent (start later cause : String) : String :=
  start ++ ("\n" ++ later).intercalate (cause.splitOn "\n")

/-- The causes as lines; several are numbered. -/
def causeLines : List String → List String
  | [] => []
  | [c] => [indent "    " "    " c]
  | cs => cs.zipIdx.map fun (c, i) =>
    indent ("    " ++ toString i ++ ": ") "       " c

/-- The report of a failure. -/
def report (f : Failure) : String :=
  let causes :=
    if f.causes = [] then [] else "" :: "Caused by:" :: causeLines f.causes
  "\n".intercalate (("Error: " ++ f.message) :: causes) ++ "\n"

end Failure

end Fleetkeeper.CommandLine
