/-
Lines of a byte stream that arrives in chunks. A line ends at a line break;
what follows the last one is carried over to the next chunk.
-/
namespace Fleetkeeper.Http.Lines

/-- The byte that ends a line. -/
def lineBreak : UInt8 := 10

/-- The finished lines of some bytes, without their line breaks, and what
follows the last one. -/
def split : List UInt8 → List (List UInt8) × List UInt8
  | [] => ([], [])
  | b :: rest =>
    let (lines, carry) := split rest
    if b = lineBreak then ([] :: lines, carry)
    else
      match lines with
      | [] => ([], b :: carry)
      | line :: more => ((b :: line) :: more, carry)

/-- Take in a chunk behind what was carried over. -/
def feed (state : List (List UInt8) × List UInt8) (chunk : List UInt8) :
    List (List UInt8) × List UInt8 :=
  let (lines, carry) := split (state.2 ++ chunk)
  (state.1 ++ lines, carry)

/-- The finished lines of a stream, in order, and what follows the last
one. -/
def ofChunks (chunks : List (List UInt8)) : List (List UInt8) × List UInt8 :=
  chunks.foldl feed ([], [])

end Fleetkeeper.Http.Lines
