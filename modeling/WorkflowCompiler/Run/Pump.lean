import WorkflowCompiler.Text.Utf8

/-!
Pumps: they turn the bytes of a stream into lines. Bytes come in chunks, and where a chunk ends
means nothing: a pump keeps what it has of a line until the line feed comes.
-/
namespace WorkflowCompiler.Run

inductive Stream
  | output
  | errors
  deriving DecidableEq, Repr

def Stream.name : Stream → String
  | .output => "stdout"
  | .errors => "stderr"

/-- The lines that end in a line feed, without it, and what comes after the last one. -/
def cutLines : List UInt8 → List (List UInt8) × List UInt8
  | [] => ([], [])
  | byte :: rest =>
    let (lines, last) := cutLines rest
    if byte = 10 then ([] :: lines, last)
    else match lines with
      | [] => ([], byte :: last)
      | line :: others => ((byte :: line) :: others, last)

def withoutReturn (line : List UInt8) : List UInt8 :=
  if line.getLast? = some 13 then line.dropLast else line

def lineText (line : List UInt8) : String :=
  Text.decodeTolerantly (withoutReturn line)

/-- A pump that has read some bytes. -/
structure Pump where
  /-- How many bytes were read. The bytes of a chunk have been in memory when they are added, so a
  counter of 64 bits does not wrap around either: at a gigabyte in a second it lasts for five
  centuries. -/
  total : Nat
  /-- The line that has no line feed yet. -/
  pending : List UInt8
  lines : List String
  deriving DecidableEq, Repr

namespace Pump

def start : Pump := ⟨0, [], []⟩

def feed (pump : Pump) (chunk : List UInt8) : Pump :=
  let (lines, pending) := cutLines (pump.pending ++ chunk)
  ⟨pump.total + chunk.length, pending, pump.lines ++ lines.map lineText⟩

/-- At the end of the stream the last line needs no line feed, but it has to say something. -/
def finish (pump : Pump) : Pump :=
  if withoutReturn pump.pending = [] then { pump with pending := [] }
  else { pump with pending := [], lines := pump.lines ++ [lineText pump.pending] }

end Pump

/-- What a stream gives: chunks, and then its end or a fault. -/
structure Source where
  chunks : List (List UInt8)
  fault : Option String
  deriving DecidableEq, Repr

/-- The lines of a source, and how many bytes it gave unless it ended in a fault. -/
def pumpLines (source : Source) : List String × Except String Nat :=
  let pump := source.chunks.foldl Pump.feed .start
  match source.fault with
  | some fault => (pump.lines, .error fault)
  | none => (pump.finish.lines, .ok pump.total)

end WorkflowCompiler.Run
