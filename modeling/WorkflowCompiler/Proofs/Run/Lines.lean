import WorkflowCompiler.Run.Pump

/-!
Lines of a stream. A pump gives the lines of the bytes it has read, however the reads cut them:
every line that a line feed ends, and, when the stream ends, what follows the last line feed
unless nothing does.
-/
namespace WorkflowCompiler.Run

/-- What the end of a stream makes of the bytes after the last line feed. -/
def lastLine (rest : List UInt8) : Option String :=
  if withoutReturn rest = [] then none else some (lineText rest)

/-- The lines of a stream: the text before each line feed, and the text after the last one. -/
def lineList (bytes : List UInt8) : List String :=
  let parts := bytes.splitOn 10
  parts.dropLast.map lineText ++ (parts.getLast?.bind lastLine).toList

/-- The lines of a stream that gives these bytes and then ends or faults. -/
def linesUntil (fault : Option String) (bytes : List UInt8) : List String :=
  (cutLines bytes).1.map lineText ++
    if fault = none then (lastLine (cutLines bytes).2).toList else []

def Source.bytes (source : Source) : List UInt8 := source.chunks.flatten

theorem cutLines_append_feed {line : List UInt8} (noFeed : 10 ∉ line) (rest : List UInt8) :
    cutLines (line ++ 10 :: rest) = (line :: (cutLines rest).1, (cutLines rest).2) := by
  induction line with
  | nil => simp [cutLines]
  | cons byte line ih =>
    have notFeed : byte ≠ 10 := fun same => noFeed (by simp [same])
    have later : 10 ∉ line := fun inside => noFeed (List.mem_cons_of_mem byte inside)
    simp [cutLines, notFeed, ih later]

theorem cutLines_of_notMem {bytes : List UInt8} (noFeed : 10 ∉ bytes) :
    cutLines bytes = ([], bytes) := by
  induction bytes with
  | nil => rfl
  | cons byte bytes ih =>
    have notFeed : byte ≠ 10 := fun same => noFeed (by simp [same])
    have later : 10 ∉ bytes := fun inside => noFeed (List.mem_cons_of_mem byte inside)
    simp [cutLines, notFeed, ih later]

/-- The lines and the rest are the parts between the line feeds. -/
theorem splitOn_feed (bytes : List UInt8) :
    bytes.splitOn 10 = (cutLines bytes).1 ++ [(cutLines bytes).2] := by
  induction bytes with
  | nil => rfl
  | cons byte bytes ih =>
    rw [List.splitOn_cons_eq_if_modifyHead, ih, cutLines]
    by_cases feed : byte = 10
    · simp [feed]
    · cases cut : (cutLines bytes).1 <;> simp [feed, cut]

/-- Nothing is left to cut after the last line feed. -/
theorem cutLines_rest (bytes : List UInt8) :
    cutLines (cutLines bytes).2 = ([], (cutLines bytes).2) := by
  induction bytes with
  | nil => rfl
  | cons byte bytes ih =>
    by_cases feed : byte = 10
    · simp [cutLines, feed, ih]
    · cases cut : (cutLines bytes).1 <;> simp [cutLines, feed, cut, ih]

/-- Cutting goes on where it stopped. -/
theorem cutLines_append (front back : List UInt8) :
    cutLines (front ++ back) =
      ((cutLines front).1 ++ (cutLines ((cutLines front).2 ++ back)).1,
        (cutLines ((cutLines front).2 ++ back)).2) := by
  induction front with
  | nil => simp [cutLines]
  | cons byte front ih =>
    by_cases feed : byte = 10
    · simp [cutLines, feed, ih]
    · cases cut : (cutLines front).1 <;> simp [cutLines, feed, cut, ih]

theorem linesUntil_none (bytes : List UInt8) : linesUntil none bytes = lineList bytes := by
  simp [linesUntil, lineList, splitOn_feed]

theorem linesUntil_append_feed {line : List UInt8} (noFeed : 10 ∉ line) (fault : Option String)
    (rest : List UInt8) :
    linesUntil fault (line ++ 10 :: rest) = lineText line :: linesUntil fault rest := by
  simp [linesUntil, cutLines_append_feed noFeed]

theorem linesUntil_of_notMem {bytes : List UInt8} (noFeed : 10 ∉ bytes) (fault : Option String) :
    linesUntil fault bytes = if fault = none then (lastLine bytes).toList else [] := by
  simp [linesUntil, cutLines_of_notMem noFeed]

namespace Pump

/-- Feeding chunks is feeding all of their bytes at once. -/
theorem foldl_feed (chunks : List (List UInt8)) (pump : Pump)
    (uncut : cutLines pump.pending = ([], pump.pending)) :
    chunks.foldl feed pump =
      ⟨pump.total + chunks.flatten.length, (cutLines (pump.pending ++ chunks.flatten)).2,
        pump.lines ++ (cutLines (pump.pending ++ chunks.flatten)).1.map lineText⟩ := by
  induction chunks generalizing pump with
  | nil => simp [uncut]
  | cons chunk chunks ih =>
    rw [List.foldl_cons, feed, ih _ (cutLines_rest _), List.flatten_cons, ← List.append_assoc,
      cutLines_append (pump.pending ++ chunk)]
    simp [Nat.add_assoc]

theorem finish_lines (pump : Pump) :
    pump.finish.lines = pump.lines ++ (lastLine pump.pending).toList := by
  unfold finish lastLine
  split <;> simp

end Pump

/-- A pump gives the lines of its stream, however the chunks are cut. -/
theorem pumpLines_eq (source : Source) :
    pumpLines source =
      (linesUntil source.fault source.bytes,
        match source.fault with
        | some fault => .error fault
        | none => .ok source.bytes.length) := by
  have read : source.chunks.foldl Pump.feed .start =
      ⟨source.bytes.length, (cutLines source.bytes).2, (cutLines source.bytes).1.map lineText⟩ := by
    simpa [Pump.start, Source.bytes] using Pump.foldl_feed source.chunks .start rfl
  cases fault : source.fault with
  | none => simp [pumpLines, fault, read, Pump.finish_lines, linesUntil]
  | some detail => simp [pumpLines, fault, read, linesUntil]

end WorkflowCompiler.Run
