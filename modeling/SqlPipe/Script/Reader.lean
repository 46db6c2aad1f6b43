import SqlPipe.Failure
import SqlPipe.Script.Splitter
import SqlPipe.Statement

/-!
# Reading statements from a stream

A stream is the list of what its reads deliver: a piece of bytes, an empty piece at the end, or a
failure.  The reader asks for more input only when the input so far completes no statement, so a
failed read loses nothing and reading can go on after it.
-/

namespace SqlPipe.Script

/-- What a read delivers. -/
inductive Delivery
  | bytes (chunk : List UInt8)
  | failed (reason : String)
  deriving DecidableEq, Repr

def chunkSize : Nat := 65536

/-- A reader in front of the reads that a stream will deliver. -/
structure Reader where
  splitter : Splitter
  stream : List Delivery
  atEnd : Bool
  deriving DecidableEq, Repr

namespace Reader

def open_ (dialect : Dialect) (stream : List Delivery) : Reader where
  splitter := .empty dialect
  stream := stream
  atEnd := false

/-- Reads until a statement is complete.  A stream that has delivered everything delivers empty
pieces. -/
def next? (reader : Reader) : Except Failure (Option Statement) × Reader :=
  match reader.splitter.next? reader.atEnd with
  | (some text, splitter) =>
      (.ok (some ⟨text, splitter.dialect⟩), { reader with splitter := splitter })
  | (none, splitter) =>
      if reader.atEnd then (.ok none, { reader with splitter := splitter })
      else
        match _hstream : reader.stream with
        | [] => next? { reader with splitter := splitter, atEnd := true }
        | .failed reason :: stream =>
            (.error (.io reason), { reader with splitter := splitter, stream := stream })
        | .bytes [] :: stream =>
            next? { splitter := splitter, stream := stream, atEnd := true }
        | .bytes chunk :: stream =>
            next? { splitter := splitter.feed chunk, stream := stream, atEnd := false }
termination_by (if reader.atEnd then 0 else 1, reader.stream.length)
decreasing_by
  all_goals simp_all
  · exact Prod.Lex.left _ _ (by decide)
  · exact Prod.Lex.left _ _ (by decide)
  · exact Prod.Lex.right _ (by omega)

end Reader

def chunksOf (bytes : List UInt8) : List (List UInt8) :=
  if bytes.length ≤ chunkSize then [bytes]
  else bytes.take chunkSize :: chunksOf (bytes.drop chunkSize)
termination_by bytes.length
decreasing_by
  simp only [List.length_drop, chunkSize] at *
  omega

end SqlPipe.Script
