/-! Sinks of bytes, which may take a part of what they are offered, and which may be full. -/

namespace RecordClass

/-- Why bytes cannot be written out. -/
inductive OutputFault where
  | sinkFull
  | noSuchPlace
  | isDirectory
  | notDirectory
  | nameTooLong
  | nulInName
  | other (text : String)
  deriving DecidableEq

/-- The wording of a fault. -/
def OutputFault.message : OutputFault → String
  | sinkFull => "failed to write whole buffer"
  | noSuchPlace => "No such file or directory (os error 2)"
  | isDirectory => "Is a directory (os error 21)"
  | notDirectory => "Not a directory (os error 20)"
  | nameTooLong => "File name too long (os error 36)"
  | nulInName => "file name contained an unexpected NUL byte"
  | other text => text

/-- A sink of bytes. -/
structure Sink where
  written : Array UInt8
  /-- How many more bytes it takes; no number when it takes any. -/
  room : Option Nat
  /-- How many bytes the sink would take of an offer, given how many offers came before it. -/
  pace : (offers offered : Nat) → Nat
  offers : Nat

namespace Sink

/-- The sink that takes everything at once. -/
def unbounded : Sink :=
  { written := #[], room := none, pace := fun _ offered => offered, offers := 0 }

/-- The sink that takes everything at once as long as there is room. -/
def ofRoom (room : Nat) : Sink :=
  { unbounded with room := some room }

/-- How many bytes of an offer the sink takes: at least one of them while there is room. -/
def taken (sink : Sink) (offered : Nat) : Nat :=
  -- A pace of none counts as one, since taking nothing means that the sink is full.
  let willing := min offered (max 1 (sink.pace sink.offers offered))
  match sink.room with
  | some room => min room willing
  | none => willing

/-- The sink after an offer, of which it keeps the first bytes. -/
def offer (sink : Sink) (bytes : List UInt8) : Sink :=
  let count := sink.taken bytes.length
  { sink with
    written := sink.written ++ bytes.take count
    room := sink.room.map (· - count)
    offers := sink.offers + 1 }

/-- Offers what is left of some bytes until nothing is left or the sink takes none of it. -/
def writeAll (sink : Sink) : List UInt8 → Except OutputFault Unit × Sink
  | [] => (.ok (), sink)
  | byte :: rest =>
    match sink.taken (rest.length + 1) with
    -- A sink that takes nothing now would never take the rest.
    | 0 => (.error .sinkFull, sink.offer (byte :: rest))
    | count + 1 => (sink.offer (byte :: rest)).writeAll (rest.drop count)
termination_by bytes => bytes.length
decreasing_by
  simp only [List.length_drop, List.length_cons]
  omega

end Sink

end RecordClass
