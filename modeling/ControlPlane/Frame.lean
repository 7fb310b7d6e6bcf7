import ControlPlane.SystemError

/-!
# Frames

On a connection a message travels as a frame: its length in four octets, the highest first, and
then its octets. Writer and reader refuse frames that are longer than a limit.

## Main definitions

- `Frame.write`: the octets that carry a frame.
- `Frame.writeAll`: frames are written to a stream, one after another.
- `Frame.read`: the first frame of a finished stream, or why there is none.
- `Frame.readAll`: the answers of reading a finished stream until it is closed.
-/

namespace ControlPlane.Frame

/-- The limit that is used unless something else is set: eight mebioctets. -/
def defaultLimit : Nat := 8 * 1024 * 1024

/-- The limit that takes effect: four octets cannot hold a longer length. -/
def effectiveLimit (limit : Nat) : Nat := min limit (UInt32.size - 1)

/-- A length in four octets, the highest first. -/
def lengthOctets (n : Nat) : List UInt8 :=
  [UInt8.ofNat (n >>> 24), UInt8.ofNat (n >>> 16), UInt8.ofNat (n >>> 8), UInt8.ofNat n]

/-- The length that four octets hold. -/
def lengthOf (a b c d : UInt8) : Nat :=
  ((a.toNat * 256 + b.toNat) * 256 + c.toNat) * 256 + d.toNat

/-- A frame is longer than the limit of its writer. -/
def tooLongToWrite : SystemError := .stream .invalidInput "frame size too big"

/-- A frame announces more octets than the limit of its reader. -/
def tooLongToRead : SystemError := .stream .invalidData "frame size too big"

/-- A stream ends inside a frame. -/
def truncated : SystemError := .stream .other "bytes remaining on stream"

/-- Whether a writer accepts a frame of the given length. -/
def check (limit length : Nat) : Except SystemError Unit :=
  if effectiveLimit limit < length then .error tooLongToWrite else .ok ()

/-- The octets that carry a frame. -/
def write (limit : Nat) (frame : List UInt8) : Except SystemError (List UInt8) :=
  (check limit frame.length).map fun () => lengthOctets frame.length ++ frame

/-- A frame is written to the end of a stream: the answer of the writer, and the stream after that.
A frame that is refused adds nothing. -/
def writeOn (limit : Nat) (stream frame : List UInt8) : Except SystemError Unit × List UInt8 :=
  match write limit frame with
  | .ok octets => (.ok (), stream ++ octets)
  | .error e => (.error e, stream)

/-- Frames are written to the end of a stream in order: the answers of the writer, and the stream
after that. -/
def writeAll (limit : Nat) (stream : List UInt8) :
    List (List UInt8) → List (Except SystemError Unit) × List UInt8
  | [] => ([], stream)
  | frame :: rest =>
    let (answer, stream) := writeOn limit stream frame
    let (answers, stream) := writeAll limit stream rest
    (answer :: answers, stream)

/-- What reading from a finished stream gives. -/
inductive Reception
  | frame (octets rest : List UInt8)
  | failed (error : SystemError)
  | closed
deriving DecidableEq

/-- The first frame of a finished stream. A stream that ends after a whole length and before the
first octet of the frame counts as closed; one that ends elsewhere inside a frame is truncated. -/
def read (limit : Nat) : List UInt8 → Reception
  | [] => .closed
  | a :: b :: c :: d :: rest =>
    let n := lengthOf a b c d
    if effectiveLimit limit < n then .failed tooLongToRead
    else if n ≤ rest.length then .frame (rest.take n) (rest.drop n)
    else if rest.isEmpty then .closed
    else .failed truncated
  | _ => .failed truncated

/-- One answer of a reader: a frame, or why there is none; `none` says that the stream is closed. -/
abbrev Answer := Except (Option SystemError) (List UInt8)

/-- The answers of reading at most `fuel` frames from a finished stream. After a failure the stream
is closed. -/
def readFrom (limit : Nat) : (fuel : Nat) → List UInt8 → List Answer
  | 0, _ => [.error none]
  | fuel + 1, stream =>
    match read limit stream with
    | .frame octets rest => .ok octets :: readFrom limit fuel rest
    | .failed e => [.error (some e), .error none]
    | .closed => [.error none]

/-- The answers of reading a finished stream until it is closed. A frame takes at least four octets,
so the length of the stream bounds their number. -/
def readAll (limit : Nat) (stream : List UInt8) : List Answer :=
  readFrom limit (stream.length + 1) stream

end ControlPlane.Frame
