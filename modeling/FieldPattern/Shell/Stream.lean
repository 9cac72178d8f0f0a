import FieldPattern.Machine.Disk
import FieldPattern.Shell.Bytes

/-! # Streams

A command reads and writes through numbered streams: `0` is its input, `1` its output, `2` its
stream for errors.  A stream leads to a *channel*, and several streams may lead to the same one;
a channel keeps its position, so what one command has read the next one does not read again.

Channels are numbered in the order in which they are opened.  `Streams` holds them together with
the disk, on which the files among them stand.  A pipe, whose reader may stop reading, takes only
so much. -/

namespace FieldPattern.Shell

open Machine (Device Disk Host Location Node streamAt?)

/-- Where a stream leads to. -/
inductive Channel where
  /-- A store for what is written, last text first; `room` is how much a pipe still takes. -/
  | sink (room : Option Nat) (texts : List (List Char))
  /-- Bytes that are read from a position on: those of a device, or what is in a pipe. -/
  | source (origin : Option Device) (bytes : ByteArray) (position : Nat)
  /-- A file, read and written from a position on; `appends` if it is only added to. -/
  | file (location : Location) (position : Nat) (appends : Bool)
  /-- A device that is written to. -/
  | device (d : Device)
deriving Inhabited

namespace Channel

/-- A channel from which nothing can be read. -/
def nothing : Channel := .source (some .null) ByteArray.empty 0

end Channel

/-- The channels that have been opened, the streams that lead to them, and the machine. -/
structure Streams where
  channels : Array Channel
  table : List (Nat × Nat)
  host : Host

namespace Streams

/-- How much a pipe takes. -/
def maxPipe : Nat := 1000000

/-- How much of a pipe a text takes: short texts take more than their bytes. -/
def share (text : List Char) : Nat := 6 + text.length / 8

/-- Streams with nothing to read and two empty sinks. -/
def start (host : Host) : Streams :=
  ⟨#[.nothing, .sink none [], .sink none []], [(0, 0), (1, 1), (2, 2)], host⟩

/-- The channel of a stream. -/
def channel? (s : Streams) (stream : Nat) : Option Channel :=
  (s.table.lookup stream).bind fun k => s.channels[k]?

/-- Let a stream lead to the channel with number `k`. -/
def connect (s : Streams) (stream k : Nat) : Streams :=
  { s with table := (stream, k) :: s.table.filter fun p => p.1 != stream }

/-- Close a stream. -/
def close (s : Streams) (stream : Nat) : Streams :=
  { s with table := s.table.filter fun p => p.1 != stream }

/-- Open a channel, and let a stream lead to it. -/
def openAs (s : Streams) (stream : Nat) (c : Channel) : Streams :=
  connect { s with channels := s.channels.push c } stream s.channels.size

/-- What a sink has taken. -/
def taken (s : Streams) (k : Nat) : List Char :=
  match s.channels[k]? with
  | some (.sink _ texts) => texts.reverse.flatten
  | _ => []

/-- The streams as they were before the last channels were opened, but for what other streams
have come to lead to. -/
def restore (s before : Streams) (streams : List Nat) : Streams :=
  let back (t : List (Nat × Nat)) (stream : Nat) : List (Nat × Nat) :=
    let others := t.filter fun p => p.1 != stream
    match before.table.lookup stream with
    | some k => (stream, k) :: others
    | none => others
  let table := streams.foldl back s.table
  let size := before.channels.size
  let channels := if table.all fun p => p.2 < size then s.channels.take size else s.channels
  { s with channels := channels, table := table }

/-- The bytes of the file at a location. -/
def contentAt (s : Streams) (l : Location) : ByteArray :=
  match s.host.disk.node? l with
  | some (.file content) => content
  | _ => ByteArray.empty

/-- What happens to something written. -/
inductive Writing where
  | done (s : Streams)
  /-- The stream is closed, or can only be read, or there is no room. -/
  | refused (cause : String)
  /-- The pipe takes no more. -/
  | broken

/-- Why nothing is written to a stream that is closed or can only be read. -/
def badStream : String := "Bad file descriptor"

/-- Write to a stream. -/
def write (s : Streams) (stream : Nat) (text : List Char) : Writing :=
  match s.table.lookup stream with
  | none => .refused badStream
  | some k =>
      match s.channels[k]? with
      | some (.sink room texts) =>
          if room = some 0 then .broken
          else
            let sink : Channel := .sink (room.map fun r => r - share text) (text :: texts)
            .done { s with channels := s.channels.set! k sink }
      | some (.device .full) => .refused "No space left on device"
      | some (.device _) => .done s
      | some (.file l position appends) =>
          let old := s.contentAt l
          let position := if appends then old.size else position
          let fresh := toBytes text
          let gap : ByteArray := ⟨(List.replicate (position - old.size) 0).toArray⟩
          let whole := old.extract 0 position ++ gap ++ fresh
            ++ old.extract (position + fresh.size) old.size
          .done { s with
            channels := s.channels.set! k (.file l (position + fresh.size) appends)
            host := { s.host with disk := s.host.disk.put l (.file whole) } }
      | _ => .refused badStream

/-- Read the next byte of a stream. -/
def readByte (s : Streams) (stream : Nat) : Option (Char × Streams) :=
  match s.table.lookup stream with
  | none => none
  | some k =>
      match s.channels[k]? with
      | some (.source origin bytes position) =>
          if position < bytes.size then
            some (charOf (bytes.get! position),
              { s with channels := s.channels.set! k (.source origin bytes (position + 1)) })
          else none
      | some (.file l position appends) =>
          let bytes := s.contentAt l
          if position < bytes.size then
            some (charOf (bytes.get! position),
              { s with channels := s.channels.set! k (.file l (position + 1) appends) })
          else none
      | _ => none

/-- What is left to read of a stream. -/
def left (s : Streams) (stream : Nat) : List Char :=
  match s.channel? stream with
  | some (.source _ bytes position) => (bytes.toList.drop position).map charOf
  | some (.file l position _) => ((s.contentAt l).toList.drop position).map charOf
  | _ => []

/-- Skip what is left to read of a stream. -/
def skipLeft (s : Streams) (stream : Nat) : Streams :=
  match s.table.lookup stream with
  | none => s
  | some k =>
      match s.channels[k]? with
      | some (.source origin bytes _) =>
          { s with channels := s.channels.set! k (.source origin bytes bytes.size) }
      | some (.file l _ appends) =>
          { s with channels := s.channels.set! k (.file l (s.contentAt l).size appends) }
      | _ => s

/-! ### Opening files -/

/-- The words of a shell for what keeps a file from being opened; `missing` is what it says if
there is none. -/
def causeText (missing : String) : Machine.FileCause → String
  | .notFound | .notADirectory => missing
  | cause => cause.words

/-- What a path leads to. -/
inductive Target where
  | node (n : Node)
  /-- The pipe that is a channel of this number. -/
  | pipe (channel : Nat)

/-- Where a path leads, and what stands there. A path may name a stream, and then leads where the
stream does. -/
def target (s : Streams) (path : String) :
    Except Machine.FileCause (Location × Option Target) := do
  let place ← s.host.find (decode path)
  let l := place.location
  match place.node, (streamAt? l).bind fun k => s.table.lookup k with
  | some n, _ => return (l, some (.node n))
  | none, none => return (l, none)
  | none, some k =>
      match s.channels[k]? with
      | some (.file l _ _) => return (l, (s.host.disk.node? l).map .node)
      | some (.source (some d) _ _) | some (.device d) => return (l, some (.node (.device d)))
      | _ => return (l, some (.pipe k))

/-- Why a stream cannot be read. -/
def unreadable? (s : Streams) (stream : Nat) : Option Machine.FileCause :=
  match s.channel? stream with
  | some (.file l _ _) =>
      match s.host.disk.node? l with
      | some .directory => some .isADirectory
      | _ => none
  | some _ => none
  | none => some .closed

/-- What can be read of the file behind a stream, from its start if it is on the disk. -/
def whole? (s : Streams) (stream : Nat) : Option (List Char) :=
  match s.channel? stream with
  | some (.file l _ _) => some ((s.contentAt l).toList.map charOf)
  | some _ => some (s.left stream)
  | none => none

/-- Open a file for reading, or say why not. -/
def openInput (s : Streams) (stream : Nat) (path : String) : Except String Streams :=
  let missing := "No such file"
  match s.target path with
  | .error cause => .error (causeText missing cause)
  | .ok (_, none) => .error missing
  | .ok (_, some (.pipe k)) => .ok (s.connect stream k)
  | .ok (l, some (.node n)) =>
      match n with
      | .device d =>
          match d.content with
          | .ok bytes => .ok (s.openAs stream (.source (some d) bytes 0))
          | .error cause => .error (causeText missing cause)
      | .program _ => .ok (s.openAs stream (.source none Machine.programBytes 0))
      | _ => .ok (s.openAs stream (.file l 0 false))

/-- What happens to a file that is opened for writing. -/
inductive Opening where
  | emptied
  /-- It is only added to. -/
  | appended
  /-- It is written over from its start. -/
  | kept
  /-- It must not be there. -/
  | created
deriving DecidableEq

/-- Open a file for writing, or say why not. -/
def openOutput (s : Streams) (stream : Nat) (path : String) (way : Opening) :
    Except String Streams :=
  let missing := "Directory nonexistent"
  match s.target path with
  | .error cause => .error (causeText missing cause)
  | .ok (_, some (.pipe k)) => .ok (s.connect stream k)
  | .ok (_, some (.node .directory)) => .error "Is a directory"
  | .ok (_, some (.node (.device .terminal))) => .error (causeText missing .noDevice)
  | .ok (_, some (.node (.device d))) => .ok (s.openAs stream (.device d))
  | .ok (l, node) =>
      if (streamAt? l).isSome then .error missing
      else if node.isNone && Machine.Path.endsWithSlash path then .error "Is a directory"
      else if node.isSome && way = .created then .error "File exists"
      else
        let stays := node.isSome && (way = .appended || way = .kept)
        let disk := if stays then s.host.disk
          else s.host.disk.put l (.file ByteArray.empty)
        .ok (openAs { s with host := { s.host with disk := disk } } stream
          (.file l 0 (way == .appended)))

end Streams

end FieldPattern.Shell
