import LobsterServer.Host.Program

set_option autoImplicit false

/-!
# What programs share

Programs that work side by side share files, the channels that their streams lead to, and the
signals they send.  All that is written carries the moment when it was, so that what programs do
side by side can be told one after the other: a channel is put in order when it is read.
-/

namespace LobsterServer.Host

/-- Something written to a pipe. -/
structure Chunk where
  moment : Moment
  /-- the number of the program that wrote it -/
  writer : Nat
  bytes : Raw

/-- Where a stream leads to. -/
inductive Channel where
  /-- the end of a pipe that is written to: what was written, the last first, and until when
  programs hold it -/
  | sink (chunks : List Chunk) (holders : List (Nat × Moment))
  /-- the end of a pipe that is read from, and when it ends; `goesOn` says that what comes behind
  the chunks is the same again and again -/
  | source (chunks : List (Moment × Raw)) (ends : Moment) (goesOn : Bool)
  /-- a place in a file -/
  | file (place : Place) (offset : Nat) (appends : Bool)
  | null
  | zero
  | full

/-- A signal on its way. -/
structure Sent where
  moment : Moment
  target : Nat
  signal : Nat

/-- What programs share. -/
structure World where
  disk : Disk
  channels : Array Channel
  signals : List Sent
  /-- the number of the next program -/
  nextNumber : Nat

namespace World

/-- The world with one more channel, and its number. -/
def addChannel (w : World) (c : Channel) : World × Nat :=
  ({ w with channels := w.channels.push c }, w.channels.size)

/-- The world with a channel changed. -/
def setChannel (w : World) (n : Nat) (c : Channel) : World :=
  { w with channels := w.channels.setIfInBounds n c }

/-- A text with others written into it at a place, which fills a gap with zeros. -/
def overwrite (content : Raw) (offset : Nat) (bytes : Raw) : Raw :=
  content.take offset ++ List.replicate (offset - content.length) '\x00' ++ bytes
    ++ content.drop (offset + bytes.length)

/-- The content of a file after something is written to it, and the place behind that. -/
def writeFile (content : Raw) (offset : Nat) (appends : Bool) (bytes : Raw) : Raw × Nat :=
  if appends then (content ++ bytes, content.length + bytes.length)
  else (overwrite content offset bytes, offset + bytes.length)

/-- Writes to a channel; fails where there is no room. -/
def write (w : World) (n : Nat) (moment : Moment) (writer : Nat) (bytes : Raw) : World × Bool :=
  match w.channels[n]? with
  | some (.sink chunks holders) =>
    (w.setChannel n (.sink (⟨moment, writer, bytes⟩ :: chunks) holders), true)
  | some (.file place offset appends) =>
    match w.disk.at? place with
    | some (.data content runs) =>
      let (content, offset) := writeFile content offset appends bytes
      ({ w with disk := w.disk.put place (.data content runs) }.setChannel n
        (.file place offset appends), true)
    | _ => (w, true)
  | some .full => (w, false)
  | some (.source _ _ _) => (w, false)
  | _ => (w, true)

/-- How much a pipe holds. -/
def heldBytes (w : World) (n : Nat) : Nat :=
  match w.channels[n]? with
  | some (.sink chunks _) => chunks.foldl (fun n c => n + c.bytes.length) 0
  | _ => 0

/-- The world when a program has held a channel until a moment. -/
def hold (w : World) (n writer : Nat) (moment : Moment) : World :=
  match w.channels[n]? with
  | some (.sink chunks holders) => w.setChannel n (.sink chunks ((writer, moment) :: holders))
  | _ => w

/-- When the last program lets go of a channel. -/
def ends (w : World) (n : Nat) : Moment :=
  match w.channels[n]? with
  | some (.sink _ holders) => holders.foldl (fun m h => max m h.2) 0
  | some (.source _ ends _) => ends
  | _ => 0

/-- What was written to a channel, in order. -/
def chunks (w : World) (n : Nat) : List Chunk :=
  match w.channels[n]? with
  | some (.sink chunks _) => chunks.reverse.mergeSort fun a b => a.moment ≤ b.moment
  | _ => []

/-- All bytes that were written to a channel. -/
def output (w : World) (n : Nat) : Raw := (w.chunks n).flatMap Chunk.bytes

/-- The world where a pipe is to be read. -/
def turn (w : World) (n : Nat) (goesOn : Bool) : World :=
  w.setChannel n (.source ((w.chunks n).map fun c => (c.moment, c.bytes)) (w.ends n) goesOn)

/-- The world in which programs end early: those that `ends` says. -/
def cut (w : World) (ends : Nat → Bool) (moment : Moment) : World :=
  let cutChannel : Channel → Channel
    | .sink chunks holders =>
      .sink (chunks.filter fun c => !ends c.writer || c.moment ≤ moment)
        (holders.map fun h => if ends h.1 then (h.1, min moment h.2) else h)
    | c => c
  { w with channels := w.channels.map cutChannel }

/-! ## Reading -/

/-- All bytes that a channel has left for a reader, if it can be read. -/
def available (w : World) (n : Nat) : Option Raw :=
  match w.channels[n]? with
  | some (.source chunks _ _) => some (chunks.flatMap Prod.snd)
  | some (.file place offset _) => some ((w.disk.content? place).getD [] |>.drop offset)
  | some .null => some []
  | some .zero => some (List.replicate Task.endlessSample '\x00')
  | some .full => some (List.replicate Task.endlessSample '\x00')
  | _ => none

/-- Whether what comes behind the bytes of a channel is the same again and again. -/
def goesOn (w : World) (n : Nat) : Bool :=
  match w.channels[n]? with
  | some (.source _ _ goesOn) => goesOn
  | some .zero => true
  | some .full => true
  | _ => false

/-- Chunks without their first bytes, and when the last of those was there. -/
def takeChunks : Nat → Moment → List (Moment × Raw) → Moment × List (Moment × Raw)
  | 0, moment, chunks => (moment, chunks)
  | _, moment, [] => (moment, [])
  | n, moment, (m, bytes) :: rest =>
    if bytes.length ≤ n then takeChunks (n - bytes.length) (max moment m) rest
    else (max moment m, (m, bytes.drop n) :: rest)
termination_by _ _ chunks => chunks.length

/-- The world when a reader has taken some bytes, or all up to the end, and when it has them. -/
def take (w : World) (n : Nat) (count : Option Nat) : World × Moment :=
  match w.channels[n]?, count with
  | some (.source _ ends goesOn), none => (w.setChannel n (.source [] ends goesOn), ends)
  | some (.source chunks ends goesOn), some k =>
    let (moment, rest) := takeChunks k 0 chunks
    (w.setChannel n (.source rest ends goesOn), moment)
  | some (.file place offset appends), none =>
    let size := ((w.disk.content? place).getD []).length
    (w.setChannel n (.file place (max size offset) appends), 0)
  | some (.file place offset appends), some k =>
    let size := ((w.disk.content? place).getD []).length
    (w.setChannel n (.file place (min size (offset + k)) appends), 0)
  | some .zero, none => (w, never)
  | some .full, none => (w, never)
  | _, _ => (w, 0)

/-- The world when a reader of a pipe has also taken what was there besides.  Files are read no
further than needed. -/
def takeAhead (w : World) (n : Nat) (now : Moment) : World :=
  match w.channels[n]? with
  | some (.source chunks ends goesOn) =>
    w.setChannel n (.source (chunks.dropWhile fun c => c.1 ≤ now) ends goesOn)
  | _ => w

end World

end LobsterServer.Host
