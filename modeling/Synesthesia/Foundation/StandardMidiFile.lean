import Mathlib
import Synesthesia.Foundation.Bytes

namespace Synesthesia
namespace Foundation
namespace StandardMidiFile

/-!
# A reader for format-0 Standard MIDI Files

One header chunk, one track chunk, nothing after it.  A track is a sequence of
events, each opened by a variable-length delta that elapses at the tempo in
force before the event is read.  The reader keeps the tempo, the clock in
microseconds as an exact rational, and the channel messages heard so far with
the time of each.  It accepts running status and skips meta events it has no
use for, as any player does; it refuses what it cannot parse.
-/

/-- A channel voice message: the status nibble, the channel and the data bytes. -/
structure ChannelMessage where
  kind : Nat
  channel : Nat
  data : List Nat
deriving DecidableEq, Repr

inductive TrackEvent where
  | message (status : UInt8) (message : ChannelMessage)
  | tempo (microsecondsPerQuarter : Nat)
  | endOfTrack
  | otherMeta
deriving DecidableEq, Repr

/-- What a player knows while it walks the track. -/
structure Playback where
  tempo : Nat
  running : Option UInt8
  clock : ℚ
  heard : List (ℚ × ChannelMessage)
deriving DecidableEq

/-- Until a tempo event is read, a quarter note lasts half a second. -/
def Playback.start : Playback := ⟨500000, none, 0, []⟩

/-- Let a number of ticks elapse at the tempo in force. -/
def Playback.elapse (playback : Playback) (division ticks : Nat) : Playback :=
  { playback with clock := playback.clock + (ticks * playback.tempo : ℚ) / division }

def Playback.setTempo (playback : Playback) (tempo : Nat) : Playback :=
  { playback with tempo := tempo, running := none }

def Playback.hear (playback : Playback) (status : UInt8) (message : ChannelMessage) : Playback :=
  { playback with
    running := some status
    heard := playback.heard ++ [(playback.clock, message)] }

@[simp] theorem Playback.clock_setTempo (playback : Playback) (tempo : Nat) :
    (playback.setTempo tempo).clock = playback.clock := rfl

@[simp] theorem Playback.heard_setTempo (playback : Playback) (tempo : Nat) :
    (playback.setTempo tempo).heard = playback.heard := rfl

@[simp] theorem Playback.heard_elapse (playback : Playback) (division ticks : Nat) :
    (playback.elapse division ticks).heard = playback.heard := rfl

@[simp] theorem Playback.clock_elapse (playback : Playback) (division ticks : Nat) :
    (playback.elapse division ticks).clock =
      playback.clock + (ticks * playback.tempo : ℚ) / division := rfl

@[simp] theorem Playback.clock_hear (playback : Playback) (status : UInt8)
    (message : ChannelMessage) : (playback.hear status message).clock = playback.clock := rfl

@[simp] theorem Playback.heard_hear (playback : Playback) (status : UInt8)
    (message : ChannelMessage) :
    (playback.hear status message).heard = playback.heard ++ [(playback.clock, message)] := rfl

/-- The number of data bytes of a channel message. -/
def dataLength (kind : Nat) : Nat := if kind = 12 ∨ kind = 13 then 1 else 2

/-- Read the data bytes of a channel message with a known status byte. -/
def readChannelMessage (status : UInt8) (bytes : Bytes) : Option (TrackEvent × Bytes) := do
  let kind := status.toNat / 16
  let (payload, rest) ← takeBytes (dataLength kind) bytes
  if status.toNat < 240 ∧ payload.all (fun byte => byte.toNat < 128) then
    some (.message status ⟨kind, status.toNat % 16, payload.map UInt8.toNat⟩, rest)
  else none

/-- Read the kind, length and payload of a meta event. -/
def readMeta (bytes : Bytes) : Option (TrackEvent × Bytes) :=
  match bytes with
  | [] => none
  | kind :: rest => do
      let (length, rest) ← readVariableLength 4 0 rest
      let (payload, rest) ← takeBytes length rest
      if kind = 0x51 then
        if length = 3 then some (.tempo (bigEndianValue payload), rest) else none
      else if kind = 0x2F then
        if length = 0 then some (.endOfTrack, rest) else none
      else some (.otherMeta, rest)

def readTrackEvent (running : Option UInt8) (bytes : Bytes) : Option (TrackEvent × Bytes) :=
  match bytes with
  | [] => none
  | status :: rest =>
      if status = 0xFF then readMeta rest
      else if status.toNat < 128 then
        running.bind (fun previous => readChannelMessage previous (status :: rest))
      else readChannelMessage status rest

/-- Walk the events of a track.  Every event consumes bytes, so the length of
the track is enough fuel. -/
def readTrack (division : Nat) : Nat → Playback → Bytes → Option Playback
  | 0, _, _ => none
  | fuel + 1, playback, bytes => do
      let (delta, rest) ← readVariableLength 4 0 bytes
      let playback := playback.elapse division delta
      let (event, rest) ← readTrackEvent playback.running rest
      match event with
      | .endOfTrack => if rest = [] then some playback else none
      | .tempo tempo => readTrack division fuel (playback.setTempo tempo) rest
      | .message status message => readTrack division fuel (playback.hear status message) rest
      | .otherMeta => readTrack division fuel { playback with running := none } rest

/-- A parsed file: the division and the declared track length of its chunks,
the channel messages with their times and the time of the end of the track. -/
structure File where
  division : Nat
  trackLength : Nat
  messages : List (ℚ × ChannelMessage)
  endTime : ℚ
deriving DecidableEq

/-- The header of a format-0 file with one track: chunk name, header length,
format, number of tracks, then the ticks of a quarter note. -/
def headerBytes (division : Nat) : Bytes :=
  [0x4D, 0x54, 0x68, 0x64] ++ bigEndian 4 6 ++ bigEndian 2 0 ++ bigEndian 2 1 ++
    bigEndian 2 division

def trackName : Bytes := [0x4D, 0x54, 0x72, 0x6B]

/-- Read a whole file.  The declared track length must be exactly the number
of bytes that follow. -/
def readFile (bytes : Bytes) : Option File := do
  let (header, rest) ← takeBytes 12 bytes
  let (division, rest) ← takeBytes 2 rest
  let (name, rest) ← takeBytes 4 rest
  let (length, track) ← takeBytes 4 rest
  let division := bigEndianValue division
  if header = (headerBytes 0).take 12 ∧ division < 32768 ∧ name = trackName ∧
      bigEndianValue length = track.length then do
    let playback ← readTrack division track.length Playback.start track
    some ⟨division, track.length, playback.heard, playback.clock⟩
  else none

/-! ## Writing a track -/

/-- The bytes of an event, its status byte always explicit. -/
def TrackEvent.bytes : TrackEvent → Bytes
  | .message status voice => status :: voice.data.map UInt8.ofNat
  | .tempo speed => [0xFF, 0x51, 0x03] ++ bigEndian 3 speed
  | .endOfTrack => [0xFF, 0x2F, 0x00]
  | .otherMeta => []

/-- The events whose bytes read back: a message agrees with its status byte,
and a tempo fits its three bytes. -/
def TrackEvent.Writable : TrackEvent → Prop
  | .message status voice =>
      128 ≤ status.toNat ∧ status.toNat < 240 ∧ voice.kind = status.toNat / 16 ∧
        voice.channel = status.toNat % 16 ∧
        voice.data.length = dataLength voice.kind ∧ ∀ byte ∈ voice.data, byte < 128
  | .tempo speed => speed < 256 ^ 3
  | .endOfTrack => False
  | .otherMeta => False

/-- An event and the ticks that elapse before it. -/
abbrev TimedEvent := Nat × TrackEvent

def TimedEvent.bytes (timed : TimedEvent) : Bytes := variableLengthBytes timed.1 ++ timed.2.bytes

/-- The events of a track, then its end. -/
def writeTrack (events : List TimedEvent) (closing : Nat) : Bytes :=
  events.flatMap TimedEvent.bytes ++ TimedEvent.bytes (closing, .endOfTrack)

/-- What a player does with one event. -/
def Playback.play (division : Nat) (playback : Playback) (timed : TimedEvent) : Playback :=
  match timed.2 with
  | .message status message => (playback.elapse division timed.1).hear status message
  | .tempo tempo => (playback.elapse division timed.1).setTempo tempo
  | .endOfTrack => playback.elapse division timed.1
  | .otherMeta => { playback.elapse division timed.1 with running := none }

/-! ## Reading back what was written -/

section RoundTrip

variable {division : Nat}

/-- The data bytes of a message read back under its status byte. -/
theorem readChannelMessage_bytes {status : UInt8} {message : ChannelMessage} {rest : Bytes}
    (writable : (TrackEvent.message status message).Writable) :
    readChannelMessage status (message.data.map UInt8.ofNat ++ rest) =
      some (.message status message, rest) := by
  rcases writable with ⟨_, belowSystem, kind, channel, width, small⟩
  have payload : takeBytes (dataLength (status.toNat / 16))
      (message.data.map UInt8.ofNat ++ rest) = some (message.data.map UInt8.ofNat, rest) :=
    takeBytes_append (by rw [List.length_map, width, kind])
  have value : ∀ byte ∈ message.data, (UInt8.ofNat byte).toNat = byte := by
    intro byte member
    rw [UInt8.toNat_ofNat']
    have := small byte member
    omega
  have low : (message.data.map UInt8.ofNat).all (fun byte => byte.toNat < 128) = true := by
    rw [List.all_map, List.all_eq_true]
    intro byte member
    simp only [Function.comp_apply, value byte member, decide_eq_true_eq]
    exact small byte member
  have same : (message.data.map UInt8.ofNat).map UInt8.toNat = message.data := by
    rw [List.map_map]
    exact (List.map_congr_left value).trans (List.map_id _)
  simp only [readChannelMessage, Option.bind_eq_bind, payload, Option.bind_some]
  rw [if_pos ⟨belowSystem, low⟩, same, ← kind, ← channel]

theorem readTrackEvent_bytes {event : TrackEvent} (writable : event.Writable)
    (running : Option UInt8) (rest : Bytes) :
    readTrackEvent running (event.bytes ++ rest) = some (event, rest) := by
  cases event with
  | message status message =>
      have read : readChannelMessage status (message.data.map UInt8.ofNat ++ rest) =
          some (.message status message, rest) := readChannelMessage_bytes writable
      have notMeta : status ≠ 0xFF := by
        intro equal
        have := writable.2.1
        rw [equal] at this
        exact absurd this (by decide)
      rw [TrackEvent.bytes, List.cons_append, readTrackEvent, if_neg notMeta,
        if_neg (Nat.not_lt.mpr writable.1), read]
  | tempo tempo =>
      have payload : takeBytes 3 (bigEndian 3 tempo ++ rest) = some (bigEndian 3 tempo, rest) :=
        takeBytes_append (bigEndian_length 3 tempo)
      simp [TrackEvent.bytes, readTrackEvent, readMeta, readVariableLength, payload,
        bigEndianValue_bigEndian 3 tempo writable]
  | endOfTrack => exact writable.elim
  | otherMeta => exact writable.elim

/-- A written event is read, played, and the reader goes on behind it. -/
theorem readTrack_event {timed : TimedEvent} (inTime : timed.1 < 2 ^ 28)
    (writable : timed.2.Writable) (fuel : Nat) (playback : Playback) (rest : Bytes) :
    readTrack division (fuel + 1) playback (timed.bytes ++ rest) =
      readTrack division fuel (playback.play division timed) rest := by
  rcases timed with ⟨delta, event⟩
  rw [TimedEvent.bytes, List.append_assoc, readTrack]
  simp only [Option.bind_eq_bind, readVariableLength_variableLengthBytes inTime,
    Option.bind_some, readTrackEvent_bytes writable]
  cases event with
  | message status message => rfl
  | tempo tempo => rfl
  | endOfTrack => exact writable.elim
  | otherMeta => exact writable.elim

/-- The end of the track, with nothing behind it. -/
theorem readTrack_endOfTrack {closing : Nat} (inTime : closing < 2 ^ 28) (fuel : Nat)
    (playback : Playback) :
    readTrack division (fuel + 1) playback (TimedEvent.bytes (closing, .endOfTrack)) =
      some (playback.elapse division closing) := by
  rw [TimedEvent.bytes, readTrack]
  simp only [Option.bind_eq_bind, readVariableLength_variableLengthBytes inTime,
    Option.bind_some, TrackEvent.bytes]
  rfl

/-- A written track is read completely and played event by event. -/
theorem readTrack_writeTrack {events : List TimedEvent} {closing : Nat}
    (writable : ∀ timed ∈ events, timed.1 < 2 ^ 28 ∧ timed.2.Writable)
    (inTime : closing < 2 ^ 28) {fuel : Nat} (enough : events.length < fuel)
    (playback : Playback) :
    readTrack division fuel playback (writeTrack events closing) =
      some ((events.foldl (Playback.play division) playback).elapse division closing) := by
  induction events generalizing fuel playback with
  | nil =>
      rcases Nat.exists_eq_succ_of_ne_zero (Nat.ne_of_gt enough) with ⟨fuel, rfl⟩
      exact readTrack_endOfTrack inTime fuel playback
  | cons timed events ih =>
      rcases Nat.exists_eq_succ_of_ne_zero (Nat.ne_of_gt (Nat.zero_lt_of_lt enough)) with
        ⟨fuel, rfl⟩
      have first := writable timed List.mem_cons_self
      have split : writeTrack (timed :: events) closing =
          timed.bytes ++ writeTrack events closing := by
        simp [writeTrack]
      rw [split, readTrack_event first.1 first.2]
      exact ih (fun later member => writable later (List.mem_cons_of_mem _ member))
        (Nat.lt_of_succ_lt_succ enough) _

/-- Every event takes at least a byte, so the length of a track is enough fuel. -/
theorem length_lt_writeTrack (events : List TimedEvent) (closing : Nat) :
    events.length < (writeTrack events closing).length := by
  have each : ∀ timed : TimedEvent, 1 ≤ timed.bytes.length := by
    intro timed
    simp only [TimedEvent.bytes, variableLengthBytes, List.length_append, List.length_singleton]
    omega
  have events_le : events.length ≤ (events.flatMap TimedEvent.bytes).length := by
    induction events with
    | nil => exact Nat.le_refl 0
    | cons timed events ih =>
        rw [List.flatMap_cons, List.length_append, List.length_cons, Nat.add_comm]
        exact Nat.add_le_add (each timed) ih
  rw [writeTrack, List.length_append]
  exact Nat.lt_of_lt_of_le (Nat.lt_succ_self _) (Nat.add_le_add events_le (each _))

end RoundTrip

/-- A whole file: the header, then the track with its length. -/
def fileBytes (division : Nat) (track : Bytes) : Bytes :=
  headerBytes division ++ trackName ++ bigEndian 4 track.length ++ track

theorem fileBytes_length (division : Nat) (track : Bytes) :
    (fileBytes division track).length = track.length + 22 := by
  simp [fileBytes, headerBytes, trackName]
  omega

/-- A file whose header and length are written as declared is its track. -/
theorem readFile_fileBytes {division : Nat} {track : Bytes} {playback : Playback}
    (tickDivision : division < 32768) (short : track.length < 256 ^ 4)
    (read : readTrack division track.length Playback.start track = some playback) :
    readFile (fileBytes division track) =
      some ⟨division, track.length, playback.heard, playback.clock⟩ := by
  have divisionFits : division < 256 ^ 2 := tickDivision.trans (by decide)
  have split : fileBytes division track =
      (headerBytes 0).take 12 ++ (bigEndian 2 division ++ (trackName ++
        (bigEndian 4 track.length ++ track))) := by
    simp [fileBytes, headerBytes, bigEndian]
  rw [split, readFile, takeBytes_append (by decide)]
  simp only [Option.bind_eq_bind, Option.bind_some]
  rw [takeBytes_append (bigEndian_length 2 division)]
  simp only [Option.bind_some]
  rw [takeBytes_append (show trackName.length = 4 by decide)]
  simp only [Option.bind_some]
  rw [takeBytes_append (bigEndian_length 4 track.length)]
  simp only [Option.bind_some]
  rw [bigEndianValue_bigEndian 2 division divisionFits,
    bigEndianValue_bigEndian 4 track.length short,
    if_pos ⟨trivial, tickDivision, trivial, rfl⟩, read]
  rfl

end StandardMidiFile
end Foundation
end Synesthesia
