import Sesivo.Lib.Octets

set_option autoImplicit false

/- Sequence numbers on the receiving side: the replay window of secure control
packets, `replay_window.h`, and the tracker of audio arrivals and gaps,
`sequence_tracker.h`. Numbers are compared modulo 2^32. -/

namespace Sesivo

structure ReplayWindow where
  initialized : Bool := false
  highestSequence : UInt32 := 0
  seen : UInt64 := 0
deriving DecidableEq

namespace ReplayWindow

def windowBits : UInt32 := 64

def sequenceAfter (lhs rhs : UInt32) : Bool := lhs ≠ rhs && 0 < (lhs - rhs).toInt32.toInt

def accept (window : ReplayWindow) (sequence : UInt32) : Bool × ReplayWindow :=
  if sequence = 0 then (false, window)
  else if window.initialized = false then
    (true, { initialized := true, highestSequence := sequence, seen := 1 })
  else if sequenceAfter sequence window.highestSequence then
    let distance := sequence - window.highestSequence
    (true, { window with
      highestSequence := sequence
      seen := if windowBits ≤ distance then 1 else (window.seen <<< distance.toUInt64) ||| 1 })
  else
    let distance := window.highestSequence - sequence
    let bit := (1 : UInt64) <<< distance.toUInt64
    if windowBits ≤ distance then (false, window)
    else if window.seen &&& bit ≠ 0 then (false, window)
    else (true, { window with seen := window.seen ||| bit })

end ReplayWindow

structure SequenceArrivalDelta where
  gapsDetected : UInt32 := 0
  gapsRecovered : UInt32 := 0
  lateOrDuplicate : Bool := false

def sequenceArrivalShouldEnqueue (delta : SequenceArrivalDelta) : Bool :=
  !delta.lateOrDuplicate || 0 < delta.gapsRecovered

def sequenceNumberBefore (lhs rhs : UInt32) : Bool :=
  (lhs < rhs && rhs - lhs < 0x80000000) || (lhs > rhs && lhs - rhs > 0x80000000)

def sequenceNumberAfter (lhs rhs : UInt32) : Bool := sequenceNumberBefore rhs lhs

structure MissingRange where
  first : UInt32
  count : UInt32

structure SequenceArrivalTracker where
  initialized : Bool := false
  nextSequence : UInt32 := 0
  unresolvedGaps : Nat := 0
  totalGapsDetected : Nat := 0
  totalGapsRecovered : Nat := 0
  missing : List MissingRange := []

namespace SequenceArrivalTracker

def maxTrackedRanges : Nat := 64

variable (tracker : SequenceArrivalTracker)

/-- The index of the range that starts furthest behind the next number, if a
range other than the excluded one exists. -/
def oldestRangeIndex (excluded : Nat) : Option Nat :=
  (tracker.missing.zipIdx.filter fun entry => entry.2 ≠ excluded).foldl
    (fun oldest entry =>
      match oldest with
      | none => some (entry.2, tracker.nextSequence - entry.1.first)
      | some (index, greatestAge) =>
        if greatestAge < tracker.nextSequence - entry.1.first then
          some (entry.2, tracker.nextSequence - entry.1.first)
        else some (index, greatestAge))
    none |>.map Prod.fst

/-- Move the last range into the erased one's place. -/
def eraseRange (missing : List MissingRange) (index : Nat) : List MissingRange :=
  match missing.getLast? with
  | none => missing
  | some last => (missing.set index last).dropLast

/-- Remember the numbers that were skipped; the answer is added to the gap count. -/
def rememberMissingRange (firstSequence count : UInt32) : UInt32 × SequenceArrivalTracker :=
  if count = 0 then (0, tracker)
  else
    match tracker.missing.findIdx? fun range => range.first + range.count = firstSequence with
    | some index =>
      (count, { tracker with
        missing := tracker.missing.modify index fun range =>
          { range with count := range.count + count } })
    | none =>
      if maxTrackedRanges ≤ tracker.missing.length then
        match tracker.oldestRangeIndex maxTrackedRanges with
        | none => (count, tracker)
        | some oldest =>
          let expired := (tracker.missing.getD oldest ⟨0, 0⟩).count.toNat
          (count, { tracker with
            unresolvedGaps := tracker.unresolvedGaps - expired
            missing := tracker.missing.set oldest ⟨firstSequence, count⟩ })
      else (count, { tracker with missing := tracker.missing ++ [⟨firstSequence, count⟩] })

variable (sequence : UInt32)

/-- Take one number out of the range at `index`, at `offset` from its start. -/
def takeMissing (index : Nat)
    (range : MissingRange) (offset : UInt32) : SequenceArrivalTracker :=
  if range.count = 1 then
    { tracker with
      missing := eraseRange tracker.missing index
      unresolvedGaps := tracker.unresolvedGaps - 1 }
  else if offset = 0 then
    { tracker with
      missing := tracker.missing.set index ⟨range.first + 1, range.count - 1⟩
      unresolvedGaps := tracker.unresolvedGaps - 1 }
  else if offset = range.count - 1 then
    { tracker with
      missing := tracker.missing.set index ⟨range.first, range.count - 1⟩
      unresolvedGaps := tracker.unresolvedGaps - 1 }
  else
    let right : MissingRange := ⟨sequence + 1, range.count - offset - 1⟩
    let shortened := tracker.missing.set index ⟨range.first, offset⟩
    if tracker.missing.length < maxTrackedRanges then
      { tracker with
        missing := shortened ++ [right]
        unresolvedGaps := tracker.unresolvedGaps - 1 }
    else
      match tracker.oldestRangeIndex index with
      | some oldest =>
        let expired := (shortened.getD oldest ⟨0, 0⟩).count.toNat
        { tracker with
          missing := eraseRange shortened oldest ++ [right]
          unresolvedGaps := tracker.unresolvedGaps - (1 + expired) }
      | none =>
        { tracker with
          missing := shortened
          unresolvedGaps := tracker.unresolvedGaps - (1 + right.count.toNat) }

/-- Whether a late number was missing, and the tracker without it. -/
def removeMissing : Bool × SequenceArrivalTracker :=
  match tracker.missing.zipIdx.find? fun entry => sequence - entry.1.first < entry.1.count with
  | none => (false, tracker)
  | some (range, index) =>
    (true, tracker.takeMissing sequence index range (sequence - range.first))

def record : SequenceArrivalDelta × SequenceArrivalTracker :=
  if tracker.initialized = false then
    ({}, { tracker with initialized := true, nextSequence := sequence + 1 })
  else if sequence = tracker.nextSequence then
    ({}, { tracker with nextSequence := tracker.nextSequence + 1 })
  else if sequenceNumberAfter sequence tracker.nextSequence then
    let gap := sequence - tracker.nextSequence
    let remembered := tracker.rememberMissingRange tracker.nextSequence gap
    ({ gapsDetected := gap },
      { remembered.2 with
        nextSequence := sequence + 1
        unresolvedGaps := remembered.2.unresolvedGaps + remembered.1.toNat
        totalGapsDetected := tracker.totalGapsDetected + gap.toNat })
  else
    match tracker.removeMissing sequence with
    | (true, removed) =>
      ({ lateOrDuplicate := true, gapsRecovered := 1 },
        { removed with totalGapsRecovered := tracker.totalGapsRecovered + 1 })
    | (false, same) => ({ lateOrDuplicate := true }, same)

/-- Whether the number is one of those still missing. -/
def hasUnresolvedGap : Bool :=
  tracker.missing.any fun range => sequence - range.first < range.count

end SequenceArrivalTracker

end Sesivo
