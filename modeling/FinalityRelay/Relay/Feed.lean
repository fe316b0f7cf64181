import FinalityRelay.Chain.Block
import FinalityRelay.Json.Reader
import FinalityRelay.Relay.Event
import FinalityRelay.Text.Blank

/-! Notifications as JSON texts, one a line. Blank lines are passed over, lines that are no
notification are reported and skipped, and a line that is no text ends the feed. -/

namespace FinalityRelay

structure Feed where
  notifications : List Notification
  events : List Event

namespace Feed

/-- The parts of a byte string that line feeds end, and what is left after the last one. `line` is
the part so far, last byte first. -/
def linesFrom (line : List UInt8) : List UInt8 → List (List UInt8)
  | [] => if line.isEmpty then [] else [line.reverse]
  | b :: bs => if b = 10 then line.reverse :: linesFrom [] bs else linesFrom (b :: line) bs

def lines (bs : List UInt8) : List (List UInt8) := linesFrom [] bs

inductive Line
  | blank
  | notification (n : Notification)
  | malformed

def Line.ofText (s : String) : Line :=
  match Text.trim s.toList with
  | [] => .blank
  | cs =>
    match (Json.read? cs).bind Notification.codec.decode? with
    | some n => .notification n
    | none => .malformed

/-- Reads the lines from the one with the given number on. -/
def ofLines : Nat → List (List UInt8) → Feed
  | _, [] => ⟨[], []⟩
  | number, line :: rest =>
    match String.fromUTF8? ⟨line.toArray⟩ with
    | none => ⟨[], [.unreadable]⟩
    | some s =>
      let later := ofLines (number + 1) rest
      match Line.ofText s with
      | .blank => later
      | .notification n => { later with notifications := n :: later.notifications }
      | .malformed => { later with events := .skippedLine number :: later.events }

/-- Reads the content of a file, or finds that there is none. -/
def ofContent : Option (List UInt8) → Feed
  | some bs => ofLines 1 (lines bs)
  | none => ⟨[], [.unreadable]⟩

end Feed

end FinalityRelay
