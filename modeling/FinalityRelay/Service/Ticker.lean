/-! Moments that come back with a period. One that is taken much too late makes those missed since
then drop out, and the others stay multiples of the period. -/

namespace FinalityRelay

/-- The next of the moments, which are counted in nanoseconds, and the span between two of them. -/
structure Ticker where
  period : Nat
  next : Nat
  period_pos : 0 < period

namespace Ticker

/-- How late a moment may be taken before later ones count as missed: five milliseconds. -/
def tolerance : Nat := 5000000

/-- The longest period there is: thirty years of 365 days. -/
def longestPeriod : Nat := 30 * 365 * 86400 * 1000000000

/-- A period that is too long counts as the longest one. -/
def ofPeriod (period : Nat) (h : 0 < period) : Ticker :=
  ⟨min period longestPeriod, 0, Nat.lt_min.mpr ⟨h, by decide⟩⟩

/-- Takes the moment that is due. -/
def take (t : Ticker) (now : Nat) : Ticker :=
  { t with
    next :=
      if t.next + tolerance < now then now + t.period - (now - t.next) % t.period
      else t.next + t.period }

theorem next_lt_take (t : Ticker) (now : Nat) : t.next < (t.take now).next := by
  have hp := t.period_pos
  have hr := Nat.mod_lt (now - t.next) hp
  unfold take
  dsimp only
  split <;> omega

end Ticker

end FinalityRelay
