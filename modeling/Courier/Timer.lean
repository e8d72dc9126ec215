/-!
# Sleeping

A sleep is asked for in milliseconds. None takes longer than thirty years, whatever it
is asked for; the texts that name it keep the number it was asked for. A wait with a
time limit is something else: it may take all of its limit, however long that is.
-/

namespace Courier

/-- Thirty years of 365 days, in milliseconds. -/
def longestTimer : Nat := 946080000000

/-- How long a sleep takes that is asked for so many milliseconds. -/
def timer (ms : Nat) : Nat := min ms longestTimer

theorem timer_le (ms : Nat) : timer ms ≤ ms := Nat.min_le_left ms longestTimer

theorem timer_eq {ms : Nat} (h : ms ≤ longestTimer) : timer ms = ms := Nat.min_eq_left h

end Courier
