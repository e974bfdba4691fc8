/-!
# Spans of time

A span of milliseconds is written in seconds from one second on, with as many decimals as it
takes, and in milliseconds below that.
-/

namespace Failover.Text

/-- The thousandths `n < 1000` as decimals, without zeros at the end. -/
def thousandths (n : Nat) : String :=
  if n % 1000 = 0 then ""
  else if n % 100 = 0 then s!".{n / 100}"
  else if n % 10 = 0 then s!".{n / 100}{n / 10 % 10}"
  else s!".{n / 100}{n / 10 % 10}{n % 10}"

def span (milliseconds : Nat) : String :=
  if milliseconds = 0 then "0ns"
  else if milliseconds < 1000 then s!"{milliseconds}ms"
  else s!"{milliseconds / 1000}{thousandths (milliseconds % 1000)}s"

end Failover.Text
