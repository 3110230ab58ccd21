import Rdap.Client.Error
import Rdap.Time.Duration
import Rdap.Binary64
/-!
# Waiting between attempts

**Exponential backoff** waits `start · factor ^ (attempt - 1)` before attempt
`attempt + 1`, at most `max`, computed in binary64 by multiplying `attempt - 1`
times and truncated to whole nanoseconds. A start or maximum that is not
positive and a factor below 1.1 are replaced by 100 ms, 2 s and 1.5.

A server may ask for a **shorter wait** in a `Retry-After` field: its first
value, without surrounding blanks and read as a duration in seconds (so `3`
is three seconds and `1m` one millisecond), is used when it is positive and
below ten seconds. A failed fetch that carries header fields is retried after
the wait its fields ask for, or after the backoff.
-/

namespace Rdap

/-- **An exponential backoff**: the first wait, the growth factor and the
longest wait. -/
structure Backoff where
  start : Int
  factor : Float
  max : Int
deriving Inhabited

namespace Backoff

/-- A backoff with the defaults in place of unusable settings. -/
def exponential (start : Int) (factor : Float) (max : Int) : Backoff :=
  { start := if start ≤ 0 then 100000000 else start
    factor := if factor < 1.1 then 1.5 else factor
    max := if max ≤ 0 then 2000000000 else max }

/-- The backoff used when none is given: 200 ms doubling up to 2 s. -/
def standard : Backoff := exponential 200000000 2 2000000000

/-- **The wait before the attempt after `attempt`**, in nanoseconds. A
longest wait of `2 ^ 63 - 1` nanoseconds rounds up to `2 ^ 63` in binary64,
which is out of range, so the wait it caps is the least integer. -/
def delay (b : Backoff) (attempt : Int) : Duration :=
  let d := (List.range (attempt - 1).toNat).foldl (fun d _ => d * b.factor) (Binary64.ofInt b.start)
  let d := if d > Binary64.ofInt b.max then Binary64.ofInt b.max else d
  ⟨Binary64.truncate d⟩

end Backoff

/-- **The wait a server asks for**, if it is positive and below ten seconds,
else `fallback`. -/
def retryAfter (h : Headers) (fallback : Duration) : Duration :=
  let v := h.get "Retry-After"
  if v.isEmpty then fallback
  else
    match Duration.parse (Text.trimSpace v ++ "s") with
    | .ok d => if 0 < d.ns && d.ns < Duration.second.ns * 10 then d else fallback
    | .error _ => fallback

/-- **The wait before retrying after a failure**: what a failed fetch with
header fields asks for, else the backoff for attempt `n`. -/
def retryDelay (b : Backoff) (n : Int) : Option TransportError → Duration
  | some { headers := some h, .. } => retryAfter h (b.delay n)
  | _ => b.delay n

end Rdap
