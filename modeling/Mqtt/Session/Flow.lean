import Mqtt.Failure
/-! # Publish flow control

A token bucket limits how fast the client publishes. The bucket holds at most `burst` tokens and
gains `rate` tokens per second; each publish takes one. A rate of zero or less means no limit.
Times are nanoseconds on the caller's clock; `none` is a time before every other, when the
bucket was made. Token counts are floating-point numbers, as the refill is fractional.
-/

namespace Mqtt

/-- The longest duration the clock can express, in nanoseconds. -/
def maxDurationNs : Int := 9223372036854775807

/-- A token bucket. -/
structure TokenBucket where
  /-- Tokens per second; `none` means unlimited. -/
  rate : Option Float
  burst : Nat
  tokens : Float
  last : Option Int := none
  deriving Repr, Inhabited

namespace TokenBucket

/-- The rate for a requested number per second: zero or less means unlimited. -/
def rateOf (perSecond : Float) : Option Float := if perSecond ≤ 0 then none else some perSecond

/-- The bucket size for a requested burst: zero or less means one. -/
def burstOf (burst : Int) : Nat := if burst ≤ 0 then 1 else burst.toNat

/-- A full bucket. -/
def create (perSecond : Float) (burst : Int) : TokenBucket :=
  { rate := rateOf perSecond, burst := burstOf burst, tokens := (burstOf burst).toFloat }

/-- Whether publishing is limited at all. -/
def limited (b : TokenBucket) : Bool := b.rate.isSome

/-- Nanoseconds as seconds. -/
def seconds (ns : Int) : Float :=
  (Float.ofInt (ns / 1000000000)) + Float.ofInt (ns % 1000000000) / 1e9

/-- The tokens at time `now`: what the elapsed time adds, capped at the burst. -/
def tokensAt (b : TokenBucket) (now : Int) : Float :=
  let elapsed :=
    match b.last with
    | none => maxDurationNs
    | some l => if now < l then 0 else min (now - l) maxDurationNs
  let gained :=
    match b.rate with
    | none => (1.0 / 0.0) * seconds elapsed
    | some r => seconds elapsed * r
  let t := b.tokens + gained
  if t > b.burst.toFloat then b.burst.toFloat else t

/-- The nanoseconds needed to gain `x` tokens at a rate. -/
def durationFor (r x : Float) : Int :=
  let d := x / r * 1e9
  if d > 9.223372036854775807e18 then maxDurationNs else Float.toInt64 d |>.toInt

/-- Takes one token at `now` if that needs no wait beyond `maxWait` nanoseconds (`none`: any
wait); returns whether it was taken and the wait it needs. An unlimited bucket always gives. -/
def reserve (b : TokenBucket) (now : Int) (maxWait : Option Int) :
    Bool × Int × TokenBucket :=
  match b.rate with
  | none => (true, 0, b)
  | some r =>
    let t := b.tokensAt now - 1
    let wait := if t < 0 then durationFor r (-t) else 0
    let ok := 1 ≤ b.burst && (match maxWait with | none => true | some m => wait ≤ m)
    if ok then (true, wait, { b with last := some now, tokens := t }) else (false, wait, b)

/-- Takes a token at `now` if one is there. -/
def allow (b : TokenBucket) (now : Int) : Bool × TokenBucket :=
  let (ok, _, b') := b.reserve now (some 0)
  (ok, b')

/-- Changes the rate at `now` and the burst a nanosecond later, each after bringing the tokens
up to date. -/
def setRate (b : TokenBucket) (perSecond : Float) (burst : Int) (now : Int) : TokenBucket :=
  let b1 := { b with tokens := b.tokensAt now, last := some now, rate := rateOf perSecond }
  { b1 with tokens := b1.tokensAt (now + 1), last := some (now + 1), burst := burstOf burst }

/-- Waiting for a token with a deadline `budget` nanoseconds away (`none`: no deadline), unless
the wait is cancelled: a token that comes too late fails at once. -/
def wait (b : TokenBucket) (now : Int) (budget : Option Int) (cancelled : Bool) :
    Except Failure TokenBucket :=
  if cancelled then .error (.detail .timedOut "publish rate limit: context canceled")
  else
    let (ok, _, b') := b.reserve now budget
    if ok then .ok b'
    else .error (.detail .timedOut "publish rate limit: rate: Wait(n=1) would exceed context deadline")

end TokenBucket

end Mqtt
