import ReorgGuard.Breakdown
import ReorgGuard.Value.Order

/-!
Circuit breakers.

A breaker counts the failures since the last success.  At the threshold it opens and keeps
calls away until the cooldown has passed since the latest failure; then it closes and counts
anew.  The limits are whatever the operator gave; one that no number can be compared with stops
whoever asks.
-/

namespace ReorgGuard.Feed

structure BreakerLimits where
  threshold : Value
  cooldown : Value

/-- The failures counted and, for an open breaker, the time of the latest one. -/
structure Breaker where
  failures : Nat
  openedAt : Option Float

/-- Whether a value is at most another one, or that they have no order. -/
def compared (a b : Value) : Except Breakdown Bool :=
  (a.atMost? b).elim (.error .unfitKind) .ok

namespace Breaker

def closed : Breaker := ⟨0, none⟩

def allows (limits : BreakerLimits) (breaker : Breaker) (now : Float) : Except Breakdown Bool :=
  match breaker.openedAt with
  | none => .ok true
  | some openedAt => compared limits.cooldown (.float (now - openedAt))

def asked (limits : BreakerLimits) (breaker : Breaker) (now : Float) : Breaker :=
  match breaker.openedAt, breaker.allows limits now with
  | some _, .ok true => closed
  | _, _ => breaker

def succeeded (_ : Breaker) : Breaker := closed

def failed (limits : BreakerLimits) (breaker : Breaker) (now : Float) : Breaker × Option Breakdown :=
  let failures := breaker.failures + 1
  match compared limits.threshold (.int failures) with
  | .ok true => (⟨failures, some now⟩, none)
  | .ok false => (⟨failures, breaker.openedAt⟩, none)
  | .error breakdown => (⟨failures, breaker.openedAt⟩, some breakdown)

end Breaker

end ReorgGuard.Feed
