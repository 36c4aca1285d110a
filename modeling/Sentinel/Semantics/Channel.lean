/-!
# Buffered channels

A channel between goroutines. A send waits for room and panics once the channel
is closed; a receive takes the oldest value and, when the channel is closed and
empty, the zero value.
-/

namespace Sentinel.Semantics

structure Channel (Value : Type) where
  capacity : Nat
  buffer : List Value
  closed : Bool

inductive Sending (Value : Type) where
  | sent (channel : Channel Value)
  | blocked
  | panics

namespace Channel

variable {Value : Type}

def make (capacity : Nat) : Channel Value := ⟨capacity, [], false⟩

def send (value : Value) (channel : Channel Value) : Sending Value :=
  if channel.closed then .panics
  else if channel.buffer.length < channel.capacity then
    .sent { channel with buffer := channel.buffer ++ [value] }
  else .blocked

/-- The value and the channel that is left; `none` when there is nothing yet. -/
def receive (zero : Value) (channel : Channel Value) : Option (Value × Channel Value) :=
  match channel.buffer with
  | value :: rest => some (value, { channel with buffer := rest })
  | [] => if channel.closed then some (zero, channel) else none

def close (channel : Channel Value) : Channel Value := { channel with closed := true }

end Channel
end Sentinel.Semantics
