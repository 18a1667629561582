import Itinerary.Provider

/-!
# The provider on the network

The public service is asked over a network, which may bring no response, break off in the middle
of one, or bring a whole one. Only a response with a status of success and a whole text is a body.
All that can fail here is a failure of the provider: nothing is refused for what it was asked.

Connections, time limits and the queue of requests are left out. Whatever becomes of them is one of
the transmissions: a limit that is reached is a failed one.
-/

namespace Itinerary

/-- What the network brings for a request. -/
inductive Transmission where
  /-- no more requests are let through -/
  | closed
  /-- there is no response: no connection, or none in time -/
  | failed (reason : String)
  /-- a response with a status and a text, or the reason why the text broke off -/
  | response (code : Nat) (text : Except String String)

namespace Transmission

/-- The status of a response that says that too much was asked. -/
def tooManyRequests : Nat := 429

/-- Whether a status is one of success. -/
def isSuccess (code : Nat) : Bool := 200 ≤ code && code < 300

/-- How much of the text of a failure is kept, in characters. -/
def excerptLength : Nat := 500

/-- The reply that a transmission comes to. -/
def reply : Transmission → Reply
  | .closed => .error (.status (some 0) "Semaphore closed")
  | .failed reason => .error (.status none reason)
  | .response code text =>
    -- the status is looked at first, so a text that breaks off is only told of a success
    if code = tooManyRequests then .error .rateLimited
    else if isSuccess code then text.mapError (.status none)
    else
      let excerpt := (text.toOption.getD "").toList.take excerptLength
      .error (.status (some code) (String.ofList excerpt))

end Transmission

/-- A network as a provider. -/
def Provider.ofNetwork {σ : Type} (network : Url → σ → Transmission × σ) : Provider σ :=
  fun u s => ((network u s).1.reply, (network u s).2)

end Itinerary
