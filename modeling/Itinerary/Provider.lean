import Itinerary.Feed.Response
import Itinerary.Fixture
import Itinerary.Query

/-!
# Requests to the provider

The provider is known by what it replies: a body, or an error. A `Call` is what is done for a
caller on this side. It answers, is given up without an answer, or asks the provider and goes on
from the reply, in which it may ask again; that nothing is asked twice is not in its shape.
`Call.run` joins a call with a provider, who may have a state of its own, and keeps record of the
addresses asked for.
-/

namespace Itinerary

/-! ### Errors -/

/-- Why the provider gave no body. -/
inductive ProviderFault where
  /-- the network brought no whole response, and so no status, or a response with a status that is
  not one of success; and what is said of that -/
  | status (code : Option Nat) (message : String)
  /-- it was asked too often -/
  | rateLimited
  /-- a fixture stands in for it and fails -/
  | fixture (fault : FixtureFault)
deriving DecidableEq, Repr

/-- The wording of a fault. -/
def ProviderFault.message : ProviderFault → String
  | .status none message => "HTTP error: " ++ message
  | .status (some code) message => "API error " ++ toString code ++ ": " ++ message
  | .rateLimited => "rate limited by timetable API"
  | .fixture fault => "fixture error: " ++ fault.message

/-- Why there is no result for a caller. -/
inductive ClientError where
  /-- the provider gave no body -/
  | provider (fault : ProviderFault)
  /-- the body is no response -/
  | decode (e : Feed.DecodeError)
  /-- the address of the endpoint is none -/
  | address (fault : Url.Fault)
  /-- a place of the query has no term -/
  | query (e : Unresolvable)
  /-- the page has no bound on that side -/
  | noMoreResults
deriving DecidableEq, Repr

namespace ClientError

/-- No response that is a success came, with a status or without. -/
def status (code : Option Nat) (message : String) : ClientError := .provider (.status code message)

/-- The provider was asked too often. -/
def rateLimited : ClientError := .provider .rateLimited

/-- The wording of an error. -/
def message : ClientError → String
  | .provider fault => fault.message
  | .decode e => "decode error: " ++ e.message
  | .address fault => "invalid request URL: " ++ fault.message
  | .query e => "invalid query: " ++ e.message
  | .noMoreResults => "no more results in that direction"

end ClientError

/-! ### Providers -/

/-- The reply to a request. Nothing but its type is asked of a provider, so it may reply any error,
also one that a client has without it. -/
abbrev Reply := Except ClientError String

/-- A provider with states of type `σ`. -/
abbrev Provider (σ : Type) := Url → σ → Reply × σ

/-- A fixture as a provider. -/
def Fixture.provider (f : Fixture) : Provider Unit := fun u _ =>
  match f.reply u with
  | .ok body => (.ok body, ())
  | .error fault => (.error (.provider (.fixture fault)), ())

/-- The provider whose state is the list of its replies, one for each request. -/
def Provider.ofReplies : Provider (List Reply) := fun _ replies =>
  match replies with
  | [] => (.error (.provider (.fixture .exhausted)), [])
  | reply :: rest => (reply, rest)

/-! ### Calls -/

/-- What is done for a caller. -/
inductive Call (α : Type) where
  /-- answer -/
  | answer (a : α)
  /-- ask the provider, and go on from its reply -/
  | ask (u : Url) (next : Reply → Call α)
  /-- give up without an answer -/
  | drop

namespace Call

variable {α β σ : Type}

/-- Asks the provider and answers from its reply. -/
def askOnce (u : Url) (next : Reply → α) : Call α := .ask u fun reply => .answer (next reply)

/-- The call with its answer changed. -/
def map (f : α → β) : Call α → Call β
  | .answer a => .answer (f a)
  | .ask u next => .ask u fun reply => (next reply).map f
  | .drop => .drop

/-- The outcome of a call. -/
structure Outcome (α σ : Type) where
  /-- the answer, unless the call was given up -/
  answer : Option α
  /-- the addresses asked for, the oldest first -/
  requests : List Url
  /-- the state that the provider is left in -/
  state : σ

/-- Runs a call with a provider. -/
def run (p : Provider σ) (s : σ) : Call α → Outcome α σ
  | .answer a => ⟨some a, [], s⟩
  | .ask u next =>
    let after := (next (p u s).1).run p (p u s).2
    { after with requests := u :: after.requests }
  | .drop => ⟨none, [], s⟩

@[simp] theorem run_answer (p : Provider σ) (s : σ) (a : α) :
    (Call.answer a).run p s = ⟨some a, [], s⟩ := rfl

theorem run_ask (p : Provider σ) (s : σ) (u : Url) (next : Reply → Call α) :
    (Call.ask u next).run p s =
      ⟨((next (p u s).1).run p (p u s).2).answer, u :: ((next (p u s).1).run p (p u s).2).requests,
        ((next (p u s).1).run p (p u s).2).state⟩ := rfl

@[simp] theorem run_askOnce (p : Provider σ) (s : σ) (u : Url) (next : Reply → α) :
    (askOnce u next).run p s = ⟨some (next (p u s).1), [u], (p u s).2⟩ := rfl

@[simp] theorem run_drop (p : Provider σ) (s : σ) :
    (Call.drop : Call α).run p s = ⟨none, [], s⟩ := rfl

/-- Changing the answer of a call changes nothing else. -/
theorem run_map (p : Provider σ) (s : σ) (f : α → β) (call : Call α) :
    (call.map f).run p s =
      ⟨(call.run p s).answer.map f, (call.run p s).requests, (call.run p s).state⟩ := by
  induction call generalizing s with
  | answer a => rfl
  | ask u next ih => rw [map, run_ask, run_ask, ih]
  | drop => rfl

end Call

end Itinerary
