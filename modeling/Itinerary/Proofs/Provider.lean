import Itinerary.Network

/-!
# What a provider is asked

A provider may keep the addresses it is asked for, as one that stands in for the public service
does. A call may ask again in every reply, so that it asks at most once has to be shown of it
(`Call.AsksAtMost`), and whether it has asked shows in its answer only if what may be said without
asking is not also said of a reply. `Call.Says` is that bound on a call and on its answers, and
`Call.Says.run` reads a run off it. `Call.AnswersTo` is said of a call that asks and of what it
makes of one reply.

Errors are refusals or failures. A client refuses what cannot be asked, and a provider is expected
to fail and not to refuse (`Provider.RefusesNothing`), as the network and fixtures do.
-/

namespace Itinerary

variable {α β σ : Type}

/-! ### Refusals and failures -/

/-- Whether an error is found in what is asked, and not in what came of it. -/
def ClientError.IsRefusal : ClientError → Prop
  | .query _ | .address _ | .noMoreResults => True
  | .provider _ | .decode _ => False

/-- Whether a reply refuses what was asked. -/
def Reply.Refuses (reply : Reply) : Prop := ∃ e, reply = .error e ∧ e.IsRefusal

/-- Each error that a transmission comes to is one of the provider. -/
theorem Transmission.not_refuses_reply (t : Transmission) : ¬ t.reply.Refuses := by
  rintro ⟨e, he, hrefusal⟩
  cases t with
  | closed =>
    cases he
    exact hrefusal
  | failed reason =>
    cases he
    exact hrefusal
  | response code text =>
    rw [reply] at he
    -- too much was asked, or the status is one of success, or it is another
    split at he
    · cases he
      exact hrefusal
    · split at he
      · cases text with
        | ok body => cases he
        | error reason =>
          cases he
          exact hrefusal
      · cases he
        exact hrefusal

namespace Provider

/-- Whether all errors that a provider replies are failures: it had no body to give, or none that is
a response. -/
def RefusesNothing (p : Provider σ) : Prop := ∀ u s, ¬ Reply.Refuses (p u s).1

/-- **The network refuses nothing**, whatever it brings. -/
theorem refusesNothing_ofNetwork (network : Url → σ → Transmission × σ) :
    (ofNetwork network).RefusesNothing :=
  fun u s => (network u s).1.not_refuses_reply

/-- **A fixture refuses nothing**, whatever bodies it has. -/
theorem refusesNothing_provider (f : Fixture) : f.provider.RefusesNothing := by
  rintro u s ⟨e, he, hrefusal⟩
  unfold Fixture.provider at he
  split at he
  · cases he
  · cases he
    exact hrefusal

/-- The provider that keeps the addresses it is asked for, the latest last. -/
def recorded (p : Provider σ) : Provider (σ × List Url) := fun u s =>
  ((p u s.1).1, (p u s.1).2, s.2 ++ [u])

end Provider

namespace Call

/-- To keep the addresses changes nothing else. -/
theorem run_recorded (p : Provider σ) (s : σ) (log : List Url) (call : Call α) :
    call.run p.recorded (s, log) =
      ⟨(call.run p s).answer, (call.run p s).requests,
        ((call.run p s).state, log ++ (call.run p s).requests)⟩ := by
  induction call generalizing s log with
  | answer a => rw [run_answer, run_answer, List.append_nil]
  | ask u next ih =>
    -- the address is kept before the rest of the call is run
    have hstep : p.recorded u (s, log) = ((p u s).1, (p u s).2, log ++ [u]) := rfl
    rw [run_ask, run_ask, hstep, ih, List.append_assoc, List.singleton_append]
  | drop => rw [run_drop, run_drop, List.append_nil]

/-! ### How often a call asks -/

/-- The calls that ask at most so many times, whatever they are replied. -/
inductive AsksAtMost : Nat → Call α → Prop where
  | answer {n : Nat} {a : α} : AsksAtMost n (.answer a)
  /-- in every reply there is one request less to make -/
  | ask {n : Nat} {u : Url} {next : Reply → Call α} (h : ∀ reply, AsksAtMost n (next reply)) :
    AsksAtMost (n + 1) (.ask u next)
  | drop {n : Nat} : AsksAtMost n .drop

/-- A run has no more requests than its call may make. -/
theorem AsksAtMost.length_requests_le {n : Nat} {call : Call α} (h : call.AsksAtMost n)
    (p : Provider σ) (s : σ) : (call.run p s).requests.length ≤ n := by
  -- each reply leads to a call that may ask once less
  induction h generalizing s with
  | answer => exact Nat.zero_le _
  | ask _ ih => exact Nat.succ_le_succ (ih _ _)
  | drop => exact Nat.zero_le _

/-- A call that asks at most once has asked nothing or for one address. -/
theorem AsksAtMost.requests_cases {call : Call α} (h : call.AsksAtMost 1) (p : Provider σ) (s : σ) :
    (call.run p s).requests = [] ∨ ∃ u, (call.run p s).requests = [u] := by
  rcases Nat.le_one_iff_eq_zero_or_eq_one.mp (h.length_requests_le p s) with hnone | hone
  · exact .inl (List.length_eq_zero_iff.mp hnone)
  · exact .inr (List.length_eq_one_iff.mp hone)

/-! ### What a call may say -/

/-- The calls that ask at most once, say nothing but what may be said unasked if they do not ask,
and nothing but what may be said of the reply if they do. -/
inductive Says (unasked : α → Prop) (told : Reply → α → Prop) : Call α → Prop where
  /-- what is known is said unasked -/
  | answer {a : α} (h : unasked a) : Says unasked told (.answer a)
  /-- what is asked is said of the reply -/
  | ask {u : Url} {next : Reply → α} (h : ∀ reply, told reply (next reply)) :
    Says unasked told (.askOnce u next)
  /-- a call that is given up says nothing -/
  | drop : Says unasked told .drop

section

variable {unasked : α → Prop} {told : Reply → α → Prop} {call : Call α}

/-- A call with its answer changed says what the changed answers are. -/
theorem Says.map {unasked' : β → Prop} {told' : Reply → β → Prop} {f : α → β}
    (h : call.Says unasked told) (hunasked : ∀ a, unasked a → unasked' (f a))
    (htold : ∀ reply a, told reply a → told' reply (f a)) : (call.map f).Says unasked' told' := by
  cases h with
  | answer h => exact .answer (hunasked _ h)
  | ask h => exact .ask fun reply => htold _ _ (h reply)
  | drop => exact .drop

theorem Says.asksAtMost_one (h : call.Says unasked told) : call.AsksAtMost 1 := by
  cases h with
  | answer h => exact .answer
  | ask h => exact .ask fun _ => .answer
  | drop => exact .drop

/-- What a run answers tells what it asked, and what it was replied. -/
theorem Says.run (h : call.Says unasked told) (p : Provider σ) (s : σ) {a : α}
    (ha : (call.run p s).answer = some a) :
    (unasked a ∧ (call.run p s).requests = []) ∨
      ∃ u, told (p u s).1 a ∧ (call.run p s).requests = [u] := by
  cases h with
  | answer h => exact .inl ⟨Option.some.inj ha ▸ h, rfl⟩
  | ask h => exact .inr ⟨_, Option.some.inj ha ▸ h _, rfl⟩
  | drop => exact nomatch ha

/-- A call of this kind has no answer just if it is given up from the start. -/
theorem Says.answer_run_eq_none_iff (h : call.Says unasked told) {p : Provider σ} {s : σ} :
    (call.run p s).answer = none ↔ call = .drop := by
  cases h with
  | answer h => exact ⟨nofun, nofun⟩
  | ask h => exact ⟨nofun, nofun⟩
  | drop => exact ⟨fun _ => rfl, fun _ => rfl⟩

end

/-! ### Replies that are answered -/

/-- Whether a call asks once and answers a reply with this. -/
def AnswersTo (call : Call α) (reply : Reply) (a : α) : Prop :=
  ∃ u, ∀ (σ : Type) (p : Provider σ) (s : σ), (call.run p s).requests = [u] ∧
    ((p u s).1 = reply → (call.run p s).answer = some a)

theorem answersTo_askOnce (u : Url) (next : Reply → α) (reply : Reply) :
    (Call.askOnce u next).AnswersTo reply (next reply) :=
  ⟨u, fun _ _ _ => ⟨rfl, fun h => by rw [run_askOnce, h]⟩⟩

theorem AnswersTo.map {call : Call α} {reply : Reply} {a : α} (h : call.AnswersTo reply a)
    (f : α → β) : (call.map f).AnswersTo reply (f a) := by
  obtain ⟨u, hu⟩ := h
  refine ⟨u, fun σ p s => ?_⟩
  rw [run_map]
  refine ⟨(hu σ p s).1, fun hreply => ?_⟩
  rw [(hu σ p s).2 hreply]
  rfl

end Call

end Itinerary
