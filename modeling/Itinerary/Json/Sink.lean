import Itinerary.Json.Tree

/-!
# Writing to a sink

A value is written piece by piece, and what takes the pieces may refuse one of them. The first
refusal ends the writing. A sink in memory takes whatever it is given, so what is written to it is
the text of the value.
-/

namespace Itinerary.Json

/-- Why a value is not written to its end. -/
structure WriteFault where
  reason : String
deriving DecidableEq, Repr

/-- What takes pieces of text: what becomes of it by one more, or why it refuses that. -/
abbrev Sink (σ : Type) := σ → List Char → Except WriteFault σ

/-- The text in memory. -/
def Sink.memory : Sink (List Char) := fun written piece => .ok (written ++ piece)

/-- Writes a value to a sink, token by token. -/
def Value.writeTo {σ : Type} (sink : Sink σ) (start : σ) (v : Value) : Except WriteFault σ :=
  v.tokens.foldlM (fun s token => sink s token.write) start

/-- Nothing is refused in memory, and what is written there is the text of the value. -/
theorem Value.writeTo_memory (start : List Char) (v : Value) :
    v.writeTo Sink.memory start = .ok (start ++ v.writeChars) := by
  unfold writeTo writeChars
  -- piece by piece, whatever has been written before
  induction v.tokens generalizing start with
  | nil => rw [List.flatMap_nil, List.append_nil]; rfl
  | cons token rest ih =>
    rw [List.foldlM_cons, List.flatMap_cons, ← List.append_assoc]
    exact ih (start ++ token.write)

end Itinerary.Json
