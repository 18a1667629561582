import Itinerary.Proofs.Delay
import Itinerary.Proofs.Feed.Interpretation
import Itinerary.Proofs.Feed.Recognition
import Itinerary.Proofs.Json.Follow

/-!
# Numbers and their texts

Ids, tracks and delays come as numbers or as texts, just as the provider likes, and it must not
matter which. Two things could go wrong. An id that is a number is put as a text where it is read,
while a delay stays what it came as until it is interpreted, so the records that are read differ.
And an alert is taken in whole first, with a say of its own on what is readable.

Every such number is spelled out, as the text of its digits (`Response.spelled`). The readers follow
this change: ids come out the same, and delays as marks with the same text (`DelayMark.inText`).
Such a mark reports the delay that the number did (`DelayMark.delay_inText`), which is all that is
asked of it, so a connection comes to the same (`Connection.interpret_inText`).

Only what is written as an integer of 64 bits is spelled out. Minus zero is no integer but a double,
as it is where values are read.
-/

namespace Itinerary.Feed

open Json

/-! ### Values -/

/-- An integer of 64 bits as the text of its digits. All else stays as it is. -/
def spelled : Value → Value
  | .number n =>
    match n.integer?.bind Decimal.fit64 with
    | some i => .string (String.ofList (Decimal.intText i))
    | none => .number n
  | v => v

theorem keepsNull_spelled : Value.KeepsNull spelled := by
  intro v
  cases v with
  | number n =>
    rw [spelled]
    split <;> rfl
  | _ => rfl

theorem keepsSettled_spelled : Value.KeepsSettled spelled := by
  intro room v
  cases v with
  | number n =>
    rw [spelled]
    split
    · -- a text without faults is readable, and so is an integer
      next i hi =>
      obtain ⟨j, hj, -⟩ := Option.bind_eq_some_iff.mp hi
      have htext : Reader.settled room (.string (String.ofList (Decimal.intText i))) = true := by
        rw [Value.string, Reader.settled, Literal.plain?_ofString, Option.isSome_some]
      have hnumber : Reader.settled room (.number n) = true := by
        rw [Reader.settled, hj, Option.isSome_some, Bool.true_or]
      rw [htext, hnumber]
    · rfl
  | _ => rfl

/-- A text that may be a number is read from its digits alike. -/
theorem follows_looseText : Reader.Follows looseText spelled id := by
  intro room v
  rw [Option.map_id, id]
  cases v with
  | number n =>
    rw [spelled]
    split
    · -- a number that is read is put as the text that it is read as
      next i hi =>
      have hnumber : looseText room (.number n) = some (String.ofList (Decimal.intText i)) := by
        rw [looseText, hi]
      rw [hnumber]
      exact Literal.plain?_ofString _
    · rfl
  | _ => rfl

/-- A mark with its minutes as the text of their digits. -/
def DelayMark.inText : DelayMark → DelayMark
  | minutes n =>
    match Decimal.fit64 n with
    | some i => text (String.ofList (Decimal.intText i))
    | none => minutes n
  | text s => text s

theorem follows_delayMark : DelayMark.reader.Follows spelled DelayMark.inText := by
  intro room v
  cases v with
  | number n =>
    have hread : DelayMark.reader room (.number n) =
        (n.integer?.bind Decimal.fit64).map DelayMark.minutes := rfl
    rw [spelled, hread]
    split
    · -- an integer that fits is spelled out, and its text is read as the same mark in text
      next i hi =>
      obtain ⟨j, -, hfit⟩ := Option.bind_eq_some_iff.mp hi
      obtain ⟨rfl, hbounds⟩ := Decimal.fit64_eq_some_iff.mp hfit
      rw [hi, Option.map_some, Option.map_some, DelayMark.inText, hfit]
      show ((Literal.ofString _).plain?).map DelayMark.text = _
      rw [Literal.plain?_ofString, Option.map_some]
    · -- any other number is left as it is, and refused
      next hnone =>
      rw [hread, hnone]
      rfl
  | text l =>
    show (l.plain?).map DelayMark.text = ((l.plain?).map DelayMark.text).map DelayMark.inText
    rw [Option.map_map]
    rfl
  | _ => rfl

/-- **A mark reports the same delay in digits.** -/
theorem DelayMark.delay_inText (m : DelayMark) : m.inText.delay = m.delay := by
  cases m with
  | text s => rfl
  | minutes n =>
    rw [inText]
    split
    · next i hi =>
      obtain ⟨rfl, -⟩ := Decimal.fit64_eq_some_iff.mp hi
      exact Delay.ofText_intText hi
    · rfl

theorem optional_delayMark {parts : List (String × (Value → Value))} {f f' : Found} {name : String}
    (h : Found.Changed parts f f') (hname : Value.within parts name = spelled) :
    f'.optional name DelayMark.reader =
      (f.optional name DelayMark.reader).map (Option.map DelayMark.inText) :=
  h.optional (hname ▸ follows_delayMark)

/-! ### Alerts -/

/-- The fields of an alert that may be numbers. -/
def Alert.spellings : List (String × (Value → Value)) := [("id", Feed.spelled)]

/-- An alert with its id spelled out. -/
def Alert.spelled : Value → Value := Value.fieldwise Alert.shape.names Alert.spellings

theorem follows_alert : Alert.reader.Follows Alert.spelled id := by
  refine Reader.follows_record ?_ fun f f' h => ?_
  · simp only [Alert.spellings, List.forall_mem_cons, keepsNull_spelled, true_and]
    exact List.forall_mem_nil _
  · simp only [h.optional_eq, Alert.spellings, Value.within_cons, Value.within_nil, String.reduceEq,
      if_true, if_false, follows_looseText, Reader.follows_id, Option.map_id, id]

theorem keepsSettled_alert : Value.KeepsSettled Alert.spelled := by
  refine Value.keepsSettled_fieldwise ?_
  simp only [Alert.spellings, List.forall_mem_cons, keepsSettled_spelled, true_and]
  exact List.forall_mem_nil _

/-- Alerts by key with their ids spelled out. -/
def Alerts.spelled : Value → Value
  | .object members => .object (members.map fun m => (m.1, Alert.spelled m.2))
  | v => v

theorem Alerts.keepsNull_spelled : Value.KeepsNull Alerts.spelled := by
  intro v
  cases v <;> rfl

theorem Alerts.keepsSettled_spelled : Value.KeepsSettled Alerts.spelled := by
  intro room v
  cases v with
  | object members =>
    have hkey : ∀ key : Literal, Value.KeepsSettled ((fun _ => Alert.spelled) key) :=
      fun _ => keepsSettled_alert
    exact congrArg (room != 0 && ·) (Value.settledMembers_map hkey (room - 1) members)
  | _ => rfl

theorem follows_alertsByKey : Alerts.reader.Follows Alerts.spelled id := by
  intro room v
  rw [Option.map_id, id]
  cases v with
  | object members =>
    cases room with
    | zero => rfl
    | succ room =>
      have hentry : ∀ m : Literal × Value,
          Alerts.entry room (m.1, Alert.spelled m.2) = Alerts.entry room m := by
        intro m
        rw [Alerts.entry, Alerts.entry, follows_alert room m.2, Option.map_id, id]
      refine congrArg (Option.map Keyed.ofList) (mapM_eq_mapM_of_forall₂ ?_)
      rw [List.forall₂_map_left_iff, List.forall₂_same]
      exact fun m _ => hentry m
  | _ => cases room <;> rfl

theorem follows_alerts : Alerts.lenientReader.Follows Alerts.spelled id := by
  -- alerts are taken in whole, and a list in their place is read as none
  refine Reader.follows_whole Alerts.keepsSettled_spelled fun room v => ?_
  have h := follows_alertsByKey room v
  rw [Option.map_id, id] at h ⊢
  cases v with
  | list items => rfl
  | _ => exact congrArg (Option.map some) h

/-! ### Connections -/

/-- The fields of the end of a leg that may be numbers. -/
def Exit.spellings : List (String × (Value → Value)) :=
  [("stopid", Feed.spelled), ("track", Feed.spelled), ("arr_delay", Feed.spelled)]

/-- The end of a leg with its numbers spelled out. -/
def Exit.spelled : Value → Value := Value.fieldwise Exit.shape.names Exit.spellings

/-- The end of a leg with its mark in text. -/
def Exit.inText (e : Exit) : Exit := { e with arrivalDelay := e.arrivalDelay.map DelayMark.inText }

theorem follows_exit : Exit.reader.Follows Exit.spelled Exit.inText := by
  refine Reader.follows_record ?_ fun f f' h => ?_
  · simp only [Exit.spellings, List.forall_mem_cons, keepsNull_spelled, true_and]
    exact List.forall_mem_nil _
  · have hmark : f'.optional "arr_delay" DelayMark.reader =
        (f.optional "arr_delay" DelayMark.reader).map (Option.map DelayMark.inText) :=
      optional_delayMark h rfl
    simp only [h.optional_eq, h.orElse_eq, hmark, Exit.spellings, Value.within_cons,
      Value.within_nil, String.reduceEq, if_true, if_false, follows_looseText, Reader.follows_id]
    -- field by field, the change is made where the mark is read instead of at the end
    repeat first
      | refine map_bind_eq_map fun _ => ?_
      | refine bind_eq_map_bind fun _ => ?_
    rfl

/-- The fields of a call that may be numbers. -/
def Call.spellings : List (String × (Value → Value)) :=
  [("stopid", Feed.spelled), ("dep_delay", Feed.spelled), ("arr_delay", Feed.spelled)]

/-- A call with its numbers spelled out. -/
def Call.spelled : Value → Value := Value.fieldwise Call.shape.names Call.spellings

/-- A call with its marks in text. -/
def Call.inText (c : Call) : Call :=
  { c with
    departureDelay := c.departureDelay.map DelayMark.inText
    arrivalDelay := c.arrivalDelay.map DelayMark.inText }

theorem follows_call : Call.reader.Follows Call.spelled Call.inText := by
  refine Reader.follows_record ?_ fun f f' h => ?_
  · simp only [Call.spellings, List.forall_mem_cons, keepsNull_spelled, true_and]
    exact List.forall_mem_nil _
  · have hdeparture : f'.optional "dep_delay" DelayMark.reader =
        (f.optional "dep_delay" DelayMark.reader).map (Option.map DelayMark.inText) :=
      optional_delayMark h rfl
    have harrival : f'.optional "arr_delay" DelayMark.reader =
        (f.optional "arr_delay" DelayMark.reader).map (Option.map DelayMark.inText) :=
      optional_delayMark h rfl
    simp only [h.optional_eq, hdeparture, harrival, Call.spellings, Value.within_cons,
      Value.within_nil, String.reduceEq, if_true, if_false, follows_looseText, Reader.follows_id]
    repeat first
      | refine map_bind_eq_map fun _ => ?_
      | refine bind_eq_map_bind fun _ => ?_
    rfl

/-- The fields of a leg that may be numbers or have some in them. -/
def Leg.spellings : List (String × (Value → Value)) :=
  [("stopid", Feed.spelled), ("*Z", Feed.spelled), ("track", Feed.spelled),
    ("dep_delay", Feed.spelled), ("arr_delay", Feed.spelled), ("stops", Value.each Call.spelled),
    ("disruptions", Alerts.spelled), ("exit", Exit.spelled)]

/-- A leg with its numbers spelled out. -/
def Leg.spelled : Value → Value := Value.fieldwise Leg.shape.names Leg.spellings

/-- A leg with its marks in text, those of its calls and of its exit included. -/
def Leg.inText (l : Leg) : Leg :=
  { l with
    departureDelay := l.departureDelay.map DelayMark.inText
    arrivalDelay := l.arrivalDelay.map DelayMark.inText
    calls := l.calls.map (List.map Call.inText)
    exit := l.exit.map Exit.inText }

theorem follows_leg : Leg.reader.Follows Leg.spelled Leg.inText := by
  refine Reader.follows_record ?_ fun f f' h => ?_
  · simp only [Leg.spellings, List.forall_mem_cons, keepsNull_spelled, Alerts.keepsNull_spelled,
      Value.keepsNull_each, Exit.spelled, Value.keepsNull_fieldwise, true_and]
    exact List.forall_mem_nil _
  · -- the fields that are spelled in two ways follow by their own readers, and all others are the
    -- same
    have hdeparture : f'.optional "dep_delay" DelayMark.reader =
        (f.optional "dep_delay" DelayMark.reader).map (Option.map DelayMark.inText) :=
      optional_delayMark h rfl
    have harrival : f'.optional "arr_delay" DelayMark.reader =
        (f.optional "arr_delay" DelayMark.reader).map (Option.map DelayMark.inText) :=
      optional_delayMark h rfl
    have hcalls : f'.optional "stops" (Reader.list Call.reader) =
        (f.optional "stops" (Reader.list Call.reader)).map (Option.map (List.map Call.inText)) :=
      h.optional (Reader.follows_list follows_call)
    have hexit : f'.optional "exit" Exit.reader =
        (f.optional "exit" Exit.reader).map (Option.map Exit.inText) :=
      h.optional follows_exit
    simp only [h.optional_eq, h.orElse_eq, hdeparture, harrival, hcalls, hexit, Leg.spellings,
      Value.within_cons, Value.within_nil, String.reduceEq, if_true, if_false, follows_looseText,
      follows_alerts, Reader.follows_id]
    -- field by field, in the order in which the reader takes them
    repeat first
      | refine map_bind_eq_map fun _ => ?_
      | refine bind_eq_map_bind fun _ => ?_
    rfl

/-- The fields of a connection that have numbers in them. -/
def Connection.spellings : List (String × (Value → Value)) :=
  [("disruptions", Alerts.spelled), ("legs", Value.each Leg.spelled)]

/-- A connection with its numbers spelled out. -/
def Connection.spelled : Value → Value :=
  Value.fieldwise Connection.shape.names Connection.spellings

/-- A connection with the marks of its legs in text. -/
def Connection.inText (c : Connection) : Connection := { c with legs := c.legs.map Leg.inText }

theorem follows_connection : Connection.reader.Follows Connection.spelled Connection.inText := by
  refine Reader.follows_record ?_ fun f f' h => ?_
  · simp only [Connection.spellings, List.forall_mem_cons, Alerts.keepsNull_spelled,
      Value.keepsNull_each, true_and]
    exact List.forall_mem_nil _
  · have hlegs : f'.orElse "legs" (Reader.list Leg.reader) [] =
        (f.orElse "legs" (Reader.list Leg.reader) []).map (List.map Leg.inText) :=
      h.orElse (Reader.follows_list follows_leg) rfl
    simp only [h.optional_eq, h.orElse_eq, hlegs, Connection.spellings, Value.within_cons,
      Value.within_nil, String.reduceEq, if_true, if_false, follows_alerts, Reader.follows_id]
    repeat first
      | refine map_bind_eq_map fun _ => ?_
      | refine bind_eq_map_bind fun _ => ?_
    rfl

/-! ### Responses and suggestions -/

/-- The field of a response that has numbers in it. -/
def Response.spellings : List (String × (Value → Value)) :=
  [("connections", Value.each Connection.spelled)]

/-- A response with the numbers of its connections spelled out. -/
def Response.spelled : Value → Value := Value.fieldwise Response.shape.names Response.spellings

/-- A response with the marks of its connections in text. -/
def Response.inText (r : Response) : Response :=
  { r with connections := r.connections.map (List.map Connection.inText) }

theorem follows_response : Response.reader.Follows Response.spelled Response.inText := by
  refine Reader.follows_record ?_ fun f f' h => ?_
  · simp only [Response.spellings, List.forall_mem_cons, Value.keepsNull_each, true_and]
    exact List.forall_mem_nil _
  · have hconnections : f'.optional "connections" (Reader.list Connection.reader) =
        (f.optional "connections" (Reader.list Connection.reader)).map
          (Option.map (List.map Connection.inText)) :=
      h.optional (Reader.follows_list follows_connection)
    simp only [h.optional_eq, hconnections, Response.spellings, Value.within_cons, Value.within_nil,
      String.reduceEq, if_false, Reader.follows_id]
    repeat first
      | refine map_bind_eq_map fun _ => ?_
      | refine bind_eq_map_bind fun _ => ?_
    rfl

/-- The field of a suggestion that may be a number. -/
def Suggestion.spellings : List (String × (Value → Value)) := [("id", Feed.spelled)]

/-- A suggestion with its id spelled out. -/
def Suggestion.spelled : Value → Value :=
  Value.fieldwise Suggestion.shape.names Suggestion.spellings

theorem follows_suggestion : Suggestion.reader.Follows Suggestion.spelled id := by
  refine Reader.follows_record ?_ fun f f' h => ?_
  · simp only [Suggestion.spellings, List.forall_mem_cons, keepsNull_spelled, true_and]
    exact List.forall_mem_nil _
  · simp only [h.optional_eq, Suggestion.spellings, Value.within_cons, Value.within_nil,
      String.reduceEq, if_true, if_false, follows_looseText, Reader.follows_id, Option.map_id, id]

/-! ### What marks in text come to -/

theorem delayOf_inText (mark : Option DelayMark) :
    delayOf (mark.map DelayMark.inText) = delayOf mark := by
  cases mark with
  | none => rfl
  | some m => exact m.delay_inText

theorem Call.stop_inText (c : Call) : c.inText.stop = c.stop := by
  have harrival : delayOf c.inText.arrivalDelay = delayOf c.arrivalDelay := delayOf_inText _
  have hdeparture : delayOf c.inText.departureDelay = delayOf c.departureDelay := delayOf_inText _
  rw [Call.stop, Call.stop, harrival, hdeparture]
  rfl

theorem Leg.stopsOf_inText (l : Leg) : l.inText.stopsOf = l.stopsOf := by
  have hcalls : l.inText.calls.getD [] = (l.calls.getD []).map Call.inText := by
    rw [Leg.inText]
    cases l.calls <;> rfl
  -- which calls are left out does not depend on their marks
  rw [Leg.stopsOf, Leg.stopsOf, hcalls, List.filter_map, List.mapM_map]
  exact congrArg (List.mapM · _) (funext Call.stop_inText)

theorem stopTimesOf_inText (l : Leg) (exit : Exit) :
    stopTimesOf l.inText exit.inText = stopTimesOf l exit := by
  have hdeparture : delayOf l.inText.departureDelay = delayOf l.departureDelay := delayOf_inText _
  have harrival : delayOf exit.inText.arrivalDelay = delayOf exit.arrivalDelay := delayOf_inText _
  rw [stopTimesOf, stopTimesOf, hdeparture, harrival]
  rfl

theorem legOf_inText (l : Leg) (exit : Exit) : legOf l.inText exit.inText = legOf l exit := by
  have hdeparture : delayOf l.inText.departureDelay = delayOf l.departureDelay := delayOf_inText _
  have harrival : delayOf exit.inText.arrivalDelay = delayOf exit.arrivalDelay := delayOf_inText _
  have hcancelled : l.inText.isCancelled exit.inText = l.isCancelled exit := by
    rw [Leg.isCancelled, Leg.isCancelled, hdeparture, harrival]
    rfl
  funext around times
  unfold legOf rideOf
  rw [hcancelled, l.stopsOf_inText]
  rfl

/-- A leg comes to the same with its marks in text. -/
theorem Leg.interpret_inText (l : Leg) (around : List Disruption) :
    l.inText.interpret around = l.interpret around := by
  cases hexit : l.exit with
  | none =>
    have hterminal : l.hasExit = false := by
      rw [Leg.hasExit, hexit]
      rfl
    have hterminal' : l.inText.hasExit = false := by
      rw [Leg.hasExit, Leg.inText, hexit]
      rfl
    rw [Leg.interpret_of_terminal hterminal, Leg.interpret_of_terminal hterminal']
  | some exit =>
    have hsome : l.inText.exit = some exit.inText := by
      rw [Leg.inText, hexit, Option.map_some]
    rw [Leg.interpret_of_exit hexit, Leg.interpret_of_exit hsome, stopTimesOf_inText, legOf_inText]

/-- **A connection comes to the same with its marks in text.** -/
theorem Connection.interpret_inText (c : Connection) (id : TripId) :
    c.inText.interpret id = c.interpret id := by
  have hlegs : interpretLegs c.inText.legs (disruptionsOf c.inText.alerts) =
      interpretLegs c.legs (disruptionsOf c.alerts) := by
    rw [interpretLegs, interpretLegs, Connection.inText, List.mapM_map]
    have hinterpret : (fun l : Leg => l.inText.interpret (disruptionsOf c.alerts)) =
        fun l => l.interpret (disruptionsOf c.alerts) :=
      funext fun l => l.interpret_inText _
    exact congrArg (fun f => List.mapM f c.legs >>= _) hinterpret
  rw [Connection.interpret, Connection.interpret, hlegs]
  rfl

theorem tripsOf_inText (ids : IdSupply) (cs : List Connection) :
    tripsOf ids (cs.map Connection.inText) = tripsOf ids cs := by
  rw [tripsOf_eq, tripsOf_eq, List.zipIdx_map, List.filterMap_map]
  congr 1
  funext ⟨c, position⟩
  exact congrArg Except.toOption (c.interpret_inText (ids position))

/-- Whether two outcomes come to the same: the same reason for no trips, or connections that make
the same trips, or the same errors, one by one. -/
def RouteOutcome.SameTrips : RouteOutcome → RouteOutcome → Prop
  | .noResult reason, .noResult reason' => reason = reason'
  | .connections cs, .connections cs' =>
    List.Forall₂ (fun c c' => ∀ id, c.interpret id = c'.interpret id) cs cs' ∧
      ∀ ids, tripsOf ids cs = tripsOf ids cs'
  | _, _ => False

theorem sameTrips_of_inText_eq {cs cs' : List Connection}
    (h : cs.map Connection.inText = cs'.map Connection.inText) :
    (RouteOutcome.connections cs).SameTrips (.connections cs') := by
  constructor
  · have hstep : List.Forall₂ (· = ·) (cs.map Connection.inText) (cs'.map Connection.inText) := by
      rw [List.forall₂_eq_eq_eq]
      exact h
    rw [List.forall₂_map_left_iff, List.forall₂_map_right_iff] at hstep
    refine hstep.imp fun c c' hc id => ?_
    rw [← c.interpret_inText, hc, c'.interpret_inText]
  · intro ids
    calc tripsOf ids cs = tripsOf ids (cs.map Connection.inText) := (tripsOf_inText ids cs).symm
      _ = tripsOf ids (cs'.map Connection.inText) := by rw [h]
      _ = tripsOf ids cs' := tripsOf_inText ids cs'

/-- Responses that are the same in text say the same, or neither says anything. -/
theorem Response.rel_outcome_of_inText_eq {r r' : Response} (h : r.inText = r'.inText) :
    Option.Rel RouteOutcome.SameTrips r.outcome.toOption r'.outcome.toOption := by
  obtain ⟨herror, -, hconnections, hmessages⟩ := Response.mk.inj h
  rw [Response.outcome, Response.outcome, ← herror, ← hmessages]
  cases r.error with
  | some reason => exact .some rfl
  | none =>
    -- an error comes first, then connections, then messages, and all three are the same in text
    cases hcs : r.connections with
    | some cs =>
      rw [hcs] at hconnections
      obtain ⟨cs', hcs', heq⟩ := Option.map_eq_some_iff.mp hconnections.symm
      rw [hcs']
      exact .some (sameTrips_of_inText_eq heq.symm)
    | none =>
      rw [hcs] at hconnections
      rw [Option.map_eq_none_iff.mp hconnections.symm]
      cases r.messages with
      | some texts => exact .some rfl
      | none => exact .none

/-- **A number or its text makes no difference.** Two bodies that are the same once every id, track
and delay that is an integer is put as the text of its digits are both refused or come to the same
trips, errors included; and as suggestions they are both refused or the same. -/
theorem decode_of_spelled_eq {a b : String} {v w : Value} (ha : Value.ofString? a = some v)
    (hb : Value.ofString? b = some w) :
    (Response.spelled v = Response.spelled w →
      Option.Rel RouteOutcome.SameTrips (decodeRoute a).toOption (decodeRoute b).toOption) ∧
    (Value.each Suggestion.spelled v = Value.each Suggestion.spelled w →
      (decodeSuggestions a).toOption = (decodeSuggestions b).toOption) := by
  constructor
  · intro h
    -- what is read of either is, in text, what is read once it is spelled out
    have hread : (Response.reader maxRoom v).map Response.inText =
        (Response.reader maxRoom w).map Response.inText := by
      rw [← follows_response, ← follows_response, h]
    rw [decodeRoute, decodeRoute, Reader.parse, Reader.parse, ha, hb, Option.bind_some,
      Option.bind_some]
    cases hv : Response.reader maxRoom v with
    | none =>
      rw [hv] at hread
      rw [Option.map_eq_none_iff.mp hread.symm]
      exact .none
    | some r =>
      -- both are read, so they come to connections that are alike in text
      rw [hv] at hread
      obtain ⟨r', hw, hr⟩ := Option.map_eq_some_iff.mp hread.symm
      rw [hw]
      exact Response.rel_outcome_of_inText_eq hr.symm
  · intro h
    -- a suggestion is read as the same thing from either spelling
    have hread : Reader.list Suggestion.reader maxRoom v =
        Reader.list Suggestion.reader maxRoom w := by
      have hfollows := Reader.follows_list follows_suggestion
      rw [List.map_id_fun] at hfollows
      have hv := hfollows maxRoom v
      have hw := hfollows maxRoom w
      rw [Option.map_id, id] at hv hw
      rw [← hv, ← hw, h]
    rw [decodeSuggestions, decodeSuggestions, Reader.parse, Reader.parse, ha, hb, Option.bind_some,
      Option.bind_some, hread]
    cases Reader.list Suggestion.reader maxRoom w <;> rfl

/-- A train with an alert, by its number, its delay and the id of its stops and of its alert. -/
def trainBody (number delay id : Value) : Value :=
  .record [("connections", .list [.record
    [("disruptions", .record [("works", .record [("id", id)])]),
      ("legs", .list [.record
        [("stopid", id), ("departure", .string "2024-03-15 08:00:00"), ("*Z", number),
          ("dep_delay", delay), ("exit", .record [("stopid", id),
            ("arrival", .string "2024-03-15 09:00:00"), ("arr_delay", delay)])]])]])]

theorem written_trainBody {number delay id : Value} (hnumber : number.Written)
    (hdelay : delay.Written) (hid : id.Written) : (trainBody number delay id).Written := by
  simp only [trainBody, Value.written_record_cons, Value.written_record_nil, Value.written_list,
    List.forall_mem_singleton, Value.written_string, hnumber, hdelay, hid, and_self]

/-- The train in numbers. -/
def numberedTrain : Value := trainBody (.int 17) (.int (-3)) (.int 8507000)

/-- The train with some of its numbers in text. -/
def spelledTrain : Value := trainBody (.string "17") (.int (-3)) (.string "8507000")

theorem sameTrips_numberedTrain : ∃ o o', decodeRoute numberedTrain.write = .ok o ∧
    decodeRoute spelledTrain.write = .ok o' ∧ o.SameTrips o' := by
  have hnumbered : numberedTrain.Written :=
    written_trainBody (Value.written_int _) (Value.written_int _) (Value.written_int _)
  have hspelled : spelledTrain.Written :=
    written_trainBody (Value.written_string _) (Value.written_int _) (Value.written_string _)
  have hsame := (decode_of_spelled_eq (Value.ofString?_write hnumbered)
    (Value.ofString?_write hspelled)).1 rfl
  -- both bodies are accepted, so the relation is not one of two refusals
  obtain ⟨o, ho⟩ : ∃ o, Response.Says numberedTrain o := Response.exists_says (by decide +kernel)
  obtain ⟨o', ho'⟩ : ∃ o, Response.Says spelledTrain o := Response.exists_says (by decide +kernel)
  have hok := decodeRoute_eq_ok_iff.mpr ⟨_, Value.ofString?_write hnumbered, ho⟩
  have hok' := decodeRoute_eq_ok_iff.mpr ⟨_, Value.ofString?_write hspelled, ho'⟩
  rw [hok, hok'] at hsame
  cases hsame with
  | some hsame => exact ⟨o, o', hok, hok', hsame⟩

end Itinerary.Feed
