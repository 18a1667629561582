import Itinerary.Proofs.Delay
import Itinerary.Proofs.Feed.Recognition
import Itinerary.Proofs.Json.Sight

/-!
# What may stand where a delay does

A delay is meant to be read leniently: an integer, as a number or as a text, is so many minutes, the
mark is a cancelled call, and anything else is no delay, so that a bad one never costs a trip. That
is how texts fare. But a number is taken for an integer of 64 bits or not at all. One with a point
or a power of ten, or one that is too great, is refused, and with it goes its leg, its connection
and the whole response (`decodeRoute_oneAndAHalf`).

A body is cut open where a delay stands, which is one of five places in a leg
(`Response.DelayGap`). Each reader on the way sees the gap through one of its fields, so the
response sees it through them all (`Response.focus_delay`), and what comes of the body depends on
what is read of the delay (`decodeRoute_of_delay`, `decodeRoute_of_no_delay`).
-/

namespace Itinerary.Feed

open Json

/-! ### Fields of the records -/

section

variable {gap : Value → Value}

theorem focus_exit_arrivalDelay (h : FieldGap Exit.shape.names "arr_delay" gap) :
    Exit.reader.Focus gap (Reader.nullable DelayMark.reader) fun g e =>
      { e with arrivalDelay := g e.arrivalDelay } := by
  apply Reader.focus_optional h (by decide) (by decide)
  · intro f hnone
    simp only [hnone, Option.bind_eq_bind, Option.bind_none, Option.bind_fun_none]
  · intro f f' g hf hread
    -- the steps in front of the field are the same, and so are those behind it but for its value
    simp only [hf.optional, hf.orElse, hread, ne_eq, String.reduceEq, not_false_eq_true]
    repeat first
      | refine map_bind_eq_map fun _ => ?_
      | refine bind_eq_map_bind fun _ => ?_
    rfl

theorem focus_call_departureDelay (h : FieldGap Call.shape.names "dep_delay" gap) :
    Call.reader.Focus gap (Reader.nullable DelayMark.reader) fun g c =>
      { c with departureDelay := g c.departureDelay } := by
  apply Reader.focus_optional h (by decide) (by decide)
  · intro f hnone
    simp only [hnone, Option.bind_eq_bind, Option.bind_none, Option.bind_fun_none]
  · intro f f' g hf hread
    simp only [hf.optional, hread, ne_eq, String.reduceEq, not_false_eq_true]
    repeat first
      | refine map_bind_eq_map fun _ => ?_
      | refine bind_eq_map_bind fun _ => ?_
    rfl

theorem focus_call_arrivalDelay (h : FieldGap Call.shape.names "arr_delay" gap) :
    Call.reader.Focus gap (Reader.nullable DelayMark.reader) fun g c =>
      { c with arrivalDelay := g c.arrivalDelay } := by
  apply Reader.focus_optional h (by decide) (by decide)
  · intro f hnone
    simp only [hnone, Option.bind_eq_bind, Option.bind_none, Option.bind_fun_none]
  · intro f f' g hf hread
    simp only [hf.optional, hread, ne_eq, String.reduceEq, not_false_eq_true]
    repeat first
      | refine map_bind_eq_map fun _ => ?_
      | refine bind_eq_map_bind fun _ => ?_
    rfl

theorem focus_leg_departureDelay (h : FieldGap Leg.shape.names "dep_delay" gap) :
    Leg.reader.Focus gap (Reader.nullable DelayMark.reader) fun g l =>
      { l with departureDelay := g l.departureDelay } := by
  apply Reader.focus_optional h (by decide) (by decide)
  · intro f hnone
    simp only [hnone, Option.bind_eq_bind, Option.bind_none, Option.bind_fun_none]
  · intro f f' g hf hread
    simp only [hf.optional, hf.orElse, hread, ne_eq, String.reduceEq, not_false_eq_true]
    repeat first
      | refine map_bind_eq_map fun _ => ?_
      | refine bind_eq_map_bind fun _ => ?_
    rfl

theorem focus_leg_arrivalDelay (h : FieldGap Leg.shape.names "arr_delay" gap) :
    Leg.reader.Focus gap (Reader.nullable DelayMark.reader) fun g l =>
      { l with arrivalDelay := g l.arrivalDelay } := by
  apply Reader.focus_optional h (by decide) (by decide)
  · intro f hnone
    simp only [hnone, Option.bind_eq_bind, Option.bind_none, Option.bind_fun_none]
  · intro f f' g hf hread
    simp only [hf.optional, hf.orElse, hread, ne_eq, String.reduceEq, not_false_eq_true]
    repeat first
      | refine map_bind_eq_map fun _ => ?_
      | refine bind_eq_map_bind fun _ => ?_
    rfl

theorem focus_leg_calls (h : FieldGap Leg.shape.names "stops" gap) :
    Leg.reader.Focus gap (Reader.nullable (Reader.list Call.reader)) fun g l =>
      { l with calls := g l.calls } := by
  apply Reader.focus_optional h (by decide) (by decide)
  · intro f hnone
    simp only [hnone, Option.bind_eq_bind, Option.bind_none, Option.bind_fun_none]
  · intro f f' g hf hread
    simp only [hf.optional, hf.orElse, hread, ne_eq, String.reduceEq, not_false_eq_true]
    repeat first
      | refine map_bind_eq_map fun _ => ?_
      | refine bind_eq_map_bind fun _ => ?_
    rfl

theorem focus_leg_exit (h : FieldGap Leg.shape.names "exit" gap) :
    Leg.reader.Focus gap (Reader.nullable Exit.reader) fun g l => { l with exit := g l.exit } := by
  apply Reader.focus_optional h (by decide) (by decide)
  · intro f hnone
    simp only [hnone, Option.bind_eq_bind, Option.bind_none, Option.bind_fun_none]
  · intro f f' g hf hread
    simp only [hf.optional, hf.orElse, hread, ne_eq, String.reduceEq, not_false_eq_true]
    repeat first
      | refine map_bind_eq_map fun _ => ?_
      | refine bind_eq_map_bind fun _ => ?_
    rfl

theorem sees_connection_legs (h : FieldGap Connection.shape.names "legs" gap) :
    Connection.reader.Sees gap 1 (Reader.orDefault (Reader.list Leg.reader) [])
      (fun c => some c.legs) fun g c => { c with legs := g c.legs } := by
  apply Reader.sees_orElse h (by decide) (by decide)
  · intro f hnone
    simp only [hnone, Option.bind_eq_bind, Option.bind_none, Option.bind_fun_none]
  · intro f f' g hf hread
    simp only [hf.optional, hf.orElse, hread, ne_eq, String.reduceEq, not_false_eq_true]
    repeat first
      | refine map_bind_eq_map fun _ => ?_
      | refine bind_eq_map_bind fun _ => ?_
    rfl
  · intro g c
    rfl

theorem sees_response_connections (h : FieldGap Response.shape.names "connections" gap) :
    Response.reader.Sees gap 1 (Reader.nullable (Reader.list Connection.reader))
      (fun r => some r.connections) fun g r => { r with connections := g r.connections } := by
  apply Reader.sees_optional h (by decide) (by decide)
  · intro f hnone
    simp only [hnone, Option.bind_eq_bind, Option.bind_none, Option.bind_fun_none]
  · intro f f' g hf hread
    simp only [hf.optional, hread, ne_eq, String.reduceEq, not_false_eq_true]
    repeat first
      | refine map_bind_eq_map fun _ => ?_
      | refine bind_eq_map_bind fun _ => ?_
    rfl
  · intro g r
    rfl

end

/-! ### Delays in their places -/

/-- Where a delay stands in a leg. -/
inductive DelaySpot where
  | departure
  /-- the arrival at the boarding place -/
  | arrival
  /-- the arrival at the exit -/
  | exitArrival
  /-- the departure of a call on the way -/
  | callDeparture (position : Nat)
  /-- the arrival of a call on the way -/
  | callArrival (position : Nat)
deriving DecidableEq, Repr

/-- What is left of a leg without the value of a delay. -/
inductive Leg.DelayGap : DelaySpot → (Value → Value) → Prop
  | departure {gap : Value → Value} (h : FieldGap shape.names "dep_delay" gap) :
    DelayGap .departure gap
  | arrival {gap : Value → Value} (h : FieldGap shape.names "arr_delay" gap) :
    DelayGap .arrival gap
  | exitArrival {exit gap : Value → Value} (hexit : FieldGap shape.names "exit" exit)
    (h : FieldGap Exit.shape.names "arr_delay" gap) : DelayGap .exitArrival (exit ∘ gap)
  | callDeparture {calls call gap : Value → Value} {position : Nat}
    (hcalls : FieldGap shape.names "stops" calls) (hcall : ItemGap position call)
    (h : FieldGap Call.shape.names "dep_delay" gap) :
    DelayGap (.callDeparture position) (calls ∘ call ∘ gap)
  | callArrival {calls call gap : Value → Value} {position : Nat}
    (hcalls : FieldGap shape.names "stops" calls) (hcall : ItemGap position call)
    (h : FieldGap Call.shape.names "arr_delay" gap) :
    DelayGap (.callArrival position) (calls ∘ call ∘ gap)

/-- A leg with a change of one delay. -/
def Leg.overDelay (spot : DelaySpot) (g : Option DelayMark → Option DelayMark) (l : Leg) : Leg :=
  match spot with
  | .departure => { l with departureDelay := g l.departureDelay }
  | .arrival => { l with arrivalDelay := g l.arrivalDelay }
  | .exitArrival =>
    { l with exit := l.exit.map fun e => { e with arrivalDelay := g e.arrivalDelay } }
  | .callDeparture position =>
    { l with
      calls := l.calls.map fun cs =>
        cs.modify position fun c => { c with departureDelay := g c.departureDelay } }
  | .callArrival position =>
    { l with
      calls := l.calls.map fun cs =>
        cs.modify position fun c => { c with arrivalDelay := g c.arrivalDelay } }

theorem Leg.focus_delay {spot : DelaySpot} {gap : Value → Value} (h : Leg.DelayGap spot gap) :
    Leg.reader.Focus gap (Reader.nullable DelayMark.reader) (Leg.overDelay spot) := by
  cases h with
  | departure h => exact focus_leg_departureDelay h
  | arrival h => exact focus_leg_arrivalDelay h
  | exitArrival hexit h =>
    exact (focus_leg_exit hexit).comp ((focus_exit_arrivalDelay h).nullable h.ne_null)
  | callDeparture hcalls hcall h =>
    have hitem := (Reader.focus_list hcall).comp (focus_call_departureDelay h)
    exact (focus_leg_calls hcalls).comp (hitem.nullable fun v => hcall.ne_null _)
  | callArrival hcalls hcall h =>
    have hitem := (Reader.focus_list hcall).comp (focus_call_arrivalDelay h)
    exact (focus_leg_calls hcalls).comp (hitem.nullable fun v => hcall.ne_null _)

/-- What is left of a response without the value of a delay of one leg of one connection. -/
inductive Response.DelayGap (connection leg : Nat) (spot : DelaySpot) : (Value → Value) → Prop
  | mk {outer item inner legItem gap : Value → Value}
    (hconnections : FieldGap shape.names "connections" outer)
    (hconnection : ItemGap connection item)
    (hlegs : FieldGap Connection.shape.names "legs" inner) (hleg : ItemGap leg legItem)
    (h : Leg.DelayGap spot gap) :
    DelayGap connection leg spot (outer ∘ item ∘ inner ∘ legItem ∘ gap)

/-- A connection with a change of one delay of one leg. -/
def Connection.overDelay (leg : Nat) (spot : DelaySpot)
    (g : Option DelayMark → Option DelayMark) (c : Connection) : Connection :=
  { c with legs := c.legs.modify leg (Leg.overDelay spot g) }

/-- A response with a change of one delay of one connection. -/
def Response.overDelay (connection leg : Nat) (spot : DelaySpot)
    (g : Option DelayMark → Option DelayMark) (r : Response) : Response :=
  { r with
    connections := r.connections.map fun cs =>
      cs.modify connection (Connection.overDelay leg spot g) }

theorem Response.focus_delay {connection leg : Nat} {spot : DelaySpot} {gap : Value → Value}
    (h : Response.DelayGap connection leg spot gap) :
    Response.reader.Focus gap (Reader.nullable DelayMark.reader)
      (Response.overDelay connection leg spot) := by
  obtain ⟨hconnections, hconnection, hlegs, hleg, h⟩ := h
  have hlist := (Reader.focus_list hleg).comp (Leg.focus_delay h)
  have hlegs := (sees_connection_legs hlegs).focus.comp
    (hlist.orDefault (fun v => hleg.ne_null _) [])
  have hlist := (Reader.focus_list hconnection).comp hlegs
  exact (sees_response_connections hconnections).focus.comp
    (hlist.nullable fun v => hconnection.ne_null _)

/-! ### What is made of it -/

/-- What is said with a delay of one leg of one connection put in. -/
def RouteOutcome.withDelay (connection leg : Nat) (spot : DelaySpot) (mark : Option DelayMark) :
    RouteOutcome → RouteOutcome
  | .connections cs =>
    .connections (cs.modify connection (Connection.overDelay leg spot fun _ => mark))
  | .noResult reason => .noResult reason

/-- The connection at a position, if connections are said to be found and one stands there. -/
def RouteOutcome.connection? (o : RouteOutcome) (position : Nat) : Option Connection :=
  match o with
  | .connections cs => cs[position]?
  | .noResult _ => none

theorem RouteOutcome.connection?_withDelay {connection position : Nat} (h : position ≠ connection)
    (leg : Nat) (spot : DelaySpot) (mark : Option DelayMark) (o : RouteOutcome) :
    (o.withDelay connection leg spot mark).connection? position = o.connection? position := by
  cases o with
  | noResult reason => rfl
  | connections cs => exact List.getElem?_modify_ne _ _ h.symm

theorem Response.outcome_overDelay (connection leg : Nat) (spot : DelaySpot)
    (mark : Option DelayMark) (r : Response) :
    (r.overDelay connection leg spot fun _ => mark).outcome =
      r.outcome.map (RouteOutcome.withDelay connection leg spot mark) := by
  obtain ⟨error, count, connections, messages⟩ := r
  rw [Response.outcome, Response.outcome, Response.overDelay]
  -- an error is said whatever connections there are
  cases error with
  | some reason => rfl
  | none =>
    cases connections with
    | some cs => rfl
    | none => cases messages <;> rfl

section

variable {connection leg : Nat} {spot : DelaySpot} {gap : Value → Value} {a b : String}
  {v w : Value} {o : RouteOutcome}

theorem nullable_delayMark_eq (room room' : Nat) (v : Value) :
    Reader.nullable DelayMark.reader room v = Reader.nullable DelayMark.reader room' v := by
  cases v <;> rfl

/-- What is read as a delay is put in its place. -/
theorem decodeRoute_of_delay {mark : Option DelayMark}
    (hgap : Response.DelayGap connection leg spot gap) (ha : Value.ofString? a = some (gap v))
    (ho : decodeRoute a = .ok o) (hb : Value.ofString? b = some (gap w))
    (hw : Reader.nullable DelayMark.reader maxRoom w = some mark) :
    decodeRoute b = .ok (o.withDelay connection leg spot mark) := by
  have hfocus := Response.focus_delay hgap
  obtain ⟨x, hx, r, hr, hro⟩ := decodeRoute_eq_ok_iff.mp ho
  obtain rfl : gap v = x := Option.some.inj (ha.symm.trans hx)
  -- what stands there in the accepted body is a delay as well
  obtain ⟨old, hold⟩ : ∃ old, Reader.nullable DelayMark.reader maxRoom v = some old := by
    cases hv : Reader.nullable DelayMark.reader maxRoom v with
    | some old => exact ⟨old, rfl⟩
    | none =>
      have hnone : ∀ room, Reader.nullable DelayMark.reader room v = none :=
        fun room => (nullable_delayMark_eq room maxRoom v).trans hv
      rw [hfocus.refused hnone] at hr
      cases hr
  have hchange : ∀ room, Reader.nullable DelayMark.reader room w =
      (Reader.nullable DelayMark.reader room v).map fun _ => mark := by
    intro room
    rw [nullable_delayMark_eq room maxRoom w, nullable_delayMark_eq room maxRoom v, hw, hold,
      Option.map_some]
  -- from there the new one is a change that forgets the old one
  have hread : Response.reader maxRoom (gap w) =
      some (r.overDelay connection leg spot fun _ => mark) := by
    rw [hfocus.changed hchange, hr, Option.map_some]
  refine decodeRoute_eq_ok_iff.mpr ⟨gap w, hb, _, hread, ?_⟩
  rw [Response.outcome_overDelay, hro]
  rfl

theorem decodeRoute_of_no_delay (hgap : Response.DelayGap connection leg spot gap)
    (hb : Value.ofString? b = some (gap w))
    (hw : Reader.nullable DelayMark.reader maxRoom w = none) :
    decodeRoute b = .error (.ofBody b) := by
  apply decodeRoute_of_reader_eq_none hb
  apply (Response.focus_delay hgap).refused
  exact fun room => (nullable_delayMark_eq room maxRoom w).trans hw

/-- Whether a value is a number that is written as an integer of 64 bits. -/
def IsInteger (w : Value) (k : Int) : Prop :=
  ∃ n, w = .number n ∧ n.integer?.bind Decimal.fit64 = some k

/-- Whether a value is a text without faults. -/
def IsText (w : Value) (s : String) : Prop := ∃ l, w = .text l ∧ l.plain? = some s

/-- **What may stand where a delay does.** Let a body be accepted, whatever stands at the place of a
delay in it. With an integer in that place it is accepted as well, and says the same but for the
delay, which counts as that many minutes. So it is with a text, whose delay is what the text
reports. No other connection changes. But with anything else in that place, any other number
included, the whole body is refused. -/
theorem decodeRoute_delayGap (hgap : Response.DelayGap connection leg spot gap)
    (ha : Value.ofString? a = some (gap v)) (ho : decodeRoute a = .ok o)
    (hb : Value.ofString? b = some (gap w)) :
    (∀ k, IsInteger w k → ∃ m : DelayMark, m.delay = .minutes k ∧
      decodeRoute b = .ok (o.withDelay connection leg spot (some m))) ∧
    (∀ s, IsText w s → ∃ m : DelayMark, Delay.IsOf s m.delay ∧
      decodeRoute b = .ok (o.withDelay connection leg spot (some m))) ∧
    (∀ mark position, position ≠ connection →
      (o.withDelay connection leg spot mark).connection? position = o.connection? position) ∧
    (w ≠ .null → (∀ k, ¬ IsInteger w k) → (∀ s, ¬ IsText w s) →
      decodeRoute b = .error (.ofBody b)) := by
  refine ⟨?_, ?_, fun mark position hne => o.connection?_withDelay hne leg spot mark, ?_⟩
  · -- an integer is tried first
    rintro k ⟨n, rfl, hk⟩
    have hread : Reader.nullable DelayMark.reader maxRoom (.number n) =
        some (some (.minutes k)) := by
      show (((n.integer?.bind Decimal.fit64).map DelayMark.minutes).map some) = _
      rw [hk, Option.map_some, Option.map_some]
    exact ⟨.minutes k, rfl, decodeRoute_of_delay hgap ha ho hb hread⟩
  · -- a text is read as one, whatever it says, and told apart later on
    rintro s ⟨l, rfl, hs⟩
    have hread : Reader.nullable DelayMark.reader maxRoom (.text l) = some (some (.text s)) := by
      show ((l.plain?.map DelayMark.text).map some) = _
      rw [hs, Option.map_some, Option.map_some]
    exact ⟨.text s, Delay.isOf_ofText s, decodeRoute_of_delay hgap ha ho hb hread⟩
  · intro hnull hinteger htext
    apply decodeRoute_of_no_delay hgap hb
    -- only numbers and texts are looked at, and of these the good ones are excluded
    cases w with
    | null => exact absurd rfl hnull
    | number n =>
      have hnone : n.integer?.bind Decimal.fit64 = none :=
        Option.eq_none_iff_forall_ne_some.mpr fun k hk => hinteger k ⟨n, rfl, hk⟩
      show (((n.integer?.bind Decimal.fit64).map DelayMark.minutes).map some) = none
      rw [hnone, Option.map_none, Option.map_none]
    | text l =>
      have hnone : l.plain? = none :=
        Option.eq_none_iff_forall_ne_some.mpr fun s hs => htext s ⟨l, rfl, hs⟩
      show ((l.plain?.map DelayMark.text).map some) = none
      rw [hnone, Option.map_none, Option.map_none]
    | _ => rfl

end

/-- A train with a delay at its departure. -/
def delayedTrain (delay : Value) : Value :=
  .record [("connections", .list [.record [("legs", .list [.record
    [("departure", .string "2024-03-15 08:00:00"), ("dep_delay", delay),
      ("exit", .record [("arrival", .string "2024-03-15 09:00:00")])]])]])]

theorem delayGap_delayedTrain : Response.DelayGap 0 0 .departure delayedTrain :=
  .mk (@FieldGap.member _ _ [] [] _ (Literal.plain?_ofString "connections"))
    (@ItemGap.mk 0 [] [] rfl) (@FieldGap.member _ _ [] [] _ (Literal.plain?_ofString "legs"))
    (@ItemGap.mk 0 [] [] rfl)
    (.departure (@FieldGap.member _ _ [_] [_] _ (Literal.plain?_ofString "dep_delay")))

theorem ofString?_delayedTrain {delay : Value} (h : delay.Written) :
    Value.ofString? (delayedTrain delay).write = some (delayedTrain delay) := by
  apply Value.ofString?_write
  simp only [delayedTrain, Value.written_record_cons, Value.written_record_nil, Value.written_list,
    List.forall_mem_singleton, Value.written_string, h, and_self]

theorem decodeRoute_delayedTrain : ∃ o, decodeRoute (delayedTrain .null).write = .ok o := by
  obtain ⟨o, ho⟩ : ∃ o, Response.Says (delayedTrain .null) o :=
    Response.exists_says (by decide +kernel)
  exact ⟨o, decodeRoute_eq_ok_iff.mpr ⟨_, ofString?_delayedTrain .null, ho⟩⟩

/-- One and a half minutes. -/
def oneAndAHalf : Numeral := ⟨false, ['1'], ['5'], none⟩

theorem wellFormed_oneAndAHalf : oneAndAHalf.WellFormed where
  whole := ⟨by decide, List.forall_mem_singleton.mpr rfl, by decide⟩
  decimals := List.forall_mem_singleton.mpr rfl
  power_ne_nil := nofun
  power := nofun

/-- A delay with a fraction costs a body that is accepted without it. -/
theorem decodeRoute_oneAndAHalf : (∃ o, decodeRoute (delayedTrain .null).write = .ok o) ∧
    decodeRoute (delayedTrain (.number oneAndAHalf)).write =
      .error (.ofBody (delayedTrain (.number oneAndAHalf)).write) := by
  refine ⟨decodeRoute_delayedTrain, ?_⟩
  apply decodeRoute_of_no_delay delayGap_delayedTrain
  · exact ofString?_delayedTrain (.number wellFormed_oneAndAHalf)
  · rfl

theorem decodeRoute_threeEarly : ∃ o, ∃ m : DelayMark, m.delay = .minutes (-3) ∧
    decodeRoute (delayedTrain .null).write = .ok o ∧
    decodeRoute (delayedTrain (.int (-3))).write = .ok (o.withDelay 0 0 .departure (some m)) := by
  obtain ⟨o, ho⟩ := decodeRoute_delayedTrain
  have hgap := decodeRoute_delayGap delayGap_delayedTrain (ofString?_delayedTrain .null) ho
    (ofString?_delayedTrain (Value.written_int (-3)))
  obtain ⟨m, hm, hdecode⟩ := hgap.1 (-3) ⟨_, rfl, by decide⟩
  exact ⟨o, m, hm, ho, hdecode⟩

end Itinerary.Feed
