import Itinerary.Feed.Response
import Itinerary.Proofs.Json.Heeded

/-!
# What the feed is read by

The records of the feed are read leniently, and that is more than that a field may be missing. A
field that is null is one that is missing, whichever reader it has; a member with an unknown name
is none; and members may stand in any order, in records and in maps alike. So two bodies that are
the same once what is not heeded of them is left out (`Response.heeded`) and members are put in
order are answered alike.

What is heeded of a record goes by its shape and by which of its fields hold records. That its
reader heeds no more is shown from the inside out.
-/

namespace Itinerary.Feed

open Json

/-! ### Lenient values -/

theorem heeds_looseText : Reader.Heeds looseText id :=
  Reader.heeds_of_leaf (fun _ _ => rfl) fun _ _ => rfl

theorem heeds_delayMark : DelayMark.reader.Heeds id :=
  Reader.heeds_of_leaf (fun _ _ => rfl) fun _ _ => rfl

/-- What is heeded of a note: the text of one in object form. -/
def Note.heeded : Value → Value := Value.heeded Note.shape []

/-- Texts that are the same but for the order of members are the same. -/
theorem text_eq_of_reordered {l l' : Literal} (h : (Value.text l).Reordered (.text l')) : l = l' := by
  cases h
  rfl

theorem heeds_note : Note.reader.Heeds Note.heeded := by
  refine Reader.heeds_whole fun room v w hv hw hvw => ?_
  -- a note is a text, an object, or anything else, and which of these shows in what is heeded
  cases hv with
  | string s =>
    cases hw with
    | string s' =>
      obtain h := text_eq_of_reordered hvw
      dsimp only [Value.string]
      rw [h]
    | record =>
      rw [Note.heeded, Value.heeded_record] at hvw
      cases hvw
    | _ => cases hvw
  | record hnodup hv =>
    rw [Note.heeded, Value.heeded_record] at hvw
    cases hw with
    | record hnodup' hw =>
      rw [Value.heeded_record] at hvw
      -- the object form has the one field that is read
      dsimp only [Value.record]
      rw [ofMembers_record hnodup, ofMembers_record hnodup', Option.bind_some, Option.bind_some,
        (alike_of_entries hnodup hnodup' hv hw hvw).optional Reader.heeds_string]
    | _ => cases hvw
  | _ =>
    cases hw with
    | string => cases hvw
    | record =>
      rw [Note.heeded, Value.heeded_record] at hvw
      cases hvw
    | _ => rfl

/-! ### Alerts -/

/-- What is heeded of an alert. -/
def Alert.heeded : Value → Value := Value.heeded Alert.shape []

theorem heeds_alert : Alert.reader.Heeds Alert.heeded := by
  refine Reader.heeds_record nofun fun f g h => ?_
  simp only [h.optional, Value.within_nil, heeds_looseText,
    Reader.heeds_string]

/-- What is heeded of alerts by key: all keys, and of each alert what is heeded of it. -/
def Alerts.heeded : Value → Value
  | .object members => .object (members.map fun (k, v) => (k, Alert.heeded v))
  | v => v

theorem Alerts.heeded_record (entries : List (String × Value)) :
    Alerts.heeded (.record entries) = .record (entries.map fun e => (e.1, Alert.heeded e.2)) := by
  rw [Value.record, Alerts.heeded, Value.record, List.map_map, List.map_map]
  rfl

theorem keepsNull_alerts : Value.KeepsNull Alerts.heeded := by
  intro v
  cases v <;> rfl

/-- An alert with its key as a text. -/
def Alerts.read (room : Nat) (e : String × Value) : Option (String × Alert) :=
  (Alert.reader room e.2).map (e.1, ·)

theorem Alerts.reader_record (room : Nat) (entries : List (String × Value)) :
    Alerts.reader (room + 1) (.record entries) =
      (entries.mapM (Alerts.read room)).map Keyed.ofList := by
  have hentry : ∀ e : String × Value,
      Alerts.entry room (Literal.ofString e.1, e.2) = Alerts.read room e := by
    intro e
    rw [Alerts.entry, Alerts.read, Literal.plain?_ofString]
    cases Alert.reader room e.2 <;> rfl
  show ((entries.map _).mapM (Alerts.entry room)).map Keyed.ofList = _
  congr 1
  induction entries with
  | nil => rfl
  | cons e rest ih => rw [List.map_cons, List.mapM_cons, List.mapM_cons, hentry, ih]

theorem Alerts.read_eq_some_iff {room : Nat} {e : String × Value} {key : String} {a : Alert} :
    Alerts.read room e = some (key, a) ↔ e.1 = key ∧ Alert.reader room e.2 = some a := by
  rw [Alerts.read, Option.map_eq_some_iff]
  constructor
  · rintro ⟨b, hb, heq⟩
    obtain ⟨rfl, rfl⟩ := Prod.mk.inj heq
    exact ⟨rfl, hb⟩
  · rintro ⟨rfl, ha⟩
    exact ⟨a, ha, rfl⟩

theorem Alerts.mem_filterMap_read {room : Nat} {entries : List (String × Value)} {key : String}
    {a : Alert} : (key, a) ∈ entries.filterMap (Alerts.read room) ↔
      ∃ v, (key, v) ∈ entries ∧ Alert.reader room v = some a := by
  rw [List.mem_filterMap]
  constructor
  · rintro ⟨⟨k, v⟩, hmem, hread⟩
    obtain ⟨rfl, ha⟩ := Alerts.read_eq_some_iff.mp hread
    exact ⟨v, hmem, ha⟩
  · rintro ⟨v, hmem, ha⟩
    exact ⟨(key, v), hmem, Alerts.read_eq_some_iff.mpr ⟨rfl, ha⟩⟩

/-- No key is read that is not there. -/
theorem Alerts.keys_filterMap_read (room : Nat) (entries : List (String × Value)) :
    ((entries.filterMap (Alerts.read room)).map Prod.fst).Sublist (entries.map Prod.fst) := by
  induction entries with
  | nil => exact .slnil
  | cons e rest ih =>
    cases hread : Alerts.read room e with
    | none =>
      rw [List.filterMap_cons_none hread]
      exact ih.cons e.1
    | some b =>
      rw [List.filterMap_cons_some hread, List.map_cons, List.map_cons,
        (Alerts.read_eq_some_iff.mp hread).1]
      exact ih.cons_cons b.1

/-- Where all entries are read, so are those that are read like them. -/
theorem Alerts.all_read {room : Nat} {entries others : List (String × Value)}
    (h : ∀ k w, (k, w) ∈ others →
      ∃ v, (k, v) ∈ entries ∧ Alert.reader room v = Alert.reader room w)
    (hall : ∀ e ∈ entries, (Alerts.read room e).isSome) :
    ∀ e ∈ others, (Alerts.read room e).isSome := by
  intro e he
  obtain ⟨v, hv, heq⟩ := h e.1 e.2 he
  have hsome := hall _ hv
  rw [Alerts.read, Option.isSome_map] at hsome ⊢
  rwa [← heq]

/-- **Entries that are read alike under each key make the same collection**, in whatever order. -/
theorem Alerts.read_eq_of_inStep {room : Nat} {entries others : List (String × Value)}
    (hnodup : (entries.map Prod.fst).Nodup) (hnodup' : (others.map Prod.fst).Nodup)
    (h : InStep (fun v w => Alert.reader room v = Alert.reader room w) entries others) :
    (entries.mapM (Alerts.read room)).map Keyed.ofList =
      (others.mapM (Alerts.read room)).map Keyed.ofList := by
  have hkeys := hnodup.sublist (keys_filterMap_read room entries)
  have hkeys' := hnodup'.sublist (keys_filterMap_read room others)
  -- what is read has the same entries, in an order that a collection does not keep
  have hperm : (entries.filterMap (Alerts.read room)).Perm (others.filterMap (Alerts.read room)) := by
    refine (List.perm_ext_iff_of_nodup hkeys.of_map hkeys'.of_map).mpr ?_
    rintro ⟨key, a⟩
    rw [mem_filterMap_read, mem_filterMap_read]
    constructor
    · rintro ⟨v, hv, ha⟩
      obtain ⟨w, hw, heq⟩ := h.left key v hv
      exact ⟨w, hw, heq ▸ ha⟩
    · rintro ⟨w, hw, ha⟩
      obtain ⟨v, hv, heq⟩ := h.right key w hw
      exact ⟨v, hv, heq ▸ ha⟩
  -- if one of the entries is refused on one side, so it is on the other
  have hall : (entries.all fun e => (Alerts.read room e).isSome) =
      others.all fun e => (Alerts.read room e).isSome := by
    rw [Bool.eq_iff_iff, List.all_eq_true, List.all_eq_true]
    refine ⟨all_read h.right, all_read fun k v hv => ?_⟩
    obtain ⟨w, hw, heq⟩ := h.left k v hv
    exact ⟨w, hw, heq.symm⟩
  rw [mapM_eq_ite, mapM_eq_ite, hall]
  split
  · rw [Option.map_some, Option.map_some, Keyed.ofList_eq_of_perm hkeys hperm]
  · rfl

theorem heeds_alertsByKey : Alerts.reader.Heeds Alerts.heeded := by
  intro room v w hv hw hvw
  cases hv with
  | record hnodup hv =>
    cases hw with
    | record hnodup' hw =>
      rw [Alerts.heeded_record, Alerts.heeded_record] at hvw
      rw [Alerts.reader_record, Alerts.reader_record]
      -- the alerts of either have the same keys, with values that are read alike
      have hstep := InStep.of_map Function.injective_id hvw.inStep
      refine Alerts.read_eq_of_inStep hnodup hnodup' (hstep.imp_of_mem ?_)
      exact fun k v w hmem hmem' hR => heeds_alert (hv _ hmem) (hw _ hmem') hR
    | _ => cases hvw
  | list =>
    cases hw with
    | list => rfl
    | _ => cases hvw
  | _ =>
    cases hw with
    | list | record => cases hvw
    | _ => cases room <;> rfl

theorem heeds_alerts : Alerts.lenientReader.Heeds Alerts.heeded := by
  refine Reader.heeds_whole fun room v w hv hw hvw => ?_
  have h := heeds_alertsByKey hv hw hvw
  cases hv with
  | list =>
    cases hw with
    | list =>
      cases hvw with
      | list hvw =>
      -- the empty list is none, and any other is refused
      cases hvw <;> rfl
    | _ => cases hvw
  | _ =>
    cases hw with
    | list => cases hvw
    | _ => exact congrArg (Option.map some) h

/-! ### Connections -/

/-- What is heeded of the end of a leg. -/
def Exit.heeded : Value → Value := Value.heeded Exit.shape []

theorem heeds_exit : Exit.reader.Heeds Exit.heeded := by
  refine Reader.heeds_record nofun fun f g h => ?_
  simp only [h.optional, h.orElse, Value.within_nil, heeds_looseText,
    heeds_delayMark, Reader.heeds_string, Reader.heeds_float, Reader.heeds_bool]

/-- What is heeded of a call. -/
def Call.heeded : Value → Value := Value.heeded Call.shape []

theorem heeds_call : Call.reader.Heeds Call.heeded := by
  refine Reader.heeds_record nofun fun f g h => ?_
  simp only [h.optional, Value.within_nil, heeds_looseText,
    heeds_delayMark, Reader.heeds_string, Reader.heeds_float]

/-- The fields of a leg that hold records. -/
def Leg.parts : List (String × (Value → Value)) :=
  [("infotext", Value.each Note.heeded), ("stops", Value.each Call.heeded),
    ("disruptions", Alerts.heeded), ("exit", Exit.heeded)]

/-- What is heeded of a leg. -/
def Leg.heeded : Value → Value := Value.heeded Leg.shape Leg.parts

theorem heeds_leg : Leg.reader.Heeds Leg.heeded := by
  refine Reader.heeds_record ?_ fun f g h => ?_
  · simp only [Leg.parts, List.forall_mem_cons, Value.keepsNull_each, keepsNull_alerts, Exit.heeded,
      Value.keepsNull_heeded, true_and]
    exact nofun
  · simp only [h.optional, h.orElse, Leg.parts, Value.within_cons, Value.within_nil,
      String.reduceEq, if_true, if_false, heeds_looseText, heeds_delayMark, heeds_alerts,
      heeds_exit, Reader.heeds_list heeds_note, Reader.heeds_list heeds_call, Reader.heeds_string,
      Reader.heeds_float, Reader.heeds_bool]

/-- The fields of a connection that hold records. -/
def Connection.parts : List (String × (Value → Value)) :=
  [("disruptions", Alerts.heeded), ("legs", Value.each Leg.heeded)]

/-- What is heeded of a connection. -/
def Connection.heeded : Value → Value := Value.heeded Connection.shape Connection.parts

theorem heeds_connection : Connection.reader.Heeds Connection.heeded := by
  refine Reader.heeds_record ?_ fun f g h => ?_
  · simp only [Connection.parts, List.forall_mem_cons, Value.keepsNull_each, keepsNull_alerts,
      true_and]
    exact nofun
  · simp only [h.optional, h.orElse, Connection.parts, Value.within_cons, Value.within_nil,
      String.reduceEq, if_true, if_false, heeds_alerts, Reader.heeds_list heeds_leg,
      Reader.heeds_string, Reader.heeds_float]

/-! ### Responses -/

/-- The fields of a response that hold records. -/
def Response.parts : List (String × (Value → Value)) :=
  [("connections", Value.each Connection.heeded)]

/-- What is heeded of a response. -/
def Response.heeded : Value → Value := Value.heeded Response.shape Response.parts

theorem heeds_response : Response.reader.Heeds Response.heeded := by
  have hmessages : (Reader.list Reader.string).Heeds id := by
    rw [← Value.each_id]
    exact Reader.heeds_list Reader.heeds_string
  refine Reader.heeds_record ?_ fun f g h => ?_
  · simp only [Response.parts, List.forall_mem_cons, Value.keepsNull_each, true_and]
    exact nofun
  · simp only [h.optional, Response.parts, Value.within_cons, Value.within_nil, String.reduceEq, if_true,
      if_false, Reader.heeds_list heeds_connection, hmessages,
      Reader.heeds_string, Reader.heeds_int64]

/-- What is heeded of a suggestion. -/
def Suggestion.heeded : Value → Value := Value.heeded Suggestion.shape []

theorem heeds_suggestion : Suggestion.reader.Heeds Suggestion.heeded := by
  refine Reader.heeds_record nofun fun f g h => ?_
  simp only [h.optional, Value.within_nil, heeds_looseText,
    Reader.heeds_string, Reader.heeds_float]

/-- **What is not heeded of a body makes no difference**: not how its members are ordered, whether
a field is null or absent, and which members there are besides the fields. -/
theorem decode_of_reordered {a b : String} {v w : Value} (ha : Value.ofString? a = some v)
    (hb : Value.ofString? b = some w) (hv : v.Regular maxRoom) (hw : w.Regular maxRoom) :
    ((Response.heeded v).Reordered (Response.heeded w) →
      (decodeRoute a).toOption = (decodeRoute b).toOption) ∧
    ((Value.each Suggestion.heeded v).Reordered (Value.each Suggestion.heeded w) →
      (decodeSuggestions a).toOption = (decodeSuggestions b).toOption) := by
  constructor
  · intro hvw
    rw [decodeRoute, decodeRoute, Reader.parse, Reader.parse, ha, hb, Option.bind_some,
      Option.bind_some, heeds_response hv hw hvw]
    cases Response.reader maxRoom w <;> rfl
  · intro hvw
    rw [decodeSuggestions, decodeSuggestions, Reader.parse, Reader.parse, ha, hb, Option.bind_some,
      Option.bind_some, Reader.heeds_list heeds_suggestion hv hw hvw]
    cases Reader.list Suggestion.reader maxRoom w <;> rfl

/-- A connection with a null for its legs, in a response with a null for its count. -/
def nulledBody : Value :=
  .record [("count", .null), ("connections",
    .list [.record [("from", .string "Bern"), ("to", .string "Olten"), ("legs", .null)]])]

/-- The same connection without legs, its ends the other way round, and a member of no meaning. -/
def reorderedBody : Value :=
  .record [("connections", .list [.record [("to", .string "Olten"), ("from", .string "Bern")]]),
    ("hint", .bool true)]

theorem written_nulledBody : nulledBody.Written := by
  rw [nulledBody, Value.written_record_cons, Value.written_record_cons]
  refine ⟨.null, .list ?_, Value.written_record_nil⟩
  simp only [List.forall_mem_singleton, Value.written_record_cons, Value.written_string, true_and]
  exact ⟨.null, Value.written_record_nil⟩

theorem written_reorderedBody : reorderedBody.Written := by
  rw [reorderedBody, Value.written_record_cons, Value.written_record_cons]
  refine ⟨.list ?_, .bool true, Value.written_record_nil⟩
  simp only [List.forall_mem_singleton, Value.written_record_cons, Value.written_string, true_and]
  exact Value.written_record_nil

theorem regular_nulledBody : nulledBody.Regular maxRoom := by
  refine .record (by decide) ?_
  simp only [List.forall_mem_cons]
  refine ⟨.null _, .list ?_, nofun⟩
  rw [List.forall_mem_singleton]
  refine .record (by decide) ?_
  simp only [List.forall_mem_cons]
  exact ⟨.string _ _, .string _ _, .null _, nofun⟩

theorem regular_reorderedBody : reorderedBody.Regular maxRoom := by
  refine .record (by decide) ?_
  simp only [List.forall_mem_cons]
  refine ⟨.list ?_, .bool _ _, nofun⟩
  rw [List.forall_mem_singleton]
  refine .record (by decide) ?_
  simp only [List.forall_mem_cons]
  exact ⟨.string _ _, .string _ _, nofun⟩

theorem decode_nulledBody_eq_reorderedBody : ∃ outcome,
    (decodeRoute nulledBody.write).toOption = some outcome ∧
      (decodeRoute reorderedBody.write).toOption = some outcome := by
  -- what is heeded of either is computed, and differs in the order of two members only
  have hheeded : Response.heeded nulledBody = .record [("connections",
      .list [.record [("from", .string "Bern"), ("to", .string "Olten")]])] :=
    rfl
  have hheeded' : Response.heeded reorderedBody = .record [("connections",
      .list [.record [("to", .string "Olten"), ("from", .string "Bern")]])] :=
    rfl
  have hconnection : (Value.record [("from", .string "Bern"), ("to", .string "Olten")]).Reordered
      (.record [("to", .string "Olten"), ("from", .string "Bern")]) :=
    .record rfl (.cons (.text _) (.cons (.text _) .nil)) (.swap _ _ [])
  have hbody : (Response.heeded nulledBody).Reordered (Response.heeded reorderedBody) := by
    rw [hheeded, hheeded']
    refine .record ?_ ?_ (.refl _)
    · rfl
    · exact .cons (.list (.cons hconnection .nil)) .nil
  have hsame := (decode_of_reordered (Value.ofString?_write written_nulledBody)
    (Value.ofString?_write written_reorderedBody) regular_nulledBody regular_reorderedBody).1 hbody
  have hsome : (decodeRoute nulledBody.write).toOption.isSome := by decide +kernel
  obtain ⟨outcome, houtcome⟩ := Option.isSome_iff_exists.mp hsome
  exact ⟨outcome, houtcome, hsame.symm.trans houtcome⟩

end Itinerary.Feed
