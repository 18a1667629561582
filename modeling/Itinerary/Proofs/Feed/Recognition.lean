import Itinerary.Feed.Response
import Itinerary.Proofs.Json.Fields
import Itinerary.Proofs.Json.Heeded

/-!
# Which bodies are responses

A response is meant to be an object with an error text, connections or messages. The reader of
records is more generous than that: a record also comes as a list of its fields in their declared
order, and a response is read as a record. So besides objects there is one more form of body that is
accepted, a list of just four items (`Response.members?`), and it is read as the object that has
these items for its members (`reader_listed`). Every other body is refused, and the refusal quotes
it.

An accepted body has one of the three members in either form (`Response.carries_of_says`).
-/

namespace Itinerary.Feed

open Json

namespace Response

/-- What a body says if it holds a value. -/
def Says (v : Value) (o : RouteOutcome) : Prop :=
  ∃ r, reader maxRoom v = some r ∧ r.outcome = .ok o

/-- The members that by themselves make a response. -/
def recognised : List String := ["error", "connections", "messages"]

/-- Whether one of them is there and not null. -/
def Carries (members : List (Literal × Value)) : Prop :=
  ∃ m ∈ members, m.2.isNull = false ∧ ∃ name ∈ recognised, m.1.plain? = some name

/-- The items of a list as the members that stand at their places. -/
def listed (error count connections messages : Value) : List (String × Value) :=
  [("error", error), ("count", count), ("connections", connections), ("messages", messages)]

/-- The members of a value that may be a response: those of an object, or the four items of a list
by their places. -/
def members? : Value → Option (List (Literal × Value))
  | .object members => some members
  | .list [error, count, connections, messages] =>
    some ((listed error count connections messages).map fun (k, v) => (Literal.ofString k, v))
  | _ => none

theorem exists_items_of_members? {items : List Value} {members : List (Literal × Value)}
    (h : members? (.list items) = some members) :
    ∃ error count connections messages, items = [error, count, connections, messages] := by
  rw [members?.eq_def] at h
  split at h
  · next heq => cases heq
  · next heq =>
    cases heq
    exact ⟨_, _, _, _, rfl⟩
  · cases h

/-- A value of which a response is read that says something says it. -/
theorem exists_says {v : Value} (h : (reader maxRoom v).any (fun r => r.outcome.isOk) = true) :
    ∃ o, Says v o := by
  obtain ⟨r, hr, hok⟩ := Option.any_eq_true _ _ |>.mp h
  obtain ⟨o, ho⟩ := exists_eq_ok hok
  exact ⟨o, r, hr, ho⟩

/-! ### The two forms -/

theorem reader_listed (room : Nat) (error count connections messages : Value) :
    reader room (.list [error, count, connections, messages]) =
      reader room (.record (listed error count connections messages)) := by
  cases room with
  | zero => rfl
  | succ room =>
    -- the members have the names of the shape, each once and in the same order
    have hnames : (listed error count connections messages).map Prod.fst =
        ["error", "count", "connections", "messages"] := rfl
    rw [reader]
    refine Eq.trans ?_ (Reader.record_record hnames (by decide) _ room).symm
    rfl

theorem reader_of_members?_eq_none {v : Value} (h : members? v = none) (room : Nat) :
    reader room v = none := by
  cases room with
  | zero => rfl
  | succ room =>
    cases v with
    | object members => cases h
    | list items =>
      -- none of the four fields may be left out, so a list is too short or too long
      have hlength : ¬ (shape.least ≤ items.length ∧ items.length ≤ shape.names.length) := by
        rintro ⟨hleast, hmost⟩
        obtain ⟨error, count, connections, messages, rfl⟩ :=
          List.length_eq_four.mp (Nat.le_antisymm hmost hleast)
        cases h
      show (shape.ofItems room items).bind _ = none
      rw [Shape.ofItems, if_neg hlength]
      rfl
    | _ => rfl

theorem reader_of_members?_eq_some {v : Value} {members : List (Literal × Value)}
    (h : members? v = some members) (room : Nat) :
    reader room v = reader room (.object members) := by
  cases v with
  | object members' => cases h; rfl
  | list items =>
    obtain ⟨error, count, connections, messages, rfl⟩ := exists_items_of_members? h
    cases h
    exact reader_listed room _ _ _ _
  | _ => cases h

/-! ### What an accepted body has -/

theorem fields_of_reader {room : Nat} {members : List (Literal × Value)} {r : Response}
    (h : reader room (.object members) = some r) :
    ∃ inner f, shape.ofMembers inner members = some f ∧
      f.optional "error" Reader.string = some r.error ∧
      f.optional "connections" (Reader.list Connection.reader) = some r.connections ∧
      f.optional "messages" (Reader.list Reader.string) = some r.messages := by
  cases room with
  | zero => cases h
  | succ room =>
    have hbind : (shape.ofMembers room members).bind _ = some r := h
    obtain ⟨f, hf, hmake⟩ := Option.bind_eq_some_iff.mp hbind
    obtain ⟨error, herror, hmake⟩ := Option.bind_eq_some_iff.mp hmake
    obtain ⟨count, hcount, hmake⟩ := Option.bind_eq_some_iff.mp hmake
    obtain ⟨connections, hconnections, hmake⟩ := Option.bind_eq_some_iff.mp hmake
    obtain ⟨messages, hmessages, hmake⟩ := Option.bind_eq_some_iff.mp hmake
    cases hmake
    exact ⟨room, f, hf, herror, hconnections, hmessages⟩

/-- A field of which something is read is a member that is not null. -/
theorem carries_of_optional {room : Nat} {members : List (Literal × Value)} {f : Found}
    {name : String} {α : Type} {r : Reader α} {a : α} (hf : shape.ofMembers room members = some f)
    (hname : name ∈ recognised) (ha : f.optional name r = some (some a)) : Carries members := by
  rw [Found.optional_eq] at ha
  cases hpresent : f.present? name with
  | none =>
    rw [hpresent] at ha
    cases ha
  | some v =>
    -- a field that is null is read as absent
    obtain ⟨hvalue, hnull⟩ := Option.filter_eq_some_iff.mp hpresent
    obtain ⟨-, key, hmem, hkey⟩ := (Shape.value?_of_ofMembers_iff hf).mp hvalue
    rw [Bool.not_eq_true'] at hnull
    exact ⟨(key, v), hmem, hnull, name, hname, hkey⟩

/-- **What a body says, one of its members says.** -/
theorem carries_of_says {members : List (Literal × Value)} {o : RouteOutcome}
    (h : Says (.object members) o) : Carries members := by
  obtain ⟨r, hr, ho⟩ := h
  obtain ⟨inner, f, hf, herror, hconnections, hmessages⟩ := fields_of_reader hr
  -- what is said comes from the first of the three that was read
  rw [outcome] at ho
  split at ho
  · next hsome =>
    rw [hsome] at herror
    exact carries_of_optional hf (by decide) herror
  · next hsome =>
    rw [hsome] at hconnections
    exact carries_of_optional hf (by decide) hconnections
  · next hsome =>
    rw [hsome] at hmessages
    exact carries_of_optional hf (by decide) hmessages
  · cases ho

end Response

/-! ### Bodies -/

/-- A body is accepted for what its value says. -/
theorem decodeRoute_eq_ok_iff {body : String} {o : RouteOutcome} :
    decodeRoute body = .ok o ↔ ∃ v, Value.ofString? body = some v ∧ Response.Says v o := by
  rw [decodeRoute, Reader.parse]
  cases Value.ofString? body with
  | none =>
    constructor
    · intro h
      cases h
    · rintro ⟨v, ⟨⟩, -⟩
  | some v =>
    rw [Option.bind_some]
    constructor
    · intro h
      -- a body is accepted for the response that its value is read as
      cases hr : Response.reader maxRoom v with
      | none =>
        rw [hr] at h
        cases h
      | some r =>
        rw [hr] at h
        exact ⟨v, rfl, r, hr, h⟩
    · rintro ⟨_, ⟨⟩, r, hr, ho⟩
      rw [hr]
      exact ho

theorem decodeRoute_of_reader_eq_none {body : String} {v : Value}
    (h : Value.ofString? body = some v) (hv : Response.reader maxRoom v = none) :
    decodeRoute body = .error (.ofBody body) := by
  rw [decodeRoute, Reader.parse, h, Option.bind_some, hv]

/-- **Which bodies are responses.** A body is accepted just if its value has the members of a
response, as an object or as a list of four items, and one of the three that make a response is
among them; it then says what the object of these members says. A body of any other form is refused,
and quoted. -/
theorem decodeRoute_accepts_iff (body : String) :
    (∀ o, decodeRoute body = .ok o ↔ ∃ v members, Value.ofString? body = some v ∧
      Response.members? v = some members ∧ Response.Carries members ∧
        Response.Says (.object members) o) ∧
    ∀ v, Value.ofString? body = some v → (∀ members, v ≠ .object members) →
      (∀ items, v = .list items → items.length ≠ 4) →
        decodeRoute body = .error (.ofBody body) := by
  constructor
  · intro o
    rw [decodeRoute_eq_ok_iff]
    constructor
    · rintro ⟨v, hv, r, hr, ho⟩
      -- a value that has no members of a response is not read
      cases hmembers : Response.members? v with
      | none =>
        rw [Response.reader_of_members?_eq_none hmembers] at hr
        cases hr
      | some members =>
        rw [Response.reader_of_members?_eq_some hmembers] at hr
        exact ⟨v, members, hv, hmembers, Response.carries_of_says ⟨r, hr, ho⟩, r, hr, ho⟩
    · -- conversely the object of the members is read as the value is
      rintro ⟨v, members, hv, hmembers, -, r, hr, ho⟩
      rw [← Response.reader_of_members?_eq_some hmembers] at hr
      exact ⟨v, hv, r, hr, ho⟩
  · intro v hv hobject hlist
    -- of the other forms it is left to see that they have no members
    refine decodeRoute_of_reader_eq_none hv (Response.reader_of_members?_eq_none ?_ _)
    cases hmembers : Response.members? v with
    | none => rfl
    | some members =>
      -- only an object and a list of four items have some, and it is neither
      cases v with
      | object members' => exact absurd rfl (hobject members')
      | list items =>
        obtain ⟨error, count, connections, messages, rfl⟩ :=
          Response.exists_items_of_members? hmembers
        exact absurd rfl (hlist _ rfl)
      | _ => cases hmembers

/-- A list that is taken for a response: its first item stands where an object has its error. -/
def foundNothing : Value := .list [.string "no connections", .null, .null, .null]

theorem written_foundNothing : foundNothing.Written := by
  refine .list ?_
  simp only [List.forall_mem_cons, Value.written_string, true_and]
  exact ⟨.null, .null, .null, List.forall_mem_nil _⟩

theorem decodeRoute_foundNothing :
    Value.ofString? "[\"no connections\",null,null,null]" = some foundNothing ∧
      (∀ members, foundNothing ≠ .object members) ∧
      decodeRoute "[\"no connections\",null,null,null]" = .ok (.noResult "no connections") := by
  have hwrite : "[\"no connections\",null,null,null]" = foundNothing.write := by decide +kernel
  have hvalue : Value.ofString? "[\"no connections\",null,null,null]" = some foundNothing := by
    rw [hwrite]
    exact Value.ofString?_write written_foundNothing
  refine ⟨hvalue, nofun, decodeRoute_eq_ok_iff.mpr ⟨_, hvalue, ?_⟩⟩
  exact ⟨⟨some "no connections", none, none, none⟩, rfl, rfl⟩

/-- A list of two numbers. -/
def twoItems : Value := .list [.int 1, .int 2]

theorem written_twoItems : twoItems.Written := by
  refine .list ?_
  simp only [List.forall_mem_cons, Value.written_int, true_and]
  exact List.forall_mem_nil _

theorem decodeRoute_twoItems : decodeRoute twoItems.write = .error (.malformed "[1,2]") :=
  (decodeRoute_accepts_iff twoItems.write).2 twoItems (Value.ofString?_write written_twoItems) nofun
    (by rintro items ⟨⟩; decide)

end Itinerary.Feed
