import Itinerary.Proofs.Stored.Service
import Itinerary.Service.Response

/-!
# What a caller reads off a response

Every body in JSON can be read again as the value it was written from. Of an answer about trips a
caller takes the token of the page, which is there exactly if the answer has trips; an error has
none, nor has an answer without result. Of an answer about places a caller takes the list of them
(`shownPlaces?_placesBody`).

The token is written when the trips are already there, and if it could not be, they would be
answered with an error of the service. That does not happen (`Response.ofTrips_eq`).
-/

namespace Itinerary

open Json

namespace Service

/-! ### Entries are written in the grammar -/

@[simp] theorem TimeEntry.written_toJson (e : TimeEntry) : e.toJson.Written := by
  simp [toJson]

@[simp] theorem PlaceEntry.written_toJson (e : PlaceEntry) : e.toJson.Written := by
  simp [toJson]

@[simp] theorem StopEntry.written_toJson (e : StopEntry) : e.toJson.Written := by
  simp [toJson]

@[simp] theorem LineEntry.written_toJson (e : LineEntry) : e.toJson.Written := by
  simp [toJson]

@[simp] theorem LegEntry.written_toJson (e : LegEntry) : e.toJson.Written := by
  cases e <;> simp [toJson]

@[simp] theorem TripEntry.written_toJson (e : TripEntry) : e.toJson.Written := by
  simp [toJson]

@[simp] theorem written_tripsBody (trips : List Trip) (context : PageContext) (token : String) :
    (tripsBody trips context token).Written := by
  simp [tripsBody]

@[simp] theorem written_placesBody (places : List Location) : (placesBody places).Written := by
  simp [placesBody]

@[simp] theorem written_noResultBody (reason : String) : (noResultBody reason).Written := by
  simp [noResultBody]

/-! ### Answers about trips -/

/-- The body of an answer about trips. -/
def resultBody : Client.TripsResult → Value
  | .trips trips context => tripsBody trips context context.token
  | .noResult reason => noResultBody reason

/-- **An answer about trips is always written**, since the token of its page is. -/
theorem writeResult_eq (result : Client.TripsResult) :
    writeResult result = .ok (resultBody result) := by
  cases result with
  | trips trips context => rw [writeResult, context.encode_eq, resultBody]
  | noResult reason => rfl

/-- So no answer about trips is an error of the service. -/
theorem Response.ofTrips_eq : Response.ofTrips = Response.ofResult resultBody := by
  funext result
  cases result with
  | ok result => rw [ofTrips, writeResult_eq, ofResult]
  | error e => rfl

/-! ### The token of a page -/

/-- The text of a member of an object, if it has the member and that is a text. -/
def textMember? (name : String) : Value → Option String
  | .object members => (members.lookup (Literal.ofString name)).bind (Reader.string 0)
  | _ => none

/-- The token that a caller finds in the body of an answer with trips. -/
def Response.pageToken? (r : Response) : Option String :=
  (Value.ofString? r.body).bind fun body =>
    if textMember? "status" body = some "ok" then textMember? "context" body else none

theorem pageToken?_json (status : Status) {v : Value} (h : v.Written) :
    (Response.json status v).pageToken? =
      if textMember? "status" v = some "ok" then textMember? "context" v else none := by
  rw [Response.pageToken?, Response.json, Value.ofString?_write h, Option.bind_some]

section

variable {name other s : String} {v : Value} {members : List (String × Value)}

@[simp] theorem textMember?_record_nil : textMember? name (.record []) = none := rfl

@[simp] theorem textMember?_record_cons_self :
    textMember? name (.record ((name, .string s) :: members)) = some s := by
  rw [Value.record, textMember?, List.map_cons, List.lookup_cons_self, Option.bind_some,
    Reader.string_string]

@[simp] theorem textMember?_record_cons_of_ne (h : name ≠ other) :
    textMember? name (.record ((other, v) :: members)) = textMember? name (.record members) := by
  -- names are told apart by the literals that stand for them
  have hkey : (Literal.ofString name == Literal.ofString other) = false := by
    rw [beq_eq_false_iff_ne]
    intro heq
    have hplain := congrArg Literal.plain? heq
    rw [Literal.plain?_ofString, Literal.plain?_ofString] at hplain
    exact h (Option.some.inj hplain)
  rw [Value.record, Value.record, textMember?, textMember?, List.map_cons, List.lookup_cons, hkey]

end

theorem pageToken?_response (e : ServiceError) : e.response.pageToken? = none := by
  have hstatus : textMember? "status" (.record [("error", .string e.message)]) = none := by
    simp
  rw [ServiceError.response, pageToken?_json _ (by simp), hstatus, if_neg (by decide)]

theorem pageToken?_noResultBody (status : Status) (reason : String) :
    (Response.json status (noResultBody reason)).pageToken? = none := by
  have hstatus : textMember? "status" (noResultBody reason) = some "no_result" := by
    simp [noResultBody]
  rw [pageToken?_json _ (written_noResultBody reason), hstatus, if_neg (by decide)]

theorem pageToken?_tripsBody (status : Status) (trips : List Trip) (context : PageContext)
    (token : String) :
    (Response.json status (tripsBody trips context token)).pageToken? = some token := by
  have hstatus : textMember? "status" (tripsBody trips context token) = some "ok" := by
    simp [tripsBody]
  have hcontext : textMember? "context" (tripsBody trips context token) = some token := by
    simp [tripsBody]
  rw [pageToken?_json _ (written_tripsBody trips context token), if_pos hstatus, hcontext]

/-- **A caller finds the token of the page** in an answer with trips, and only in such an answer. -/
theorem pageToken?_ofResult_iff {result : Client.Result Client.TripsResult} {token : String} :
    (Response.ofResult resultBody result).pageToken? = some token ↔
      ∃ trips context, result = .ok (.trips trips context) ∧ token = context.token := by
  -- without trips neither side holds
  have hnone : ∀ response : Response, response.pageToken? = none →
      (∀ trips context, result ≠ .ok (.trips trips context)) →
        (response.pageToken? = some token ↔
          ∃ trips context, result = .ok (.trips trips context) ∧ token = context.token) := by
    intro response hresponse hresult
    rw [hresponse]
    constructor
    · intro h
      cases h
    · rintro ⟨trips, context, h, -⟩
      exact absurd h (hresult trips context)
  cases result with
  | error e =>
    -- an error has no token
    refine hnone _ (pageToken?_response (ServiceError.ofClient e)) ?_
    intro _ _ h
    cases h
  | ok result =>
    cases result with
    | noResult reason =>
      -- neither has a reason why there is no trip
      refine hnone _ (pageToken?_noResultBody .ok reason) ?_
      intro _ _ h
      cases h
    | trips trips context =>
      show (Response.json .ok (tripsBody trips context context.token)).pageToken? = some token ↔ _
      rw [pageToken?_tripsBody]
      constructor
      · intro h
        exact ⟨trips, context, rfl, (Option.some.inj h).symm⟩
      · rintro ⟨_, _, ⟨⟩, rfl⟩
        rfl

/-! ### The places of an answer -/

/-- The items of a member of an object, if it has the member and that is a list. -/
def listMember? (name : String) : Value → Option (List Value)
  | .object members =>
    match members.lookup (Literal.ofString name) with
    | some (.list items) => some items
    | _ => none
  | _ => none

/-- The places that a caller finds in the body of an answer, as they are written there. -/
def Response.shownPlaces? (r : Response) : Option (List Value) :=
  (Value.ofString? r.body).bind (listMember? "locations")

/-- **A caller finds the places of an answer**, one for one and in their order. -/
theorem shownPlaces?_placesBody (status : Status) (places : List Location) :
    (Response.json status (placesBody places)).shownPlaces? =
      some (places.map fun place => (PlaceEntry.of place).toJson) := by
  rw [Response.shownPlaces?, Response.json, Value.ofString?_write (written_placesBody places),
    Option.bind_some, placesBody, Value.record, listMember?, List.map_cons, List.lookup_cons_self]
  rfl

end Service

end Itinerary
