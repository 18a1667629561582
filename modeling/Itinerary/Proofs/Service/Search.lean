import Itinerary.Proofs.Calendar.Figures
import Itinerary.Proofs.Client.Address
import Itinerary.Proofs.Service.Requests

/-!
# What a search is sent as

A caller writes a search in one form, and the provider is sent it in another: the date changes its
order, terms become coordinates, a blank place in between is dropped, and what the caller does not
say about the answer comes from the client. A search whose month and day were swapped on the way, or
whose flag or count were lost, would still be answered with trips.

`IsSearch` lists the parameters of a search by the search alone. Every search for a day and a time
that exist has such parameters (`exists_isSearch`), and whatever they are, the query made of the
search is sent as them (`parameters_queryOf`). A day or a time that does not exist ends the search
before there is a query.
-/

namespace Itinerary

open Calendar Text

theorem Call.asks_map_askOnce {α β : Type} (f : α → β) (u : Url) (next : Reply → α) :
    ((Call.askOnce u next).map f).Asks u := by
  intro σ p state
  rfl

namespace Service

/-! ### The parameters of a search -/

/-- Whether parameters are those of a place in between: the one for its term, or none where the
place is not given or blank. -/
inductive ViaSentAs : Option String → List Parameter → Prop
  | absent : ViaSentAs none []
  | blank {via : String} (h : isBlankText via = true) : ViaSentAs (some via) []
  | given {via sent : String} (h : isBlankText via = false) (hsent : Location.SentAs via sent) :
    ViaSentAs (some via) [("via", sent)]

/-- Whether parameters are those that a client sends for a search, with a date and a time in
figures. -/
inductive IsSearch (c : Client) (r : TripRequest) (date time : String) : List Parameter → Prop
  | intro {origin destination : String} {via : List Parameter}
    (horigin : Location.SentAs r.origin origin)
    (hdestination : Location.SentAs r.destination destination) (hvia : ViaSentAs r.via via) :
    IsSearch c r date time ([("from", origin), ("to", destination)] ++ via ++
      [("date", date), ("time", time),
        ("time_type", if r.arrival then "arrival" else "depart"),
        ("num", toString c.maxTrips.toNat), ("show_delays", "1"), ("show_trackchanges", "1")])

theorem exists_viaSentAs (via : Option String) : ∃ ps, ViaSentAs via ps := by
  cases via with
  | none => exact ⟨[], .absent⟩
  | some via =>
    cases hblank : isBlankText via with
    | true => exact ⟨[], .blank hblank⟩
    | false =>
      obtain ⟨sent, hsent⟩ := Location.exists_sentAs via
      exact ⟨[("via", sent)], .given hblank hsent⟩

theorem exists_isSearch (c : Client) (r : TripRequest) (date time : String) :
    ∃ ps, IsSearch c r date time ps := by
  obtain ⟨origin, horigin⟩ := Location.exists_sentAs r.origin
  obtain ⟨destination, hdestination⟩ := Location.exists_sentAs r.destination
  obtain ⟨via, hvia⟩ := exists_viaSentAs r.via
  exact ⟨_, .intro horigin hdestination hvia⟩

/-- The place in between of a query is the one that is sent for it. -/
theorem ViaSentAs.exists_term {via : Option String} {ps : List Parameter} (h : ViaSentAs via ps) :
    ∃ term : Option String, ps = (term.map fun term => ("via", term)).toList ∧
      ((via.filter fun v => !isBlankText v).map Location.ofTerm).map Location.term?
        = term.map some := by
  cases h with
  | absent => exact ⟨none, rfl, rfl⟩
  | blank hblank =>
    refine ⟨none, rfl, ?_⟩
    simp [Option.filter, hblank]
  | @given via sent hblank hsent =>
    refine ⟨some sent, rfl, ?_⟩
    have hterm := (Location.term?_ofTerm_eq_some_iff hblank).mpr hsent
    simp [Option.filter, hblank, hterm]

/-- **The query of a search is sent as the search.** -/
theorem parameters_queryOf (s : Service) (moment : DateTime) {r : TripRequest}
    {ps : List Parameter} (horigin : isBlankText r.origin = false)
    (hdestination : isBlankText r.destination = false)
    (h : IsSearch s.client r (slashedDate.write moment) (hourMinute.write moment) ps) :
    (s.queryOf moment r).parameters = .ok ps := by
  obtain @⟨origin, destination, via, hsentOrigin, hsentDestination, hvia⟩ := h
  obtain ⟨term, rfl, hterm⟩ := hvia.exists_term
  -- the terms of the places are those of the search, which are not blank
  have horiginTerm : (s.queryOf moment r).origin.term? = some origin := by
    rw [(s.places_queryOf moment r).1]
    exact (Location.term?_ofTerm_eq_some_iff horigin).mpr hsentOrigin
  have hdestinationTerm : (s.queryOf moment r).destination.term? = some destination := by
    rw [(s.places_queryOf moment r).2]
    exact (Location.term?_ofTerm_eq_some_iff hdestination).mpr hsentDestination
  -- the flag decides the type of the time, and the options are those of the client
  have htype : (s.queryOf moment r).timeType.name = if r.arrival then "arrival" else "depart" := by
    rw [queryOf]
    cases r.arrival <;> rfl
  rw [TripQuery.parameters_of_terms horiginTerm hdestinationTerm hterm,
    TripQuery.timeParameters_eq, TripQuery.timing, htype]
  rfl

/-- A blank place in between is none. -/
theorem queryOf_of_isBlankText (s : Service) (moment : DateTime) {r : TripRequest}
    (h : ∀ via, r.via = some via → isBlankText via = true) :
    s.queryOf moment { r with via := none } = s.queryOf moment r := by
  have hnone : r.via.filter (fun v => !isBlankText v) = none := by
    rw [Option.filter_eq_none_iff]
    intro via hvia
    rw [h via hvia]
    decide
  rw [queryOf, queryOf, hnone]
  rfl

/-! ### The moment of a search -/

/-- A day and a time that exist are a moment with the same figures. -/
theorem exists_momentOf (now : DateTime) {year month day hour minute : Nat} (hyear : year < 10000)
    (hday : IsDay year month day) (hhour : hour < 24) (hminute : minute < 60) :
    ∃ moment, momentOf now (some (dashedText year month day)) (some (clockText hour minute))
        = .ok moment ∧
      slashedDate.write moment = slashedText year month day ∧
      hourMinute.write moment = clockText hour minute := by
  obtain ⟨date, hdate, hslashed⟩ := exists_date_of_isDay hday hyear
  obtain ⟨clock, hclock, hwritten⟩ := exists_clock_of_lt hhour hminute
  refine ⟨⟨date, clock⟩, ?_, hslashed clock, hwritten date⟩
  rw [momentOf, dateOf, clockOf, hdate, hclock]
  rfl

/-! ### Searches -/

section Handling

variable (s : Service) (now : DateTime) {request : Request} {r : TripRequest}

theorem handle_eq_answerTrips (hmethod : request.method = .get)
    (hroute : Route.ofPath? request.target.path = some .trips)
    (hquery : TripRequest.ofQuery request.target.query = .ok r) :
    s.handle now request = s.answerTrips now r := by
  rw [s.handle_eq_answer now hmethod hroute, answer, hquery, withRequest]

/-- Where the moment and the address are known, the search is asked. -/
theorem answerTrips_asks {moment : DateTime} {ps : List Parameter} {u : Url}
    (hmoment : momentOf now r.date r.time = .ok moment)
    (hps : (s.queryOf moment r).parameters = .ok ps) (hu : s.client.address .route ps = .ok u) :
    (s.answerTrips now r).Asks u := by
  rw [answerTrips, hmoment]
  show (Call.map _ (s.client.queryTrips s.ids (s.queryOf moment r))).Asks u
  rw [Client.queryTrips_eq_ask hps hu]
  exact Call.asks_map_askOnce _ _ _

theorem answerTrips_of_isBlankText (h : ∀ via, r.via = some via → isBlankText via = true) :
    s.answerTrips now { r with via := none } = s.answerTrips now r := by
  rw [answerTrips, answerTrips]
  cases momentOf now r.date r.time with
  | error e => rfl
  | ok moment =>
    show Call.map _ (s.client.queryTrips s.ids (s.queryOf moment { r with via := none })) = _
    rw [s.queryOf_of_isBlankText moment h]

/-- **What a search is sent as.** A search between places that are not blank, for a day of the
calendar and a time of the day, asks for one address, which carries the parameters of the search
behind those of the base. A blank place in between makes no difference to anything. A day that the
calendar lacks and a time that the day lacks are bad requests, and nothing is asked. -/
theorem handle_search (hmethod : request.method = .get)
    (hroute : Route.ofPath? request.target.path = some .trips)
    (hquery : TripRequest.ofQuery request.target.query = .ok r) :
    (∀ (year month day hour minute : Nat) (base : Url),
      year < 10000 → IsDay year month day → hour < 24 → minute < 60 →
      r.date = some (dashedText year month day) → r.time = some (clockText hour minute) →
      isBlankText r.origin = false → isBlankText r.destination = false →
      Url.parse (s.client.baseUrl ++ "/route.json") = .ok base →
      (∃ ps, IsSearch s.client r (slashedText year month day) (clockText hour minute) ps) ∧
      ∀ ps, IsSearch s.client r (slashedText year month day) (clockText hour minute) ps →
        (s.handle now request).Asks (base.withParameters ps) ∧
        (base.withParameters ps).parameters = base.parameters ++ ps) ∧
    (∀ other : Request, other.method = .get → Route.ofPath? other.target.path = some .trips →
      TripRequest.ofQuery other.target.query = .ok { r with via := none } →
      (∀ via, r.via = some via → isBlankText via = true) →
      s.handle now other = s.handle now request) ∧
    (∀ year month day : Nat, year < 10000 → month < 100 → day < 100 →
      r.date = some (dashedText year month day) → ¬ IsDay year month day →
      AnswersWith (s.handle now request) .badRequest) ∧
    ∀ hour minute : Nat, hour < 100 → minute < 100 → r.time = some (clockText hour minute) →
      ¬ (hour < 24 ∧ minute < 60) → AnswersWith (s.handle now request) .badRequest := by
  have hhandle := s.handle_eq_answerTrips now hmethod hroute hquery
  rw [hhandle]
  refine ⟨?asked, ?blank, ?noDay, ?noTime⟩
  case asked =>
    intro year month day hour minute base hyear hday hhour hminute hdate htime horigin hdestination
      hbase
    refine ⟨exists_isSearch _ _ _ _, fun ps hps => ⟨?_, Url.parameters_withParameters base ps⟩⟩
    -- the figures of the search are those of its moment, which the query is made of
    obtain ⟨moment, hmoment, hslashed, hclock⟩ := exists_momentOf now hyear hday hhour hminute
    rw [← hdate, ← htime] at hmoment
    rw [← hslashed, ← hclock] at hps
    have hsent := s.parameters_queryOf moment horigin hdestination hps
    have haddress : s.client.baseUrl ++ "/" ++ Client.Endpoint.route.segment =
        s.client.baseUrl ++ "/route.json" := String.append_assoc
    rw [← haddress] at hbase
    exact s.answerTrips_asks now hmoment hsent (Client.address_eq_ok_iff.mpr ⟨base, hbase, rfl⟩)
  case blank =>
    intro other hother hotherRoute hotherQuery hblank
    rw [s.handle_eq_answerTrips now hother hotherRoute hotherQuery]
    exact s.answerTrips_of_isBlankText now hblank
  case noDay =>
    -- the date is looked at first, so it is refused whatever the time is
    intro year month day hyear hmonth hday hdate hnot
    obtain ⟨e, he⟩ := momentOf_of_date (date?_of_not_isDay hyear hmonth hday hnot) r.time
    rw [← hdate] at he
    exact s.answerTrips_of_momentOf he
  case noTime =>
    -- a time that is wrong is refused behind any date, and with a wrong one for that
    intro hour minute hhour hminute htime hnot
    obtain ⟨e, he⟩ := momentOf_of_time (clock?_of_not_lt hhour hminute hnot) r.date
    rw [← htime] at he
    exact s.answerTrips_of_momentOf he

end Handling

/-- A search from a coordinate to Bern, to be there by some time. -/
def searchByNight (via date time : String) : Request :=
  ⟨.get, "/api/trips",
    "from=+47.10,8.5&to=Bern+" ++ via ++ "&date=" ++ date ++ "&time=" ++ time ++ "&arrival=true"⟩

/-- That search as it is read. -/
def readByNight (via : Option String) (date time : String) : TripRequest :=
  ⟨" 47.10,8.5", "Bern ", via, some date, some time, true⟩

theorem handle_searchByNight :
    (∃ u, (inFrontOfPublic.handle midnight (searchByNight "&via=+" "2024-02-29" "23:59")).Asks u ∧
      u.parameters = [("from", "47.1,8.5"), ("to", "Bern"), ("date", "02/29/2024"),
        ("time", "23:59"), ("time_type", "arrival"), ("num", "8"), ("show_delays", "1"),
        ("show_trackchanges", "1")]) ∧
    inFrontOfPublic.handle midnight (searchByNight "" "2024-02-29" "23:59") =
      inFrontOfPublic.handle midnight (searchByNight "&via=+" "2024-02-29" "23:59") ∧
    AnswersWith (inFrontOfPublic.handle midnight (searchByNight "" "2023-02-29" "23:59"))
      .badRequest ∧
    AnswersWith (inFrontOfPublic.handle midnight (searchByNight "" "2024-02-29" "24:00"))
      .badRequest := by
  have hmethod : ∀ via date time, (searchByNight via date time).method = .get := fun _ _ _ => rfl
  have hpath : Route.ofPath? "/api/trips" = some .trips := by decide
  have hroute : ∀ via date time,
      Route.ofPath? (searchByNight via date time).target.path = some .trips := fun _ _ _ => hpath
  -- the query of the request is read by running its reader
  have hleap : TripRequest.ofQuery (searchByNight "&via=+" "2024-02-29" "23:59").target.query =
      .ok (readByNight (some " ") "2024-02-29" "23:59") := by
    decide +kernel
  obtain ⟨hasked, hblank, -, -⟩ := inFrontOfPublic.handle_search midnight
    (hmethod "&via=+" "2024-02-29" "23:59") (hroute "&via=+" "2024-02-29" "23:59") hleap
  refine ⟨?asked, ?blank, ?noDay, ?noTime⟩
  case asked =>
    have hbase : Url.parse (inFrontOfPublic.client.baseUrl ++ "/route.json") = .ok
        ⟨"https", some ⟨"", "", some (.domain "timetable.search.ch"), none⟩,
          .rooted ["api", "route.json"], none, none⟩ := by
      decide +kernel
    have hdate : dashedText 2024 2 29 = "2024-02-29" := by decide +kernel
    have htime : clockText 23 59 = "23:59" := by decide +kernel
    obtain ⟨-, hall⟩ := hasked 2024 2 29 23 59 _ (by decide)
      ⟨by decide, by decide, by decide, by decide⟩ (by decide) (by decide) (by rw [hdate]; rfl)
      (by rw [htime]; rfl) (by decide) (by decide) hbase
    -- the coordinate is sent by its numbers, the name without its blank, and nothing in between
    obtain ⟨hasks, hparameters⟩ := hall _ (.intro
      ((Location.term?_ofTerm_eq_some_iff (by decide)).mp
        (by decide +kernel : (Location.ofTerm " 47.10,8.5").term? = some "47.1,8.5"))
      ((Location.term?_ofTerm_eq_some_iff (by decide)).mp
        (by decide +kernel : (Location.ofTerm "Bern ").term? = some "Bern"))
      (.blank (by decide)))
    refine ⟨_, hasks, ?_⟩
    rw [hparameters]
    decide +kernel
  case blank =>
    -- without the blank place the request is the same but for its via
    refine hblank _ (hmethod _ _ _) (hroute _ _ _) (by decide +kernel) ?_
    rintro via ⟨⟩
    decide
  case noDay =>
    have hcommon : TripRequest.ofQuery (searchByNight "" "2023-02-29" "23:59").target.query =
        .ok (readByNight none "2023-02-29" "23:59") := by
      decide +kernel
    obtain ⟨-, -, hday, -⟩ := inFrontOfPublic.handle_search midnight
      (hmethod "" "2023-02-29" "23:59") (hroute "" "2023-02-29" "23:59") hcommon
    refine hday 2023 2 29 (by decide) (by decide) (by decide) (by decide +kernel) ?_
    -- the year is no leap year, so its February ends a day before
    rintro ⟨-, -, -, hlast⟩
    exact absurd hlast (by decide)
  case noTime =>
    have hlate : TripRequest.ofQuery (searchByNight "" "2024-02-29" "24:00").target.query =
        .ok (readByNight none "2024-02-29" "24:00") := by
      decide +kernel
    obtain ⟨-, -, -, htime⟩ := inFrontOfPublic.handle_search midnight
      (hmethod "" "2024-02-29" "24:00") (hroute "" "2024-02-29" "24:00") hlate
    exact htime 24 0 (by decide) (by decide) (by decide +kernel) (by decide)

end Service

end Itinerary
