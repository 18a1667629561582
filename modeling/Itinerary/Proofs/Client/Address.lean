import Mathlib.Data.Bool.AllAny
import Mathlib.Data.List.DropRight
import Itinerary.Proofs.Calendar.Pattern
import Itinerary.Proofs.Client
import Itinerary.Proofs.Query
import Itinerary.Proofs.Url.Base

/-!
# The addresses a client asks

A client asks endpoints below its base (`IsEndpointOf`). Of what it sends, the text of places and
searches is the callers' own, and nothing in it adds a parameter, drops one or changes another: the
query falls apart at its joints into just the parameters that were sent. The date and the time among
them name the moment of the query to the minute.

Slashes at the end of a base make no difference, since a client trims them off. What is left is a
base whose path does not end in a slash, so the name of an endpoint is one segment more
(`IsBaseOf.exists_root`).
-/

namespace Itinerary

open Calendar

/-! ### Slashes at the end -/

/-- Some slashes. -/
def slashes (n : Nat) : String := String.ofList (List.replicate n '/')

theorem trimSlashes_eq (s : String) :
    trimSlashes s = String.ofList (s.toList.rdropWhile (· = '/')) :=
  rfl

/-- **Slashes at the end make no difference.** -/
theorem trimSlashes_append_slashes (s : String) (n : Nat) :
    trimSlashes (s ++ slashes n) = trimSlashes s := by
  have hslash : ∀ c ∈ List.replicate n '/', decide (c = '/') = true := fun c hc =>
    decide_eq_true (List.eq_of_mem_replicate hc)
  rw [trimSlashes, trimSlashes, slashes, String.toList_append, String.toList_ofList,
    List.reverse_append, List.reverse_replicate, List.dropWhile_append_of_pos hslash]

/-- Behind a character that is no slash, the slashes at the end are those of what follows it. -/
theorem rdropWhile_append {front path : List Char} {c : Char} (hfront : front.getLast? = some c)
    (hc : c ≠ '/') :
    (front ++ path).rdropWhile (· = '/') = front ++ path.rdropWhile (· = '/') := by
  -- slashes are trimmed one by one from the end, so the induction is from there
  induction path using List.reverseRecOn with
  | nil =>
    rw [List.append_nil, List.rdropWhile_nil, List.append_nil, List.rdropWhile_eq_self_iff]
    intro hne hlast
    rw [List.getLast?_eq_some_getLast hne] at hfront
    exact hc (Option.some.inj hfront ▸ of_decide_eq_true hlast)
  | append_singleton path d ih =>
    rw [← List.append_assoc, List.rdropWhile_concat, List.rdropWhile_concat]
    split
    · exact ih
    · rw [List.append_assoc]

namespace Url

/-- What is left of a path without the slashes at its end has a root or is empty, and does not end
in a slash. -/
theorem IsRooted.exists_trimmed {path : List Char} (h : IsRooted path) :
    ∃ trimmed, path.rdropWhile (· = '/') = trimmed ∧ trimmed ⊆ path ∧ IsRooted trimmed ∧
      trimmed.getLast? ≠ some '/' := by
  obtain ⟨rest, hrest⟩ := List.rdropWhile_prefix (fun c => decide (c = '/')) path
  refine ⟨_, rfl, (List.rdropWhile_prefix _ _).subset, ?_, fun hlast => ?_⟩
  · -- what is left is the front of the path, and so it starts as the path does
    cases htrim : path.rdropWhile (· = '/') with
    | nil => exact .inl rfl
    | cons c trimmed =>
      rw [htrim] at hrest
      rcases h with rfl | h
      · cases hrest
      · rw [← hrest] at h
        exact .inr h
  · have hne : path.rdropWhile (· = '/') ≠ [] := by
      intro hnil
      rw [hnil] at hlast
      cases hlast
    rw [List.getLast?_eq_some_getLast hne] at hlast
    exact List.rdropWhile_last_not _ _ hne (decide_eq_true (Option.some.inj hlast))

/-- **A base has a root**: the address it is without slashes at its end, below which a name has its
place. -/
theorem IsBaseOf.exists_root {base : Url} {s : String} (h : base.IsBaseOf s) :
    ∃ root, parse (trimSlashes s) = .ok root ∧ root.scheme = base.scheme ∧
      root.authority = base.authority ∧ root.query = none ∧ root.fragment = none ∧
      ∀ name, IsName name → (∀ c ∈ name.toList, IsPathText c) →
        parse (trimSlashes s ++ "/" ++ name) = .ok { root with path := root.path.child name } := by
  obtain ⟨front, path, hs, htext, hpath, ⟨last, hfront, hslash⟩, hread⟩ := h.exists_front
  obtain ⟨trimmed, htrimmed, hsub, hrooted, hend⟩ := hpath.exists_trimmed
  -- slashes are taken off the path only, since the front does not end in one
  have htrim : trimSlashes s = String.ofList (front ++ trimmed) := by
    rw [trimSlashes_eq, hs, rdropWhile_append hfront hslash, htrimmed]
  refine ⟨{ base with path := readPath (.of base.scheme) trimmed }, ?_, rfl, rfl, h.query,
    h.fragment, fun name hname hnameText => ?_⟩
  · rw [htrim]
    exact hread _ (fun c hc => htext c (hsub hc)) hrooted
  · have happend : trimSlashes s ++ "/" ++ name =
        String.ofList (front ++ (trimmed ++ '/' :: name.toList)) := by
      rw [htrim, ← String.toList_inj]
      simp
    have htext' : ∀ c ∈ trimmed ++ '/' :: name.toList, IsPathText c :=
      isPathText_append (fun c hc => htext c (hsub hc)) hnameText
    -- a path of a well-formed base does not end in a slash of the other kind either
    have hlast : ∀ c, trimmed.getLast? = some c → (SchemeKind.of base.scheme).isSlash c = false := by
      intro c hc
      have hslash : c ≠ '/' := fun heq => hend (heq ▸ hc)
      have hmem : c ∈ s.toList := hs ▸ List.mem_append_right _ (hsub (List.mem_of_getLast? hc))
      simp [SchemeKind.isSlash, hslash, (h.well_formed c hmem).2]
    obtain ⟨port, hkind⟩ := h.exists_kind
    have hspecial : (SchemeKind.of base.scheme).isSpecial = true := by
      rw [hkind]
      rfl
    rw [happend, hread _ htext' (hrooted.append _),
      readPath_append h.kind_ne_file hspecial hname hrooted hlast]

/-- Whether an address is that of an endpoint below a root, with some parameters: the query falls
apart at its joints into the name and the value of each of them, in order. -/
structure IsEndpointOf (u root : Url) (endpoint : Client.Endpoint) (ps : List Parameter) : Prop where
  scheme : u.scheme = root.scheme
  authority : u.authority = root.authority
  path : u.path = root.path.child endpoint.segment
  query : ∃ text, u.query = some text ∧
    Form.parts (Text.Utf8.encode text) = ps.map fun p => [p.1, p.2]
  fragment : u.fragment = none

end Url

/-- Whether parameters name a moment: their date is its date, and their time its time of day to the
minute. -/
def NamesMoment (ps : List Parameter) (moment : DateTime) : Prop :=
  (∃ date, ps.lookup "date" = some date ∧
    (slashedDate.readFields date).bind Fields.date? = some moment.date) ∧
  ∃ time, ps.lookup "time" = some time ∧
    (hourMinute.readFields time).bind Fields.clock? = some moment.clock.truncated

theorem TripQuery.namesMoment {q : TripQuery} {ps : List Parameter} (h : q.parameters = .ok ps) :
    NamesMoment ps q.moment :=
  ⟨⟨_, (lookup_parameters h).1, slashedDate_read_write q.moment⟩,
    _, (lookup_parameters h).2, hourMinute_read_write q.moment⟩

/-- Whether a call asks for one address and no other, whatever the provider replies. -/
def Call.Asks {α : Type} (call : Call α) (u : Url) : Prop :=
  ∀ (σ : Type) (p : Provider σ) (s : σ), (call.run p s).requests = [u]

namespace Client

theorem Endpoint.isName (endpoint : Endpoint) : Url.IsName endpoint.segment := by
  cases endpoint <;>
    exact ⟨by decide +kernel, List.all_iff_forall_prop.mp (by decide +kernel), by decide +kernel,
      by decide +kernel⟩

theorem Endpoint.isPathText (endpoint : Endpoint) :
    ∀ c ∈ endpoint.segment.toList, Url.IsPathText c := by
  unfold Url.IsPathText
  cases endpoint <;> exact List.all_iff_forall_prop.mp (by decide +kernel)

/-- The client of a configuration with slashes at the end of its base. -/
def ofConfigWithSlashes (config : ClientConfig) (n : Nat) : Client :=
  ofConfig { config with baseUrl := config.baseUrl ++ slashes n }

/-- The address of an endpoint with parameters is that of the endpoint below the root. -/
theorem exists_address {c : Client} {root : Url} {endpoint : Endpoint}
    (hroot : Url.parse (c.baseUrl ++ "/" ++ endpoint.segment) =
      .ok { root with path := root.path.child endpoint.segment })
    (hquery : root.query = none) (hfragment : root.fragment = none) {ps : List Parameter}
    (hps : ps ≠ []) :
    ∃ u, c.address endpoint ps = .ok u ∧ u.IsEndpointOf root endpoint ps := by
  refine ⟨_, address_eq_ok_iff.mpr ⟨_, hroot, rfl⟩, rfl, rfl, rfl, ?_, hfragment⟩
  refine ⟨String.ofList (Url.Form.encode ps), ?_, Url.Form.parts_encode hps⟩
  rw [Url.withParameters, hquery]

/-- **What a client asks for is below its base, and holds what is sent and nothing else.** -/
theorem asks_below_base {config : ClientConfig} {base : Url} (h : base.IsBaseOf config.baseUrl) :
    ∃ root, Url.parse (trimSlashes config.baseUrl) = .ok root ∧ root.scheme = base.scheme ∧
      root.authority = base.authority ∧
      (∀ q ps, q.parameters = .ok ps → NamesMoment ps q.moment ∧
        ∃ u, u.IsEndpointOf root .route ps ∧
          ∀ n ids, ((ofConfigWithSlashes config n).queryTrips ids q).Asks u) ∧
      ∀ term, ∃ u, u.IsEndpointOf root .completion (("term", term) :: placeDetails) ∧
        ∀ n limit, ((ofConfigWithSlashes config n).suggestPlaces term limit).Asks u := by
  obtain ⟨root, hroot, hscheme, hauthority, hquery, hfragment, hchild⟩ := h.exists_root
  -- with more slashes at its end the client is the same, so one address serves for all of them
  have hbase : ∀ n, ofConfigWithSlashes config n = ofConfig config := by
    intro n
    rw [ofConfigWithSlashes, ofConfig, ofConfig, trimSlashes_append_slashes]
  have haddress : ∀ endpoint ps, ps ≠ [] →
      ∃ u, (ofConfig config).address endpoint ps = .ok u ∧ u.IsEndpointOf root endpoint ps := by
    intro endpoint ps hps
    have hendpoint : Url.parse ((ofConfig config).baseUrl ++ "/" ++ endpoint.segment) =
        .ok { root with path := root.path.child endpoint.segment } :=
      hchild _ endpoint.isName endpoint.isPathText
    exact exists_address hendpoint hquery hfragment hps
  refine ⟨root, hroot, hscheme, hauthority, ?_, ?_⟩
  · -- a query is sent to the endpoint for trips
    intro q ps hps
    obtain ⟨u, hu, hends⟩ := haddress .route ps (TripQuery.parameters_ne_nil hps)
    refine ⟨TripQuery.namesMoment hps, u, hends, ?_⟩
    intro n ids σ p s
    rw [hbase, queryTrips_eq_ask hps hu, Call.run_askOnce]
  · -- a text is sent to the endpoint for places
    intro term
    obtain ⟨u, hu, hends⟩ := haddress .completion _ (List.cons_ne_nil ("term", term) placeDetails)
    refine ⟨u, hends, ?_⟩
    intro n limit σ p s
    rw [hbase, suggestPlaces, request, hu]
    rfl

/-- A base on this machine. -/
def localConfig : ClientConfig := { ClientConfig.standard with baseUrl := "http://localhost:8080/api/" }

theorem isBaseOf_localConfig : Url.IsBaseOf
    ⟨"http", some ⟨"", "", some (.domain "localhost"), some 8080⟩, .rooted ["api", ""], none, none⟩
    localConfig.baseUrl :=
  ⟨by decide +kernel, .inl rfl, rfl, rfl, List.all_iff_forall_prop.mp (by decide +kernel)⟩

/-- A query between places whose names have joints in them, in a leap second of the year 10000. -/
def jointedQuery : TripQuery :=
  .departing (.named "A&to=B") (.named "50% + #ü")
    ⟨(Date.of? 10000 2 29).get (by decide), (Clock.of? 23 59 60 5).get (by decide)⟩

theorem asks_below_base_localhost :
    ∃ u text, u.path = .rooted ["api", "route.json"] ∧ u.query = some text ∧
      Url.Form.parts (Text.Utf8.encode text) =
        [["from", "A&to=B"], ["to", "50% + #ü"], ["date", "02/29/+10000"], ["time", "23:59"],
          ["time_type", "depart"], ["num", "8"], ["show_delays", "1"],
          ["show_trackchanges", "1"]] ∧
      ((ofConfigWithSlashes localConfig 2).queryTrips (sequentialIds "trip") jointedQuery).Asks u := by
  -- the parameters and the root are computed, the rest is the general statement
  have hps : jointedQuery.parameters =
      .ok [("from", "A&to=B"), ("to", "50% + #ü"), ("date", "02/29/+10000"), ("time", "23:59"),
        ("time_type", "depart"), ("num", "8"), ("show_delays", "1"),
        ("show_trackchanges", "1")] := by
    decide +kernel
  have hparse : Url.parse (trimSlashes localConfig.baseUrl) = .ok
      ⟨"http", some ⟨"", "", some (.domain "localhost"), some 8080⟩, .rooted ["api"], none, none⟩ := by
    decide +kernel
  obtain ⟨root, hroot, -, -, hroute, -⟩ := asks_below_base isBaseOf_localConfig
  obtain rfl := Except.ok.inj (hparse.symm.trans hroot)
  obtain ⟨-, u, hu, hasks⟩ := hroute _ _ hps
  obtain ⟨text, htext, hparts⟩ := hu.query
  refine ⟨u, text, ?_, htext, hparts, ?_⟩
  · rw [hu.path]
    decide +kernel
  · intro σ p s
    exact hasks 2 _ σ p s

end Client

end Itinerary
