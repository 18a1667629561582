import Mathlib.Data.List.Induction
import Itinerary.Fixture
import Itinerary.Proofs.Keyed

/-!
# What copies of a fixture have in common

A copy of a fixture has its bodies for itself, and one list of requests in common with the fixture
that it was made of. Either could be spoilt: a body that is put into one fixture could show in
another one, and a request to one fixture could be missing from the list that another one tells.

The bodies of a fixture are compared with what was put in along its `Lineage`: into itself, and into
the fixture that it is a copy of before it was copied. That the two agree holds of every run of
steps (`Run.find?_of_lineage`), whatever is done in between with other fixtures, and a lineage goes
on unchanged until something is put into its own fixture (`Lineage.append`). The list of requests
is that of the family, so it has the requests to all of its members in the order of the steps
(`Run.requests_eq`).
-/

namespace Itinerary.Fixture

/-! ### Fixtures in use -/

/-- A fixture in use: the number of its family, and its number there. -/
structure Handle where
  family : Nat
  member : Nat
deriving DecidableEq

/-- The fixture that a handle stands for. -/
def Handle.find? (families : List Family) (h : Handle) : Option Fixture :=
  families[h.family]?.bind fun family => family.members[h.member]?

/-- What is done with fixtures. Steps that make a fixture give it a handle. -/
inductive Step where
  /-- a fixture without bodies founds a family -/
  | create (made : Handle)
  /-- a body is put into a fixture, for an endpoint -/
  | withBody (h : Handle) (endpoint body : String)
  /-- a fixture is copied -/
  | copy (h made : Handle)
  /-- a fixture is asked, and may have no answer -/
  | ask (h : Handle) (u : Url)

namespace Step

/-- What a step makes of some families. -/
def apply (families : List Family) : Step → List Family
  | create _ => families ++ [.found .empty]
  | withBody h endpoint body => families.modify h.family (·.withBody h.member endpoint body)
  | copy h _ => families.modify h.family (·.copy h.member)
  | ask h u => families.modify h.family fun family => (family.ask h.member u).2

/-- Whether a step can be done: the fixture it is done with is there, and one that it makes gets the
next number. -/
def IsPossible (families : List Family) : Step → Prop
  | create made => made = ⟨families.length, 0⟩
  | withBody h _ _ => ∃ f, h.find? families = some f
  | copy h made => ∃ family f, families[h.family]? = some family ∧
      family.members[h.member]? = some f ∧ made = ⟨h.family, family.members.length⟩
  | ask h _ => ∃ f, h.find? families = some f

/-- The address that a step asks a member of a family for. -/
def requestTo? (family : Nat) : Step → Option Url
  | ask h u => if h.family = family then some u else none
  | _ => none

end Step

/-- Runs of steps from no fixture at all, with the families that they lead to. -/
inductive Run : List Step → List Family → Prop where
  | start : Run [] []
  | step {steps : List Step} {families : List Family} {step : Step} (h : Run steps families)
    (hstep : step.IsPossible families) : Run (steps ++ [step]) (step.apply families)

/-- What was put in, and for which endpoints, along the lineage of a fixture. -/
inductive Lineage : List Step → Handle → List (String × String) → Prop where
  /-- a new fixture has nothing -/
  | created {steps : List Step} {made : Handle} : Lineage (steps ++ [.create made]) made []
  /-- a copy has what was put into the other one so far -/
  | copied {steps : List Step} {h made : Handle} {insertions : List (String × String)}
    (hlineage : Lineage steps h insertions) : Lineage (steps ++ [.copy h made]) made insertions
  /-- what is put in comes last -/
  | inserted {steps : List Step} {h : Handle} {insertions : List (String × String)}
    {endpoint body : String} (hlineage : Lineage steps h insertions) :
    Lineage (steps ++ [.withBody h endpoint body]) h (insertions ++ [(endpoint, body)])
  /-- all other steps put nothing in -/
  | kept {steps : List Step} {h : Handle} {insertions : List (String × String)} {step : Step}
    (hlineage : Lineage steps h insertions)
    (hstep : ∀ endpoint body, step ≠ .withBody h endpoint body) :
    Lineage (steps ++ [step]) h insertions

/-- Whether a fixture has the bodies that were put in, the last one for each endpoint. -/
structure Holds (f : Fixture) (insertions : List (String × String)) : Prop where
  body : ∀ endpoint, f.bodies.find? endpoint = insertions.reverse.lookup endpoint
  reply : ∀ (u : Url) (body : String),
    f.reply u = .ok body ↔ insertions.reverse.lookup u.endpoint = some body
  ascending : f.endpoints.Pairwise (· < ·)
  endpoints : ∀ endpoint, endpoint ∈ f.endpoints ↔ endpoint ∈ insertions.map Prod.fst

theorem reply_eq_ok_iff {f : Fixture} {u : Url} {body : String} :
    f.reply u = .ok body ↔ f.bodies.find? u.endpoint = some body := by
  unfold reply
  cases f.bodies.find? u.endpoint with
  | none => exact ⟨nofun, nofun⟩
  | some found => exact ⟨fun h => congrArg some (Except.ok.inj h), fun h => by cases h; rfl⟩

theorem holds_ofList (insertions : List (String × String)) :
    Holds ⟨Keyed.ofList insertions⟩ insertions where
  body := Keyed.find?_ofList insertions
  reply u body := by rw [reply_eq_ok_iff, Keyed.find?_ofList]
  ascending := Keyed.pairwise_keys _
  endpoints _ := Keyed.mem_keys_ofList

/-! ### One step -/

section

variable {families : List Family} {h : Handle} {f : Fixture}

theorem Handle.eq_mk {family member : Nat} (hfamily : h.family = family)
    (hmember : h.member = member) : h = ⟨family, member⟩ := by
  cases h
  cases hfamily
  cases hmember
  rfl

theorem Handle.find?_eq_some_iff : h.find? families = some f ↔
    ∃ family, families[h.family]? = some family ∧ family.members[h.member]? = some f :=
  Option.bind_eq_some_iff

theorem Handle.lt_length (hf : h.find? families = some f) : h.family < families.length := by
  obtain ⟨family, hfamily, -⟩ := Handle.find?_eq_some_iff.mp hf
  exact (List.getElem?_eq_some_iff.mp hfamily).1

theorem Handle.find?_modify (k : Nat) (change : Family → Family) :
    h.find? (families.modify k change) = families[h.family]?.bind fun family =>
      (if k = h.family then change family else family).members[h.member]? := by
  unfold Handle.find?
  rw [List.getElem?_modify]
  exact Option.bind_map

theorem Handle.find?_create (hf : h.find? families = some f) (made : Handle) :
    h.find? ((Step.create made).apply families) = some f := by
  obtain ⟨family, hfamily, hmember⟩ := Handle.find?_eq_some_iff.mp hf
  refine Handle.find?_eq_some_iff.mpr ⟨family, ?_, hmember⟩
  exact (List.getElem?_append_left (Handle.lt_length hf)).trans hfamily

theorem Handle.find?_created :
    Handle.find? ((Step.create h).apply families) ⟨families.length, 0⟩ = some .empty :=
  Handle.find?_eq_some_iff.mpr ⟨.found .empty, List.getElem?_concat_length, rfl⟩

/-- Behind the founding of a family there is one fixture more. -/
theorem Handle.find?_create_cases {made : Handle}
    (hf : h.find? ((Step.create made).apply families) = some f) :
    h = ⟨families.length, 0⟩ ∨ h.find? families = some f := by
  obtain ⟨family, hfamily, hmember⟩ := Handle.find?_eq_some_iff.mp hf
  unfold Step.apply at hfamily
  rw [List.getElem?_append] at hfamily
  split at hfamily
  · exact .inr (Handle.find?_eq_some_iff.mpr ⟨family, hfamily, hmember⟩)
  · -- the new family is the last one, and has one member
    next hlt =>
    obtain ⟨hnumber, hfound⟩ := List.getElem?_eq_some_iff.mp hfamily
    rw [List.getElem_singleton] at hfound
    subst hfound
    have hmemberNumber := (List.getElem?_eq_some_iff.mp hmember).1
    exact .inl (Handle.eq_mk (by simp at hnumber; omega) (Nat.lt_one_iff.mp hmemberNumber))

theorem Handle.find?_create_of_ne {made : Handle} (hne : h ≠ ⟨families.length, 0⟩) :
    h.find? ((Step.create made).apply families) = h.find? families :=
  Option.ext fun _ => ⟨fun hf => (Handle.find?_create_cases hf).resolve_left hne,
    fun hf => Handle.find?_create hf made⟩

theorem Handle.find?_withBody (hf : h.find? families = some f) (endpoint body : String) :
    h.find? ((Step.withBody h endpoint body).apply families) =
      some (f.withBody endpoint body) := by
  obtain ⟨family, hfamily, hmember⟩ := Handle.find?_eq_some_iff.mp hf
  unfold Step.apply
  rw [Handle.find?_modify, hfamily, Option.bind_some, if_pos rfl]
  unfold Family.withBody
  rw [List.getElem?_modify, hmember]
  exact congrArg some (if_pos rfl)

/-- To put a body into one fixture touches no other. -/
theorem Handle.find?_withBody_of_ne {other : Handle} (hne : other ≠ h) (endpoint body : String) :
    other.find? ((Step.withBody h endpoint body).apply families) = other.find? families := by
  unfold Step.apply
  rw [Handle.find?_modify]
  refine Option.bind_congr fun family _ => ?_
  split
  · next hfamily =>
    have hmember : h.member ≠ other.member := fun hmember =>
      hne (Handle.eq_mk hfamily.symm hmember.symm)
    unfold Family.withBody
    rw [List.getElem?_modify]
    simp only [if_neg hmember, id_map']
  · rfl

theorem Handle.find?_copy (hf : h.find? families = some f) (source made : Handle) :
    h.find? ((Step.copy source made).apply families) = some f := by
  obtain ⟨family, hfamily, hmember⟩ := Handle.find?_eq_some_iff.mp hf
  unfold Step.apply
  rw [Handle.find?_modify, hfamily, Option.bind_some]
  split
  · -- the copy stands behind all members of its family
    have hlt := (List.getElem?_eq_some_iff.mp hmember).1
    exact (List.getElem?_append_left hlt).trans hmember
  · exact hmember

theorem Handle.find?_copied {family : Family} (hfamily : families[h.family]? = some family)
    (hmember : family.members[h.member]? = some f) (made : Handle) :
    Handle.find? ((Step.copy h made).apply families) ⟨h.family, family.members.length⟩ =
      some f := by
  unfold Step.apply
  rw [Handle.find?_modify, hfamily, Option.bind_some, if_pos rfl]
  unfold Family.copy
  rw [hmember]
  exact List.getElem?_concat_length

/-- Behind the copying of a fixture there is one fixture more. -/
theorem Handle.find?_copy_cases {source made : Handle} {family : Family} {f' : Fixture}
    (hfamily : families[source.family]? = some family)
    (hmember : family.members[source.member]? = some f')
    (hf : h.find? ((Step.copy source made).apply families) = some f) :
    h = ⟨source.family, family.members.length⟩ ∨ h.find? families = some f := by
  unfold Step.apply at hf
  rw [Handle.find?_modify] at hf
  by_cases hsame : source.family = h.family
  · rw [← hsame, hfamily, Option.bind_some, if_pos rfl] at hf
    unfold Family.copy at hf
    rw [hmember, Option.toList_some, List.getElem?_append] at hf
    -- in its own family the copy is the last member, and all others keep their numbers
    split at hf
    · exact .inr (Handle.find?_eq_some_iff.mpr ⟨family, hsame ▸ hfamily, hf⟩)
    · next hlt =>
      have hnumber := (List.getElem?_eq_some_iff.mp hf).1
      exact .inl (Handle.eq_mk hsame.symm (by simp at hnumber; omega))
  · simp only [if_neg hsame] at hf
    exact .inr hf

/-- To copy a fixture touches none. -/
theorem Handle.find?_copy_of_ne {source made : Handle} {family : Family} {f' : Fixture}
    (hfamily : families[source.family]? = some family)
    (hmember : family.members[source.member]? = some f')
    (hne : h ≠ ⟨source.family, family.members.length⟩) :
    h.find? ((Step.copy source made).apply families) = h.find? families :=
  Option.ext fun _ => ⟨fun hf => (Handle.find?_copy_cases hfamily hmember hf).resolve_left hne,
    fun hf => Handle.find?_copy hf source made⟩

/-- To ask a fixture touches none. -/
theorem Handle.find?_ask (asked : Handle) (u : Url) :
    h.find? ((Step.ask asked u).apply families) = h.find? families := by
  unfold Step.apply
  rw [Handle.find?_modify]
  refine Option.bind_congr fun family _ => ?_
  split
  · rfl
  · rfl

end

/-! ### Runs -/

namespace Run

variable {steps : List Step} {families : List Family} {h : Handle}

/-- A run ends with its last step. -/
theorem of_concat {step : Step} (hrun : Run (steps ++ [step]) families) :
    ∃ before, Run steps before ∧ step.IsPossible before ∧ families = step.apply before := by
  generalize hall : steps ++ [step] = all at hrun
  cases hrun with
  | start => exact absurd hall (List.append_ne_nil_of_right_ne_nil _ (List.cons_ne_nil _ _))
  | step hrun hstep =>
    obtain ⟨rfl, hlast⟩ := List.append_inj' hall rfl
    cases hlast
    exact ⟨_, hrun, hstep, rfl⟩

/-! ### Bodies -/

/-- **A fixture has what was put in along its lineage.** -/
theorem find?_of_lineage {insertions : List (String × String)} (hrun : Run steps families)
    (hlineage : Lineage steps h insertions) :
    h.find? families = some ⟨Keyed.ofList insertions⟩ := by
  -- along the lineage, each time against the families in front of the last step
  induction hlineage generalizing families with
  | created =>
    obtain ⟨before, -, rfl, rfl⟩ := hrun.of_concat
    exact Handle.find?_created
  | copied _ ih =>
    obtain ⟨before, hbefore, ⟨family, f, hfamily, hmember, rfl⟩, rfl⟩ := hrun.of_concat
    have hf := Handle.find?_eq_some_iff.mpr ⟨family, hfamily, hmember⟩
    rw [Handle.find?_copied hfamily hmember, ← hf]
    exact ih hbefore
  | inserted _ ih =>
    obtain ⟨before, hbefore, -, rfl⟩ := hrun.of_concat
    rw [Handle.find?_withBody (ih hbefore), Keyed.ofList_concat]
    rfl
  | @kept steps h insertions step _ hstep ih =>
    obtain ⟨before, hbefore, -, rfl⟩ := hrun.of_concat
    have hf := ih hbefore
    cases step with
    | create made => exact Handle.find?_create hf made
    | withBody other endpoint body =>
      -- a body that is put in here is not put into this fixture
      have hne : h ≠ other := fun heq => hstep endpoint body (heq ▸ rfl)
      rw [Handle.find?_withBody_of_ne hne, hf]
    | copy source made => exact Handle.find?_copy hf source made
    | ask asked u => rw [Handle.find?_ask, hf]

/-- Every fixture has a lineage. -/
theorem exists_lineage {f : Fixture} (hrun : Run steps families) (hf : h.find? families = some f) :
    ∃ insertions, Lineage steps h insertions := by
  -- the last step made the fixture, put something into it, or left it as it was
  induction hrun generalizing h f with
  | start => cases hf
  | @step steps families step _ hstep ih =>
    cases step with
    | create made =>
      obtain rfl := hstep
      rcases Handle.find?_create_cases hf with rfl | hf
      · exact ⟨_, .created⟩
      · -- it was there before, and nothing was put into it
        obtain ⟨insertions, hlineage⟩ := ih hf
        exact ⟨_, .kept hlineage nofun⟩
    | withBody other endpoint body =>
      by_cases heq : other = h
      · subst heq
        -- the fixture itself got a body, so its lineage grows by that
        obtain ⟨f', hf'⟩ := hstep
        obtain ⟨insertions, hlineage⟩ := ih hf'
        exact ⟨_, .inserted hlineage⟩
      · -- another fixture got the body
        rw [Handle.find?_withBody_of_ne (Ne.symm heq)] at hf
        obtain ⟨insertions, hlineage⟩ := ih hf
        refine ⟨_, .kept hlineage fun endpoint' body' hstep => heq ?_⟩
        cases hstep
        rfl
    | copy source made =>
      obtain ⟨family, f', hfamily, hmember, rfl⟩ := hstep
      rcases Handle.find?_copy_cases hfamily hmember hf with rfl | hf
      · -- the copy has the lineage of the fixture that it was made of
        obtain ⟨insertions, hlineage⟩ := ih (Handle.find?_eq_some_iff.mpr ⟨_, hfamily, hmember⟩)
        exact ⟨_, .copied hlineage⟩
      · obtain ⟨insertions, hlineage⟩ := ih hf
        exact ⟨_, .kept hlineage nofun⟩
    | ask asked u =>
      rw [Handle.find?_ask] at hf
      obtain ⟨insertions, hlineage⟩ := ih hf
      exact ⟨_, .kept hlineage nofun⟩

end Run

/-- A lineage goes on unchanged until something is put into its fixture. -/
theorem Lineage.append {steps : List Step} {h : Handle} {insertions : List (String × String)}
    (hlineage : Lineage steps h insertions) {later : List Step}
    (hlater : ∀ endpoint body, .withBody h endpoint body ∉ later) :
    Lineage (steps ++ later) h insertions := by
  induction later using List.reverseRecOn with
  | nil => exact (List.append_nil steps).symm ▸ hlineage
  | append_singleton later step ih =>
    rw [← List.append_assoc]
    refine .kept (ih fun endpoint body hmem => ?_) fun endpoint body heq => ?_
    · exact hlater endpoint body (List.mem_append_left _ hmem)
    · exact hlater endpoint body (List.mem_append_right _ (heq ▸ List.mem_singleton_self _))

/-! ### Requests -/

/-- A change of one item that keeps something of it keeps it of the list. -/
theorem map_modify_of_forall {α β : Type} {g : α → β} {change : α → α}
    (l : List α) (k : Nat) (hchange : ∀ a, g (change a) = g a) :
    (l.modify k change).map g = l.map g := by
  ext j b
  rw [List.getElem?_map, List.getElem?_map, List.getElem?_modify]
  cases l[j]? with
  | none => rfl
  | some a =>
    show some (g (if k = j then change a else a)) = some b ↔ _
    split
    · rw [hchange]
      rfl
    · rfl

theorem map_requests_withBody (families : List Family) (h : Handle) (endpoint body : String) :
    ((Step.withBody h endpoint body).apply families).map Family.requests =
      families.map Family.requests :=
  map_modify_of_forall families h.family fun _ => rfl

theorem map_requests_copy (families : List Family) (h made : Handle) :
    ((Step.copy h made).apply families).map Family.requests = families.map Family.requests :=
  map_modify_of_forall families h.family fun _ => rfl

theorem map_members_ask (families : List Family) (h : Handle) (u : Url) :
    ((Step.ask h u).apply families).map Family.members = families.map Family.members :=
  map_modify_of_forall families h.family fun _ => rfl

/-- The requests of a family; there are none of one that is not founded yet. -/
def requestsOf (families : List Family) (k : Nat) : List Url :=
  (families.map Family.requests)[k]?.getD []

/-- A step adds its request, if it has one, to those of its family. -/
theorem requestsOf_apply {families : List Family} {step : Step} (hstep : step.IsPossible families)
    (k : Nat) :
    requestsOf (step.apply families) k = requestsOf families k ++ (step.requestTo? k).toList := by
  unfold requestsOf
  cases step with
  | create made =>
    show _ = _ ++ []
    rw [List.append_nil]
    unfold Step.apply
    rw [List.map_append, List.getElem?_append]
    split
    · rfl
    · -- a family starts without requests, as if it were not there
      next hlt =>
      rw [List.getElem?_eq_none (Nat.le_of_not_lt hlt)]
      cases k - (families.map Family.requests).length <;> rfl
  | withBody h endpoint body =>
    rw [map_requests_withBody]
    exact (List.append_nil _).symm
  | copy h made =>
    rw [map_requests_copy]
    exact (List.append_nil _).symm
  | ask h u =>
    obtain ⟨f, hf⟩ := hstep
    -- only the requests of the family that was asked are changed
    obtain ⟨family, hfamily, -⟩ := Handle.find?_eq_some_iff.mp hf
    unfold Step.apply
    rw [List.getElem?_map, List.getElem?_map, List.getElem?_modify]
    by_cases hsame : h.family = k
    · subst hsame
      simp only [hfamily, Step.requestTo?, if_true]
      rfl
    · simp only [Step.requestTo?, if_neg hsame, id_map']
      exact (List.append_nil _).symm

/-- **The requests of a family are those to all of its members**, in the order of the steps. -/
theorem Run.requests_eq {steps : List Step} {families : List Family} (hrun : Run steps families)
    (k : Nat) : requestsOf families k = steps.filterMap (Step.requestTo? k) := by
  induction hrun with
  | start => rfl
  | step _ hstep ih =>
    rw [requestsOf_apply hstep, ih, List.filterMap_append]
    cases hrequest : Step.requestTo? k _ with
    | none => rw [List.filterMap_cons_none hrequest]; rfl
    | some u => rw [List.filterMap_cons_some hrequest]; rfl

/-! ### All of it -/

/-- What fixtures have in common behind some steps, and what each of them has for itself. -/
structure Shares (steps : List Step) (families : List Family) : Prop where
  /-- whatever is there has come about by a lineage -/
  lineage : ∀ h : Handle,
    (∃ f, h.find? families = some f) ↔ ∃ insertions, Lineage steps h insertions
  /-- it has what was put in along it -/
  bodies : ∀ (h : Handle) insertions, Lineage steps h insertions →
    ∃ f, h.find? families = some f ∧ f.Holds insertions
  /-- it keeps its bodies until something is put into it, whatever is done with others -/
  apart : ∀ later families', Run (steps ++ later) families' → ∀ (h : Handle) f,
    h.find? families = some f → (∀ endpoint body, .withBody h endpoint body ∉ later) →
    h.find? families' = some f
  /-- a family has the requests to all of its members, in order, answered or not -/
  requests : ∀ (k : Nat) family, families[k]? = some family →
    family.requests = steps.filterMap (Step.requestTo? k)
  /-- to put a body in is no request -/
  withBody_requests : ∀ h endpoint body,
    ((Step.withBody h endpoint body).apply families).map Family.requests =
      families.map Family.requests
  /-- to ask changes no bodies -/
  ask_members : ∀ h u,
    ((Step.ask h u).apply families).map Family.members = families.map Family.members

/-- **Copies share their requests and nothing else.** -/
theorem Run.shares {steps : List Step} {families : List Family} (hrun : Run steps families) :
    Shares steps families where
  lineage h := by
    constructor
    · rintro ⟨f, hf⟩
      exact hrun.exists_lineage hf
    · rintro ⟨insertions, hlineage⟩
      exact ⟨_, hrun.find?_of_lineage hlineage⟩
  bodies h insertions hlineage := ⟨_, hrun.find?_of_lineage hlineage, holds_ofList insertions⟩
  -- of a fixture that nothing is put into later the lineage is still the same
  apart later families' hrun' h f hf hlater := by
    obtain ⟨insertions, hlineage⟩ := hrun.exists_lineage hf
    rw [hrun'.find?_of_lineage (hlineage.append hlater), ← hf]
    exact (hrun.find?_of_lineage hlineage).symm
  requests k family hfamily := by
    have hrequests := hrun.requests_eq k
    unfold requestsOf at hrequests
    rw [List.getElem?_map, hfamily] at hrequests
    exact hrequests
  withBody_requests := map_requests_withBody families
  ask_members := map_members_ask families

/-- An address below the public service. -/
def publicAddress (segment : String) : Url where
  scheme := "https"
  authority := some ⟨"", "", some (.domain "timetable.search.ch"), none⟩
  path := .rooted ["api", segment]
  query := none
  fragment := none

/-- A fixture is copied, and the copy is asked. Then the first one gets another body, and is asked
for that and for one that it has not. -/
def extendedBehindCopy : List Step :=
  [.create ⟨0, 0⟩, .withBody ⟨0, 0⟩ "route" "\x7b\x7d", .copy ⟨0, 0⟩ ⟨0, 1⟩,
    .ask ⟨0, 1⟩ (publicAddress "route.json"), .withBody ⟨0, 0⟩ "completion" "[]",
    .ask ⟨0, 0⟩ (publicAddress "completion.json"),
    .ask ⟨0, 0⟩ (publicAddress "stationboard.json")]

theorem shares_extendedBehindCopy :
    ∃ family original other, Run extendedBehindCopy [family] ∧
      family.members = [original, other] ∧ original.endpoints = ["completion", "route"] ∧
      other.endpoints = ["route"] ∧
      family.requests =
        ["route.json", "completion.json", "stationboard.json"].map publicAddress ∧
      Shares extendedBehindCopy [family] := by
  have hcreated := @Run.step _ _ (.create ⟨0, 0⟩) .start rfl
  have hbody := @Run.step _ _ (.withBody ⟨0, 0⟩ "route" "\x7b\x7d") hcreated ⟨_, rfl⟩
  have hcopied := @Run.step _ _ (.copy ⟨0, 0⟩ ⟨0, 1⟩) hbody ⟨_, _, rfl, rfl, rfl⟩
  have hasked := @Run.step _ _ (.ask ⟨0, 1⟩ (publicAddress "route.json")) hcopied ⟨_, rfl⟩
  have hextended := @Run.step _ _ (.withBody ⟨0, 0⟩ "completion" "[]") hasked ⟨_, rfl⟩
  have hfound := @Run.step _ _ (.ask ⟨0, 0⟩ (publicAddress "completion.json")) hextended ⟨_, rfl⟩
  have hrun := @Run.step _ _ (.ask ⟨0, 0⟩ (publicAddress "stationboard.json")) hfound ⟨_, rfl⟩
  exact ⟨_, _, _, hrun, rfl, by decide, by decide, rfl, hrun.shares⟩

end Itinerary.Fixture
