import Mathlib.Data.Finset.Card
import Itinerary.Fixture.Shared
import Itinerary.Proofs.Fixture.Lineage

/-!
# Copies of a fixture in memory

Fixtures in use hold places in memory. A copy shares them, so what is written to a place could show
in a fixture that it was not meant for: a body, where the place has more holders than are counted, or
a request, where the place is that of another family. Neither happens. The holders of bodies are
counted exactly, so bodies are written to where they are only if nobody else holds them, and two
fixtures keep their requests in one place exactly if they are of one family.

`InUse.Represents` has both, and says that what is read through the places is what the families
have. Every step keeps it (`Represents.perform`), so the families of a run are what its fixtures
show in memory (`Run.represents`).
-/

namespace Itinerary.Fixture

/-! ### What is read back -/

theorem Memory.fixture_create (m : Memory) (f : Fixture) :
    (m.create f).2.fixture (m.create f).1 = f := by
  unfold Memory.create
  exact congrArg Fixture.mk (Function.update_self ..)

/-- A fixture has the body that was put in, wherever its bodies are then. -/
theorem Memory.fixture_withBody (m : Memory) (x : Held) (endpoint body : String) :
    (m.withBody x endpoint body).2.fixture (m.withBody x endpoint body).1 =
      (m.fixture x).withBody endpoint body := by
  unfold Memory.withBody
  split <;> exact congrArg Fixture.mk (Function.update_self ..)

/-! ### Fixtures in use -/

/-- Fixtures in use, by what they hold. -/
structure InUse where
  memory : Memory
  held : Handle → Option Held

namespace InUse

/-- No fixture. -/
def start : InUse := ⟨.unused, fun _ => none⟩

/-- A fixture holds other places from now on, in changed memory. -/
def assign (s : InUse) (h : Handle) (change : Held × Memory) : InUse :=
  ⟨change.2, Function.update s.held h (some change.1)⟩

section

variable {s : InUse} {h h' : Handle} {change : Held × Memory}

@[simp] theorem held_assign_self : (s.assign h change).held h = some change.1 := by
  unfold assign
  exact Function.update_self ..

theorem held_assign_of_ne (hne : h' ≠ h) : (s.assign h change).held h' = s.held h' := by
  unfold assign
  exact Function.update_of_ne hne ..

theorem held_assign_cases {x : Held} (hx : (s.assign h change).held h' = some x) :
    (h' = h ∧ x = change.1) ∨ (h' ≠ h ∧ s.held h' = some x) := by
  by_cases heq : h' = h
  · subst heq
    rw [held_assign_self] at hx
    exact .inl ⟨rfl, (Option.some.inj hx).symm⟩
  · rw [held_assign_of_ne heq] at hx
    exact .inr ⟨heq, hx⟩

end

/-- What a step makes of the fixtures in use. -/
def perform (s : InUse) : Step → InUse
  | .create made => s.assign made (s.memory.create .empty)
  | .withBody h endpoint body =>
    match s.held h with
    | some x => s.assign h (s.memory.withBody x endpoint body)
    | none => s
  | .copy h made =>
    match s.held h with
    | some x => s.assign made (s.memory.copy x)
    | none => s
  | .ask h u =>
    match s.held h with
    | some x => { s with memory := (s.memory.ask x u).2 }
    | none => s

/-- Whether the numbers of holders are those of the fixtures that hold bodies. -/
def Counted (holders : Place → Nat) (held : Handle → Option Held) : Prop :=
  ∀ place, ∃ those : Finset Handle,
    (∀ h, h ∈ those ↔ ∃ x, held h = some x ∧ x.bodies = place) ∧ holders place = those.card

/-- Whether fixtures in use are those of some families. -/
structure Represents (s : InUse) (families : List Family) : Prop where
  /-- the bodies that are held are those of the fixture -/
  fixture : ∀ h, h.find? families = (s.held h).map s.memory.fixture
  /-- the requests are those of the family -/
  requests : ∀ h x, s.held h = some x → s.memory.requests x.requests = requestsOf families h.family
  /-- requests are kept in one place exactly in one family -/
  common : ∀ h x h' y, s.held h = some x → s.held h' = some y →
    (x.requests = y.requests ↔ h.family = h'.family)
  /-- no new place is held -/
  old : ∀ h x, s.held h = some x → x.bodies < s.memory.next ∧ x.requests < s.memory.next
  counted : Counted s.memory.holders s.held

end InUse

/-! ### Counting holders -/

namespace InUse.Counted

variable {holders : Place → Nat} {held : Handle → Option Held} {h : Handle} {x : Held}

/-- Bodies that nobody holds have no holders. -/
theorem eq_zero (hcounted : Counted holders held) {place : Place}
    (hnone : ∀ h x, held h = some x → x.bodies ≠ place) : holders place = 0 := by
  obtain ⟨those, hmem, hcard⟩ := hcounted place
  rw [hcard, Finset.card_eq_zero, Finset.eq_empty_iff_forall_notMem]
  intro h hh
  obtain ⟨x, hx, hplace⟩ := (hmem h).mp hh
  exact hnone h x hx hplace

/-- A fixture more is a holder more. -/
theorem hold (hcounted : Counted holders held) (hnew : held h = none) (x : Held) :
    Counted (Function.update holders x.bodies (holders x.bodies + 1))
      (Function.update held h (some x)) := by
  -- place by place, with the set of those that hold it
  intro place
  obtain ⟨those, hmem, hcard⟩ := hcounted place
  by_cases hplace : x.bodies = place
  · -- at the place of the new fixture there is one more, which was not among the others
    subst hplace
    have hnotMem : h ∉ those := fun hh => by
      obtain ⟨y, hy, -⟩ := (hmem h).mp hh
      cases hnew.symm.trans hy
    refine ⟨insert h those, fun h' => ?_, ?_⟩
    · by_cases heq : h' = h
      · subst heq
        simp
      · rw [Finset.mem_insert, Function.update_of_ne heq, ← hmem h']
        exact or_iff_right heq
    · rw [Function.update_self, Finset.card_insert_of_notMem hnotMem, hcard]
  · -- at any other place the holders are the same
    refine ⟨those, fun h' => ?_, ?_⟩
    · by_cases heq : h' = h
      · subst heq
        simp [hmem, hnew, hplace]
      · rw [Function.update_of_ne heq, hmem]
    · rw [Function.update_of_ne (Ne.symm hplace), hcard]

/-- A fixture less is a holder less. -/
theorem release (hcounted : Counted holders held) (hheld : held h = some x) :
    Counted (Function.update holders x.bodies (holders x.bodies - 1))
      (Function.update held h none) := by
  intro place
  obtain ⟨those, hmem, hcard⟩ := hcounted place
  by_cases hplace : x.bodies = place
  · subst hplace
    refine ⟨those.erase h, fun h' => ?_, ?_⟩
    · by_cases heq : h' = h
      · subst heq
        simp
      · rw [Finset.mem_erase, Function.update_of_ne heq, ← hmem h']
        exact and_iff_right heq
    · rw [Function.update_self, Finset.card_erase_of_mem ((hmem h).mpr ⟨x, hheld, rfl⟩), hcard]
  · refine ⟨those, fun h' => ?_, ?_⟩
    · by_cases heq : h' = h
      · subst heq
        simp [hmem, hheld, hplace]
      · rw [Function.update_of_ne heq, hmem]
    · rw [Function.update_of_ne (Ne.symm hplace), hcard]

/-- **Bodies with one holder are held by nobody else.** -/
theorem eq_of_one (hcounted : Counted holders held) (hheld : held h = some x)
    (hone : holders x.bodies = 1) {h' : Handle} {y : Held} (hother : held h' = some y)
    (hplace : y.bodies = x.bodies) : h' = h := by
  obtain ⟨those, hmem, hcard⟩ := hcounted x.bodies
  obtain ⟨only, rfl⟩ := Finset.card_eq_one.mp (hcard.symm.trans hone)
  rw [Finset.mem_singleton.mp ((hmem h').mpr ⟨y, hother, hplace⟩),
    Finset.mem_singleton.mp ((hmem h).mpr ⟨x, hheld, rfl⟩)]

end InUse.Counted

/-! ### One step -/

/-- A step that is no request adds none. -/
theorem requestsOf_apply_of_not_ask {families : List Family} (step : Step)
    (hstep : step.IsPossible families) (hask : ∀ h u, step ≠ .ask h u) (k : Nat) :
    requestsOf (step.apply families) k = requestsOf families k := by
  rw [requestsOf_apply hstep]
  cases step with
  | ask h u => exact absurd rfl (hask h u)
  | create | withBody | copy => exact List.append_nil _

namespace InUse.Represents

variable {s : InUse} {families : List Family} {h : Handle} {x : Held}

theorem find?_of_held (hs : s.Represents families) (hheld : s.held h = some x) :
    h.find? families = some (s.memory.fixture x) := by
  rw [hs.fixture, hheld, Option.map_some]

theorem exists_held (hs : s.Represents families) {f : Fixture} (hf : h.find? families = some f) :
    ∃ x, s.held h = some x ∧ s.memory.fixture x = f := by
  rw [hs.fixture] at hf
  exact Option.map_eq_some_iff.mp hf

theorem held_eq_none (hs : s.Represents families) (hnone : h.find? families = none) :
    s.held h = none := by
  rw [hs.fixture] at hnone
  exact Option.map_eq_none_iff.mp hnone

/-- **To change what one fixture holds** leaves all others alone, if what they hold stays as it is. -/
theorem assign (hs : s.Represents families) {families' : List Family} {memory : Memory}
    (hself : h.find? families' = some (memory.fixture x))
    (hother : ∀ h', h' ≠ h → h'.find? families' = h'.find? families)
    (hlog : ∀ k, requestsOf families' k = requestsOf families k)
    (hframe : ∀ h' y, h' ≠ h → s.held h' = some y →
      memory.bodies y.bodies = s.memory.bodies y.bodies ∧
      memory.requests y.requests = s.memory.requests y.requests)
    (hrequests : memory.requests x.requests = requestsOf families h.family)
    (hcommon : ∀ h' y, h' ≠ h → s.held h' = some y →
      (x.requests = y.requests ↔ h.family = h'.family))
    (hnext : s.memory.next ≤ memory.next)
    (hold : x.bodies < memory.next ∧ x.requests < memory.next)
    (hcounted : Counted memory.holders (Function.update s.held h (some x))) :
    (s.assign h (x, memory)).Represents families' where
  -- the one fixture is as it is given, and the others hold what they held before
  fixture h' := by
    by_cases heq : h' = h
    · subst heq
      rw [hself, held_assign_self]
      rfl
    · rw [hother h' heq, hs.fixture, held_assign_of_ne heq]
      refine Option.map_congr fun y hy => ?_
      show s.memory.fixture y = memory.fixture y
      rw [Memory.fixture, Memory.fixture, (hframe h' y heq hy).1]
  requests h' y hy := by
    rw [hlog]
    rcases held_assign_cases hy with ⟨rfl, rfl⟩ | ⟨heq, hy⟩
    · exact hrequests
    · exact (hframe h' y heq hy).2.trans (hs.requests h' y hy)
  -- of two fixtures both may be the changed one, or one of them, or neither
  common h' y h'' z hy hz := by
    rcases held_assign_cases hy with ⟨rfl, rfl⟩ | ⟨hne, hy'⟩ <;>
      rcases held_assign_cases hz with ⟨rfl, rfl⟩ | ⟨hne', hz'⟩
    · exact iff_of_true rfl rfl
    · exact hcommon h'' z hne' hz'
    · rw [eq_comm, hcommon h' y hne hy', eq_comm]
    · exact hs.common h' y h'' z hy' hz'
  old h' y hy := by
    rcases held_assign_cases hy with ⟨rfl, rfl⟩ | ⟨-, hy⟩
    · exact hold
    · obtain ⟨hbodies, hrequests⟩ := hs.old h' y hy
      exact ⟨Nat.lt_of_lt_of_le hbodies hnext, Nat.lt_of_lt_of_le hrequests hnext⟩
  counted := hcounted

theorem ne_next (hs : s.Represents families) (hheld : s.held h = some x) :
    x.bodies ≠ s.memory.next ∧ x.requests ≠ s.memory.next := by
  obtain ⟨hbodies, hrequests⟩ := hs.old h x hheld
  exact ⟨Nat.ne_of_lt hbodies, Nat.ne_of_lt hrequests⟩

theorem holders_next (hs : s.Represents families) : s.memory.holders s.memory.next = 0 :=
  hs.counted.eq_zero fun _ _ hheld => (hs.ne_next hheld).1

/-- A new fixture has its own places. -/
theorem create (hs : s.Represents families) {made : Handle}
    (hstep : (Step.create made).IsPossible families) :
    (s.perform (.create made)).Represents ((Step.create made).apply families) := by
  have hnone : made.find? families = none := by
    rw [hstep, Handle.find?, List.getElem?_eq_none (Nat.le_refl _), Option.bind_none]
  -- the place that is taken next has had no holder so far
  have hcounted := hs.counted.hold (hs.held_eq_none hnone) ⟨s.memory.next, s.memory.next⟩
  rw [hs.holders_next] at hcounted
  refine hs.assign ?self (fun h' hne => Handle.find?_create_of_ne (hstep ▸ hne))
    (requestsOf_apply_of_not_ask _ hstep nofun) ?frame ?requests ?common (Nat.le_succ _)
    ⟨Nat.lt_succ_self _, Nat.lt_succ_self _⟩ hcounted
  case self =>
    rw [hstep, Handle.find?_created]
    exact congrArg some (s.memory.fixture_create .empty).symm
  case frame =>
    intro h' y _ hy
    obtain ⟨hbodies, hrequests⟩ := hs.ne_next hy
    exact ⟨Function.update_of_ne hbodies .., Function.update_of_ne hrequests ..⟩
  case requests =>
    -- nobody has asked in a family that is not there yet
    rw [hstep, requestsOf, List.getElem?_eq_none (by rw [List.length_map])]
    exact Function.update_self ..
  case common =>
    -- a new log is nobody else's, as the new family is
    intro h' y _ hy
    obtain ⟨f, hf⟩ : ∃ f, h'.find? families = some f := ⟨_, hs.find?_of_held hy⟩
    have hlt := Handle.lt_length hf
    rw [hstep]
    exact iff_of_false (hs.ne_next hy).2.symm (Nat.ne_of_gt hlt)

/-- **A body is put into one fixture only**: in place if nobody else holds the bodies, else at a
place of its own. -/
theorem withBody (hs : s.Represents families) {endpoint body : String}
    (hstep : (Step.withBody h endpoint body).IsPossible families) :
    (s.perform (.withBody h endpoint body)).Represents
      ((Step.withBody h endpoint body).apply families) := by
  obtain ⟨f, hf⟩ := hstep
  obtain ⟨x, hheld, rfl⟩ := hs.exists_held hf
  have hlog := requestsOf_apply_of_not_ask (.withBody h endpoint body) ⟨_, hf⟩ nofun
  have hself := Handle.find?_withBody hf endpoint body
  rw [← Memory.fixture_withBody, Memory.withBody] at hself
  rw [InUse.perform, hheld]
  dsimp only
  rw [Memory.withBody]
  by_cases hone : s.memory.holders x.bodies = 1
  · -- alone with its bodies, the fixture keeps the places that it has
    have hsame : Function.update s.held h (some x) = s.held := by
      rw [← hheld, Function.update_eq_self]
    rw [if_pos hone] at hself ⊢
    refine hs.assign hself (fun h' hne => Handle.find?_withBody_of_ne hne _ _) hlog
      (fun h' y hne hy => ⟨?_, rfl⟩) (hs.requests h x hheld)
      (fun h' y _ hy => hs.common h x h' y hheld hy) (Nat.le_refl _) (hs.old h x hheld)
      (hsame.symm ▸ hs.counted)
    -- the place has one holder, so another fixture holds another place
    have hother : y.bodies ≠ x.bodies := fun h => hne (hs.counted.eq_of_one hheld hone hy h)
    exact Function.update_of_ne hother ..
  · -- the fixture gives up its share of the old place and is the only holder of the new one
    have hcounted := (hs.counted.release hheld).hold (Function.update_self ..)
      { x with bodies := s.memory.next }
    rw [Function.update_idem, Function.update_of_ne (hs.ne_next hheld).1.symm, hs.holders_next]
      at hcounted
    rw [if_neg hone] at hself ⊢
    exact hs.assign hself (fun h' hne => Handle.find?_withBody_of_ne hne _ _) hlog
      (fun h' y _ hy => ⟨Function.update_of_ne (hs.ne_next hy).1 .., rfl⟩)
      (hs.requests h x hheld) (fun h' y _ hy => hs.common h x h' y hheld hy) (Nat.le_succ _)
      ⟨Nat.lt_succ_self _, Nat.lt_succ_of_lt (hs.old h x hheld).2⟩ hcounted

/-- A copy holds what is held already. -/
theorem copy (hs : s.Represents families) {made : Handle}
    (hstep : (Step.copy h made).IsPossible families) :
    (s.perform (.copy h made)).Represents ((Step.copy h made).apply families) := by
  obtain ⟨family, f, hfamily, hmember, rfl⟩ := hstep
  have hf : h.find? families = some f := Handle.find?_eq_some_iff.mpr ⟨family, hfamily, hmember⟩
  obtain ⟨x, hheld, rfl⟩ := hs.exists_held hf
  -- the number of the copy is not taken
  have hnone : Handle.find? families ⟨h.family, family.members.length⟩ = none := by
    rw [Handle.find?, hfamily, Option.bind_some]
    exact List.getElem?_eq_none (Nat.le_refl _)
  have hlog := requestsOf_apply_of_not_ask (.copy h ⟨h.family, family.members.length⟩)
    ⟨family, _, hfamily, hmember, rfl⟩ nofun
  rw [InUse.perform, hheld]
  exact hs.assign (Handle.find?_copied hfamily hmember _)
    (fun h' hne => Handle.find?_copy_of_ne hfamily hmember hne) hlog (fun _ _ _ _ => ⟨rfl, rfl⟩)
    (hs.requests h x hheld) (fun h' y _ hy => hs.common h x h' y hheld hy) (Nat.le_refl _)
    (hs.old h x hheld) (hs.counted.hold (hs.held_eq_none hnone) x)

/-- A request is kept for the whole family and for no other one. -/
theorem ask (hs : s.Represents families) {u : Url} (hstep : (Step.ask h u).IsPossible families) :
    (s.perform (.ask h u)).Represents ((Step.ask h u).apply families) := by
  have hlog := requestsOf_apply hstep
  obtain ⟨f, hf⟩ := hstep
  obtain ⟨x, hheld, -⟩ := hs.exists_held hf
  rw [InUse.perform, hheld]
  refine ⟨fun h' => ?_, fun h' y hy => ?_, hs.common, hs.old, hs.counted⟩
  · rw [Handle.find?_ask, hs.fixture]
    rfl
  · rw [hlog]
    show Function.update s.memory.requests x.requests _ y.requests = _
    -- another fixture has the same log exactly if it is of the same family
    by_cases hfamily : h.family = h'.family
    · have hplace := (hs.common h x h' y hheld hy).mpr hfamily
      rw [hplace, Function.update_self, hs.requests h' y hy, Step.requestTo?, if_pos hfamily]
      rfl
    · have hplace : y.requests ≠ x.requests :=
        fun h => hfamily ((hs.common _ _ _ _ hheld hy).mp h.symm)
      rw [Function.update_of_ne hplace, hs.requests h' y hy, Step.requestTo?, if_neg hfamily]
      exact (List.append_nil _).symm

/-- **Every step does in memory what it does to the families.** -/
theorem perform (hs : s.Represents families) {step : Step} (hstep : step.IsPossible families) :
    (s.perform step).Represents (step.apply families) := by
  cases step with
  | create made => exact hs.create hstep
  | withBody h endpoint body => exact hs.withBody hstep
  | copy h made => exact hs.copy hstep
  | ask h u => exact hs.ask hstep

end InUse.Represents

/-! ### Runs -/

namespace InUse

/-- No fixture is that of no family. -/
theorem represents_start : start.Represents [] where
  fixture _ := rfl
  requests _ _ hx := nomatch hx
  common _ _ _ _ hx := nomatch hx
  old _ _ hx := nomatch hx
  counted _ := ⟨∅, fun h => ⟨fun hh => absurd hh (Finset.notMem_empty h), nofun⟩, rfl⟩

/-- The fixtures in use behind some steps. -/
def after (steps : List Step) : InUse := steps.foldl perform start

end InUse

/-- **The families of a run are what its fixtures show in memory.** -/
theorem Run.represents {steps : List Step} {families : List Family} (hrun : Run steps families) :
    (InUse.after steps).Represents families := by
  induction hrun with
  | start => exact InUse.represents_start
  | @step steps families step _ hstep ih =>
    rw [InUse.after, List.foldl_append]
    exact ih.perform hstep

/-- So a fixture is read and asked through the places that it holds as a member of its family. -/
theorem Run.read_held {steps : List Step} {families : List Family} (hrun : Run steps families)
    {h : Handle} {family : Family} {f : Fixture} (hfamily : families[h.family]? = some family)
    (hmember : family.members[h.member]? = some f) :
    ∃ x, (InUse.after steps).held h = some x ∧ (InUse.after steps).memory.fixture x = f ∧
      (InUse.after steps).memory.requests x.requests = family.requests ∧
      ∀ u, ((InUse.after steps).memory.ask x u).1 = (family.ask h.member u).1 := by
  have hs := hrun.represents
  obtain ⟨x, hheld, hx⟩ :=
    hs.exists_held (Handle.find?_eq_some_iff.mpr ⟨family, hfamily, hmember⟩)
  refine ⟨x, hheld, hx, ?_, fun u => ?_⟩
  · rw [hs.requests h x hheld, requestsOf, List.getElem?_map, hfamily]
    rfl
  · rw [Memory.ask, Family.ask, hx, List.getD_eq_getElem?_getD, hmember]
    rfl

end Itinerary.Fixture
