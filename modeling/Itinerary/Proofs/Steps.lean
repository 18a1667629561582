import Mathlib.Data.List.Forall2

/-!
# Steps that may fail, and lists in step

Much of the library is written as steps of which the first that fails ends the whole. A proof about
such a function takes a success apart into the successes of its steps. For a step that is done to
every item of a list the outcome is a list in step with it, which is what `List.Forall₂` says.
-/

namespace Itinerary

variable {ε ε' α β γ δ : Type}

/-! ### Steps that may fail -/

/-- Two steps succeed exactly if the first one does and then the second. -/
theorem bind_eq_ok_iff {x : Except ε α} {f : α → Except ε β} {b : β} :
    (x >>= f) = .ok b ↔ ∃ a, x = .ok a ∧ f a = .ok b := by
  constructor
  · intro h
    cases x with
    | error e => cases h
    | ok a => exact ⟨a, rfl, h⟩
  · rintro ⟨a, rfl, h⟩
    exact h

/-- Two steps fail if the first one does, or if it succeeds and the second one fails behind it. -/
theorem bind_eq_error_iff {x : Except ε α} {f : α → Except ε β} {e : ε} :
    (x >>= f) = .error e ↔ x = .error e ∨ ∃ a, x = .ok a ∧ f a = .error e := by
  cases x with
  | error e' =>
    refine ⟨fun h => .inl (congrArg _ (Except.error.inj h)), ?_⟩
    rintro (h | ⟨_, h, -⟩)
    · exact congrArg _ (Except.error.inj h)
    · cases h
  | ok a =>
    refine ⟨fun h => .inr ⟨a, rfl, h⟩, ?_⟩
    rintro (h | ⟨_, ⟨⟩, h⟩)
    · cases h
    · exact h

/-- A success that is changed comes from a success. -/
theorem map_eq_ok_iff {x : Except ε α} {f : α → β} {b : β} :
    x.map f = .ok b ↔ ∃ a, x = .ok a ∧ f a = b := by
  constructor
  · intro h
    cases x with
    | error e => cases h
    | ok a => exact ⟨a, rfl, Except.ok.inj h⟩
  · rintro ⟨a, rfl, rfl⟩
    rfl

/-- An error stays what it is when a success is changed. -/
theorem map_eq_error_iff {x : Except ε α} {f : α → β} {e : ε} :
    x.map f = .error e ↔ x = .error e := by
  cases x with
  | error e' =>
    exact ⟨fun h => congrArg _ (Except.error.inj h), fun h => congrArg _ (Except.error.inj h)⟩
  | ok a => exact ⟨fun h => (nomatch h), fun h => (nomatch h)⟩

theorem exists_eq_ok {x : Except ε α} (h : x.isOk = true) : ∃ a, x = .ok a := by
  cases x with
  | error e => cases h
  | ok a => exact ⟨a, rfl⟩

/-- A success keeps what it holds when errors are put in other words. -/
theorem mapError_eq_ok_iff {x : Except ε α} {f : ε → ε'} {a : α} :
    x.mapError f = .ok a ↔ x = .ok a := by
  constructor
  · intro h
    cases x with
    | error e => cases h
    | ok b => exact congrArg _ (Except.ok.inj h)
  · rintro rfl
    rfl

/-- An error that is put in other words comes from an error. -/
theorem mapError_eq_error_iff {x : Except ε α} {f : ε → ε'} {e' : ε'} :
    x.mapError f = .error e' ↔ ∃ e, x = .error e ∧ f e = e' := by
  constructor
  · intro h
    cases x with
    | error e => exact ⟨e, rfl, Except.error.inj h⟩
    | ok a => cases h
  · rintro ⟨e, rfl, rfl⟩
    rfl

/-- What is shown of a success does not depend on the wording of errors. -/
theorem map_mapError (x : Except ε α) (f : ε → ε') (g : α → β) :
    (x.mapError f).map g = (x.map g).mapError f := by
  cases x <;> rfl

/-- **Two runs of two steps look the same**, errors included, if their first steps do and their
second steps do behind whatever looks the same. -/
theorem map_bind_eq_map_bind {x x' : Except ε α} {f f' : α → Except ε β} {v : α → γ} {w : β → δ}
    (h : x.map v = x'.map v) (hf : ∀ a a', v a = v a' → (f a).map w = (f' a').map w) :
    (x >>= f).map w = (x' >>= f').map w := by
  -- what looks the same fails alike, or succeeds with what looks the same
  cases x with
  | error e =>
    cases x' with
    | error e' => exact congrArg Except.error (Except.error.inj h)
    | ok a' => cases h
  | ok a =>
    cases x' with
    | error e' => cases h
    | ok a' => exact hf a a' (Except.ok.inj h)

/-- What looks the same fails together, and succeeds together with what looks the same. -/
theorem error_iff_and_ok_of_map_eq {x x' : Except ε α} {v : α → β} (h : x.map v = x'.map v) :
    (∀ e, x = .error e ↔ x' = .error e) ∧ ∀ a, x = .ok a → ∃ a', x' = .ok a' ∧ v a' = v a := by
  cases x with
  | error e =>
    cases x' with
    | error e' =>
      obtain rfl := Except.error.inj h
      exact ⟨fun _ => Iff.rfl, fun _ ha => nomatch ha⟩
    | ok a' => cases h
  | ok a =>
    cases x' with
    | error e' => cases h
    | ok a' =>
      refine ⟨fun e => ⟨fun he => ?_, fun he => ?_⟩, ?_⟩
      · cases he
      · cases he
      rintro _ ⟨⟩
      exact ⟨a', rfl, (Except.ok.inj h).symm⟩

/-- A step done to every item of a list succeeds exactly if it succeeds on each of them. -/
theorem mapM_eq_ok_iff {f : α → Except ε β} {as : List α} {bs : List β} :
    as.mapM f = .ok bs ↔ List.Forall₂ (fun a b => f a = .ok b) as bs := by
  induction as generalizing bs with
  | nil =>
    rw [List.mapM_nil, List.forall₂_nil_left_iff]
    exact ⟨fun h => (Except.ok.inj h).symm, fun h => congrArg _ h.symm⟩
  | cons a rest ih =>
    rw [List.mapM_cons, bind_eq_ok_iff, List.forall₂_cons_left_iff]
    constructor
    · rintro ⟨b, hb, h⟩
      obtain ⟨bs', hbs', h⟩ := bind_eq_ok_iff.mp h
      exact ⟨b, bs', hb, ih.mp hbs', (Except.ok.inj h).symm⟩
    · rintro ⟨b, bs', hb, hbs', rfl⟩
      exact ⟨b, hb, bind_eq_ok_iff.mpr ⟨bs', ih.mpr hbs', rfl⟩⟩

/-- A step done to every item of a list succeeds if it succeeds on each of them. -/
theorem exists_mapM_eq_ok_iff {f : α → Except ε β} {as : List α} :
    (∃ bs, as.mapM f = .ok bs) ↔ ∀ a ∈ as, ∃ b, f a = .ok b := by
  induction as with
  | nil => exact ⟨fun _ _ ha => absurd ha List.not_mem_nil, fun _ => ⟨[], rfl⟩⟩
  | cons a rest ih =>
    rw [List.mapM_cons, List.forall_mem_cons, ← ih]
    constructor
    · rintro ⟨bs, h⟩
      obtain ⟨b, hb, h⟩ := bind_eq_ok_iff.mp h
      obtain ⟨bs', hbs', -⟩ := bind_eq_ok_iff.mp h
      exact ⟨⟨b, hb⟩, bs', hbs'⟩
    · rintro ⟨⟨b, hb⟩, bs, hbs⟩
      exact ⟨b :: bs, bind_eq_ok_iff.mpr ⟨b, hb, bind_eq_ok_iff.mpr ⟨bs, hbs, rfl⟩⟩⟩

/-- A step done to every item of a list fails with the error of the first item it fails on. -/
theorem mapM_eq_error_iff {f : α → Except ε β} {as : List α} {e : ε} :
    as.mapM f = .error e ↔
      ∃ before a after, as = before ++ a :: after ∧ (∀ b ∈ before, ∃ r, f b = .ok r) ∧
        f a = .error e := by
  -- along the items: the first one fails itself, or what fails is behind it
  induction as with
  | nil =>
    rw [List.mapM_nil]
    refine ⟨fun h => (nomatch h), ?_⟩
    rintro ⟨before, a, after, h, -⟩
    exact absurd h.symm (List.append_ne_nil_of_right_ne_nil _ (List.cons_ne_nil _ _))
  | cons a rest ih =>
    rw [List.mapM_cons, bind_eq_error_iff]
    constructor
    · rintro (h | ⟨r, hr, h⟩)
      · exact ⟨[], a, rest, rfl, fun _ hb => absurd hb List.not_mem_nil, h⟩
      · -- behind a first item that is no fault, the fault is one of the rest
        rcases bind_eq_error_iff.mp h with h | ⟨_, _, h⟩
        · obtain ⟨before, a', after, rfl, hbefore, ha'⟩ := ih.mp h
          exact ⟨a :: before, a', after, rfl, List.forall_mem_cons.mpr ⟨⟨r, hr⟩, hbefore⟩, ha'⟩
        · cases h
    · rintro ⟨before, a', after, has, hbefore, ha'⟩
      -- the item that fails is the first one, or the first one succeeds
      cases before with
      | nil =>
        cases has
        exact .inl ha'
      | cons b before =>
        cases has
        obtain ⟨⟨r, hr⟩, hbefore⟩ := List.forall_mem_cons.mp hbefore
        refine .inr ⟨r, hr, bind_eq_error_iff.mpr (.inl (ih.mpr ?_))⟩
        exact ⟨before, a', after, rfl, hbefore, ha'⟩

/-! ### How a step goes -/

/-- How a step goes: the error it fails with, or that it succeeds, whatever comes of it. -/
def verdict (x : Except ε α) : Except ε Unit := x.map fun _ => ()

theorem verdict_eq_error_iff {x : Except ε α} {e : ε} : verdict x = .error e ↔ x = .error e :=
  map_eq_error_iff

theorem verdict_eq_ok_iff {x : Except ε α} : verdict x = .ok () ↔ ∃ a, x = .ok a := by
  cases x with
  | error e => exact ⟨fun h => (nomatch h), fun ⟨_, h⟩ => (nomatch h)⟩
  | ok a => exact ⟨fun _ => ⟨a, rfl⟩, fun _ => rfl⟩

/-- A change of the outcome changes nothing about how a step goes. -/
theorem verdict_map (x : Except ε α) (f : α → β) : verdict (x.map f) = verdict x := by
  cases x <;> rfl

theorem verdict_bind_pure (x : Except ε α) (f : α → β) :
    verdict (x >>= fun a => pure (f a)) = verdict x := by
  cases x <;> rfl

/-- Two steps go as the first one and then the second, if that goes the same behind every outcome
of the first. -/
theorem verdict_bind {x : Except ε α} {f : α → Except ε β} {y : Except ε Unit}
    (h : ∀ a, x = .ok a → verdict (f a) = y) : verdict (x >>= f) = (verdict x >>= fun _ => y) := by
  cases x with
  | error e => rfl
  | ok a => exact h a rfl

/-! ### Changes behind a step -/

/-- A change at the end of some steps is made behind the first of them. -/
theorem bind_eq_map_bind {x : Option α} {f f' : α → Option β} {g : β → β}
    (h : ∀ a, f' a = (f a).map g) : (x >>= f') = (x >>= f).map g := by
  cases x with
  | none => rfl
  | some a => exact h a

/-- A change at the end of some steps is made with a change of the first of them. -/
theorem map_bind_eq_map {x : Option α} {k : α → α} {f f' : α → Option β} {g : β → β}
    (h : ∀ a, f' (k a) = (f a).map g) : (x.map k >>= f') = (x >>= f).map g := by
  cases x with
  | none => rfl
  | some a => exact h a

/-! ### Lists in step -/

/-- What items in step have in common makes the same list on either side. -/
theorem map_eq_map_of_forall₂ {f : α → γ} {g : β → γ} {as : List α} {bs : List β}
    (h : List.Forall₂ (fun a b => f a = g b) as bs) : as.map f = bs.map g := by
  induction h with
  | nil => rfl
  | cons hab _ ih => rw [List.map_cons, List.map_cons, hab, ih]

/-- Items in step are items of the two lists. -/
theorem forall₂_of_mem {R S : α → β → Prop} {as : List α} {bs : List β} (h : List.Forall₂ R as bs)
    (hS : ∀ a ∈ as, ∀ b ∈ bs, R a b → S a b) : List.Forall₂ S as bs := by
  induction h with
  | nil => exact .nil
  | cons hab _ ih =>
    refine .cons (hS _ List.mem_cons_self _ List.mem_cons_self hab) (ih fun a ha b hb => ?_)
    exact hS a (List.mem_cons_of_mem _ ha) b (List.mem_cons_of_mem _ hb)

/-- Every item has one in step with it. -/
theorem exists_mem_of_forall₂ {R : α → β → Prop} {as : List α} {bs : List β}
    (h : List.Forall₂ R as bs) {a : α} (ha : a ∈ as) : ∃ b ∈ bs, R a b := by
  induction h with
  | nil => cases ha
  | @cons _ b _ _ hab _ ih =>
    rcases List.mem_cons.mp ha with rfl | ha
    · exact ⟨b, List.mem_cons_self, hab⟩
    · obtain ⟨b', hb', hR⟩ := ih ha
      exact ⟨b', List.mem_cons_of_mem b hb', hR⟩

/-- Lists that are the same but at one place are in step. -/
theorem forall₂_append_cons {R : α → α → Prop} (hrefl : ∀ a, R a a) {a b : α} (hab : R a b)
    (before after : List α) :
    List.Forall₂ R (before ++ a :: after) (before ++ b :: after) := by
  have hsame : ∀ as : List α, List.Forall₂ R as as := fun as =>
    List.forall₂_same.mpr fun a _ => hrefl a
  exact List.rel_append (hsame before) (.cons hab (hsame after))

theorem getElem?_append_cons (before : List α) (a : α) (after : List α) :
    (before ++ a :: after)[before.length]? = some a := by
  rw [List.getElem?_append_right (Nat.le_refl _), Nat.sub_self, List.getElem?_cons_zero]

theorem exists_getElem?_of_forall₂ {R : α → β → Prop} {as : List α} {bs : List β}
    (h : List.Forall₂ R as bs) {position : Nat} {a : α} (ha : as[position]? = some a) :
    ∃ b, bs[position]? = some b ∧ R a b := by
  induction h generalizing position with
  | nil => cases ha
  | @cons a' b _ _ hab _ ih =>
    cases position with
    | zero =>
      obtain rfl := Option.some.inj ha
      exact ⟨b, rfl, hab⟩
    | succ position => exact ih ha

/-- A step that does the same to items in step does the same to their lists. -/
theorem mapM_eq_mapM_of_forall₂ {f : α → Option γ} {g : β → Option γ} {as : List α} {bs : List β}
    (h : List.Forall₂ (fun a b => f a = g b) as bs) : as.mapM f = bs.mapM g := by
  induction h with
  | nil => rfl
  | cons hab _ ih => rw [List.mapM_cons, List.mapM_cons, hab, ih]

/-- Something comes of a step done to every item if it does of each of them. -/
theorem mapM_eq_some_iff {f : α → Option β} {as : List α} {bs : List β} :
    as.mapM f = some bs ↔ List.Forall₂ (fun a b => f a = some b) as bs := by
  -- along the items, each with what came of it
  induction as generalizing bs with
  | nil =>
    rw [List.mapM_nil, List.forall₂_nil_left_iff]
    exact ⟨fun h => (Option.some.inj h).symm, fun h => congrArg _ h.symm⟩
  | cons a rest ih =>
    rw [List.mapM_cons, List.forall₂_cons_left_iff]
    constructor
    · intro h
      obtain ⟨b, hb, h⟩ := Option.bind_eq_some_iff.mp h
      obtain ⟨bs', hbs', h⟩ := Option.bind_eq_some_iff.mp h
      exact ⟨b, bs', hb, ih.mp hbs', (Option.some.inj h).symm⟩
    · rintro ⟨b, bs', hb, hbs', rfl⟩
      exact Option.bind_eq_some_iff.mpr ⟨b, hb, Option.bind_eq_some_iff.mpr ⟨bs', ih.mpr hbs', rfl⟩⟩

/-- A step that does what is related to items in step does it to their lists. -/
theorem rel_mapM_of_forall₂ {R : γ → δ → Prop} {f : α → Option γ} {g : β → Option δ} {as : List α}
    {bs : List β} (h : List.Forall₂ (fun a b => Option.Rel R (f a) (g b)) as bs) :
    Option.Rel (List.Forall₂ R) (as.mapM f) (bs.mapM g) := by
  induction h with
  | nil => exact .some .nil
  | @cons a b _ _ hab _ ih =>
    rw [List.mapM_cons, List.mapM_cons]
    generalize f a = x, g b = y at hab
    cases hab with
    | none => exact .none
    | some hcd =>
      generalize List.mapM f _ = xs, List.mapM g _ = ys at ih
      cases ih with
      | none => exact .none
      | some hrest => exact .some (.cons hcd hrest)

/-- What is found first among items in step is related if what comes of each of them is. -/
theorem rel_findSome?_of_forall₂ {R : γ → δ → Prop} {f : α → Option γ} {g : β → Option δ}
    {as : List α} {bs : List β} (h : List.Forall₂ (fun a b => Option.Rel R (f a) (g b)) as bs) :
    Option.Rel R (as.findSome? f) (bs.findSome? g) := by
  induction h with
  | nil => exact .none
  | @cons a b _ _ hab _ ih =>
    rw [List.findSome?_cons, List.findSome?_cons]
    generalize f a = x, g b = y at hab
    cases hab with
    | none => exact ih
    | some hcd => exact .some hcd

/-- **One item in the place of another one** changes what comes of a list in that place. -/
theorem mapM_append_cons_eq_map {f : α → Option β} {a b : α} {g : β → β} (h : f b = (f a).map g)
    (before after : List α) :
    (before ++ b :: after).mapM f =
      ((before ++ a :: after).mapM f).map fun bs => bs.modify before.length g := by
  induction before with
  | nil =>
    rw [List.nil_append, List.nil_append, List.mapM_cons, List.mapM_cons, h]
    cases f a with
    | none => rfl
    | some c => cases after.mapM f <;> rfl
  | cons first before ih =>
    rw [List.cons_append, List.cons_append, List.mapM_cons, List.mapM_cons, ih]
    cases f first with
    | none => rfl
    | some c => cases (before ++ a :: after).mapM f <;> rfl

/-- A step done to every item keeps what comes of each, if something comes of all of them. -/
theorem mapM_eq_ite (f : α → Option β) (as : List α) :
    as.mapM f = if as.all fun a => (f a).isSome then some (as.filterMap f) else none := by
  induction as with
  | nil => rfl
  | cons a rest ih =>
    rw [List.mapM_cons, ih, List.all_cons]
    cases hf : f a with
    | none => rfl
    | some b =>
      rw [List.filterMap_cons_some hf, Option.isSome_some, Bool.true_and]
      split <;> rfl

/-- What is kept of a list is in step with the items it is kept of. -/
theorem forall₂_filterMap (f : α → Option β) (as : List α) :
    List.Forall₂ (fun a b => a ∈ as ∧ f a = some b) (as.filter fun a => (f a).isSome)
      (as.filterMap f) := by
  induction as with
  | nil => exact .nil
  | cons a rest ih =>
    have hrest := ih.imp fun x b (h : x ∈ rest ∧ f x = some b) =>
      (⟨List.mem_cons_of_mem a h.1, h.2⟩ : x ∈ a :: rest ∧ f x = some b)
    cases hf : f a with
    | none =>
      rw [List.filter_cons_of_neg (by simp [hf]), List.filterMap_cons_none hf]
      exact hrest
    | some b =>
      rw [List.filter_cons_of_pos (by simp [hf]), List.filterMap_cons_some hf]
      exact .cons ⟨List.mem_cons_self, hf⟩ hrest

end Itinerary
