import Mathlib.Data.List.TakeWhile
import Itinerary.Proofs.Steps
import Itinerary.Proofs.Text.Run
import Itinerary.Proofs.Url.Path

/-!
# Addresses below an address

What is asked for is put behind a base: a slash and a name, and the whole is read as an address. It
has the scheme and the authority of the base and a path one segment longer, so long as the base is a
well-formed address of the web without query and fragment (`IsBaseOf`). Whatever the base ends in,
the name is the last segment of the path (`IsBaseOf.exists_below`).

The text of a base falls into a front, which holds the scheme and the authority, and the path. The
front is read alike in front of every path (`IsBaseOf.exists_front`), since an authority ends at the
first slash. A name made of unreserved characters can be put there as it is
(`IsUnreserved.plain`).
-/

namespace Itinerary.Url

open Text

/-! ### The front of an address -/

theorem cut_of_not_mem {mark : Char} {cs : List Char} (h : mark ∉ cs) : cut mark cs = (cs, none) := by
  have hall : cs.dropWhile (· ≠ mark) = [] := by
    rw [List.dropWhile_eq_nil_iff]
    intro c hc
    exact decide_eq_true fun heq => h (heq ▸ hc)
  rw [cut, hall]

/-- Where nothing is cut off, the mark does not occur. -/
theorem not_mem_of_cut {mark : Char} {cs : List Char} (h : (cut mark cs).2 = none) : mark ∉ cs := by
  rw [cut] at h
  split at h
  · next hnil =>
    intro hmem
    exact of_decide_eq_true (List.dropWhile_eq_nil_iff.mp hnil mark hmem) rfl
  · cases h

/-- What has no controls and blanks is clean as it is. -/
theorem clean_of_forall {cs : List Char} (h : ∀ c ∈ cs, isEdge c = false) : clean cs = cs := by
  have hends : ∀ ds : List Char, (∀ c ∈ ds, isEdge c = false) → EndsBefore isEdge ds :=
    fun ds hds c hc => hds c (List.mem_of_mem_head? hc)
  rw [clean, dropWhile_of_endsBefore (hends cs h),
    dropWhile_of_endsBefore (hends cs.reverse fun c hc => h c (List.mem_reverse.mp hc)),
    List.reverse_reverse, List.filter_eq_self]
  intro c hc
  have hedge := h c hc
  simp only [Bool.and_eq_true, decide_eq_true_eq]
  refine ⟨⟨?_, ?_⟩, ?_⟩ <;>
  · rintro rfl
    cases hedge

/-- The scheme of an address is read alike in front of anything. -/
theorem exists_of_readScheme {cs rest : List Char} {scheme : String}
    (h : readScheme cs = .ok (scheme, rest)) :
    ∃ name, cs = name ++ ':' :: rest ∧
      ∀ tail, readScheme (name ++ ':' :: tail) = .ok (scheme, tail) := by
  have hcs : cs.takeWhile isSchemeChar ++ cs.dropWhile isSchemeChar = cs :=
    List.takeWhile_append_dropWhile
  have hname : ∀ c ∈ cs.takeWhile isSchemeChar, isSchemeChar c = true :=
    fun c hc => List.mem_takeWhile_imp hc
  refine ⟨cs.takeWhile isSchemeChar, ?_, fun tail => ?_⟩
  · -- what is read as a name has the colon behind it
    rw [readScheme] at h
    split at h
    · next first name rest' hfirst hrest =>
      split at h
      · cases h
        rw [← hrest, hcs]
      · cases h
    · cases h
  · have htail : EndsBefore isSchemeChar (':' :: tail) := endsBefore_cons (by decide) tail
    rw [readScheme, takeWhile_append hname htail, dropWhile_append hname htail]
    rw [readScheme] at h
    -- only the name decides, and that is the same
    split at h
    · next first name rest' hfirst hrest =>
      rw [hfirst]
      simp only
      split at h
      · next halpha =>
        cases h
        rw [if_pos halpha]
        rw [hfirst]
      · cases h
    · cases h

/-! ### Authorities -/

/-- An authority of the web is not empty, and is read alike whatever follows it. -/
theorem readAuthority_network {port : Nat} {more : Bool} {cs : List Char}
    {result : Authority × List Char}
    (h : readAuthority (.network port) more cs = .ok result) :
    cs ≠ [] ∧ ∀ more', readAuthority (.network port) more' cs = .ok result := by
  have hempty : readHostPort (.network port) [] = .error .emptyHost := rfl
  -- behind a user there must be a host, so what follows makes no difference
  have hrest : ((cutUser cs).getD ([], cs)).2.isEmpty = false := by
    rw [Bool.eq_false_iff]
    intro hnil
    rw [List.isEmpty_iff] at hnil
    rw [readAuthority] at h
    simp only [hnil, hempty] at h
    split at h <;> cases h
  refine ⟨?_, fun more' => ?_⟩
  · rintro rfl
    cases hrest
  · rw [readAuthority] at h ⊢
    simp only [hrest, Bool.false_and, Bool.false_eq_true, if_false] at h ⊢
    exact h

/-- Whether a character does not separate the segments of a path. -/
def SchemeKind.isPlain (kind : SchemeKind) (c : Char) : Bool := !kind.isSlash c

/-- **The authority of an address of the web is read alike in front of every path.** -/
theorem exists_front_of_readNetwork {kind : SchemeKind} {port : Nat} (hkind : kind = .network port)
    {more : Bool} {cs : List Char} {authority : Option Authority} {p : Path}
    (h : readNetwork kind more cs = .ok (authority, p)) :
    ∃ front path, cs = front ++ path ∧ p = readPath kind path ∧ EndsBefore kind.isPlain path ∧
      (∃ c, front.getLast? = some c ∧ kind.isSlash c = false) ∧
      ∀ more' path', EndsBefore kind.isPlain path' →
        readNetwork kind more' (front ++ path') = .ok (authority, readPath kind path') := by
  rw [readNetwork] at h
  obtain ⟨⟨a, behind⟩, ha, h⟩ := bind_eq_ok_iff.mp h
  cases h
  change readAuthority kind _ ((cs.dropWhile kind.isSlash).takeWhile kind.isPlain) = _ at ha
  rw [hkind] at ha
  obtain ⟨hne, hmore⟩ := readAuthority_network ha
  rw [← hkind] at hne hmore
  -- the front is the leading slashes and the host, and the host is not empty
  have hlead : ∀ c ∈ cs.takeWhile kind.isSlash, kind.isSlash c = true :=
    fun c hc => List.mem_takeWhile_imp hc
  have hhost : ∀ c ∈ (cs.dropWhile kind.isSlash).takeWhile kind.isPlain, kind.isPlain c = true :=
    fun c hc => List.mem_takeWhile_imp hc
  refine ⟨cs.takeWhile kind.isSlash ++ (cs.dropWhile kind.isSlash).takeWhile kind.isPlain,
    (cs.dropWhile kind.isSlash).dropWhile kind.isPlain, ?_, rfl, endsBefore_dropWhile _ _, ?_,
    fun more' path' hpath' => ?_⟩
  · rw [List.append_assoc, List.takeWhile_append_dropWhile, List.takeWhile_append_dropWhile]
  · -- its last character is one of the host
    refine ⟨_, ?_, Bool.not_eq_true' _ ▸ hhost _ (List.getLast_mem hne)⟩
    rw [List.getLast?_append, List.getLast?_eq_some_getLast hne, Option.some_or]
  · -- the slashes in front end before the host, and the host ends before the path
    have hinner : EndsBefore kind.isSlash
        ((cs.dropWhile kind.isSlash).takeWhile kind.isPlain ++ path') := by
      obtain ⟨c, rest, hc⟩ := List.exists_cons_of_ne_nil hne
      rw [hc, List.cons_append]
      exact endsBefore_cons (Bool.not_eq_true' _ ▸ hhost c (hc ▸ List.mem_cons_self)) _
    have htake := takeWhile_append hhost hpath'
    have hdrop := dropWhile_append hhost hpath'
    unfold SchemeKind.isPlain at htake hdrop hinner hmore ⊢
    rw [readNetwork]
    simp only
    rw [List.append_assoc, dropWhile_append hlead hinner, htake, hdrop, hmore]
    rfl

/-! ### Addresses without query and fragment -/

/-- An address that has neither a query nor a fragment is a scheme and what is behind it. -/
theorem parse_ok {s : String} {u : Url} (h : parse s = .ok u) (hquery : u.query = none)
    (hfragment : u.fragment = none) :
    ∃ rest, readScheme (clean s.toList) = .ok (u.scheme, rest) ∧ '#' ∉ rest ∧ '?' ∉ rest ∧
      readHierarchy (.of u.scheme) false rest = .ok (u.authority, u.path) := by
  rw [parse] at h
  obtain ⟨⟨scheme, rest⟩, hscheme, h⟩ := bind_eq_ok_iff.mp h
  cases hhash : cut '#' rest with
  | mk before fragment =>
  cases hmark : cut '?' before with
  | mk text query =>
  simp only [hhash, hmark] at h
  obtain ⟨⟨authority, path⟩, hpath, h⟩ := bind_eq_ok_iff.mp h
  obtain rfl := Except.ok.inj h
  obtain rfl := Option.map_eq_none_iff.mp hfragment
  obtain rfl := Option.map_eq_none_iff.mp hquery
  -- where nothing is cut off, what is read is all that is there
  have hnohash : '#' ∉ rest := not_mem_of_cut (by rw [hhash])
  obtain rfl : rest = before := congrArg Prod.fst ((cut_of_not_mem hnohash).symm.trans hhash)
  have hnomark : '?' ∉ rest := not_mem_of_cut (by rw [hmark])
  obtain rfl : rest = text := congrArg Prod.fst ((cut_of_not_mem hnomark).symm.trans hmark)
  exact ⟨rest, hscheme, hnohash, hnomark, hpath⟩

/-- A scheme and what is behind it are an address, if no query and no fragment is there. -/
theorem parse_of_readHierarchy {cs rest : List Char} {scheme : String}
    {authority : Option Authority} {path : Path} (hclean : ∀ c ∈ cs, isEdge c = false)
    (hscheme : readScheme cs = .ok (scheme, rest)) (hhash : '#' ∉ rest) (hmark : '?' ∉ rest)
    (hpath : readHierarchy (.of scheme) false rest = .ok (authority, path)) :
    parse (String.ofList cs) = .ok ⟨scheme, authority, path, none, none⟩ := by
  rw [parse, String.toList_ofList, clean_of_forall hclean]
  refine bind_eq_ok_iff.mpr ⟨(scheme, rest), hscheme, ?_⟩
  simp only [cut_of_not_mem hhash, cut_of_not_mem hmark]
  exact bind_eq_ok_iff.mpr ⟨(authority, path), hpath, rfl⟩

/-! ### Bases -/

/-- Whether a text is a base and what its address is: a well-formed address of the web that has
neither a query nor a fragment. A well-formed one has no controls, blanks or `\`, which reading an
address would put up with. -/
structure IsBaseOf (u : Url) (s : String) : Prop where
  read : parse s = .ok u
  scheme : u.scheme = "http" ∨ u.scheme = "https"
  query : u.query = none
  fragment : u.fragment = none
  well_formed : ∀ c ∈ s.toList, isEdge c = false ∧ c ≠ '\\'

/-- Whether a character may stand in a path without ending it or being left out. -/
def IsPathText (c : Char) : Prop := isEdge c = false ∧ c ≠ '#' ∧ c ≠ '?'

theorem not_mem_hash {cs : List Char} (h : ∀ c ∈ cs, IsPathText c) : '#' ∉ cs :=
  fun hmem => (h _ hmem).2.1 rfl

theorem not_mem_question {cs : List Char} (h : ∀ c ∈ cs, IsPathText c) : '?' ∉ cs :=
  fun hmem => (h _ hmem).2.2 rfl

/-- Whether a path is empty or has a root. -/
def IsRooted (path : List Char) : Prop := path = [] ∨ path.head? = some '/'

theorem IsRooted.endsBefore {path : List Char} (h : IsRooted path) (kind : SchemeKind) :
    EndsBefore kind.isPlain path := by
  rcases h with rfl | h
  · exact endsBefore_nil _
  · intro c hc
    obtain rfl := Option.some.inj (h.symm.trans hc)
    rw [SchemeKind.isPlain, isSlash_slash]
    rfl

/-- A name below a path has a root. -/
theorem IsRooted.append {path : List Char} (h : IsRooted path) (name : List Char) :
    IsRooted (path ++ '/' :: name) := by
  rcases h with rfl | h
  · exact .inr rfl
  · refine .inr ?_
    rw [List.head?_append, h]
    rfl

/-- A name below a path is text of a path if the two are. -/
theorem isPathText_append {path name : List Char} (hpath : ∀ c ∈ path, IsPathText c)
    (hname : ∀ c ∈ name, IsPathText c) : ∀ c ∈ path ++ '/' :: name, IsPathText c := by
  intro c hc
  rcases List.mem_append.mp hc with hc | hc
  · exact hpath c hc
  · rcases List.mem_cons.mp hc with rfl | hc
    · exact ⟨by decide, by decide, by decide⟩
    · exact hname c hc

namespace IsBaseOf

variable {u : Url} {s : String}

theorem exists_kind (h : u.IsBaseOf s) : ∃ port, SchemeKind.of u.scheme = .network port := by
  rcases h.scheme with hscheme | hscheme
  · exact ⟨80, by rw [hscheme]; rfl⟩
  · exact ⟨443, by rw [hscheme]; rfl⟩

theorem kind_ne_file (h : u.IsBaseOf s) : SchemeKind.of u.scheme ≠ .file := by
  obtain ⟨port, hkind⟩ := h.exists_kind
  rw [hkind]
  rintro ⟨⟩

/-- **The front of a base is read alike in front of every path.** -/
theorem exists_front (h : u.IsBaseOf s) :
    ∃ front path, s.toList = front ++ path ∧ (∀ c ∈ path, IsPathText c) ∧ IsRooted path ∧
      (∃ c, front.getLast? = some c ∧ c ≠ '/') ∧
      ∀ path', (∀ c ∈ path', IsPathText c) → IsRooted path' →
        parse (String.ofList (front ++ path')) =
          .ok { u with path := readPath (.of u.scheme) path' } := by
  obtain ⟨rest, hscheme, hhash, hmark, hpath⟩ := parse_ok h.read h.query h.fragment
  -- a well-formed address has no blanks or controls to take off
  have hclean : ∀ c ∈ s.toList, isEdge c = false := fun c hc => (h.well_formed c hc).1
  rw [clean_of_forall hclean] at hscheme
  -- the scheme ends at the colon, and the authority where the path starts
  obtain ⟨name, hs, hname⟩ := exists_of_readScheme hscheme
  obtain ⟨port, hkind⟩ := h.exists_kind
  have hnetwork : ∀ more cs, readHierarchy (.of u.scheme) more cs =
      readNetwork (.of u.scheme) more cs := by
    intro more cs
    rw [hkind]
    rfl
  rw [hnetwork] at hpath
  obtain ⟨front, path, rfl, -, hstart, ⟨last, hlast, hslash⟩, hfront⟩ :=
    exists_front_of_readNetwork hkind hpath
  have hwhole : s.toList = (name ++ ':' :: front) ++ path := by
    rw [hs, List.append_assoc, List.cons_append]
  rw [List.mem_append, not_or] at hhash hmark
  refine ⟨name ++ ':' :: front, path, hwhole, fun c hc => ?_, ?_, ⟨last, ?_, ?_⟩,
    fun path' htext hpath' => ?_⟩
  · refine ⟨hclean c (hwhole ▸ List.mem_append_right _ hc), ?_, ?_⟩
    · rintro rfl
      exact hhash.2 hc
    · rintro rfl
      exact hmark.2 hc
  · -- a path starts with a slash, and a well-formed one not with the other kind
    cases path with
    | nil => exact .inl rfl
    | cons c path =>
      have hc := hstart c rfl
      have hback := (h.well_formed c (hwhole ▸ List.mem_append_right _ List.mem_cons_self)).2
      simp only [SchemeKind.isPlain, SchemeKind.isSlash, Bool.not_eq_false', Bool.or_eq_true,
        Bool.and_eq_true, beq_iff_eq] at hc
      rcases hc with rfl | ⟨-, rfl⟩
      · exact .inr rfl
      · exact absurd rfl hback
  · rw [List.getLast?_append, List.getLast?_cons, hlast]
    rfl
  · rintro rfl
    rw [isSlash_slash] at hslash
    cases hslash
  · -- with another path none of the steps of reading the front sees a difference
    have hfrontClean : ∀ c ∈ (name ++ ':' :: front) ++ path', isEdge c = false := by
      intro c hc
      rcases List.mem_append.mp hc with hc | hc
      · exact hclean c (hwhole ▸ List.mem_append_left _ hc)
      · exact (htext c hc).1
    have hread := hfront false path' (hpath'.endsBefore _)
    have hname' : readScheme ((name ++ ':' :: front) ++ path') = .ok (u.scheme, front ++ path') := by
      rw [List.append_assoc, List.cons_append]
      exact hname _
    have hhash' : '#' ∉ front ++ path' := by
      rw [List.mem_append, not_or]
      exact ⟨hhash.1, not_mem_hash htext⟩
    have hmark' : '?' ∉ front ++ path' := by
      rw [List.mem_append, not_or]
      exact ⟨hmark.1, not_mem_question htext⟩
    rw [parse_of_readHierarchy hfrontClean hname' hhash' hmark' ((hnetwork _ _).trans hread),
      h.query, h.fragment]

/-- **A name behind a base is the last segment of an address below it**, with slashes at the end of
the base or without. -/
theorem exists_below (h : u.IsBaseOf s) {name : String} (hname : IsName name)
    (hnameText : ∀ c ∈ name.toList, IsPathText c) :
    ∃ v, parse (s ++ "/" ++ name) = .ok v ∧ v.scheme = u.scheme ∧ v.authority = u.authority ∧
      v.lastSegment? = some name := by
  obtain ⟨front, path, hs, htext, hpath, -, hread⟩ := h.exists_front
  obtain ⟨segments, hsegments, hlast⟩ := exists_readPath_append h.kind_ne_file hname hpath
  have happend : s ++ "/" ++ name = String.ofList (front ++ (path ++ '/' :: name.toList)) := by
    rw [← String.toList_inj]
    simp [hs]
  refine ⟨{ u with path := .rooted segments }, ?_, rfl, rfl, hlast⟩
  rw [happend, hread _ (isPathText_append htext hnameText) (hpath.append _), hsegments]

end IsBaseOf

/-! ### Unreserved characters -/

/-- Whether a character stands for itself wherever it stands in an address. -/
def IsUnreserved (c : Char) : Prop := c.isAlphanum = true ∨ c ∈ ['-', '.', '_', '~']

instance : DecidablePred IsUnreserved := fun c =>
  inferInstanceAs (Decidable (c.isAlphanum = true ∨ c ∈ ['-', '.', '_', '~']))

/-- An unreserved character is none of those that mean something. -/
theorem IsUnreserved.plain {c : Char} (h : IsUnreserved c) :
    IsPathText c ∧ isPathChar c = true ∧ c ≠ '/' ∧ c ≠ '\\' := by
  have hascii : c.toNat < 0x80 := by
    rcases h with halphanum | hsign
    · have hc := Form.toNat_of_isAlphanum halphanum
      omega
    · simp only [List.mem_cons, List.not_mem_nil, or_false] at hsign
      rcases hsign with rfl | rfl | rfl | rfl <;> decide
  -- so there are few enough to look at each
  have hall : ∀ n : Nat, n < 0x80 →
      (Char.ofNat n).isAlphanum = true ∨ Char.ofNat n ∈ ['-', '.', '_', '~'] →
      (isEdge (Char.ofNat n) = false ∧ Char.ofNat n ≠ '#' ∧ Char.ofNat n ≠ '?') ∧
        isPathChar (Char.ofNat n) = true ∧ Char.ofNat n ≠ '/' ∧ Char.ofNat n ≠ '\\' := by
    decide
  rw [← Char.ofNat_toNat c] at h ⊢
  exact hall c.toNat hascii h

end Itinerary.Url
