import Itinerary.Proofs.Url.Form

/-!
# Paths one segment longer

A name put behind a slash at the end of a path is the last segment of the path, and the segments in
front of it are those of the path without it. That is not plain from the text: segments are resolved
from left to right, and a path that ends in `.`, `..` or a slash ends in an empty segment, whose
place the name takes (`Path.child`). That the name is the last segment holds of every path
(`exists_readPath_append`). A name must stand for itself, as those of endpoints do (`IsName`).
-/

namespace Itinerary.Url

open Text

/-- The segments with a name behind them. An empty one at the end gives way to it. -/
def childSegments (segments : List String) (name : String) : List String :=
  (if segments.getLast? = some "" then segments.dropLast else segments) ++ [name]

/-- The path of a name below another path. -/
def Path.child (path : Path) (name : String) : Path :=
  match path with
  | .rooted segments => .rooted (childSegments segments name)
  | .rootless text => .rootless (text ++ "/" ++ name)

/-- Whether a name stands for itself as a segment: nothing in it is escaped, and it neither
separates segments nor is resolved away. -/
structure IsName (name : String) : Prop where
  escape : Percent.escape isPathChar name.toList = name
  /-- no slashes of either kind -/
  plain : ∀ c ∈ name.toList, c ≠ '/' ∧ c ≠ '\\'
  not_parent : isParent name = false
  not_here : isHere name = false

/-! ### Resolving -/

theorem childSegments_of_last {segments : List String} {last : String} (h : last ≠ "")
    (name : String) : childSegments (segments ++ [last]) name = segments ++ [last] ++ [name] := by
  rw [childSegments, List.getLast?_concat, if_neg fun heq => h (Option.some.inj heq)]

theorem childSegments_of_empty (segments : List String) (name : String) :
    childSegments (segments ++ [""]) name = segments ++ [name] := by
  rw [childSegments, List.getLast?_concat, if_pos rfl, List.dropLast_concat]

section

variable {kind : SchemeKind} {name : String}

theorem resolve_singleton (hkind : kind ≠ .file) (hname : IsName name) (done : List String) :
    resolve kind done [name] = done.reverse ++ [name] := by
  rw [resolve, hname.not_parent, hname.not_here]
  simp [hkind, resolve]

/-- **A name behind some segments is the last one of what they are resolved to.** -/
theorem resolve_append (hkind : kind ≠ .file) (hname : IsName name) {parts : List String}
    (hne : parts ≠ []) (hlast : parts.getLast? ≠ some "") (done : List String) :
    resolve kind done (parts ++ [name]) = childSegments (resolve kind done parts) name := by
  -- along the segments, whatever is done before them
  induction parts generalizing done with
  | nil => exact absurd rfl hne
  | cons s rest ih =>
    rw [List.cons_append, resolve, resolve]
    by_cases hrest : rest = []
    · -- the last segment: what is resolved away leaves an empty one, and any other stays
      subst hrest
      have hs : s ≠ "" := fun h => hlast (h ▸ rfl)
      simp only [hkind, List.nil_append, resolve_singleton hkind hname, resolve, List.isEmpty_nil,
        List.isEmpty_cons, List.reverse_cons, decide_false, Bool.false_and, Bool.false_eq_true,
        if_true, if_false, Option.getD_none]
      split
      · exact (childSegments_of_empty _ _).symm
      · split
        · exact (childSegments_of_empty _ _).symm
        · exact (childSegments_of_last hs _).symm
    · -- with more segments to come the step is the same on either side
      have hempty : rest.isEmpty = false := List.isEmpty_eq_false_iff.mpr hrest
      have hempty' : (rest ++ [name]).isEmpty = false :=
        List.isEmpty_eq_false_iff.mpr (List.append_ne_nil_of_left_ne_nil hrest _)
      have hlast' : rest.getLast? ≠ some "" := by
        obtain ⟨t, rest, rfl⟩ := List.exists_cons_of_ne_nil hrest
        rwa [List.getLast?_cons_cons] at hlast
      simp only [hempty, hempty', Bool.false_eq_true, if_false]
      split
      · exact ih hrest hlast' _
      · split
        · exact ih hrest hlast' _
        · exact ih hrest hlast' _

/-- **A name behind whatever segments is the last one of what they are resolved to.** -/
theorem getLast?_resolve_append (hkind : kind ≠ .file) (hname : IsName name)
    (parts done : List String) : (resolve kind done (parts ++ [name])).getLast? = some name := by
  induction parts generalizing done with
  | nil => rw [List.nil_append, resolve_singleton hkind hname, List.getLast?_concat]
  | cons s rest ih =>
    rw [List.cons_append, resolve]
    split
    · exact ih _
    · split <;> exact ih _

end

/-! ### Reading -/

/-- What does not end in a separator has something in its last part. -/
theorem getLast?_splitOn_ne {separator : Char} {cs : List Char} (hne : cs ≠ [])
    (hlast : cs.getLast? ≠ some separator) : (splitOn separator cs).getLast? ≠ some [] := by
  induction cs with
  | nil => exact absurd rfl hne
  | cons c rest ih =>
    by_cases hrest : rest = []
    · -- the last character, which is no separator
      subst hrest
      have hc : c ≠ separator := by
        rintro rfl
        exact hlast rfl
      rw [splitOn_eq_singleton (by simpa using hc.symm)]
      simp
    · -- the last part of the whole is the last part of the rest
      have hlast' : rest.getLast? ≠ some separator := by
        obtain ⟨d, rest, rfl⟩ := List.exists_cons_of_ne_nil hrest
        rwa [List.getLast?_cons_cons] at hlast
      have hparts := ih hrest hlast'
      -- a character more changes the first part of the rest at most
      obtain ⟨part, parts, hsplit⟩ := List.exists_cons_of_ne_nil (splitOn_ne_nil separator rest)
      rw [splitOn]
      rw [hsplit] at hparts ⊢
      split
      · rwa [List.getLast?_cons_cons]
      · cases parts with
        | nil => simp
        | cons next parts =>
          rw [List.getLast?_cons_cons] at hparts
          rwa [List.getLast?_cons_cons]

/-- Nothing is escaped to nothing. -/
theorem escape_ne_empty {cs : List Char} (h : cs ≠ []) (keep : Char → Bool) :
    Percent.escape keep cs ≠ "" := by
  obtain ⟨c, rest, rfl⟩ := List.exists_cons_of_ne_nil h
  have hchar : Percent.encodeChar keep c ≠ [] := by
    rw [Percent.encodeChar]
    split
    · exact List.cons_ne_nil _ _
    · -- a character has a byte, and a byte an escape
      rw [Utf8.encodeChar]
      split
      · exact List.cons_ne_nil _ _
      · split
        · exact List.cons_ne_nil _ _
        · split <;> exact List.cons_ne_nil _ _
  intro hempty
  rw [Percent.escape, Percent.encodeChars, List.flatMap_cons] at hempty
  have hnil := congrArg String.toList hempty
  rw [String.toList_ofList] at hnil
  exact hchar (List.append_eq_nil_iff.mp hnil).1

/-- What is kept is not escaped. -/
theorem escape_of_forall {keep : Char → Bool} {cs : List Char} (h : ∀ c ∈ cs, keep c = true) :
    Percent.escape keep cs = String.ofList cs := by
  have hchars : Percent.encodeChars keep cs = cs := by
    rw [Percent.encodeChars]
    induction cs with
    | nil => rfl
    | cons c rest ih =>
      rw [List.flatMap_cons, ih fun d hd => h d (List.mem_cons_of_mem _ hd), Percent.encodeChar,
        if_pos (h c List.mem_cons_self)]
      rfl
  rw [Percent.escape, hchars]

/-- A character of a path, where all that separates segments is taken for `/`. -/
def SchemeKind.slashed (kind : SchemeKind) (c : Char) : Char := if kind.isSlash c then '/' else c

section

variable {kind : SchemeKind} {name : String}

theorem readSegments_eq (kind : SchemeKind) (cs : List Char) :
    readSegments kind cs =
      resolve kind [] ((splitOn '/' (cs.map kind.slashed)).map (Percent.escape isPathChar)) :=
  rfl

theorem isSlash_slash (kind : SchemeKind) : kind.isSlash '/' = true := by
  rw [SchemeKind.isSlash, beq_self_eq_true, Bool.true_or]

theorem slashed_ne {c : Char} (h : kind.isSlash c = false) : kind.slashed c ≠ '/' := by
  rw [SchemeKind.slashed, h, if_neg Bool.false_ne_true]
  rintro rfl
  rw [isSlash_slash] at h
  cases h

/-- A name is one segment as it is. -/
theorem splitOn_name (hname : IsName name) (kind : SchemeKind) :
    (splitOn '/' (name.toList.map kind.slashed)).map (Percent.escape isPathChar) = [name] := by
  have hplain : name.toList.map kind.slashed = name.toList := by
    rw [List.map_congr_left (g := id), List.map_id]
    intro c hc
    obtain ⟨hslash, hbackslash⟩ := hname.plain c hc
    simp [SchemeKind.slashed, SchemeKind.isSlash, hslash, hbackslash]
  rw [hplain, splitOn_eq_singleton fun h => (hname.plain _ h).1 rfl, List.map_singleton,
    hname.escape]

/-- A name behind a slash is a part of its own. -/
theorem readSegments_append_eq (kind : SchemeKind) (hname : IsName name) (cs : List Char) :
    readSegments kind (cs ++ '/' :: name.toList) = resolve kind []
      ((splitOn '/' (cs.map kind.slashed)).map (Percent.escape isPathChar) ++ [name]) := by
  have hslash : kind.slashed '/' = '/' := if_pos (isSlash_slash kind)
  rw [readSegments_eq, List.map_append, List.map_cons, hslash, splitOn_append_separator,
    List.map_append, splitOn_name hname]

/-- A name behind a slash is the last of the segments. -/
theorem readSegments_append (hkind : kind ≠ .file) (hname : IsName name) {cs : List Char}
    (hne : cs ≠ []) (hlast : ∀ c, cs.getLast? = some c → kind.isSlash c = false) :
    readSegments kind (cs ++ '/' :: name.toList) = childSegments (readSegments kind cs) name := by
  have hend : (cs.map kind.slashed).getLast? ≠ some '/' := by
    rw [List.getLast?_map]
    intro h
    obtain ⟨c, hc, hslashed⟩ := Option.map_eq_some_iff.mp h
    exact slashed_ne (hlast c hc) hslashed
  rw [readSegments_append_eq kind hname, readSegments_eq]
  refine resolve_append hkind hname ?_ ?_ []
  · exact fun h => splitOn_ne_nil _ _ (List.map_eq_nil_iff.mp h)
  · -- the last part of the characters is not empty, nor is it when it is escaped
    rw [List.getLast?_map]
    intro h
    obtain ⟨part, hpart, hescape⟩ := Option.map_eq_some_iff.mp h
    refine escape_ne_empty ?_ _ hescape
    rintro rfl
    exact getLast?_splitOn_ne (fun h => hne (List.map_eq_nil_iff.mp h)) hend hpart

theorem readPath_slash (kind : SchemeKind) (cs : List Char) :
    readPath kind ('/' :: cs) = .rooted (readSegments kind cs) := by
  rw [readPath, if_pos (isSlash_slash kind)]

/-- **A name below a path is read as such.** The path is empty, or it has a root and does not end in
a slash. -/
theorem readPath_append (hkind : kind ≠ .file) (hspecial : kind.isSpecial = true)
    (hname : IsName name) {cs : List Char} (hroot : cs = [] ∨ cs.head? = some '/')
    (hlast : ∀ c, cs.getLast? = some c → kind.isSlash c = false) :
    readPath kind (cs ++ '/' :: name.toList) = (readPath kind cs).child name := by
  cases cs with
  | nil =>
    -- a path that is empty has one empty segment
    have hsingle : readSegments kind name.toList = [name] := by
      rw [readSegments_eq, splitOn_name hname, resolve_singleton hkind hname]
      rfl
    rw [List.nil_append, readPath_slash, hsingle, readPath, hspecial]
    rfl
  | cons c rest =>
    -- behind the root stands something, since the path does not end in a slash
    obtain rfl : c = '/' := by
      rcases hroot with h | h
      · cases h
      · exact Option.some.inj h
    have hrest : rest ≠ [] := by
      rintro rfl
      cases (isSlash_slash kind).symm.trans (hlast '/' rfl)
    have hlast' : ∀ c, rest.getLast? = some c → kind.isSlash c = false := by
      obtain ⟨d, rest, rfl⟩ := List.exists_cons_of_ne_nil hrest
      intro c hc
      exact hlast c (by rwa [List.getLast?_cons_cons])
    rw [List.cons_append, readPath_slash, readSegments_append hkind hname hrest hlast',
      readPath_slash]
    rfl

/-- **A name behind a path is its last segment**, whatever the path ends in. -/
theorem exists_readPath_append (hkind : kind ≠ .file) (hname : IsName name) {cs : List Char}
    (hroot : cs = [] ∨ cs.head? = some '/') :
    ∃ segments, readPath kind (cs ++ '/' :: name.toList) = .rooted segments ∧
      segments.getLast? = some name := by
  -- an empty path has the name for its only segment
  cases cs with
  | nil =>
    refine ⟨_, readPath_slash kind name.toList, ?_⟩
    rw [readSegments_eq, splitOn_name hname]
    exact getLast?_resolve_append hkind hname [] []
  | cons c rest =>
    obtain rfl : c = '/' := by
      rcases hroot with h | h
      · cases h
      · exact Option.some.inj h
    rw [List.cons_append]
    refine ⟨_, readPath_slash kind _, ?_⟩
    rw [readSegments_append_eq kind hname]
    exact getLast?_resolve_append hkind hname _ []

end

end Itinerary.Url
