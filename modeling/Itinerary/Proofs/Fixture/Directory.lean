import Mathlib.Data.Bool.AllAny
import Itinerary.Fixture.Directory
import Itinerary.Proofs.Fixture.Lineage
import Itinerary.Proofs.Url.Base

/-!
# Which files of a directory are served

A file is loaded under its name without the ending `.json`, and asked for by an address that ends in
its name. Loading takes one ending off (`stem?_eq_some_iff`). A request takes all of them off, so it
never asks for an endpoint that ends in `.json` itself (`not_isJson_endpointOfSegment`). The two
meet exactly where the name has one ending (`endpointOfSegment_append_eq_iff`). There the file is
served, in whatever order the directory lists its files and whatever else it holds
(`ofDirectory_serves`). A file whose name has two endings is loaded and never served, and what is
asked for by its name is the file with one of them less, if there is one.
-/

namespace Itinerary

/-! ### Endings -/

/-- Whether a name ends in `.json`. -/
def IsJson (name : String) : Prop := ".json".toList <:+ name.toList

instance : DecidablePred IsJson := fun name =>
  inferInstanceAs (Decidable (".json".toList <:+ name.toList))

theorem isJson_append (stem : String) : IsJson (stem ++ ".json") :=
  ⟨stem.toList, String.toList_append.symm⟩

theorem IsJson.exists_stem {name : String} (h : IsJson name) : ∃ stem, name = stem ++ ".json" := by
  obtain ⟨stem, hstem⟩ := h
  refine ⟨String.ofList stem, String.toList_inj.mp ?_⟩
  simp [← hstem]

/-- What is left of reversed characters does not start with another ending. -/
theorem not_isPrefix_dropJsonEndings (cs : List Char) :
    ¬ ".json".toList.reverse <+: dropJsonEndings cs := by
  fun_induction dropJsonEndings cs with
  | case1 rest ih => exact ih
  | case2 cs hcs =>
    rintro ⟨rest, rfl⟩
    exact hcs rest rfl

/-- Reversed characters that do not start with an ending are left as they are. -/
theorem dropJsonEndings_of_not_isPrefix {cs : List Char} (h : ¬ ".json".toList.reverse <+: cs) :
    dropJsonEndings cs = cs := by
  rw [dropJsonEndings.eq_def]
  split
  · exact absurd ⟨_, rfl⟩ h
  · rfl

/-- **No endpoint that is asked for ends in `.json`.** -/
theorem not_isJson_endpointOfSegment (segment : String) : ¬ IsJson (endpointOfSegment segment) := by
  have hleft : (endpointOfSegment segment).toList =
      (dropJsonEndings segment.toList.reverse).reverse := String.toList_ofList
  rw [IsJson, ← List.reverse_prefix, hleft, List.reverse_reverse]
  exact not_isPrefix_dropJsonEndings _

theorem endpointOfSegment_append (stem : String) :
    endpointOfSegment (stem ++ ".json") = endpointOfSegment stem := by
  rw [endpointOfSegment, String.toList_append, List.reverse_append]
  rfl

/-- **A name with one ending asks for what stands in front of it**, and no other name does. -/
theorem endpointOfSegment_append_eq_iff {stem : String} :
    endpointOfSegment (stem ++ ".json") = stem ↔ ¬ IsJson stem := by
  rw [endpointOfSegment_append]
  constructor
  · intro h
    rw [← h]
    exact not_isJson_endpointOfSegment stem
  · intro h
    rw [IsJson, ← List.reverse_prefix] at h
    rw [endpointOfSegment, dropJsonEndings_of_not_isPrefix h, List.reverse_reverse,
      String.ofList_toList]

theorem Url.endpoint_of_lastSegment? {u : Url} {segment : String}
    (h : u.lastSegment? = some segment) : u.endpoint = endpointOfSegment segment := by
  rw [Url.endpoint, h]
  rfl

namespace Fixture

/-- **A file is loaded under what stands in front of one ending**, unless that is nothing. -/
theorem stem?_eq_some_iff {name stem : String} :
    stem? name = some stem ↔ name = stem ++ ".json" ∧ stem ≠ "" := by
  constructor
  · intro h
    rw [stem?] at h
    split at h
    · next rest hrest =>
      split at h
      · cases h
      · next hne =>
        obtain rfl := Option.some.inj h
        -- the reversed name starts with the ending, so the name ends in it
        have hname : name.toList = (String.ofList rest.reverse ++ ".json").toList := by
          rw [List.reverse_eq_iff.mp hrest]
          simp
        refine ⟨String.toList_inj.mp hname, fun hempty => hne ?_⟩
        rw [String.ofList_eq_empty_iff, List.reverse_eq_nil_iff] at hempty
        rw [hempty]
        rfl
    · cases h
  · rintro ⟨rfl, hne⟩
    -- turned round, the name shows its ending first
    have hreverse : (stem ++ ".json").toList.reverse =
        'n' :: 'o' :: 's' :: 'j' :: '.' :: stem.toList.reverse := by
      rw [String.toList_append, List.reverse_append]
      rfl
    have hstem : stem.toList.reverse.isEmpty = false := by
      rw [List.isEmpty_eq_false_iff, ne_eq, List.reverse_eq_nil_iff, String.toList_eq_nil_iff]
      exact hne
    rw [stem?, hreverse]
    simp only [hstem, Bool.false_eq_true, if_false, List.reverse_reverse, String.ofList_toList]

/-! ### Loading -/

/-- The endpoint and the body of an entry that has a body, where the body is a text. -/
def bodyOf? (e : String × Entry) : Option (String × String) :=
  (bodyFile? e.1 e.2).bind fun (endpoint, bytes) =>
    (Text.Utf8.decode? bytes).map fun body => (endpoint, body)

theorem bodyFile?_eq_some_iff {name endpoint : String} {entry : Entry} {bytes : List UInt8} :
    bodyFile? name entry = some (endpoint, bytes) ↔
      name = endpoint ++ ".json" ∧ endpoint ≠ "" ∧ entry = .file bytes := by
  cases entry with
  | directory =>
    refine ⟨fun h => (nomatch h), ?_⟩
    rintro ⟨-, -, ⟨⟩⟩
  | file found =>
    rw [bodyFile?, Option.map_eq_some_iff, ← and_assoc, ← stem?_eq_some_iff]
    constructor
    · rintro ⟨stem, hstem, ⟨⟩⟩
      exact ⟨hstem, rfl⟩
    · rintro ⟨hstem, ⟨⟩⟩
      exact ⟨endpoint, hstem, rfl⟩

theorem bodyOf?_eq_some_iff {e : String × Entry} {endpoint body : String} :
    bodyOf? e = some (endpoint, body) ↔ endpoint ≠ "" ∧
      ∃ bytes, e = (endpoint ++ ".json", .file bytes) ∧ Text.Utf8.decode? bytes = some body := by
  rw [bodyOf?, Option.bind_eq_some_iff]
  constructor
  · rintro ⟨⟨stem, bytes⟩, hfile, h⟩
    obtain ⟨text, htext, ⟨⟩⟩ := Option.map_eq_some_iff.mp h
    obtain ⟨hname, hne, hentry⟩ := bodyFile?_eq_some_iff.mp hfile
    exact ⟨hne, bytes, Prod.ext hname hentry, htext⟩
  · rintro ⟨hne, bytes, rfl, htext⟩
    exact ⟨(endpoint, bytes), bodyFile?_eq_some_iff.mpr ⟨rfl, hne, rfl⟩,
      Option.map_eq_some_iff.mpr ⟨body, htext, rfl⟩⟩

/-- **A directory is loaded body by body**, where all of its bodies are texts. -/
theorem addEntries_eq {path : String} {entries : List (String × Entry)}
    (h : ∀ e ∈ entries, ∀ endpoint bytes, bodyFile? e.1 e.2 = some (endpoint, bytes) →
      ∃ body, Text.Utf8.decode? bytes = some body) (f : Fixture) :
    addEntries path f entries =
      .ok ⟨(entries.filterMap bodyOf?).foldl (fun m e => m.insert e.1 e.2) f.bodies⟩ := by
  -- the fixture grows entry by entry, and with it the collection that is folded
  induction entries generalizing f with
  | nil => rfl
  | cons e rest ih =>
    obtain ⟨name, entry⟩ := e
    obtain ⟨hfirst, hrest⟩ := List.forall_mem_cons.mp h
    rw [addEntries]
    cases hfile : bodyFile? name entry with
    | none =>
      -- an entry without a body is passed over on both sides
      have hnone : bodyOf? (name, entry) = none := by
        rw [bodyOf?, hfile]
        rfl
      rw [List.filterMap_cons_none hnone]
      exact ih hrest f
    | some found =>
      obtain ⟨endpoint, bytes⟩ := found
      obtain ⟨body, hbody⟩ := hfirst endpoint bytes hfile
      -- the body of any other entry is put in first on both sides
      have hsome : bodyOf? (name, entry) = some (endpoint, body) := by
        rw [bodyOf?, hfile, Option.bind_some]
        exact Option.map_eq_some_iff.mpr ⟨body, hbody, rfl⟩
      rw [List.filterMap_cons_some hsome, List.foldl_cons]
      simp only [hbody]
      exact ih hrest (f.withBody endpoint body)

/-! ### Directories with bodies -/

/-- Whether what ends in `.json` in a directory are files of text, with names that can stand in an
address as they are, and one of them has something in front of that ending. Of the other entries
nothing is said, only that no two have the same name. -/
structure HoldsBodies (entries : List (String × Entry)) : Prop where
  distinct : (entries.map Prod.fst).Nodup
  text : ∀ e ∈ entries, IsJson e.1 →
    ∃ bytes body, e.2 = .file bytes ∧ Text.Utf8.decode? bytes = some body
  name : ∀ e ∈ entries, IsJson e.1 → ∀ c ∈ e.1.toList, Url.IsUnreserved c
  nonempty : ∃ e ∈ entries, IsJson e.1 ∧ e.1 ≠ ".json"

namespace HoldsBodies

variable {entries others : List (String × Entry)}

/-- No endpoint has two bodies. -/
theorem nodup_endpoints (h : HoldsBodies entries) :
    ((entries.filterMap bodyOf?).map Prod.fst).Nodup := by
  have hdistinct : entries.Pairwise fun a b => a.1 ≠ b.1 := List.pairwise_map.mp h.distinct
  refine List.pairwise_map.mpr (hdistinct.filterMap _ ?_)
  rintro a b hne ⟨endpoint, body⟩ ha ⟨endpoint', body'⟩ hb (rfl : endpoint = endpoint')
  -- two files with bodies for one endpoint would have one name
  obtain ⟨-, bytes, rfl, -⟩ := bodyOf?_eq_some_iff.mp ha
  obtain ⟨-, bytes', rfl, -⟩ := bodyOf?_eq_some_iff.mp hb
  exact hne rfl

/-- The bodies are those of the files. -/
theorem mem_bodies_iff {endpoint body : String} :
    (endpoint, body) ∈ entries.filterMap bodyOf? ↔ endpoint ≠ "" ∧
      ∃ bytes, (endpoint ++ ".json", .file bytes) ∈ entries ∧
        Text.Utf8.decode? bytes = some body := by
  rw [List.mem_filterMap]
  constructor
  · rintro ⟨e, he, hbody⟩
    obtain ⟨hne, bytes, rfl, htext⟩ := bodyOf?_eq_some_iff.mp hbody
    exact ⟨hne, bytes, he, htext⟩
  · rintro ⟨hne, bytes, he, htext⟩
    exact ⟨_, he, bodyOf?_eq_some_iff.mpr ⟨hne, bytes, rfl, htext⟩⟩

/-- Something is found for an endpoint exactly if there is a file for it. -/
theorem find?_eq_some_iff (h : HoldsBodies entries) {endpoint body : String} :
    (Keyed.ofList (entries.filterMap bodyOf?)).find? endpoint = some body ↔ endpoint ≠ "" ∧
      ∃ bytes, (endpoint ++ ".json", .file bytes) ∈ entries ∧
        Text.Utf8.decode? bytes = some body := by
  have hnodup : ((entries.filterMap bodyOf?).reverse.map Prod.fst).Nodup := by
    rw [List.map_reverse, List.nodup_reverse]
    exact h.nodup_endpoints
  rw [Keyed.find?_ofList, lookup_eq_some_iff_mem hnodup, List.mem_reverse, mem_bodies_iff]

/-- **A directory makes the same fixture in whatever order it lists its entries.** -/
theorem ofDirectory_eq (h : HoldsBodies entries) (path : String) (hperm : others.Perm entries) :
    ofDirectory path (some others) = .ok ⟨Keyed.ofList (entries.filterMap bodyOf?)⟩ := by
  -- every entry that has a body is a text, in the other order too
  have htexts : ∀ e ∈ others, ∀ endpoint bytes, bodyFile? e.1 e.2 = some (endpoint, bytes) →
      ∃ body, Text.Utf8.decode? bytes = some body := by
    rintro ⟨name, entry⟩ he endpoint bytes hfile
    obtain ⟨rfl, -, rfl⟩ := bodyFile?_eq_some_iff.mp hfile
    obtain ⟨_, body, ⟨⟩, htext⟩ := h.text _ (hperm.mem_iff.mp he) (isJson_append endpoint)
    exact ⟨body, htext⟩
  have hsame : Keyed.ofList (others.filterMap bodyOf?) = Keyed.ofList (entries.filterMap bodyOf?) :=
    (Keyed.ofList_eq_of_perm h.nodup_endpoints (hperm.filterMap bodyOf?).symm).symm
  -- one of the files has something in front of the ending, so there is a body
  obtain ⟨⟨name, entry⟩, hmem, hjson, hne⟩ := h.nonempty
  obtain ⟨bytes, body, rfl, htext⟩ := h.text _ hmem hjson
  obtain ⟨stem, rfl⟩ := hjson.exists_stem
  have hstem : stem ≠ "" := by
    rintro rfl
    exact hne rfl
  have hfound := h.find?_eq_some_iff.mpr ⟨hstem, bytes, hmem, htext⟩
  have hsome : (Keyed.ofList (entries.filterMap bodyOf?)).isEmpty = false := by
    rw [Keyed.isEmpty, List.isEmpty_eq_false_iff]
    intro hnil
    rw [Keyed.find?, hnil] at hfound
    cases hfound
  rw [ofDirectory]
  refine bind_eq_ok_iff.mpr ⟨_, addEntries_eq htexts .empty, ?_⟩
  show (if (Keyed.ofList (others.filterMap bodyOf?)).isEmpty = true then _ else
    Except.ok (Fixture.mk (Keyed.ofList (others.filterMap bodyOf?)))) = _
  rw [hsame, hsome, if_neg Bool.false_ne_true]

end HoldsBodies

/-- A name that ends in `.json` stands for itself, if nothing in it has to be escaped. -/
theorem isName_of_isJson {name : String} (hjson : IsJson name)
    (hall : ∀ c ∈ name.toList, Url.IsUnreserved c) : Url.IsName name := by
  -- what is resolved away ends otherwise
  have hlower : ∀ others : List String, (∀ other ∈ others, other.toList.getLast? ≠ some 'n') →
      others.contains (name.map Char.toLower) = false := by
    intro others hothers
    rw [Bool.eq_false_iff]
    intro hmem
    refine hothers _ (List.contains_iff_mem.mp hmem) ?_
    obtain ⟨stem, rfl⟩ := hjson.exists_stem
    rw [String.toList_map, String.toList_append, List.map_append, List.getLast?_append]
    rfl
  refine ⟨?escape, ?plain, ?notParent, ?notHere⟩
  case escape =>
    rw [Url.escape_of_forall fun c hc => (hall c hc).plain.2.1, String.ofList_toList]
  case plain => exact fun c hc => (hall c hc).plain.2.2
  case notParent => exact hlower _ (by decide)
  case notHere => exact hlower _ (by decide)

/-- **Which files of a directory are served.** A directory whose files in JSON are texts with plain
names makes a fixture, the same in whatever order it lists its entries and whatever else it holds.
An address is answered with the file that has its endpoint in front of the ending `.json`, and with
nothing if there is none. So a file is served under its own name, below every base, if that ends in
`.json` once; if it ends so twice, the file is never asked for at all. -/
theorem ofDirectory_serves (path : String) {entries : List (String × Entry)}
    (h : HoldsBodies entries) :
    ∃ f, (∀ others : List (String × Entry), others.Perm entries →
        ofDirectory path (some others) = .ok f) ∧
      (∀ (u : Url) (body : String), f.reply u = .ok body ↔ u.endpoint ≠ "" ∧
        ∃ bytes, (u.endpoint ++ ".json", .file bytes) ∈ entries ∧
          Text.Utf8.decode? bytes = some body) ∧
      (∀ stem bytes body, stem ≠ "" → ¬ IsJson stem →
        (stem ++ ".json", .file bytes) ∈ entries → Text.Utf8.decode? bytes = some body →
        (∀ u : Url, u.lastSegment? = some (stem ++ ".json") → f.reply u = .ok body) ∧
        ∀ base s, Url.IsBaseOf base s →
          ∃ u, Url.parse (s ++ "/" ++ (stem ++ ".json")) = .ok u ∧ f.reply u = .ok body) ∧
      ∀ stem, IsJson stem → ∀ u : Url, u.endpoint ≠ stem := by
  -- the fixture has a body for each stem, so a reply is a file with the stem of its endpoint
  have hreply : ∀ (u : Url) (body : String),
      (Fixture.mk (Keyed.ofList (entries.filterMap bodyOf?))).reply u = .ok body ↔
        u.endpoint ≠ "" ∧ ∃ bytes, (u.endpoint ++ ".json", .file bytes) ∈ entries ∧
          Text.Utf8.decode? bytes = some body := fun u body =>
    reply_eq_ok_iff.trans h.find?_eq_some_iff
  refine ⟨⟨Keyed.ofList (entries.filterMap bodyOf?)⟩, fun others => h.ofDirectory_eq path, hreply,
    ?served, ?unasked⟩
  case served =>
    intro stem bytes body hne honce hmem htext
    -- an address that ends in the name of the file has its stem for an endpoint
    have hanswer : ∀ u : Url, u.lastSegment? = some (stem ++ ".json") →
        (Fixture.mk (Keyed.ofList (entries.filterMap bodyOf?))).reply u = .ok body := by
      intro u hu
      have hendpoint : u.endpoint = stem :=
        (Url.endpoint_of_lastSegment? hu).trans (endpointOfSegment_append_eq_iff.mpr honce)
      rw [hreply, hendpoint]
      exact ⟨hne, bytes, hmem, htext⟩
    refine ⟨hanswer, fun base s hbase => ?_⟩
    -- the name is plain, so it can be put behind a base as it is
    have hjson := isJson_append stem
    have hplain := h.name _ hmem hjson
    obtain ⟨u, hu, -, -, hlast⟩ :=
      hbase.exists_below (isName_of_isJson hjson hplain) fun c hc => (hplain c hc).plain.1
    exact ⟨u, hu, hanswer u hlast⟩
  case unasked =>
    -- the endpoint of an address has no ending left, and this stem has one
    rintro _ htwice u rfl
    exact not_isJson_endpointOfSegment _ htwice

theorem isUnreserved_of_all {entries : List (String × Entry)}
    (h : (entries.all fun e => e.1.toList.all (Url.IsUnreserved ·)) = true) :
    ∀ e ∈ entries, IsJson e.1 → ∀ c ∈ e.1.toList, Url.IsUnreserved c := fun e he _ c hc =>
  of_decide_eq_true (List.all_eq_true.mp (List.all_eq_true.mp h e he) c hc)

/-- A directory of a text in another encoding, a directory, a hidden file without a name in front of
its ending, and two files, one of them named by dots and signs. -/
def mixedEntries : List (String × Entry) :=
  [("notes.txt", .file [0xFF]), ("old.json.d", .directory), (".json", .file []),
    ("..~-_.json", .file [0xC3, 0xBC]), ("route.json", .file [0x7B, 0x7D])]

theorem ofDirectory_serves_mixedEntries :
    ∃ f, ofDirectory "data" (some mixedEntries.reverse) = .ok f ∧
      ∃ u, Url.parse "http://localhost/api/..~-_.json" = .ok u ∧ f.reply u = .ok "ü" := by
  -- entry by entry, those without a body aside
  have h : HoldsBodies mixedEntries := by
    refine ⟨by decide, ?_, isUnreserved_of_all (by decide),
      ⟨("route.json", .file [0x7B, 0x7D]), by decide⟩⟩
    simp only [mixedEntries, List.forall_mem_cons]
    refine ⟨fun h => absurd h (by decide), fun h => absurd h (by decide),
      fun _ => ⟨[], "", rfl, by decide +kernel⟩,
      fun _ => ⟨[0xC3, 0xBC], "ü", rfl, by decide +kernel⟩,
      fun _ => ⟨[0x7B, 0x7D], "\x7b\x7d", rfl, by decide +kernel⟩, fun e he => nomatch he⟩
  have hbase : Url.IsBaseOf
      ⟨"http", some ⟨"", "", some (.domain "localhost"), none⟩, .rooted ["api"], none, none⟩
      "http://localhost/api" :=
    ⟨by decide +kernel, .inl rfl, rfl, rfl, List.all_iff_forall_prop.mp (by decide +kernel)⟩
  obtain ⟨f, hload, -, hserved, -⟩ := ofDirectory_serves "data" h
  obtain ⟨-, hbelow⟩ := hserved "..~-_" [0xC3, 0xBC] "ü" (by decide) (by decide) (by decide)
    (by decide +kernel)
  exact ⟨f, hload _ (List.reverse_perm _), hbelow _ "http://localhost/api" hbase⟩

/-- A directory of one file, whose name has two endings. -/
def doubleEnding : List (String × Entry) := [("a.json.json", .file [0x5B, 0x5D])]

/-- A file whose name has two endings is loaded and never served: it is there under what stands in
front of one ending, and asked for by what stands in front of both. -/
theorem ofDirectory_doubleEnding :
    HoldsBodies doubleEnding ∧ ∃ f u, ofDirectory "data" (some doubleEnding) = .ok f ∧
      Url.parse "http://localhost/a.json.json" = .ok u ∧
      f.reply u = .error (.noBody "a" ["a.json"]) := by
  have h : HoldsBodies doubleEnding := by
    refine ⟨by decide, ?_, isUnreserved_of_all (by decide), ⟨_, List.mem_cons_self, by decide⟩⟩
    simp only [doubleEnding, List.forall_mem_cons]
    exact ⟨fun _ => ⟨[0x5B, 0x5D], "[]", rfl, by decide +kernel⟩, fun e he => nomatch he⟩
  refine ⟨h, _, ⟨"http", some ⟨"", "", some (.domain "localhost"), none⟩,
    .rooted ["a.json.json"], none, none⟩, h.ofDirectory_eq "data" (.refl _), ?_, ?_⟩
  · decide +kernel
  · decide +kernel

end Fixture

end Itinerary
