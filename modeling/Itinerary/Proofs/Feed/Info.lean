import Itinerary.Proofs.Feed.Journey
import Itinerary.Text.Split

/-!
# The info of a ride

An info has a line for each note that says something, and below these one for each disruption that
does. It would go wrong in small ways: a line break left over where an entry is blank, one in front
of the first line, or two infos that are joined where one of them is absent. What keeps all of this
out is that a line is never blank and has no blank at either end (`IsLine`), and that an info is
absent just if it has no lines (`shown`), so that what is below another is below it even where one
of the two is absent (`shown_append`).

The lines of notes and of disruptions are chosen one by one, so they can be parted anywhere
(`infoLines_append`, `infoLines_append_notes`).
-/

namespace Itinerary

open Text

/-! ### Lines -/

/-- Whether a text can stand on a line: it has a first and a last character, and neither is a
blank. -/
structure IsLine (s : String) : Prop where
  first : ∃ c, s.toList.head? = some c ∧ isBlank c = false
  last : ∃ c, s.toList.getLast? = some c ∧ isBlank c = false

/-- What is left of a text that is not blank can stand on a line. -/
theorem isLine_trim {s : String} (h : isBlankText s = false) : IsLine (trim s) := by
  -- a text that is not blank has something left
  have hne : trimChars s.toList ≠ [] := by
    intro hnil
    have hblank := isBlankText_trim h
    rw [isBlankText, toList_trim, hnil] at hblank
    cases hblank
  constructor
  · have hhead := List.head?_eq_some_head hne
    rw [toList_trim]
    exact ⟨_, hhead, endsBefore_trimChars _ _ hhead⟩
  · have hlast := List.getLast?_eq_some_getLast hne
    rw [toList_trim]
    refine ⟨_, hlast, endsBefore_reverse_trimChars s.toList _ ?_⟩
    rw [List.head?_reverse, hlast]

/-- Whatever stands between two lines, the ends are theirs. -/
theorem IsLine.append {s t : String} (hs : IsLine s) (ht : IsLine t) (between : String) :
    IsLine (s ++ between ++ t) := by
  obtain ⟨c, hc, hblank⟩ := hs.first
  obtain ⟨d, hd, hblank'⟩ := ht.last
  constructor
  · refine ⟨c, ?_, hblank⟩
    rw [String.toList_append, String.toList_append, List.head?_append, List.head?_append, hc]
    rfl
  · refine ⟨d, ?_, hblank'⟩
    rw [String.toList_append, List.getLast?_append, hd, Option.some_or]

theorem isLine_intercalate {lines : List String} (hne : lines ≠ []) (h : ∀ s ∈ lines, IsLine s)
    (between : String) : IsLine (between.intercalate lines) := by
  induction lines with
  | nil => exact absurd rfl hne
  | cons s rest ih =>
    obtain ⟨hs, hrest⟩ := List.forall_mem_cons.mp h
    by_cases hnil : rest = []
    · rw [hnil, String.intercalate_singleton]
      exact hs
    · rw [String.intercalate_cons_of_ne_nil hnil]
      exact hs.append (ih hnil hrest) between

/-- **The parts of some lines are the parts of each of them**, in order. -/
theorem splitOn_intercalate {lines : List String} (hne : lines ≠ []) :
    splitOn '\n' (String.intercalate "\n" lines).toList =
      lines.flatMap fun s => splitOn '\n' s.toList := by
  induction lines with
  | nil => exact absurd rfl hne
  | cons s rest ih =>
    -- the last line has no break behind it
    by_cases hnil : rest = []
    · rw [hnil, String.intercalate_singleton, List.flatMap_singleton]
    · have hjoined : (s ++ "\n" ++ String.intercalate "\n" rest).toList =
          s.toList ++ '\n' :: (String.intercalate "\n" rest).toList := by
        rw [String.toList_append, String.toList_append, List.append_assoc]
        rfl
      rw [String.intercalate_cons_of_ne_nil hnil, hjoined, splitOn_append_separator, ih hnil,
        List.flatMap_cons]

/-! ### Texts that say something -/

/-- Whether a text is absent or blank. -/
def SaysNothing (s : Option String) : Prop := ∀ t, s = some t → isBlankText t = true

/-- Whether a text is there and not blank, and this without the blanks around it. -/
def Says (s : Option String) (line : String) : Prop :=
  ∃ t, s = some t ∧ isBlankText t = false ∧ trim t = line

theorem nonBlank?_eq_some_iff {s : Option String} {line : String} :
    nonBlank? s = some line ↔ Says s line := by
  rw [nonBlank?, Option.filter_eq_some_iff, Option.map_eq_some_iff]
  constructor
  · rintro ⟨⟨t, ht, rfl⟩, hempty⟩
    rw [Bool.not_eq_true', isEmpty_trim] at hempty
    exact ⟨t, ht, hempty, rfl⟩
  · rintro ⟨t, ht, hblank, rfl⟩
    refine ⟨⟨t, ht, rfl⟩, ?_⟩
    rw [Bool.not_eq_true', isEmpty_trim, hblank]

theorem nonBlank?_eq_none_iff {s : Option String} : nonBlank? s = none ↔ SaysNothing s := by
  rw [Option.eq_none_iff_forall_ne_some]
  constructor
  · intro h t ht
    by_contra hblank
    exact h (trim t) (nonBlank?_eq_some_iff.mpr ⟨t, ht, Bool.eq_false_iff.mpr hblank, rfl⟩)
  · intro h line hline
    obtain ⟨t, ht, hblank, -⟩ := nonBlank?_eq_some_iff.mp hline
    rw [h t ht] at hblank
    cases hblank

theorem isLine_of_says {s : Option String} {line : String} (h : Says s line) : IsLine line := by
  obtain ⟨t, -, hblank, rfl⟩ := h
  exact isLine_trim hblank

namespace Disruption

/-- Whether neither the heading of an alert says anything nor its lead. -/
def SaysNothing (d : Disruption) : Prop :=
  Itinerary.SaysNothing d.header ∧ Itinerary.SaysNothing d.lead

theorem summary?_eq_none_iff {d : Disruption} : d.summary? = none ↔ d.SaysNothing := by
  rw [SaysNothing, ← nonBlank?_eq_none_iff, ← nonBlank?_eq_none_iff, summary?]
  cases nonBlank? d.header with
  | none => exact ⟨fun h => ⟨rfl, h⟩, And.right⟩
  | some h => cases nonBlank? d.lead <;> exact ⟨nofun, nofun⟩

/-- The line that a disruption says: its heading and its lead, or the one of them that says
something. -/
inductive Says (d : Disruption) : String → Prop where
  | both {header lead : String} (hheader : Itinerary.Says d.header header)
    (hlead : Itinerary.Says d.lead lead) : Says d (header ++ ": " ++ lead)
  | header {header : String} (hheader : Itinerary.Says d.header header)
    (hlead : Itinerary.SaysNothing d.lead) : Says d header
  | lead {lead : String} (hheader : Itinerary.SaysNothing d.header)
    (hlead : Itinerary.Says d.lead lead) : Says d lead

/-- **A disruption is summed up in the line that it says.** -/
theorem summary?_eq_some_iff {d : Disruption} {line : String} :
    d.summary? = some line ↔ d.Says line := by
  rw [summary?]
  constructor
  · intro h
    -- by which of the two texts is not blank
    split at h
    · next hheader hlead =>
      cases h
      exact .both (nonBlank?_eq_some_iff.mp hheader) (nonBlank?_eq_some_iff.mp hlead)
    · next hheader hlead =>
      cases h
      exact .header (nonBlank?_eq_some_iff.mp hheader) (nonBlank?_eq_none_iff.mp hlead)
    · next hheader =>
      exact .lead (nonBlank?_eq_none_iff.mp hheader) (nonBlank?_eq_some_iff.mp h)
  · rintro (⟨hheader, hlead⟩ | ⟨hheader, hlead⟩ | ⟨hheader, hlead⟩)
    · rw [nonBlank?_eq_some_iff.mpr hheader, nonBlank?_eq_some_iff.mpr hlead]
    · rw [nonBlank?_eq_some_iff.mpr hheader, nonBlank?_eq_none_iff.mpr hlead]
    · rw [nonBlank?_eq_none_iff.mpr hheader]
      exact nonBlank?_eq_some_iff.mpr hlead

theorem Says.isLine {d : Disruption} {line : String} (h : d.Says line) : IsLine line := by
  rcases h with ⟨hheader, hlead⟩ | ⟨hheader, -⟩ | ⟨-, hlead⟩
  · exact (Itinerary.isLine_of_says hheader).append (Itinerary.isLine_of_says hlead) ": "
  · exact Itinerary.isLine_of_says hheader
  · exact Itinerary.isLine_of_says hlead

end Disruption

namespace Feed

/-! ### Infos -/

/-- The info of some lines. -/
def shown (lines : List String) : Option String :=
  if lines = [] then none else some (String.intercalate "\n" lines)

/-- An info with another one below it, either of which may be absent. -/
def above : Option String → Option String → Option String
  | some upper, some lower => some (upper ++ "\n" ++ lower)
  | some upper, none => some upper
  | none, lower => lower

/-- **Lines below other lines** are an info below another. -/
theorem shown_append (upper lower : List String) :
    shown (upper ++ lower) = above (shown upper) (shown lower) := by
  -- without lines on one side there is no break in between
  by_cases hupper : upper = []
  · subst hupper
    rfl
  by_cases hlower : lower = []
  · subst hlower
    rw [List.append_nil, shown, if_neg hupper]
    rfl
  have hne : upper ++ lower ≠ [] := List.append_ne_nil_of_left_ne_nil hupper lower
  rw [shown, shown, shown, if_neg hupper, if_neg hlower, if_neg hne,
    String.intercalate_append_of_ne_nil hupper hlower, above]

theorem infoOf_eq (notes : List Note) (ds : List Disruption) :
    infoOf notes ds = shown (infoLines notes ds) := by
  rw [infoOf, shown]
  cases infoLines notes ds <;> rfl

theorem infoLines_append (notes : List Note) (ds ds' : List Disruption) :
    infoLines notes (ds ++ ds') = infoLines notes ds ++ infoLines [] ds' := by
  rw [infoLines, infoLines, infoLines, List.filterMap_append, List.append_assoc,
    List.filterMap_nil, List.nil_append]

theorem infoLines_append_notes (notes notes' : List Note) (ds : List Disruption) :
    infoLines (notes ++ notes') ds = infoLines notes [] ++ infoLines notes' ds := by
  rw [infoLines, infoLines, infoLines, List.filterMap_append, List.append_assoc,
    List.filterMap_nil, List.append_nil]

/-- **Each line is what a note says or what a disruption says.** -/
theorem mem_infoLines {notes : List Note} {ds : List Disruption} {line : String} :
    line ∈ infoLines notes ds ↔
      (∃ n ∈ notes, Says n.text? line) ∨ ∃ d ∈ ds, d.Says line := by
  rw [infoLines, List.mem_append, List.mem_filterMap, List.mem_filterMap]
  simp only [nonBlank?_eq_some_iff, Disruption.summary?_eq_some_iff]

theorem isLine_of_mem_infoLines {notes : List Note} {ds : List Disruption} {line : String}
    (h : line ∈ infoLines notes ds) : IsLine line := by
  rcases mem_infoLines.mp h with ⟨n, -, hn⟩ | ⟨d, -, hd⟩
  · exact isLine_of_says hn
  · exact hd.isLine

theorem infoOf_eq_none_iff {notes : List Note} {ds : List Disruption} :
    infoOf notes ds = none ↔
      (∀ n ∈ notes, SaysNothing n.text?) ∧ ∀ d ∈ ds, d.SaysNothing := by
  have hlines : infoOf notes ds = none ↔ infoLines notes ds = [] := by
    rw [infoOf_eq, shown]
    split
    · next hnil => exact ⟨fun _ => hnil, fun _ => rfl⟩
    · next hne => exact ⟨nofun, fun hnil => absurd hnil hne⟩
  -- there is no line exactly if no entry gives one
  rw [hlines, infoLines, List.append_eq_nil_iff, List.filterMap_eq_nil_iff,
    List.filterMap_eq_nil_iff]
  simp only [nonBlank?_eq_none_iff, Disruption.summary?_eq_none_iff]

/-- What an info shows: some lines in order, none of them blank. -/
structure Shows (info : Option String) (lines : List String) : Prop where
  joined : info = shown lines
  /-- no line is blank, nor starts or ends with a blank -/
  filled : ∀ line ∈ lines, IsLine line
  /-- between line breaks stand the lines, so no line is empty unless one is that comes with an
  entry -/
  cut : ∀ s, info = some s →
    splitOn '\n' s.toList = lines.flatMap fun line => splitOn '\n' line.toList

theorem shows_infoOf (notes : List Note) (ds : List Disruption) :
    Shows (infoOf notes ds) (infoLines notes ds) where
  joined := infoOf_eq notes ds
  filled _ := isLine_of_mem_infoLines
  cut s hs := by
    rw [infoOf_eq, shown] at hs
    split at hs
    · cases hs
    · next hne =>
      obtain rfl := Option.some.inj hs
      exact splitOn_intercalate hne

theorem isLine_of_infoOf {notes : List Note} {ds : List Disruption} {s : String}
    (h : infoOf notes ds = some s) : IsLine s := by
  rw [infoOf_eq, shown] at h
  split at h
  · cases h
  · next hne =>
    obtain rfl := Option.some.inj h
    exact isLine_intercalate hne (fun _ => isLine_of_mem_infoLines) "\n"

/-! ### Rides -/

/-- The info of a ride is that of its notes and of the disruptions of its leg and around it. -/
theorem info_of_interpret {l : Leg} {around : List Disruption} {r : Ride}
    (h : l.interpret around = .ok (some (.ride r))) :
    r.info = infoOf l.notes (disruptionsOf l.alerts ++ around) := by
  obtain ⟨exit, departure, arrival, hride⟩ := Leg.rideOf_of_interpret h
  obtain ⟨_, _, _, _, _, _, heq⟩ := rideOf_ok hride
  cases heq
  rfl

/-- **An info is a line for each entry that says something.** More disruptions add their info below,
and more notes add theirs above; an info is absent exactly if no note and no disruption says
anything, and where there is one it neither starts nor ends with a blank. So a ride shows its notes,
then the alerts of its leg, then those of its connection, each in order and each on a line of its
own, and nothing where an entry is blank. -/
theorem infoOf_lines (notes notes' : List Note) (ds ds' : List Disruption) :
    infoOf notes (ds ++ ds') = above (infoOf notes ds) (infoOf [] ds') ∧
    infoOf (notes ++ notes') ds = above (infoOf notes []) (infoOf notes' ds) ∧
    (infoOf notes ds = none ↔
      (∀ n ∈ notes, SaysNothing n.text?) ∧ ∀ d ∈ ds, d.SaysNothing) ∧
    (∀ s, infoOf notes ds = some s → IsLine s) ∧
    ∀ (c : Connection) (id : TripId) (t : Trip), c.interpret id = .ok t →
      List.Forall₂ (fun l leg => ∀ r : Ride, leg = .ride r →
        Shows r.info (l.notes.filterMap (fun n => nonBlank? n.text?) ++
          (disruptionsOf l.alerts).filterMap Disruption.summary? ++
          (disruptionsOf c.alerts).filterMap Disruption.summary?))
        (c.legs.filter fun l => l.exit.isSome) t.legs := by
  refine ⟨?below, ?above, infoOf_eq_none_iff, fun s => isLine_of_infoOf, ?rides⟩
  case below => rw [infoOf_eq, infoLines_append, shown_append, infoOf_eq, infoOf_eq]
  case above => rw [infoOf_eq, infoLines_append_notes, shown_append, infoOf_eq, infoOf_eq]
  case rides =>
    intro c id t ht
    refine (Connection.journey_of_interpret ht).legs.imp ?_
    -- the legs of the trip are in step with the proper legs, and each ride has the info of its own
    rintro l leg ⟨hl, -⟩ r rfl
    rw [info_of_interpret hl, List.append_assoc, ← List.filterMap_append]
    exact shows_infoOf _ _

/-- An alert with a heading and a lead. -/
def alertOf (header lead : String) : Alert := ⟨none, some header, some lead, none, none⟩

/-- A leg by train with two notes, a blank one between them, and an alert. -/
def legWithAlert : Leg :=
  { Leg.blank with
    kind := some "strain"
    stopId := some "1"
    departure := some "2024-03-01 08:05:00"
    notes := [.plain " Reservation ", .plain " ", .wrapped (some "Bikes")]
    alerts := some (Keyed.ofList [("1", alertOf "Olten" "Works ")])
    exit := some (Exit.atStation "2" "2024-03-01 08:45:00" none) }

/-- A connection with an alert of its own. -/
def trainWithAlerts : Connection where
  origin := none
  destination := none
  duration := none
  departure := none
  arrival := none
  alerts := some (Keyed.ofList [("2", alertOf " " "Strike")])
  legs := [legWithAlert]

theorem infoOf_lines_trainWithAlerts :
    ∃ t r, trainWithAlerts.interpret ⟨"trip-0"⟩ = .ok t ∧ t.legs = [.ride r] ∧
      Shows r.info ["Reservation", "Bikes", "Olten: Works", "Strike"] := by
  obtain ⟨t, ht⟩ : ∃ t, trainWithAlerts.interpret ⟨"trip-0"⟩ = .ok t :=
    exists_eq_ok (by decide +kernel)
  obtain ⟨-, -, -, -, hrides⟩ := infoOf_lines [] [] [] []
  have hlegs := hrides trainWithAlerts ⟨"trip-0"⟩ t ht
  obtain ⟨leg, rest, hleg, hrest, heq⟩ :=
    List.forall₂_cons_left_iff.mp (hrides trainWithAlerts ⟨"trip-0"⟩ t ht)
  obtain rfl := List.forall₂_nil_left_iff.mp hrest
  cases leg with
  | walk w =>
    -- a trip has a ride
    refine absurd ?_ t.rides_ne_nil
    rw [Trip.rides, heq]
    rfl
  | ride r =>
    have hlines : legWithAlert.notes.filterMap (fun n => nonBlank? n.text?) ++
        (disruptionsOf legWithAlert.alerts).filterMap Disruption.summary? ++
        (disruptionsOf trainWithAlerts.alerts).filterMap Disruption.summary? =
          ["Reservation", "Bikes", "Olten: Works", "Strike"] := by
      decide
    exact ⟨t, r, ht, heq, hlines ▸ hleg r rfl⟩

example : infoOf [.plain " Reservation ", .plain " ", .wrapped (some "Bikes")]
    [⟨"a", none, some "Olten", some "Works ", none, none⟩] =
      some "Reservation\nBikes\nOlten: Works" := by decide

end Feed

end Itinerary
