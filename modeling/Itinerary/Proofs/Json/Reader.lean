import Itinerary.Json.Reader
import Itinerary.Proofs.Json.Tree

/-!
# Records that are read back

A record that is written with all its fields in declared order has every field where its reader
looks for it, so reading it comes down to reading the fields (`record_record`). A field that may be
absent is read back if its values are and none of them is written as null (`nullable_optional`).

Doubles are the one thing that may change on the way, since they are read fast rather than exactly.
`CarriesOver` is said of those that do not.
-/

namespace Itinerary.Json

/-! ### Doubles -/

/-- Whether a double is read as itself from the text it is written as. -/
def CarriesOver (x : Float) : Prop := Reader.float.parse (Value.float x).write = some x

namespace Reader

theorem parse_write {α : Type} (r : Reader α) {v : Value} (h : v.Written) :
    r.parse v.write = r maxRoom v := by
  rw [parse, Value.ofString?_write h, Option.bind_some]

theorem float_float {x : Float} (h : CarriesOver x) (room : Nat) :
    float room (.float x) = some x := by
  rw [CarriesOver, parse_write float (Value.written_float x)] at h
  exact h

/-! ### Single values -/

@[simp] theorem string_string (room : Nat) (s : String) : string room (.string s) = some s :=
  Literal.plain?_ofString s

@[simp] theorem bool_bool (room : Nat) (b : Bool) : bool room (.bool b) = some b := rfl

@[simp] theorem named_string {α : Type} (choose : String → Option α) (room : Nat) (s : String) :
    named choose room (.string s) = choose s := by
  rw [Value.string, named, Literal.plain?_ofString, Option.bind_some]

/-- A count is read back within its bound. -/
theorem count_int {bound n : Nat} (h : n ≤ bound) (hbound : bound ≤ Decimal.maxCount64)
    (room : Nat) : count bound room (.int n) = some n := by
  -- an integer has no decimals and no power, so it is read as one
  have hinteger : (Numeral.ofInt n).integer? = some (n : Int) := by
    have hvalue : Decimal.value (Numeral.ofInt n).whole = n := Decimal.value_toDigits n
    have hnegative : (Numeral.ofInt n).negative = false :=
      decide_eq_false (show ¬ (n : Int) < 0 by omega)
    have hplain :
        ((Numeral.ofInt n).decimals.isEmpty && (Numeral.ofInt n).power.isNone) = true := rfl
    rw [Numeral.integer?, if_pos hplain]
    simp only [hvalue, hnegative, Bool.false_eq_true, if_false]
    rw [if_pos (Nat.le_trans h hbound)]
  rw [Value.int, count, hinteger]
  exact if_pos h

/-- A value that may be absent is read back if it is written as something other than null. -/
theorem nullable_optional {α : Type} {r : Reader α} {write : α → Value} {room : Nat}
    {o : Option α} (hnull : ∀ a, write a ≠ .null)
    (h : ∀ a, o = some a → r room (write a) = some a) :
    nullable r room (.optional write o) = some o := by
  cases o with
  | none => rfl
  | some a =>
    show nullable r room (write a) = some (some a)
    rw [nullable, h a rfl]
    · rfl
    · exact hnull a

@[simp] theorem nullable_string (room : Nat) (o : Option String) :
    nullable string room (.optional .string o) = some o :=
  nullable_optional (fun _ hs => nomatch hs) fun s _ => string_string room s

/-! ### Values taken in whole -/

theorem settledItems_iff {room : Nat} {items : List Value} :
    settledItems room items = true ↔ ∀ v ∈ items, settled room v = true := by
  induction items with
  | nil => exact ⟨fun _ => nofun, fun _ => rfl⟩
  | cons v rest ih => rw [settledItems, Bool.and_eq_true, ih, List.forall_mem_cons]

theorem settledMembers_iff {room : Nat} {members : List (Literal × Value)} :
    settledMembers room members = true ↔
      ∀ m ∈ members, m.1.plain?.isSome = true ∧ settled room m.2 = true := by
  induction members with
  | nil => exact ⟨fun _ => nofun, fun _ => rfl⟩
  | cons m rest ih =>
    rw [settledMembers, Bool.and_eq_true, Bool.and_eq_true, ih, List.forall_mem_cons]

/-! ### Records -/

/-- The keys of a record are texts. -/
theorem keyed_record (members : List (String × Value)) :
    keyed (members.map fun (k, v) => (Literal.ofString k, v)) = some members := by
  induction members with
  | nil => rfl
  | cons m members ih =>
    rw [keyed] at ih
    rw [keyed, List.map_cons, List.mapM_cons, ih]
    simp only [Literal.plain?_ofString]
    rfl

/-- **A record is read by its fields**, if it has the fields of its shape. -/
theorem record_record {α : Type} {names : List String} {members : List (String × Value)}
    (hnames : members.map Prod.fst = names) (hnodup : names.Nodup) (make : Found → Option α)
    (room : Nat) :
    record (.all names) make (room + 1) (.record members) = make ⟨room, members⟩ := by
  subst hnames
  -- every field is known, so none is passed over
  have hknown : members.filter (fun e => (members.map Prod.fst).contains e.1) = members := by
    rw [List.filter_eq_self]
    intro e he
    exact List.contains_iff_mem.mpr (List.mem_map_of_mem he)
  rw [Value.record, record, Shape.ofMembers, keyed_record]
  simp only [Shape.all, hknown, hnodup, if_true, Option.bind_some]

end Reader

/-! ### Fields -/

namespace Found

variable {α : Type} {room : Nat} {name other : String} {v : Value} {entries : List (String × Value)}

theorem value?_cons_self : (Found.mk room ((name, v) :: entries)).value? name = some v :=
  List.lookup_cons_self

theorem value?_cons_of_ne (h : name ≠ other) :
    (Found.mk room ((other, v) :: entries)).value? name = (Found.mk room entries).value? name := by
  have hkey : (name == other) = false := beq_eq_false_iff_ne.mpr h
  rw [value?, value?, List.lookup_cons, hkey]

@[simp] theorem required_cons_self (r : Reader α) :
    (Found.mk room ((name, v) :: entries)).required name r = r room v := by
  rw [required, value?_cons_self, Option.bind_some]

@[simp] theorem required_cons_of_ne (h : name ≠ other) (r : Reader α) :
    (Found.mk room ((other, v) :: entries)).required name r =
      (Found.mk room entries).required name r := by
  rw [required, required, value?_cons_of_ne h]

@[simp] theorem optional_cons_self (r : Reader α) :
    (Found.mk room ((name, v) :: entries)).optional name r = Reader.nullable r room v := by
  rw [optional, value?_cons_self]

@[simp] theorem optional_cons_of_ne (h : name ≠ other) (r : Reader α) :
    (Found.mk room ((other, v) :: entries)).optional name r =
      (Found.mk room entries).optional name r := by
  rw [optional, optional, value?_cons_of_ne h]

end Found

end Itinerary.Json
