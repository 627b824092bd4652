import CrateGuard.Json.Value
import CrateGuard.Proofs.Except

/-! Views of JSON values that are total: the fields of a value that may be no object, and the items
of a value that may be no list. Only a text is the same as a text. -/

namespace CrateGuard.Json

/-- The value under a name; null where there is none. -/
def member (value : Json) (name : Text) : Json :=
  match value with
  | .obj fields => field fields name
  | _ => .null

def member? (value : Json) (name : Text) : Option Json :=
  match value with
  | .obj fields => field? fields name
  | _ => none

def elements : Json → List Json
  | .arr items => items
  | _ => []

def entries : Json → Fields
  | .obj fields => fields
  | _ => []

/-- Null or an object. Since an absent field has the value null, it is a section too. -/
def IsSection (value : Json) : Prop := value = .null ∨ ∃ fields, value = .obj fields

/-- Null or a list. -/
def IsListing (value : Json) : Prop := value = .null ∨ ∃ items, value = .arr items

@[simp] theorem elements_null : elements .null = [] := rfl

@[simp] theorem elements_arr (items : List Json) : elements (.arr items) = items := rfl

/-- A field of an object is what the object has under its name. -/
theorem field_eq_member (fields : Fields) (name : Text) :
    field fields name = (obj fields).member name := rfl

@[simp] theorem field_entries (value : Json) (name : Text) : field value.entries name = value.member name := by
  cases value <;> rfl

@[simp] theorem field?_entries (value : Json) (name : Text) : field? value.entries name = value.member? name := by
  cases value <;> rfl

/-- The first of the items that are left after some stands at their number. -/
theorem elements_of_drop_eq_cons {list first : Json} {index : Nat} {later : List Json}
    (h : list.elements.drop index = first :: later) :
    list.elements[index]? = some first ∧ list.elements.drop (index + 1) = later := by
  constructor
  · rw [← List.head?_drop, h, List.head?_cons]
  · rw [← List.tail_drop, h, List.tail_cons]

section
variable {ε α : Type} {read : Nat → Json → Except ε α} {index : Nat} {raw : List Json}

/-- Where a reader accepts items of a kind and makes the same of them at every index, a list of such
items is read item by item. -/
theorem readEach_eq_ok_iff {accepts : Json → Prop} {make : Json → α}
    (h : ∀ index item a, read index item = .ok a ↔ accepts item ∧ a = make item) {made : List α} :
    readEach read index raw = .ok made ↔ (∀ item ∈ raw, accepts item) ∧ made = raw.map make := by
  induction raw generalizing index made with
  | nil => simp [readEach, eq_comm]
  | cons first rest ih =>
    simp only [readEach, bind_eq_ok, h, ih, List.forall_mem_cons, List.map_cons]
    constructor
    · rintro ⟨_, ⟨hfirst, rfl⟩, _, ⟨hrest, rfl⟩, hmade⟩
      cases hmade
      exact ⟨⟨hfirst, hrest⟩, rfl⟩
    · rintro ⟨⟨hfirst, hrest⟩, rfl⟩
      exact ⟨_, ⟨hfirst, rfl⟩, _, ⟨hrest, rfl⟩, rfl⟩

/-- A list is refused for one of its items, at the place where that stands. -/
theorem exists_of_readEach_eq_error {fault : ε} (h : readEach read index raw = .error fault) :
    ∃ place item, raw[place]? = some item ∧ read (index + place) item = .error fault := by
  induction raw generalizing index with
  | nil => cases h
  | cons first rest ih =>
    rcases bind_eq_error.mp h with h | ⟨_, _, h⟩
    · exact ⟨0, first, rfl, h⟩
    rcases bind_eq_error.mp h with h | ⟨_, _, h⟩
    · obtain ⟨place, item, hitem, hfault⟩ := ih h
      refine ⟨place + 1, item, hitem, ?_⟩
      rwa [Nat.add_assoc, Nat.add_comm 1] at hfault
    · cases h

end

theorem IsListing.elements_eq_nil_iff {value : Json} (h : value.IsListing) :
    value.elements = [] ↔ value = .null ∨ value = .arr [] := by
  rcases h with rfl | ⟨items, rfl⟩ <;> simp

@[simp] theorem filled_str (s : Text) : (Json.str s).filled = !s.isEmpty := rfl

@[simp] theorem hashable_str (s : Text) : (Json.str s).hashable = true := rfl

@[simp] theorem whole?_str (s : Text) : (Json.str s).whole? = none := rfl

/-- A value that is the same as a text is that text. -/
@[simp] theorem same_str_iff {s : Text} {value : Json} : (Json.str s).same value = true ↔ value = .str s := by
  cases value with
  | str t =>
    simp only [same, sameScalar, beq_iff_eq, str.injEq]
    exact eq_comm
  | _ => simp [same, sameScalar]

@[simp] theorem equals_str_iff {s : Text} {value : Json} : (Json.str s).equals value = true ↔ value = .str s :=
  same_str_iff

theorem equals_iff_of_text {value other : Json} (h : ∃ s, value = .str s) :
    value.equals other = true ↔ value = other := by
  obtain ⟨s, rfl⟩ := h
  rw [equals_str_iff]
  exact eq_comm

/-- What is left of a value by default is null or a filled value. -/
theorem orElse_null_eq_str_iff {value : Json} {s : Text} (h : s ≠ []) :
    value.orElse .null = .str s ↔ value = .str s := by
  unfold orElse
  split
  · rfl
  · rename_i hv
    constructor
    · intro he
      cases he
    · rintro rfl
      exact absurd (by simpa using h) hv

end CrateGuard.Json
