import Mathlib.Data.List.Forall2
import Mathlib.Tactic.SplitIfs
import CrateGuard.Report.Csv

/-! Reading comma-separated values. A reader goes through the text once and keeps where it stands in
a field. It accepts exactly the texts that spell a table by the rules: a field stands as it is or
between double quotes, with those inside it doubled, and one that holds a comma, a double quote or a
line feed has to be quoted. -/

namespace CrateGuard.Csv

inductive Stand
  /-- Before its first code point. -/
  | opening
  /-- In a field without quotes. -/
  | plain
  /-- Between the quotes of a field. -/
  | quoted
  /-- After a quote that ends the field unless a second one follows. -/
  | closing
  deriving DecidableEq, Repr

/-- What has been read: whole records, whole cells of the next one, and the cell at which the reader
stands. -/
structure Reading where
  records : List (List Text)
  cells : List Text
  cell : Text
  stand : Stand
  deriving DecidableEq, Repr

namespace Reading

def start : Reading := ⟨[], [], [], .opening⟩

def add (r : Reading) (c : CodePoint) (stand : Stand) : Reading :=
  { r with cell := r.cell ++ [c], stand := stand }

def endCell (r : Reading) : Reading :=
  ⟨r.records, r.cells ++ [r.cell], [], .opening⟩

def endRecord (r : Reading) : Reading :=
  ⟨r.records ++ [r.cells ++ [r.cell]], [], [], .opening⟩

/-- Reads one code point. Between quotes only a quote is special; elsewhere a comma ends the cell
and a line feed the record, and nothing else may follow the closing quote, nor a quote stand within
a field that started without one. -/
def step (r : Reading) (c : CodePoint) : Option Reading :=
  if r.stand = .quoted then
    some (if c = '"' then { r with stand := .closing } else r.add c .quoted)
  else if c = ',' then some r.endCell
  else if c = '\n' then some r.endRecord
  else if c = '"' then
    match r.stand with
    | .opening => some { r with stand := .quoted }
    | .closing => some (r.add c .quoted)
    | _ => none
  else
    match r.stand with
    | .closing => none
    | _ => some (r.add c .plain)

def read (r : Reading) (s : Text) : Option Reading := s.foldlM step r

def finish (r : Reading) : Option (List (List Text)) :=
  if r.cells = [] ∧ r.stand = .opening then some r.records else none

end Reading

/-- The records that a text spells, if it spells any. -/
def decode (s : Text) : Option (List (List Text)) :=
  (Reading.start.read s).bind Reading.finish

inductive SpellsField : Text → Text → Prop
  | plain {cell : Text} (h : ∀ c ∈ cell, needsQuotes c = false) : SpellsField cell cell
  | quoted (cell : Text) : SpellsField cell (.char '"' :: cell.flatMap quotedPoint ++ [.char '"'])

/-- A line that stands for a record of at least one cell. -/
def SpellsRecord (cells : List Text) (line : Text) : Prop :=
  cells ≠ [] ∧ ∃ fields, List.Forall₂ SpellsField cells fields ∧ line = Text.join ',' fields ++ "\n"

def Spells (table : List (List Text)) (s : Text) : Prop :=
  ∃ lines, List.Forall₂ SpellsRecord table lines ∧ s = lines.flatten

namespace Reading

@[simp] theorem read_nil (r : Reading) : r.read [] = some r := rfl

@[simp] theorem read_cons (r : Reading) (c : CodePoint) (s : Text) : r.read (c :: s) = (r.step c).bind (read · s) := rfl

private theorem read_append (r : Reading) (s t : Text) :
    r.read (s ++ t) = (r.read s).bind (read · t) :=
  List.foldlM_append

inductive Step (r : Reading) : CodePoint → Reading → Prop
  | inside {c : CodePoint} (h : r.stand = .quoted) (hc : c ≠ '"') : Step r c (r.add c .quoted)
  | close (h : r.stand = .quoted) : Step r '"' { r with stand := .closing }
  | endCell (h : r.stand ≠ .quoted) : Step r ',' r.endCell
  | endRecord (h : r.stand ≠ .quoted) : Step r '\n' r.endRecord
  | unclose (h : r.stand = .closing) : Step r '"' (r.add '"' .quoted)
  | start (h : r.stand = .opening) : Step r '"' { r with stand := .quoted }
  | plain {c : CodePoint} (h : r.stand = .opening ∨ r.stand = .plain) (hc : needsQuotes c = false) :
    Step r c (r.add c .plain)

private theorem needsQuotes_eq_false_iff {c : CodePoint} : needsQuotes c = false ↔ c ≠ ',' ∧
    c ≠ '"' ∧ c ≠ '\n' := by
  simp [needsQuotes, and_assoc]

section
variable {r after : Reading} {c : CodePoint}

private theorem step_eq_some_iff : r.step c = some after ↔ r.Step c after := by
  constructor
  · intro h
    unfold step at h
    split at h
    next hquoted =>
      cases h
      split
      next hc =>
        subst hc
        exact .close hquoted
      next hc => exact .inside hquoted hc
    next hquoted =>
      split_ifs at h with hcomma hlineFeed hquote
      · subst hcomma
        cases h
        exact .endCell hquoted
      · subst hlineFeed
        cases h
        exact .endRecord hquoted
      · subst hquote
        cases hstand : r.stand <;> simp only [hstand] at h <;> cases h
        · exact .start hstand
        · exact .unclose hstand
      · have hc := needsQuotes_eq_false_iff.mpr ⟨hcomma, hquote, hlineFeed⟩
        cases hstand : r.stand <;> simp only [hstand] at h <;> cases h
        · exact .plain (.inl hstand) hc
        · exact .plain (.inr hstand) hc
        · contradiction
  · rintro (⟨h, hc⟩ | h | h | h | h | h | ⟨h | h, hc⟩)
    · simp [step, h, hc]
    · simp [step, h]
    · simp [step, h]
    · simp [step, h]
    · simp [step, h]
    · simp [step, h]
    all_goals
      obtain ⟨hcomma, hquote, hlineFeed⟩ := needsQuotes_eq_false_iff.mp hc
      simp [step, h, hcomma, hquote, hlineFeed]

/-- Reading goes on after a step. -/
theorem Step.read (h : r.Step c after) (s : Text) : r.read (c :: s) = after.read s := by
  rw [read_cons, step_eq_some_iff.mpr h, Option.bind_some]

end

private theorem read_quotedPoints (records : List (List Text)) (cells : List Text) (cell s : Text) :
    read ⟨records, cells, cell, .quoted⟩ (s.flatMap quotedPoint) = some ⟨records, cells, cell ++ s, .quoted⟩ := by
  induction s generalizing cell with
  | nil => simp
  | cons c rest ih =>
    have hpoint :
        read ⟨records, cells, cell, .quoted⟩ (quotedPoint c) = some ⟨records, cells, cell ++ [c], .quoted⟩ := by
      unfold quotedPoint
      split
      next hc =>
        subst hc
        rw [(Step.close rfl).read, (Step.unclose rfl).read]
        rfl
      next hc =>
        rw [(Step.inside rfl hc).read]
        rfl
    rw [List.flatMap_cons, read_append, hpoint, Option.bind_some, ih]
    simp

private theorem read_plain (records : List (List Text)) (cells : List Text) (cell : Text) {s : Text}
    {stand : Stand}
    (hstand : stand = .opening ∨ stand = .plain) (hs : ∀ c ∈ s, needsQuotes c = false) :
    ∃ after, after ≠ .quoted ∧ read ⟨records, cells, cell, stand⟩ s = some ⟨records, cells, cell ++ s, after⟩ := by
  induction s generalizing cell stand with
  | nil => exact ⟨stand, by rcases hstand with rfl | rfl <;> nofun, by simp⟩
  | cons c rest ih =>
    obtain ⟨hc, hrest⟩ := List.forall_mem_cons.mp hs
    obtain ⟨after, hafter, hread⟩ := ih (cell ++ [c]) (.inr rfl) hrest
    refine ⟨after, hafter, ?_⟩
    rw [(Step.plain hstand hc).read, add, hread]
    simp

end Reading

section
variable {cells fields : List Text} {table : List (List Text)} {s t : Text}

/-- After a field its cell is there, and the reader does not stand between quotes. -/
theorem SpellsField.read {cell field : Text} (h : SpellsField cell field)
    (records : List (List Text))
    (seen : List Text) :
    ∃ stand, stand ≠ .quoted ∧
      Reading.read ⟨records, seen, [], .opening⟩ field = some ⟨records, seen, cell, stand⟩ := by
  cases h with
  | plain hplain => exact Reading.read_plain records seen [] (.inl rfl) hplain
  | quoted =>
    refine ⟨.closing, nofun, ?_⟩
    rw [List.cons_append, (Reading.Step.start rfl).read, Reading.read_append, Reading.read_quotedPoints,
      Option.bind_some, (Reading.Step.close rfl).read]
    rfl

private theorem read_record (h : List.Forall₂ SpellsField cells fields) (hne : cells ≠ [])
    (records : List (List Text))
    (seen : List Text) :
    Reading.read ⟨records, seen, [], .opening⟩ (Text.join ',' fields ++ "\n") =
      some ⟨records ++ [seen ++ cells], [], [], .opening⟩ := by
  induction h generalizing seen with
  | nil => contradiction
  | cons hfirst hlater ih =>
    obtain ⟨stand, hstand, hread⟩ := hfirst.read records seen
    cases hlater with
    | nil =>
      rw [Text.join, Reading.read_append, hread, Option.bind_some]
      exact (Reading.Step.endRecord hstand).read []
    | cons hsecond hmore =>
      rw [Text.join, List.append_assoc, Reading.read_append, hread, Option.bind_some, List.cons_append,
        (Reading.Step.endCell hstand).read, Reading.endCell, ih (by simp)]
      · simp
      · simp

private theorem read_table {lines : List Text} (h : List.Forall₂ SpellsRecord table lines)
    (records : List (List Text)) :
    Reading.read ⟨records, [], [], .opening⟩ lines.flatten = some ⟨records ++ table, [], [], .opening⟩ := by
  induction h generalizing records with
  | nil => simp
  | cons hfirst _ ih =>
    obtain ⟨hne, fields, hfields, rfl⟩ := hfirst
    rw [List.flatten_cons, Reading.read_append, read_record hfields hne, Option.bind_some, ih]
    simp

/-- A text that spells a table is read as it. -/
theorem Spells.decode_eq (h : Spells table s) : decode s = some table := by
  obtain ⟨lines, hlines, rfl⟩ := h
  rw [decode, Reading.start, read_table hlines]
  rfl

/-- The part of a field that has been read, where the reader stands in it. -/
inductive SpellsPart : Stand → Text → Text → Prop
  | opening : SpellsPart .opening [] []
  | plain {cell : Text} (h : ∀ c ∈ cell, needsQuotes c = false) : SpellsPart .plain cell cell
  | quoted (cell : Text) : SpellsPart .quoted cell (.char '"' :: cell.flatMap quotedPoint)
  | closing (cell : Text) : SpellsPart .closing cell (.char '"' :: cell.flatMap quotedPoint ++ [.char '"'])

private theorem SpellsPart.spellsField {stand : Stand} {cell part : Text}
    (h : SpellsPart stand cell part)
    (hstand : stand ≠ .quoted) : SpellsField cell part := by
  cases h with
  | opening => exact .plain (by simp)
  | plain hplain => exact .plain hplain
  | quoted => contradiction
  | closing => exact .quoted cell

def Reading.Follows (r : Reading) (s : Text) : Prop :=
  ∃ lines fields part, List.Forall₂ SpellsRecord r.records lines ∧ List.Forall₂ SpellsField r.cells fields ∧
    SpellsPart r.stand r.cell part ∧ s = lines.flatten ++ fields.flatMap (· ++ [.char ',']) ++ part

private theorem join_append_singleton (fields : List Text) (last : Text) :
    Text.join ',' (fields ++ [last]) = fields.flatMap (· ++ [.char ',']) ++ last := by
  induction fields with
  | nil => rfl
  | cons field rest ih =>
    rw [List.cons_append, Text.join, ih]
    · simp
    · simp

/-- One code point more. -/
theorem Reading.Follows.step {r after : Reading} {c : CodePoint} (h : r.Follows s)
    (hstep : r.Step c after) :
    after.Follows (s ++ [c]) := by
  obtain ⟨records, cells, cell, stand⟩ := r
  obtain ⟨lines, fields, part, hlines, hfields, hpart, rfl⟩ := h
  dsimp only at hlines hfields hpart
  cases hstep with
  | inside hstand hc =>
    obtain rfl : stand = .quoted := hstand
    cases hpart
    refine ⟨lines, fields, _, hlines, hfields, .quoted (cell ++ [c]), ?_⟩
    simp [quotedPoint, hc]
  | close hstand =>
    obtain rfl : stand = .quoted := hstand
    cases hpart
    exact ⟨lines, fields, _, hlines, hfields, .closing cell, by simp⟩
  | endCell hstand =>
    have hcells := List.rel_append hfields (.cons (hpart.spellsField hstand) .nil)
    exact ⟨lines, fields ++ [part], [], hlines, hcells, .opening, by simp⟩
  | endRecord hstand =>
    have hcells := List.rel_append hfields (.cons (hpart.spellsField hstand) .nil)
    have hrecord : SpellsRecord (cells ++ [cell]) (Text.join ',' (fields ++ [part]) ++ "\n") :=
      ⟨by simp, _, hcells, rfl⟩
    refine ⟨lines ++ [Text.join ',' (fields ++ [part]) ++ "\n"], [], [], List.rel_append hlines (.cons hrecord .nil),
      .nil, .opening, ?_⟩
    simp [join_append_singleton, Text.ofString]
  | unclose hstand =>
    obtain rfl : stand = .closing := hstand
    cases hpart
    refine ⟨lines, fields, _, hlines, hfields, .quoted (cell ++ [CodePoint.char '"']), ?_⟩
    simp [quotedPoint]
  | start hstand =>
    obtain rfl : stand = .opening := hstand
    cases hpart
    exact ⟨lines, fields, _, hlines, hfields, .quoted [], by simp⟩
  | plain hstand hc =>
    have hplain : part = cell ∧ ∀ d ∈ cell, needsQuotes d = false := by
      rcases hstand with hstand | hstand
      · obtain rfl : stand = .opening := hstand
        cases hpart
        exact ⟨rfl, by simp⟩
      · obtain rfl : stand = .plain := hstand
        cases hpart with
        | plain h => exact ⟨rfl, h⟩
    obtain ⟨rfl, hcell⟩ := hplain
    refine ⟨lines, fields, _, hlines, hfields, .plain ?_, (List.append_assoc _ _ _)⟩
    exact List.forall_mem_append.mpr ⟨hcell, List.forall_mem_singleton.mpr hc⟩

theorem Reading.Follows.read {r after : Reading} (h : r.Follows s) (hread : r.read t = some after) :
    after.Follows (s ++ t) := by
  induction t generalizing r s with
  | nil =>
    cases hread
    rwa [List.append_nil]
  | cons c rest ih =>
    obtain ⟨next, hstep, hrest⟩ := Option.bind_eq_some_iff.mp hread
    rw [← List.singleton_append, ← List.append_assoc]
    exact ih (h.step (step_eq_some_iff.mp hstep)) hrest

/-- A text is read as a table if and only if it spells it. -/
theorem decode_eq_some_iff : decode s = some table ↔ Spells table s := by
  refine ⟨fun h => ?_, Spells.decode_eq⟩
  obtain ⟨⟨records, cells, cell, stand⟩, hread, hfinish⟩ := Option.bind_eq_some_iff.mp h
  have hstart : Reading.start.Follows [] := ⟨[], [], [], .nil, .nil, .opening, rfl⟩
  obtain ⟨lines, fields, part, hlines, hfields, hpart, hs⟩ := hstart.read hread
  unfold Reading.finish at hfinish
  split_ifs at hfinish with hend
  obtain ⟨rfl, rfl⟩ : cells = [] ∧ stand = .opening := hend
  cases hfinish
  cases hfields
  cases hpart
  exact ⟨lines, hlines, by simpa using hs⟩

/-- A text spells one table only. -/
theorem Spells.unique {other : List (List Text)} (h : Spells table s) (hother : Spells other s) :
    table = other :=
  Option.some.inj (h.decode_eq.symm.trans hother.decode_eq)

end

end CrateGuard.Csv
