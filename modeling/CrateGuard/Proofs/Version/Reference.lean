import Mathlib.Tactic.SplitIfs
import CrateGuard.Proofs.Text.Numerals
import CrateGuard.Proofs.Text.Order
import CrateGuard.Version.Precedence

/-! The precedence of versions told by their fields, with no canonical form and no label between. It
is a total preorder, and two versions are equal in it if their fields agree but for leading
zeros. -/

namespace CrateGuard

namespace Rank

instance : Std.TransCmp order where
  eq_swap {a b} := by
    cases a with
    | number m =>
      cases b with
      | number n => exact Std.OrientedOrd.eq_swap
      | word t => rfl
    | word s =>
      cases b with
      | number n => rfl
      | word t => exact Std.OrientedOrd.eq_swap
  isLE_trans {a b c} hab hbc := by
    match a, b, c with
    | number _, number _, number _ => exact Std.TransOrd.isLE_trans hab hbc
    | number _, _, word _ => rfl
    | word _, word _, word _ => exact Std.TransOrd.isLE_trans hab hbc
    | word _, number _, _ => cases hab
    | _, word _, number _ => cases hbc

instance : Std.LawfulEqCmp order where
  compare_self {a} := Std.ReflCmp.compare_self
  eq_of_compare {a b} h := by
    match a, b with
    | number m, number n => rw [Std.LawfulEqOrd.eq_of_compare h]
    | word s, word t => rw [Std.LawfulEqOrd.eq_of_compare h]
    | number _, word _ => cases h
    | word _, number _ => cases h

theorem orderParts_eq (as bs : List Rank) : orderParts as bs = List.compareLex order as bs := by
  induction as generalizing bs with
  | nil => cases bs <;> rfl
  | cons a as ih =>
    cases bs with
    | nil => rfl
    | cons b bs => rw [orderParts, List.compareLex_cons_cons, ih]

end Rank

namespace Version

def numericValue? (identifier : Text) : Option Nat :=
  if Text.isAsciiNumeral identifier then some (Text.asciiValue identifier) else none

/-- Identifiers that are numbers are ordered by value and stand below the others, which are ordered
by code point. -/
def identifierPrecedence (a b : Text) : Ordering :=
  match numericValue? a, numericValue? b with
  | some m, some n => compare m n
  | some _, none => .lt
  | none, some _ => .gt
  | none, none => compare a b

/-- No identifiers stand above some; otherwise the first pair that differs decides, and a row stands
above one that it carries on. -/
def prereleasePrecedence : List Text → List Text → Ordering
  | [], [] => .eq
  | [], _ :: _ => .gt
  | _ :: _, [] => .lt
  | a :: as, b :: bs => List.compareLex identifierPrecedence (a :: as) (b :: bs)

/-- The precedence of versions by their fields: the core numbers in turn, then the identifiers. -/
def precedence (v w : Version) : Ordering :=
  (compare v.major w.major).then ((compare v.minor w.minor).then
    ((compare v.patch w.patch).then (prereleasePrecedence v.prerelease w.prerelease)))

/-- An identifier as far as it counts: one made of digits is rid of leading zeros. -/
def normalIdentifier (identifier : Text) : Text :=
  if Text.isAsciiNumeral identifier then Text.trimZeros identifier else identifier

def rankOf (identifier : Text) : Rank :=
  if Text.isAsciiNumeral identifier then .number (Text.asciiValue identifier) else .word identifier

theorem identifierPrecedence_eq (a b : Text) :
    identifierPrecedence a b = (rankOf a).order (rankOf b) := by
  unfold identifierPrecedence numericValue? rankOf
  split_ifs <;> rfl

theorem rankOf_eq_iff {a b : Text} : rankOf a = rankOf b ↔
    normalIdentifier a = normalIdentifier b := by
  unfold rankOf normalIdentifier
  split_ifs with ha hb hb
  · rw [Rank.number.injEq]
    exact Text.asciiValue_eq_iff ha hb
  · simp only [false_iff]
    rintro rfl
    exact hb (Text.isAsciiNumeral_trimZeros ha)
  · simp only [false_iff]
    rintro rfl
    exact ha (Text.isAsciiNumeral_trimZeros hb)
  · rw [Rank.word.injEq]

theorem identifierPrecedence_eq_eq_iff {a b : Text} :
    identifierPrecedence a b = .eq ↔ normalIdentifier a = normalIdentifier b := by
  rw [identifierPrecedence_eq, Std.LawfulEqCmp.compare_eq_iff_eq, rankOf_eq_iff]

instance : Std.TransCmp identifierPrecedence where
  eq_swap {a b} := by
    rw [identifierPrecedence_eq, identifierPrecedence_eq]
    exact Std.OrientedCmp.eq_swap
  isLE_trans {a b c} hab hbc := by
    rw [identifierPrecedence_eq] at hab hbc ⊢
    exact Std.TransCmp.isLE_trans hab hbc

private theorem compareLex_eq_eq_iff {as bs : List Text} :
    List.compareLex identifierPrecedence as bs = .eq ↔
      as.map normalIdentifier = bs.map normalIdentifier := by
  induction as generalizing bs with
  | nil => cases bs <;> simp [List.compareLex_nil_nil, List.compareLex_nil_cons]
  | cons a as ih =>
    cases bs with
    | nil => simp [List.compareLex_cons_nil]
    | cons b bs =>
      rw [List.compareLex_cons_cons, Ordering.then_eq_eq, identifierPrecedence_eq_eq_iff, ih,
        List.map_cons, List.map_cons, List.cons.injEq]

/-- That no identifiers stand above some is an order of its own, by which the rows are compared
before their identifiers are. -/
private theorem prereleasePrecedence_eq (as bs : List Text) :
    prereleasePrecedence as bs =
      compareLex (compareOn List.isEmpty) (List.compareLex identifierPrecedence) as bs := by
  cases as <;> cases bs <;> rfl

private theorem prereleasePrecedence_eq_eq_iff {as bs : List Text} :
    prereleasePrecedence as bs = .eq ↔ as.map normalIdentifier = bs.map normalIdentifier := by
  rw [← compareLex_eq_eq_iff]
  cases as <;> cases bs <;> simp [prereleasePrecedence, List.compareLex_nil_nil,
    List.compareLex_nil_cons, List.compareLex_cons_nil]

instance : Std.TransCmp prereleasePrecedence where
  eq_swap {as bs} := by
    rw [prereleasePrecedence_eq, prereleasePrecedence_eq]
    exact Std.OrientedCmp.eq_swap
  isLE_trans {as bs cs} hab hbc := by
    rw [prereleasePrecedence_eq] at hab hbc ⊢
    exact Std.TransCmp.isLE_trans hab hbc

private instance : Std.TransCmp fun v w : Version => prereleasePrecedence v.prerelease w.prerelease where
  eq_swap {_ _} := @Std.OrientedCmp.eq_swap _ prereleasePrecedence _ _ _
  isLE_trans {_ _ _} := @Std.TransCmp.isLE_trans _ prereleasePrecedence _ _ _ _

instance : Std.TransCmp precedence :=
  inferInstanceAs (Std.TransCmp (compareLex (compareOn major) (compareLex (compareOn minor)
    (compareLex (compareOn patch) fun v w => prereleasePrecedence v.prerelease w.prerelease))))

/-- Versions are equal in precedence if and only if their core numbers are and their identifiers
agree but for leading zeros. -/
theorem precedence_eq_eq_iff {v w : Version} :
    v.precedence w = .eq ↔ v.major = w.major ∧ v.minor = w.minor ∧ v.patch = w.patch ∧
      v.prerelease.map normalIdentifier = w.prerelease.map normalIdentifier := by
  rw [precedence, Ordering.then_eq_eq, Ordering.then_eq_eq, Ordering.then_eq_eq,
    Std.LawfulEqOrd.compare_eq_iff_eq, Std.LawfulEqOrd.compare_eq_iff_eq,
    Std.LawfulEqOrd.compare_eq_iff_eq, prereleasePrecedence_eq_eq_iff]

end Version

end CrateGuard
