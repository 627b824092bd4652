import Mathlib
import CrateGuard.Proofs.Version.Highest
import CrateGuard.Proofs.Version.Runs

/-! Rows of versions in order of precedence. Sorting gives the one row of the same texts that never
falls and in which texts of equal precedence stand as they stood before. The highest version of a
row, which is found in one pass, is the first text of the last run of equal precedence in the sorted
row. -/

namespace CrateGuard

namespace Version

section
variable {α : Type} {cmp : α → α → Ordering} [Std.TransCmp cmp]

private theorem isLE_total (a b : α) : ((cmp a b).isLE || (cmp b a).isLE) = true := by
  have hswap : cmp b a = (cmp a b).swap := Std.OrientedCmp.eq_swap
  rw [hswap]
  cases cmp a b <;> rfl

private theorem pairwise_mergeSort_isLE (xs : List α) :
    (xs.mergeSort fun a b => (cmp a b).isLE).Pairwise fun a b => (cmp a b).isLE = true :=
  List.pairwise_mergeSort (fun _ _ _ => Std.TransCmp.isLE_trans) isLE_total xs

private theorem filter_mergeSort_isLE (a : α) (xs : List α) :
    (xs.mergeSort fun b c => (cmp b c).isLE).filter (cmp a · == .eq) = xs.filter (cmp a · == .eq) := by
  have hclass : (xs.filter (cmp a · == .eq)).Pairwise fun b c => (cmp b c).isLE = true := by
    apply List.pairwise_of_forall_mem_list
    intro b hb c hc
    have hab : cmp a b = .eq := by simpa using (List.mem_filter.mp hb).2
    have hac : cmp a c = .eq := by simpa using (List.mem_filter.mp hc).2
    rw [← Std.TransCmp.congr_left hab, hac]
    rfl
  have hsorted := List.sublist_mergeSort (fun _ _ _ => Std.TransCmp.isLE_trans) isLE_total hclass List.filter_sublist
  have hkept := hsorted.filter (cmp a · == .eq)
  rw [List.filter_filter] at hkept
  simp only [Bool.and_self] at hkept
  exact (hkept.eq_of_length ((List.mergeSort_perm _ _).filter _).length_eq.symm).symm

/-- Two rows of the same elements that never fall are one row, if they agree on every class of equal
elements. -/
private theorem eq_of_pairwise_of_filter_eq {xs ys : List α} (hperm : xs.Perm ys)
    (hxs : xs.Pairwise fun a b => (cmp a b).isLE = true) (hys : ys.Pairwise fun a b => (cmp a b).isLE = true)
    (hclass : ∀ a ∈ xs, xs.filter (cmp a · == .eq) = ys.filter (cmp a · == .eq)) : xs = ys := by
  induction xs generalizing ys with
  | nil => exact hperm.nil_eq
  | cons x xs ih =>
    cases ys with
    | nil => exact absurd hperm.symm.nil_eq (by simp)
    | cons y ys =>
      obtain ⟨hx, hxs⟩ := List.pairwise_cons.mp hxs
      obtain ⟨hy, hlater⟩ := List.pairwise_cons.mp hys
      -- Neither head is above the other, so both stand first in one class.
      have hxy : (cmp x y).isLE := by
        rcases List.mem_cons.mp (hperm.mem_iff.mpr List.mem_cons_self) with rfl | hmem
        · exact Std.ReflCmp.isLE_rfl
        · exact hx y hmem
      have hyx : (cmp y x).isLE := by
        rcases List.mem_cons.mp (hperm.mem_iff.mp List.mem_cons_self) with rfl | hmem
        · exact Std.ReflCmp.isLE_rfl
        · exact hy x hmem
      have htied : cmp x y = .eq := Std.OrientedCmp.isLE_antisymm hxy hyx
      have hself : cmp x x = .eq := Std.ReflCmp.compare_self
      have hhead := hclass x List.mem_cons_self
      rw [List.filter_cons_of_pos (by simp [hself]), List.filter_cons_of_pos (by simp [htied])] at hhead
      obtain ⟨rfl, _⟩ := List.cons.inj hhead
      rw [ih ((List.perm_cons x).mp hperm) hxs hlater]
      intro a ha
      have htail := hclass a (List.mem_cons_of_mem x ha)
      rw [List.filter_cons, List.filter_cons] at htail
      split at htail
      · exact (List.cons.inj htail).2
      · exact htail

/-- In a row in which an element after one with the property has it too, those with the property
stand at the end. -/
private theorem rtakeWhile_eq_filter {p : α → Bool} {xs : List α}
    (h : xs.Pairwise fun a b => p a = true → p b = true) :
    xs.rtakeWhile p = xs.filter p := by
  induction xs using List.reverseRecOn with
  | nil => rfl
  | append_singleton xs x ih =>
    obtain ⟨hxs, _, hlast⟩ := List.pairwise_append.mp h
    rw [List.rtakeWhile_concat, List.filter_append]
    split_ifs with hx
    · simp [ih hxs, hx]
    · have hnone : xs.filter p = [] :=
        List.filter_eq_nil_iff.mpr fun a ha hpa => hx (hlast a ha x (List.mem_singleton_self x) hpa)
      simp [hnone, hx]

end

/-- A text that can be read and compared. -/
def IsRanked (s : Text) : Prop :=
  ∃ v, parse s = .ok v ∧ v.HasShortNumerals

/-- The version that a text is read as, and some version for a text that is not read. -/
def readAs (s : Text) : Version :=
  match parse s with
  | .ok v => v
  | .error _ => default

def readPrecedence (s t : Text) : Ordering :=
  (readAs s).precedence (readAs t)

instance : Std.TransCmp readPrecedence where
  eq_swap {_ _} := @Std.OrientedCmp.eq_swap _ precedence _ _ _
  isLE_trans {_ _ _} := @Std.TransCmp.isLE_trans _ precedence _ _ _ _

/-- Whether two texts are versions of equal precedence. -/
def isTied (s t : Text) : Bool :=
  match orderTexts s t with
  | .ok .eq => true
  | _ => false

/-- The last run of equal precedence in a row: as many texts from its end as are tied with the last
one. -/
def finalRun (row : List Text) : List Text :=
  match row.getLast? with
  | none => []
  | some last => row.rtakeWhile (isTied last)

/-- A row of the same texts in order of precedence, in which texts of equal precedence stand as they
stood before. -/
structure IsSorted (texts sorted : List Text) : Prop where
  perm : sorted.Perm texts
  rises : sorted.Pairwise fun s t => ∃ order, orderTexts s t = .ok order ∧ order.isLE = true
  stable : ∀ s ∈ texts, sorted.filter (isTied s) = texts.filter (isTied s)

private theorem readAs_of_parse {s : Text} {v : Version} (h : parse s = .ok v) : readAs s = v := by
  rw [readAs, h]

private theorem IsRanked.orderTexts_eq {s t : Text} (hs : IsRanked s) (ht : IsRanked t) :
    orderTexts s t = .ok (readPrecedence s t) := by
  obtain ⟨v, hv, hvs⟩ := hs
  obtain ⟨w, hw, hws⟩ := ht
  rw [orderTexts_of_parse hv hw hvs hws, readPrecedence, readAs_of_parse hv, readAs_of_parse hw]

private theorem IsRanked.isTied_eq {s t : Text} (hs : IsRanked s) (ht : IsRanked t) :
    isTied s t = (readPrecedence s t == .eq) := by
  rw [isTied, hs.orderTexts_eq ht]
  cases readPrecedence s t <;> rfl

section
variable {texts sorted : List Text} (hranked : ∀ s ∈ texts, IsRanked s)
include hranked

private theorem filter_isTied {s : Text} (hs : IsRanked s) :
    texts.filter (isTied s) = texts.filter (readPrecedence s · == .eq) :=
  List.filter_congr fun t ht => hs.isTied_eq (hranked t ht)

private theorem sort_eq_mergeSort :
    sort texts = .ok (texts.mergeSort fun s t => (readPrecedence s t).isLE) := by
  have hkeys : ∀ s ∈ texts, key s = .ok (readAs s).canonicalForm := by
    intro s hs
    obtain ⟨v, hv, hvs⟩ := hranked s hs
    rw [key, hv, ok_bind, (parse_wellFormed hv).canonical_eq hvs, readAs_of_parse hv]
  rw [sort_eq hkeys]
  have hzip : texts.zip (texts.map fun s => (readAs s).canonicalForm) =
      texts.map fun s => (s, (readAs s).canonicalForm) := by
    simpa using List.zip_map' (f := id) (g := fun s => (readAs s).canonicalForm) (l := texts)
  rw [hzip, ← List.map_mergeSort (r := fun s t => (readPrecedence s t).isLE), List.map_map]
  · exact congrArg Except.ok (List.map_id _)
  · intro s hs t ht
    obtain ⟨v, hv, _⟩ := hranked s hs
    obtain ⟨w, hw, _⟩ := hranked t ht
    rw [readPrecedence, readAs_of_parse hv, readAs_of_parse hw,
      (parse_wellFormed hv).canonicalForm_order (parse_wellFormed hw)]

private theorem isSorted_mergeSort :
    IsSorted texts (texts.mergeSort fun s t => (readPrecedence s t).isLE) := by
  have hmem : ∀ s ∈ texts.mergeSort fun s t => (readPrecedence s t).isLE, IsRanked s :=
    fun s hs => hranked s (List.mem_mergeSort.mp hs)
  refine ⟨List.mergeSort_perm _ _, ?_, ?_⟩
  · exact (pairwise_mergeSort_isLE texts).imp_of_mem fun hs ht hle =>
      ⟨_, (hmem _ hs).orderTexts_eq (hmem _ ht), hle⟩
  · intro s hs
    rw [filter_isTied hmem (hranked s hs), filter_isTied hranked (hranked s hs), filter_mergeSort_isLE]

namespace IsSorted
variable (h : IsSorted texts sorted)
include h

private theorem isRanked {s : Text} (hs : s ∈ sorted) : IsRanked s :=
  hranked s (h.perm.mem_iff.mp hs)

private theorem pairwise_isLE : sorted.Pairwise fun s t => (readPrecedence s t).isLE = true := by
  refine h.rises.imp_of_mem fun hs ht hle => ?_
  obtain ⟨order, horder, hle⟩ := hle
  cases ((h.isRanked hranked hs).orderTexts_eq (h.isRanked hranked ht)).symm.trans horder
  exact hle

/-- There is one way only to sort a row. -/
theorem unique {other : List Text} (hother : IsSorted texts other) : other = sorted := by
  refine eq_of_pairwise_of_filter_eq (hother.perm.trans h.perm.symm) (hother.pairwise_isLE hranked)
    (h.pairwise_isLE hranked) ?_
  intro s hs
  have hmem := hother.perm.mem_iff.mp hs
  rw [← filter_isTied (fun _ => hother.isRanked hranked) (hranked s hmem),
    ← filter_isTied (fun _ => h.isRanked hranked) (hranked s hmem), hother.stable s hmem, h.stable s hmem]

private theorem isLE_of_getLast? {last : Text} (hlast : sorted.getLast? = some last) {s : Text}
    (hs : s ∈ sorted) :
    (readPrecedence s last).isLE := by
  obtain ⟨before, rfl⟩ := List.getLast?_eq_some_iff.mp hlast
  obtain ⟨_, _, hbefore⟩ := List.pairwise_append.mp (h.pairwise_isLE hranked)
  rcases List.mem_append.mp hs with hs | hs
  · exact hbefore s hs last (List.mem_singleton_self last)
  · rw [List.mem_singleton.mp hs]
    exact Std.ReflCmp.isLE_rfl

/-- The last run of a sorted row holds every text of the highest precedence. -/
private theorem finalRun_eq_filter {last : Text} (hlast : sorted.getLast? = some last) :
    finalRun sorted = sorted.filter (isTied last) := by
  have hrank := h.isRanked hranked (List.mem_of_getLast? hlast)
  rw [finalRun, hlast]
  apply rtakeWhile_eq_filter
  refine (h.pairwise_isLE hranked).imp_of_mem fun {s t} hs ht hst htied => ?_
  rw [hrank.isTied_eq (h.isRanked hranked hs), beq_iff_eq] at htied
  rw [hrank.isTied_eq (h.isRanked hranked ht), beq_iff_eq]
  -- A text after one that is tied with the last is not below it, and none is above the last.
  apply Std.OrientedCmp.isLE_antisymm _ (h.isLE_of_getLast? hranked hlast ht)
  rw [Std.TransCmp.congr_left htied]
  exact hst

end IsSorted

section
variable {t : Text} {w : Version} (hbest : IsHighest texts (some (t, w)))
include hbest

private theorem IsHighest.readPrecedence_isLE {s : Text} (hs : s ∈ texts) :
    (readPrecedence s t).isLE := by
  obtain ⟨v, hv, _⟩ := hranked s hs
  rw [readPrecedence, readAs_of_parse hv, readAs_of_parse hbest.1]
  exact hbest.le hs hv

private theorem IsHighest.head?_filter_isTied : (texts.filter (isTied t)).head? = some t := by
  have ht := hranked t hbest.mem
  obtain ⟨hw, before, after, rfl, hbefore, _⟩ := hbest
  have hnone : before.filter (isTied t) = [] := by
    refine List.filter_eq_nil_iff.mpr fun s hs htied => ?_
    have hrank := hranked s (List.mem_append_left _ hs)
    have ⟨v, hv, _⟩ := hrank
    rw [ht.isTied_eq hrank, beq_iff_eq, readPrecedence, readAs_of_parse hw, readAs_of_parse hv,
      Std.OrientedCmp.eq_comm, hbefore s hs v hv] at htied
    cases htied
  have hself : isTied t t = true := by
    rw [ht.isTied_eq ht, beq_iff_eq]
    exact Std.ReflCmp.compare_self
  rw [List.filter_append, hnone, List.filter_cons_of_pos hself]
  rfl

private theorem IsHighest.head?_finalRun (h : IsSorted texts sorted) :
    (finalRun sorted).head? = some t := by
  have hne : sorted ≠ [] := List.ne_nil_of_mem (h.perm.mem_iff.mpr hbest.mem)
  have hlast := List.getLast?_eq_some_getLast hne
  have hmem := h.perm.mem_iff.mp (List.getLast_mem hne)
  -- The last text is below no other, and none of the row is above the highest.
  have hle : (readPrecedence t (sorted.getLast hne)).isLE :=
    h.isLE_of_getLast? hranked hlast (h.perm.mem_iff.mpr hbest.mem)
  have htied := Std.OrientedCmp.isLE_antisymm (hbest.readPrecedence_isLE hranked hmem) hle
  rw [h.finalRun_eq_filter hranked hlast, h.stable _ hmem, filter_isTied hranked (hranked _ hmem),
    ← hbest.head?_filter_isTied hranked, filter_isTied hranked (hranked t hbest.mem)]
  simp only [Std.TransCmp.congr_left htied]

end

theorem IsHighest.eq_nil (h : IsHighest texts none) : texts = [] := by
  apply List.eq_nil_iff_forall_not_mem.mpr
  intro s hs
  obtain ⟨v, hv, _⟩ := hranked s hs
  exact h s hs v hv

end

/-- Texts that are read and hold no long rows of digits are sorted in the one way that keeps those
of equal precedence as they stood. The highest of them is the first text of the last run of equal
precedence in the sorted row, and there is none only if there are no texts. -/
theorem sort_agrees_with_highest {texts : List Text} (hread : ∀ s ∈ texts, isRead s = true)
    (hshort : ∀ s ∈ texts, HasShortRuns s) :
    ∃ row, sort texts = .ok row ∧ IsSorted texts row ∧ (∀ other, IsSorted texts other → other = row) ∧
      highest texts = .ok (finalRun row).head? ∧ (highest texts = .ok none ↔ texts = []) := by
  have hdecided : ∀ s ∈ texts, IsDecided s := fun s hs => (hshort s hs).isDecided
  have hranked : ∀ s ∈ texts, IsRanked s := by
    intro s hs
    obtain ⟨v, hv⟩ := isRead_iff.mp (hread s hs)
    exact ⟨v, hv, (hdecided s hs).hasShortNumerals hv⟩
  have hsorted := isSorted_mergeSort hranked
  obtain ⟨best, hrun, hbest⟩ := highest_isHighest hdecided
  refine ⟨_, sort_eq_mergeSort hranked, hsorted, fun other hother => hsorted.unique hranked hother, ?_⟩
  cases best with
  | none =>
    cases hbest.eq_nil hranked
    rw [List.mergeSort_nil]
    exact ⟨rfl, iff_of_true rfl rfl⟩
  | some top =>
    have hne : texts ≠ [] := List.ne_nil_of_mem hbest.mem
    rw [hrun, hbest.head?_finalRun hranked hsorted]
    exact ⟨rfl, iff_of_false (by simp) hne⟩

def tiedRow : List Text := ["1.0.0-rc.01", "0.9.0+b", "1.0.0-rc.1", "0.9.0"]

/-- Both pairs keep their order, and the padded candidate is the highest. -/
theorem sort_agrees_with_highest_padded :
    (∀ s ∈ tiedRow, isRead s = true) ∧ (∀ s ∈ tiedRow, HasShortRuns s) ∧
      sort tiedRow = .ok ["0.9.0+b", "0.9.0", "1.0.0-rc.01", "1.0.0-rc.1"] ∧
      IsSorted tiedRow ["0.9.0+b", "0.9.0", "1.0.0-rc.01", "1.0.0-rc.1"] ∧
      highest tiedRow = .ok (finalRun ["0.9.0+b", "0.9.0", "1.0.0-rc.01", "1.0.0-rc.1"]).head? ∧
      (finalRun ["0.9.0+b", "0.9.0", "1.0.0-rc.01", "1.0.0-rc.1"]).head? = some "1.0.0-rc.01" := by
  have hlength : ∀ s ∈ tiedRow, s.length ≤ Text.digitLimit := by decide
  have hshort : ∀ s ∈ tiedRow, HasShortRuns s := fun s hs => hasShortRuns_of_length (hlength s hs)
  have hread : ∀ s ∈ tiedRow, isRead s = true := by decide
  have hrun : sort tiedRow = .ok ["0.9.0+b", "0.9.0", "1.0.0-rc.01", "1.0.0-rc.1"] := by cbv
  obtain ⟨row, hrow, hsorted, _, hhighest, _⟩ := sort_agrees_with_highest hread hshort
  cases hrun.symm.trans hrow
  exact ⟨hread, hshort, hrun, hsorted, hhighest, by rfl⟩

end Version

end CrateGuard
