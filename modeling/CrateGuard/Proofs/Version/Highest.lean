import CrateGuard.Proofs.Version.TextOrder
import CrateGuard.Version.Ranking

/-! The highest version of a row. If no text of the row is at fault for a numeral, one is found if
and only if some text of the row can be read, and then it is the first of those with the highest
precedence. -/

namespace CrateGuard.Version

/-- What is known of the best version of the texts seen so far: there is none because none can be
read, or it stands above every earlier one and below no later one. -/
def IsHighest (seen : List Text) : Option (Text × Version) → Prop
  | none => ∀ s ∈ seen, ∀ v, parse s ≠ .ok v
  | some (t, w) => parse t = .ok w ∧ ∃ before after, seen = before ++ t :: after ∧
      (∀ s ∈ before, ∀ v, parse s = .ok v → v.precedence w = .lt) ∧
      ∀ s ∈ after, ∀ v, parse s = .ok v → (v.precedence w).isLE

theorem IsDecided.hasShortNumerals {s : Text} (hs : IsDecided s) {v : Version}
    (h : parse s = .ok v) :
    v.HasShortNumerals := by
  rcases hs with ⟨w, hw, hshort⟩ | ⟨refusal, hrefused⟩
  · cases h.symm.trans hw
    exact hshort
  · cases h.symm.trans hrefused

theorem tryParse_of_ok {s : Text} {v : Version} (h : parse s = .ok v) :
    tryParse s = .ok (some v) := by
  rw [tryParse, h]
  rfl

theorem tryParse_of_refused {s : Text} {refusal : VersionRefusal}
    (h : parse s = .error (.refused refusal)) :
    tryParse s = .ok none := by
  rw [tryParse, h]
  rfl

theorem parse_of_tryParse {s : Text} {v : Version} (h : tryParse s = .ok (some v)) :
    parse s = .ok v := by
  unfold tryParse orNothing at h
  split at h
  · rename_i hparse
    cases h
    exact hparse
  · cases h
  · cases h

theorem tryOfJson_of_not_text {value : Json} (h : ∀ s, value ≠ .str s) :
    tryOfJson value = .ok none := by
  cases value with
  | str s => exact absurd rfl (h s)
  | _ => rfl

theorem IsHighest.mem {seen : List Text} {t : Text} {w : Version}
    (h : IsHighest seen (some (t, w))) : t ∈ seen := by
  obtain ⟨_, before, after, rfl, _⟩ := h
  simp

theorem IsHighest.le {seen : List Text} {t : Text} {w : Version} (h : IsHighest seen (some (t, w)))
    {s : Text}
    (hmem : s ∈ seen) {v : Version} (hv : parse s = .ok v) : (v.precedence w).isLE := by
  obtain ⟨ht, before, after, rfl, hbefore, hafter⟩ := h
  rcases List.mem_append.mp hmem with hs | hs
  · rw [hbefore s hs v hv]
    rfl
  · rcases List.mem_cons.mp hs with rfl | hs
    · cases ht.symm.trans hv
      exact Std.ReflCmp.isLE_rfl
    · exact hafter s hs v hv

private theorem IsHighest.append_le {seen : List Text} {t : Text} {w : Version}
    (h : IsHighest seen (some (t, w)))
    {candidate : Text} (hle : ∀ v, parse candidate = .ok v → (v.precedence w).isLE) :
    IsHighest (seen ++ [candidate]) (some (t, w)) := by
  obtain ⟨ht, before, after, rfl, hbefore, hafter⟩ := h
  refine ⟨ht, before, after ++ [candidate], by simp, hbefore, ?_⟩
  intro s hs v hv
  rcases List.mem_append.mp hs with hs | hs
  · exact hafter s hs v hv
  · rw [List.mem_singleton.mp hs] at hv
    exact hle v hv

private theorem IsHighest.append_refused {seen : List Text} {best : Option (Text × Version)}
    (h : IsHighest seen best)
    {candidate : Text} (hrefused : ∀ v, parse candidate ≠ .ok v) : IsHighest (seen ++ [candidate]) best := by
  match best, h with
  | none, h =>
    intro s hs
    rcases List.mem_append.mp hs with hs | hs
    · exact h s hs
    · rw [List.mem_singleton.mp hs]
      exact hrefused
  | some (t, w), h => exact h.append_le fun v hv => absurd hv (hrefused v)

private theorem better_of_refused {best : Option (Text × Version)} {candidate : Text}
    {refusal : VersionRefusal}
    (h : parse candidate = .error (.refused refusal)) : Version.better best candidate = .ok best := by
  rw [Version.better, tryParse_of_refused h]
  rfl

/-- The better of the best so far and a candidate is the best of the texts seen with it. -/
theorem IsHighest.better {seen : List Text} {best : Option (Text × Version)}
    (h : IsHighest seen best)
    (hseen : ∀ s ∈ seen, IsDecided s) {candidate : Text} (hcandidate : IsDecided candidate) :
    ∃ next, Version.better best candidate = .ok next ∧ IsHighest (seen ++ [candidate]) next := by
  rcases hcandidate with ⟨v, hv, hshort⟩ | ⟨refusal, hrefused⟩
  · have hread := tryParse_of_ok hv
    match best, h with
    | none, h =>
      refine ⟨some (candidate, v), by rw [Version.better, hread]; rfl, hv, seen, [], rfl, ?_, by simp⟩
      intro s hs w hw
      exact absurd hw (h s hs w)
    | some (t, w), h =>
      have ht := h.1
      have hw := (hseen t h.mem).hasShortNumerals ht
      have horder := (parse_wellFormed hv).order_eq (parse_wellFormed ht) hshort hw
      by_cases hgt : v.precedence w = .gt
      · -- A new best stands above the old one and so above all that came before.
        refine ⟨some (candidate, v), by simp [Version.better, hread, horder, hgt, pure, Except.pure], hv,
          seen, [], rfl, ?_, by simp⟩
        intro s hs u hu
        exact Std.TransCmp.lt_of_isLE_of_lt (h.le hs hu) (Std.OrientedCmp.lt_of_gt hgt)
      · refine ⟨some (t, w), by simp [Version.better, hread, horder, hgt, pure, Except.pure], h.append_le ?_⟩
        intro u hu
        cases hv.symm.trans hu
        exact Ordering.isLE_iff_ne_gt.mpr hgt
  · refine ⟨best, better_of_refused hrefused, h.append_refused ?_⟩
    intro v hv
    cases hv.symm.trans hrefused

private theorem IsHighest.foldlM_better {seen candidates : List Text}
    {best : Option (Text × Version)}
    (h : IsHighest seen best) (hseen : ∀ s ∈ seen, IsDecided s) (hdecided : ∀ s ∈ candidates, IsDecided s) :
    ∃ next, candidates.foldlM Version.better best = .ok next ∧ IsHighest (seen ++ candidates) next := by
  induction candidates generalizing seen best with
  | nil => exact ⟨best, rfl, by rwa [List.append_nil]⟩
  | cons candidate rest ih =>
    obtain ⟨hcandidate, hrest⟩ := List.forall_mem_cons.mp hdecided
    obtain ⟨between, hstep, hbetween⟩ := h.better hseen hcandidate
    have hboth : ∀ s ∈ seen ++ [candidate], IsDecided s := by
      intro s hs
      rcases List.mem_append.mp hs with hs | hs
      · exact hseen s hs
      · rwa [List.mem_singleton.mp hs]
    obtain ⟨next, hrun, hnext⟩ := ih hbetween hboth hrest
    refine ⟨next, ?_, by rwa [List.append_assoc] at hnext⟩
    rw [List.foldlM_cons, hstep, ok_bind, hrun]

/-- The highest of a row in which every text is decided is found without a fault. -/
theorem highest_isHighest {candidates : List Text} (hdecided : ∀ s ∈ candidates, IsDecided s) :
    ∃ best, highest candidates = .ok (best.map (·.1)) ∧ IsHighest candidates best := by
  have hnil : IsHighest [] none := by
    intro s hs
    cases hs
  obtain ⟨best, hrun, hbest⟩ := hnil.foldlM_better (by simp) hdecided
  refine ⟨best, ?_, hbest⟩
  rw [highest, hrun]
  rfl

private theorem parse_of_better {best next : Option (Text × Version)} {candidate : Text}
    (hbest : ∀ t w, best = some (t, w) → parse t = .ok w) (h : Version.better best candidate = .ok next) :
    ∀ t w, next = some (t, w) → parse t = .ok w := by
  obtain ⟨read, hread, h⟩ := bind_eq_ok.mp h
  cases read with
  | none =>
    cases h
    exact hbest
  | some parsed =>
    have hparsed : ∀ t w, some (candidate, parsed) = some (t, w) → parse t = .ok w := by
      rintro _ _ ⟨⟩
      exact parse_of_tryParse hread
    cases best with
    | none =>
      cases h
      exact hparsed
    | some leader =>
      obtain ⟨order, _, h⟩ := bind_eq_ok.mp h
      cases h
      split_ifs
      · exact hparsed
      · exact hbest

private theorem parse_of_foldlM_better {candidates : List Text}
    {best next : Option (Text × Version)}
    (hbest : ∀ t w, best = some (t, w) → parse t = .ok w) (h : candidates.foldlM Version.better best = .ok next) :
    ∀ t w, next = some (t, w) → parse t = .ok w := by
  induction candidates generalizing best with
  | nil =>
    cases h
    exact hbest
  | cons candidate rest ih =>
    rw [List.foldlM_cons] at h
    obtain ⟨between, hstep, hrun⟩ := bind_eq_ok.mp h
    exact ih (parse_of_better hbest hstep) hrun

/-- What is found to be the highest of a row is a version, also in a row that has texts at fault. -/
theorem parse_of_highest {candidates : List Text} {t : Text}
    (h : highest candidates = .ok (some t)) :
    ∃ v, parse t = .ok v := by
  obtain ⟨best, hrun, hbest⟩ := bind_eq_ok.mp h
  cases best with
  | none => cases hbest
  | some leader =>
    cases hbest
    exact ⟨leader.2, parse_of_foldlM_better (by nofun) hrun _ _ rfl⟩

/-- What is known of the texts seen so far if no comparison was at fault: each is decided, but for
the best one, which may not have been compared. -/
def IsSettled (seen : List Text) (best : Option (Text × Version)) : Prop :=
  ∀ s ∈ seen, IsDecided s ∨ ∃ w, best = some (s, w)

private theorem refused_of_tryParse {s : Text} (h : tryParse s = .ok none) :
    ∃ refusal, parse s = .error (.refused refusal) := by
  unfold tryParse orNothing at h
  split at h
  · cases h
  · rename_i refusal hparse
    exact ⟨refusal, hparse⟩
  · cases h

theorem IsSettled.better {seen : List Text} {best next : Option (Text × Version)} {candidate : Text}
    (h : IsSettled seen best) (hbest : ∀ t w, best = some (t, w) → parse t = .ok w)
    (hstep : Version.better best candidate = .ok next) : IsSettled (seen ++ [candidate]) next := by
  obtain ⟨read, hread, hstep⟩ := bind_eq_ok.mp hstep
  refine List.forall_mem_append.mpr ?_
  rw [List.forall_mem_singleton]
  cases read with
  | none =>
    cases hstep
    exact ⟨h, .inl (.inr (refused_of_tryParse hread))⟩
  | some parsed =>
    have hparsed := parse_of_tryParse hread
    match best, h, hstep with
    | none, h, hstep =>
      cases hstep
      exact ⟨fun s hs => .inl ((h s hs).resolve_right (by simp)), .inr ⟨parsed, rfl⟩⟩
    | some (t, w), h, hstep =>
      -- The comparison with the best text settles both.
      obtain ⟨order, horder, _⟩ := bind_eq_ok.mp hstep
      have ht := hbest t w rfl
      obtain ⟨hshort, hbestshort⟩ :=
        (parse_wellFormed hparsed).hasShortNumerals_of_order (parse_wellFormed ht) horder
      refine ⟨fun s hs => .inl ?_, .inl (.inl ⟨parsed, hparsed, hshort⟩)⟩
      rcases h s hs with hdecided | ⟨_, ⟨⟩⟩
      · exact hdecided
      · exact .inl ⟨w, ht, hbestshort⟩

private theorem IsSettled.foldlM_better {seen candidates : List Text}
    {best next : Option (Text × Version)}
    (h : IsSettled seen best) (hbest : ∀ t w, best = some (t, w) → parse t = .ok w)
    (hrun : candidates.foldlM Version.better best = .ok next) : IsSettled (seen ++ candidates) next := by
  induction candidates generalizing seen best with
  | nil =>
    cases hrun
    rwa [List.append_nil]
  | cons candidate rest ih =>
    rw [List.foldlM_cons] at hrun
    obtain ⟨between, hstep, hrun⟩ := bind_eq_ok.mp hrun
    have hnext := ih (h.better hbest hstep) (parse_of_better hbest hstep) hrun
    rwa [List.append_assoc] at hnext

/-- Where the highest of a row is found and can itself be compared, every text of the row is
decided. -/
theorem isDecided_of_highest {candidates : List Text} {best : Option Text}
    (h : highest candidates = .ok best)
    (hbest : ∀ t, best = some t → IsDecided t) : ∀ s ∈ candidates, IsDecided s := by
  obtain ⟨leader, hrun, hleader⟩ := bind_eq_ok.mp h
  cases hleader
  have hnil : IsSettled [] none := List.forall_mem_nil _
  intro s hs
  rcases hnil.foldlM_better (by nofun) hrun s hs with hdecided | ⟨w, rfl⟩
  · exact hdecided
  · exact hbest s rfl

def isRead (s : Text) : Bool :=
  match parse s with
  | .ok _ => true
  | .error _ => false

/-- The first of the texts with the highest precedence in a row. -/
structure IsFirstHighest (candidates : List Text) (t : Text) : Prop where
  isRead : isRead t = true
  not_lower : ∀ s ∈ candidates, Version.isRead s = true → ∃ order, orderTexts t s = .ok order ∧ order.isGE = true
  first : ∃ before after, candidates = before ++ t :: after ∧ t ∉ before ∧
    ∀ s ∈ before, Version.isRead s = true → orderTexts s t = .ok .lt

theorem isRead_iff {s : Text} : isRead s = true ↔ ∃ v, parse s = .ok v := by
  rw [isRead]
  cases parse s <;> simp

theorem isRead_of_orderTexts {s t : Text} {order : Ordering} (h : orderTexts s t = .ok order) :
    isRead s = true ∧ isRead t = true := by
  obtain ⟨v, w, hv, hw, _⟩ := orderTexts_eq_ok_iff.mp h
  exact ⟨isRead_iff.mpr ⟨v, hv⟩, isRead_iff.mpr ⟨w, hw⟩⟩

section
variable {candidates others : List Text}

private theorem IsHighest.eq_none_iff {best : Option (Text × Version)}
    (h : IsHighest candidates best) :
    best = none ↔ ∀ s ∈ candidates, isRead s = false := by
  have hread (s : Text) : isRead s = false ↔ ∀ v, parse s ≠ .ok v := by
    rw [← Bool.not_eq_true, isRead_iff, not_exists]
  simp only [hread]
  match best, h with
  | none, h => exact iff_of_true rfl h
  | some (t, w), h =>
    refine iff_of_false (by simp) fun hnone => ?_
    exact hnone t h.mem w h.1

theorem IsHighest.isFirstHighest {t : Text} {w : Version} (h : IsHighest candidates (some (t, w)))
    (hdecided : ∀ s ∈ candidates, IsDecided s) : IsFirstHighest candidates t := by
  have hw := (hdecided t h.mem).hasShortNumerals h.1
  refine ⟨isRead_iff.mpr ⟨w, h.1⟩, ?_, ?_⟩
  · intro s hs hread
    obtain ⟨v, hv⟩ := isRead_iff.mp hread
    refine ⟨_, orderTexts_of_parse h.1 hv hw ((hdecided s hs).hasShortNumerals hv), ?_⟩
    exact Std.OrientedCmp.isGE_iff_isLE.mpr (h.le hs hv)
  · obtain ⟨ht, before, after, rfl, hbefore, _⟩ := h
    refine ⟨before, after, rfl, ?_, ?_⟩
    · intro hmem
      cases (hbefore t hmem w ht).symm.trans Std.ReflCmp.compare_self
    · intro s hs hread
      obtain ⟨v, hv⟩ := isRead_iff.mp hread
      have hvshort := (hdecided s (List.mem_append_left _ hs)).hasShortNumerals hv
      rw [orderTexts_of_parse hv ht hvshort hw, hbefore s hs v hv]

private theorem IsHighest.precedence_eq {t u : Text} {w x : Version}
    (h : IsHighest candidates (some (t, w)))
    (hother : IsHighest others (some (u, x))) (hmem : ∀ s, s ∈ candidates ↔ s ∈ others) : w.precedence x = .eq :=
  Std.OrientedCmp.isLE_antisymm (hother.le ((hmem t).mp h.mem) h.1) (h.le ((hmem u).mpr hother.mem) hother.1)

private theorem foldlM_better_filter (hdecided : ∀ s ∈ candidates, IsDecided s)
    (best : Option (Text × Version)) :
    (candidates.filter isRead).foldlM Version.better best = candidates.foldlM Version.better best := by
  induction candidates generalizing best with
  | nil => rfl
  | cons candidate rest ih =>
    obtain ⟨hcandidate, hrest⟩ := List.forall_mem_cons.mp hdecided
    rcases hcandidate with ⟨v, hv, _⟩ | ⟨refusal, hrefused⟩
    · rw [List.filter_cons_of_pos (isRead_iff.mpr ⟨v, hv⟩), List.foldlM_cons, List.foldlM_cons]
      simp only [ih hrest]
    · have hnot : ¬isRead candidate = true := by
        rw [isRead, hrefused]
        simp
      rw [List.filter_cons_of_neg hnot, List.foldlM_cons, better_of_refused hrefused, ok_bind, ih hrest]

/-- In a row of texts without long rows of digits none is found only if none can be read, and else
the first of those with the highest precedence. The texts that cannot be read make no difference,
and another order of the row gives a text of equal precedence. -/
theorem highest_is_first (hshort : ∀ s ∈ candidates, HasShortRuns s) :
    ∃ best, highest candidates = .ok best ∧
      (best = none ↔ ∀ s ∈ candidates, isRead s = false) ∧
      (∀ t, best = some t → IsFirstHighest candidates t) ∧
      highest (candidates.filter isRead) = .ok best ∧
      ∀ others : List Text, candidates.Perm others → ∃ other, highest others = .ok other ∧
        (best = none ↔ other = none) ∧ ∀ t u, best = some t → other = some u → orderTexts t u = .ok .eq := by
  have hdecided : ∀ s ∈ candidates, IsDecided s := fun s hs => (hshort s hs).isDecided
  obtain ⟨best, hrun, hbest⟩ := highest_isHighest hdecided
  refine ⟨best.map (·.1), hrun, ?_, ?_, ?_, ?_⟩
  · rw [Option.map_eq_none_iff, hbest.eq_none_iff]
  · intro t ht
    obtain ⟨⟨_, w⟩, rfl, rfl⟩ := Option.map_eq_some_iff.mp ht
    exact hbest.isFirstHighest hdecided
  · rwa [highest, foldlM_better_filter hdecided]
  · intro others hperm
    have hothers : ∀ s ∈ others, IsDecided s := fun s hs => hdecided s (hperm.mem_iff.mpr hs)
    obtain ⟨other, hother, hhighest⟩ := highest_isHighest hothers
    refine ⟨other.map (·.1), hother, ?_, ?_⟩
    · rw [Option.map_eq_none_iff, Option.map_eq_none_iff, hbest.eq_none_iff, hhighest.eq_none_iff]
      exact forall_congr' fun s => by rw [hperm.mem_iff]
    · intro t u ht hu
      obtain ⟨⟨_, w⟩, rfl, rfl⟩ := Option.map_eq_some_iff.mp ht
      obtain ⟨⟨_, x⟩, rfl, rfl⟩ := Option.map_eq_some_iff.mp hu
      have hw := (hdecided _ hbest.mem).hasShortNumerals hbest.1
      have hx := (hothers _ hhighest.mem).hasShortNumerals hhighest.1
      rw [orderTexts_of_parse hbest.1 hhighest.1 hw hx, hbest.precedence_eq hhighest fun s => hperm.mem_iff]

end

def tiedTexts : List Text := ["latest", "1.0.0-rc.01", "0.9.0", "1.0.0-rc.1+b"]

/-- The first of the two is the highest, and the other one if the row is turned round. -/
theorem highest_is_first_tied :
    (∀ s ∈ tiedTexts, HasShortRuns s) ∧ highest tiedTexts = .ok (some "1.0.0-rc.01") ∧
      IsFirstHighest tiedTexts "1.0.0-rc.01" ∧
      highest ["1.0.0-rc.01", "0.9.0", "1.0.0-rc.1+b"] = .ok (some "1.0.0-rc.01") ∧
      highest tiedTexts.reverse = .ok (some "1.0.0-rc.1+b") ∧ orderTexts "1.0.0-rc.01" "1.0.0-rc.1+b" = .ok .eq := by
  have hlength : ∀ s ∈ tiedTexts, s.length ≤ Text.digitLimit := by decide
  have hshort : ∀ s ∈ tiedTexts, HasShortRuns s := fun s hs => hasShortRuns_of_length (hlength s hs)
  have hrun : highest tiedTexts = .ok (some "1.0.0-rc.01") := by rfl
  have hturned : highest tiedTexts.reverse = .ok (some "1.0.0-rc.1+b") := by rfl
  obtain ⟨best, hbest, _, hfirst, hfilter, hperm⟩ := highest_is_first hshort
  cases hrun.symm.trans hbest
  obtain ⟨other, hother, _, heq⟩ := hperm tiedTexts.reverse (List.reverse_perm _).symm
  cases hturned.symm.trans hother
  exact ⟨hshort, hrun, hfirst _ rfl, hfilter, hturned, heq _ _ rfl rfl⟩

end CrateGuard.Version
