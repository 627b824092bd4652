import CrateGuard.Proofs.Freshness.Check

/-! Spellings of versions. Build metadata and leading zeros spell a version in other ways without
making it another one. The check sorts the resolved versions by their texts, so another spelling can
move them, and it can make two of them one; but what is found about a package depends on the
precedence of the highest version and of the answer, and that is the same in every spelling. -/

namespace CrateGuard

namespace Version

/-- Versions with the same core numbers, and the same identifiers but for leading zeros of those
made of digits. -/
structure Agrees (v w : Version) : Prop where
  major_eq : v.major = w.major
  minor_eq : v.minor = w.minor
  patch_eq : v.patch = w.patch
  identifiers_eq : v.prerelease.map normalIdentifier = w.prerelease.map normalIdentifier

def Respells (s t : Text) : Prop :=
  s = t ∨ ∃ v w, parse s = .ok v ∧ parse t = .ok w ∧ v.Agrees w

/-- Sets of texts that are the same but for spelling. Members that agree with one another may have
become one. -/
def RespellsAll (present others : Text → Prop) : Prop :=
  (∀ s, present s → ∃ t, others t ∧ Respells s t) ∧ ∀ t, others t → ∃ s, present s ∧ Respells s t

theorem agrees_iff {v w : Version} : v.Agrees w ↔ v.precedence w = .eq := by
  rw [precedence_eq_eq_iff]
  exact ⟨fun ⟨hmajor, hminor, hpatch, hlabel⟩ => ⟨hmajor, hminor, hpatch, hlabel⟩,
    fun ⟨hmajor, hminor, hpatch, hlabel⟩ => ⟨hmajor, hminor, hpatch, hlabel⟩⟩

theorem Respells.symm {s t : Text} (h : Respells s t) : Respells t s := by
  rcases h with rfl | ⟨v, w, hv, hw, hagrees⟩
  · exact .inl rfl
  · exact .inr ⟨w, v, hw, hv, agrees_iff.mpr (Std.OrientedCmp.eq_symm (agrees_iff.mp hagrees))⟩

theorem Respells.parse_eq {s t : Text} (h : Respells s t) {v : Version} (hv : parse s = .ok v) :
    ∃ w, parse t = .ok w ∧ v.precedence w = .eq := by
  rcases h with rfl | ⟨u, w, hu, hw, hagrees⟩
  · exact ⟨v, hv, Std.ReflCmp.compare_self⟩
  · cases hv.symm.trans hu
    exact ⟨w, hw, agrees_iff.mp hagrees⟩

section
variable {present others : Text → Prop} (h : RespellsAll present others)
include h

theorem RespellsAll.symm : RespellsAll others present :=
  ⟨fun t ht => let ⟨s, hs, hst⟩ := h.2 t ht; ⟨s, hs, hst.symm⟩,
    fun s hs => let ⟨t, ht, hst⟩ := h.1 s hs; ⟨t, ht, hst.symm⟩⟩

private theorem RespellsAll.hasVersion (hversion : HasVersion present) : HasVersion others := by
  obtain ⟨s, v, hs, hv⟩ := hversion
  obtain ⟨t, ht, hst⟩ := h.1 s hs
  obtain ⟨w, hw, _⟩ := hst.parse_eq hv
  exact ⟨t, w, ht, hw⟩

/-- What is above all versions of one spelling is above those of the other. -/
theorem RespellsAll.isLE {top : Version}
    (htop : ∀ s v, present s → parse s = .ok v → (v.precedence top).isLE)
    {t : Text} {w : Version} (ht : others t) (hw : parse t = .ok w) : (w.precedence top).isLE := by
  obtain ⟨s, hs, hst⟩ := h.2 t ht
  obtain ⟨v, hv, heq⟩ := hst.symm.parse_eq hw
  rw [Std.TransCmp.congr_left heq]
  exact htop s v hs hv

end

end Version

namespace Lookup

def Respells (answer given : Lookup) : Prop :=
  answer = given ∨ ∃ s t, answer = .found (.str s) ∧ given = .found (.str t) ∧ Version.Respells s t

/-- An answer that is no text with a row of digits that is too long. -/
def HasShortRuns (answer : Lookup) : Prop :=
  ∀ s, answer = .found (.str s) → Version.HasShortRuns s

theorem HasShortRuns.isDecided {answer : Lookup} (h : answer.HasShortRuns) : answer.IsDecided :=
  fun s hs => (h s hs).isDecided

theorem Respells.symm {answer given : Lookup} (h : answer.Respells given) :
    given.Respells answer := by
  rcases h with rfl | ⟨s, t, hs, ht, hst⟩
  · exact .inl rfl
  · exact .inr ⟨t, s, ht, hs, hst.symm⟩

theorem Respells.parse_eq {s : Text} {given : Lookup} (h : (found (.str s)).Respells given)
    {v : Version}
    (hv : Version.parse s = .ok v) :
    ∃ t w, given = .found (.str t) ∧ Version.parse t = .ok w ∧ v.precedence w = .eq := by
  rcases h with rfl | ⟨s', t, hs, rfl, hst⟩
  · exact ⟨s, v, rfl, hv, Std.ReflCmp.compare_self⟩
  · cases hs
    obtain ⟨w, hw, heq⟩ := hst.parse_eq hv
    exact ⟨t, w, rfl, hw, heq⟩

private theorem Respells.isVersion {answer given : Lookup} (h : answer.Respells given)
    (hversion : answer.IsVersion) :
    given.IsVersion := by
  obtain ⟨s, v, rfl, hv⟩ := hversion
  obtain ⟨t, w, ht, hw, _⟩ := h.parse_eq hv
  exact ⟨t, w, ht, hw⟩

end Lookup

namespace Freshness

/-- What is found about a watched package with the given versions and answer. -/
inductive Judged (dependency : Watched) (advisory : Bool) (present : Text → Prop) (answer : Lookup) : Freshness → Prop
  | missing (hnone : ¬HasVersion present) : Judged dependency advisory present answer .missing
  | fetchError (hsome : HasVersion present) (hanswer : ¬answer.IsVersion) :
    Judged dependency advisory present answer .fetchError
  | compared {t s : Text} {w v : Version} (ht : present t) (hw : Version.parse t = .ok w)
      (htop : ∀ u x, present u → Version.parse u = .ok x → (x.precedence w).isLE) (hs : answer = .found (.str s))
      (hv : Version.parse s = .ok v) :
    Judged dependency advisory present answer (ofOrder dependency advisory (v.precedence w))

section
variable {dependency : Watched} {advisory : Bool} {present others : Text → Prop} {answer given : Lookup}

private theorem Judged.eq_of_respells {freshness other : Freshness}
    (h : Judged dependency advisory present answer freshness)
    (hother : Judged dependency advisory others given other) (hsets : Version.RespellsAll present others)
    (hanswers : answer.Respells given) : freshness = other := by
  cases h with
  | missing hnone =>
    cases hother with
    | missing => rfl
    | fetchError hsome => exact absurd (hsets.symm.hasVersion hsome) hnone
    | compared ht hw => exact absurd (hsets.symm.hasVersion ⟨_, _, ht, hw⟩) hnone
  | fetchError hsome hanswer =>
    cases hother with
    | missing hnone => exact absurd (hsets.hasVersion hsome) hnone
    | fetchError => rfl
    | compared _ _ _ hs hv => exact absurd (hanswers.symm.isVersion ⟨_, _, hs, hv⟩) hanswer
  | @compared t s w v ht hw htop hs hv =>
    cases hother with
    | missing hnone => exact absurd (hsets.hasVersion ⟨_, _, ht, hw⟩) hnone
    | fetchError _ hanswer => exact absurd (hanswers.isVersion ⟨_, _, hs, hv⟩) hanswer
    | @compared t' s' w' v' ht' hw' htop' hs' hv' =>
      subst hs
      obtain ⟨s'', v'', hs'', hv'', hlatest⟩ := hanswers.parse_eq hv
      cases hs'.symm.trans hs''
      cases hv'.symm.trans hv''
      have hcurrent : w.precedence w' = .eq :=
        Std.OrientedCmp.isLE_antisymm (hsets.symm.isLE htop' ht hw) (hsets.isLE htop ht' hw')
      rw [Std.TransCmp.congr_left hlatest, Std.TransCmp.congr_right hcurrent]

end

/-- What a check is given for a name: versions that are texts, and an answer, with no row of digits
too long. -/
structure Supplies (resolved : Resolved) (lookup : Text → Run Lookup) (name : Text) (answer : Lookup) : Prop where
  versions_short : ∀ version ∈ resolved.versions name, ∃ t, version = .str t ∧ Version.HasShortRuns t
  answer_eq : (lookup name).result = .ok answer
  answer_short : answer.HasShortRuns

def SuppliesAlike (first second : Resolved) (lookup other : Text → Run Lookup) (name : Text) : Prop :=
  ∃ answer given, Supplies first lookup name answer ∧ Supplies second other name given ∧ answer.Respells given ∧
    Version.RespellsAll (fun t => .str t ∈ first.versions name) fun t => .str t ∈ second.versions name

/-- A watched package is judged by the highest of its versions and the answer. -/
private theorem checkOne_judged {resolved : Resolved} {lookup : Text → Run Lookup}
    {dependency : Watched} {answer : Lookup}
    (h : Supplies resolved lookup dependency.name answer) (advisory : Bool) :
    ∃ outcome, (checkOne resolved lookup advisory dependency).result = .ok outcome ∧ outcome.dependency = dependency ∧
      Judged dependency advisory (fun t => .str t ∈ resolved.versions dependency.name) answer outcome.freshness := by
  obtain ⟨present, hmem, hcases⟩ := checkOne_cases (decided_of_short h.versions_short) h.answer_eq advisory
  have hsame : (fun t => .str t ∈ resolved.versions dependency.name) = (· ∈ present) :=
    funext fun t => propext (hmem t).symm
  rw [hsame]
  rcases hcases with ⟨hnone, hone⟩ | ⟨current, w, hhighest, hshort, hone⟩
  · refine ⟨_, hone, rfl, .missing ?_⟩
    rintro ⟨t, v, ht, hv⟩
    exact hnone t ht v hv
  · have hsome : HasVersion (· ∈ present) := ⟨current, w, hhighest.mem, hhighest.1⟩
    rw [hone]
    rcases judge_cases hhighest.1 hshort dependency h.answer_short.isDecided advisory with
      ⟨hno, detail, hresult⟩ | ⟨s, v, hs, hv, hresult⟩
    · exact ⟨_, hresult, rfl, .fetchError hsome hno⟩
    · exact ⟨_, hresult, rfl, .compared hhighest.mem hhighest.1 (fun u x hu hx => hhighest.le hu hx) hs hv⟩

end Freshness

namespace DependencyOutcome

/-- An outcome without its versions and its words. -/
def standing (outcome : DependencyOutcome) : Watched × Freshness :=
  (outcome.dependency, outcome.freshness)

def groundOf (standing : Watched × Freshness) : Option (ViolationKind × Json) :=
  (violation? ⟨standing.1, standing.2, none, none, none⟩).map Violation.ground

private theorem map_ground_violation? (outcome : DependencyOutcome) :
    outcome.violation?.map Violation.ground = groundOf outcome.standing := by
  rw [groundOf, violation?_ground_eq, violation?_ground_eq]
  rfl

/-- Which violations there are depends on the standings alone. -/
theorem map_ground_violations (outcomes : List DependencyOutcome) :
    (violations outcomes).map Violation.ground = (outcomes.map standing).filterMap groundOf := by
  rw [violations, List.map_filterMap, List.filterMap_map]
  exact congrArg (List.filterMap · outcomes) (funext map_ground_violation?)

end DependencyOutcome

namespace Freshness

/-- Checks that are given the same but for spelling find the same about every watched package. -/
theorem check_spelling {first second : Resolved} {lookup other : Text → Run Lookup}
    {watched : List Watched}
    (h : ∀ dependency ∈ watched, SuppliesAlike first second lookup other dependency.name) (advisory : Bool) :
    ∃ outcomes others, (check first lookup advisory watched).result = .ok outcomes ∧
      (check second other advisory watched).result = .ok others ∧
      outcomes.map DependencyOutcome.standing = others.map DependencyOutcome.standing := by
  induction watched with
  | nil => exact ⟨[], [], rfl, rfl, rfl⟩
  | cons dependency rest ih =>
    obtain ⟨⟨answer, given, hfirst, hsecond, hanswers, hsets⟩, hrest⟩ := List.forall_mem_cons.mp h
    obtain ⟨outcome, hone, hdependency, hjudged⟩ := checkOne_judged hfirst advisory
    obtain ⟨otherOutcome, hotherOne, hotherDependency, hotherJudged⟩ := checkOne_judged hsecond advisory
    obtain ⟨outcomes, others, hall, hotherAll, hstandings⟩ := ih hrest
    have hfreshness := hjudged.eq_of_respells hotherJudged hsets hanswers
    refine ⟨outcome :: outcomes, otherOutcome :: others, by simp [check, hone, hall],
      by simp [check, hotherOne, hotherAll], ?_⟩
    rw [List.map_cons, List.map_cons, hstandings, DependencyOutcome.standing, DependencyOutcome.standing, hdependency,
      hotherDependency, hfreshness]

end Freshness

end CrateGuard
