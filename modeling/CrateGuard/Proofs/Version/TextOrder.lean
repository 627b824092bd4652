import CrateGuard.Proofs.Version.Canonical

/-! The order of version texts. It goes through canonical forms, whose labels are joined and split
again, and is the precedence of the fields that were read. Ending a tie by the lengths of the labels
would come to the same, because equal parts are written alike. -/

namespace CrateGuard

namespace CanonicalVersion

def orderCommonParts : List Rank → List Rank → Ordering
  | a :: as, b :: bs => (a.order b).then (orderCommonParts as bs)
  | _, _ => .eq

/-- The order of two labels in which the lengths of their texts end a tie. -/
def orderLabelsByLength (a b : CanonicalVersion) : Ordering :=
  (orderCommonParts (a.parts.map Rank.ofPart) (b.parts.map Rank.ofPart)).then
    (compare (a.label.getD []).length (b.label.getD []).length)

/-- The precedence of canonical versions in which the lengths of labels end a tie. -/
def orderByLength (a b : CanonicalVersion) : Ordering :=
  (orderCores a b).then <|
    match orderLabelsByLength a b, a.label, b.label with
    | .eq, _, _ => .eq
    | _, none, _ => .gt
    | _, _, none => .lt
    | order, some _, some _ => order

private theorem length_join_cons_cons (separator : CodePoint) (first second : Text)
    (rest : List Text) :
    (Text.join separator (first :: second :: rest)).length =
      first.length + 1 + (Text.join separator (second :: rest)).length := by
  simp [Text.join]
  omega

/-- Where parts of equal rank are the same text, rows of parts that agree as far as the shorter goes
are told apart by their lengths when joined. -/
private theorem orderCommonParts_then_length {separator : CodePoint} {as bs : List Text}
    (ha : as ≠ []) (hb : bs ≠ [])
    (h : ∀ a ∈ as, ∀ b ∈ bs, (Rank.ofPart a).order (Rank.ofPart b) = .eq → a = b) :
    (orderCommonParts (as.map Rank.ofPart) (bs.map Rank.ofPart)).then
        (compare (Text.join separator as).length (Text.join separator bs).length) =
      Rank.orderParts (as.map Rank.ofPart) (bs.map Rank.ofPart) := by
  induction as generalizing bs with
  | nil => contradiction
  | cons a as ih =>
    cases bs with
    | nil => contradiction
    | cons b bs =>
      rw [List.map_cons, List.map_cons, orderCommonParts, Rank.orderParts, Ordering.then_assoc]
      cases hfirst : (Rank.ofPart a).order (Rank.ofPart b) with
      | lt => rfl
      | gt => rfl
      | eq =>
        -- Parts of equal rank are the same text, so both labels go on after the same length.
        have hsame := h a List.mem_cons_self b List.mem_cons_self hfirst
        subst hsame
        cases as with
        | nil =>
          cases bs with
          | nil => exact Nat.compare_eq_eq.mpr rfl
          | cons second rest =>
            rw [length_join_cons_cons]
            exact Nat.compare_eq_lt.mpr (by simp only [Text.join]; omega)
        | cons first later =>
          cases bs with
          | nil =>
            rw [length_join_cons_cons]
            exact Nat.compare_eq_gt.mpr (by simp only [Text.join]; omega)
          | cons second rest =>
            rw [length_join_cons_cons, length_join_cons_cons, compare_add_left]
            exact ih (by simp) (by simp) fun part hpart other hother =>
              h part (List.mem_cons_of_mem _ hpart) other (List.mem_cons_of_mem _ hother)

private theorem orderPrereleases_of_none_left {a b : CanonicalVersion} (hne : a.orderLabels b ≠ .eq)
    (ha : a.label = none) : a.orderPrereleases b = .gt := by
  rw [orderPrereleases, ha]
  cases h : a.orderLabels b with
  | eq => contradiction
  | lt => rfl
  | gt => rfl

private theorem orderPrereleases_of_none_right {a b : CanonicalVersion} {label : Text}
    (hne : a.orderLabels b ≠ .eq)
    (ha : a.label = some label) (hb : b.label = none) : a.orderPrereleases b = .lt := by
  rw [orderPrereleases, ha, hb]
  cases h : a.orderLabels b with
  | eq => contradiction
  | lt => rfl
  | gt => rfl

private theorem orderPrereleases_of_labels {a b : CanonicalVersion} {label other : Text}
    (ha : a.label = some label)
    (hb : b.label = some other) : a.orderPrereleases b = a.orderLabels b := by
  rw [orderPrereleases, ha, hb]
  cases a.orderLabels b <;> rfl

end CanonicalVersion

namespace Version

private theorem word_nil_ne_rankOf {identifier : Text} (h : identifier ≠ []) :
    .word [] ≠ rankOf identifier := by
  intro he
  unfold rankOf at he
  split_ifs at he
  cases he
  exact h rfl

private theorem orderParts_map_rankOf (as bs : List Text) :
    Rank.orderParts (as.map rankOf) (bs.map rankOf) = List.compareLex identifierPrecedence as bs := by
  rw [Rank.orderParts_eq]
  induction as generalizing bs with
  | nil => cases bs <;> rfl
  | cons a as ih =>
    cases bs with
    | nil => rfl
    | cons b bs =>
      rw [List.map_cons, List.map_cons, List.compareLex_cons_cons, List.compareLex_cons_cons, ih,
        identifierPrecedence_eq]

/-- The label that is not there stands apart from every other, so a tie is never between the two. -/
private theorem WellFormed.orderLabels_ne_eq {v w : Version} (hw : w.WellFormed)
    (hvnil : v.prerelease = [])
    (hwnil : w.prerelease ≠ []) :
    v.canonicalForm.orderLabels w.canonicalForm ≠ .eq ∧ w.canonicalForm.orderLabels v.canonicalForm ≠ .eq := by
  obtain ⟨first, rest, hcons⟩ := List.exists_cons_of_ne_nil hwnil
  have hword := word_nil_ne_rankOf (hw.identifier_ne_nil first (by rw [hcons]; simp))
  rw [CanonicalVersion.orderLabels, CanonicalVersion.orderLabels, hw.ranks_eq hwnil,
    canonicalForm_parts_of_nil hvnil, hcons]
  constructor
  · intro h
    exact hword (Std.LawfulEqCmp.eq_of_compare (Ordering.then_eq_eq.mp h).1)
  · intro h
    exact hword (Std.LawfulEqCmp.eq_of_compare (Ordering.then_eq_eq.mp h).1).symm

private theorem WellFormed.orderPrereleases_eq {v w : Version} (hv : v.WellFormed)
    (hw : w.WellFormed) :
    v.canonicalForm.orderPrereleases w.canonicalForm = prereleasePrecedence v.prerelease w.prerelease := by
  cases hvs : v.prerelease with
  | nil =>
    cases hws : w.prerelease with
    | nil =>
      rw [CanonicalVersion.orderPrereleases, CanonicalVersion.orderLabels, canonicalForm_parts_of_nil hvs,
        canonicalForm_parts_of_nil hws]
      rfl
    | cons second later =>
      have hne := (hw.orderLabels_ne_eq hvs (by simp [hws])).1
      exact CanonicalVersion.orderPrereleases_of_none_left hne (canonicalForm_label_of_nil hvs)
  | cons first rest =>
    have hvne : v.prerelease ≠ [] := by simp [hvs]
    cases hws : w.prerelease with
    | nil =>
      have hne := (hv.orderLabels_ne_eq hws hvne).2
      exact CanonicalVersion.orderPrereleases_of_none_right hne (hv.label_eq hvne)
        (canonicalForm_label_of_nil hws)
    | cons second later =>
      have hwne : w.prerelease ≠ [] := by simp [hws]
      rw [CanonicalVersion.orderPrereleases_of_labels (hv.label_eq hvne) (hw.label_eq hwne),
        CanonicalVersion.orderLabels, hv.ranks_eq hvne, hw.ranks_eq hwne, orderParts_map_rankOf, hvs, hws,
        prereleasePrecedence]

private theorem WellFormed.orderLabelsByLength_eq {v w : Version} (hv : v.WellFormed)
    (hw : w.WellFormed) :
    v.canonicalForm.orderLabelsByLength w.canonicalForm = v.canonicalForm.orderLabels w.canonicalForm := by
  have hjoin (x : CanonicalVersion) : x.label.getD [] = Text.join '.' x.parts := (Text.join_split _ _).symm
  rw [CanonicalVersion.orderLabelsByLength, CanonicalVersion.orderLabels, hjoin, hjoin]
  apply CanonicalVersion.orderCommonParts_then_length (Text.split_ne_nil _ _) (Text.split_ne_nil _ _)
  intro a ha b hb h
  obtain ⟨haAscii, haNormal⟩ := hv.part_normal ha
  obtain ⟨hbAscii, hbNormal⟩ := hw.part_normal hb
  rw [ofPart_eq_rankOf haAscii, ofPart_eq_rankOf hbAscii, ← identifierPrecedence_eq,
    identifierPrecedence_eq_eq_iff, haNormal, hbNormal] at h
  exact h

private theorem WellFormed.orderByLength_eq {v w : Version} (hv : v.WellFormed)
    (hw : w.WellFormed) :
    v.canonicalForm.orderByLength w.canonicalForm = v.canonicalForm.order w.canonicalForm := by
  rw [CanonicalVersion.orderByLength, hv.orderLabelsByLength_eq hw]
  rfl

theorem WellFormed.canonicalForm_order {v w : Version} (hv : v.WellFormed) (hw : w.WellFormed) :
    v.canonicalForm.order w.canonicalForm = v.precedence w := by
  rw [CanonicalVersion.order, hv.orderCores_eq hw, hv.orderPrereleases_eq hw, precedence,
    Ordering.then_assoc, Ordering.then_assoc]

theorem WellFormed.order_eq {v w : Version} (hv : v.WellFormed) (hw : w.WellFormed)
    (hvs : v.HasShortNumerals) (hws : w.HasShortNumerals) : v.order w = .ok (v.precedence w) := by
  rw [order, orderRead, ok_bind, ok_bind, hv.canonical_eq hvs, hw.canonical_eq hws, ok_bind, ok_bind,
    hv.isReadable, hw.isReadable, hv.canonicalForm_order hw]
  simp [pure, Except.pure]

theorem orderTexts_of_parse {a b : Text} {v w : Version} (hv : parse a = .ok v)
    (hw : parse b = .ok w)
    (hvs : v.HasShortNumerals) (hws : w.HasShortNumerals) : orderTexts a b = .ok (v.precedence w) := by
  rw [orderTexts, hv, hw]
  exact (parse_wellFormed hv).order_eq (parse_wellFormed hw) hvs hws

/-- Two versions have an order only if neither has a long numeral. -/
theorem WellFormed.hasShortNumerals_of_order {v w : Version} (hv : v.WellFormed) (hw : w.WellFormed)
    {order : Ordering}
    (h : v.order w = .ok order) : v.HasShortNumerals ∧ w.HasShortNumerals := by
  obtain ⟨x, hx, hrest⟩ := bind_eq_ok.mp h
  obtain ⟨y, hy, _⟩ := bind_eq_ok.mp hrest
  exact ⟨hv.hasShortNumerals_of_canonical hx, hw.hasShortNumerals_of_canonical hy⟩

/-- Two texts have an order only if both are read as such versions. -/
theorem orderTexts_eq_ok_iff {a b : Text} {order : Ordering} :
    orderTexts a b = .ok order ↔ ∃ v w, parse a = .ok v ∧ parse b = .ok w ∧
      (v.HasShortNumerals ∧ w.HasShortNumerals) ∧ v.precedence w = order := by
  constructor
  · intro h
    obtain ⟨_, ha, hrest⟩ := bind_eq_ok.mp h
    obtain ⟨_, hb, _⟩ := bind_eq_ok.mp hrest
    obtain ⟨v, hv, _⟩ := bind_eq_ok.mp ha
    obtain ⟨w, hw, _⟩ := bind_eq_ok.mp hb
    have horder : v.order w = .ok order := by rwa [orderTexts, hv, hw] at h
    have hshort := (parse_wellFormed hv).hasShortNumerals_of_order (parse_wellFormed hw) horder
    exact ⟨v, w, hv, hw, hshort, Except.ok.inj ((orderTexts_of_parse hv hw hshort.1 hshort.2).symm.trans h)⟩
  · rintro ⟨v, w, hv, hw, ⟨hvs, hws⟩, rfl⟩
    exact orderTexts_of_parse hv hw hvs hws

theorem orderTexts_swap {a b : Text} {order : Ordering} (h : orderTexts a b = .ok order) :
    orderTexts b a = .ok order.swap := by
  obtain ⟨v, w, hv, hw, ⟨hvs, hws⟩, rfl⟩ := orderTexts_eq_ok_iff.mp h
  have hswap : w.precedence v = (v.precedence w).swap := Std.OrientedCmp.eq_swap
  rw [orderTexts_of_parse hw hv hws hvs, hswap]

/-- Texts that have an order with a third have one with each other, which goes through the third. -/
theorem orderTexts_trans {a b c : Text} {ab bc : Ordering} (hab : orderTexts a b = .ok ab)
    (hbc : orderTexts b c = .ok bc) :
    ∃ ac, orderTexts a c = .ok ac ∧ (ab.isLE = true → bc.isLE = true → ac.isLE = true) ∧
      (ab.isGE = true → bc = .gt → ac = .gt) := by
  obtain ⟨u, v, hu, hv, ⟨hus, _⟩, rfl⟩ := orderTexts_eq_ok_iff.mp hab
  obtain ⟨v', w, hv', hw, ⟨_, hws⟩, rfl⟩ := orderTexts_eq_ok_iff.mp hbc
  cases hv.symm.trans hv'
  exact ⟨_, orderTexts_of_parse hu hw hus hws, Std.TransCmp.isLE_trans, Std.TransCmp.gt_of_isGE_of_gt⟩

/-- The order of two accepted texts is the precedence of the fields that were read from them, in
which build metadata has no part. It does not matter whether the number of parts ends a tie of
labels or the length of their texts. -/
theorem orderTexts_eq_precedence {a b : Text} {v w : Version} (hv : parse a = .ok v)
    (hw : parse b = .ok w)
    (hvs : v.HasShortNumerals) (hws : w.HasShortNumerals) :
    orderTexts a b = .ok (v.precedence w) ∧
      ∃ x y, v.canonical = .ok x ∧ w.canonical = .ok y ∧ x.orderByLength y = v.precedence w := by
  have hvwf := parse_wellFormed hv
  have hwwf := parse_wellFormed hw
  refine ⟨orderTexts_of_parse hv hw hvs hws, v.canonicalForm, w.canonicalForm, hvwf.canonical_eq hvs,
    hwwf.canonical_eq hws, ?_⟩
  rw [hvwf.orderByLength_eq hwwf, hvwf.canonicalForm_order hwwf]

/-- A padded number counts by its value, and build metadata does not count. -/
theorem orderTexts_eq_precedence_padded :
    parse "1.0.0-alpha.01+x" = .ok ⟨1, 0, 0, ["alpha", "01"]⟩ ∧
      parse "1.0.0-alpha.1.beta" = .ok ⟨1, 0, 0, ["alpha", "1", "beta"]⟩ ∧
      orderTexts "1.0.0-alpha.01+x" "1.0.0-alpha.1.beta" = .ok .lt := by
  have hv : parse "1.0.0-alpha.01+x" = .ok ⟨1, 0, 0, ["alpha", "01"]⟩ := by rfl
  have hw : parse "1.0.0-alpha.1.beta" = .ok ⟨1, 0, 0, ["alpha", "1", "beta"]⟩ := by rfl
  have hvs : HasShortNumerals ⟨1, 0, 0, ["alpha", "01"]⟩ := by unfold HasShortNumerals; decide
  have hws : HasShortNumerals ⟨1, 0, 0, ["alpha", "1", "beta"]⟩ := by unfold HasShortNumerals; decide
  refine ⟨hv, hw, (orderTexts_eq_precedence hv hw hvs hws).1.trans ?_⟩
  rfl

/-- The order of accepted texts is a total preorder: it always gives an answer, swapping the texts
swaps it, it is transitive, and equal texts stand alike to every third. Texts are equal in it if and
only if their core numbers are and their identifiers agree but for leading zeros. -/
theorem orderTexts_totalPreorder {a b c : Text} {u v w : Version} (ha : parse a = .ok u)
    (hb : parse b = .ok v)
    (hc : parse c = .ok w) (hu : u.HasShortNumerals) (hv : v.HasShortNumerals) (hw : w.HasShortNumerals) :
    ∃ ab ba bc ac, orderTexts a b = .ok ab ∧ orderTexts b a = .ok ba ∧ orderTexts b c = .ok bc ∧
      orderTexts a c = .ok ac ∧ ab = ba.swap ∧ (ab.isLE → bc.isLE → ac.isLE) ∧ (ab = .eq → ac = bc) ∧
      (ab = .eq ↔ u.major = v.major ∧ u.minor = v.minor ∧ u.patch = v.patch ∧
        u.prerelease.map normalIdentifier = v.prerelease.map normalIdentifier) := by
  refine ⟨u.precedence v, v.precedence u, v.precedence w, u.precedence w, orderTexts_of_parse ha hb hu hv,
    orderTexts_of_parse hb ha hv hu, orderTexts_of_parse hb hc hv hw, orderTexts_of_parse ha hc hu hw, ?_⟩
  refine ⟨Std.OrientedCmp.eq_swap, Std.TransCmp.isLE_trans, ?_, precedence_eq_eq_iff⟩
  intro heq
  exact Std.TransCmp.congr_left heq

theorem orderTexts_totalPreorder_releases :
    ∃ ab ba bc ac, orderTexts "1.0.0-rc.7" "1.0.0-rc.007+x" = .ok ab ∧
      orderTexts "1.0.0-rc.007+x" "1.0.0-rc.7" = .ok ba ∧ orderTexts "1.0.0-rc.007+x" "1.0.0" = .ok bc ∧
      orderTexts "1.0.0-rc.7" "1.0.0" = .ok ac ∧ ab = ba.swap ∧ (ab.isLE → bc.isLE → ac.isLE) ∧
      ab = .eq ∧ ac = bc := by
  have ha : parse "1.0.0-rc.7" = .ok ⟨1, 0, 0, ["rc", "7"]⟩ := by rfl
  have hb : parse "1.0.0-rc.007+x" = .ok ⟨1, 0, 0, ["rc", "007"]⟩ := by rfl
  have hc : parse "1.0.0" = .ok ⟨1, 0, 0, []⟩ := by rfl
  have hu : HasShortNumerals ⟨1, 0, 0, ["rc", "7"]⟩ := by unfold HasShortNumerals; decide
  have hv : HasShortNumerals ⟨1, 0, 0, ["rc", "007"]⟩ := by unfold HasShortNumerals; decide
  have hw : HasShortNumerals ⟨1, 0, 0, []⟩ := by unfold HasShortNumerals; decide
  obtain ⟨ab, ba, bc, ac, hab, hba, hbc, hac, hswap, htrans, hcongr, heq⟩ :=
    orderTexts_totalPreorder ha hb hc hu hv hw
  have hsame : ab = .eq := heq.mpr ⟨rfl, rfl, rfl, by decide⟩
  exact ⟨ab, ba, bc, ac, hab, hba, hbc, hac, hswap, htrans, hsame, hcongr hsame⟩

end Version

end CrateGuard
