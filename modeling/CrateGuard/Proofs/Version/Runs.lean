import CrateGuard.Proofs.Except
import CrateGuard.Version.Ranking

/-! Rows of versions that are read run by run. If all texts of a row can be read, the order in which
they are read does not matter: the row is read whole and in its own order, however long its runs
are, and is sorted by what it is read as. -/

namespace CrateGuard.Version

section
variable {keyOf : Text → CanonicalVersion} {texts : List Text}

/-- A run takes the first keys of a row, the one that ends it last. -/
private theorem readRun_eq (falling : Bool) (last : CanonicalVersion)
    (h : ∀ s ∈ texts, key s = .ok (keyOf s)) :
    ∃ run ending, readRun falling last texts = .ok (run, ending) ∧ run ++ ending.toList <+: texts.map keyOf := by
  induction texts generalizing last with
  | nil => exact ⟨[], none, rfl, List.nil_prefix⟩
  | cons next rest ih =>
    obtain ⟨hnext, hrest⟩ := List.forall_mem_cons.mp h
    rw [readRun, hnext, ok_bind]
    split
    · obtain ⟨run, ending, hrun, hprefix⟩ := ih (keyOf next) hrest
      rw [hrun]
      exact ⟨keyOf next :: run, ending, rfl, (List.prefix_cons_inj _).mpr hprefix⟩
    · exact ⟨[], some (keyOf next), rfl, rest.map keyOf, rfl⟩

private theorem keyUnless_eq {known : Option CanonicalVersion} {first : Text}
    (hfirst : key first = .ok (keyOf first))
    (hknown : ∀ k ∈ known, k = keyOf first) : keyUnless known first = .ok (keyOf first) := by
  cases known with
  | none => exact hfirst
  | some k => exact congrArg Except.ok (hknown k rfl)

/-- The first key of a row may be known from the run before it. -/
private theorem readRuns_eq (least : Nat) (known : Option CanonicalVersion)
    (h : ∀ s ∈ texts, key s = .ok (keyOf s))
    (hknown : ∀ k ∈ known, (texts.map keyOf).head? = some k) : readRuns least known texts = .ok (texts.map keyOf) := by
  -- a run may be of any length, so the induction is on how many texts are left
  induction hlength : texts.length using Nat.strongRecOn generalizing known texts with
  | ind length ih =>
    rcases texts with _ | ⟨first, _ | ⟨second, rest⟩⟩
    · rw [readRuns]
      rfl
    · rw [readRuns, keyUnless_eq (h first (List.mem_singleton_self first)) fun k hk =>
        (Option.some.inj (hknown k hk)).symm]
      rfl
    · obtain ⟨hfirst, h⟩ := List.forall_mem_cons.mp h
      obtain ⟨hsecond, hrest⟩ := List.forall_mem_cons.mp h
      obtain ⟨run, ending, hrun, after, hafter⟩ :=
        readRun_eq ((keyOf second).order (keyOf first) == .lt) (keyOf second) hrest
      have hlater (known : Option CanonicalVersion) (count : Nat)
          (hknown : ∀ k ∈ known, ((rest.drop count).map keyOf).head? = some k) :
          readRuns least known (rest.drop count) = .ok ((rest.drop count).map keyOf) := by
        refine ih _ ?_ known (fun s hs => hrest s (List.mem_of_mem_drop hs)) hknown rfl
        simp only [List.length_cons] at hlength
        rw [List.length_drop]
        omega
      rw [readRuns, hsecond, ok_bind, keyUnless_eq hfirst fun k hk => (Option.some.inj (hknown k hk)).symm, ok_bind,
        hrun, ok_bind]
      dsimp only
      split
      · have hdrop : (rest.drop run.length).map keyOf = ending.toList ++ after := by
          rw [List.map_drop, ← hafter, List.append_assoc, List.drop_left]
        rw [hlater ending run.length (by rintro k rfl; rw [hdrop]; rfl), ok_bind, hdrop, List.map_cons, List.map_cons,
          ← hafter]
        simp [pure, Except.pure]
      next hshort =>
        -- the run is filled up with the texts after it, and the row goes on after those
        obtain ⟨unread, hunread⟩ : ∃ unread, rest.drop (run.length + ending.toList.length) = unread := ⟨_, rfl⟩
        obtain ⟨fill, hfill⟩ : ∃ fill, least - (run.length + 2) - ending.toList.length = fill := ⟨_, rfl⟩
        have hmap : unread.map keyOf = after := by
          rw [← hunread, List.map_drop, ← hafter, ← List.length_append, List.drop_left]
        have hfilling : (unread.take fill).mapM key = .ok (after.take fill) := by
          rw [mapM_eq_ok_map fun s hs => hrest s (List.mem_of_mem_drop (hunread ▸ List.mem_of_mem_take hs)),
            List.map_take, hmap]
        have hrow : (rest.drop (run.length + (least - (run.length + 2)))).map keyOf = after.drop fill := by
          have hending : ending.toList.length ≤ 1 := by cases ending <;> simp
          have hcount : run.length + (least - (run.length + 2)) = run.length + ending.toList.length + fill := by omega
          rw [hcount, ← List.drop_drop, hunread, List.map_drop, hmap]
        rw [hunread, hfill, hfilling, ok_bind, hlater none _ (by simp), ok_bind, hrow, List.map_cons, List.map_cons,
          ← hafter]
        simp [pure, Except.pure]

/-- A row on its own, whose text sorting does not read, is sorted too. -/
theorem sort_eq (h : ∀ s ∈ texts, key s = .ok (keyOf s)) :
    sort texts = .ok (((texts.zip (texts.map keyOf)).mergeSort fun a b => (a.2.order b.2).isLE).map (·.1)) := by
  rcases texts with _ | ⟨first, _ | ⟨second, rest⟩⟩
  · simp [sort, pure, Except.pure]
  · simp [sort, pure, Except.pure]
  · rw [sort, if_neg (by simp), readRuns_eq _ none h (by simp)]
    rfl

end

end CrateGuard.Version
