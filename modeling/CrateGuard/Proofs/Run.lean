import CrateGuard.Gate.Act
import CrateGuard.Proofs.Except

/-! Results of runs. The result of a run made of two parts is that of the parts put together, so a
run gives a result only if both parts do. -/

namespace CrateGuard

namespace Trace

@[simp] theorem append_empty (a : Trace) : a ++ empty = a := by
  change append a empty = a
  simp [append, empty]

theorem append_assoc (a b c : Trace) : a ++ b ++ c = a ++ (b ++ c) := by
  change append (append a b) c = append a (append b c)
  simp only [append, List.append_assoc]

@[simp] theorem lookups_append (a b : Trace) : (a ++ b).lookups = a.lookups ++ b.lookups := rfl

end Trace

namespace Run
variable {α β γ : Type}

@[simp] theorem result_pure (a : α) : (Pure.pure a : Run α).result = .ok a := rfl

@[simp] theorem result_ofExcept (x : Except Crash α) : (ofExcept x).result = x := rfl

@[simp] theorem ofExcept_ok (a : α) : ofExcept (.ok a) = Pure.pure a := rfl

@[simp] theorem result_say (messages : List Message) : (say messages).result = .ok () := rfl

@[simp] theorem result_log (level : Level) (source : String) (text : Text) :
    (log level source text).result = .ok () := rfl

@[simp] theorem result_noteLookup (name : Text) : (noteLookup name).result = .ok () := rfl

@[simp] theorem result_bind (x : Run α) (f : α → Run β) :
    (x >>= f).result = x.result >>= fun a => (f a).result := by
  change (Run.bind x f).result = _
  unfold Run.bind
  cases h : x.result <;> rfl

theorem result_bind_eq_ok {x : Run α} {f : α → Run β} {b : β} :
    (x >>= f).result = .ok b ↔ ∃ a, x.result = .ok a ∧ (f a).result = .ok b := by
  rw [result_bind, bind_eq_ok]

theorem result_bind_congr (x : Run α) {f g : α → Run β} (h : ∀ a, (f a).result = (g a).result) :
    (x >>= f).result = (x >>= g).result := by
  rw [result_bind, result_bind]
  exact congrArg (x.result >>= ·) (funext h)

theorem bind_of_ok {x : Run α} {a : α} (h : x.result = .ok a) (f : α → Run β) :
    x >>= f = ⟨(f a).result, x.trace ++ (f a).trace⟩ := by
  change Run.bind x f = _
  rw [Run.bind, h]

theorem bind_of_crash {x : Run α} {crash : Crash} (h : x.result = .error crash) (f : α → Run β) :
    x >>= f = ⟨.error crash, x.trace⟩ := by
  change Run.bind x f = _
  rw [Run.bind, h]

protected theorem bind_assoc (x : Run α) (f : α → Run β) (g : β → Run γ) :
    x >>= f >>= g = x >>= fun a => f a >>= g := by
  cases hx : x.result with
  | error crash =>
    have hfirst : (x >>= f).result = .error crash := by rw [bind_of_crash hx]
    rw [bind_of_crash hfirst, bind_of_crash hx, bind_of_crash hx]
  | ok a =>
    have hfirst : (x >>= f).result = (f a).result := by rw [bind_of_ok hx]
    cases hf : (f a).result with
    | error crash => rw [bind_of_crash (hfirst.trans hf), bind_of_ok hx, bind_of_ok hx, bind_of_crash hf]
    | ok b => rw [bind_of_ok (hfirst.trans hf), bind_of_ok hx, bind_of_ok hx, bind_of_ok hf, Trace.append_assoc]

protected theorem bind_pure (x : Run α) : x >>= Pure.pure = x := by
  cases hx : x.result with
  | error crash => rw [bind_of_crash hx, ← hx]
  | ok a =>
    rw [bind_of_ok hx, result_pure, ← hx]
    exact congrArg (mk x.result) (Trace.append_empty x.trace)

theorem lookups_bind_eq_nil {x : Run α} {f : α → Run β} (hx : x.trace.lookups = [])
    (hf : ∀ a, (f a).trace.lookups = []) : (x >>= f).trace.lookups = [] := by
  cases hresult : x.result with
  | error crash => rw [bind_of_crash hresult, hx]
  | ok a => rw [bind_of_ok hresult, Trace.lookups_append, hx, hf a, List.append_nil]

instance : LawfulMonad Run :=
  LawfulMonad.mk' Run Run.bind_pure (fun _ _ => rfl) Run.bind_assoc

@[simp] theorem result_map (f : α → β) (x : Run α) : (f <$> x).result = x.result.map f := by
  rw [← bind_pure_comp, result_bind]
  cases x.result <;> rfl

def mapResult (f : α → β) (run : Run α) : Run β :=
  ⟨run.result.map f, run.trace⟩

private theorem mapResult_bind (x : Run α) (f : α → Run β) (g : β → γ) :
    (x >>= f).mapResult g = x >>= fun a => (f a).mapResult g := by
  change (Run.bind x f).mapResult g = Run.bind x _
  unfold Run.bind
  cases x.result <;> rfl

/-- Runs that go on alike after the same start, but for their results, are alike but for their
results. -/
theorem bind_eq_mapResult {f : α → Run γ} {g : α → Run β} {h : β → γ} (x : Run α)
    (hnext : ∀ a, f a = (g a).mapResult h) : x >>= f = (x >>= g).mapResult h := by
  rw [mapResult_bind]
  exact congrArg (x >>= ·) (funext hnext)

theorem bind_mapResult (x : Run α) (f : α → β) (g : β → Run γ) :
    x.mapResult f >>= g = x >>= fun a => g (f a) := by
  change Run.bind (x.mapResult f) g = Run.bind x _
  unfold Run.bind mapResult
  cases x.result <;> rfl

end Run

namespace Act
variable {α β γ : Type}

@[simp] theorem result_ofRun (run : Run α) (files : FileTree) : (ofRun run files).2 = run := rfl

@[simp] theorem result_reading (run : FileTree → Run α) (files : FileTree) :
    (reading run files).2 = run files := rfl

@[simp] theorem result_pure (a : α) (files : FileTree) : ((Pure.pure a : Act α) files).2.result = .ok a := rfl

@[simp] theorem result_say (messages : List Message) (files : FileTree) :
    (say messages files).2.result = .ok () := rfl

/-- The second part starts from the files that the first one leaves. -/
theorem result_bind (x : Act α) (f : α → Act β) (files : FileTree) :
    ((x >>= f) files).2.result =
      (x files).2.result >>= fun a => (f a (x files).1).2.result := by
  change (Act.bind x f files).2.result = _
  unfold Act.bind
  cases h : (x files).2.result <;> simp [h]

theorem bind_of_ok {x : Act α} {files : FileTree} {a : α} (h : (x files).2.result = .ok a)
    (f : α → Act β) :
    (x >>= f) files = ((f a (x files).1).1,
      ⟨(f a (x files).1).2.result, (x files).2.trace ++ (f a (x files).1).2.trace⟩) := by
  change Act.bind x f files = _
  simp only [Act.bind, h]

theorem bind_of_crash {x : Act α} {files : FileTree} {crash : Crash}
    (h : (x files).2.result = .error crash)
    (f : α → Act β) : (x >>= f) files = ((x files).1, ⟨.error crash, (x files).2.trace⟩) := by
  change Act.bind x f files = _
  simp only [Act.bind, h]

theorem bind_assoc (x : Act α) (f : α → Act β) (g : β → Act γ) :
    x >>= f >>= g = x >>= fun a => f a >>= g := by
  funext files
  cases hx : (x files).2.result with
  | error crash =>
    have hfirst : ((x >>= f) files).2.result = .error crash := by rw [bind_of_crash hx]
    rw [bind_of_crash hfirst, bind_of_crash hx, bind_of_crash hx]
  | ok a =>
    have hfirst : ((x >>= f) files).2.result = (f a (x files).1).2.result := by rw [bind_of_ok hx]
    rw [bind_of_ok hx]
    cases hf : (f a (x files).1).2.result with
    | error crash => rw [bind_of_crash (hfirst.trans hf), bind_of_crash hf, bind_of_ok hx]
    | ok b => rw [bind_of_ok (hfirst.trans hf), bind_of_ok hf, bind_of_ok hx, Trace.append_assoc]

/-- An act that changes nothing may be cut where one likes. -/
theorem reading_bind (x : FileTree → Run α) (f : α → Run β) :
    reading (fun files => x files >>= f) = reading x >>= fun a => ofRun (f a) := by
  funext files
  cases hx : (x files).result with
  | error crash => rw [bind_of_crash hx, reading, Run.bind_of_crash hx]; rfl
  | ok a => rw [bind_of_ok hx, reading, Run.bind_of_ok hx]; rfl

theorem pure_bind (a : α) (f : α → Act β) : (Pure.pure a : Act α) >>= f = f a := rfl

theorem reading_bind_of_ok {x : FileTree → Run α} {files : FileTree} {a : α}
    (h : (x files).result = .ok a)
    (f : α → Act β) :
    (reading x >>= f) files =
      ((f a files).1, ⟨(f a files).2.result, (x files).trace ++ (f a files).2.trace⟩) :=
  bind_of_ok h f

theorem reading_bind_of_crash {x : FileTree → Run α} {files : FileTree} {crash : Crash}
    (h : (x files).result = .error crash) (f : α → Act β) :
    (reading x >>= f) files = (files, ⟨.error crash, (x files).trace⟩) :=
  bind_of_crash h f

theorem ofRun_bind (x : Run α) (f : α → Run β) :
    ofRun (x >>= f) = ofRun x >>= fun a => ofRun (f a) :=
  reading_bind (fun _ => x) f

end Act

end CrateGuard
