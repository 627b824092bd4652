import CrateGuard.Proofs.Gate.Printed

/-! What of a run is shown. Runs whose traces are alike once log records are settled show the same
lines. A run that leaves nothing but records below the level that is shown is quiet. -/

namespace CrateGuard
variable {style : LogStyle}

namespace Trace

theorem settled_append (a b : Trace) :
    (a ++ b).settled style = a.settled style ++ b.settled style := by
  change settled style (append a b) = append (a.settled style) (b.settled style)
  rw [settled, append, List.filterMap_append]
  rfl

theorem outText_append (a b : Trace) : (a ++ b).outText = a.outText ++ b.outText := by
  rw [outText_eq, outItems_append, textOfLines, List.flatMap_append]
  rfl

theorem errText_append (a b : Trace) :
    (a ++ b).errText style = a.errText style ++ b.errText style := by
  change errText style (append a b) = _
  simp only [errText, append, textOfLines, List.filterMap_append, List.flatMap_append]

/-- The lines on both streams can be read off the settled trace. -/
theorem outText_settled (trace : Trace) : (trace.settled style).outText = trace.outText := by
  rw [outText_eq, outItems_settled, outText_eq]

theorem errText_settled (trace : Trace) :
    (trace.settled style).errText style = trace.errText style := by
  rw [errText, settled, List.filterMap_filterMap, errText]
  congr 2
  funext message
  cases message with
  | out line => rfl
  | err line => rfl
  | log level source text =>
    rw [Message.settled?, Message.errLine?]
    cases style.line? level source text <;> rfl

end Trace

namespace Run
variable {α β : Type}

/-- A run of which nothing is shown, and that asks for nothing. -/
def IsQuiet (style : LogStyle) (run : Run α) : Prop :=
  run.trace.settled style = Trace.empty

theorem isQuiet_pure (a : α) : (Pure.pure a : Run α).IsQuiet style := rfl

theorem IsQuiet.bind {x : Run α} {f : α → Run β} (hx : x.IsQuiet style)
    (hf : ∀ a, (f a).IsQuiet style) :
    (x >>= f).IsQuiet style := by
  change (Run.bind x f).IsQuiet style
  unfold Run.bind
  cases x.result with
  | error crash => exact hx
  | ok a =>
    change Trace.settled style (x.trace ++ (f a).trace) = _
    rw [Trace.settled_append, hx, hf a]
    rfl

theorem isQuiet_foldlM {f : β → α → Run β} (h : ∀ b a, (f b a).IsQuiet style) (as : List α)
    (b : β) :
    (as.foldlM f b).IsQuiet style := by
  induction as generalizing b with
  | nil => exact isQuiet_pure b
  | cons a rest ih =>
    rw [List.foldlM_cons]
    exact (h b a).bind ih

/-- Unless all is shown, a record for debugging is not. -/
theorem isQuiet_log_debug (hstyle : style ≠ .labelled .debug) (source : String) (text : Text) :
    (log .debug source text).IsQuiet style := by
  cases style with
  | bare => rfl
  | labelled lowest =>
    cases lowest with
    | debug => exact absurd rfl hstyle
    | info => rfl
    | warning => rfl

/-- A run that shows nothing and asks the registry nothing; it may start commands. -/
def IsSilent (run : Run α) : Prop :=
  ∃ commands, run.trace.settled .bare = ⟨[], [], commands, []⟩

theorem IsQuiet.isSilent {run : Run α} (h : run.IsQuiet .bare) : run.IsSilent := ⟨[], h⟩

theorem isSilent_ofExcept (x : Except Crash α) : (ofExcept x).IsSilent := IsQuiet.isSilent rfl

/-- What shows nothing prints nothing. -/
theorem IsSilent.printsNothing {run : Run α} (h : run.IsSilent) : run.PrintsNothing := by
  obtain ⟨commands, htrace⟩ := h
  constructor
  · rw [← Trace.outItems_settled .bare, htrace]
    rfl
  · have hsublist := run.trace.errItems_sublist_settled .bare
    rw [htrace] at hsublist
    exact List.sublist_nil.mp hsublist

theorem IsSilent.bind {x : Run α} {f : α → Run β} (hx : x.IsSilent) (hf : ∀ a, (f a).IsSilent) :
    (x >>= f).IsSilent := by
  obtain ⟨first, hfirst⟩ := hx
  cases hresult : x.result with
  | error crash =>
    rw [bind_of_crash hresult]
    exact ⟨first, hfirst⟩
  | ok a =>
    obtain ⟨later, hlater⟩ := hf a
    rw [bind_of_ok hresult]
    refine ⟨first ++ later, ?_⟩
    rw [Trace.settled_append, hfirst, hlater]
    rfl

structure Shows (run : Run α) (out err : List Text) : Prop extends run.Prints out err where
  errText_eq : run.trace.errText .bare = textOfLines err

theorem shows_say_out (items : List Text) : (say (items.map .out)).Shows items [] := by
  refine ⟨prints_say_out items, ?_⟩
  change textOfLines ((items.map Message.out).filterMap (Message.errLine? .bare)) = textOfLines []
  rw [List.filterMap_map]
  exact congrArg textOfLines (List.filterMap_eq_nil_iff.mpr fun _ _ => rfl)

theorem shows_say_err (items : List Text) : (say (items.map .err)).Shows [] items := by
  refine ⟨prints_say_err items, ?_⟩
  change textOfLines ((items.map Message.err).filterMap (Message.errLine? .bare)) = textOfLines items
  rw [List.filterMap_map]
  exact congrArg textOfLines List.filterMap_some

/-- After a silent start what is shown is what the run goes on to show. -/
theorem IsSilent.bind_shows {x : Run α} {f : α → Run β} {a : α} {out err : List Text}
    (hx : x.IsSilent)
    (hresult : x.result = .ok a) (hf : (f a).Shows out err) : (x >>= f).Shows out err := by
  refine ⟨hx.printsNothing.bind_of_ok hresult hf.toPrints, ?_⟩
  obtain ⟨commands, htrace⟩ := hx
  rw [bind_of_ok hresult, Trace.errText_append, ← Trace.errText_settled, htrace, hf.errText_eq]
  rfl

/-- A result that is put in place of another is not shown. -/
theorem Shows.bind_pure {x : Run α} {out err : List Text} (hx : x.Shows out err) (b : β) :
    (x >>= fun _ => (Pure.pure b : Run β)).Shows out err := by
  refine ⟨hx.toPrints.bind fun _ => printsNothing_pure b, ?_⟩
  rw [← hx.errText_eq]
  cases hresult : x.result with
  | error crash => rw [bind_of_crash hresult]
  | ok a =>
    rw [bind_of_ok hresult]
    exact congrArg (Trace.errText .bare) (Trace.append_empty _)

end Run

/-- Two acts look the same if they leave the same files, give the same result, print the same on
both streams, and ask for the same and start the same commands. -/
structure LooksSame {α : Type} (style : LogStyle) (first second : FileTree × Run α) : Prop where
  files_eq : first.1 = second.1
  result_eq : first.2.result = second.2.result
  outText_eq : first.2.trace.outText = second.2.trace.outText
  errText_eq : first.2.trace.errText style = second.2.trace.errText style
  requests_eq : first.2.trace.requests = second.2.trace.requests
  lookups_eq : first.2.trace.lookups = second.2.trace.lookups
  commands_eq : first.2.trace.commands = second.2.trace.commands

namespace Act
variable {α β : Type}

private theorem looksSame_of_settled {first second : FileTree × Run α} (hfiles : first.1 = second.1)
    (h : first.2.settled style = second.2.settled style) : LooksSame style first second := by
  have htrace : first.2.trace.settled style = second.2.trace.settled style := congrArg Run.trace h
  have hresult : (first.2.settled style).result = (second.2.settled style).result := by rw [h]
  have hrequests : (first.2.trace.settled style).requests = (second.2.trace.settled style).requests := by rw [htrace]
  have hlookups : (first.2.trace.settled style).lookups = (second.2.trace.settled style).lookups := by rw [htrace]
  have hcommands : (first.2.trace.settled style).commands = (second.2.trace.settled style).commands := by rw [htrace]
  refine ⟨hfiles, hresult, ?_, ?_, hrequests, hlookups, hcommands⟩
  · rw [← Trace.outText_settled, htrace, Trace.outText_settled]
  · rw [← Trace.errText_settled, htrace, Trace.errText_settled]

/-- Acts that start alike and go on alike look the same. -/
theorem looksSame_bind {x y : Act α} {f g : α → Act β} {files : FileTree}
    (hfiles : (x files).1 = (y files).1)
    (htrace : (x files).2.trace.settled style = (y files).2.trace.settled style)
    (hnext : (x files).2.result.map f = (y files).2.result.map g) :
    LooksSame style ((x >>= f) files) ((y >>= g) files) := by
  change LooksSame style (Act.bind x f files) (Act.bind y g files)
  unfold Act.bind
  cases hx : (x files).2.result with
  | error crash =>
    cases hy : (y files).2.result with
    | error other =>
      rw [hx, hy] at hnext
      cases hnext
      apply looksSame_of_settled
      · simp only [hx, hy, hfiles]
      · simp only [Run.settled, hx, hy, htrace]
    | ok b =>
      rw [hx, hy] at hnext
      cases hnext
  | ok a =>
    cases hy : (y files).2.result with
    | error other =>
      rw [hx, hy] at hnext
      cases hnext
    | ok b =>
      rw [hx, hy] at hnext
      have hsame : f a = g b := Except.ok.inj hnext
      apply looksSame_of_settled
      · simp only [hx, hy, hfiles, hsame]
      · simp only [Run.settled, hx, hy, hsame, hfiles, Trace.settled_append, htrace]

end Act

end CrateGuard
