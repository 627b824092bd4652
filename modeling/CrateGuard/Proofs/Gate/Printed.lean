import CrateGuard.Gate.Console
import CrateGuard.Proofs.Run
import CrateGuard.Violation

/-! What a run prints. An item is what one print leaves on a stream, so it may have several lines;
log records are no items, whether they are shown or not. Runs that do nothing but log print
nothing. -/

namespace CrateGuard

def Violation.item (violation : Violation) : Text :=
  "  - " ++ violation.message

def Message.errItem? : Message → Option Text
  | .err item => some item
  | _ => none

namespace Trace

def outItems (trace : Trace) : List Text :=
  trace.messages.filterMap Message.outLine?

def errItems (trace : Trace) : List Text :=
  trace.messages.filterMap Message.errItem?

theorem outItems_append (a b : Trace) : (a ++ b).outItems = a.outItems ++ b.outItems :=
  List.filterMap_append

theorem errItems_append (a b : Trace) : (a ++ b).errItems = a.errItems ++ b.errItems :=
  List.filterMap_append

/-- The text on the output stream is that of the items. -/
theorem outText_eq (trace : Trace) : trace.outText = textOfLines trace.outItems := rfl

/-- Settling keeps the items on the output stream. -/
theorem outItems_settled (style : LogStyle) (trace : Trace) :
    (trace.settled style).outItems = trace.outItems := by
  rw [outItems, settled, List.filterMap_filterMap, outItems]
  congr 1
  funext message
  cases message with
  | out line => rfl
  | err line => rfl
  | log level source text =>
    rw [Message.settled?]
    cases style.line? level source text <;> rfl

/-- The error stream gains items when records are settled and loses none. -/
theorem errItems_sublist_settled (style : LogStyle) (trace : Trace) :
    trace.errItems.Sublist (trace.settled style).errItems := by
  obtain ⟨messages, requests, commands, lookups⟩ := trace
  change (messages.filterMap Message.errItem?).Sublist
    ((messages.filterMap (Message.settled? style)).filterMap Message.errItem?)
  induction messages with
  | nil => exact .slnil
  | cons message rest ih =>
    cases message with
    | out line => exact ih
    | err line => exact ih.cons_cons line
    | log level source text =>
      have hitem : Message.errItem? (.log level source text) = none := rfl
      rw [List.filterMap_cons_none hitem]
      cases hline : style.line? level source text with
      | none =>
        have hsettled : Message.settled? style (.log level source text) = none := by
          rw [Message.settled?, hline, Option.map_none]
        rw [List.filterMap_cons_none hsettled]
        exact ih
      | some line =>
        have hsettled : Message.settled? style (.log level source text) = some (.err line) := by
          rw [Message.settled?, hline, Option.map_some]
        rw [List.filterMap_cons_some hsettled]
        exact ih.cons line

end Trace

namespace Run
variable {α β : Type} {out err : List Text}

/-- A run with the given items on the output and on the error stream. -/
structure Prints (run : Run α) (out err : List Text) : Prop where
  outItems_eq : run.trace.outItems = out
  errItems_eq : run.trace.errItems = err

def PrintsNothing (run : Run α) : Prop := run.Prints [] []

theorem printsNothing_pure (a : α) : (Pure.pure a : Run α).PrintsNothing := ⟨rfl, rfl⟩

theorem printsNothing_ofExcept (x : Except Crash α) : (ofExcept x).PrintsNothing := ⟨rfl, rfl⟩

theorem printsNothing_log (level : Level) (source : String) (text : Text) :
    (log level source text).PrintsNothing := ⟨rfl, rfl⟩

theorem prints_say_out (items : List Text) : (say (items.map .out)).Prints items [] := by
  constructor
  · change (items.map Message.out).filterMap Message.outLine? = items
    rw [List.filterMap_map]
    exact List.filterMap_some
  · change (items.map Message.out).filterMap Message.errItem? = []
    rw [List.filterMap_map]
    exact List.filterMap_eq_nil_iff.mpr fun _ _ => rfl

theorem prints_say_err (items : List Text) : (say (items.map .err)).Prints [] items := by
  constructor
  · change (items.map Message.err).filterMap Message.outLine? = []
    rw [List.filterMap_map]
    exact List.filterMap_eq_nil_iff.mpr fun _ _ => rfl
  · change (items.map Message.err).filterMap Message.errItem? = items
    rw [List.filterMap_map]
    exact List.filterMap_some

theorem Prints.say_append {first second : List Message} {laterOut laterErr : List Text}
    (hfirst : (say first).Prints out err) (hsecond : (say second).Prints laterOut laterErr) :
    (say (first ++ second)).Prints (out ++ laterOut) (err ++ laterErr) := by
  obtain ⟨hout, herr⟩ := hfirst
  obtain ⟨hlaterOut, hlaterErr⟩ := hsecond
  constructor
  · rw [← hout, ← hlaterOut]
    exact List.filterMap_append
  · rw [← herr, ← hlaterErr]
    exact List.filterMap_append

/-- After a start without items the items are those of what the run goes on with. -/
theorem PrintsNothing.bind_of_ok {x : Run α} {f : α → Run β} {a : α} (hx : x.PrintsNothing)
    (hresult : x.result = .ok a) (hf : (f a).Prints out err) : (x >>= f).Prints out err := by
  rw [Run.bind_of_ok hresult]
  constructor
  · rw [Trace.outItems_append, hx.outItems_eq, hf.outItems_eq, List.nil_append]
  · rw [Trace.errItems_append, hx.errItems_eq, hf.errItems_eq, List.nil_append]

/-- What goes on without items leaves those of the start. -/
theorem Prints.bind {x : Run α} {f : α → Run β} (hx : x.Prints out err)
    (hf : ∀ a, (f a).PrintsNothing) :
    (x >>= f).Prints out err := by
  cases hresult : x.result with
  | error crash =>
    rw [bind_of_crash hresult]
    exact ⟨hx.outItems_eq, hx.errItems_eq⟩
  | ok a =>
    rw [Run.bind_of_ok hresult]
    constructor
    · rw [Trace.outItems_append, hx.outItems_eq, (hf a).outItems_eq, List.append_nil]
    · rw [Trace.errItems_append, hx.errItems_eq, (hf a).errItems_eq, List.append_nil]

theorem PrintsNothing.bind {x : Run α} {f : α → Run β} (hx : x.PrintsNothing)
    (hf : ∀ a, (f a).PrintsNothing) :
    (x >>= f).PrintsNothing :=
  Prints.bind hx hf

end Run

end CrateGuard
