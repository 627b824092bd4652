import CrateGuard.Calendar.DateText
import CrateGuard.Settings.Reading

/-! The allowlist policy: time-boxed exceptions for advisories, and the longest time for which one
may be granted. Entries that are read have pairwise distinct texts as ids. -/

namespace CrateGuard

/-- An exception for one advisory, up to a day. -/
structure AllowEntry where
  id : Json
  reviewBy : Option Date

structure Policy where
  allow : List AllowEntry
  window : Int

namespace Policy

def defaultWindow : Int := 45

def entryFor (policy : Policy) (id : Json) : Option AllowEntry :=
  policy.allow.find? fun entry => entry.id.equals id

def inWindowRange (days : Int) : Option Int :=
  if 1 ≤ days && days ≤ maxReviewWindow then some days else none

/-- The window that a value sets: a whole number in range, however it is written. -/
def readWindow : Json → Option Int
  | .int days => inWindowRange days
  | .float x => x.integer?.bind inWindowRange
  | _ => none

def windowOf (metadata : Json.Fields) : Except SettingsFault Int :=
  match Json.field? metadata "max_review_window_days" with
  | none => .ok defaultWindow
  | some value =>
    match readWindow value with
    | some days => .ok days
    | none => .error .badWindow

def metadataOf : Json → Except SettingsFault Json.Fields
  | .null => .ok []
  | .obj fields => .ok fields
  | _ => .error .metadataNotObject

def rawEntries : Json → Except SettingsFault (List Json)
  | .null => .ok []
  | .arr items => .ok items
  | _ => .error .allowNotList

/-- The review date of an entry. What is not filled stands for none. -/
def reviewDate (index : Nat) (value : Json) : Except SettingsFault (Option Date) :=
  if !value.filled then .ok none
  else match value with
    | .str s =>
      match Date.read? s with
      | some date => .ok (some date)
      | none => .error (.badReviewDate index value)
    | _ => .error (.badReviewDate index value)

def readEntry (index : Nat) (seen : List Json) (raw : Json) : Except SettingsFault AllowEntry :=
  match raw with
  | .obj fields =>
    match Json.field fields "id" with
    | .str id =>
      if id = "" then .error (.entryWithoutId index)
      else if seen.any (Json.str id).same then .error (.duplicateEntry id)
      else (reviewDate index (Json.field fields "review_by")).map fun date => ⟨.str id, date⟩
    | _ => .error (.entryWithoutId index)
  | _ => .error (.entryNotObject index)

def readEntries (index : Nat) (seen : List Json) :
    List Json → Except SettingsFault (List AllowEntry)
  | [] => .ok []
  | raw :: rest => do
    let entry ← readEntry index seen raw
    let entries ← readEntries (index + 1) (entry.id :: seen) rest
    return entry :: entries

def ofJson : Json → Except SettingsFault Policy
  | .obj fields => do
    let metadata ← metadataOf (Json.field fields "metadata")
    let window ← windowOf metadata
    let raw ← rawEntries (Json.field fields "allow")
    let allow ← readEntries 0 [] raw
    return ⟨allow, window⟩
  | _ => .error .notObject

def usualPlace : List Text := ["security", "rustsec-policy.json"]

def load (files : FileTree) (place : ShownPath) : Run (Except SettingsFault Policy) :=
  Settings.load ofJson (fun policy => s!"{policy.allow.length} allowlist entries") files place

end Policy

end CrateGuard
