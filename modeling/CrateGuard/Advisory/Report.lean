import CrateGuard.Crash
import CrateGuard.Json.Display
import CrateGuard.Source.Fault

/-! Advisory reports: the vulnerabilities and the lesser warnings that a scan found. A section, list
or element of the scan output that is absent or null counts as empty, so that no element is lost;
one of another shape is refused. -/

namespace CrateGuard

structure Vulnerability where
  id : Json
  packageName : Json
  packageVersion : Json

inductive WarningCategory
  | unmaintained
  | unsound
  | notice
  deriving DecidableEq, Repr

def WarningCategory.name : WarningCategory → String
  | .unmaintained => "unmaintained"
  | .unsound => "unsound"
  | .notice => "notice"

/-- A lesser finding; its advisory id and package name are null where the scan gives none. -/
structure AdvisoryWarning where
  category : WarningCategory
  advisoryId : Json
  packageName : Json

structure AdvisoryReport where
  vulnerabilities : List Vulnerability
  unmaintained : List AdvisoryWarning
  unsound : List AdvisoryWarning
  notice : List AdvisoryWarning

namespace AdvisoryReport

def warnings (report : AdvisoryReport) : List AdvisoryWarning :=
  report.unmaintained ++ report.unsound ++ report.notice

/-- A set of values with one more member, unless an equal one is there. -/
def addMember (members : List Json) (value : Json) : List Json :=
  if members.any value.same then members else members ++ [value]

/-- The advisory ids of the lesser findings, each once. Lists and objects cannot be ids. -/
def advisoryIds (report : AdvisoryReport) : Except Crash (List Json) :=
  let ids := (report.warnings.map AdvisoryWarning.advisoryId).filter Json.filled
  if ids.all Json.hashable then .ok (ids.foldl addMember []) else .error .unhashable

def sectionFields (label : String) : Json → Except SourceFault Json.Fields
  | .null => .ok []
  | .obj fields => .ok fields
  | _ => .error (.fieldNotObject label)

def items (label : String) : Json → Except SourceFault (List Json)
  | .null => .ok []
  | .arr values => .ok values
  | _ => .error (.fieldNotList label)

/-- An element of a list with the sections that tell of its advisory and its package. -/
structure Element where
  own : Json.Fields
  advisory : Json.Fields
  package : Json.Fields

def readElement (label : String) (index : Nat) (raw : Json) : Except SourceFault Element := do
  let own ← sectionFields s!"{label}[{index}]" raw
  let advisory ← sectionFields s!"{label}[{index}].advisory" (Json.field own "advisory")
  let package ← sectionFields s!"{label}[{index}].package" (Json.field own "package")
  return ⟨own, advisory, package⟩

def textOrEmpty (value : Json) : Json :=
  .str (value.orElse (.str "")).text

/-- The vulnerability that an element tells of; its own id goes before that of the advisory. -/
def vulnerabilityOf (element : Element) : Vulnerability :=
  ⟨textOrEmpty ((Json.field element.own "id").orElse (Json.field element.advisory "id")),
    textOrEmpty (Json.field element.package "name"),
    textOrEmpty (Json.field element.package "version")⟩

def warningOf (category : WarningCategory) (element : Element) : AdvisoryWarning :=
  ⟨category, (Json.field element.advisory "id").orElse .null,
    (Json.field element.package "name").orElse .null⟩

def readWarnings (fields : Json.Fields) (category : WarningCategory) :
    Except SourceFault (List AdvisoryWarning) := do
  let label := "warnings." ++ category.name
  let raw ← items label (Json.field fields category.name)
  let elements ← Json.readEach (readElement label) 0 raw
  return elements.map (warningOf category)

def ofJson : Json → Except SourceFault AdvisoryReport
  | .obj fields => do
    let vulnerable ← sectionFields "vulnerabilities" (Json.field fields "vulnerabilities")
    let raw ← items "vulnerabilities.list" (Json.field vulnerable "list")
    let elements ← Json.readEach (readElement "vulnerabilities.list") 0 raw
    let warned ← sectionFields "warnings" (Json.field fields "warnings")
    let unmaintained ← readWarnings warned .unmaintained
    let unsound ← readWarnings warned .unsound
    let notice ← readWarnings warned .notice
    return ⟨elements.map vulnerabilityOf, unmaintained, unsound, notice⟩
  | _ => .error .reportNotObject

end AdvisoryReport

end CrateGuard
