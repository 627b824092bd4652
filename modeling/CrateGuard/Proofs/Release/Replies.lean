import CrateGuard.Proofs.Except
import CrateGuard.Proofs.Release.Addresses

/-! What replies of a registry tell. A reply that is accepted tells of a release if its body is an
object with an object for the package in it, and one of three fields of that is filled. All else is
refused as a fault of the registry, but for failures that a client does not expect and bodies that
are nested too deep, which pass it by. -/

namespace CrateGuard

/-- A version is the text of the first filled one of some fields. -/
def IsFirstFilled (names : List Text) (package : Json.Fields) (version : Text) : Prop :=
  ∃ before name after, names = before ++ name :: after ∧
    (∀ earlier ∈ before, (Json.field package earlier).filled = false) ∧
    (Json.field package name).filled = true ∧ version = (Json.field package name).text

/-- The kinds of failures that a client expects when it asks: the way to the registry failed, or a
value could not be used. -/
def FailureKind.isExpected : FailureKind → Bool
  | .transport _ | .value | .encoding => true
  | .key | .nesting | .other _ => false

def ReleaseFault.IsRefusal (fault : ReleaseFault) : Prop :=
  ∀ failure, fault ≠ .other failure

namespace RegistryReply

inductive Tells : RegistryReply → Text → Prop
  | intro {status : Int} {body version : Text} {fields package : Json.Fields} (haccepted : status < 400 ∨ 600 ≤ status)
      (hread : Json.read LatestRelease.bodyLimit body = .ok (.obj fields))
      (hpackage : Json.field fields "crate" = .obj package)
      (hfirst : IsFirstFilled ["max_stable_version", "max_version", "newest_version"] package version) :
      Tells (.answered status body) version

/-- A reply by which a failure passes the client: one that it does not expect, or that of a body
nested too deep. -/
inductive Passes : RegistryReply → Failure → Prop
  | failed {failure : Failure} (h : failure.kind.isExpected = false) : Passes (.failed failure) failure
  | nested {status : Int} {body : Text} {inObject : Bool} (haccepted : status < 400 ∨ 600 ≤ status)
      (hread : Json.read LatestRelease.bodyLimit body = .error (.tooDeep inObject)) :
      Passes (.answered status body) ⟨.nesting, (Json.ReadFault.tooDeep inObject).message⟩

end RegistryReply

private theorem ReleaseFault.ofFailure_eq_other_iff {failure passed : Failure} :
    ofFailure failure = .other passed ↔ failure.kind.isExpected = false ∧ failure = passed := by
  unfold ofFailure
  cases failure.kind <;> simp [FailureKind.isExpected]

private theorem ReleaseFault.ofReadFault_eq_other_iff {fault : Json.ReadFault} {failure : Failure} :
    ofReadFault fault = .other failure ↔
      ∃ inObject, fault = .tooDeep inObject ∧ failure = ⟨.nesting, (Json.ReadFault.tooDeep inObject).message⟩ := by
  cases fault <;> simp [ofReadFault, eq_comm]

namespace LatestRelease

private theorem exists_ofCrate_iff {package : Json.Fields} {version : Text} :
    (∃ release, ofCrate package = some release ∧ release.version = version) ↔
      IsFirstFilled versionFields package version := by
  simp only [ofCrate, Option.map_eq_some_iff, List.find?_eq_some_iff_append, Bool.not_eq_true', IsFirstFilled]
  constructor
  · rintro ⟨_, ⟨name, ⟨hfilled, before, after, hnames, hearlier⟩, rfl⟩, rfl⟩
    exact ⟨before, name, after, hnames, hearlier, hfilled, rfl⟩
  · rintro ⟨before, name, after, hnames, hearlier, hfilled, rfl⟩
    exact ⟨_, ⟨name, ⟨hfilled, before, after, hnames, hearlier⟩, rfl⟩, rfl⟩

private theorem exists_ofJson_iff {value : Json} {version : Text} :
    (∃ release, ofJson value = some release ∧ release.version = version) ↔
      ∃ fields package, value = .obj fields ∧ Json.field fields "crate" = .obj package ∧
        IsFirstFilled versionFields package version := by
  unfold ofJson
  split
  next fields =>
    split
    next package hpackage =>
      rw [exists_ofCrate_iff]
      constructor
      · exact fun h => ⟨fields, package, rfl, hpackage, h⟩
      · rintro ⟨_, _, ⟨⟩, hsame, h⟩
        cases hpackage.symm.trans hsame
        exact h
    next hpackage =>
      refine iff_of_false nofun ?_
      rintro ⟨_, package, ⟨⟩, hsame, _⟩
      exact hpackage package hsame
  next hvalue =>
    refine iff_of_false nofun ?_
    rintro ⟨fields, _, rfl, _⟩
    exact hvalue fields rfl

private theorem ofBody_eq_ok_iff {body : Text} {release : LatestRelease} :
    ofBody body = .ok release ↔
      ∃ value, Json.read LatestRelease.bodyLimit body = .ok value ∧ ofJson value = some release := by
  unfold ofBody
  cases hread : Json.read LatestRelease.bodyLimit body with
  | error fault => simp
  | ok value =>
    cases hfound : ofJson value <;> simp [hfound]

private theorem ofBody_eq_other_iff {body : Text} {failure : Failure} :
    ofBody body = .error (.other failure) ↔
      ∃ inObject, Json.read LatestRelease.bodyLimit body = .error (.tooDeep inObject) ∧
      failure = ⟨.nesting, (Json.ReadFault.tooDeep inObject).message⟩ := by
  unfold ofBody
  cases hread : Json.read LatestRelease.bodyLimit body with
  | error fault => simp [ReleaseFault.ofReadFault_eq_other_iff]
  | ok value =>
    cases hfound : ofJson value <;> simp [hfound]

private theorem isRefused_eq_false_iff {status : Int} : isRefused status = false ↔ status < 400 ∨
    600 ≤ status := by
  simp only [isRefused, Bool.and_eq_false_iff, decide_eq_false_iff_not, Int.not_le, Int.not_lt]

private theorem ofReply_refused {status : Int} (h : ¬(status < 400 ∨ 600 ≤ status)) (body : Text) :
    ofReply (.answered status body) = .error (.requestFailed (toString status : String)) := by
  have hrefused : isRefused status = true := by
    rw [← Bool.not_eq_false, isRefused_eq_false_iff]
    exact h
  rw [ofReply, hrefused]
  rfl

private theorem ofReply_accepted {status : Int} (h : status < 400 ∨ 600 ≤ status) (body : Text) :
    ofReply (.answered status body) = ofBody body := by
  rw [ofReply, isRefused_eq_false_iff.mpr h]
  rfl

private theorem exists_ofReply_iff {reply : RegistryReply} {version : Text} :
    (∃ release, ofReply reply = .ok release ∧ release.version = version) ↔ reply.Tells version := by
  constructor
  · rintro ⟨release, h, hversion⟩
    cases reply with
    | failed failure => cases h
    | answered status body =>
      by_cases haccepted : status < 400 ∨ 600 ≤ status
      · rw [ofReply_accepted haccepted] at h
        obtain ⟨value, hread, hrelease⟩ := ofBody_eq_ok_iff.mp h
        obtain ⟨fields, package, rfl, hpackage, hfirst⟩ := exists_ofJson_iff.mp ⟨release, hrelease, hversion⟩
        exact ⟨haccepted, hread, hpackage, hfirst⟩
      · rw [ofReply_refused haccepted] at h
        cases h
  · rintro ⟨haccepted, hread, hpackage, hfirst⟩
    obtain ⟨release, hrelease, hversion⟩ := exists_ofJson_iff.mpr ⟨_, _, rfl, hpackage, hfirst⟩
    refine ⟨release, ?_, hversion⟩
    rw [ofReply_accepted haccepted]
    exact ofBody_eq_ok_iff.mpr ⟨_, hread, hrelease⟩

private theorem ofReply_eq_other_iff {reply : RegistryReply} {failure : Failure} :
    ofReply reply = .error (.other failure) ↔ reply.Passes failure := by
  constructor
  · intro h
    cases reply with
    | failed met =>
      obtain ⟨hkind, rfl⟩ := ReleaseFault.ofFailure_eq_other_iff.mp (Except.error.inj h)
      exact .failed hkind
    | answered status body =>
      by_cases haccepted : status < 400 ∨ 600 ≤ status
      · rw [ofReply_accepted haccepted] at h
        obtain ⟨inObject, hread, rfl⟩ := ofBody_eq_other_iff.mp h
        exact .nested haccepted hread
      · rw [ofReply_refused haccepted] at h
        cases h
  · rintro (hkind | ⟨haccepted, hread⟩)
    · exact congrArg Except.error (ReleaseFault.ofFailure_eq_other_iff.mpr ⟨hkind, rfl⟩)
    · rw [ofReply_accepted haccepted]
      exact ofBody_eq_other_iff.mpr ⟨_, hread, rfl⟩

private theorem result_fetch (registry : Registry) {client : RegistryClient} {name : Text}
    {request : Request}
    (h : client.request? name = some request) :
    (fetch registry client name).result = .ok ((ofReply (registry request)).map (·.version)) := by
  rw [fetch, h]
  dsimp only
  cases ofReply (registry request) <;> rfl

/-- A lookup asks once and comes to an answer. That is a version if and only if the reply tells of
it; a failure passes if and only if it is none that a client expects; and in all other cases the
fault is one of the registry. -/
theorem fetch_follows_reply (registry : Registry) (client : RegistryClient) (name : String) :
    ∃ request answer, client.request? name = some request ∧
      (fetch registry client name).trace.requests = [request] ∧
      (fetch registry client name).result = .ok answer ∧
      (∀ version, answer = .ok version ↔ (registry request).Tells version) ∧
      (∀ failure, answer = .error (.other failure) ↔ (registry request).Passes failure) ∧
      ((∃ fault, answer = .error fault ∧ fault.IsRefusal) ↔
        (∀ version, ¬(registry request).Tells version) ∧ ∀ failure, ¬(registry request).Passes failure) := by
  obtain ⟨request, hrequest⟩ := client.exists_request? name
  have htells (version : Text) :
      (ofReply (registry request)).map (·.version) = .ok version ↔ (registry request).Tells version := by
    rw [map_eq_ok, exists_ofReply_iff]
  have hpasses (failure : Failure) :
      (ofReply (registry request)).map (·.version) = .error (.other failure) ↔ (registry request).Passes failure := by
    rw [map_eq_error, ofReply_eq_other_iff]
  refine ⟨request, _, hrequest, requests_fetch registry hrequest, result_fetch registry hrequest, htells, hpasses, ?_⟩
  simp only [← htells, ← hpasses]
  cases (ofReply (registry request)).map (·.version) with
  | ok version => simp
  | error fault => simp [ReleaseFault.IsRefusal]

end LatestRelease

end CrateGuard
