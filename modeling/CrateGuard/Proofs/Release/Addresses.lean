import CrateGuard.Proofs.Run
import CrateGuard.Proofs.Text.Percent
import CrateGuard.Proofs.Text.Separation
import CrateGuard.Release.Latest

/-! The addresses at which packages are asked for. An address is that of the registry without the
slashes at its end, one slash, and the name of the package as one segment. Since a segment holds no
slash, the address tells where it begins, and with it the name and the registry. -/

namespace CrateGuard

namespace RegistryClient

structure IsStem (url stem : Text) : Prop where
  slashes : ∃ count, url = stem ++ List.replicate count (.char '/')
  bare : stem.getLast? ≠ some (.char '/')

def SameButSlashes (a b : Text) : Prop :=
  ∃ m n, a ++ List.replicate m (.char '/') = b ++ List.replicate n (.char '/')

private theorem isStem_withoutSlashes (url : Text) : IsStem url (withoutSlashes url) := by
  have hall := List.all_takeWhile (p := (· == CodePoint.char '/')) (l := url.reverse)
  have hrun := List.eq_replicate_iff.mpr ⟨rfl, fun c hc => beq_iff_eq.mp (List.all_eq_true.mp hall c hc)⟩
  constructor
  · refine ⟨(url.reverse.takeWhile (· == .char '/')).length, ?_⟩
    rw [← List.reverse_replicate, ← hrun]
    exact (Text.trimEndOf_append _ url).symm
  · intro hlast
    rw [withoutSlashes, Text.trimEndOf, List.getLast?_reverse] at hlast
    have hkept := List.head?_dropWhile_not (· == CodePoint.char '/') url.reverse
    rw [hlast] at hkept
    cases hkept

private theorem withoutSlashes_append (url : Text) (count : Nat) :
    withoutSlashes (url ++ List.replicate count (.char '/')) = withoutSlashes url := by
  induction count with
  | zero => rw [List.replicate_zero, List.append_nil]
  | succ count ih =>
    rw [List.replicate_succ', ← List.append_assoc]
    exact (Text.trimEndOf_append_dropped _ rfl).trans ih

private theorem withoutSlashes_eq_iff {a b : Text} : withoutSlashes a = withoutSlashes b ↔
    SameButSlashes a b := by
  constructor
  · intro h
    obtain ⟨i, hi⟩ := (isStem_withoutSlashes a).slashes
    obtain ⟨j, hj⟩ := (isStem_withoutSlashes b).slashes
    refine ⟨j, i, ?_⟩
    rw [hi, hj, h, List.append_assoc, List.append_assoc, List.replicate_append_replicate,
      List.replicate_append_replicate, Nat.add_comm]
  · rintro ⟨m, n, h⟩
    rw [← withoutSlashes_append a m, h, withoutSlashes_append]

private theorem url?_of_segment (client : RegistryClient) {name segment : Text}
    (h : Text.percentEncode? name = some segment) :
    client.url? name = some (withoutSlashes client.baseUrl ++ "/" ++ segment) := by
  rw [url?, h]
  rfl

theorem exists_request? (client : RegistryClient) (name : String) :
    ∃ request, client.request? name = some request := by
  obtain ⟨segment, hsegment⟩ := Text.exists_percentEncode? name
  rw [request?, url?_of_segment client hsegment]
  exact ⟨_, rfl⟩

/-- An address is that of one package of one registry. -/
private theorem url?_eq_iff {client other : RegistryClient} {name otherName : String} :
    client.url? name = other.url? otherName ↔ SameButSlashes client.baseUrl other.baseUrl ∧ name = otherName := by
  obtain ⟨segment, hsegment⟩ := Text.exists_percentEncode? name
  obtain ⟨otherSegment, hother⟩ := Text.exists_percentEncode? otherName
  rw [← withoutSlashes_eq_iff]
  constructor
  · intro h
    rw [url?_of_segment client hsegment, url?_of_segment other hother, Option.some.injEq, List.append_assoc,
      List.append_assoc] at h
    have hslash {s t : Text} (hs : Text.percentEncode? s = some t) : .char '/' ∉ t :=
      (Text.percentEncode?_eq_some hs).1.not_mem rfl (by decide) rfl
    obtain ⟨hstems, hsegments⟩ := Text.append_separator_inj (hslash hsegment) (hslash hother) h
    refine ⟨hstems, ?_⟩
    have hread := Text.ofBytes?_percentBytes hsegment
    rw [hsegments, Text.ofBytes?_percentBytes hother, Option.some.injEq] at hread
    exact Text.ofString_inj hread.symm
  · rintro ⟨hstems, rfl⟩
    rw [url?, url?, hstems]

end RegistryClient

namespace LatestRelease

/-- A package with an address is asked for once, there. -/
theorem requests_fetch (registry : Registry) {client : RegistryClient} {name : Text}
    {request : Request}
    (h : client.request? name = some request) : (fetch registry client name).trace.requests = [request] := by
  rw [fetch, h]
  dsimp only
  cases ofReply (registry request) <;> rfl

private theorem urls_fetch (registry : Registry) (client : RegistryClient) (name : String) :
    (fetch registry client name).trace.requests.map Request.url = (client.url? name).toList := by
  obtain ⟨request, hrequest⟩ := client.exists_request? name
  rw [requests_fetch registry hrequest]
  obtain ⟨url, hurl, rfl⟩ := Option.map_eq_some_iff.mp hrequest
  rw [hurl]
  rfl

/-- A package is asked for at one address: that of the registry without slashes at its end, a slash,
and a segment that stands for the name and cannot end before its end. Another name has another
address, and so has another registry, unless the two are the same but for slashes at their ends. -/
theorem package_has_own_address (registry : Registry) (client : RegistryClient) (name : String) :
    ∃ stem segment : Text,
      (fetch registry client name).trace.requests.map Request.url = [stem ++ "/" ++ segment] ∧
      RegistryClient.IsStem client.baseUrl stem ∧
      Text.IsSegment segment ∧
      Text.ofBytes? ⟨(Text.percentBytes segment).toArray⟩ = some name ∧
      (.char '/' ∉ segment ∧ .char '?' ∉ segment ∧ .char '#' ∉ segment) ∧
      ∀ (elsewhere : Registry) (other : RegistryClient) (otherName : String),
        (fetch elsewhere other otherName).trace.requests.map Request.url = [stem ++ "/" ++ segment] ↔
          RegistryClient.SameButSlashes client.baseUrl other.baseUrl ∧ name = otherName := by
  obtain ⟨segment, hsegment⟩ := Text.exists_percentEncode? name
  have hgrammar := (Text.percentEncode?_eq_some hsegment).1
  have hurl := client.url?_of_segment hsegment
  refine ⟨RegistryClient.withoutSlashes client.baseUrl, segment, ?_, RegistryClient.isStem_withoutSlashes _,
    hgrammar, Text.ofBytes?_percentBytes hsegment, ⟨?_, ?_, ?_⟩, ?_⟩
  · rw [urls_fetch, hurl]
    rfl
  · exact hgrammar.not_mem rfl (by decide) rfl
  · exact hgrammar.not_mem rfl (by decide) rfl
  · exact hgrammar.not_mem rfl (by decide) rfl
  · intro elsewhere other otherName
    rw [urls_fetch, ← RegistryClient.url?_eq_iff, hurl]
    cases other.url? otherName with
    | none => exact iff_of_false nofun nofun
    | some url => simp [eq_comm]

end LatestRelease

end CrateGuard
