import DidRegistry.Publisher.Basic
import DidRegistry.Proofs.Ledger.CallData
import DidRegistry.Proofs.Ledger.Submission

/-!
# Planning and submitting

Before anything is sent, a payload and two addresses are looked at; after that there is one
submission, and its answer decides whether there is a hash to wait for.

## Results

* `Publisher.plan_of_isSendable`, `Publisher.plan_of_not_isSendable` — **a call is planned exactly for a
  payload that is UTF-8 and not empty, between two addresses**; anything else is a value error.
* `Publisher.submit_eq`, `Publisher.verdict_of_accepted`, `Publisher.verdict_of_not_accepted` — a
  submission gives the hash under which it was accepted, or else a submission error.
-/

set_option autoImplicit false

namespace DidRegistry

namespace Publisher

/-- What has to hold of a payload and of the two addresses for a call to be sent. -/
structure IsSendable [Platform] (p : Publisher) (payload : List UInt8) : Prop where
  nonempty : payload ≠ []
  utf8 : (Text.Utf8.decode payload).isSome
  sender : (Address.ofJson? (.str p.account.toText)).isSome
  contract : (Address.ofJson? p.settings.contract).isSome

/-! ## Call data of a payload -/

theorem encodeByte_ne_nil (b : UInt8) : Text.Hex.encodeByte b ≠ [] := by
  simp [Text.Hex.encodeByte]

theorem hexOf_bytes_ne_nil {payload : List UInt8} (h : payload ≠ []) :
    Text.Hex.encode (CallData.bytes payload) ≠ [] := by
  obtain ⟨b, hb⟩ := List.exists_mem_of_ne_nil payload h
  have hm : b ∈ CallData.bytes payload := by
    simp only [CallData.bytes, List.mem_append]
    exact .inl (.inr hb)
  intro he
  exact encodeByte_ne_nil b (List.flatMap_eq_nil_iff.mp he b hm)

theorem dataOf_marked {digits : List Char} (h : digits ≠ []) :
    RegistryCall.dataOf (.str ("0x" ++ String.ofList digits : String)) =
      .ok ("0x" ++ String.ofList digits : String) := by
  obtain ⟨c, r, rfl⟩ := List.exists_cons_of_ne_nil h
  simp only [RegistryCall.dataOf, Text.ofString, Text.chars_ofChars, String.toList_append,
    String.toList_ofList]
  rfl

theorem dataOf_encode {payload : List UInt8} {data : String}
    (h : CallData.encode payload = .ok data) : RegistryCall.dataOf (.str data) = .ok data := by
  unfold CallData.encode at h
  split at h
  · cases h
  · rename_i hn
    split at h
    · cases h
    · have hd : payload ≠ [] := by simpa using hn
      rw [← Except.ok.inj h]
      exact dataOf_marked (hexOf_bytes_ne_nil hd)

/-! ## Planning -/

/-- A call is planned for what can be sent. -/
theorem plan_of_isSendable [Platform] {p : Publisher} {payload : List UInt8} (h : p.IsSendable payload) :
    ∃ call, p.plan payload = .ok call := by
  obtain ⟨data, hd⟩ := CallData.encode_isOk_iff.mpr ⟨h.nonempty, h.utf8⟩
  obtain ⟨caller, hs⟩ := Option.isSome_iff_exists.mp h.sender
  obtain ⟨callee, hc⟩ := Option.isSome_iff_exists.mp h.contract
  refine ⟨⟨caller, callee, data, p.settings.fees⟩, ?_⟩
  unfold plan
  rw [hd]
  simp only [RegistryCall.plan, hs, hc, dataOf_encode hd]
  rfl

/-- **Anything else is a value error.** -/
theorem plan_of_not_isSendable [Platform] {p : Publisher} {payload : List UInt8}
    (h : ¬ p.IsSendable payload) :
    ∃ e, p.plan payload = .error e ∧ e.report.kind = .value := by
  unfold plan
  cases hd : CallData.encode payload with
  | error e =>
    refine ⟨.payload e, rfl, ?_⟩
    cases e <;> rfl
  | ok data =>
    obtain ⟨hn, hu⟩ := CallData.encode_isOk_iff.mp ⟨data, hd⟩
    cases hs : Address.ofJson? (.str p.account.toText) with
    | none => refine ⟨.call (.sender _), by simp only [RegistryCall.plan, hs]; rfl, Report.kind_showing rfl _⟩
    | some caller =>
      cases hc : Address.ofJson? p.settings.contract with
      | none => refine ⟨.call (.contract _), by simp only [RegistryCall.plan, hs, hc]; rfl,
        Report.kind_showing rfl _⟩
      | some callee => exact absurd ⟨hn, hu, by rw [hs]; rfl, by rw [hc]; rfl⟩ h

theorem plan_fees [Platform] {p : Publisher} {payload : List UInt8} {call : RegistryCall}
    (h : p.plan payload = .ok call) :
    call.fees = p.settings.fees := by
  unfold plan at h
  split at h
  · cases h
  · have hc := mapError_eq_ok.mp h
    unfold RegistryCall.plan at hc
    split at hc
    · cases hc
    · split at hc
      · cases hc
      · obtain ⟨d, -, rfl⟩ := map_eq_ok.mp hc
        rfl

/-! ## Submitting -/

/-- What the answer to a submission comes to: the hash of the transaction, or why there is none. -/
def verdict (memo : Json) : Attempt Json → Except PublishError Json
  | .error b => .error (.sendBroken memo b)
  | .ok ⟨_, some e⟩ => .error (.sendFailed memo e)
  | .ok ⟨none, none⟩ => .error .noHash
  | .ok ⟨some hash, none⟩ => if hash.isPresent then .ok hash else .error .noHash

theorem submit_eq (p : Publisher) (call : RegistryCall) (memo : Json) :
    p.submit call memo = (p.ledger.send (.obj call.toMembers)).bind fun a => .done (verdict memo a) := by
  refine congrArg (Dialogue.bind _) (funext fun a => ?_)
  unfold verdict
  split
  · rfl
  · rfl
  · rfl
  · rename_i hash
    by_cases hp : hash.isPresent <;> simp [hp]

theorem verdict_of_accepted (memo : Json) {a : Attempt Json} {hash : Json}
    (h : Attempt.accepted? a = some hash) : verdict memo a = .ok hash := by
  unfold Attempt.accepted? at h
  split at h
  · rename_i given
    split at h
    · rename_i hp
      cases h
      simp [verdict, hp]
    · cases h
  · cases h

theorem verdict_of_not_accepted (memo : Json) {a : Attempt Json} (h : Attempt.accepted? a = none) :
    ∃ e, verdict memo a = .error e ∧ e.report.kind = .submission := by
  unfold verdict
  split
  · exact ⟨_, rfl, rfl⟩
  · exact ⟨_, rfl, rfl⟩
  · exact ⟨_, rfl, rfl⟩
  · rename_i hash
    by_cases hp : hash.isPresent
    · simp [Attempt.accepted?, hp] at h
    · exact ⟨.noHash, by simp [hp], rfl⟩

/-- Publishes what was planned. -/
def publishPlan (p : Publisher) (plan : Except PublishError RegistryCall) (memo : Json) :
    Dialogue (Except PublishError Publication) := do
  match plan with
  | .error e => return .error e
  | .ok call =>
    match ← p.submit call memo with
    | .error e => return .error e
    | .ok hash =>
      Dialogue.remember hash
      p.awaitAll hash

theorem publish_eq_publishPlan [Platform] (p : Publisher) (payload : List UInt8) (memo : Json) :
    p.publish payload memo = p.publishPlan (p.plan payload) memo := rfl

/-- Publishing a call: one submission, and then a wait under the hash that it gives. -/
theorem publishPlan_ok (p : Publisher) (call : RegistryCall) (memo : Json) :
    p.publishPlan (.ok call) memo = (p.ledger.send (.obj call.toMembers)).bind fun a =>
      match verdict memo a with
      | .error e => .done (.error e)
      | .ok hash => .ask (.remember hash) fun _ => p.awaitAll hash := by
  unfold publishPlan
  simp only [Dialogue.bind_eq, submit_eq, Dialogue.bind_assoc]
  refine congrArg (Dialogue.bind _) (funext fun a => ?_)
  simp only [Dialogue.bind]
  cases verdict memo a <;> rfl

theorem publish_eq [Platform] {p : Publisher} {payload : List UInt8} {call : RegistryCall}
    (h : p.plan payload = .ok call) (memo : Json) :
    p.publish payload memo = (p.ledger.send (.obj call.toMembers)).bind fun a =>
      match verdict memo a with
      | .error e => .done (.error e)
      | .ok hash => .ask (.remember hash) fun _ => p.awaitAll hash := by
  rw [publish_eq_publishPlan, h, publishPlan_ok]

theorem publish_of_error [Platform] {p : Publisher} {payload : List UInt8} {e : PublishError}
    (h : p.plan payload = .error e) (memo : Json) : p.publish payload memo = .done (.error e) := by
  rw [publish_eq_publishPlan, h]
  rfl

end Publisher

end DidRegistry
