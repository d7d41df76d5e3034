import DidRegistry.Proofs.Outcome
import DidRegistry.Proofs.Schema
import DidRegistry.Settings.Basic

/-!
# Settings that an object gives

What is known of the settings of a publisher that were read from an object: each of them is a member of that
object, or the default where there is none, and the members meet the schema.  The schema takes a number with
a fraction of zero for a whole one, and leaves it a binary number.

## Results

* `PublisherSettings.givenBy_of_ofJson` — where every setting comes from.
* `numberSetting_real`, `numberSetting_whole` — a number that is set is a binary one exactly when it is
  given as one; otherwise it is a whole number that is not below its bound.
* `PublisherSettings.GivenBy.contract_fits` — the contract is a text that fits the pattern.
-/

set_option autoImplicit false

namespace DidRegistry

theorem Entries.members_ofJson (ms : Json.Members) :
    Entries.members (ms.map fun m => (.str m.1, m.2)) = ms := by
  unfold members
  rw [List.filterMap_map]
  exact List.filterMap_some

theorem Setting.check_obj {schema : Schema} {what : String} {ms ms' : Json.Members}
    (h : check schema what (.obj ms) = .ok ms') : ms' = ms ∧ schema.faults [] (.obj ms) = [] := by
  unfold check at h
  simp only [Entries.ofJson] at h
  split at h
  · rename_i hfault
    have hfits := Schema.firstFault_eq_none_iff.mp (Schema.firstFaultOf_eq_none hfault)
    rw [Entries.members_ofJson] at h hfits
    exact ⟨(Except.ok.inj h).symm, hfits⟩
  · cases h

/-! ## Numbers that are set -/

variable {ms : Json.Members} {key : String} {n : Number}

/-- A number that is set is a binary one exactly when it is given as one. -/
theorem numberSetting_real {k : Int} (h : numberSetting ms key (.int k) = .ok n) (x : Binary64) :
    n = .real x ↔ ms.get? key = some (.real x) := by
  unfold numberSetting at h
  split at h
  · rename_i hm
    cases h
    simp [hm]
  · rename_i v hm
    rw [hm]
    cases v with
    | int | bool | real => cases h; simp
    | _ => cases h

/-- A number that is set within its bound, and not as a binary one, is a whole number. -/
theorem numberSetting_whole {k least : Int} {path : List String}
    (hdefault : least ≤ k)
    (hfits : ∀ v, ms.get? key = some v → Schema.faults path (.integer (.least least)) v = [])
    (h : numberSetting ms key (.int k) = .ok n) (hreal : ∀ x, n ≠ .real x) :
    ∃ l, n = .int l ∧ least ≤ l := by
  unfold numberSetting at h
  split at h
  · cases h
    exact ⟨k, rfl, hdefault⟩
  · rename_i v hm
    rcases Schema.integer_fits (hfits v hm) with ⟨l, rfl, hl⟩ | ⟨x, rfl⟩
    · cases h
      exact ⟨l, rfl, hl⟩
    · cases h
      exact absurd rfl (hreal x)

namespace PublisherSettings

open Setting

/-- Where settings come from that an object with these members gives. -/
structure GivenBy (ms : Json.Members) (c : PublisherSettings) : Prop where
  fits : publisherSchema.faults [] (.obj ms) = []
  url : ms.get? "rpc_url" = some c.url
  contract : ms.get? "contract_address" = some c.contract
  price : numberSetting ms "fee_price" Fees.defaultPrice = .ok c.fees.price
  limit : numberSetting ms "fee_limit" Fees.defaultLimit = .ok c.fees.limit
  maxPolls : numberSetting ms "max_wait_attempts" defaultPolls = .ok c.maxPolls
  pollInterval : (numberSetting ms "wait_interval" defaultInterval).bind binary = .ok c.pollInterval
  depth : numberSetting ms "wait_for_confirms" defaultDepth = .ok c.depth
  timeout : ((numberSetting ms "rpc_timeout" defaultTimeout).bind binary).map .ofNumber = .ok c.timeout
  sensible : c.checked = .ok c

theorem required_eq_ok {x : Json} (h : required ms key = .ok x) : ms.get? key = some x := by
  unfold required at h
  split at h
  · cases h
    assumption
  · cases h

theorem make_eq_ok {price limit : Number} {fees : Fees} (h : Fees.make price limit = .ok fees) :
    fees = ⟨price, limit⟩ := by
  unfold Fees.make at h
  split at h
  · cases h
  · split at h
    · cases h
    · exact (Except.ok.inj h).symm

theorem checked_eq_ok {c d : PublisherSettings} (h : c.checked = .ok d) : d = c := by
  unfold checked at h
  split at h
  · cases h
  split at h
  · cases h
  split at h
  · cases h
  · exact (Except.ok.inj h).symm

/-- **Where every setting comes from.** -/
theorem givenBy_of_ofJson {v : Json} {c : PublisherSettings} (hv : ofJson v = .ok c) :
    ∃ ms, v = .obj ms ∧ GivenBy ms c := by
  obtain ⟨ms', hms, h⟩ := bind_eq_ok.mp hv
  split at h
  · obtain ⟨rfl, hfits⟩ := check_obj hms
    unfold ofMembers at h
    obtain ⟨price, hprice, h⟩ := bind_eq_ok.mp h
    obtain ⟨limit, hlimit, h⟩ := bind_eq_ok.mp h
    obtain ⟨fees, hfees, h⟩ := bind_eq_ok.mp h
    obtain ⟨url, hurl, h⟩ := bind_eq_ok.mp h
    obtain ⟨contract, hcontract, h⟩ := bind_eq_ok.mp h
    obtain ⟨maxPolls, hpolls, h⟩ := bind_eq_ok.mp h
    obtain ⟨interval, hinterval, h⟩ := bind_eq_ok.mp h
    obtain ⟨interval', hinterval', h⟩ := bind_eq_ok.mp h
    obtain ⟨depth, hdepth, h⟩ := bind_eq_ok.mp h
    obtain ⟨timeout, htimeout, h⟩ := bind_eq_ok.mp h
    obtain ⟨timeout', htimeout', h⟩ := bind_eq_ok.mp h
    cases make_eq_ok hfees
    obtain rfl := checked_eq_ok h
    exact ⟨_, rfl, hfits, required_eq_ok hurl, required_eq_ok hcontract, hprice, hlimit, hpolls,
      bind_eq_ok.mpr ⟨interval, hinterval, hinterval'⟩, hdepth,
      map_eq_ok.mpr ⟨timeout', bind_eq_ok.mpr ⟨timeout, htimeout, htimeout'⟩, rfl⟩, h⟩
  · cases h

namespace GivenBy

variable {c : PublisherSettings}

theorem member_fits (h : GivenBy ms c) {schema : Schema} {properties : List (String × Schema)}
    {names : List String} {isClosed : Bool}
    (hschema : publisherSchema = .object names isClosed properties)
    (hp : (key, schema) ∈ properties) {x : Json} (hx : ms.get? key = some x) :
    schema.faults [key] x = [] := by
  have hfits := h.fits
  rw [hschema] at hfits
  obtain ⟨ms', hms, -, hmembers⟩ := Schema.object_fits hfits
  cases hms
  exact hmembers _ hp x hx

/-- The contract is a text that fits the pattern. -/
theorem contract_fits (h : GivenBy ms c) : ∃ t, c.contract = .str t ∧ fitsContract t.chars = true :=
  Schema.pattern_fits (h.member_fits rfl (.tail _ (.head _)) h.contract)

theorem price_whole (h : GivenBy ms c) (hreal : ∀ x, c.fees.price ≠ .real x) :
    ∃ n, c.fees.price = .int n ∧ 0 ≤ n :=
  numberSetting_whole (by decide) (fun _ => h.member_fits rfl (.tail _ (.tail _ (.head _)))) h.price hreal

theorem limit_whole (h : GivenBy ms c) (hreal : ∀ x, c.fees.limit ≠ .real x) :
    ∃ n, c.fees.limit = .int n ∧ 21000 ≤ n :=
  numberSetting_whole (by decide) (fun _ => h.member_fits rfl (.tail _ (.tail _ (.tail _ (.head _)))))
    h.limit hreal

theorem maxPolls_least (h : GivenBy ms c) : c.maxPolls.lt (.int 1) = false := by
  have hs := h.sensible
  unfold checked at hs
  split at hs
  · cases hs
  · rename_i hlt
    exact Bool.eq_false_iff.mpr hlt

end GivenBy

end PublisherSettings

end DidRegistry
